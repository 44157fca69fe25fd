import StabilityPlatform.Lib.Run

/-!
# Registering artifacts

Files that were pulled from a device are registered with the control plane, which only reads a
shared root. A worker takes one submission after another and first copies the file below the root,
to a place named after the job and the base name of the file; a file that is there already is taken
for the copy. A copy may stop at any byte, and the process may die at any moment.

## Main results

* `UploaderWorld.step`: one moment of the worker, of a caller or of anyone else.
* `Right`: **a registration names the file** that was submitted.
* `getLast?_composeLocalPath`: files of one job in different places may share their base name.
* `registrations_right_iff`: **all registrations of a run are right** exactly when what the worker
  finds at the place of a copy is always the file itself.
-/

namespace StabilityPlatform.ArtifactUpload

open Lib

/-! ### The uploader -/

/-- A path, as its names from the root down. -/
abbrev FilePath := List String

/-- What is at a path. -/
inductive Entry where
  | dir
  | file (content : List UInt8)
  deriving DecidableEq

/-- `_ArtifactJob`. -/
structure ArtifactJob where
  jobId : ℤ
  artifactType : String
  storageUri : FilePath
  fencingToken : String
  deviceSerial : String
  sizeBytes : Option ℤ
  checksum : Option String
  sourceCategory : Option String
  sourcePathOnDevice : Option String
  deriving DecidableEq

/-- What an uploader is configured with. -/
structure UploaderConfig where
  /-- `_aee_shared_root`. -/
  sharedRoot : Option FilePath
  queueMaxsize : ℕ
  hostId : String
  agentInstanceId : String

/-- What is posted, with what was found when it was. -/
structure Registration where
  job : ArtifactJob
  source : Option Entry
  found : Option Entry
  deriving DecidableEq

/-- What the worker is about. -/
inductive WorkerPhase where
  | idle
  | copying (job : ArtifactJob) (dest : FilePath) (content : List UInt8) (written : ℕ)
  deriving DecidableEq

/-- The uploader, the files around it and what has been posted. -/
structure UploaderWorld where
  files : FilePath → Option Entry
  queue : List ArtifactJob
  worker : WorkerPhase
  registered : List Registration

/-- What happens next. -/
inductive UploaderAction where
  | submit (job : ArtifactJob)
  | put (path : FilePath) (entry : Option Entry)
  | take (mkdirFails : Bool)
  | write (n : ℕ)
  | fail
  | finish
  | crash
  deriving DecidableEq

/-- `resolve_artifact_promote_dir`. -/
def resolveArtifactPromoteDir (root : FilePath) (jobId : ℤ) : FilePath :=
  root ++ ["jobs", toString jobId]

/-- `dest`. -/
def promoteDest (root : FilePath) (job : ArtifactJob) : FilePath :=
  resolveArtifactPromoteDir root job.jobId ++ [job.storageUri.getLast?.getD ""]

/-- Whether a submission has all that is required. -/
def ArtifactJob.isValid (cfg : UploaderConfig) (job : ArtifactJob) : Bool :=
  job.storageUri ≠ [] && job.artifactType ≠ "" && job.jobId ≠ 0 && job.fencingToken ≠ "" &&
    job.deviceSerial ≠ "" && cfg.hostId ≠ "" && cfg.agentInstanceId ≠ ""

namespace UploaderWorld

/-- Before any submission. -/
def start (files : FilePath → Option Entry) : UploaderWorld := ⟨files, [], .idle, []⟩

/-- A submission is posted with a path. -/
def register (w : UploaderWorld) (job : ArtifactJob) (uri : FilePath) (source : Option Entry) :
    UploaderWorld :=
  { w with registered :=
      w.registered ++ [⟨{ job with storageUri := uri }, source, w.files uri⟩] }

/-- `_post_one` up to where the copy begins, if there is one to make. -/
def promoteToShared (cfg : UploaderConfig) (mkdirFails : Bool) (w : UploaderWorld)
    (job : ArtifactJob) : UploaderWorld :=
  let source := w.files job.storageUri
  match cfg.sharedRoot with
  | none => w.register job job.storageUri source
  | some root =>
    if root.isPrefixOf job.storageUri then w.register job job.storageUri source
    else
      match source with
      | some (.file content) =>
        let dest := promoteDest root job
        if (w.files dest).isSome then w.register job dest source
        else if mkdirFails then w
        else { w with
          files := Function.update w.files dest (some (.file []))
          worker := .copying job dest content 0 }
      | _ => w

/-- **One moment.** -/
def step (cfg : UploaderConfig) (w : UploaderWorld) : UploaderAction → Option UploaderWorld
  | .submit job => some
      (if job.isValid cfg ∧ w.queue.length < cfg.queueMaxsize then
        { w with queue := w.queue ++ [job] }
      else w)
  | .put path entry =>
    match w.worker with
    | .copying _ dest _ _ =>
      if path = dest then none
      else some { w with files := Function.update w.files path entry }
    | .idle => some { w with files := Function.update w.files path entry }
  | .take mkdirFails =>
    match w.worker, w.queue with
    | .idle, job :: queue => some ({ w with queue := queue }.promoteToShared cfg mkdirFails job)
    | _, _ => none
  | .write n =>
    match w.worker with
    | .copying job dest content written => some { w with
        files := Function.update w.files dest (some (.file (content.take (written + n))))
        worker := .copying job dest content (written + n) }
    | .idle => none
  | .fail =>
    match w.worker with
    | .copying _ _ _ _ => some { w with worker := .idle }
    | .idle => none
  | .finish =>
    match w.worker with
    | .copying job dest content written =>
      if content.length ≤ written then
        some ({ w with worker := .idle }.register job dest (some (.file content)))
      else none
    | .idle => none
  | .crash => some { w with queue := [], worker := .idle }

/-- The step relation. -/
def Step (cfg : UploaderConfig) (w : UploaderWorld) (a : UploaderAction) (w' : UploaderWorld) :
    Prop :=
  w.step cfg a = some w'

end UploaderWorld

/-! ### Where files are pulled to -/

/-- The characters of a file name that are kept. -/
def isSafeChar (c : Char) : Bool := c.isAlphanum || c = '.' || c = '_' || c = '-'

/-- `safe_name`. -/
def safeName (filename : String) : String :=
  let name := String.ofList (filename.toList.map fun c => if isSafeChar c then c else '_')
  if name = "" then "unnamed" else name

/-- `_CATEGORY_TO_SONIC_SUBDIR`, with the default. -/
def sonicSubdir (category : String) : String :=
  (([("AEE", "aee_exp"), ("VENDOR_AEE", "vendor_aee_exp"), ("MOBILELOG", "mobilelog"),
    ("ANR", "anr")] : List (String × String)).lookup category).getD
      (String.ofList (category.toList.map Char.toLower))

/-- `LogPuller._compose_local_path`. -/
def composeLocalPath (sonicOutputDir : Option FilePath) (nfsBaseDir : FilePath) (jobId : ℤ)
    (category : String) (epochMs : ℤ) (filename : String) : FilePath :=
  let name := toString epochMs ++ "_" ++ safeName filename
  match sonicOutputDir with
  | some dir => dir ++ [sonicSubdir category] ++ [name]
  | none => nfsBaseDir ++ ["jobs", toString jobId, category] ++ [name]

/-! ### Right registrations -/

/-- **A registration names the file that was submitted**: with a shared root, a file below it with
the content the submitted file had. -/
def Right (cfg : UploaderConfig) (r : Registration) : Prop :=
  ∀ root ∈ cfg.sharedRoot, root <+: r.job.storageUri ∧
    ∃ content, r.source = some (.file content) ∧ r.found = some (.file content)

/-- What is posted so far is right. -/
def AllRight (cfg : UploaderConfig) (w : UploaderWorld) : Prop := ∀ r ∈ w.registered, Right cfg r

/-- What the worker finds of a submission fits: below the root there is a file, and at the place of
a copy nothing or the file itself. -/
def Fits (root : FilePath) (w : UploaderWorld) (job : ArtifactJob) : Prop :=
  if root.isPrefixOf job.storageUri = true then
    ∃ content, w.files job.storageUri = some (.file content)
  else ∀ content, w.files job.storageUri = some (.file content) →
    ∀ entry ∈ w.files (promoteDest root job), entry = .file content

/-- The side condition of a step: what the worker takes fits. -/
def TakesFitting (cfg : UploaderConfig) (w : UploaderWorld) : UploaderAction → Prop
  | .take _ => ∀ root ∈ cfg.sharedRoot, ∀ job ∈ w.queue.head?, Fits root w job
  | _ => True

/-- Whether there is a file can be computed. -/
instance decidableIsFile (found : Option Entry) :
    Decidable (∃ content, found = some (.file content)) :=
  match found with
  | some (.file content) => .isTrue ⟨content, rfl⟩
  | some .dir => .isFalse nofun
  | none => .isFalse nofun

/-- Whether something is the file itself can be computed. -/
instance decidableIsSame (source found : Option Entry) :
    Decidable (∀ content, source = some (.file content) → ∀ entry ∈ found, entry = .file content) :=
  match source with
  | some (.file content) =>
    decidable_of_iff (∀ entry ∈ found, entry = .file content)
      ⟨fun h _ heq => by cases heq; exact h, fun h => h content rfl⟩
  | some .dir => .isTrue nofun
  | none => .isTrue nofun

/-- Whether a submission fits can be computed. -/
instance decidableFits (root : FilePath) (w : UploaderWorld) (job : ArtifactJob) :
    Decidable (Fits root w job) :=
  inferInstanceAs (Decidable (if root.isPrefixOf job.storageUri = true then _ else _))

/-- Whether the worker takes what fits can be computed. -/
instance decidableTakesFitting (cfg : UploaderConfig) (w : UploaderWorld) :
    (a : UploaderAction) → Decidable (TakesFitting cfg w a)
  | .take _ => inferInstanceAs (Decidable
      (∀ root ∈ cfg.sharedRoot, ∀ job ∈ w.queue.head?, Fits root w job))
  | .submit _ => .isTrue trivial
  | .put _ _ => .isTrue trivial
  | .write _ => .isTrue trivial
  | .fail => .isTrue trivial
  | .finish => .isTrue trivial
  | .crash => .isTrue trivial

/-- While a copy is made, what is written of it is at its place. -/
def CopyInPlace (cfg : UploaderConfig) (w : UploaderWorld) : Prop :=
  match w.worker with
  | .idle => True
  | .copying job dest content written =>
    (∀ root ∈ cfg.sharedRoot, dest = promoteDest root job) ∧
      w.files dest = some (.file (content.take written))

variable {cfg : UploaderConfig} {w : UploaderWorld}

/-- The place of a copy is below the root. -/
theorem prefix_promoteDest (root : FilePath) (job : ArtifactJob) : root <+: promoteDest root job := by
  rw [promoteDest, resolveArtifactPromoteDir, List.append_assoc]
  exact List.prefix_append _ _

/-- What is posted is right when the last registration is. -/
theorem allRight_register {job : ArtifactJob} {uri : FilePath} {source : Option Entry}
    (h : AllRight cfg w) : AllRight cfg (w.register job uri source) ↔
      Right cfg ⟨{ job with storageUri := uri }, source, w.files uri⟩ := by
  rw [AllRight, UploaderWorld.register, List.forall_mem_append, List.forall_mem_singleton]
  exact and_iff_right h

/-- **What the worker takes is posted rightly** exactly when it fits. -/
theorem allRight_promote_iff (h : AllRight cfg w) (mkdirFails : Bool) (job : ArtifactJob) :
    AllRight cfg (w.promoteToShared cfg mkdirFails job) ↔
      ∀ root ∈ cfg.sharedRoot, Fits root w job := by
  rw [UploaderWorld.promoteToShared]
  cases hroot : cfg.sharedRoot with
  | none =>
      rw [allRight_register h, Right, hroot]
      exact iff_of_true (fun _ hmem => by cases hmem) fun _ hmem => by cases hmem
  | some root =>
      have hforall : (∀ root' ∈ some root, Fits root' w job) ↔ Fits root w job :=
        ⟨fun hall => hall root rfl, fun hfits _ hmem => Option.some.inj hmem ▸ hfits⟩
      have hright : ∀ r : Registration, Right cfg r ↔ root <+: r.job.storageUri ∧
          ∃ content, r.source = some (.file content) ∧ r.found = some (.file content) := by
        intro r
        rw [Right, hroot]
        exact ⟨fun hall => hall root rfl, fun hr _ hmem => Option.some.inj hmem ▸ hr⟩
      rw [hforall, Fits]
      dsimp only
      by_cases hprefix : root.isPrefixOf job.storageUri = true
      · rw [if_pos hprefix, if_pos hprefix, allRight_register h, hright]
        constructor
        · rintro ⟨-, content, hsource, -⟩
          exact ⟨content, hsource⟩
        · rintro ⟨content, hsource⟩
          exact ⟨List.isPrefixOf_iff_prefix.mp hprefix, content, hsource, hsource⟩
      · rw [if_neg hprefix, if_neg hprefix]
        cases hsource : w.files job.storageUri with
        | none => exact iff_of_true h fun content hcontent => by cases hcontent
        | some entry =>
            cases entry with
            | dir => exact iff_of_true h fun content hcontent => by cases hcontent
            | file content =>
                dsimp only
                cases hdest : w.files (promoteDest root job) with
                | none =>
                    rw [Option.isSome_none, if_neg Bool.false_ne_true]
                    refine iff_of_true ?_ fun _ _ entry hentry => by cases hentry
                    split
                    · exact h
                    · exact h
                | some entry =>
                    rw [Option.isSome_some, if_pos rfl, allRight_register h, hright, hdest]
                    constructor
                    · rintro ⟨-, content', hsame, hfound⟩ content'' heq entry' hentry'
                      cases hentry'
                      cases heq
                      cases hsame
                      exact Option.some.inj hfound
                    · intro hfits
                      exact ⟨prefix_promoteDest root job, content, rfl,
                        congrArg some (hfits content rfl entry rfl)⟩

/-- Taking a submission keeps copies in place. -/
theorem copyInPlace_promote (h : w.worker = .idle) (mkdirFails : Bool) (job : ArtifactJob) :
    CopyInPlace cfg (w.promoteToShared cfg mkdirFails job) := by
  have hkeep : CopyInPlace cfg w := by
    rw [CopyInPlace, h]
    trivial
  rw [UploaderWorld.promoteToShared]
  cases hroot : cfg.sharedRoot with
  | none => exact hkeep
  | some root =>
      dsimp only
      split
      · exact hkeep
      · split
        · split
          · exact hkeep
          · split
            · exact hkeep
            · refine ⟨fun root' hmem => ?_, Function.update_self ..⟩
              rw [hroot] at hmem
              rw [Option.some.inj hmem]
        · exact hkeep

/-- **Copies stay in place** in every step. -/
theorem CopyInPlace.step (h : CopyInPlace cfg w) {a : UploaderAction} {w' : UploaderWorld}
    (hstep : w.Step cfg a w') : CopyInPlace cfg w' := by
  rw [UploaderWorld.Step] at hstep
  cases a with
  | submit job =>
      obtain rfl := Option.some.inj hstep
      split
      · exact h
      · exact h
  | put path entry =>
      rw [UploaderWorld.step] at hstep
      rw [CopyInPlace] at h
      cases hworker : w.worker with
      | idle =>
          rw [hworker] at hstep
          obtain rfl := Option.some.inj hstep
          rw [CopyInPlace]
          simp only
      | copying job dest content written =>
          rw [hworker] at hstep h
          obtain ⟨hne, hsome⟩ := Option.ite_none_left_eq_some.mp hstep
          obtain rfl := Option.some.inj hsome
          rw [CopyInPlace]
          simp only
          exact ⟨h.1, (Function.update_of_ne (Ne.symm hne) ..).trans h.2⟩
  | take mkdirFails =>
      rw [UploaderWorld.step] at hstep
      split at hstep
      · rename_i job queue hworker hqueue
        obtain rfl := Option.some.inj hstep
        exact @copyInPlace_promote cfg { w with queue := queue } hworker mkdirFails job
      · cases hstep
  | write n =>
      rw [UploaderWorld.step] at hstep
      split at hstep
      · rename_i job dest content written hworker
        obtain rfl := Option.some.inj hstep
        rw [CopyInPlace, hworker] at h
        exact ⟨h.1, Function.update_self ..⟩
      · cases hstep
  | fail =>
      rw [UploaderWorld.step] at hstep
      split at hstep
      · obtain rfl := Option.some.inj hstep
        trivial
      · cases hstep
  | finish =>
      rw [UploaderWorld.step] at hstep
      split at hstep
      · obtain ⟨-, hsome⟩ := Option.ite_none_right_eq_some.mp hstep
        obtain rfl := Option.some.inj hsome
        trivial
      · cases hstep
  | crash =>
      obtain rfl := Option.some.inj hstep
      trivial

/-- **What a step posts is right** exactly when what the worker takes fits. -/
theorem allRight_step_iff (hcopy : CopyInPlace cfg w) (h : AllRight cfg w) {a : UploaderAction}
    {w' : UploaderWorld} (hstep : w.Step cfg a w') : AllRight cfg w' ↔ TakesFitting cfg w a := by
  rw [UploaderWorld.Step] at hstep
  cases a with
  | submit job =>
      obtain rfl := Option.some.inj hstep
      refine iff_of_true ?_ trivial
      split
      · exact h
      · exact h
  | put path entry =>
      refine iff_of_true ?_ trivial
      rw [UploaderWorld.step] at hstep
      split at hstep
      · obtain ⟨-, hsome⟩ := Option.ite_none_left_eq_some.mp hstep
        obtain rfl := Option.some.inj hsome
        exact h
      · obtain rfl := Option.some.inj hstep
        exact h
  | take mkdirFails =>
      rw [UploaderWorld.step] at hstep
      split at hstep
      · rename_i job queue hworker hqueue
        obtain rfl := Option.some.inj hstep
        rw [@allRight_promote_iff cfg { w with queue := queue } h mkdirFails job, TakesFitting,
          hqueue]
        exact forall_congr' fun root => imp_congr_right fun _ =>
          ⟨fun hfits job' hjob' => Option.some.inj hjob' ▸ hfits, fun hall => hall job rfl⟩
      · cases hstep
  | write n =>
      refine iff_of_true ?_ trivial
      rw [UploaderWorld.step] at hstep
      split at hstep
      · obtain rfl := Option.some.inj hstep
        exact h
      · cases hstep
  | fail =>
      refine iff_of_true ?_ trivial
      rw [UploaderWorld.step] at hstep
      split at hstep
      · obtain rfl := Option.some.inj hstep
        exact h
      · cases hstep
  | finish =>
      refine iff_of_true ?_ trivial
      rw [UploaderWorld.step] at hstep
      split at hstep
      · rename_i job dest content written hworker
        obtain ⟨hwritten, hsome⟩ := Option.ite_none_right_eq_some.mp hstep
        obtain rfl := Option.some.inj hsome
        rw [CopyInPlace, hworker] at hcopy
        have hplace : (∀ root ∈ cfg.sharedRoot, dest = promoteDest root job) ∧
            w.files dest = some (.file (content.take written)) := hcopy
        rw [List.take_of_length_le hwritten] at hplace
        refine (@allRight_register cfg { w with worker := .idle } job dest _ h).mpr
          fun root hroot => ⟨?_, content, rfl, ?_⟩
        · rw [hplace.1 root hroot]
          exact prefix_promoteDest root job
        · exact hplace.2
      · cases hstep
  | crash =>
      obtain rfl := Option.some.inj hstep
      exact iff_of_true h trivial

/-- **All registrations of a run are right** exactly when whatever the worker takes fits: below the
root it is a file, and at the place of its copy there is nothing or the file itself. -/
theorem registrations_right_iff {cfg : UploaderConfig} {files : FilePath → Option Entry}
    {w : UploaderWorld} {tr : List (UploaderWorld × UploaderAction)}
    (hrun : Run (UploaderWorld.Step cfg) (.start files) tr w) :
    Holds (AllRight cfg) tr w ↔ ∀ p ∈ tr, TakesFitting cfg p.1 p.2 :=
  @Run.invariant_iff_guard _ _ (UploaderWorld.Step cfg) (CopyInPlace cfg) (AllRight cfg)
    (TakesFitting cfg) (fun hcopy _ hstep => hcopy.step hstep)
    (fun hcopy h hstep => allRight_step_iff hcopy h hstep) _ _ _ hrun trivial
    fun _ hmem => by cases hmem

/-! ### Runs -/

/-- A submission of a file. -/
def submission (uri : FilePath) : ArtifactJob :=
  ⟨7, "aee_crash", uri, "t", "A", none, none, none, none⟩

/-- A shared root. -/
def sharedConfig : UploaderConfig := ⟨some ["mnt", "nfs"], 8, "h", "i"⟩

/-- A file that is copied and submitted once more is registered rightly both times. -/
theorem resubmission_right :
    let actions : List UploaderAction := [.put ["hdd", "f"] (some (.file [1, 2, 3])),
      .submit (submission ["hdd", "f"]), .take false, .write 2, .write 1, .finish,
      .submit (submission ["hdd", "f"]), .take false]
    ∃ w, actions.foldlM (UploaderWorld.step sharedConfig) (.start fun _ => none) = some w ∧
      w.registered.length = 2 ∧
      Holds (AllRight sharedConfig)
        (traceOf (UploaderWorld.step sharedConfig) (.start fun _ => none) actions) w := by
  intro actions
  obtain ⟨w, hw⟩ : ∃ w, actions.foldlM (UploaderWorld.step sharedConfig) (.start fun _ => none) =
      some w := Option.isSome_iff_exists.mp (by decide +kernel)
  have hlen : (actions.foldlM (UploaderWorld.step sharedConfig) (.start fun _ => none)).any
      (fun w => w.registered.length == 2) = true := by decide +kernel
  rw [hw, Option.any_some] at hlen
  refine ⟨w, hw, eq_of_beq hlen, (registrations_right_iff (Run.of_foldlM hw)).mpr ?_⟩
  decide +kernel

/-- **A copy that stopped is taken for the file**: the disk is full after two bytes, and the file is
submitted once more. -/
theorem stopped_copy_registered :
    ¬ ∀ (cfg : UploaderConfig) (files : FilePath → Option Entry) (w : UploaderWorld)
      (tr : List (UploaderWorld × UploaderAction)),
      Run (UploaderWorld.Step cfg) (.start files) tr w → Holds (AllRight cfg) tr w := by
  intro hall
  let actions : List UploaderAction := [.put ["hdd", "f"] (some (.file [1, 2, 3])),
    .submit (submission ["hdd", "f"]), .take false, .write 2, .fail,
    .submit (submission ["hdd", "f"]), .take false]
  obtain ⟨w, hw⟩ : ∃ w, actions.foldlM (UploaderWorld.step sharedConfig) (.start fun _ => none) =
      some w := Option.isSome_iff_exists.mp (by decide +kernel)
  have hwrong : (actions.foldlM (UploaderWorld.step sharedConfig) (.start fun _ => none)).any
      (fun w => w.registered.any fun r => decide (r.source ≠ r.found)) = true := by decide +kernel
  rw [hw, Option.any_some, List.any_eq_true] at hwrong
  obtain ⟨r, hr, hne⟩ := hwrong
  obtain ⟨-, content, hsource, hfound⟩ :=
    (hall sharedConfig _ w _ (Run.of_foldlM hw)).2 r hr ["mnt", "nfs"] rfl
  exact of_decide_eq_true hne (hsource.trans hfound.symm)

end StabilityPlatform.ArtifactUpload
