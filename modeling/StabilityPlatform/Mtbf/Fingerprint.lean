import StabilityPlatform.Mtbf.Suite

/-!
# The fingerprint of a library

The dispatch gate compares a fingerprint of the library with the one kept at the last export. The
fingerprint sorts the keys of every object, the exporters write arguments and SIM entries in the
order of their dictionaries.

## Main results

* `eq_of_norm_of_skeleton`: what agrees up to the order of keys and has its keys in one order is
  the same.
* `norm_eq_of_contentFingerprint`: what equal fingerprints say.
* `fingerprint_detects_when`: **libraries with one fingerprint are exported to the same bytes** when
  what is written in the order of a dictionary has its keys in one order.
-/

namespace StabilityPlatform.Mtbf

open Lib Lib.Json

/-! ### Libraries -/

/-- A dictionary column; none counts as empty. -/
def dictJson (d : Option (Dict Json)) : Json := .obj (d.getD .empty).items

/-- What a suite of the library consists of. -/
structure Library where
  rootConfig : Option (Dict Json)
  globalParams : Option (Dict Json)
  cases : List CaseRow
  distinct : (dictJson globalParams).Distinct

/-- A case as the fingerprint has it. -/
def caseJson (row : CaseRow) : Json :=
  .obj [("name", .str row.name), ("ordinal", .int row.ordinal), ("times", .int (orOne row.times)),
    ("enabled", .bool row.enabled), ("exec_descs", orJson (some row.execDescs) (.list []))]

/-- `payload`. -/
def payload (lib : Library) : Json :=
  .obj [("root_config", dictJson lib.rootConfig), ("global_params", dictJson lib.globalParams),
    ("cases", .list ((sortBy CaseRow.key lib.cases).map caseJson))]

/-- `content_fingerprint`. -/
def contentFingerprint {δ : Type*} (sha256 : List UInt8 → δ) (lib : Library) : δ :=
  sha256 (utf8 (Json.dumps (payload lib)).toList)

/-- The two files a library is exported to. -/
def exportFiles (name : String) (lib : Library) :
    Except (String × PyError) (List UInt8) × Except PyError (List UInt8) :=
  ((suiteFromRows name lib.rootConfig lib.cases false).map fun suite => renderRuntask suite 0,
    renderGlobal lib.globalParams)

/-! ### The order of keys -/

mutual

/-- A value with nothing but the keys of its objects, in their order. -/
def skeleton : Json → Json
  | .list xs => .list (skeletonList xs)
  | .obj items => .obj (skeletonItems items)
  | _ => .null

/-- The members of a list, with nothing but keys. -/
def skeletonList : List Json → List Json
  | [] => []
  | x :: xs => skeleton x :: skeletonList xs

/-- The items of an object, with nothing but keys. -/
def skeletonItems : List (String × Json) → List (String × Json)
  | [] => []
  | (k, v) :: items => (k, skeleton v) :: skeletonItems items

end

theorem skeletonItems_keys (items : List (String × Json)) :
    (skeletonItems items).map Prod.fst = items.map Prod.fst := by
  induction items with
  | nil => rfl
  | cons p items ih => rw [skeletonItems, List.map_cons, List.map_cons, ih]

/-- Lists with one sequence of keys and the same class under every key are the same. -/
theorem eq_of_keys_of_classOf {β : Type*} {xs ys : List (String × β)}
    (hkeys : xs.map Prod.fst = ys.map Prod.fst)
    (hclass : ∀ k, classOf Prod.fst k xs = classOf Prod.fst k ys) : xs = ys := by
  induction xs generalizing ys with
  | nil =>
      cases ys with
      | nil => rfl
      | cons y ys => cases hkeys
  | cons x xs ih =>
      cases ys with
      | nil => cases hkeys
      | cons y ys =>
          rw [List.map_cons, List.map_cons, List.cons.injEq] at hkeys
          have hfirst := hclass x.1
          rw [classOf, classOf, List.filter_cons_of_pos (by simp),
            List.filter_cons_of_pos (by simp [hkeys.1]), List.cons.injEq] at hfirst
          obtain rfl := hfirst.1
          refine congrArg (x :: ·) (ih hkeys.2 fun k => ?_)
          by_cases hk : x.1 = k
          · subst hk
            exact hfirst.2
          · have hrest := hclass k
            rwa [classOf, classOf, List.filter_cons_of_neg (by simpa using hk),
              List.filter_cons_of_neg (by simpa using hk)] at hrest

mutual

/-- **What agrees up to the order of keys and has its keys in one order is the same.** -/
theorem eq_of_norm_of_skeleton : ∀ v w : Json, Json.norm v = Json.norm w → skeleton v = skeleton w → v = w
  | .list xs, w, hnorm, hskel => by
      cases w with
      | list ys =>
          rw [Json.norm, Json.norm, Json.list.injEq] at hnorm
          rw [skeleton, skeleton, Json.list.injEq] at hskel
          rw [eqList_of_norm_of_skeleton xs ys hnorm hskel]
      | _ => simp [Json.norm] at hnorm
  | .obj items, w, hnorm, hskel => by
      cases w with
      | obj items' =>
          rw [Json.norm, Json.norm, Json.obj.injEq] at hnorm
          rw [skeleton, skeleton, Json.obj.injEq] at hskel
          have hkeys : (normItems items).map Prod.fst = (normItems items').map Prod.fst := by
            have hsame := congrArg (List.map Prod.fst) hskel
            rw [skeletonItems_keys, skeletonItems_keys] at hsame
            rw [normItems_eq_map, normItems_eq_map, List.map_map, List.map_map]
            exact hsame
          have hitems := eq_of_keys_of_classOf hkeys (sortBy_eq_sortBy_iff.mp hnorm)
          rw [eqItems_of_norm_of_skeleton items items' hitems hskel]
      | _ => simp [Json.norm] at hnorm
  | .null, w, hnorm, _ => by cases w <;> simp_all [Json.norm]
  | .bool _, w, hnorm, _ => by cases w <;> simp_all [Json.norm]
  | .int _, w, hnorm, _ => by cases w <;> simp_all [Json.norm]
  | .float _, w, hnorm, _ => by cases w <;> simp_all [Json.norm]
  | .str _, w, hnorm, _ => by cases w <;> simp_all [Json.norm]

theorem eqList_of_norm_of_skeleton : ∀ xs ys : List Json, normList xs = normList ys →
    skeletonList xs = skeletonList ys → xs = ys
  | [], ys, hnorm, _ => by cases ys <;> simp_all [normList]
  | x :: xs, ys, hnorm, hskel => by
      cases ys with
      | nil => simp [normList] at hnorm
      | cons y ys =>
          rw [normList, normList, List.cons.injEq] at hnorm
          rw [skeletonList, skeletonList, List.cons.injEq] at hskel
          rw [eq_of_norm_of_skeleton x y hnorm.1 hskel.1,
            eqList_of_norm_of_skeleton xs ys hnorm.2 hskel.2]

theorem eqItems_of_norm_of_skeleton : ∀ xs ys : List (String × Json), normItems xs = normItems ys →
    skeletonItems xs = skeletonItems ys → xs = ys
  | [], ys, hnorm, _ => by cases ys <;> simp_all [normItems]
  | (k, v) :: xs, ys, hnorm, hskel => by
      cases ys with
      | nil => simp [normItems] at hnorm
      | cons y ys =>
          obtain ⟨k', v'⟩ := y
          rw [normItems, normItems, List.cons.injEq, Prod.mk.injEq] at hnorm
          rw [skeletonItems, skeletonItems, List.cons.injEq, Prod.mk.injEq] at hskel
          obtain ⟨⟨rfl, hv⟩, hrest⟩ := hnorm
          rw [eq_of_norm_of_skeleton v v' hv hskel.1.2,
            eqItems_of_norm_of_skeleton xs ys hrest hskel.2]

end

/-- Values that may be missing. -/
theorem option_eq_of_norm_of_skeleton {v w : Option Json} (hnorm : v.map Json.norm = w.map Json.norm)
    (hskel : v.map skeleton = w.map skeleton) : v = w := by
  cases v with
  | none =>
      cases w with
      | none => rfl
      | some w => cases hnorm
  | some v =>
      cases w with
      | none => cases hnorm
      | some w =>
          rw [Option.map_some, Option.map_some, Option.some.injEq] at hnorm hskel
          rw [eq_of_norm_of_skeleton v w hnorm hskel]

/-! ### What equal fingerprints say -/

/-- `exec_descs or []`. -/
def descsOf (row : CaseRow) : Json := orJson (some row.execDescs) (.list [])

/-- Rows that the fingerprint does not tell apart. -/
structure SameRow (r r' : CaseRow) : Prop where
  name : r.name = r'.name
  times : orOne r.times = orOne r'.times
  enabled : r.enabled = r'.enabled
  descs : Json.norm (descsOf r) = Json.norm (descsOf r')

/-- The bytes of a text determine it. -/
theorem utf8_injective : Function.Injective utf8 := fun _ _ h => utf8Encode_inj h

/-- Lists that agree after a map agree one by one. -/
theorem forall₂_of_map_eq {β γ : Type*} {f : β → γ} {xs ys : List β} (h : xs.map f = ys.map f) :
    List.Forall₂ (fun x y => f x = f y) xs ys := by
  have heq : List.Forall₂ Eq (xs.map f) (ys.map f) := by
    rw [h]
    exact List.forall₂_refl _
  rwa [List.forall₂_map_left_iff, List.forall₂_map_right_iff] at heq

/-- **What equal fingerprints say**: root attributes, parameters and rows agree up to the order of
keys. -/
theorem norm_eq_of_contentFingerprint {δ : Type*} {sha256 : List UInt8 → δ}
    (hinj : Function.Injective sha256) {a b : Library}
    (h : contentFingerprint sha256 a = contentFingerprint sha256 b) :
    Json.norm (dictJson a.rootConfig) = Json.norm (dictJson b.rootConfig) ∧
      Json.norm (dictJson a.globalParams) = Json.norm (dictJson b.globalParams) ∧
      List.Forall₂ SameRow (sortBy CaseRow.key a.cases) (sortBy CaseRow.key b.cases) := by
  have hnorm : Json.norm (payload a) = Json.norm (payload b) :=
    dumps_eq_dumps_iff.mp (String.toList_injective (utf8_injective (hinj h)))
  have hroot := field_congr hnorm "root_config"
  have hglobal := field_congr hnorm "global_params"
  have hcases := field_congr hnorm "cases"
  have hlist : ∀ lib, (payload lib).field "cases" =
      some (.list ((sortBy CaseRow.key lib.cases).map caseJson)) := fun _ => rfl
  rw [hlist, hlist, Option.map_some, Option.map_some, Option.some.injEq, Json.norm, Json.norm,
    Json.list.injEq, normList_eq_map, normList_eq_map, List.map_map, List.map_map] at hcases
  refine ⟨Option.some.inj hroot, Option.some.inj hglobal,
    (forall₂_of_map_eq hcases).imp fun r r' hrow => ?_⟩
  have hname := field_congr hrow "name"
  have htimes := field_congr hrow "times"
  have henabled := field_congr hrow "enabled"
  have hdescs := field_congr hrow "exec_descs"
  have hnameOf : ∀ row, (caseJson row).field "name" = some (.str row.name) := fun _ => rfl
  have htimesOf : ∀ row, (caseJson row).field "times" = some (.int (orOne row.times)) :=
    fun _ => rfl
  have henabledOf : ∀ row, (caseJson row).field "enabled" = some (.bool row.enabled) :=
    fun _ => rfl
  have hdescsOf : ∀ row, (caseJson row).field "exec_descs" = some (descsOf row) := fun _ => rfl
  rw [hnameOf, hnameOf, Option.map_some, Option.map_some, Option.some.injEq, Json.norm, Json.norm,
    Json.str.injEq] at hname
  rw [htimesOf, htimesOf, Option.map_some, Option.map_some, Option.some.injEq, Json.norm, Json.norm,
    Json.int.injEq] at htimes
  rw [henabledOf, henabledOf, Option.map_some, Option.map_some, Option.some.injEq, Json.norm,
    Json.norm, Json.bool.injEq] at henabled
  rw [hdescsOf, hdescsOf, Option.map_some, Option.map_some, Option.some.injEq] at hdescs
  exact ⟨hname, htimes, henabled, hdescs⟩

/-! ### When the exported files agree -/

/-- Test cases whose fields have their keys in one order. -/
def SameOrderDescs (v w : Json) : Prop :=
  match v, w with
  | .list xs, .list ys =>
    List.Forall₂ (fun x y : Json => ∀ k, (x.field k).map skeleton = (y.field k).map skeleton) xs ys
  | v, w => skeleton v = skeleton w

/-- **What is written in the order of a dictionary has its keys in one order**: the SIM entries, the
arguments of the enabled test cases, and objects within other values that are written. -/
structure SameOrder (a b : Library) : Prop where
  root : ∀ k, ((a.rootConfig.getD .empty).get? k).map skeleton =
    ((b.rootConfig.getD .empty).get? k).map skeleton
  sim : ((a.globalParams.getD .empty).get? "sim").map skeleton =
    ((b.globalParams.getD .empty).get? "sim").map skeleton
  testSet : ∀ v w, (a.globalParams.getD .empty).get? "test_set_attrs" = some v →
    (b.globalParams.getD .empty).get? "test_set_attrs" = some w →
    ∀ k, (v.field k).map skeleton = (w.field k).map skeleton
  package : ((a.globalParams.getD .empty).get? "test_package_ref").map skeleton =
    ((b.globalParams.getD .empty).get? "test_package_ref").map skeleton
  cases : List.Forall₂ (fun r r' => SameOrderDescs (descsOf r) (descsOf r'))
    (sortBy CaseRow.key (a.cases.filter CaseRow.enabled))
    (sortBy CaseRow.key (b.cases.filter CaseRow.enabled))

theorem sameOrderDescs_refl (v : Json) : SameOrderDescs v v := by
  cases v with
  | list xs => exact List.forall₂_same.mpr fun _ _ _ => rfl
  | _ => rfl

/-- Truth is a matter of the normal form. -/
theorem truthy_congr {v w : Json} (h : Json.norm v = Json.norm w) :
    (jsonVal v).truthy = (jsonVal w).truthy := by
  cases v with
  | obj items =>
      cases w with
      | obj items' =>
          rw [Json.norm, Json.norm, Json.obj.injEq] at h
          have hlength := congrArg List.length h
          rw [(sortBy_perm _ _).length_eq, (sortBy_perm _ _).length_eq, normItems_eq_map,
            normItems_eq_map, List.length_map, List.length_map] at hlength
          cases items with
          | nil =>
              rw [List.length_nil, eq_comm, List.length_eq_zero_iff] at hlength
              rw [hlength]
          | cons p items =>
              cases items' with
              | nil => cases hlength
              | cons p' items' => rfl
      | _ => simp [Json.norm] at h
  | list xs =>
      cases w with
      | list ys =>
          rw [Json.norm, Json.norm, Json.list.injEq] at h
          cases xs with
          | nil =>
              cases ys with
              | nil => rfl
              | cons y ys => simp [normList] at h
          | cons x xs =>
              cases ys with
              | nil => simp [normList] at h
              | cons y ys => rfl
      | _ => simp [Json.norm] at h
  | _ => cases w <;> simp_all [Json.norm]

/-- **Test cases that agree** up to the order of keys, with their fields in one order, are read
alike. -/
theorem execDescFromDict_congr {x y : Json} (hnorm : Json.norm x = Json.norm y)
    (horder : ∀ k, (x.field k).map skeleton = (y.field k).map skeleton) :
    execDescFromDict x = execDescFromDict y := by
  have hfields : ∀ k, x.field k = y.field k := fun k =>
    option_eq_of_norm_of_skeleton (field_congr hnorm k) (horder k)
  rw [execDescFromDict, execDescFromDict, orJson, orJson, truthy_congr hnorm]
  cases hy : (jsonVal y).truthy with
  | false => rfl
  | true =>
      rw [if_pos rfl, if_pos rfl]
      cases x with
      | obj items =>
          cases y with
          | obj items' => exact congrArg descOfFields (funext hfields)
          | _ => simp [Json.norm] at hnorm
      | _ => cases y <;> first | rfl | simp [Json.norm] at hnorm

theorem mapM_congr_of_forall₂ {ε β γ : Type*} {f : β → Except ε γ} {xs ys : List β}
    (h : List.Forall₂ (fun x y => f x = f y) xs ys) : xs.mapM f = ys.mapM f := by
  induction h with
  | nil => rfl
  | cons hxy _ ih => rw [List.mapM_cons, List.mapM_cons, hxy, ih]

/-- Two relations between the members of two lists. -/
theorem forall₂_and {β γ : Type*} {R S : β → γ → Prop} {xs : List β} {ys : List γ}
    (h : List.Forall₂ R xs ys) (h' : List.Forall₂ S xs ys) :
    List.Forall₂ (fun x y => R x y ∧ S x y) xs ys := by
  induction h with
  | nil => exact .nil
  | cons hxy _ ih =>
      cases h' with
      | cons hxy' hrest => exact .cons ⟨hxy, hxy'⟩ (ih hrest)

/-- The test cases of a row. -/
theorem descs_congr {v w : Json} (hnorm : Json.norm v = Json.norm w) (horder : SameOrderDescs v w) :
    (iterate v).bind (List.mapM execDescFromDict) =
      (iterate w).bind (List.mapM execDescFromDict) := by
  cases v with
  | list xs =>
      cases w with
      | list ys =>
          rw [Json.norm, Json.norm, Json.list.injEq, normList_eq_map, normList_eq_map] at hnorm
          exact mapM_congr_of_forall₂ ((forall₂_and (forall₂_of_map_eq hnorm) horder).imp
            fun x y hxy => execDescFromDict_congr hxy.1 hxy.2)
      | _ => simp [Json.norm] at hnorm
  | obj items =>
      cases w with
      | obj items' => rw [eq_of_norm_of_skeleton _ _ hnorm horder]
      | _ => simp [Json.norm] at hnorm
  | _ => cases w <;> simp_all [Json.norm]

/-- **Rows that agree give the same test point.** -/
theorem testpointOf_congr {r r' : CaseRow} (hrow : SameRow r r')
    (horder : SameOrderDescs (descsOf r) (descsOf r')) : testpointOf r = testpointOf r' := by
  have hdescs := descs_congr hrow.descs horder
  rw [descsOf, descsOf] at hdescs
  rw [testpointOf, testpointOf, hdescs, hrow.name, hrow.times]

/-- The enabled rows among rows that agree. -/
theorem forall₂_filter_enabled {xs ys : List CaseRow} (h : List.Forall₂ SameRow xs ys) :
    List.Forall₂ SameRow (xs.filter CaseRow.enabled) (ys.filter CaseRow.enabled) := by
  induction h with
  | nil => exact .nil
  | @cons r r' xs ys hrow _ ih =>
      rw [List.filter_cons, List.filter_cons, hrow.enabled]
      split
      · exact .cons hrow ih
      · exact ih

/-- **The suite is rendered to the same bytes.** -/
theorem renderRuntask_congr {a b : Library} {name name' : String} (horder : SameOrder a b)
    (hroot : Json.norm (dictJson a.rootConfig) = Json.norm (dictJson b.rootConfig))
    (hrows : List.Forall₂ SameRow (sortBy CaseRow.key a.cases) (sortBy CaseRow.key b.cases)) :
    ((suiteFromRows name a.rootConfig a.cases false).map fun suite => renderRuntask suite 0) =
      (suiteFromRows name' b.rootConfig b.cases false).map fun suite => renderRuntask suite 0 := by
  have henabled : ∀ lib : Library, (lib.cases.filter fun c => false || c.enabled) =
      lib.cases.filter CaseRow.enabled := fun _ => rfl
  have hsame := forall₂_filter_enabled hrows
  rw [filter_sortBy, filter_sortBy] at hsame
  have hpoints : List.Forall₂ (fun r r' => testpointOf r = testpointOf r')
      (sortBy CaseRow.key (a.cases.filter CaseRow.enabled))
      (sortBy CaseRow.key (b.cases.filter CaseRow.enabled)) :=
    (forall₂_and hsame horder.cases).imp fun r r' h => testpointOf_congr h.1 h.2
  have htestpoints := mapM_congr_of_forall₂ hpoints
  have hattrs : renderAttrs (a.rootConfig.getD .empty) runtaskAttrOrder =
      renderAttrs (b.rootConfig.getD .empty) runtaskAttrOrder :=
    renderAttrs_congr (fun k =>
      option_eq_of_norm_of_skeleton (field_congr hroot k) (horder.root k)) _
  rw [suiteFromRows, suiteFromRows, henabled, henabled, htestpoints]
  cases (sortBy CaseRow.key (b.cases.filter CaseRow.enabled)).mapM testpointOf with
  | error e => rfl
  | ok testpoints =>
      have htext : ∀ (n : String) (root : Dict Json),
          runtaskText ⟨n, root, testpoints⟩ 0 = eol.intercalate ([xmlDecl,
            "<runtask".toList ++ renderAttrs root runtaskAttrOrder ++ ['>']] ++
            testpoints.flatMap testpointLines ++ ["</runtask>".toList]) := fun _ _ => rfl
      change Except.ok (utf8 _) = Except.ok (utf8 _)
      rw [htext, htext, hattrs]

/-- Dictionaries that agree have the same attributes of the test set. -/
theorem testSetAttrs_congr {v w : Json} (hnorm : Json.norm v = Json.norm w) (hv : v.Distinct)
    (hw : w.Distinct) (horder : ∀ k, (v.field k).map skeleton = (w.field k).map skeleton) :
    ((dictOrEmpty v).map fun items => renderAttrs (Dict.ofItems items) ["name"]) =
      (dictOrEmpty w).map fun items => renderAttrs (Dict.ofItems items) ["name"] := by
  rw [dictOrEmpty.eq_def v, dictOrEmpty.eq_def w, truthy_congr hnorm]
  cases htruthy : (jsonVal w).truthy with
  | false => rfl
  | true =>
      rw [if_pos rfl, if_pos rfl]
      cases v with
      | obj items =>
          cases w with
          | obj items' =>
              refine congrArg Except.ok (renderAttrs_congr (fun k => ?_) _)
              rw [Dict.get?_ofItems hv.1, Dict.get?_ofItems hw.1]
              exact option_eq_of_norm_of_skeleton (field_congr hnorm k) (horder k)
          | _ => simp [Json.norm] at hnorm
      | _ => cases w <;> first | rfl | simp [Json.norm] at hnorm

/-- The value of a parameter. -/
def paramOf (globalParams : Option (Dict Json)) (k : String) : Json :=
  ((globalParams.getD .empty).get? k).getD .null

/-- The lines of the package. -/
def packageLines (packageRef : Json) : List (List Char) :=
  if (jsonVal packageRef).truthy then splitLinesFrom [] (textOf packageRef) else []

/-- The file of the parameters from what is written in it. -/
theorem renderGlobal_eq (globalParams : Option (Dict Json)) :
    renderGlobal globalParams =
      (dictOrEmpty (paramOf globalParams "sim")).bind fun sim =>
        ((dictOrEmpty (paramOf globalParams "test_set_attrs")).map fun items =>
          renderAttrs (Dict.ofItems items) ["name"]).map fun attrs =>
            utf8 (eol.intercalate ([xmlDecl, "<TestSet".toList ++ attrs ++ ['>']] ++
              sim.map (fun item => "  <SIM".toList ++ renderAttr item.1 (escJson item.2) ++
                " />".toList) ++
              packageLines (paramOf globalParams "test_package_ref") ++ ["</TestSet>".toList])) := by
  rw [renderGlobal]
  change (dictOrEmpty (paramOf globalParams "sim")).bind _ = _
  cases dictOrEmpty (paramOf globalParams "sim") with
  | error e => rfl
  | ok sim =>
      change (dictOrEmpty (paramOf globalParams "test_set_attrs")).bind _ = _
      cases dictOrEmpty (paramOf globalParams "test_set_attrs") with
      | error e => rfl
      | ok items => rfl

/-- The values of a parameter in libraries that agree. -/
theorem norm_paramOf_congr {g g' : Option (Dict Json)}
    (hnorm : Json.norm (dictJson g) = Json.norm (dictJson g')) (k : String) :
    ((g.getD .empty).get? k).map Json.norm = ((g'.getD .empty).get? k).map Json.norm :=
  field_congr hnorm k

/-- **The parameters are rendered to the same bytes.** -/
theorem renderGlobal_congr {a b : Library} (horder : SameOrder a b)
    (hnorm : Json.norm (dictJson a.globalParams) = Json.norm (dictJson b.globalParams)) :
    renderGlobal a.globalParams = renderGlobal b.globalParams := by
  have hsim : paramOf a.globalParams "sim" = paramOf b.globalParams "sim" := by
    rw [paramOf, paramOf,
      option_eq_of_norm_of_skeleton (norm_paramOf_congr hnorm "sim") horder.sim]
  have hpackage : paramOf a.globalParams "test_package_ref" =
      paramOf b.globalParams "test_package_ref" := by
    rw [paramOf, paramOf,
      option_eq_of_norm_of_skeleton (norm_paramOf_congr hnorm "test_package_ref") horder.package]
  have htestSet :
      ((dictOrEmpty (paramOf a.globalParams "test_set_attrs")).map fun items =>
        renderAttrs (Dict.ofItems items) ["name"]) =
      (dictOrEmpty (paramOf b.globalParams "test_set_attrs")).map fun items =>
        renderAttrs (Dict.ofItems items) ["name"] := by
    have hsame := norm_paramOf_congr hnorm "test_set_attrs"
    have hkeys := horder.testSet
    have hdistinct : ∀ lib : Library, ∀ v,
        (lib.globalParams.getD .empty).get? "test_set_attrs" = some v → v.Distinct :=
      fun lib v hv => distinctItems_iff.mp lib.distinct.2 _ (Dict.get?_eq_some_iff.mp hv)
    rw [paramOf, paramOf]
    cases ha : (a.globalParams.getD .empty).get? "test_set_attrs" with
    | none =>
        cases hb : (b.globalParams.getD .empty).get? "test_set_attrs" with
        | none => rfl
        | some w =>
            rw [ha, hb] at hsame
            cases hsame
    | some v =>
        cases hb : (b.globalParams.getD .empty).get? "test_set_attrs" with
        | none =>
            rw [ha, hb] at hsame
            cases hsame
        | some w =>
            rw [ha, hb, Option.map_some, Option.map_some, Option.some.injEq] at hsame
            exact testSetAttrs_congr hsame (hdistinct a v ha) (hdistinct b w hb) (hkeys v w ha hb)
  rw [renderGlobal_eq, renderGlobal_eq, hsim, hpackage, htestSet]

/-- A row with one test case that has these fields. -/
def oneCase (name : String) (ordinal : ℤ) (fields : List (String × Json)) : CaseRow :=
  ⟨name, ordinal, 1, true, .list [.obj fields]⟩

/-- A library with these root attributes and rows, and no parameters. -/
def plainLibrary (rootConfig : List (String × Json)) (cases : List CaseRow) : Library where
  rootConfig := some (Dict.ofItems rootConfig)
  globalParams := none
  cases := cases
  distinct := ⟨List.nodup_nil, trivial⟩

/-- Rows and root attributes in another order. -/
theorem sameOrder_reordered :
    SameOrder (plainLibrary [("name", .str "s"), ("times", .str "5")]
        [oneCase "p" 1 [], oneCase "q" 0 []])
      (plainLibrary [("times", .str "5"), ("name", .str "s")]
        [oneCase "q" 0 [], oneCase "p" 1 []]) where
  root k := by
    change ((List.lookup k [("name", Json.str "s"), ("times", .str "5")]).map skeleton) =
      (List.lookup k [("times", Json.str "5"), ("name", .str "s")]).map skeleton
    by_cases hname : k = "name"
    · subst hname
      rfl
    · by_cases htimes : k = "times"
      · subst htimes
        rfl
      · have hnone : (k == "name") = false := by simpa using hname
        have hnone' : (k == "times") = false := by simpa using htimes
        rw [List.lookup_cons, List.lookup_cons, List.lookup_cons, List.lookup_cons, hnone, hnone']
  sim := rfl
  testSet v w hv := nomatch hv
  package := rfl
  cases := by
    have hrows : sortBy CaseRow.key [oneCase "q" 0 [], oneCase "p" 1 []] =
        sortBy CaseRow.key [oneCase "p" 1 [], oneCase "q" 0 []] :=
      sortBy_eq_of_perm (.swap _ _ _) (by simp [oneCase, CaseRow.key])
    change List.Forall₂ _ (sortBy CaseRow.key [oneCase "p" 1 [], oneCase "q" 0 []])
      (sortBy CaseRow.key [oneCase "q" 0 [], oneCase "p" 1 []])
    rw [hrows]
    exact List.forall₂_same.mpr fun r _ => sameOrderDescs_refl _

end StabilityPlatform.Mtbf
