import StabilityPlatform.Agent.OperationScheduler
import StabilityPlatform.Lib.Run

/-!
# Accounting of the operation scheduler

Every live permit and every hand-off in flight is one held slot, and every slot is one
held device. The invariant behind it (`Accounts`) relates the scheduler to the acquires
that wait on it: a waiter in the queue is one of them and holds nothing, and an acquire
that was taken out of the queue was either handed a slot or flagged as cancelled. Hand-offs
and flags are kept by device while acquires are many, so the flag of one acquire may be
read by another one of the same device: an acquire that leaves its wait must find its own.

## Main results

* `accounts_promote`, `accounts_giveSlot`, `accounts_leave`: the locked sections.
* `accounts_step`: one step of any thread.
* `accounting_of_ownsExit`: **the accounting** holds along every run whose acquires leave
  their waits on their own.
* `phantom_permit`: a run that ends with a live permit and no held slot.
-/

namespace StabilityPlatform

open Lib

/-! ### The invariant -/

/-- How a scheduler accounts for the acquires that wait on it (devices with events) and for
the devices of the live permits. -/
structure Accounts (s : OperationScheduler) (waits : List (ℕ × ℕ)) (permits : List ℕ) :
    Prop where
  events_nodup : (waits.map Prod.snd).Nodup
  waiters_nodup : (s.waiters.map Prod.fst).Nodup
  waiter_waits : ∀ w ∈ s.waiters, w ∈ waits
  waiter_free : ∀ w ∈ s.waiters, w.1 ∉ s.heldDevices
  held_eq : s.held = s.heldDevices.card
  heldDevices_iff : ∀ d, d ∈ s.heldDevices ↔ d ∈ permits ∨ d ∈ s.pendingHandoff
  permits_nodup : permits.Nodup
  permits_free : ∀ d ∈ permits, d ∉ s.pendingHandoff
  handoff_waits : ∀ d ∈ s.pendingHandoff, ∃ e, (d, e) ∈ waits
  popped : s.shutdown = false → ∀ w ∈ waits, w ∉ s.waiters →
    w.1 ∈ s.pendingHandoff ∨ w.1 ∈ s.cancelled
  single : s.shutdown = false → ∀ w ∈ waits, ∀ w' ∈ waits, w.1 = w'.1 → w ≠ w' →
    w ∉ s.waiters → w' ∉ s.waiters → w.1 ∈ s.cancelled
  closed : s.shutdown = true → s.waiters = []

section Ledger

variable {s : OperationScheduler} {waits : List (ℕ × ℕ)} {permits : List ℕ}

/-- A fresh scheduler accounts for nothing. -/
theorem accounts_init (n : ℤ) : Accounts (.init n) [] [] := by
  constructor <;> simp [OperationScheduler.init]

/-- A waiter is the only one of its device in the queue. -/
theorem Accounts.waiter_unique (h : Accounts s waits permits) {w w' : ℕ × ℕ}
    (hw : w ∈ s.waiters) (hw' : w' ∈ s.waiters) (hd : w.1 = w'.1) : w = w' :=
  List.inj_on_of_nodup_map h.waiters_nodup hw hw' hd

/-- An acquire is known by its event. -/
theorem Accounts.wait_unique (h : Accounts s waits permits) {w w' : ℕ × ℕ}
    (hw : w ∈ waits) (hw' : w' ∈ waits) (he : w.2 = w'.2) : w = w' :=
  List.inj_on_of_nodup_map h.events_nodup hw hw' he

/-- A queued device has no hand-off. -/
theorem Accounts.not_pending (h : Accounts s waits permits) {w : ℕ × ℕ}
    (hw : w ∈ s.waiters) : w.1 ∉ s.pendingHandoff :=
  fun hp => h.waiter_free w hw ((h.heldDevices_iff w.1).mpr (.inr hp))

/-- The slots are the live permits and the hand-offs. -/
theorem Accounts.held_eq_add (h : Accounts s waits permits) :
    permits.length + s.pendingHandoff.card = s.held := by
  have hset : s.heldDevices = permits.toFinset ∪ s.pendingHandoff := by
    ext d
    simp [h.heldDevices_iff d]
  have hdisj : Disjoint permits.toFinset s.pendingHandoff := by
    rw [Finset.disjoint_left]
    exact fun d hd => h.permits_free d (List.mem_toFinset.mp hd)
  rw [h.held_eq, hset, Finset.card_union_of_disjoint hdisj,
    List.toFinset_card_of_nodup h.permits_nodup]

/-- The invariant does not look at the cap. -/
theorem Accounts.setCap (h : Accounts s waits permits) (n : ℤ) :
    Accounts { s with maxConcurrent := n } waits permits :=
  ⟨h.1, h.2, h.3, h.4, h.5, h.6, h.7, h.8, h.9, h.10, h.11, h.12⟩

/-! ### Slots -/

/-- A promotion moves the oldest waiter from the queue to the hand-offs. -/
theorem accounts_promote {device event : ℕ} {rest : List (ℕ × ℕ)}
    (h : Accounts s waits permits) (hopen : s.shutdown = false)
    (hw : s.waiters = (device, event) :: rest) :
    Accounts (s.promote device rest) waits permits := by
  have hmem : (device, event) ∈ s.waiters := hw ▸ List.mem_cons_self ..
  have hfree := h.waiter_free _ hmem
  have hrest : ∀ w ∈ rest, w ∈ s.waiters := fun w hm => hw ▸ List.mem_cons_of_mem _ hm
  have hnd := h.waiters_nodup
  rw [hw, List.map_cons, List.nodup_cons] at hnd
  have hne : ∀ w ∈ rest, w.1 ≠ device := fun w hm heq =>
    hnd.1 (List.mem_map.mpr ⟨w, hm, heq⟩)
  have hsplit : ∀ w, w ∉ rest → w = (device, event) ∨ w ∉ s.waiters := by
    intro w hm
    by_cases heq : w = (device, event)
    · exact .inl heq
    · exact .inr (by rw [hw]; simp [heq, hm])
  refine ⟨h.events_nodup, hnd.2, fun w hm => h.waiter_waits w (hrest w hm), ?_, ?_, ?_,
    h.permits_nodup, ?_, ?_, ?_, ?_, ?_⟩
  · intro w hm
    simp only [OperationScheduler.promote, OperationScheduler.takeSlot, Finset.mem_insert,
      not_or]
    exact ⟨hne w hm, h.waiter_free w (hrest w hm)⟩
  · simp only [OperationScheduler.promote, OperationScheduler.takeSlot]
    rw [Finset.card_insert_of_notMem hfree, h.held_eq]
  · intro d
    simp only [OperationScheduler.promote, OperationScheduler.takeSlot, Finset.mem_insert,
      h.heldDevices_iff d]
    tauto
  · intro d hd
    simp only [OperationScheduler.promote, Finset.mem_insert, not_or]
    refine ⟨?_, h.permits_free d hd⟩
    rintro rfl
    exact hfree ((h.heldDevices_iff _).mpr (.inl hd))
  · intro d hd
    rcases Finset.mem_insert.mp hd with rfl | hd
    · exact ⟨event, h.waiter_waits _ hmem⟩
    · exact h.handoff_waits d hd
  · intro _ w hwait hout
    rcases hsplit w hout with rfl | hout
    · exact .inl (Finset.mem_insert_self ..)
    · exact (h.popped hopen w hwait hout).imp (fun hp => Finset.mem_insert_of_mem hp) id
  · intro _ w hwait w' hwait' hd hne' hout hout'
    have hold : ∀ v, v ∈ waits → v ∉ s.waiters → v.1 = device → v.1 ∈ s.cancelled := by
      intro v hv hvout hvd
      refine (h.popped hopen v hv hvout).resolve_left fun hp => ?_
      exact h.not_pending hmem (hvd ▸ hp)
    rcases hsplit w hout with rfl | hout
    · rcases hsplit w' hout' with rfl | hout'
      · exact absurd rfl hne'
      · exact hd ▸ hold w' hwait' hout' hd.symm
    · rcases hsplit w' hout' with rfl | hout'
      · exact hold w hwait hout hd
      · exact h.single hopen w hwait w' hwait' hd hne' hout hout'
  · intro hshut
    exact absurd (hopen.symm.trans hshut) (by decide)

/-- Waking keeps the accounts. -/
theorem accounts_wakeOne (h : Accounts s waits permits) :
    Accounts s.wakeOne.1 waits permits :=
  OperationScheduler.wakeOne_eq_promote
    (fun hs hopen hw _ => accounts_promote hs hopen hw) h

/-- A released permit gives its slot back. -/
theorem accounts_giveSlot {device : ℕ} (h : Accounts s waits permits)
    (hd : device ∈ permits) : Accounts (s.giveSlot device) waits (permits.erase device) := by
  have hheld := (h.heldDevices_iff device).mpr (.inl hd)
  refine ⟨h.events_nodup, h.waiters_nodup, h.waiter_waits, ?_, ?_, ?_,
    h.permits_nodup.erase device, ?_, h.handoff_waits, h.popped, h.single, h.closed⟩
  · exact fun w hw hm => h.waiter_free w hw (Finset.mem_of_mem_erase hm)
  · simp only [OperationScheduler.giveSlot]
    rw [Finset.card_erase_of_mem hheld, h.held_eq]
  · intro d
    simp only [OperationScheduler.giveSlot, Finset.mem_erase, h.permits_nodup.mem_erase_iff,
      h.heldDevices_iff d]
    constructor
    · rintro ⟨hne, hp | hp⟩
      · exact .inl ⟨hne, hp⟩
      · exact .inr hp
    · rintro (⟨hne, hp⟩ | hp)
      · exact ⟨hne, .inl hp⟩
      · refine ⟨?_, .inr hp⟩
        rintro rfl
        exact h.permits_free d hd hp
  · exact fun d hm => h.permits_free d (List.mem_of_mem_erase hm)

/-- The fast path takes a slot for a new permit. -/
theorem accounts_takeSlot {device : ℕ} (h : Accounts s waits permits)
    (hd : device ∉ s.heldDevices) (hw : s.waiters = []) :
    Accounts (s.takeSlot device) waits (permits ++ [device]) := by
  have hnot := (h.heldDevices_iff device).not.mp hd
  rw [not_or] at hnot
  refine ⟨h.events_nodup, h.waiters_nodup, h.waiter_waits, ?_, ?_, ?_, ?_, ?_,
    h.handoff_waits, h.popped, h.single, h.closed⟩
  · intro w hm
    simp only [OperationScheduler.takeSlot, hw] at hm
    cases hm
  · simp only [OperationScheduler.takeSlot]
    rw [Finset.card_insert_of_notMem hd, h.held_eq]
  · intro d
    simp only [OperationScheduler.takeSlot, Finset.mem_insert, h.heldDevices_iff d,
      List.mem_append, List.mem_singleton]
    tauto
  · rw [List.nodup_append]
    refine ⟨h.permits_nodup, by simp, ?_⟩
    rintro a ha b hb rfl
    exact hnot.1 (List.mem_singleton.mp hb ▸ ha)
  · intro d hm
    rcases List.mem_append.mp hm with hm | hm
    · exact h.permits_free d hm
    · exact List.mem_singleton.mp hm ▸ hnot.2

/-! ### The queue -/

/-- An acquire that joins the queue. -/
theorem accounts_enqueue {device event : ℕ} (h : Accounts s waits permits)
    (hopen : s.shutdown = false) (hwait : device ∉ s.waiters.map Prod.fst)
    (hd : device ∉ s.heldDevices) (he : event ∉ waits.map Prod.snd) :
    Accounts { s with waiters := s.waiters ++ [(device, event)] }
      (waits ++ [(device, event)]) permits := by
  have hold : ∀ w, w ∈ waits ++ [(device, event)] → w ∉ s.waiters ++ [(device, event)] →
      w ∈ waits ∧ w ∉ s.waiters := by
    intro w hm hout
    rw [List.mem_append, not_or] at hout
    exact ⟨(List.mem_append.mp hm).resolve_right hout.2, hout.1⟩
  refine ⟨?_, ?_, ?_, ?_, h.held_eq, h.heldDevices_iff, h.permits_nodup, h.permits_free,
    ?_, ?_, ?_, ?_⟩
  · rw [List.map_append, List.nodup_append]
    refine ⟨h.events_nodup, by simp, ?_⟩
    rintro a ha b hb rfl
    simp only [List.map_cons, List.map_nil, List.mem_singleton] at hb
    exact he (hb ▸ ha)
  · rw [List.map_append, List.nodup_append]
    refine ⟨h.waiters_nodup, by simp, ?_⟩
    rintro a ha b hb rfl
    simp only [List.map_cons, List.map_nil, List.mem_singleton] at hb
    exact hwait (hb ▸ ha)
  · intro w hm
    rcases List.mem_append.mp hm with hm | hm
    · exact List.mem_append_left _ (h.waiter_waits w hm)
    · exact List.mem_append_right _ hm
  · intro w hm
    rcases List.mem_append.mp hm with hm | hm
    · exact h.waiter_free w hm
    · rw [List.mem_singleton.mp hm]
      exact hd
  · intro d hm
    obtain ⟨e, he⟩ := h.handoff_waits d hm
    exact ⟨e, List.mem_append_left _ he⟩
  · intro _ w hm hout
    obtain ⟨hm, hout⟩ := hold w hm hout
    exact h.popped hopen w hm hout
  · intro _ w hm w' hm' hdev hne hout hout'
    obtain ⟨hm, hout⟩ := hold w hm hout
    obtain ⟨hm', hout'⟩ := hold w' hm' hout'
    exact h.single hopen w hm w' hm' hdev hne hout hout'
  · intro hshut
    exact absurd (hopen.symm.trans hshut) (by decide)

/-- The waits without one. -/
def without (waits : List (ℕ × ℕ)) (event : ℕ) : List (ℕ × ℕ) :=
  waits.filter fun w => w.2 ≠ event

/-- The waits without one are the others. -/
theorem mem_without {w : ℕ × ℕ} {event : ℕ} :
    w ∈ without waits event ↔ w ∈ waits ∧ w.2 ≠ event := by
  simp [without]

/-- The events of the other waits. -/
theorem without_nodup (h : (waits.map Prod.snd).Nodup) (event : ℕ) :
    ((without waits event).map Prod.snd).Nodup :=
  h.sublist (List.filter_sublist.map _)

/-- A wait that runs out leaves the queue. -/
theorem accounts_popWaiter {device event : ℕ} (h : Accounts s waits permits)
    (hopen : s.shutdown = false) (hmem : (device, event) ∈ waits)
    (hp : device ∉ s.pendingHandoff) (hc : device ∉ s.cancelled) :
    Accounts (s.popWaiter device) (without waits event) permits := by
  have hq : (device, event) ∈ s.waiters := by
    by_contra hout
    exact (h.popped hopen _ hmem hout).elim hp hc
  have hold : ∀ w, w ∈ without waits event → w ∉ (s.popWaiter device).waiters →
      w ∈ waits ∧ w ∉ s.waiters := by
    intro w hm hout
    obtain ⟨hm, hne⟩ := mem_without.mp hm
    refine ⟨hm, fun hin => ?_⟩
    by_cases hd : w.1 = device
    · exact hne (congrArg Prod.snd (h.waiter_unique hin hq hd))
    · exact hout (List.mem_filter.mpr ⟨hin, by simpa using hd⟩)
  refine ⟨without_nodup h.events_nodup event,
    h.waiters_nodup.sublist (List.filter_sublist.map _), ?_, ?_, h.held_eq,
    h.heldDevices_iff, h.permits_nodup, h.permits_free, ?_, ?_, ?_, ?_⟩
  · intro w hm
    obtain ⟨hm, hd⟩ := List.mem_filter.mp hm
    refine mem_without.mpr ⟨h.waiter_waits w hm, fun he => ?_⟩
    have heq := h.wait_unique (h.waiter_waits w hm) hmem he
    simp [heq] at hd
  · exact fun w hm => h.waiter_free w (List.mem_of_mem_filter hm)
  · intro d hm
    obtain ⟨e, he⟩ := h.handoff_waits d hm
    refine ⟨e, mem_without.mpr ⟨he, ?_⟩⟩
    rintro rfl
    exact hp ((congrArg Prod.fst (h.wait_unique he hmem rfl)).subst (motive := (· ∈ _)) hm)
  · intro _ w hm hout
    obtain ⟨hm, hout⟩ := hold w hm hout
    exact h.popped hopen w hm hout
  · intro _ w hm w' hm' hdev hne hout hout'
    obtain ⟨hm, hout⟩ := hold w hm hout
    obtain ⟨hm', hout'⟩ := hold w' hm' hout'
    exact h.single hopen w hm w' hm' hdev hne hout hout'
  · intro hshut
    exact absurd (hopen.symm.trans hshut) (by decide)

/-- A cancel takes a waiter out of the queue, or flags a hand-off. -/
theorem accounts_cancelDevice (h : Accounts s waits permits) (device : ℕ) :
    Accounts (s.cancelDevice device).1 waits permits := by
  have hsub : ∀ w ∈ (s.popWaiter device).waiters, w ∈ s.waiters :=
    fun w hm => List.mem_of_mem_filter hm
  have hold : ∀ w, w ∉ (s.popWaiter device).waiters → w.1 ≠ device → w ∉ s.waiters :=
    fun w hout hd hin => hout (List.mem_filter.mpr ⟨hin, by simpa using hd⟩)
  unfold OperationScheduler.cancelDevice
  dsimp only
  split
  · refine ⟨h.events_nodup, h.waiters_nodup.sublist (List.filter_sublist.map _),
      fun w hm => h.waiter_waits w (hsub w hm), fun w hm => h.waiter_free w (hsub w hm),
      h.held_eq, h.heldDevices_iff, h.permits_nodup, h.permits_free, h.handoff_waits,
      ?_, ?_, ?_⟩
    · intro hopen w hm hout
      by_cases hd : w.1 = device
      · exact .inr (Finset.mem_insert.mpr (.inl hd))
      · exact (h.popped hopen w hm (hold w hout hd)).imp id
          fun hc => Finset.mem_insert_of_mem hc
    · intro hopen w hm w' hm' hdev hne hout hout'
      by_cases hd : w.1 = device
      · exact Finset.mem_insert.mpr (.inl hd)
      · exact Finset.mem_insert_of_mem (h.single hopen w hm w' hm' hdev hne
          (hold w hout hd) (hold w' hout' (hdev ▸ hd)))
    · intro hshut
      simp [OperationScheduler.popWaiter, h.closed hshut]
  · rename_i hnone
    rw [not_or] at hnone
    have hkeep : s.popWaiter device = s := by
      have hall : ∀ w ∈ s.waiters, w.1 ≠ device := by
        rintro w hm rfl
        have hlook : s.waiterOf w.1 = none := by simpa using hnone.1
        rw [OperationScheduler.waiterOf, List.lookup_eq_none_iff] at hlook
        simpa using hlook w hm
      have hfilter : s.waiters.filter (fun w => w.1 ≠ device) = s.waiters :=
        List.filter_eq_self.mpr fun w hm => by simpa using hall w hm
      simp only [OperationScheduler.popWaiter, hfilter]
    rw [hkeep]
    exact h

/-- A shutdown empties the queue. -/
theorem accounts_shutDown (h : Accounts s waits permits) :
    Accounts s.shutDown.1 waits permits :=
  ⟨h.events_nodup, by simp [OperationScheduler.shutDown],
    by simp [OperationScheduler.shutDown], by simp [OperationScheduler.shutDown], h.held_eq,
    h.heldDevices_iff, h.permits_nodup, h.permits_free, h.handoff_waits,
    by simp [OperationScheduler.shutDown], by simp [OperationScheduler.shutDown],
    fun _ => rfl⟩

/-! ### Leaving a wait -/

/-- A hand-off that nobody takes over gives its slot back, and its acquire is over, when
no other acquire of the device needs the hand-off or the flag. -/
theorem accounts_releasePendingHandoff {device event : ℕ} {flags : Finset ℕ}
    (h : Accounts s waits permits) (hmem : (device, event) ∈ waits)
    (hout : (device, event) ∉ s.waiters)
    (hflags : ∀ d, d ≠ device → d ∈ s.cancelled → d ∈ flags)
    (hothers : s.shutdown = false → ∀ e, (device, e) ∈ waits → e ≠ event →
      (device, e) ∈ s.waiters) :
    Accounts ({ s with cancelled := flags }.releasePendingHandoff device)
      (without waits event) permits := by
  have hquiet : s.shutdown = false → ∀ w ∈ without waits event, w ∉ s.waiters →
      w.1 ≠ device := by
    rintro hopen ⟨d, e⟩ hm hw rfl
    obtain ⟨hm, hne⟩ := mem_without.mp hm
    exact hw (hothers hopen e hm hne)
  have hwaiter : ∀ w ∈ s.waiters, w ∈ without waits event := by
    refine fun w hm => mem_without.mpr ⟨h.waiter_waits w hm, fun he => hout ?_⟩
    exact h.wait_unique (h.waiter_waits w hm) hmem he ▸ hm
  have hhand : ∀ d ∈ s.pendingHandoff, d ≠ device → ∃ e, (d, e) ∈ without waits event := by
    intro d hm hd
    obtain ⟨e, he⟩ := h.handoff_waits d hm
    refine ⟨e, mem_without.mpr ⟨he, ?_⟩⟩
    rintro rfl
    exact hd (congrArg Prod.fst (h.wait_unique he hmem rfl))
  have hsingle : s.shutdown = false → ∀ w ∈ without waits event,
      ∀ w' ∈ without waits event, w.1 = w'.1 → w ≠ w' → w ∉ s.waiters →
      w' ∉ s.waiters → w.1 ∈ flags := by
    intro hopen w hm w' hm' hdev hne hw hw'
    exact hflags _ (hquiet hopen w hm hw) (h.single hopen w (mem_without.mp hm).1 w'
      (mem_without.mp hm').1 hdev hne hw hw')
  unfold OperationScheduler.releasePendingHandoff
  dsimp only
  split
  · rename_i hp
    have hheld := (h.heldDevices_iff device).mpr (.inr hp)
    refine ⟨without_nodup h.events_nodup event, h.waiters_nodup, hwaiter, ?_, ?_, ?_,
      h.permits_nodup, ?_, ?_, ?_, hsingle, h.closed⟩
    · exact fun w hw hm => h.waiter_free w hw (Finset.mem_of_mem_erase hm)
    · simp only [OperationScheduler.giveSlot]
      rw [Finset.card_erase_of_mem hheld, h.held_eq]
    · intro d
      simp only [OperationScheduler.giveSlot, Finset.mem_erase, h.heldDevices_iff d]
      constructor
      · rintro ⟨hne, hd | hd⟩
        · exact .inl hd
        · exact .inr ⟨hne, hd⟩
      · rintro (hd | ⟨hne, hd⟩)
        · refine ⟨?_, .inl hd⟩
          rintro rfl
          exact h.permits_free d hd hp
        · exact ⟨hne, .inr hd⟩
    · exact fun d hd hm => h.permits_free d hd (Finset.mem_of_mem_erase hm)
    · intro d hm
      obtain ⟨hne, hm⟩ := Finset.mem_erase.mp hm
      exact hhand d hm hne
    · intro hopen w hm hw
      have hd := hquiet hopen w hm hw
      exact (h.popped hopen w (mem_without.mp hm).1 hw).imp
        (fun hp => Finset.mem_erase.mpr ⟨hd, hp⟩) (hflags _ hd)
  · rename_i hp
    refine ⟨without_nodup h.events_nodup event, h.waiters_nodup, hwaiter, h.waiter_free,
      h.held_eq, h.heldDevices_iff, h.permits_nodup, h.permits_free, ?_, ?_, hsingle,
      h.closed⟩
    · intro d hm
      refine hhand d hm ?_
      rintro rfl
      exact hp hm
    · intro hopen w hm hw
      exact (h.popped hopen w (mem_without.mp hm).1 hw).imp id
        (hflags _ (hquiet hopen w hm hw))

/-- A promoted acquire takes its hand-off over. -/
theorem accounts_takeHandoff {device event : ℕ} (h : Accounts s waits permits)
    (hmem : (device, event) ∈ waits) (hopen : s.shutdown = false)
    (hout : (device, event) ∉ s.waiters) (hc : device ∉ s.cancelled) :
    device ∈ s.pendingHandoff ∧
      Accounts { s with pendingHandoff := s.pendingHandoff.erase device }
        (without waits event) (permits ++ [device]) := by
  have hp : device ∈ s.pendingHandoff := (h.popped hopen _ hmem hout).resolve_right hc
  have hquiet : ∀ w ∈ without waits event, w ∉ s.waiters → w.1 ≠ device := by
    rintro w hm hw rfl
    obtain ⟨hm, hne⟩ := mem_without.mp hm
    exact hc (h.single hopen w hm _ hmem rfl (fun heq => hne (congrArg Prod.snd heq)) hw hout)
  refine ⟨hp, without_nodup h.events_nodup event, h.waiters_nodup, ?_, h.waiter_free,
    h.held_eq, ?_, ?_, ?_, ?_, ?_, ?_, h.closed⟩
  · refine fun w hm => mem_without.mpr ⟨h.waiter_waits w hm, fun he => hout ?_⟩
    exact h.wait_unique (h.waiter_waits w hm) hmem he ▸ hm
  · intro d
    simp only [h.heldDevices_iff d, List.mem_append, List.mem_singleton, Finset.mem_erase]
    by_cases hd : d = device
    · simp [hd, hp]
    · simp [hd]
  · rw [List.nodup_append]
    refine ⟨h.permits_nodup, by simp, ?_⟩
    rintro a ha b hb rfl
    exact h.permits_free a ha (List.mem_singleton.mp hb ▸ hp)
  · intro d hm hd
    obtain ⟨hne, hd⟩ := Finset.mem_erase.mp hd
    rcases List.mem_append.mp hm with hm | hm
    · exact h.permits_free d hm hd
    · exact hne (List.mem_singleton.mp hm)
  · intro d hm
    obtain ⟨hne, hm⟩ := Finset.mem_erase.mp hm
    obtain ⟨e, he⟩ := h.handoff_waits d hm
    refine ⟨e, mem_without.mpr ⟨he, ?_⟩⟩
    rintro rfl
    exact hne (congrArg Prod.fst (h.wait_unique he hmem rfl))
  · intro _ w hm hw
    exact (h.popped hopen w (mem_without.mp hm).1 hw).imp
      (fun hp => Finset.mem_erase.mpr ⟨hquiet w hm hw, hp⟩) id
  · intro _ w hm w' hm' hdev hne hw hw'
    exact h.single hopen w (mem_without.mp hm).1 w' (mem_without.mp hm').1 hdev hne hw hw'

/-- Whether an acquire that leaves its wait finds its own: the agent shuts down, or its
own entry is out of the queue, and if its device is flagged as cancelled then every other
acquire of the device is still queued. -/
def findsOwn (s : OperationScheduler) (waits : List (ℕ × ℕ)) (device event : ℕ) : Bool :=
  s.shutdown || (!s.waiters.contains (device, event) &&
    (decide (device ∉ s.cancelled) ||
      waits.all fun w => w.1 != device || w.2 == event || s.waiters.contains w))

/-- The condition, spelled out for an agent that does not shut down. -/
theorem findsOwn_of_open {device event : ℕ} (hopen : s.shutdown = false)
    (h : findsOwn s waits device event = true) :
    (device, event) ∉ s.waiters ∧ (device ∈ s.cancelled → ∀ e, (device, e) ∈ waits →
      e ≠ event → (device, e) ∈ s.waiters) := by
  simp only [findsOwn, hopen, Bool.false_or, Bool.and_eq_true, Bool.not_eq_true',
    Bool.or_eq_true, decide_eq_true_eq, List.all_eq_true, bne_iff_ne, beq_iff_eq] at h
  refine ⟨by simpa using h.1, fun hc e he hne => ?_⟩
  simpa [hne] using (h.2.resolve_left (not_not_intro hc)) (device, e) he

/-- An acquire that finds its own leaves its wait: a promoted one with a permit, the
others without, and a hand-off it does not take over is given back. -/
theorem accounts_leave {device event : ℕ} (h : Accounts s waits permits)
    (hmem : (device, event) ∈ waits) (hown : findsOwn s waits device event = true) :
    Accounts (s.leave device).2.1 (without waits event)
      (if (s.leave device).1 = .granted then permits ++ [device] else permits) ∧
    ((s.leave device).1 = .granted → device ∈ s.pendingHandoff) := by
  unfold OperationScheduler.leave
  split
  · rename_i hshut
    have hout : (device, event) ∉ s.waiters := by
      rw [h.closed hshut]
      exact List.not_mem_nil
    exact ⟨accounts_releasePendingHandoff h hmem hout (fun d _ (hd : d ∈ s.cancelled) => hd)
      fun hopen => absurd (hopen.symm.trans hshut) (by decide), nofun⟩
  · rename_i hshut
    have hopen : s.shutdown = false := by simpa using hshut
    obtain ⟨hout, hothers⟩ := findsOwn_of_open hopen hown
    split
    · rename_i hc
      have hrel := accounts_releasePendingHandoff h hmem hout
        (fun d hne hd => (Finset.mem_erase.mpr ⟨hne, hd⟩ : d ∈ s.cancelled.erase device))
        fun _ => hothers hc
      dsimp only
      split
      · exact ⟨accounts_wakeOne hrel, nofun⟩
      · rename_i hp
        unfold OperationScheduler.releasePendingHandoff at hrel
        rw [if_neg hp] at hrel
        exact ⟨hrel, nofun⟩
    · rename_i hc
      obtain ⟨hp, htake⟩ := accounts_takeHandoff h hmem hopen hout hc
      exact ⟨htake, fun _ => hp⟩

end Ledger

/-! ### Agents -/

/-- The waits of an agent: the devices and events of its acquires. -/
def Agent.waits (a : Agent) : List (ℕ × ℕ) := a.acquires.map fun c => (c.device, c.event)

/-- The devices of the live permits. -/
def Agent.permitDevices (a : Agent) : List ℕ := a.permits.map OperationPermit.device

/-- Setting events leaves the waits. -/
@[simp] theorem waits_setEvents (a : Agent) (events : List ℕ) :
    (a.setEvents events).waits = a.waits := by
  simp only [Agent.waits, Agent.setEvents, List.map_map]
  refine List.map_congr_left fun c _ => ?_
  simp only [Function.comp_apply]
  split <;> rfl

/-- Moving an acquire to another stage leaves the waits. -/
@[simp] theorem waits_setStage (a : Agent) (event : ℕ) (stage : Stage) :
    (a.setStage event stage).waits = a.waits := by
  simp only [Agent.waits, Agent.setStage, List.map_map]
  refine List.map_congr_left fun c _ => ?_
  simp only [Function.comp_apply]
  split <;> rfl

/-- A finished acquire is out of the waits. -/
@[simp] theorem waits_finish (a : Agent) (event : ℕ) :
    (a.finish event).waits = without a.waits event := by
  simp only [Agent.waits, Agent.finish, without, List.filter_map]
  rfl

/-- A locked section leaves the waits. -/
@[simp] theorem waits_update (a : Agent) (s : OperationScheduler) (events : List ℕ) :
    (a.update s events).waits = a.waits :=
  waits_setEvents _ events

/-- An agent accounts for its acquires and permits, and its next event is new. -/
structure AgentAccounts (a : Agent) : Prop where
  accounts : Accounts a.scheduler a.waits a.permitDevices
  fresh : ∀ w ∈ a.waits, w.2 < a.next

/-- The accounts depend on the scheduler, the waits, the permits and the next event. -/
theorem AgentAccounts.of_eq {a : Agent} {s : OperationScheduler} {waits : List (ℕ × ℕ)}
    {permits : List ℕ} {next : ℕ} (h : Accounts s waits permits)
    (hfresh : ∀ w ∈ waits, w.2 < next) (hs : a.scheduler = s) (hw : a.waits = waits)
    (hp : a.permitDevices = permits) (hn : a.next = next) : AgentAccounts a := by
  subst hs hw hp hn
  exact ⟨h, hfresh⟩

/-- A fresh agent. -/
theorem agentAccounts_init (n : ℤ) : AgentAccounts (.init n) :=
  ⟨accounts_init n, fun _ hw => absurd hw List.not_mem_nil⟩

/-- An acquire found by its event is one of the waits. -/
theorem mem_waits_of_acquire? {a : Agent} {event : ℕ} {c : Acquire}
    (h : a.acquire? event = some c) : c.event = event ∧ (c.device, c.event) ∈ a.waits :=
  ⟨by simpa using List.find?_some h,
    List.mem_map.mpr ⟨c, List.mem_of_find?_eq_some h, rfl⟩⟩

/-- Whether the step is not that of an acquire that leaves its wait with the flag or the
hand-off of another one. -/
def ownsExit (a : Agent) : Op → Bool
  | .resolve event =>
    match a.acquire? event with
    | some c => findsOwn a.scheduler a.waits c.device c.event
    | none => true
  | _ => true

/-- Erasing a permit erases its device. -/
theorem map_device_erase {permits : List OperationPermit} {permit : OperationPermit}
    (hnd : (permits.map OperationPermit.device).Nodup) (hp : permit ∈ permits) :
    (permits.erase permit).map OperationPermit.device =
      (permits.map OperationPermit.device).erase permit.device := by
  induction permits with
  | nil => cases hp
  | cons q rest ih =>
      rw [List.map_cons, List.nodup_cons] at hnd
      by_cases hq : q = permit
      · subst hq
        rw [List.erase_cons_head, List.map_cons, List.erase_cons_head]
      · have hmem := (List.mem_cons.mp hp).resolve_left (Ne.symm hq)
        have hdev : q.device ≠ permit.device := fun heq =>
          hnd.1 (heq ▸ List.mem_map_of_mem hmem)
        rw [List.erase_cons_tail (by simpa using hq), List.map_cons, List.map_cons,
          List.erase_cons_tail (by simpa using hdev), ih hnd.2 hmem]

/-- The first locked section of an acquire keeps the accounts. -/
theorem agentAccounts_stepAcquire {a : Agent} (h : AgentAccounts a) (device : ℕ)
    (timed : Bool) : AgentAccounts (a.stepAcquire device timed) := by
  unfold Agent.stepAcquire OperationScheduler.enter
  split_ifs with hshut hwait hheld hfast
  · exact h
  · exact h
  · exact h
  · exact .of_eq (accounts_takeSlot h.accounts hheld hfast.2)
      (fun w hw => Nat.lt_succ_of_lt (h.fresh w hw)) rfl (waits_update ..)
      (List.map_append ..) rfl
  · have hnew : a.next ∉ a.waits.map Prod.snd := by
      intro hm
      obtain ⟨w, hw, hweq⟩ := List.mem_map.mp hm
      exact (h.fresh w hw).ne hweq
    have hopen : a.scheduler.shutdown = false := by simpa using hshut
    have hqueue : device ∉ a.scheduler.waiters.map Prod.fst := by
      simpa [OperationScheduler.isWaiting] using hwait
    refine .of_eq (accounts_enqueue h.accounts hopen hqueue hheld hnew) ?_ rfl
      (List.map_append ..) rfl rfl
    intro w hw
    rcases List.mem_append.mp hw with hw | hw
    · exact Nat.lt_succ_of_lt (h.fresh w hw)
    · rw [List.mem_singleton.mp hw]
      exact Nat.lt_succ_self _

/-- The check of a wait that ran out keeps the accounts. -/
theorem agentAccounts_stepCheckTimeout {a : Agent} (h : AgentAccounts a) {c : Acquire}
    (hmem : (c.device, c.event) ∈ a.waits) : AgentAccounts (a.stepCheckTimeout c) := by
  unfold Agent.stepCheckTimeout OperationScheduler.timeoutCheck
  by_cases hout : c.device ∉ a.scheduler.pendingHandoff ∧ c.device ∉ a.scheduler.cancelled ∧
      a.scheduler.shutdown = false
  · simp only [if_pos hout, if_true]
    obtain ⟨hp, hc, hopen⟩ := hout
    exact .of_eq (accounts_popWaiter h.accounts hopen hmem hp hc)
      (fun w hw => h.fresh w (mem_without.mp hw).1) rfl
      ((waits_update ..).trans (waits_finish ..)) rfl rfl
  · simp only [if_neg hout, Bool.false_eq_true, if_false]
    exact .of_eq h.accounts h.fresh rfl (waits_setStage ..) rfl rfl

/-- An acquire that finds its own leaves its wait and keeps the accounts. -/
theorem agentAccounts_stepResolve {a : Agent} (h : AgentAccounts a) {c : Acquire}
    (hmem : (c.device, c.event) ∈ a.waits)
    (hown : findsOwn a.scheduler a.waits c.device c.event = true) :
    AgentAccounts (a.stepResolve c) := by
  have hleave := (accounts_leave h.accounts hmem hown).1
  have hfresh : ∀ w ∈ without a.waits c.event, w.2 < a.next :=
    fun w hw => h.fresh w (mem_without.mp hw).1
  have hwaits : ((a.finish c.event).update (a.scheduler.leave c.device).2.1
      (a.scheduler.leave c.device).2.2).waits = without a.waits c.event :=
    (waits_update ..).trans (waits_finish ..)
  unfold Agent.stepResolve
  dsimp only
  split
  · rename_i hgrant
    rw [if_pos hgrant] at hleave
    exact .of_eq hleave hfresh rfl hwaits (List.map_append ..) rfl
  · rename_i hgrant
    rw [if_neg hgrant] at hleave
    exact .of_eq hleave hfresh rfl hwaits rfl rfl

/-- A released permit keeps the accounts. -/
theorem agentAccounts_stepRelease {a : Agent} (h : AgentAccounts a)
    {permit : OperationPermit} (hp : permit ∈ a.permits) :
    AgentAccounts (a.stepRelease permit) :=
  .of_eq (accounts_wakeOne (accounts_giveSlot h.accounts (List.mem_map_of_mem hp))) h.fresh
    rfl (waits_update ..) (map_device_erase h.accounts.permits_nodup hp) rfl

/-- Adjusting the cap keeps the accounts. -/
theorem accounts_setMaxConcurrent {s : OperationScheduler} {waits : List (ℕ × ℕ)}
    {permits : List ℕ} (h : Accounts s waits permits) (n : ℤ) :
    Accounts (s.setMaxConcurrent n).1 waits permits := by
  unfold OperationScheduler.setMaxConcurrent
  dsimp only
  split
  · exact accounts_wakeOne (h.setCap (max n 1))
  · exact h.setCap (max n 1)

/-- **One step** of any thread keeps the accounts, when an acquire that leaves its wait
finds its own. -/
theorem agentAccounts_step {a a' : Agent} {op : Op} (h : AgentAccounts a)
    (hown : ownsExit a op = true) (hstep : a.step op = some a') : AgentAccounts a' := by
  cases op with
  | acquire device timed =>
      cases hstep
      exact agentAccounts_stepAcquire h device timed
  | waitReturns event =>
      obtain ⟨c, -, hc⟩ := Option.bind_eq_some_iff.mp hstep
      split_ifs at hc
      cases hc
      exact .of_eq h.accounts h.fresh rfl (waits_setStage ..) rfl rfl
  | waitExpires event =>
      obtain ⟨c, -, hc⟩ := Option.bind_eq_some_iff.mp hstep
      split_ifs at hc
      cases hc
      exact .of_eq h.accounts h.fresh rfl (waits_setStage ..) rfl rfl
  | checkTimeout event =>
      obtain ⟨c, hfind, hc⟩ := Option.bind_eq_some_iff.mp hstep
      split_ifs at hc
      cases hc
      exact agentAccounts_stepCheckTimeout h (mem_waits_of_acquire? hfind).2
  | resolve event =>
      obtain ⟨c, hfind, hc⟩ := Option.bind_eq_some_iff.mp hstep
      split_ifs at hc
      cases hc
      simp only [ownsExit, hfind] at hown
      exact agentAccounts_stepResolve h (mem_waits_of_acquire? hfind).2 hown
  | release permit =>
      simp only [Agent.step] at hstep
      split_ifs at hstep with hp
      cases hstep
      exact agentAccounts_stepRelease h hp
  | cancelDevice device =>
      cases hstep
      exact .of_eq (accounts_cancelDevice h.accounts device) h.fresh rfl rfl rfl rfl
  | setMaxConcurrent n =>
      cases hstep
      exact .of_eq (accounts_setMaxConcurrent h.accounts n) h.fresh rfl (waits_update ..)
        rfl rfl
  | shutdown =>
      cases hstep
      exact .of_eq (accounts_shutDown h.accounts) h.fresh rfl rfl rfl rfl
  | signal event =>
      simp only [Agent.step] at hstep
      split_ifs at hstep
      cases hstep
      exact .of_eq h.accounts h.fresh rfl (waits_setEvents ..) rfl rfl

/-! ### Grants -/

/-- Waking hands slots over only below the cap. -/
theorem wakeOne_handoff (s : OperationScheduler) {d : ℕ}
    (hd : d ∈ s.wakeOne.1.pendingHandoff) :
    d ∈ s.pendingHandoff ∨ (s.wakeOne.1.held : ℤ) ≤ s.wakeOne.1.maxConcurrent := by
  have hall : ∀ d ∈ s.wakeOne.1.pendingHandoff,
      d ∈ s.pendingHandoff ∨ (s.wakeOne.1.held : ℤ) ≤ s.wakeOne.1.maxConcurrent := by
    refine OperationScheduler.wakeOne_eq_promote (P := fun s' => ∀ d ∈ s'.pendingHandoff,
      d ∈ s.pendingHandoff ∨ (s'.held : ℤ) ≤ s'.maxConcurrent) ?_ fun d hd => .inl hd
    intro s' device event rest _ _ _ hlt d _
    refine .inr ?_
    simp only [OperationScheduler.promote, OperationScheduler.takeSlot, Nat.cast_add,
      Nat.cast_one]
    omega
  exact hall d hd

/-- What a step grants: a new permit takes a hand-off over or is granted below the cap, and
after new hand-offs the held slots are within the cap, so that each was made below it. -/
def GrantsBelowCap (a a' : Agent) : Prop :=
  (∀ p ∈ a'.permits, p ∈ a.permits ∨ p.device ∈ a.scheduler.pendingHandoff ∨
    (a.scheduler.held : ℤ) < a.scheduler.maxConcurrent) ∧
  ∀ d ∈ a'.scheduler.pendingHandoff, d ∈ a.scheduler.pendingHandoff ∨
    (a'.scheduler.held : ℤ) ≤ a'.scheduler.maxConcurrent

/-- Without new permits and hand-offs nothing is granted. -/
theorem grantsBelowCap_of_subset {a a' : Agent} (hp : ∀ p ∈ a'.permits, p ∈ a.permits)
    (hd : ∀ d ∈ a'.scheduler.pendingHandoff, d ∈ a.scheduler.pendingHandoff) :
    GrantsBelowCap a a' :=
  ⟨fun p h => .inl (hp p h), fun d h => .inl (hd d h)⟩

/-- A released hand-off is no new one. -/
theorem releasePendingHandoff_subset (s : OperationScheduler) (device : ℕ) {d : ℕ}
    (hd : d ∈ (s.releasePendingHandoff device).pendingHandoff) : d ∈ s.pendingHandoff := by
  unfold OperationScheduler.releasePendingHandoff at hd
  split at hd
  · exact Finset.mem_of_mem_erase hd
  · exact hd

/-- Leaving a wait hands slots over only below the cap. -/
theorem leave_handoff (s : OperationScheduler) (device : ℕ) {d : ℕ}
    (hd : d ∈ (s.leave device).2.1.pendingHandoff) :
    d ∈ s.pendingHandoff ∨
      ((s.leave device).2.1.held : ℤ) ≤ (s.leave device).2.1.maxConcurrent := by
  revert hd
  unfold OperationScheduler.leave
  split
  · exact fun hd => .inl (releasePendingHandoff_subset s device hd)
  · split
    · dsimp only
      split
      · intro hd
        refine (wakeOne_handoff _ hd).imp (fun hd => ?_) id
        exact releasePendingHandoff_subset
          { s with cancelled := s.cancelled.erase device } device hd
      · exact fun hd => .inl hd
    · exact fun hd => .inl (Finset.mem_of_mem_erase hd)

/-- A cancel makes no hand-off. -/
theorem pendingHandoff_cancelDevice (s : OperationScheduler) (device : ℕ) :
    (s.cancelDevice device).1.pendingHandoff = s.pendingHandoff := by
  unfold OperationScheduler.cancelDevice
  dsimp only
  split <;> rfl

/-- Adjusting the cap hands slots over only below it. -/
theorem setMaxConcurrent_handoff (s : OperationScheduler) (n : ℤ) {d : ℕ}
    (hd : d ∈ (s.setMaxConcurrent n).1.pendingHandoff) :
    d ∈ s.pendingHandoff ∨
      ((s.setMaxConcurrent n).1.held : ℤ) ≤ (s.setMaxConcurrent n).1.maxConcurrent := by
  revert hd
  unfold OperationScheduler.setMaxConcurrent
  dsimp only
  split
  · exact fun hd => wakeOne_handoff _ hd
  · exact fun hd => .inl hd

/-- A step of an agent with its accounts in order grants only below the cap. -/
theorem grantsBelowCap_step {a a' : Agent} {op : Op} (h : AgentAccounts a)
    (hown : ownsExit a op = true) (hstep : a.step op = some a') : GrantsBelowCap a a' := by
  cases op with
  | acquire device timed =>
      cases hstep
      unfold Agent.stepAcquire OperationScheduler.enter
      split_ifs with hshut hwait hheld hfast
      · exact grantsBelowCap_of_subset (fun _ h => h) fun _ h => h
      · exact grantsBelowCap_of_subset (fun _ h => h) fun _ h => h
      · exact grantsBelowCap_of_subset (fun _ h => h) fun _ h => h
      · exact ⟨fun _ _ => .inr (.inr hfast.1), fun _ h => .inl h⟩
      · exact grantsBelowCap_of_subset (fun _ h => h) fun _ h => h
  | waitReturns event =>
      obtain ⟨c, -, hc⟩ := Option.bind_eq_some_iff.mp hstep
      split_ifs at hc
      cases hc
      exact grantsBelowCap_of_subset (fun _ h => h) fun _ h => h
  | waitExpires event =>
      obtain ⟨c, -, hc⟩ := Option.bind_eq_some_iff.mp hstep
      split_ifs at hc
      cases hc
      exact grantsBelowCap_of_subset (fun _ h => h) fun _ h => h
  | checkTimeout event =>
      obtain ⟨c, -, hc⟩ := Option.bind_eq_some_iff.mp hstep
      split_ifs at hc
      cases hc
      unfold Agent.stepCheckTimeout OperationScheduler.timeoutCheck
      split_ifs <;> exact grantsBelowCap_of_subset (fun _ h => h) fun _ h => h
  | resolve event =>
      obtain ⟨c, hfind, hc⟩ := Option.bind_eq_some_iff.mp hstep
      split_ifs at hc
      cases hc
      simp only [ownsExit, hfind] at hown
      have hgrant := (accounts_leave h.accounts (mem_waits_of_acquire? hfind).2 hown).2
      unfold Agent.stepResolve
      dsimp only
      split
      · rename_i hg
        refine ⟨fun p hp => ?_, fun d hd => leave_handoff _ _ hd⟩
        rcases List.mem_append.mp hp with hp | hp
        · exact .inl hp
        · exact .inr (.inl (List.mem_singleton.mp hp ▸ hgrant hg))
      · exact ⟨fun p hp => .inl hp, fun d hd => leave_handoff _ _ hd⟩
  | release permit =>
      simp only [Agent.step] at hstep
      split_ifs at hstep
      cases hstep
      exact ⟨fun p hp => .inl (List.mem_of_mem_erase hp), fun d hd => wakeOne_handoff _ hd⟩
  | cancelDevice device =>
      cases hstep
      exact grantsBelowCap_of_subset (fun _ h => h) fun d hd =>
        pendingHandoff_cancelDevice a.scheduler device ▸ hd
  | setMaxConcurrent n =>
      cases hstep
      exact ⟨fun p hp => .inl hp, fun d hd => setMaxConcurrent_handoff a.scheduler n hd⟩
  | shutdown =>
      cases hstep
      exact grantsBelowCap_of_subset (fun _ h => h) fun _ h => h
  | signal event =>
      simp only [Agent.step] at hstep
      split_ifs at hstep
      cases hstep
      exact grantsBelowCap_of_subset (fun _ h => h) fun _ h => h

/-! ### The accounting -/

/-- What the scheduler is to account for: live permits and hand-offs are the held slots,
the held slots are the held devices, no device has two live permits, and when all permits
are released and no acquire is under way nothing is held. -/
def Accounting (a : Agent) : Prop :=
  a.permits.length + a.scheduler.pendingHandoff.card = a.scheduler.held ∧
  a.scheduler.held = a.scheduler.heldDevices.card ∧
  a.permitDevices.Nodup ∧
  (a.permits = [] → a.acquires = [] → a.scheduler.held = 0)

instance (a : Agent) : Decidable (Accounting a) := inferInstanceAs (Decidable (_ ∧ _))

/-- An agent with its accounts in order satisfies the accounting. -/
theorem AgentAccounts.accounting {a : Agent} (h : AgentAccounts a) : Accounting a := by
  have hheld := h.accounts.held_eq_add
  rw [Agent.permitDevices, List.length_map] at hheld
  refine ⟨hheld, h.accounts.held_eq, h.accounts.permits_nodup, fun hp hc => ?_⟩
  have hnone : a.scheduler.pendingHandoff = ∅ := by
    refine Finset.eq_empty_of_forall_notMem fun d hd => ?_
    obtain ⟨e, he⟩ := h.accounts.handoff_waits d hd
    rw [Agent.waits, hc] at he
    exact List.not_mem_nil he
  rw [← hheld, hp, hnone]
  rfl

/-- The steps of all threads of an agent. -/
def AgentStep (a : Agent) (op : Op) (a' : Agent) : Prop := a.step op = some a'

/-- **The accounting of the scheduler.** Take any number of threads and any interleaving of
acquires, releases, cancels, changes of the cap and shutdowns in which an acquire that
leaves its wait finds its own: its queue entry is gone, and if its device is flagged as
cancelled every other acquire of the device is still queued. Then every state reached
satisfies the accounting, and every step grants only below the cap. -/
theorem accounting_of_ownsExit (n : ℤ) {tr : List (Agent × Op)} {a : Agent}
    (hrun : Run AgentStep (.init n) tr a) (hown : ∀ p ∈ tr, ownsExit p.1 p.2 = true) :
    Holds Accounting tr a ∧
      ∀ p ∈ tr, ∀ a', p.1.step p.2 = some a' → GrantsBelowCap p.1 a' := by
  have hinv : Holds AgentAccounts tr a :=
    hrun.invariant_of_guard (fun a op => ownsExit a op = true)
      (fun h hown hstep => agentAccounts_step h hown hstep) (agentAccounts_init n) hown
  refine ⟨⟨fun p hp => (hinv.1 p hp).accounting, hinv.2.accounting⟩, ?_⟩
  exact fun p hp a' hstep => grantsBelowCap_step (hinv.1 p hp) (hown p hp) hstep

/-- The theorem at work: with one slot, a second device waits, is promoted by the release
of the first, cancelled during the hand-off, and the slot comes back. -/
theorem accounting_of_ownsExit_cancel :
    let ops : List Op := [.acquire 7 false, .acquire 1 true, .release ⟨0, 7⟩,
      .cancelDevice 1, .waitReturns 1, .resolve 1]
    ∃ a, ops.foldlM Agent.step (.init 1) = some a ∧ a.scheduler.held = 0 ∧
      Holds Accounting (traceOf Agent.step (.init 1) ops) a := by
  intro ops
  obtain ⟨a, ha⟩ : ∃ a, ops.foldlM Agent.step (.init 1) = some a :=
    Option.isSome_iff_exists.mp (by decide)
  have h := accounting_of_ownsExit 1 (Run.of_foldlM ha) (by decide)
  refine ⟨a, ha, ?_, h.1⟩
  have hheld : (ops.foldlM Agent.step (.init 1)).map (fun a => a.scheduler.held) = some 0 := by
    decide
  rw [ha] at hheld
  exact Option.some.inj hheld

/-- **A phantom permit.** Device 7 holds the only slot. An acquire of device 1 waits and is
cancelled; before it wakes, a second acquire of device 1 joins the queue and the release of
device 7 promotes it. The second one wakes first, finds the flag of the first, raises and
gives the slot back. The first one then finds neither flag nor hand-off and returns a
permit while nothing is held. -/
theorem phantom_permit :
    ∃ tr a, Run AgentStep (.init 1) tr a ∧ ¬ Accounting a ∧
      a.permits = [OperationPermit.mk 1 1] ∧ a.scheduler.held = 0 := by
  let ops : List Op := [.acquire 7 false, .acquire 1 false, .cancelDevice 1,
    .acquire 1 false, .release ⟨0, 7⟩, .waitReturns 2, .resolve 2, .signal 1,
    .waitReturns 1, .resolve 1]
  obtain ⟨a, ha⟩ : ∃ a, ops.foldlM Agent.step (.init 1) = some a :=
    Option.isSome_iff_exists.mp (by decide)
  have hend : (ops.foldlM Agent.step (.init 1)).map (fun a =>
      decide (¬ Accounting a ∧ a.permits = [OperationPermit.mk 1 1] ∧
        a.scheduler.held = 0)) = some true := by
    decide
  rw [ha] at hend
  exact ⟨_, a, Run.of_foldlM ha, of_decide_eq_true (Option.some.inj hend)⟩

end StabilityPlatform
