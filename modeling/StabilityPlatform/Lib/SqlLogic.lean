import Mathlib

/-!
# The logic of a query

A condition of a query is true, false or unknown. A comparison with a missing value is unknown, and
a row is selected only when its condition is true. A case takes the value of its first branch whose
condition is true.

## Main results

* `SqlBool.and_eq_true_iff`, `SqlBool.or_eq_true_iff`, `sqlCompare_eq_true_iff`: when a condition is
  true.
* `caseWhen_of_true`, `caseWhen_of_not`: the branches of a case.
-/

namespace StabilityPlatform.Lib

/-- A truth value; none is unknown. -/
abbrev SqlBool := Option Bool

/-- Both hold: false as soon as one is false. -/
def SqlBool.and : SqlBool → SqlBool → SqlBool
  | some true, q => q
  | some false, _ => some false
  | none, some false => some false
  | none, some true => none
  | none, none => none

/-- One holds: true as soon as one is true. -/
def SqlBool.or : SqlBool → SqlBool → SqlBool
  | some false, q => q
  | some true, _ => some true
  | none, some true => some true
  | none, some false => none
  | none, none => none

variable {α β : Type*}

/-- `a IS NULL`. -/
def sqlIsNull (a : Option α) : SqlBool := some a.isNone

/-- `a IS NOT NULL`. -/
def sqlIsNotNull (a : Option α) : SqlBool := some a.isSome

/-- A comparison; with a missing value it is unknown. -/
def sqlCompare (p : α → β → Bool) : Option α → Option β → SqlBool
  | some a, some b => some (p a b)
  | some _, none => none
  | none, _ => none

/-- `a IN (…)`. -/
def sqlIn [DecidableEq α] (a : Option α) (values : List α) : SqlBool :=
  a.map fun x => decide (x ∈ values)

/-- `a NOT IN (…)`. -/
def sqlNotIn [DecidableEq α] (a : Option α) (values : List α) : SqlBool :=
  a.map fun x => decide (x ∉ values)

/-- `CASE WHEN … THEN … ELSE … END`. -/
def caseWhen (branches : List (SqlBool × Option α)) (otherwise : Option α) : Option α :=
  match branches with
  | [] => otherwise
  | (condition, value) :: rest =>
    if condition = some true then value else caseWhen rest otherwise

/-- Both hold when each does. -/
theorem SqlBool.and_eq_true_iff {p q : SqlBool} :
    p.and q = some true ↔ p = some true ∧ q = some true := by
  rcases p with _ | _ | _ <;> rcases q with _ | _ | _ <;> simp [SqlBool.and]

/-- One holds when either does. -/
theorem SqlBool.or_eq_true_iff {p q : SqlBool} :
    p.or q = some true ↔ p = some true ∨ q = some true := by
  rcases p with _ | _ | _ <;> rcases q with _ | _ | _ <;> simp [SqlBool.or]

/-- A value is missing. -/
@[simp] theorem sqlIsNull_eq_true_iff {a : Option α} : sqlIsNull a = some true ↔ a = none := by
  simp [sqlIsNull]

/-- A value is there. -/
@[simp] theorem sqlIsNotNull_eq_true_iff {a : Option α} :
    sqlIsNotNull a = some true ↔ a.isSome = true := by
  simp [sqlIsNotNull]

/-- A comparison holds when both values are there and compare. -/
theorem sqlCompare_eq_true_iff {p : α → β → Bool} {a : Option α} {b : Option β} :
    sqlCompare p a b = some true ↔ ∃ x y, a = some x ∧ b = some y ∧ p x y = true := by
  cases a with
  | none => simp [sqlCompare]
  | some x =>
      cases b with
      | none => simp [sqlCompare]
      | some y => simp [sqlCompare]

/-- A value is among others. -/
@[simp] theorem sqlIn_eq_true_iff [DecidableEq α] {a : Option α} {values : List α} :
    sqlIn a values = some true ↔ ∃ x, a = some x ∧ x ∈ values := by
  simp [sqlIn]

/-- A value is there, and not among others. -/
@[simp] theorem sqlNotIn_eq_true_iff [DecidableEq α] {a : Option α} {values : List α} :
    sqlNotIn a values = some true ↔ ∃ x, a = some x ∧ x ∉ values := by
  simp [sqlNotIn]

/-- The branch that is taken. -/
theorem caseWhen_of_true {condition : SqlBool} {value : Option α}
    {rest : List (SqlBool × Option α)} {otherwise : Option α} (h : condition = some true) :
    caseWhen ((condition, value) :: rest) otherwise = value :=
  if_pos h

/-- A branch that is not taken. -/
theorem caseWhen_of_not {condition : SqlBool} {value : Option α}
    {rest : List (SqlBool × Option α)} {otherwise : Option α} (h : ¬ condition = some true) :
    caseWhen ((condition, value) :: rest) otherwise = caseWhen rest otherwise :=
  if_neg h

end StabilityPlatform.Lib
