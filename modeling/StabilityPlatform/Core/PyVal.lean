import Mathlib

/-!
# Python values

The JSON columns and payloads of the control plane are nested Python values. This module
has the values, the built-in operations the services apply to them, and the few string
functions they call. A float keeps its value together with the text `repr` gives it.

## Main results

* `PyDict.get_set_self`, `PyDict.get_set_of_ne`: reading an item after writing one.
* `PyDict.get_update_of_forall_ne`: an update leaves the keys it does not mention.
-/

namespace StabilityPlatform

/-- A moment in time: microseconds since the epoch, in UTC. -/
abbrev Time := ℤ

/-- The values JSON decodes to. -/
inductive PyVal where
  | null
  | bool (b : Bool)
  | int (z : ℤ)
  | float (q : ℚ) (text : String)
  | str (s : String)
  | list (xs : List PyVal)
  | dict (items : List (String × PyVal))
  deriving Inhabited

/-- A dictionary with string keys. -/
abbrev PyDict := List (String × PyVal)

/-- The exceptions the modelled functions raise or let through. -/
inductive PyError where
  | typeError
  | valueError
  | keyError
  | attributeError
  | integrityError
  | dataError
  | notFound
  | conflict (message : String)
  deriving DecidableEq, Repr

/-! ### Strings -/

/-- What `str.strip` removes. -/
def isPySpace (c : Char) : Bool :=
  (9 ≤ c.toNat && c.toNat ≤ 13) || (28 ≤ c.toNat && c.toNat ≤ 32) ||
    [0x85, 0xa0, 0x1680, 0x2028, 0x2029, 0x202f, 0x205f, 0x3000].contains c.toNat ||
    (0x2000 ≤ c.toNat && c.toNat ≤ 0x200a)

/-- `s.strip()`. -/
def pyStrip (s : String) : String :=
  String.ofList ((s.toList.dropWhile isPySpace).reverse.dropWhile isPySpace).reverse

/-- `s.upper()`, for the letters the status words of the source are made of. -/
def pyUpper (s : String) : String := String.ofList (s.toList.map Char.toUpper)

/-- `s.startswith(p)`. -/
def pyStartsWith (s p : String) : Bool := p.toList.isPrefixOf s.toList

/-- `s.split(sep)` for a one-character separator. -/
def pySplit (s : String) (sep : Char) : List String :=
  (s.toList.splitOn sep).map String.ofList

/-- Decimal digits with single underscores between them; `need` when a digit has to come. -/
def pyDigits (need : Bool) (acc : ℕ) : List Char → Option ℕ
  | [] => if need then none else some acc
  | c :: rest =>
    if c.isDigit then pyDigits false (10 * acc + (c.toNat - 48)) rest
    else if c = '_' && !need then pyDigits true acc rest
    else none

/-- `int(s)` for a string of ASCII characters; `none` when it raises. -/
def pyIntOfStr (s : String) : Option ℤ :=
  match (pyStrip s).toList with
  | '-' :: digits => (pyDigits true 0 digits).map fun n => -(n : ℤ)
  | '+' :: digits => (pyDigits true 0 digits).map fun n => (n : ℤ)
  | digits => (pyDigits true 0 digits).map fun n => (n : ℤ)

/-- A number with at least `width` digits. -/
def zeroPad (width n : ℕ) : String :=
  String.ofList (List.replicate (width - (toString n).length) '0') ++ toString n

/-- The proleptic Gregorian date of a day counted from the epoch: year, month, day. -/
def civilFromDays (days : ℤ) : ℤ × ℕ × ℕ :=
  let z := days + 719468
  let era := z / 146097
  let doe := (z - era * 146097).toNat
  let yoe := (doe - doe / 1460 + doe / 36524 - doe / 146096) / 365
  let doy := doe - (365 * yoe + yoe / 4 - yoe / 100)
  let mp := (5 * doy + 2) / 153
  let month := if mp < 10 then mp + 3 else mp - 9
  let year := (yoe : ℤ) + era * 400 + if month ≤ 2 then 1 else 0
  (year, month, doy - (153 * mp + 2) / 5 + 1)

/-- `datetime.isoformat()` of a moment in UTC. -/
def isoformat (t : Time) : String :=
  let (year, month, day) := civilFromDays (t / 86400000000)
  let us := (t % 86400000000).toNat
  let secs := us / 1000000
  let frac := us % 1000000
  zeroPad 4 year.toNat ++ "-" ++ zeroPad 2 month ++ "-" ++ zeroPad 2 day ++ "T" ++
    zeroPad 2 (secs / 3600) ++ ":" ++ zeroPad 2 (secs / 60 % 60) ++ ":" ++
    zeroPad 2 (secs % 60) ++ (if frac = 0 then "" else "." ++ zeroPad 6 frac) ++ "+00:00"

example : isoformat 1709251199000001 = "2024-02-29T23:59:59.000001+00:00" := by decide

namespace PyVal

/-! ### Built-in operations -/

/-- `bool(v)`. -/
def truthy : PyVal → Bool
  | null => false
  | bool b => b
  | int z => z != 0
  | float q _ => q != 0
  | str s => s != ""
  | list xs => !xs.isEmpty
  | dict items => !items.isEmpty

/-- `v or w`. -/
def orElse (v w : PyVal) : PyVal := if v.truthy then v else w

/-- Whether `hash(v)` is defined. -/
def isHashable : PyVal → Bool
  | list _ => false
  | dict _ => false
  | _ => true

/-- The value as a mapping, if it is one. -/
def asDict? : PyVal → Option PyDict
  | dict items => some items
  | _ => none

/-- The value as a list, if it is one. -/
def asList? : PyVal → Option (List PyVal)
  | list xs => some xs
  | _ => none

/-- The value as a string, if it is one. -/
def asStr? : PyVal → Option String
  | str s => some s
  | _ => none

/-- `for x in v`: the members of a list, the keys of a mapping, the characters of a
string. -/
def pyIter : PyVal → Except PyError (List PyVal)
  | list xs => .ok xs
  | dict items => .ok (items.map fun p => str p.1)
  | str s => .ok (s.toList.map fun c => str (String.ofList [c]))
  | _ => .error .typeError

/-- A string or `None`. -/
def ofStr? : Option String → PyVal
  | some s => str s
  | Option.none => null

/-- `int(v)`; `none` when it raises. -/
def int? : PyVal → Option ℤ
  | bool b => some (if b then 1 else 0)
  | int z => some z
  | float q _ => some (q.num.tdiv q.den)
  | str s => pyIntOfStr s
  | _ => Option.none

/-- The numeric value; booleans count as numbers only in Python. -/
def num? (boolsCount : Bool) : PyVal → Option ℚ
  | bool b => if boolsCount then some (if b then 1 else 0) else none
  | int z => some z
  | float q _ => some q
  | _ => none

mutual

/-- Equality of values: numbers by value, dictionaries whatever the order of their items. -/
def eqWith (boolsCount : Bool) : PyVal → PyVal → Bool
  | null, null => true
  | bool a, bool b => a == b
  | int a, int b => a == b
  | str s, str t => s == t
  | list xs, list ys => eqLists boolsCount xs ys
  | dict xs, dict ys => xs.length == ys.length && eqItems boolsCount xs ys
  | v, w =>
    match v.num? boolsCount, w.num? boolsCount with
    | some a, some b => a == b
    | _, _ => false

/-- Equality of lists of values. -/
def eqLists (boolsCount : Bool) : List PyVal → List PyVal → Bool
  | [], [] => true
  | v :: xs, w :: ys => eqWith boolsCount v w && eqLists boolsCount xs ys
  | _, _ => false

/-- Every item of the first list is an item of the second. -/
def eqItems (boolsCount : Bool) : PyDict → PyDict → Bool
  | [], _ => true
  | (k, v) :: xs, ys =>
    (match ys.lookup k with
      | some w => eqWith boolsCount v w
      | none => false) && eqItems boolsCount xs ys

end

/-- `v == w` in Python, where `True == 1`. -/
def pyEq (v w : PyVal) : Bool := eqWith true v w

/-- `v = w` on JSONB in the database, where booleans are no numbers. -/
def jsonbEq (v w : PyVal) : Bool := eqWith false v w

/-- `v in values`, for a tuple or a set of strings. -/
def isOneOf (v : PyVal) (values : List String) : Bool :=
  match v with
  | str s => values.contains s
  | _ => false

/-- The body of `repr` of a string, between its quotes. -/
def reprChar (quote c : Char) : String :=
  if c = quote ∨ c = '\\' then String.ofList ['\\', c]
  else if c = '\n' then "\\n"
  else if c = '\r' then "\\r"
  else if c = '\t' then "\\t"
  else String.ofList [c]

/-- `repr(s)` of a string of printable characters. -/
def reprStr (s : String) : String :=
  let quote := if s.toList.contains '\'' && !s.toList.contains '\"' then '\"' else '\''
  String.ofList [quote] ++ String.join (s.toList.map (reprChar quote)) ++ String.ofList [quote]

mutual

/-- `repr(v)`. -/
def pyRepr : PyVal → String
  | null => "None"
  | bool b => if b then "True" else "False"
  | int z => toString z
  | float _ text => text
  | str s => reprStr s
  | list xs => "[" ++ ", ".intercalate (reprLists xs) ++ "]"
  | dict items => String.ofList ['\x7b'] ++ ", ".intercalate (reprItems items) ++
      String.ofList ['\x7d']

/-- `repr` of the members of a list. -/
def reprLists : List PyVal → List String
  | [] => []
  | v :: xs => pyRepr v :: reprLists xs

/-- `repr` of the items of a dictionary. -/
def reprItems : PyDict → List String
  | [] => []
  | (k, v) :: xs => (reprStr k ++ ": " ++ pyRepr v) :: reprItems xs

end

/-- `str(v)`. -/
def pyStr : PyVal → String
  | str s => s
  | v => pyRepr v

/-- `str(v or "")`. -/
def strOrEmpty (v : PyVal) : String := if v.truthy then v.pyStr else ""

@[simp] theorem strOrEmpty_str (s : String) : (str s).strOrEmpty = s := by
  by_cases h : s = "" <;> simp [strOrEmpty, truthy, pyStr, h]

end PyVal

namespace PyDict

/-! ### Dictionaries -/

/-- `d.get(k)`. -/
def get (d : PyDict) (k : String) : PyVal := (d.lookup k).getD .null

/-- `k in d`. -/
def contains (d : PyDict) (k : String) : Bool := (d.lookup k).isSome

/-- `d[k] = v`: in place when the key is there, at the end when it is new. -/
def set : PyDict → String → PyVal → PyDict
  | [], k, v => [(k, v)]
  | p :: rest, k, v => if p.1 = k then (k, v) :: rest else p :: set rest k v

/-- `d.update(e)`. -/
def update (d e : PyDict) : PyDict := e.foldl (fun d p => set d p.1 p.2) d

/-- A written key reads back. -/
@[simp] theorem get_set_self (d : PyDict) (k : String) (v : PyVal) :
    get (set d k v) k = v := by
  induction d with
  | nil => simp [set, get]
  | cons p rest ih =>
      by_cases h : p.1 = k
      · simp [set, get, h]
      · have hne : (k == p.1) = false := by simpa using Ne.symm h
        simpa [set, get, h, List.lookup, hne] using ih

/-- Writing one key leaves the others. -/
theorem get_set_of_ne (d : PyDict) {k k' : String} (v : PyVal) (hk : k' ≠ k) :
    get (set d k v) k' = get d k' := by
  have hkk : (k' == k) = false := by simpa using hk
  induction d with
  | nil => simp [set, get, List.lookup, hkk]
  | cons p rest ih =>
      by_cases h : p.1 = k
      · simp [set, get, h, List.lookup, hkk]
      · simp only [set, if_neg h, get, List.lookup]
        cases hp : k' == p.1 with
        | true => rfl
        | false => simpa [get] using ih

/-- An update leaves the keys it does not mention. -/
theorem get_update_of_forall_ne {d e : PyDict} {k : String} (h : ∀ p ∈ e, p.1 ≠ k) :
    get (update d e) k = get d k := by
  induction e generalizing d with
  | nil => rfl
  | cons p rest ih =>
      rw [List.forall_mem_cons] at h
      exact (ih (d := set d p.1 p.2) h.2).trans (get_set_of_ne d p.2 h.1.symm)

end PyDict

end StabilityPlatform
