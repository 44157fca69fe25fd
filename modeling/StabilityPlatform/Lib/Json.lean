import StabilityPlatform.Lib.Dict
import StabilityPlatform.Lib.StableSort

/-!
# JSON texts

JSON values, the compact text a serializer with sorted keys writes for them, and what such a
text says about the value: two values have the same text exactly when they agree up to the
order of the items of their objects. A floating point number is given by its text, which
tells finite numbers apart.

## Main results

* `Json.render_append_injective`: a text in front of a delimiter determines its value and
  where it ends.
* `Json.dumps_eq_dumps_iff`: two values have the same text when their normal forms agree.
* `Json.field_norm`: the normal form of a field is the field of the normal form.
* `Json.norm_obj_congr`: the normal form of an object depends on its fields only.
-/

namespace StabilityPlatform.Lib

/-! ### Numbers -/

/-- The characters numbers are written with. -/
def isNumChar (c : Char) : Bool := c.isDigit || ['-', '+', '.', 'e'].contains c

/-- Whether a number may start with the character. -/
def startsNumber (c : Char) : Bool := c.isDigit || c == '-'

/-- The text of a finite floating point number. -/
structure FloatText where
  chars : List Char
  numeric : ∀ c ∈ chars, isNumChar c = true
  starts : chars.head?.any startsNumber = true
  marked : ∃ c ∈ chars, c.isDigit = false ∧ c ≠ '-'

@[ext] theorem FloatText.ext {x y : FloatText} (h : x.chars = y.chars) : x = y := by
  cases x; cases y; subst h; rfl

/-- JSON values. -/
inductive Json where
  | null
  | bool (b : Bool)
  | int (z : ℤ)
  | float (x : FloatText)
  | str (s : String)
  | list (xs : List Json)
  | obj (items : List (String × Json))
  deriving Inhabited

/-- The characters of an integer. -/
def intChars (z : ℤ) : List Char := z.repr.toList

/-- The characters of a natural number are digits, and there is a first one. -/
theorem natChars_digits (n : ℕ) :
    (∀ c ∈ n.repr.toList, c.isDigit = true) ∧ ∃ c rest, n.repr.toList = c :: rest := by
  rw [Nat.toList_repr]
  refine ⟨fun c hc => Nat.isDigit_of_mem_toDigits (by omega) (by omega) hc, ?_⟩
  exact List.exists_cons_of_ne_nil Nat.toDigits_ne_nil

/-- The characters of an integer are digits and signs, and the first starts a number. -/
theorem intChars_spec (z : ℤ) :
    (∀ c ∈ intChars z, c.isDigit = true ∨ c = '-') ∧
      ∃ c rest, intChars z = c :: rest ∧ startsNumber c = true := by
  rw [intChars, Int.repr_eq_if]
  split
  · obtain ⟨hdigits, c, rest, hc⟩ := natChars_digits z.toNat
    refine ⟨fun d hd => .inl (hdigits d hd), c, rest, hc, ?_⟩
    have hdigit := hdigits c (by rw [hc]; exact List.mem_cons_self)
    rw [startsNumber, hdigit, Bool.true_or]
  · obtain ⟨hdigits, -⟩ := natChars_digits (-z).toNat
    rw [String.toList_append]
    refine ⟨fun c hc => ?_, '-', _, rfl, rfl⟩
    rcases List.mem_append.mp hc with h | h
    · exact .inr (List.mem_singleton.mp h)
    · exact .inl (hdigits c h)

/-- The characters determine the integer. -/
theorem intChars_injective : Function.Injective intChars := fun _ _ h =>
  Int.repr_injective (String.toList_injective h)

/-! ### Strings -/

/-- A hexadecimal digit. -/
def hexChar (n : ℕ) : Char := if n < 10 then Char.ofNat (48 + n) else Char.ofNat (87 + n)

/-- A character between quotes: quotes, backslashes and control characters are escaped. -/
def escapeChar (c : Char) : List Char :=
  if c = '\"' then ['\\', '\"']
  else if c = '\\' then ['\\', '\\']
  else if c = '\n' then ['\\', 'n']
  else if c = '\r' then ['\\', 'r']
  else if c = '\t' then ['\\', 't']
  else if c.toNat = 12 then ['\\', 'f']
  else if c.toNat = 8 then ['\\', 'b']
  else if c.toNat < 32 then
    ['\\', 'u', '0', '0', hexChar (c.toNat / 16), hexChar (c.toNat % 16)]
  else [c]

/-- The value of a hexadecimal digit. -/
def hexValue (c : Char) : ℕ := if c.toNat < 58 then c.toNat - 48 else c.toNat - 87

/-- Read one character between quotes. -/
def unescapeChar : List Char → Option (Char × List Char)
  | '\\' :: 'u' :: _ :: _ :: a :: b :: rest =>
    some (Char.ofNat (16 * hexValue a + hexValue b), rest)
  | '\\' :: 'n' :: rest => some ('\n', rest)
  | '\\' :: 'r' :: rest => some ('\r', rest)
  | '\\' :: 't' :: rest => some ('\t', rest)
  | '\\' :: 'f' :: rest => some (Char.ofNat 12, rest)
  | '\\' :: 'b' :: rest => some (Char.ofNat 8, rest)
  | '\\' :: c :: rest => some (c, rest)
  | c :: rest => some (c, rest)
  | [] => none

/-- The characters after the opening quote of a string, the closing quote included. -/
def stringTail (s : List Char) : List Char := s.flatMap escapeChar ++ ['\"']

/-- A control character is one of 32. -/
theorem eq_ofNat_of_lt {c : Char} (h : c.toNat < 32) : ∃ n < 32, c = Char.ofNat n :=
  ⟨c.toNat, h, (Char.ofNat_toNat c).symm⟩

/-- What was escaped reads back. -/
theorem unescapeChar_escapeChar (c : Char) (rest : List Char) :
    unescapeChar (escapeChar c ++ rest) = some (c, rest) := by
  by_cases hctrl : c.toNat < 32
  · obtain ⟨n, hn, rfl⟩ := eq_ofNat_of_lt hctrl
    interval_cases n <;> rfl
  · unfold escapeChar
    split_ifs with h1 h2 h3 h4 h5 h6 h7
    · rw [h1]; rfl
    · rw [h2]; rfl
    · exact absurd (h3 ▸ hctrl) (by decide)
    · exact absurd (h4 ▸ hctrl) (by decide)
    · exact absurd (h5 ▸ hctrl) (by decide)
    · omega
    · omega
    · simp [unescapeChar, h2]

/-- An escaped character does not start with a quote. -/
theorem escapeChar_head (c : Char) : ∃ d tail, escapeChar c = d :: tail ∧ d ≠ '\"' := by
  unfold escapeChar
  split_ifs with h1
  all_goals exact ⟨_, _, rfl, by first | decide | exact h1⟩

/-- The characters of a string end at its closing quote. -/
theorem stringTail_append_injective {s s' u u' : List Char}
    (h : stringTail s ++ u = stringTail s' ++ u') : s = s' ∧ u = u' := by
  induction s generalizing s' with
  | nil =>
      cases s' with
      | nil => exact ⟨rfl, (List.cons.inj h).2⟩
      | cons c rest =>
          obtain ⟨d, tail, hd, hne⟩ := escapeChar_head c
          simp only [stringTail, List.flatMap_cons, hd, List.flatMap_nil, List.nil_append,
            List.cons_append, List.cons.injEq] at h
          exact absurd h.1.symm hne
  | cons c rest ih =>
      cases s' with
      | nil =>
          obtain ⟨d, tail, hd, hne⟩ := escapeChar_head c
          simp only [stringTail, List.flatMap_cons, hd, List.flatMap_nil, List.nil_append,
            List.cons_append, List.cons.injEq] at h
          exact absurd h.1 hne
      | cons c' rest' =>
          have hread := congrArg unescapeChar h
          simp only [stringTail, List.flatMap_cons, List.append_assoc] at hread
          rw [unescapeChar_escapeChar, unescapeChar_escapeChar] at hread
          obtain ⟨rfl, hrest⟩ := Prod.mk.inj (Option.some.inj hread)
          obtain ⟨rfl, hu⟩ := ih (by simpa [stringTail, List.append_assoc] using hrest)
          exact ⟨rfl, hu⟩

/-- A string between quotes. -/
def quote (s : String) : List Char := '\"' :: stringTail s.toList

/-- A quoted string determines the string and where it ends. -/
theorem quote_append_injective {s s' : String} {u u' : List Char}
    (h : quote s ++ u = quote s' ++ u') : s = s' ∧ u = u' := by
  obtain ⟨hs, hu⟩ := stringTail_append_injective (List.cons.inj h).2
  exact ⟨String.toList_injective hs, hu⟩

/-! ### Texts -/

namespace Json

mutual

/-- The text of a value, its items in the order they have. -/
def render : Json → List Char
  | null => ['n', 'u', 'l', 'l']
  | bool true => ['t', 'r', 'u', 'e']
  | bool false => ['f', 'a', 'l', 's', 'e']
  | int z => intChars z
  | float x => x.chars
  | str s => quote s
  | list [] => ['[', ']']
  | list (x :: xs) => '[' :: (render x ++ renderTail xs)
  | obj [] => [Char.ofNat 123, Char.ofNat 125]
  | obj ((k, v) :: items) => Char.ofNat 123 :: (quote k ++ ':' :: (render v ++ renderItems items))

/-- The text of the members after the first, the closing bracket included. -/
def renderTail : List Json → List Char
  | [] => [']']
  | x :: xs => ',' :: (render x ++ renderTail xs)

/-- The text of the items after the first, the closing brace included. -/
def renderItems : List (String × Json) → List Char
  | [] => [Char.ofNat 125]
  | (k, v) :: items => ',' :: (quote k ++ ':' :: (render v ++ renderItems items))

end

/-- What may stand behind a value: nothing, a comma or a closing bracket or brace. -/
def Delimited : List Char → Prop
  | [] => True
  | c :: _ => c = ',' ∨ c = ']' ∨ c = Char.ofNat 125

/-- A delimiter is no part of a number. -/
theorem Delimited.takeWhile_num {s : List Char} (hs : Delimited s) {l : List Char}
    (hl : ∀ c ∈ l, isNumChar c = true) : (l ++ s).takeWhile isNumChar = l := by
  rw [List.takeWhile_append_of_pos hl]
  cases s with
  | nil => simp
  | cons c rest =>
      have hc : isNumChar c = false := by
        rcases hs with rfl | rfl | rfl <;> decide
      rw [List.takeWhile_cons, hc]
      simp

/-- Two numbers in front of delimiters that read the same have the same characters. -/
theorem num_append_injective {l l' s t : List Char} (hl : ∀ c ∈ l, isNumChar c = true)
    (hl' : ∀ c ∈ l', isNumChar c = true) (hs : Delimited s) (ht : Delimited t)
    (h : l ++ s = l' ++ t) : l = l' ∧ s = t := by
  have hchars : l = l' := by rw [← hs.takeWhile_num hl, h, ht.takeWhile_num hl']
  exact ⟨hchars, List.append_cancel_left (hchars ▸ h)⟩

/-- What members follow is delimited. -/
theorem delimited_renderTail (xs : List Json) (s : List Char) :
    Delimited (renderTail xs ++ s) := by
  cases xs with
  | nil => exact .inr (.inl rfl)
  | cons x rest => exact .inl rfl

/-- What items follow is delimited. -/
theorem delimited_renderItems (items : List (String × Json)) (s : List Char) :
    Delimited (renderItems items ++ s) := by
  cases items with
  | nil => exact .inr (.inr rfl)
  | cons p rest => exact .inl rfl

/-! ### The kind of a value -/

/-- What the first character of a text tells. -/
inductive Kind where
  | null
  | true
  | false
  | num
  | str
  | list
  | obj
  | none
  deriving DecidableEq

/-- The kind of a value. -/
def kind : Json → Kind
  | null => .null
  | bool b => if b then .true else .false
  | int _ => .num
  | float _ => .num
  | str _ => .str
  | list _ => .list
  | obj _ => .obj

/-- The kind a first character announces. -/
def kindOf (c : Char) : Kind :=
  if c = 'n' then .null
  else if c = 't' then .true
  else if c = 'f' then .false
  else if c = '\"' then .str
  else if c = '[' then .list
  else if c = Char.ofNat 123 then .obj
  else if startsNumber c then .num
  else .none

/-- Numbers announce themselves. -/
theorem kindOf_of_startsNumber {c : Char} (h : startsNumber c = true) : kindOf c = .num := by
  unfold kindOf
  split_ifs with h1 h2 h3 h4 h5 h6
  · exact absurd (h1 ▸ h) (by decide)
  · exact absurd (h2 ▸ h) (by decide)
  · exact absurd (h3 ▸ h) (by decide)
  · exact absurd (h4 ▸ h) (by decide)
  · exact absurd (h5 ▸ h) (by decide)
  · exact absurd (h6 ▸ h) (by decide)
  · rfl

/-- The first character of a text announces the kind of the value. -/
theorem render_head (v : Json) : ∃ c rest, render v = c :: rest ∧ kindOf c = v.kind := by
  cases v with
  | null => exact ⟨_, _, by rw [render], rfl⟩
  | bool b =>
      cases b with
      | true => exact ⟨_, _, by rw [render], rfl⟩
      | false => exact ⟨_, _, by rw [render], rfl⟩
  | int z =>
      obtain ⟨-, c, rest, hc, hstart⟩ := intChars_spec z
      exact ⟨c, rest, by rw [render, hc], kindOf_of_startsNumber hstart⟩
  | float x =>
      obtain ⟨chars, hnum, hstart, hmark⟩ := x
      cases chars with
      | nil => cases hstart
      | cons c rest => exact ⟨c, rest, by rw [render], kindOf_of_startsNumber (by simpa using hstart)⟩
  | str s => exact ⟨_, _, by rw [render, quote], rfl⟩
  | list xs =>
      cases xs with
      | nil => exact ⟨_, _, by rw [render], rfl⟩
      | cons x rest => exact ⟨_, _, by rw [render], rfl⟩
  | obj items =>
      cases items with
      | nil => exact ⟨_, _, by rw [render], rfl⟩
      | cons p rest =>
          obtain ⟨k, v⟩ := p
          exact ⟨_, _, by rw [render], rfl⟩

/-- Values whose texts start the same are of one kind. -/
theorem kind_eq_of_render_append {v w : Json} {s t : List Char}
    (h : render v ++ s = render w ++ t) : v.kind = w.kind := by
  obtain ⟨c, rest, hv, hc⟩ := render_head v
  obtain ⟨d, rest', hw, hd⟩ := render_head w
  rw [hv, hw] at h
  rw [← hc, ← hd, (List.cons.inj h).1]

/-- The characters of an integer are number characters. -/
theorem numeric_intChars (z : ℤ) : ∀ c ∈ intChars z, isNumChar c = true := fun c hc => by
  rcases (intChars_spec z).1 c hc with h | rfl
  · rw [isNumChar, h, Bool.true_or]
  · decide

/-- No integer has the text of a floating point number. -/
theorem intChars_ne_float (z : ℤ) (x : FloatText) : intChars z ≠ x.chars := fun h => by
  obtain ⟨c, hc, hdigit, hne⟩ := x.marked
  rcases (intChars_spec z).1 c (h ▸ hc) with hd | rfl
  · rw [hd] at hdigit
    cases hdigit
  · exact hne rfl

/-! ### Values of a kind -/

/-- No value starts with what starts no value. -/
theorem kind_ne_none (v : Json) : v.kind ≠ .none := by
  rcases v with _ | (_ | _) | _ | _ | _ | _ | _ <;> simp [kind]

/-- Null is alone of its kind. -/
theorem null_of_kind {v : Json} (h : v.kind = .null) : v = null := by
  rcases v with _ | (_ | _) | _ | _ | _ | _ | _
  case null => rfl
  all_goals simp [kind] at h

/-- Each boolean is alone of its kind. -/
theorem bool_of_kind {v : Json} {b : Bool} (h : v.kind = (bool b).kind) : v = bool b := by
  cases b with
  | true =>
      rcases v with _ | (_ | _) | _ | _ | _ | _ | _
      case bool.true => rfl
      all_goals simp [kind] at h
  | false =>
      rcases v with _ | (_ | _) | _ | _ | _ | _ | _
      case bool.false => rfl
      all_goals simp [kind] at h

/-- What starts like a number is an integer or a floating point number. -/
theorem num_of_kind {v : Json} (h : v.kind = .num) :
    (∃ z, v = int z) ∨ ∃ x, v = float x := by
  rcases v with _ | (_ | _) | z | x | _ | _ | _
  case int => exact .inl ⟨z, rfl⟩
  case float => exact .inr ⟨x, rfl⟩
  all_goals simp [kind] at h

/-- What starts with a quote is a string. -/
theorem str_of_kind {v : Json} (h : v.kind = .str) : ∃ s, v = str s := by
  rcases v with _ | (_ | _) | _ | _ | s | _ | _
  case str => exact ⟨s, rfl⟩
  all_goals simp [kind] at h

/-- What starts with a bracket is a list. -/
theorem list_of_kind {v : Json} (h : v.kind = .list) : ∃ xs, v = list xs := by
  rcases v with _ | (_ | _) | _ | _ | _ | xs | _
  case list => exact ⟨xs, rfl⟩
  all_goals simp [kind] at h

/-- What starts with a brace is an object. -/
theorem obj_of_kind {v : Json} (h : v.kind = .obj) : ∃ items, v = obj items := by
  rcases v with _ | (_ | _) | _ | _ | _ | _ | items
  case obj => exact ⟨items, rfl⟩
  all_goals simp [kind] at h

/-! ### A text determines its value -/

/-- Splitting off the first of several members. -/
theorem member_split {x y : Json} {xs ys : List Json} {s t : List Char}
    (hx : ∀ {s t}, Delimited s → Delimited t → render x ++ s = render y ++ t → x = y ∧ s = t)
    (h : render x ++ renderTail xs ++ s = render y ++ renderTail ys ++ t) :
    x = y ∧ renderTail xs ++ s = renderTail ys ++ t := by
  rw [List.append_assoc, List.append_assoc] at h
  exact hx (delimited_renderTail _ _) (delimited_renderTail _ _) h

/-- Splitting off the first of several items. -/
theorem item_split {k k' : String} {v v' : Json} {items items' : List (String × Json)}
    {s t : List Char}
    (hv : ∀ {s t}, Delimited s → Delimited t → render v ++ s = render v' ++ t → v = v' ∧ s = t)
    (h : quote k ++ ':' :: (render v ++ renderItems items) ++ s =
      quote k' ++ ':' :: (render v' ++ renderItems items') ++ t) :
    (k, v) = (k', v') ∧ renderItems items ++ s = renderItems items' ++ t := by
  rw [List.append_assoc, List.append_assoc] at h
  obtain ⟨rfl, hval⟩ := quote_append_injective h
  rw [List.cons_append, List.cons_append, List.append_assoc, List.append_assoc] at hval
  obtain ⟨rfl, hrest⟩ :=
    hv (delimited_renderItems _ _) (delimited_renderItems _ _) (List.cons.inj hval).2
  exact ⟨rfl, hrest⟩

/-- A member is not the closing bracket. -/
theorem member_ne_closing {x : Json} {s t : List Char} : render x ++ s ≠ ']' :: t := by
  obtain ⟨c, rest, hc, hkind⟩ := render_head x
  rw [hc]
  intro h
  rw [(List.cons.inj h).1] at hkind
  exact kind_ne_none x hkind.symm

mutual

/-- **A text in front of a delimiter determines its value** and where it ends. -/
theorem render_append_injective (v w : Json) {s t : List Char} (hs : Delimited s)
    (ht : Delimited t) (h : render v ++ s = render w ++ t) : v = w ∧ s = t := by
  have hkind := kind_eq_of_render_append h
  cases v with
  | null =>
      obtain rfl := null_of_kind hkind.symm
      exact ⟨rfl, List.append_cancel_left h⟩
  | bool b =>
      obtain rfl := bool_of_kind hkind.symm
      exact ⟨rfl, List.append_cancel_left h⟩
  | int z =>
      rcases num_of_kind hkind.symm with ⟨z', rfl⟩ | ⟨x, rfl⟩
      · rw [render, render] at h
        obtain ⟨hz, hst⟩ := num_append_injective (numeric_intChars _) (numeric_intChars _) hs ht h
        exact ⟨congrArg int (intChars_injective hz), hst⟩
      · rw [render, render] at h
        obtain ⟨hz, -⟩ := num_append_injective (numeric_intChars _) x.numeric hs ht h
        exact absurd hz (intChars_ne_float z x)
  | float x =>
      rcases num_of_kind hkind.symm with ⟨z, rfl⟩ | ⟨y, rfl⟩
      · rw [render, render] at h
        obtain ⟨hz, -⟩ := num_append_injective x.numeric (numeric_intChars _) hs ht h
        exact absurd hz.symm (intChars_ne_float z x)
      · rw [render, render] at h
        obtain ⟨hxy, hst⟩ := num_append_injective x.numeric y.numeric hs ht h
        exact ⟨congrArg float (FloatText.ext hxy), hst⟩
  | str a =>
      obtain ⟨b, rfl⟩ := str_of_kind hkind.symm
      rw [render, render] at h
      obtain ⟨rfl, hst⟩ := quote_append_injective h
      exact ⟨rfl, hst⟩
  | list xs =>
      obtain ⟨ys, rfl⟩ := list_of_kind hkind.symm
      cases xs with
      | nil =>
          cases ys with
          | nil => exact ⟨rfl, List.append_cancel_left h⟩
          | cons y ys =>
              rw [render, render] at h
              have hrest : render y ++ (renderTail ys ++ t) = ']' :: s := by
                rw [← List.append_assoc]
                exact (List.cons.inj h).2.symm
              exact absurd hrest member_ne_closing
      | cons x xs =>
          cases ys with
          | nil =>
              rw [render, render] at h
              have hrest : render x ++ (renderTail xs ++ s) = ']' :: t := by
                rw [← List.append_assoc]
                exact (List.cons.inj h).2
              exact absurd hrest member_ne_closing
          | cons y ys =>
              rw [render, render] at h
              obtain ⟨rfl, hrest⟩ := member_split (render_append_injective x y) (List.cons.inj h).2
              obtain ⟨rfl, hst⟩ := renderTail_append_injective xs ys hrest
              exact ⟨rfl, hst⟩
  | obj items =>
      obtain ⟨items', rfl⟩ := obj_of_kind hkind.symm
      cases items with
      | nil =>
          cases items' with
          | nil => exact ⟨rfl, List.append_cancel_left h⟩
          | cons q items' =>
              rw [render, render] at h
              exact absurd (List.cons.inj (List.cons.inj h).2).1 (by decide)
      | cons p items =>
          cases items' with
          | nil =>
              rw [render, render] at h
              exact absurd (List.cons.inj (List.cons.inj h).2).1 (by decide)
          | cons q items' =>
              obtain ⟨k, v⟩ := p
              obtain ⟨k', v'⟩ := q
              rw [render, render] at h
              obtain ⟨hitem, hrest⟩ :=
                item_split (render_append_injective v v') (List.cons.inj h).2
              obtain ⟨rfl, hst⟩ := renderItems_append_injective items items' hrest
              exact ⟨by rw [hitem], hst⟩

/-- The members after the first end at their bracket. -/
theorem renderTail_append_injective (xs ys : List Json) {s t : List Char}
    (h : renderTail xs ++ s = renderTail ys ++ t) : xs = ys ∧ s = t := by
  cases xs with
  | nil =>
      cases ys with
      | nil => exact ⟨rfl, List.append_cancel_left h⟩
      | cons y ys =>
          rw [renderTail, renderTail] at h
          exact absurd (List.cons.inj h).1 (by decide)
  | cons x xs =>
      cases ys with
      | nil =>
          rw [renderTail, renderTail] at h
          exact absurd (List.cons.inj h).1 (by decide)
      | cons y ys =>
          rw [renderTail, renderTail] at h
          obtain ⟨rfl, hrest⟩ := member_split (render_append_injective x y) (List.cons.inj h).2
          obtain ⟨rfl, hst⟩ := renderTail_append_injective xs ys hrest
          exact ⟨rfl, hst⟩

/-- The items after the first end at their brace. -/
theorem renderItems_append_injective (items items' : List (String × Json)) {s t : List Char}
    (h : renderItems items ++ s = renderItems items' ++ t) : items = items' ∧ s = t := by
  cases items with
  | nil =>
      cases items' with
      | nil => exact ⟨rfl, List.append_cancel_left h⟩
      | cons q items' =>
          rw [renderItems, renderItems] at h
          exact absurd (List.cons.inj h).1 (by decide)
  | cons p items =>
      cases items' with
      | nil =>
          rw [renderItems, renderItems] at h
          exact absurd (List.cons.inj h).1 (by decide)
      | cons q items' =>
          obtain ⟨k, v⟩ := p
          obtain ⟨k', v'⟩ := q
          rw [renderItems, renderItems] at h
          obtain ⟨hitem, hrest⟩ := item_split (render_append_injective v v') (List.cons.inj h).2
          obtain ⟨rfl, hst⟩ := renderItems_append_injective items items' hrest
          exact ⟨by rw [hitem], hst⟩

end

/-- The text of a value determines it. -/
theorem render_injective : Function.Injective render := fun v w h =>
  (render_append_injective v w (s := []) (t := []) trivial trivial
    (by rw [List.append_nil, List.append_nil, h])).1

/-! ### Sorted keys -/

mutual

/-- The value with the items of its objects sorted by key. -/
def norm : Json → Json
  | list xs => list (normList xs)
  | obj items => obj (sortBy Prod.fst (normItems items))
  | null => null
  | bool b => bool b
  | int z => int z
  | float x => float x
  | str s => str s

/-- The members, with the items of their objects sorted by key. -/
def normList : List Json → List Json
  | [] => []
  | x :: xs => norm x :: normList xs

/-- The items, with the items of their objects sorted by key. -/
def normItems : List (String × Json) → List (String × Json)
  | [] => []
  | (k, v) :: items => (k, norm v) :: normItems items

end

/-- `json.dumps(v, sort_keys=True, separators=(",", ":"), ensure_ascii=False)`. -/
def dumps (v : Json) : String := String.ofList (render (norm v))

/-- **Two values have the same text when their normal forms agree**, and only then. -/
theorem dumps_eq_dumps_iff {v w : Json} : dumps v = dumps w ↔ norm v = norm w := by
  constructor
  · exact fun h => render_injective (String.ofList_injective h)
  · intro h
    rw [dumps, dumps, h]

/-- Normal forms of members, one by one. -/
theorem normList_eq_map (xs : List Json) : normList xs = xs.map norm := by
  induction xs with
  | nil => rfl
  | cons x xs ih => rw [normList, ih, List.map_cons]

/-- Normal forms of items, one by one. -/
theorem normItems_eq_map (items : List (String × Json)) :
    normItems items = items.map fun p => (p.1, norm p.2) := by
  induction items with
  | nil => rfl
  | cons p items ih => rw [normItems, ih, List.map_cons]

/-! ### Fields -/

/-- The value under a key of an object. -/
def field (v : Json) (k : String) : Option Json :=
  match v with
  | obj items => items.lookup k
  | _ => none

/-- The first item under a key is the first of the items under it. -/
theorem lookup_eq_head_classOf (items : List (String × Json)) (k : String) :
    items.lookup k = ((classOf Prod.fst k items).head?).map Prod.snd := by
  induction items with
  | nil => rfl
  | cons p items ih =>
      obtain ⟨k', v⟩ := p
      by_cases hk : k' = k
      · simp [classOf, hk]
      · have hne : (k == k') = false := by simpa using Ne.symm hk
        simp only [List.lookup, hne, ih, classOf, List.filter_cons, hk, decide_false,
          Bool.false_eq_true, if_false]

/-- **The normal form of a field is the field of the normal form.** -/
theorem field_norm (v : Json) (k : String) : (norm v).field k = (v.field k).map norm := by
  cases v with
  | obj items =>
      rw [norm, field, field, lookup_eq_head_classOf, classOf_sortBy, ← lookup_eq_head_classOf,
        normItems_eq_map]
      induction items with
      | nil => rfl
      | cons p items ih =>
          simp only [List.map_cons, List.lookup]
          cases k == p.1 with
          | true => rfl
          | false => exact ih
  | _ => rfl

/-- Values with one normal form have fields with one normal form. -/
theorem field_congr {v w : Json} (h : norm v = norm w) (k : String) :
    (v.field k).map norm = (w.field k).map norm := by
  rw [← field_norm, h, field_norm]

/-! ### Objects without a key twice -/

mutual

/-- No object has a key twice. -/
def Distinct : Json → Prop
  | list xs => DistinctList xs
  | obj items => (items.map Prod.fst).Nodup ∧ DistinctItems items
  | _ => True

/-- No object among the members has a key twice. -/
def DistinctList : List Json → Prop
  | [] => True
  | x :: xs => Distinct x ∧ DistinctList xs

/-- No object among the items has a key twice. -/
def DistinctItems : List (String × Json) → Prop
  | [] => True
  | (_, v) :: items => Distinct v ∧ DistinctItems items

end

/-- Items one by one. -/
theorem distinctItems_iff {items : List (String × Json)} :
    DistinctItems items ↔ ∀ p ∈ items, p.2.Distinct := by
  induction items with
  | nil => simp [DistinctItems]
  | cons p items ih => rw [DistinctItems, ih, List.forall_mem_cons]

mutual

/-- A normal form is its own normal form. -/
theorem norm_norm : ∀ v : Json, norm (norm v) = norm v
  | list xs => by rw [norm, norm, normList_normList xs]
  | obj items => by
      have hkey : ∀ p : String × Json, (p.1, norm p.2).1 = p.1 := fun _ => rfl
      have hmap : (sortBy Prod.fst (normItems items)).map (fun p => (p.1, norm p.2)) =
          sortBy Prod.fst ((normItems items).map fun p => (p.1, norm p.2)) := map_sortBy hkey _
      have hsort : normItems (sortBy Prod.fst (normItems items)) =
          sortBy Prod.fst (normItems items) := by
        rw [normItems_eq_map (sortBy _ _), hmap, ← normItems_eq_map, normItems_normItems items]
      rw [norm, norm, hsort]
      congr 1
      exact sortBy_eq_sortBy_iff.mpr fun k => classOf_sortBy _ k _
  | null => rfl
  | bool _ => rfl
  | int _ => rfl
  | float _ => rfl
  | str _ => rfl

/-- Normal forms of members are their own. -/
theorem normList_normList : ∀ xs : List Json, normList (normList xs) = normList xs
  | [] => rfl
  | x :: xs => by rw [normList, normList, norm_norm x, normList_normList xs]

/-- Normal forms of items are their own. -/
theorem normItems_normItems : ∀ items : List (String × Json),
    normItems (normItems items) = normItems items
  | [] => rfl
  | (k, v) :: items => by rw [normItems, normItems, norm_norm v, normItems_normItems items]

end

mutual

/-- A normal form has no key twice when the value has none. -/
theorem distinct_norm : ∀ v : Json, v.Distinct → (norm v).Distinct
  | list xs, h => distinctList_normList xs h
  | obj items, h => by
      have hkeys : (normItems items).map Prod.fst = items.map Prod.fst := by
        rw [normItems_eq_map, List.map_map]
        rfl
      refine ⟨?_, distinctItems_iff.mpr fun p hp => ?_⟩
      · rw [((sortBy_perm _ _).map Prod.fst).nodup_iff, hkeys]
        exact h.1
      · exact distinctItems_iff.mp (distinctItems_normItems items h.2) p (mem_sortBy.mp hp)
  | null, _ => trivial
  | bool _, _ => trivial
  | int _, _ => trivial
  | float _, _ => trivial
  | str _, _ => trivial

/-- So for members. -/
theorem distinctList_normList : ∀ xs : List Json, DistinctList xs → DistinctList (normList xs)
  | [], _ => trivial
  | x :: xs, h => ⟨distinct_norm x h.1, distinctList_normList xs h.2⟩

/-- So for items. -/
theorem distinctItems_normItems : ∀ items : List (String × Json),
    DistinctItems items → DistinctItems (normItems items)
  | [], _ => trivial
  | (_, v) :: items, h => ⟨distinct_norm v h.1, distinctItems_normItems items h.2⟩

end

/-- **The normal form of an object depends on its fields only**, when no key occurs twice. -/
theorem norm_obj_congr {items items' : List (String × Json)}
    (h : (items.map Prod.fst).Nodup) (h' : (items'.map Prod.fst).Nodup)
    (hfields : ∀ k, (items.lookup k).map norm = (items'.lookup k).map norm) :
    norm (obj items) = norm (obj items') := by
  have hmem : ∀ {l : List (String × Json)}, (l.map Prod.fst).Nodup → ∀ k w,
      (k, w) ∈ normItems l ↔ (l.lookup k).map norm = some w := by
    intro l hl k w
    rw [normItems_eq_map, List.mem_map, Option.map_eq_some_iff]
    constructor
    · rintro ⟨⟨k', v⟩, hv, heq⟩
      cases heq
      exact ⟨v, (Dict.lookup_eq_some_iff hl).mpr hv, rfl⟩
    · rintro ⟨v, hv, rfl⟩
      exact ⟨(k, v), (Dict.lookup_eq_some_iff hl).mp hv, rfl⟩
  have hkeys : ∀ l : List (String × Json), (normItems l).map Prod.fst = l.map Prod.fst := by
    intro l
    rw [normItems_eq_map, List.map_map]
    rfl
  have hnodup : ((normItems items).map Prod.fst).Nodup := (hkeys items).symm ▸ h
  have hnodup' : ((normItems items').map Prod.fst).Nodup := (hkeys items').symm ▸ h'
  have hperm : (normItems items).Perm (normItems items') := by
    rw [List.perm_ext_iff_of_nodup hnodup.of_map hnodup'.of_map]
    rintro ⟨k, w⟩
    rw [hmem h, hmem h', hfields]
  rw [norm, norm]
  congr 1
  refine sortBy_eq_of_perm hperm fun p hp q hq heq => ?_
  obtain ⟨k, v⟩ := p
  obtain ⟨k', v'⟩ := q
  dsimp only at heq
  subst heq
  exact congrArg (Prod.mk k) (Option.some.inj (((hmem h k v).mp hp).symm.trans ((hmem h k v').mp hq)))

end Json

/-- A reader and a writer of JSON texts: what is written sorted by keys reads back sorted. -/
structure JsonText where
  /-- `json.loads`, if it decodes. -/
  loads : String → Option Json
  /-- `json.dumps(v, sort_keys=True)`. -/
  dumps : Json → String
  /-- `str` of a value that was read. -/
  str : Json → String
  distinct_loads : ∀ s v, loads s = some v → v.Distinct
  loads_dumps : ∀ v : Json, v.Distinct → loads (dumps v) = some v.norm
  dumps_congr : ∀ v w : Json, v.norm = w.norm → dumps v = dumps w
  dumps_nil : dumps (.list []) = "[]"
  dumps_empty : dumps (.obj []) = "\x7b\x7d"
  str_str : ∀ s, str (.str s) = s

namespace JsonText

open Classical in
/-- The compact texts, read back as what they were written for. -/
noncomputable def compact : JsonText where
  loads s := if h : ∃ v : Json, v.Distinct ∧ v.dumps = s then some h.choose.norm else none
  dumps := Json.dumps
  str v := match v with
    | .str s => s
    | v => v.dumps
  distinct_loads s v h := by
    split at h
    · rename_i hs
      rw [← Option.some.inj h]
      exact Json.distinct_norm _ hs.choose_spec.1
    · cases h
  loads_dumps v hv := by
    have hs : ∃ w : Json, w.Distinct ∧ w.dumps = v.dumps := ⟨v, hv, rfl⟩
    rw [dif_pos hs]
    exact congrArg some (Json.dumps_eq_dumps_iff.mp hs.choose_spec.2)
  dumps_congr v w h := Json.dumps_eq_dumps_iff.mpr h
  dumps_nil := by decide +kernel
  dumps_empty := by decide +kernel
  str_str _ := rfl

end JsonText

end StabilityPlatform.Lib
