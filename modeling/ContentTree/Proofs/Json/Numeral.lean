import ContentTree.Json.Reader
import ContentTree.Json.Writer
import Mathlib.Data.List.TakeWhile
/-!
Numbers in JSON text. A number is read in three steps, each of which stops at a comma or a line
break, so what is read does not depend on what comes after such an end. An integer is read back from
its text if it is short enough to be read at all.
-/

set_option autoImplicit false
set_option relaxedAutoImplicit false

namespace ContentTree.Json

open ContentTree.Number

/-- Whether a text is empty or starts with a comma or a line break, as what comes after a value
does. -/
def IsEnd (rest : List Char) : Prop := ∀ c ∈ rest.head?, c = ',' ∨ c = '\n'

namespace Reader

variable {text rest more : List Char} {v : Value}

/-! ### The steps of a number -/

/-- The digits before the point: a zero, or all there are. -/
def wholeOf (text : List Char) : List Char × List Char :=
  let digits := text.takeWhile isAsciiDigit
  match digits with
  | '0' :: _ => (['0'], text.drop 1)
  | _ => (digits, text.drop digits.length)

/-- The digits after the point, if there are a point and digits. -/
def placesOf (text : List Char) : List Char × List Char :=
  match text with
  | '.' :: more =>
    let places := more.takeWhile isAsciiDigit
    if places = [] then ([], text) else (places, more.drop places.length)
  | _ => ([], text)

/-- The power of ten, if there are a mark and digits. -/
def exponentOf (text : List Char) : Option Int × List Char :=
  match text with
  | c :: more =>
    if c == 'e' || c == 'E' then
      let (minus, more) := takeSign more
      let power := more.takeWhile isAsciiDigit
      if power = [] then (none, text)
      else
        let value : Int := digitsValue power
        (some (if minus then -value else value), more.drop power.length)
    else (none, text)
  | [] => (none, text)

/-- The value of the parts of a number, if there are digits before the point. -/
def numberOf (negative : Bool) (whole places : List Char) (exponent? : Option Int) :
    Except ReadError Value :=
  if whole = [] then .error .malformed
  else if places = [] ∧ exponent? = none then
    if maxIntegerDigits < whole.length then .error (.integerTooLong whole.length)
    else .ok (.int (if negative then -(digitsValue whole : Int) else digitsValue whole))
  else
    .ok (.float (Binary64.ofDecimal negative (digitsValue (whole ++ places))
      (exponent?.getD 0 - places.length)))

/-- A number after its sign, with what comes after it. -/
def unsigned (negative : Bool) (text : List Char) : Except ReadError (Value × List Char) :=
  let whole := wholeOf text
  let places := placesOf whole.2
  let exponent := exponentOf places.2
  (numberOf negative whole.1 places.1 exponent.1).map fun v ↦ (v, exponent.2)

/-- A number is read in three steps, after its sign. -/
theorem number_eq (text : List Char) : number text =
    unsigned (text.head? == some '-') (if text.head? == some '-' then text.tail else text) := by
  unfold unsigned
  extract_lets whole places exponent
  have hsteps : number text =
      if whole.1 = [] then .error .malformed
      else if places.1 = [] ∧ exponent.1 = none then
        if maxIntegerDigits < whole.1.length then .error (.integerTooLong whole.1.length)
        else
          .ok (.int (if text.head? == some '-' then -(digitsValue whole.1 : Int)
            else digitsValue whole.1), exponent.2)
      else
        .ok (.float (Binary64.ofDecimal (text.head? == some '-')
          (digitsValue (whole.1 ++ places.1)) (exponent.1.getD 0 - places.1.length)),
            exponent.2) := rfl
  rw [hsteps, numberOf]
  split
  · rfl
  split
  · split <;> rfl
  · rfl

theorem number_negative (text : List Char) : number ('-' :: text) = unsigned true text :=
  number_eq ('-' :: text)

theorem number_positive {c : Char} (h : c ≠ '-') (text : List Char) :
    number (c :: text) = unsigned false (c :: text) := by
  have hsign : ((c :: text).head? == some '-') = false := by simpa using h
  rw [number_eq, hsign]
  rfl

/-- A number starts with a digit, after its sign. -/
theorem digit_of_unsigned {negative : Bool} (h : unsigned negative text = .ok (v, rest)) :
    ∃ c more, text = c :: more ∧ isAsciiDigit c = true := by
  cases text with
  | nil => cases h
  | cons c more =>
    refine ⟨c, more, rfl, ?_⟩
    by_contra hc
    have hwhole : (wholeOf (c :: more)).1 = [] := by simp [wholeOf, hc]
    simp [unsigned, numberOf, hwhole, Except.map] at h

theorem starts_of_number (h : number text = .ok (v, rest)) :
    ∃ c more, (text = c :: more ∨ text = '-' :: c :: more) ∧ isAsciiDigit c = true := by
  cases text with
  | nil => cases h
  | cons first text =>
    by_cases hsign : first = '-'
    · subst hsign
      rw [number_negative] at h
      obtain ⟨c, more, rfl, hc⟩ := digit_of_unsigned h
      exact ⟨c, more, .inr rfl, hc⟩
    · rw [number_positive hsign] at h
      obtain ⟨c, more, hstart, hc⟩ := digit_of_unsigned h
      exact ⟨c, more, .inl hstart, hc⟩

/-! ### Ends -/

/-- Digits stop at an end. -/
theorem takeWhile_isAsciiDigit_append (h : IsEnd rest) (text : List Char) :
    (text ++ rest).takeWhile isAsciiDigit = text.takeWhile isAsciiDigit := by
  induction text with
  | nil =>
    cases rest with
    | nil => rfl
    | cons c more => rcases h c rfl with rfl | rfl <;> rfl
  | cons c text ih => rw [List.cons_append, List.takeWhile_cons, List.takeWhile_cons, ih]

/-- Digits are dropped before an end. -/
theorem drop_digits_append (text : List Char) :
    (text ++ rest).drop (text.takeWhile isAsciiDigit).length =
      text.drop (text.takeWhile isAsciiDigit).length ++ rest := by
  rw [List.drop_append_of_le_length (List.takeWhile_prefix _).length_le]

theorem wholeOf_append (h : IsEnd rest) (text : List Char) :
    wholeOf (text ++ rest) = ((wholeOf text).1, (wholeOf text).2 ++ rest) := by
  simp only [wholeOf, takeWhile_isAsciiDigit_append h, drop_digits_append]
  split
  · next hzero =>
    cases text with
    | nil => cases hzero
    | cons c text => rfl
  · rfl

theorem placesOf_append (h : IsEnd rest) (text : List Char) :
    placesOf (text ++ rest) = ((placesOf text).1, (placesOf text).2 ++ rest) := by
  cases text with
  | nil =>
    cases rest with
    | nil => rfl
    | cons c more => rcases h c rfl with rfl | rfl <;> rfl
  | cons c text =>
    by_cases hpoint : c = '.'
    · subst hpoint
      simp only [List.cons_append, placesOf, takeWhile_isAsciiDigit_append h, drop_digits_append]
      split <;> rfl
    · simp [placesOf, hpoint]

theorem takeSign_append (h : IsEnd rest) (text : List Char) :
    takeSign (text ++ rest) = ((takeSign text).1, (takeSign text).2 ++ rest) := by
  cases text with
  | nil =>
    cases rest with
    | nil => rfl
    | cons c more => rcases h c rfl with rfl | rfl <;> rfl
  | cons c text =>
    rw [List.cons_append]
    unfold takeSign
    split <;> simp_all

theorem exponentOf_append (h : IsEnd rest) (text : List Char) :
    exponentOf (text ++ rest) = ((exponentOf text).1, (exponentOf text).2 ++ rest) := by
  cases text with
  | nil =>
    cases rest with
    | nil => rfl
    | cons c more => rcases h c rfl with rfl | rfl <;> rfl
  | cons c text =>
    simp only [List.cons_append, exponentOf, takeSign_append h, takeWhile_isAsciiDigit_append h,
      drop_digits_append]
    split
    · split <;> rfl
    · rfl

theorem unsigned_append {negative : Bool} (h : IsEnd rest)
    (hread : unsigned negative text = .ok (v, more)) :
    unsigned negative (text ++ rest) = .ok (v, more ++ rest) := by
  simp only [unsigned, wholeOf_append h, placesOf_append h, exponentOf_append h] at hread ⊢
  revert hread
  generalize numberOf _ _ _ _ = result
  cases result with
  | error error => exact nofun
  | ok value =>
    intro hread
    obtain ⟨rfl, rfl⟩ := Prod.mk.inj (Except.ok.inj hread)
    rfl

/-- What is read as a number is read the same before an end. -/
theorem number_append (h : IsEnd rest) (hread : number text = .ok (v, more)) :
    number (text ++ rest) = .ok (v, more ++ rest) := by
  cases text with
  | nil => cases hread
  | cons c text =>
    by_cases hsign : c = '-'
    · subst hsign
      rw [number_negative] at hread
      rw [List.cons_append, number_negative, unsigned_append h hread]
    · rw [number_positive hsign] at hread
      rw [List.cons_append, number_positive hsign, ← List.cons_append, unsigned_append h hread]

/-! ### Integers -/

theorem isAsciiDigit_of_mem_toDigits {n : Nat} {c : Char} (h : c ∈ Nat.toDigits 10 n) :
    isAsciiDigit c = true := by
  exact Nat.isDigit_of_mem_toDigits (by decide) (by decide) h

theorem digitsValue_toDigits (n : Nat) : digitsValue (Nat.toDigits 10 n) = n := by
  have hsame : ∀ digits : List Char, digitsValue digits = Nat.ofDigitChars 10 digits 0 := by
    intro digits
    rw [digitsValue, Nat.ofDigitChars]
    congr
    funext value c
    rw [Nat.mul_comm]
    rfl
  rw [hsame, Nat.ofDigitChars_toDigits (by decide) (by decide)]

/-- Only zero has a leading zero. -/
theorem head_toDigits {n : Nat} (h : n ≠ 0) : (Nat.toDigits 10 n).head? ≠ some '0' := by
  induction n using Nat.strongRecOn with
  | ind n ih =>
    rw [Nat.toDigits_eq_if (by decide)]
    split
    · next hsmall =>
      have hall : ∀ d : Fin 10, d.val ≠ 0 → [d.val.digitChar].head? ≠ some '0' := by decide
      exact hall ⟨n, hsmall⟩ h
    · next hlarge =>
      obtain ⟨c, digits, hdigits⟩ := List.exists_cons_of_ne_nil (Nat.toDigits_ne_nil (n := n / 10))
      have hfront := ih (n / 10) (by omega) (by omega)
      rw [hdigits] at hfront ⊢
      exact hfront

theorem wholeOf_toDigits (n : Nat) : wholeOf (Nat.toDigits 10 n) = (Nat.toDigits 10 n, []) := by
  have hall : (Nat.toDigits 10 n).takeWhile isAsciiDigit = Nat.toDigits 10 n := by
    rw [List.takeWhile_eq_self_iff]
    exact fun c ↦ isAsciiDigit_of_mem_toDigits
  unfold wholeOf
  simp only [hall, List.drop_length]
  split
  · next more hzero =>
    have hn : n = 0 := by
      by_contra hn
      exact head_toDigits hn (by rw [hzero]; rfl)
    rw [hn]
    rfl
  · rfl

theorem length_toDigits {n limit : Nat} (hlimit : 0 < limit) (h : n < Nat.pow 10 limit) :
    (Nat.toDigits 10 n).length ≤ limit :=
  (Nat.length_toDigits_le_iff (by decide) hlimit).mpr h

theorem unsigned_toDigits (negative : Bool) {n : Nat} (h : n < Nat.pow 10 maxIntegerDigits) :
    unsigned negative (Nat.toDigits 10 n) = .ok (.int (if negative then -n else n), []) := by
  have hlength := length_toDigits (by decide) h
  simp only [unsigned, wholeOf_toDigits]
  rw [numberOf, if_neg Nat.toDigits_ne_nil, if_pos ⟨rfl, rfl⟩, if_neg (by omega),
    digitsValue_toDigits]
  rfl

/-- An integer is read back from its text. -/
theorem number_intText {i : Int} {t : String} (h : intText i = .ok t) :
    number t.toList = .ok (.int i, []) := by
  unfold intText at h
  split at h
  · next hshort =>
    obtain rfl : toString i = t := Except.ok.inj h
    cases i with
    | ofNat n =>
      have hdigits : (toString (Int.ofNat n)).toList = Nat.toDigits 10 n := Nat.toList_repr
      have hread : unsigned false (Nat.toDigits 10 n) = .ok (.int n, []) :=
        unsigned_toDigits false hshort
      obtain ⟨c, more, hstart, hdigit⟩ := digit_of_unsigned hread
      have hsign : c ≠ '-' := fun hc ↦ by simp [hc, isAsciiDigit] at hdigit
      rw [hdigits, hstart, number_positive hsign, ← hstart]
      exact hread
    | negSucc n =>
      have hdigits : (toString (Int.negSucc n)).toList = '-' :: Nat.toDigits 10 (n + 1) := by
        rw [← Nat.toList_repr]
        exact String.toList_append
      rw [hdigits, number_negative]
      exact unsigned_toDigits true hshort
  · cases h

end Reader

end ContentTree.Json
