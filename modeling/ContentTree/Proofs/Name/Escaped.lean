import ContentTree.Name.Escaped
import Mathlib.Data.List.Basic
import Mathlib.Tactic.SplitIfs
/-!
Decoded names and their code points. Every code point that an escape can write has a character of
its own, so that two decoded names are one text exactly if they have the same code points.
-/

set_option autoImplicit false
set_option relaxedAutoImplicit false

namespace ContentTree

namespace Text

variable {code : Nat} {text other : String}

theorem toNat_ofNat (h : code < 0x110000) (hplain : ¬ (0xD800 ≤ code ∧ code < 0xE000)) :
    (Char.ofNat code).toNat = code := by
  have hvalid : code.isValidChar := by
    unfold Nat.isValidChar
    omega
  rw [Char.ofNat, dif_pos hvalid]
  rfl

/-- The code point of the character for a code point is that one, unless it is one of those that
stand for surrogates. -/
theorem codeOf_charOfCode (h : code < surrogateShift + 0xD800) :
    codeOf (charOfCode code) = code := by
  unfold surrogateShift at h
  unfold charOfCode codeOf isSurrogate surrogateShift
  by_cases hsurrogate : 0xD800 ≤ code ∧ code < 0xE000
  · rw [if_pos hsurrogate, toNat_ofNat (by omega) (by omega)]
    simp
    omega
  · rw [if_neg hsurrogate, toNat_ofNat (by omega) hsurrogate]
    simp
    omega

theorem codeOf_injective : Function.Injective codeOf := by
  intro c d h
  have hc : c.toNat.isValidChar := c.valid
  have hd : d.toNat.isValidChar := d.valid
  unfold Nat.isValidChar at hc hd
  unfold codeOf isSurrogate surrogateShift at h
  simp only [decide_eq_true_eq] at h
  exact Char.toNat_inj.mp (by split_ifs at h <;> omega)

/-- The code points of a text. -/
def codesIn (text : String) : List Nat := text.toList.map codeOf

theorem codesIn_inj : codesIn text = codesIn other ↔ text = other := by
  rw [codesIn, codesIn, codeOf_injective.list_map.eq_iff, String.toList_inj]

@[simp] theorem codesIn_append (front back : String) :
    codesIn (front ++ back) = codesIn front ++ codesIn back := by
  simp [codesIn]

end Text

namespace Name

open ContentTree.Text

variable {a b c d : Char} {code digit : Nat} {name : String}

theorem toNat_sub_le {last : Char} (h : c ≤ last) (base : Nat) :
    c.toNat - base ≤ last.toNat - base := by
  have hlast : c.toNat ≤ last.toNat := h
  omega

theorem hexDigit_lt (h : hexDigit? c = some digit) : digit < 16 := by
  unfold hexDigit? at h
  split_ifs at h with hdecimal hlower hupper
  · exact Option.some.inj h ▸ Nat.lt_of_le_of_lt (toNat_sub_le hdecimal.2 _) (by decide)
  · exact Option.some.inj h ▸ Nat.lt_of_le_of_lt (toNat_sub_le hlower.2 _) (by decide)
  · exact Option.some.inj h ▸ Nat.lt_of_le_of_lt (toNat_sub_le hupper.2 _) (by decide)

theorem hexQuad_lt (h : hexQuad? a b c d = some code) : code < 0x10000 := by
  simp only [hexQuad?, Option.bind_eq_bind, Option.bind_eq_some_iff, Option.pure_def,
    Option.some.injEq] at h
  obtain ⟨first, hfirst, second, hsecond, third, hthird, fourth, hfourth, rfl⟩ := h
  have hfirst := hexDigit_lt hfirst
  have hsecond := hexDigit_lt hsecond
  have hthird := hexDigit_lt hthird
  have hfourth := hexDigit_lt hfourth
  omega

/-- Whether no character of a name is one of those that stand for surrogates. -/
def HasNoSurrogate (chars : List Char) : Prop := ∀ c ∈ chars, isSurrogate c = false

theorem codeOf_lt (h : isSurrogate c = false) : codeOf c < surrogateShift + 0xD800 := by
  rw [codeOf, h, if_neg Bool.false_ne_true]
  exact Nat.lt_of_not_le (of_decide_eq_false h)

/-- Decoding a name gives code points that have characters of their own. -/
theorem decodeEscapes_lt {chars : List Char} (h : HasNoSurrogate chars) :
    ∀ code ∈ decodeEscapes chars, code < surrogateShift + 0xD800 := by
  induction chars using decodeEscapes.induct with
  | case1 => simp [decodeEscapes]
  | case2 a b c d rest quad hquad ih =>
    rw [decodeEscapes, hquad]
    refine List.forall_mem_cons.mpr ⟨?_, ih fun e he ↦ h e (by simp [he])⟩
    exact Nat.lt_trans (hexQuad_lt hquad) (by simp [surrogateShift])
  | case3 a b c d rest hquad ih =>
    rw [decodeEscapes, hquad]
    have hline : isSurrogate '_' = false := by decide +kernel
    exact List.forall_mem_cons.mpr ⟨codeOf_lt hline, ih fun e he ↦ h e (List.mem_cons_of_mem _ he)⟩
  | case4 c rest hplain ih =>
    rw [decodeEscapes]
    · exact List.forall_mem_cons.mpr ⟨codeOf_lt (h c List.mem_cons_self),
        ih fun e he ↦ h e (List.mem_cons_of_mem _ he)⟩
    · exact hplain

/-- The code points of a decoded name are those that its escapes write. -/
theorem codesIn_ofXmlName (h : HasNoSurrogate name.toList) :
    codesIn (ofXmlName name) = codesOfXmlName name := by
  rw [codesIn, ofXmlName, String.toList_ofList, List.map_map]
  have hsame : ∀ code ∈ codesOfXmlName name, codeOf (charOfCode code) = code :=
    fun code hcode ↦ codeOf_charOfCode (decodeEscapes_lt h code hcode)
  exact (List.map_congr_left hsame).trans (List.map_id _)

/-- Two names are decoded to one text exactly if they write the same code points. -/
theorem ofXmlName_eq_iff {other : String} (h : HasNoSurrogate name.toList)
    (hother : HasNoSurrogate other.toList) :
    ofXmlName name = ofXmlName other ↔ codesOfXmlName name = codesOfXmlName other := by
  rw [← codesIn_inj, codesIn_ofXmlName h, codesIn_ofXmlName hother]

/-- A name is decoded to a text before another decoded name exactly if it writes the code points of
both. -/
theorem ofXmlName_eq_append_iff {other : String} (h : HasNoSurrogate name.toList)
    (hother : HasNoSurrogate other.toList) (front : String) :
    ofXmlName name = front ++ ofXmlName other ↔
      codesOfXmlName name = codesIn front ++ codesOfXmlName other := by
  rw [← codesIn_inj, codesIn_append, codesIn_ofXmlName h, codesIn_ofXmlName hother]

end Name

end ContentTree
