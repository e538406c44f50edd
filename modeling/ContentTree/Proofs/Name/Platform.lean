import ContentTree.Name.Platform
import ContentTree.Proofs.Text.Segments
/-!
A name on disk tells the repository name it was made from, so different names never share one.
Endings such as those of descriptors and metadata folders pass through both directions unchanged:
they hold nothing that is escaped, nothing that could read as a namespace mark, and their first
character is no hexadecimal digit that could complete an escape before them.
-/

set_option autoImplicit false
set_option relaxedAutoImplicit false

namespace ContentTree.Name

open ContentTree.Text

/-! ### Escapes -/

/-- A character that is written as itself and never starts an escape or a namespace. -/
def IsVerbatim (c : Char) : Prop := escapeCode? c = none ∧ c ≠ '_'

instance (c : Char) : Decidable (IsVerbatim c) :=
  inferInstanceAs (Decidable (escapeCode? c = none ∧ c ≠ '_'))

theorem escapeChar_of_code_none {c : Char} (h : escapeCode? c = none) : escapeChar c = [c] := by
  simp [escapeChar, h]

/-- A character with a code is written as a percent sign and two digits that stand for it. -/
theorem escapeChar_of_code {c high low : Char} (h : escapeCode? c = some (high, low)) :
    escapeChar c = ['%', high, low] ∧ hexPair? high low = some c := by
  refine ⟨by simp [escapeChar, h], ?_⟩
  unfold escapeCode? at h
  split at h <;> simp only [Option.some.injEq, Prod.mk.injEq, reduceCtorEq] at h <;>
    (obtain ⟨rfl, rfl⟩ := h; decide)

theorem unescape_cons {c : Char} (hc : c ≠ '%') (rest : List Char) :
    unescape (c :: rest) = c :: unescape rest := by
  rw [unescape]
  intro high low others hpercent
  exact absurd hpercent hc

theorem unescape_escapeChar_append (c : Char) (rest : List Char) :
    unescape (escapeChar c ++ rest) = c :: unescape rest := by
  cases hcode : escapeCode? c with
  | none =>
    have hc : c ≠ '%' := by
      rintro rfl
      simp [escapeCode?] at hcode
    rw [escapeChar_of_code_none hcode]
    exact unescape_cons hc rest
  | some digits =>
    obtain ⟨high, low⟩ := digits
    obtain ⟨hchar, hpair⟩ := escapeChar_of_code hcode
    rw [hchar]
    simp [unescape, hpair]

@[simp] theorem unescape_escape (name : List Char) : unescape (escape name) = name := by
  induction name with
  | nil => rfl
  | cons c rest ih =>
    change unescape (escapeChar c ++ escape rest) = c :: rest
    rw [unescape_escapeChar_append, ih]

@[simp] theorem escape_append (front back : List Char) :
    escape (front ++ back) = escape front ++ escape back := by
  simp [escape]

@[simp] theorem escape_eq_nil {name : List Char} : escape name = [] ↔ name = [] := by
  constructor
  · intro h
    rw [← unescape_escape name, h]
    rfl
  · rintro rfl
    rfl

theorem escape_of_verbatim {ending : List Char} (h : ∀ c ∈ ending, IsVerbatim c) :
    escape ending = ending := by
  induction ending with
  | nil => rfl
  | cons c rest ih =>
    change escapeChar c ++ escape rest = c :: rest
    rw [escapeChar_of_code_none (h c List.mem_cons_self).1,
      ih fun d hd ↦ h d (List.mem_cons_of_mem c hd)]
    rfl

/-- A character that is neither a percent sign nor a digit of a code gets into an escaped name only
by standing for itself. -/
theorem mem_escapeChar {mark c : Char}
    (hmark : mark ∉ ['%', '2', '3', '5', '7', 'a', 'c', 'e', 'f'])
    (h : mark ∈ escapeChar c) : mark = c ∧ escapeCode? c = none := by
  cases hcode : escapeCode? c with
  | none =>
    rw [escapeChar_of_code_none hcode] at h
    exact ⟨List.mem_singleton.mp h, rfl⟩
  | some digits =>
    obtain ⟨high, low⟩ := digits
    refine absurd ?_ hmark
    rw [(escapeChar_of_code hcode).1] at h
    simp only [List.mem_cons, List.not_mem_nil, or_false] at h
    unfold escapeCode? at hcode
    split at hcode <;> simp only [Option.some.injEq, Prod.mk.injEq, reduceCtorEq] at hcode <;>
      (obtain ⟨rfl, rfl⟩ := hcode; rcases h with rfl | rfl | rfl <;> decide)

theorem mem_escape {mark : Char} {name : List Char}
    (hmark : mark ∉ ['%', '2', '3', '5', '7', 'a', 'c', 'e', 'f']) (h : mark ∈ escape name) :
    mark ∈ name ∧ escapeCode? mark = none := by
  obtain ⟨c, hc, hmem⟩ := List.mem_flatMap.mp h
  obtain ⟨rfl, hcode⟩ := mem_escapeChar hmark hmem
  exact ⟨hc, hcode⟩

theorem underscore_mem_escape {name : List Char} (h : '_' ∈ escape name) : '_' ∈ name :=
  (mem_escape (by decide) h).1

/-- No escaped name holds a slash. -/
theorem slash_notMem_escape (name : List Char) : '/' ∉ escape name := by
  intro h
  exact absurd (mem_escape (by decide) h).2 (by decide)

/-! ### Namespaces -/

theorem splitFirst_eq_none {mark : Char} {text : List Char} :
    splitFirst? mark text = none ↔ mark ∉ text := by
  induction text with
  | nil => simp [splitFirst?]
  | cons c rest ih =>
    by_cases hc : c = mark
    · simp [splitFirst?, hc]
    · have hne : mark ≠ c := fun h ↦ hc h.symm
      simp [splitFirst?, hc, hne, ih]

theorem splitFirst_eq_some {mark : Char} {text front back : List Char} :
    splitFirst? mark text = some (front, back) ↔ text = front ++ mark :: back ∧ mark ∉ front := by
  induction text generalizing front with
  | nil => simp [splitFirst?]
  | cons c rest ih =>
    by_cases hc : c = mark
    · subst hc
      cases front with
      | nil => simp [splitFirst?, eq_comm]
      | cons d others =>
        simp only [splitFirst?, if_pos, Option.some.injEq, Prod.mk.injEq, List.cons_append,
          List.cons.injEq, List.mem_cons, not_or]
        constructor
        · rintro ⟨h, -⟩
          exact absurd h (by simp)
        · rintro ⟨⟨rfl, -⟩, hne, -⟩
          exact absurd rfl hne
    · have hne : mark ≠ c := fun h ↦ hc h.symm
      cases front with
      | nil => simp [splitFirst?, hc]
      | cons d others =>
        cases hsplit : splitFirst? mark rest with
        | none =>
          simp only [splitFirst?, if_neg hc, hsplit, Option.map_none, reduceCtorEq, false_iff]
          rintro ⟨heq, hnotMem⟩
          have hrest : rest = others ++ mark :: back := (List.cons.inj heq).2
          exact splitFirst_eq_none.mp hsplit (by rw [hrest]; simp)
        | some pair =>
          simp only [splitFirst?, if_neg hc, hsplit, Option.map_some, Option.some.injEq,
            Prod.mk.injEq, List.cons.injEq, List.cons_append, List.mem_cons, not_or]
          have hrest := @ih others
          rw [hsplit, Option.some.injEq, Prod.ext_iff] at hrest
          constructor
          · rintro ⟨⟨rfl, hothers⟩, hback⟩
            obtain ⟨htext, hnotMem⟩ := hrest.mp ⟨hothers, hback⟩
            exact ⟨⟨rfl, htext⟩, hne, hnotMem⟩
          · rintro ⟨⟨rfl, htext⟩, -, hnotMem⟩
            obtain ⟨hothers, hback⟩ := hrest.mpr ⟨htext, hnotMem⟩
            exact ⟨⟨rfl, hothers⟩, hback⟩

theorem looksQualified_iff {text : List Char} :
    looksQualified text = true ↔ ∃ rest, text = '_' :: rest ∧ '_' ∈ rest := by
  cases text with
  | nil => simp [looksQualified]
  | cons c rest =>
    by_cases hc : c = '_'
    · subst hc
      simp [looksQualified]
    · have hfalse : looksQualified (c :: rest) = false := by
        unfold looksQualified
        split
        · next heq => exact absurd (List.cons.inj heq).1 hc
        · rfl
      simp [hfalse, hc]

/-- The name on disk of a name with a namespace free of underscores and percent signs. -/
theorem encode_qualified {space base : List Char} (hne : space ≠ []) (hcolon : ':' ∉ space)
    (hunderscore : '_' ∉ space) (hpercent : '%' ∉ space) :
    encode (space ++ ':' :: base) = '_' :: escape space ++ '_' :: escape base := by
  obtain ⟨c, others, rfl⟩ := List.exists_cons_of_ne_nil hne
  have hsplit : splitFirst? ':' (c :: others ++ ':' :: base) = some (c :: others, base) :=
    splitFirst_eq_some.mpr ⟨rfl, hcolon⟩
  have hcondition : ((c :: others).contains '_' || (c :: others).contains '%') = false := by
    simp only [List.contains_eq_mem, Bool.or_eq_false_iff, decide_eq_false_iff_not]
    exact ⟨hunderscore, hpercent⟩
  simp only [encode, hsplit, hcondition]
  rfl

/-- A name with a namespace that is free of underscores and percent signs. -/
def HasNamespace (name : List Char) : Prop :=
  ∃ space base, name = space ++ ':' :: base ∧ space ≠ [] ∧ ':' ∉ space ∧ '_' ∉ space ∧ '%' ∉ space

theorem encode_of_not_hasNamespace {name : List Char} (h : ¬ HasNamespace name) :
    encode name = encodePlain name := by
  cases hsplit : splitFirst? ':' name with
  | none => simp [encode, hsplit]
  | some pair =>
    obtain ⟨space, base⟩ := pair
    obtain ⟨hname, hcolon⟩ := splitFirst_eq_some.mp hsplit
    cases space with
    | nil => simp [encode, hsplit]
    | cons c others =>
      by_cases hmarks : ((c :: others).contains '_' || (c :: others).contains '%') = true
      · simp only [encode, hsplit, hmarks]
        rfl
      · rw [Bool.not_eq_true, Bool.or_eq_false_iff] at hmarks
        simp only [List.contains_eq_mem, decide_eq_false_iff_not] at hmarks
        exact absurd ⟨c :: others, base, hname, by simp, hcolon, hmarks.1, hmarks.2⟩ h

theorem decode_of_ne {c : Char} (hc : c ≠ '_') (rest : List Char) :
    decode (c :: rest) = unescape (c :: rest) := by
  unfold decode
  split
  · next heq => exact absurd (List.cons.inj heq).1 hc
  · rfl

theorem decode_marked (rest : List Char) : decode ('_' :: '_' :: rest) = unescape ('_' :: rest) :=
  rfl

theorem decode_qualified {space base : List Char} (hne : space ≠ []) (hspace : '_' ∉ space) :
    decode ('_' :: space ++ '_' :: base) = unescape space ++ ':' :: unescape base := by
  obtain ⟨c, others, rfl⟩ := List.exists_cons_of_ne_nil hne
  have hc : c ≠ '_' := fun h ↦ hspace (by rw [h]; exact List.mem_cons_self)
  have hsplit : splitFirst? '_' (c :: others ++ '_' :: base) = some (c :: others, base) :=
    splitFirst_eq_some.mpr ⟨rfl, hspace⟩
  simp only [List.cons_append] at hsplit ⊢
  simp only [decode]
  split
  · next heq => exact absurd (List.cons.inj heq).1 hc
  · rw [hsplit]

theorem decode_single {rest : List Char} (hrest : '_' ∉ rest) :
    decode ('_' :: rest) = unescape ('_' :: rest) := by
  have hsplit : splitFirst? '_' rest = none := splitFirst_eq_none.mpr hrest
  simp only [decode]
  split
  · exact absurd List.mem_cons_self hrest
  · rw [hsplit]

/-- A name on disk stands for the repository name it was made from. -/
@[simp] theorem decode_encode (name : List Char) : decode (encode name) = name := by
  by_cases hspace : HasNamespace name
  · obtain ⟨space, base, rfl, hne, hcolon, hunderscore, hpercent⟩ := hspace
    rw [encode_qualified hne hcolon hunderscore hpercent,
      decode_qualified (by simpa using hne) fun h ↦ hunderscore (underscore_mem_escape h)]
    simp
  · rw [encode_of_not_hasNamespace hspace, encodePlain]
    split
    · next hlooks =>
      obtain ⟨rest, hescape, -⟩ := looksQualified_iff.mp hlooks
      rw [hescape, decode_marked, ← hescape, unescape_escape]
    · next hlooks =>
      cases hescape : escape name with
      | nil => rw [escape_eq_nil.mp hescape]; rfl
      | cons c rest =>
        by_cases hc : c = '_'
        · subst hc
          have hrest : '_' ∉ rest := fun hmem ↦
            hlooks (looksQualified_iff.mpr ⟨rest, hescape, hmem⟩)
          rw [decode_single hrest, ← hescape, unescape_escape]
        · rw [decode_of_ne hc, ← hescape, unescape_escape]

theorem encode_injective {first second : List Char} (h : encode first = encode second) :
    first = second := by
  rw [← decode_encode first, h, decode_encode]

/-- A name on disk is one or two escaped texts, each with a mark in front or none. -/
theorem encode_cases (name : List Char) :
    (∃ space base, encode name = '_' :: escape space ++ '_' :: escape base) ∨
      encode name = '_' :: escape name ∨ encode name = escape name := by
  by_cases hspace : HasNamespace name
  · obtain ⟨space, base, rfl, hne, hcolon, hunderscore, hpercent⟩ := hspace
    exact .inl ⟨space, base, encode_qualified hne hcolon hunderscore hpercent⟩
  · rw [encode_of_not_hasNamespace hspace, encodePlain]
    split
    · exact .inr (.inl rfl)
    · exact .inr (.inr rfl)

theorem slash_notMem_encode (name : List Char) : '/' ∉ encode name := by
  rcases encode_cases name with ⟨space, base, heq⟩ | heq | heq <;> rw [heq] <;>
    simp [slash_notMem_escape]

/-! ### Endings -/

/-- An ending that both directions leave alone: it holds nothing but verbatim characters and does
not start with a hexadecimal digit. -/
def IsEnding (ending : List Char) : Prop :=
  (∀ c ∈ ending, IsVerbatim c) ∧ ∀ c ∈ ending.head?, hexDigit? c = none

-- The instances are named: to go through all characters instead is also a way to decide this.
instance (ending : List Char) : Decidable (IsEnding ending) :=
  @instDecidableAnd _ _ (List.decidableBAll IsVerbatim ending)
    (Option.decidableForallMem ending.head?)

section Ending

variable {ending : List Char}

theorem IsEnding.underscore_notMem (h : IsEnding ending) : '_' ∉ ending :=
  fun hmem ↦ (h.1 '_' hmem).2 rfl

theorem IsEnding.colon_notMem (h : IsEnding ending) : ':' ∉ ending :=
  fun hmem ↦ absurd (h.1 ':' hmem).1 (by decide)

theorem unescape_of_verbatim {text : List Char} (h : ∀ c ∈ text, IsVerbatim c) :
    unescape text = text := by
  have hescape := unescape_escape text
  rwa [escape_of_verbatim h] at hescape

/-- Assumes: no two hexadecimal digits after a percent sign. It stands for itself. -/
theorem unescape_percent {rest : List Char}
    (h : ∀ high low tail, rest = high :: low :: tail → hexPair? high low = none) :
    unescape ('%' :: rest) = '%' :: unescape rest := by
  match rest with
  | [] => rfl
  | [_] => rfl
  | high :: low :: tail => rw [unescape, h high low tail rfl]

/-- An ending that starts with no hexadecimal digit never completes an escape. -/
theorem unescape_append (h : IsEnding ending) (text : List Char) :
    unescape (text ++ ending) = unescape text ++ ending := by
  have hhead : ∀ {first tail}, ending = first :: tail → hexDigit? first = none := by
    intro first tail hending
    exact h.2 first (by simp [hending])
  fun_induction unescape text with
  | case1 => exact unescape_of_verbatim h.1
  | case2 high low rest c hpair ih =>
    rw [List.cons_append, List.cons_append, List.cons_append, unescape, hpair]
    simp [ih]
  | case3 high low rest hpair ih =>
    rw [List.cons_append, List.cons_append, List.cons_append, unescape, hpair]
    simpa using ih
  | case4 c rest hshape ih =>
    by_cases hc : c = '%'
    · subst hc
      -- at most one character follows, so a second digit could only come from the ending
      have hnone : ∀ high low tail, rest ++ ending = high :: low :: tail →
          hexPair? high low = none := by
        intro high low tail heq
        match rest, heq with
        | [], heq => simp [hexPair?, hhead heq]
        | [first], heq =>
          have hlow := hhead (List.cons.inj heq).2
          cases hexDigit? high <;> simp [hexPair?, hlow]
        | first :: second :: others, _ => exact absurd rfl (hshape first second others rfl)
      rw [List.cons_append, unescape_percent hnone, ih, List.cons_append]
    · rw [List.cons_append, unescape_cons hc, ih, List.cons_append]

/-- An ending passes from a name on disk to the repository name. -/
theorem decode_append (h : IsEnding ending) (name : List Char) :
    decode (name ++ ending) = decode name ++ ending := by
  cases name with
  | nil =>
    cases hending : ending with
    | nil => rfl
    | cons c rest =>
      have hc : c ≠ '_' := fun hc ↦ h.underscore_notMem (by simp [hending, hc])
      rw [List.nil_append, decode_of_ne hc, ← hending]
      exact unescape_of_verbatim h.1
  | cons c rest =>
    by_cases hc : c = '_'
    · subst hc
      cases hsplit : splitFirst? '_' rest with
      | none =>
        have hrest := splitFirst_eq_none.mp hsplit
        have happend : '_' ∉ rest ++ ending := by simp [hrest, h.underscore_notMem]
        rw [List.cons_append, decode_single happend, decode_single hrest, ← List.cons_append,
          unescape_append h]
      | some pair =>
        obtain ⟨space, base⟩ := pair
        obtain ⟨rfl, hspace⟩ := splitFirst_eq_some.mp hsplit
        by_cases hne : space = []
        · rw [hne, List.nil_append, List.cons_append, List.cons_append, decode_marked,
            decode_marked, ← List.cons_append, unescape_append h]
        · have hassoc : '_' :: (space ++ '_' :: base) ++ ending =
              '_' :: space ++ '_' :: (base ++ ending) := by simp
          have hsame : '_' :: (space ++ '_' :: base) = '_' :: space ++ '_' :: base := rfl
          rw [hassoc, decode_qualified hne hspace, hsame, decode_qualified hne hspace,
            unescape_append h]
          simp
    · rw [List.cons_append, decode_of_ne hc, decode_of_ne hc, ← List.cons_append,
        unescape_append h]

theorem hasNamespace_append (h : IsEnding ending) {name : List Char} :
    HasNamespace (name ++ ending) ↔ HasNamespace name := by
  constructor
  · rintro ⟨space, base, heq, hne, hcolon, hmarks⟩
    have hsplit : splitFirst? ':' (name ++ ending) = some (space, base) :=
      splitFirst_eq_some.mpr ⟨heq, hcolon⟩
    rcases List.append_eq_append_iff.mp heq with ⟨middle, hspace, hending⟩ | ⟨middle, hname, hback⟩
    · exact absurd (by rw [hending]; simp) h.colon_notMem
    · cases middle with
      | nil => exact absurd (by rw [← List.nil_append ending, ← hback]; simp) h.colon_notMem
      | cons c rest =>
        obtain ⟨rfl, -⟩ := List.cons.inj hback
        exact ⟨space, rest, hname, hne, hcolon, hmarks⟩
  · rintro ⟨space, base, rfl, hne, hmarks⟩
    exact ⟨space, base ++ ending, by simp, hne, hmarks⟩

theorem looksQualified_append (h : IsEnding ending) (text : List Char) :
    looksQualified (text ++ ending) = looksQualified text := by
  rw [Bool.eq_iff_iff, looksQualified_iff, looksQualified_iff]
  constructor
  · rintro ⟨rest, heq, hmem⟩
    cases text with
    | nil => exact absurd (by rw [← List.nil_append ending, heq]; simp) h.underscore_notMem
    | cons c others =>
      obtain ⟨rfl, rfl⟩ := List.cons.inj heq
      rcases List.mem_append.mp hmem with hmem | hmem
      · exact ⟨others, rfl, hmem⟩
      · exact absurd hmem h.underscore_notMem
  · rintro ⟨rest, rfl, hmem⟩
    exact ⟨rest ++ ending, rfl, List.mem_append_left ending hmem⟩

/-- An ending passes from a repository name to the name on disk. -/
theorem encode_append (h : IsEnding ending) (name : List Char) :
    encode (name ++ ending) = encode name ++ ending := by
  have hescape : escape ending = ending := escape_of_verbatim h.1
  by_cases hspace : HasNamespace name
  · obtain ⟨space, base, rfl, hne, hcolon, hunderscore, hpercent⟩ := hspace
    rw [List.append_assoc, List.cons_append, encode_qualified hne hcolon hunderscore hpercent,
      encode_qualified hne hcolon hunderscore hpercent, escape_append, hescape]
    simp
  · have hboth : ¬ HasNamespace (name ++ ending) := fun happend ↦
      hspace ((hasNamespace_append h).mp happend)
    rw [encode_of_not_hasNamespace hspace, encode_of_not_hasNamespace hboth, encodePlain,
      encodePlain, escape_append, hescape, looksQualified_append h]
    split <;> rfl

theorem encode_ending (h : IsEnding ending) : encode ending = ending := by
  have happend := encode_append h []
  rwa [List.nil_append, show encode [] = [] from rfl, List.nil_append] at happend

end Ending

/-! ### Names as texts -/

@[simp] theorem ofPlatform_toPlatform (name : String) : ofPlatform (toPlatform name) = name := by
  simp [ofPlatform, toPlatform]

theorem toPlatform_injective {first second : String} (h : toPlatform first = toPlatform second) :
    first = second := by
  rw [← ofPlatform_toPlatform first, h, ofPlatform_toPlatform]

theorem slashless_toPlatform (name : String) : Slashless (toPlatform name) := by
  simpa [Slashless, toPlatform] using slash_notMem_encode name.toList

theorem segments_toPlatformPath (path : String) :
    segments (toPlatformPath path) = (segments path).map toPlatform := by
  refine segments_joinSegments (by simp) fun piece hpiece ↦ ?_
  obtain ⟨name, -, rfl⟩ := List.mem_map.mp hpiece
  exact slashless_toPlatform name

theorem toPlatform_append {ending : String} (h : IsEnding ending.toList) (name : String) :
    toPlatform (name ++ ending) = toPlatform name ++ ending := by
  simp [toPlatform, encode_append h]

theorem ofPlatform_append {ending : String} (h : IsEnding ending.toList) (name : String) :
    ofPlatform (name ++ ending) = ofPlatform name ++ ending := by
  simp [ofPlatform, decode_append h]

theorem toPlatform_ending {ending : String} (h : IsEnding ending.toList) :
    toPlatform ending = ending := by
  simp [toPlatform, encode_ending h]

/-- Only an ending is written on disk as that ending. -/
theorem toPlatform_eq_ending {ending name : String} (h : IsEnding ending.toList) :
    toPlatform name = ending ↔ name = ending := by
  constructor
  · intro heq
    exact toPlatform_injective (heq.trans (toPlatform_ending h).symm)
  · rintro rfl
    exact toPlatform_ending h

/-- An ending passes from a path to the path on disk. -/
theorem toPlatformPath_append {ending : String} (h : IsEnding ending.toList)
    (hslash : Slashless ending) (path : String) :
    toPlatformPath (path ++ ending) = toPlatformPath path ++ ending := by
  obtain ⟨pieces, last, hpath, happend⟩ := segments_append path hslash
  rw [toPlatformPath, toPlatformPath, hpath, happend, List.map_append, List.map_append,
    List.map_singleton, List.map_singleton, toPlatform_append h]
  by_cases hnil : pieces = []
  · simp [hnil]
  · rw [joinSegments_append (by simpa using hnil) (by simp),
      joinSegments_append (by simpa using hnil) (by simp), joinSegments_singleton,
      joinSegments_singleton]
    simp only [String.append_assoc]

@[simp] theorem toPlatform_eq_empty {name : String} : toPlatform name = "" ↔ name = "" :=
  toPlatform_eq_ending (by decide)

end ContentTree.Name
