import ContentTree.Proofs.Result
import ContentTree.Terminal.Markup
import Mathlib.Data.List.TakeWhile
/-!
Which marked-up texts a terminal without colors can show. It shows a text without brackets, and any
text once its tags are escaped and it is set in a style: escaping leaves every tag behind an odd
number of backslashes, so that all there is to see in front of the tag that ends the style are texts.
-/

set_option autoImplicit false
set_option relaxedAutoImplicit false

namespace ContentTree.Terminal

open ContentTree.Text

variable {text rest tail inner done style : List Char} {c : Char} {run : Nat}

/-! ### Tags at the front of a text -/

/-- Whether a character ends the inside of a tag. -/
def isBracket (c : Char) : Bool := c == '[' || c == ']'

/-- Whether a tag may begin with a character. -/
def startsTag (c : Char) : Bool := ('a' ≤ c && c ≤ 'z') || c == '#' || c == '/' || c == '@'

theorem drop_length_takeWhile (p : Char → Bool) (text : List Char) :
    text.drop (text.takeWhile p).length = text.dropWhile p := by
  induction text with
  | nil => rfl
  | cons c rest ih => cases hc : p c <;> simp [hc, ih]

/-- There is a tag when the first character may begin one and the first bracket closes it. -/
theorem tagAt_cons (c : Char) (rest : List Char) :
    tagAt? (c :: rest) =
      if startsTag c = true ∧ rest.find? isBracket = some ']' then
        some (c :: rest.takeWhile (!isBracket ·)) else none := by
  have hinner : (fun c ↦ c != '[' && c != ']') = (!isBracket ·) := by
    funext c
    simp [isBracket, bne]
  simp only [tagAt?, hinner, drop_length_takeWhile, ← List.find?_eq_head?_dropWhile_not]
  rw [← startsTag]
  by_cases hstart : startsTag c = true
  · simp only [hstart, if_true, true_and]
  · simp only [hstart, false_and, if_false, Bool.false_eq_true]

/-- What may follow a text without making a tag of its end: nothing, or a bracket behind
backslashes. -/
def IsBreak (tail : List Char) : Prop :=
  tail = [] ∨ ∃ run rest, tail = List.replicate run '\\' ++ '[' :: rest

theorem IsBreak.find_ne (h : IsBreak tail) : tail.find? isBracket ≠ some ']' := by
  rcases h with rfl | ⟨run, rest, rfl⟩
  · simp
  · rw [List.find?_append, List.find?_eq_none.mpr (by simp [isBracket])]
    simp [isBracket]

theorem tagAt_of_break (h : IsBreak tail) : tagAt? tail = none := by
  rcases h with rfl | ⟨run, rest, rfl⟩
  · rfl
  · cases run with
    | zero => rw [List.replicate_zero, List.nil_append, tagAt_cons, if_neg (by simp [startsTag])]
    | succ run =>
      rw [List.replicate_succ, List.cons_append, tagAt_cons, if_neg (by simp [startsTag])]

/-- A break does not close a tag. -/
theorem tagAt_append (h : tagAt? text = none) (htail : IsBreak tail) : tagAt? (text ++ tail) = none := by
  cases text with
  | nil => exact tagAt_of_break htail
  | cons c rest =>
    rw [List.cons_append, tagAt_cons, if_neg]
    rintro ⟨hstart, hfind⟩
    rw [List.find?_append, Option.or_eq_some_iff] at hfind
    rcases hfind with hclosed | ⟨-, hclosed⟩
    · rw [tagAt_cons, if_pos ⟨hstart, hclosed⟩] at h
      cases h
    · exact htail.find_ne hclosed

theorem escapedTagAt_slash (text : List Char) :
    escapedTagAt? ('\\' :: text) =
      (escapedTagAt? text).map fun found ↦ (found.1 + 1, found.2) := by
  simp only [escapedTagAt?, List.takeWhile_cons, beq_self_eq_true, if_true, List.length_cons,
    List.drop_succ_cons]
  split
  · rw [Option.map_map]
    rfl
  · rfl

/-- Backslashes in front of a text are counted. -/
theorem escapedTagAt_replicate (run : Nat) (text : List Char) :
    escapedTagAt? (List.replicate run '\\' ++ text) =
      (escapedTagAt? text).map fun found ↦ (found.1 + run, found.2) := by
  induction run with
  | zero => simp
  | succ run ih =>
    rw [List.replicate_succ, List.cons_append, escapedTagAt_slash, ih, Option.map_map]
    rfl

theorem escapedTagAt_bracket (rest : List Char) :
    escapedTagAt? ('[' :: rest) = (tagAt? rest).map fun inner ↦ (0, inner) := (rfl)

theorem escapedTagAt_other (hslash : c ≠ '\\') (hbracket : c ≠ '[') (rest : List Char) :
    escapedTagAt? (c :: rest) = none := by
  have hnone : (c :: rest).takeWhile (· == '\\') = [] := List.takeWhile_cons_of_neg (by simpa using hslash)
  simp only [escapedTagAt?, hnone, List.length_nil, List.drop_zero]
  split
  · next heq => exact absurd (List.cons.inj heq).1 hbracket
  · rfl

theorem escapedTagAt_append (hslash : c ≠ '\\') (h : escapedTagAt? (c :: rest) = none)
    (htail : IsBreak tail) : escapedTagAt? (c :: (rest ++ tail)) = none := by
  by_cases hbracket : c = '['
  · subst hbracket
    rw [escapedTagAt_bracket, Option.map_eq_none_iff] at h ⊢
    exact tagAt_append h htail
  · exact escapedTagAt_other hslash hbracket _

/-- Whether a text can stand between the brackets of a tag. -/
def IsInside (inner : List Char) : Prop :=
  ∃ c rest, inner = c :: rest ∧ startsTag c = true ∧ ∀ d ∈ rest, isBracket d = false

theorem isInside_of_tagAt (h : tagAt? text = some inner) : IsInside inner := by
  cases text with
  | nil => cases h
  | cons c rest =>
    rw [tagAt_cons] at h
    split_ifs at h with hclosed
    injection h with h
    refine ⟨c, _, h.symm, hclosed.1, fun d hd ↦ ?_⟩
    simpa using List.mem_takeWhile_imp hd

theorem isInside_of_escapedTagAt (h : escapedTagAt? text = some (run, inner)) : IsInside inner := by
  simp only [escapedTagAt?] at h
  split at h
  · obtain ⟨found, hfound, hsame⟩ := Option.map_eq_some_iff.mp h
    cases hsame
    exact isInside_of_tagAt hfound
  · cases h

theorem tagAt_of_isInside (h : IsInside inner) (rest : List Char) :
    tagAt? (inner ++ ']' :: rest) = some inner := by
  obtain ⟨c, name, rfl, hstart, hname⟩ := h
  have hfind : (name ++ ']' :: rest).find? isBracket = some ']' := by
    rw [List.find?_append, List.find?_eq_none.mpr (by simpa using hname)]
    rfl
  have htake : (name ++ ']' :: rest).takeWhile (!isBracket ·) = name := by
    rw [List.takeWhile_append_of_pos (by simpa using hname)]
    simp [isBracket]
  rw [List.cons_append, tagAt_cons, if_pos ⟨hstart, hfind⟩, htake]

theorem escapedTagAt_of_isInside (h : IsInside inner) (run : Nat) (rest : List Char) :
    escapedTagAt? (List.replicate run '\\' ++ '[' :: (inner ++ ']' :: rest)) = some (run, inner) := by
  rw [escapedTagAt_replicate, escapedTagAt_bracket, tagAt_of_isInside h]
  simp

/-! ### Texts in which every tag is escaped -/

/-- Texts in which every tag stands behind an odd number of backslashes. -/
inductive Tagless : List Char → Prop
  | nil : Tagless []
  | char {c : Char} {rest : List Char} (hslash : c ≠ '\\') (hnone : escapedTagAt? (c :: rest) = none)
      (hrest : Tagless rest) : Tagless (c :: rest)
  | slashes {run : Nat} {rest : List Char} (hhead : rest.head? ≠ some '\\')
      (hnone : escapedTagAt? rest = none) (hrest : Tagless rest) :
      Tagless (List.replicate (run + 1) '\\' ++ rest)
  | escaped {run : Nat} {inner rest : List Char} (hodd : run % 2 = 1) (hinner : IsInside inner)
      (hrest : Tagless rest) : Tagless (List.replicate run '\\' ++ '[' :: (inner ++ ']' :: rest))

/-- The piece for the characters since the last tag. -/
def flushed (done : List Char) : List Piece := if done = [] then [] else [.text done.reverse]

/-- Whether pieces are texts only. -/
def AreTexts (parts : List Piece) : Prop := ∀ part ∈ parts, ∃ chars, part = .text chars

theorem areTexts_flushed (done : List Char) : AreTexts (flushed done) := by
  unfold flushed
  split_ifs <;> simp [AreTexts]

theorem AreTexts.append {first second : List Piece} (hfirst : AreTexts first)
    (hsecond : AreTexts second) : AreTexts (first ++ second) :=
  List.forall_mem_append.mpr ⟨hfirst, hsecond⟩

theorem areTexts_escapedTag (hodd : run % 2 = 1) (inner : List Char) :
    AreTexts (escapedTag run inner) := by
  unfold escapedTag
  rw [if_pos hodd]
  refine AreTexts.append ?_ (by simp [AreTexts])
  split_ifs <;> simp [AreTexts]

theorem pieces_tag (hinner : IsInside inner) (done : List Char) (run : Nat) (rest : List Char) :
    pieces done (List.replicate run '\\' ++ '[' :: (inner ++ ']' :: rest)) =
      flushed done ++ escapedTag run inner ++ pieces [] rest := by
  have htag := escapedTagAt_of_isInside hinner run rest
  cases run with
  | zero =>
    rw [List.replicate_zero, List.nil_append] at htag ⊢
    rw [pieces, htag]
    simp [flushed]
  | succ run =>
    rw [List.replicate_succ, List.cons_append] at htag ⊢
    rw [pieces, htag]
    have hdrop : (List.replicate run '\\' ++ '[' :: (inner ++ ']' :: rest)).drop
        (run + 1 + inner.length + 1) = rest := by
      rw [show List.replicate run '\\' ++ '[' :: (inner ++ ']' :: rest) =
        (List.replicate run '\\' ++ '[' :: (inner ++ [']'])) ++ rest by simp]
      exact List.drop_left' (by simp; omega)
    simp [flushed, hdrop]

theorem pieces_char (hslash : c ≠ '\\') (hnone : escapedTagAt? (c :: rest) = none)
    (done : List Char) : pieces done (c :: rest) = pieces (c :: done) rest := by
  rw [pieces, hnone]
  simp only [if_neg hslash]

theorem pieces_slashes (hhead : rest.head? ≠ some '\\') (hnone : escapedTagAt? rest = none)
    (done : List Char) (run : Nat) :
    pieces done (List.replicate (run + 1) '\\' ++ rest) =
      pieces (List.replicate (run + 1) '\\' ++ done) rest := by
  have htag : escapedTagAt? (List.replicate (run + 1) '\\' ++ rest) = none := by
    rw [escapedTagAt_replicate, hnone, Option.map_none]
  have hstop : rest.takeWhile (· == '\\') = [] := by
    cases rest with
    | nil => rfl
    | cons c rest => exact List.takeWhile_cons_of_neg (by simpa using hhead)
  have hrun : (List.replicate run '\\' ++ rest).takeWhile (· == '\\') = List.replicate run '\\' := by
    rw [List.takeWhile_append_of_pos (by simp), hstop, List.append_nil]
  rw [List.replicate_succ, List.cons_append] at htag ⊢
  rw [pieces, htag]
  simp only [if_true, hrun, List.drop_left]
  rw [← List.replicate_succ, List.replicate_succ', List.append_assoc]
  rfl

/-- The pieces of a text whose tags are escaped are texts, up to the backslashes at its end. -/
theorem Tagless.pieces_append (h : Tagless text) (htail : IsBreak tail) (done : List Char) :
    ∃ texts run late, AreTexts texts ∧
      pieces done (text ++ tail) = texts ++ pieces late (List.replicate run '\\' ++ tail) := by
  induction h generalizing done with
  | nil => exact ⟨[], 0, done, by simp [AreTexts], rfl⟩
  | @char c rest hslash hnone hrest ih =>
    rw [List.cons_append, pieces_char hslash (escapedTagAt_append hslash hnone htail)]
    exact ih (c :: done)
  | @slashes run rest hhead hnone hrest ih =>
    cases rest with
    | nil => exact ⟨[], run + 1, done, by simp [AreTexts], by simp⟩
    | cons c rest =>
      have hslash : c ≠ '\\' := by simpa using hhead
      rw [List.append_assoc, List.cons_append, pieces_slashes (by simpa using hslash)
        (escapedTagAt_append hslash hnone htail)]
      exact ih _
  | @escaped run inner rest hodd hinner hrest ih =>
    obtain ⟨texts, late, done', htexts, heq⟩ := ih []
    have htag := pieces_tag hinner done run (rest ++ tail)
    refine ⟨flushed done ++ escapedTag run inner ++ texts, late, done', ?_, ?_⟩
    · exact ((areTexts_flushed done).append (areTexts_escapedTag hodd inner)).append htexts
    · rw [heq, ← List.append_assoc] at htag
      simpa using htag

/-! ### Escaping -/

theorem escapeTags_tag {found : Nat × List Char} (htag : escapedTagAt? (c :: rest) = some found) :
    escapeTags (c :: rest) = List.replicate (2 * found.1 + 1) '\\' ++ '[' :: (found.2 ++ ']' ::
      escapeTags (rest.drop (found.1 + found.2.length + 1))) := by
  rw [escapeTags, htag]
  simp

theorem escapeTags_char (hslash : c ≠ '\\') (hnone : escapedTagAt? (c :: rest) = none) :
    escapeTags (c :: rest) = c :: escapeTags rest := by
  rw [escapeTags, hnone]
  simp only [if_neg hslash]

/-- Backslashes that escape nothing stay as they are. -/
theorem escapeTags_slash (hnone : escapedTagAt? ('\\' :: rest) = none) :
    ∃ run after, rest = List.replicate run '\\' ++ after ∧ after.head? ≠ some '\\' ∧
      rest.drop (rest.takeWhile (· == '\\')).length = after ∧ escapedTagAt? after = none ∧
        escapeTags ('\\' :: rest) = List.replicate (run + 1) '\\' ++ escapeTags after := by
  have hrun : rest.takeWhile (· == '\\') =
      List.replicate (rest.takeWhile (· == '\\')).length '\\' :=
    List.eq_replicate_iff.mpr ⟨rfl, fun d hd ↦ by simpa using List.mem_takeWhile_imp hd⟩
  have hsplit : rest = List.replicate (rest.takeWhile (· == '\\')).length '\\' ++
      rest.dropWhile (· == '\\') := by
    rw [← hrun, List.takeWhile_append_dropWhile]
  have hdrop := drop_length_takeWhile (· == '\\') rest
  refine ⟨_, _, hsplit, ?_, hdrop, ?_, ?_⟩
  · rw [← List.find?_not_eq_head?_dropWhile]
    intro hfind
    simpa using List.find?_some hfind
  · rw [hsplit, escapedTagAt_slash, escapedTagAt_replicate] at hnone
    simpa using hnone
  · rw [escapeTags, hnone]
    simp only [if_true, hdrop, List.replicate_succ]
    rw [← hrun]

theorem find_replicate_append (run : Nat) (rest : List Char) :
    (List.replicate run '\\' ++ rest).find? isBracket = rest.find? isBracket := by
  rw [List.find?_append, List.find?_eq_none.mpr (by simp [isBracket]), Option.none_or]

/-- Escaping a text does not make its first bracket a closing one. -/
theorem find_escapeTags (h : (escapeTags text).find? isBracket = some ']') :
    text.find? isBracket = some ']' := by
  induction text using escapeTags.induct with
  | case1 => simp [escapeTags] at h
  | case2 c rest run inner htag ih =>
    rw [escapeTags_tag htag, find_replicate_append] at h
    simp [isBracket] at h
  | case3 rest run hnone ih =>
    obtain ⟨run, after, hrest, -, hdrop, -, hescape⟩ := escapeTags_slash hnone
    rw [hdrop] at ih
    rw [hescape, find_replicate_append] at h
    rw [hrest, ← List.cons_append, ← List.replicate_succ, find_replicate_append]
    exact ih h
  | case4 c rest hslash hnone ih =>
    rw [escapeTags_char hslash hnone] at h
    cases hbracket : isBracket c with
    | true => simpa [hbracket] using h
    | false =>
      rw [List.find?_cons_of_neg (by simp [hbracket])] at h ⊢
      exact ih h

/-- Escaping a text does not make a tag of its beginning. -/
theorem tagAt_escapeTags (h : tagAt? text = none) : tagAt? (escapeTags text) = none := by
  cases text with
  | nil => simp [escapeTags, tagAt?]
  | cons c rest =>
    cases htag : escapedTagAt? (c :: rest) with
    | some found =>
      rw [escapeTags_tag htag]
      exact tagAt_of_break (.inr ⟨_, _, rfl⟩)
    | none =>
      by_cases hslash : c = '\\'
      · subst hslash
        obtain ⟨run, after, -, -, -, -, hescape⟩ := escapeTags_slash htag
        rw [hescape, List.replicate_succ, List.cons_append, tagAt_cons, if_neg (by simp [startsTag])]
      · rw [escapeTags_char hslash htag, tagAt_cons, if_neg]
        rintro ⟨hstart, hfind⟩
        rw [tagAt_cons, if_pos ⟨hstart, find_escapeTags hfind⟩] at h
        cases h

theorem escapedTagAt_escapeTags (hslash : c ≠ '\\') (h : escapedTagAt? (c :: rest) = none) :
    escapedTagAt? (c :: escapeTags rest) = none := by
  by_cases hbracket : c = '['
  · subst hbracket
    rw [escapedTagAt_bracket, Option.map_eq_none_iff] at h ⊢
    exact tagAt_escapeTags h
  · exact escapedTagAt_other hslash hbracket _

/-- Escaping leaves no tag. -/
theorem tagless_escapeTags (text : List Char) : Tagless (escapeTags text) := by
  induction text using escapeTags.induct with
  | case1 =>
    rw [escapeTags]
    exact .nil
  | case2 c rest run inner htag ih =>
    rw [escapeTags_tag htag]
    exact .escaped (by omega) (isInside_of_escapedTagAt htag) ih
  | case3 rest run hnone ih =>
    obtain ⟨run, after, -, hhead, hdrop, hafter, hescape⟩ := escapeTags_slash hnone
    rw [hdrop] at ih
    rw [hescape]
    cases after with
    | nil => exact .slashes (by simp [escapeTags]) (by simp [escapeTags, escapedTagAt?]) ih
    | cons c after =>
      have hslash : c ≠ '\\' := by simpa using hhead
      rw [escapeTags_char hslash hafter] at ih ⊢
      exact .slashes (by simpa using hslash) (escapedTagAt_escapeTags hslash hafter) ih
  | case4 c rest hslash hnone ih =>
    rw [escapeTags_char hslash hnone]
    exact .char hslash (escapedTagAt_escapeTags hslash hnone) ih

/-- Escaping changes nothing in a text without brackets. -/
theorem escapeTags_of_not_mem (h : '[' ∉ text) : escapeTags text = text := by
  induction text using escapeTags.induct with
  | case1 => rw [escapeTags]
  | case2 c rest run inner htag ih =>
    simp only [escapedTagAt?] at htag
    split at htag
    · next heq => exact absurd (List.mem_of_mem_drop (heq ▸ List.mem_cons_self)) h
    · cases htag
  | case3 rest run hnone ih =>
    obtain ⟨run, after, hrest, -, hdrop, -, hescape⟩ := escapeTags_slash hnone
    rw [hdrop] at ih
    rw [hescape, ih (fun hmem ↦ h (by simp [hrest, hmem])), hrest, List.replicate_succ,
      List.cons_append]
  | case4 c rest hslash hnone ih =>
    rw [escapeTags_char hslash hnone, ih (fun hmem ↦ h (List.mem_cons_of_mem _ hmem))]

theorem tagless_of_not_mem (h : '[' ∉ text) : Tagless text :=
  escapeTags_of_not_mem h ▸ tagless_escapeTags text

/-! ### Showing -/

/-- Whether a renderer can show a marked-up text. -/
def CanShow (render : Renderer) (markup : String) : Prop := (render markup).isOk = true

instance (render : Renderer) (markup : String) : Decidable (CanShow render markup) :=
  inferInstanceAs (Decidable ((render markup).isOk = true))

variable {isLiteral : String → Bool}

theorem canShow_plainText_iff {markup : String} : CanShow (plainText isLiteral) markup ↔
    (showPieces isLiteral [] (pieces [] markup.toList)).isOk = true := by
  rw [CanShow, plainText, isOk_map]

/-- Texts can be shown under all styles. -/
theorem isOk_showPieces_append {texts : List Piece} (htexts : AreTexts texts)
    (styles : List (String × Option String)) (parts : List Piece) :
    (showPieces isLiteral styles (texts ++ parts)).isOk =
      (showPieces isLiteral styles parts).isOk := by
  induction texts with
  | nil => rfl
  | cons part texts ih =>
    obtain ⟨hpart, hrest⟩ := List.forall_mem_cons.mp htexts
    obtain ⟨chars, rfl⟩ := hpart
    rw [← ih hrest, List.cons_append, showPieces]
    cases showPieces isLiteral styles (texts ++ parts) <;> rfl

theorem isOk_showPieces {texts : List Piece} (htexts : AreTexts texts)
    (styles : List (String × Option String)) : (showPieces isLiteral styles texts).isOk = true := by
  have hend := @isOk_showPieces_append isLiteral texts htexts styles []
  rw [List.append_nil] at hend
  exact hend

theorem areTexts_pieces_replicate (done : List Char) (run : Nat) :
    AreTexts (pieces done (List.replicate run '\\')) := by
  have hflushed : ∀ done, AreTexts (pieces done []) := by
    intro done
    rw [pieces]
    exact areTexts_flushed done
  cases run with
  | zero => exact hflushed done
  | succ run =>
    have hslashes : pieces done (List.replicate (run + 1) '\\' ++ []) =
        pieces (List.replicate (run + 1) '\\' ++ done) [] := pieces_slashes (by simp) rfl done run
    rw [List.append_nil] at hslashes
    rw [hslashes]
    exact hflushed _

/-- A text whose tags are escaped can be shown. -/
theorem canShow_of_tagless {markup : String} (h : Tagless markup.toList) :
    CanShow (plainText isLiteral) markup := by
  obtain ⟨texts, run, late, htexts, heq⟩ := h.pieces_append (.inl rfl) []
  rw [List.append_nil, List.append_nil] at heq
  rw [canShow_plainText_iff, heq]
  exact isOk_showPieces (htexts.append (areTexts_pieces_replicate late run)) []

/-- A text without brackets can be shown. -/
theorem canShow_of_not_mem {markup : String} (h : '[' ∉ markup.toList) :
    CanShow (plainText isLiteral) markup :=
  canShow_of_tagless (tagless_of_not_mem h)

/-- A tag behind backslashes is the texts of half of them and either the tag or its text. -/
theorem exists_escapedTag (run : Nat) (inner : List Char) :
    ∃ texts, AreTexts texts ∧
      (escapedTag run inner = texts ∨ escapedTag run inner = texts ++ [pieceOfTag inner]) := by
  by_cases hodd : run % 2 = 1
  · exact ⟨_, areTexts_escapedTag hodd inner, .inl rfl⟩
  · unfold escapedTag
    rw [if_neg hodd]
    refine ⟨_, ?_, .inr rfl⟩
    split_ifs <;> simp [AreTexts]

/-- Whether the inside of a tag opens a style that is known under a name. -/
structure IsOpening (name : List Char) (style known : String) : Prop where
  isInside : IsInside name
  opens : pieceOfTag name = .opening style none
  normalize : Style.normalize style = .ok known

theorem isInside_slash : IsInside ['/'] := ⟨'/', [], rfl, rfl, by simp⟩

/-- The tag that closes the latest style can be shown after any backslashes when a style is in
force that has no argument. -/
theorem isOk_close (known : String) (done : List Char) (run : Nat) :
    (showPieces isLiteral [(known, none)]
      (pieces done (List.replicate run '\\' ++ ['[', '/', ']']))).isOk = true := by
  obtain ⟨texts, htexts, htag⟩ := exists_escapedTag run ['/']
  have hend : pieces [] [] = [] := by simp [pieces]
  have hpieces := pieces_tag isInside_slash done run []
  rw [hend, List.append_nil] at hpieces
  have hclosing : pieceOfTag ['/'] = .closing "" := rfl
  have hclosed : closed? "" [(known, none)] = .ok (some ((known, none), [])) := rfl
  change (showPieces isLiteral _ (pieces done (_ ++ '[' :: (['/'] ++ [']'])))).isOk = true
  rw [hpieces]
  rcases htag with htag | htag <;> rw [htag]
  · exact isOk_showPieces ((areTexts_flushed done).append htexts) _
  · rw [← List.append_assoc, isOk_showPieces_append ((areTexts_flushed done).append htexts), hclosing,
      showPieces, hclosed]
    simp [showPieces, bind, Except.bind, Except.isOk, Except.toBool]

/-- A text whose tags are escaped can be shown between a tag that opens a style and the one that
closes it, whatever number of backslashes stands in front of that. -/
theorem IsOpening.isOk_enclose {name : List Char} {style known : String}
    (h : IsOpening name style known) (htext : Tagless text) (run : Nat) :
    (showPieces isLiteral [] (pieces [] ('[' :: (name ++ ']' ::
      (text ++ (List.replicate run '\\' ++ ['[', '/', ']'])))))).isOk = true := by
  obtain ⟨texts, more, late, htexts, heq⟩ :=
    htext.pieces_append (.inr ⟨run, ['/', ']'], rfl⟩) []
  have hopen := pieces_tag h.isInside [] 0 (text ++ (List.replicate run '\\' ++ ['[', '/', ']']))
  have htag : escapedTag 0 name = [.opening style none] := by
    rw [← h.opens]
    rfl
  rw [List.replicate_zero, List.nil_append, flushed, if_pos rfl, List.nil_append, htag,
    List.singleton_append] at hopen
  have hshow : ∀ parts, showPieces isLiteral [] (.opening style none :: parts) =
      showPieces isLiteral [(known, none)] parts := by
    intro parts
    rw [showPieces, h.normalize]
    rfl
  rw [hopen, heq, hshow, isOk_showPieces_append htexts, ← List.append_assoc,
    List.replicate_append_replicate]
  exact isOk_close known late (more + run)

theorem toList_escapeMarkup (text : String) :
    ∃ run, (escapeMarkup text).toList = escapeTags text.toList ++ List.replicate run '\\' := by
  simp only [escapeMarkup]
  split_ifs
  · exact ⟨1, by simp⟩
  · exact ⟨0, by simp⟩

/-- A text can be shown in a style, whatever it is. -/
theorem canShow_styled {style known : String} (hstyle : IsOpening style.toList style known)
    (text : String) : CanShow (plainText isLiteral) (styled style text) := by
  obtain ⟨run, hescape⟩ := toList_escapeMarkup text
  have hshow := @IsOpening.isOk_enclose (escapeTags text.toList) isLiteral style.toList style known
    hstyle (tagless_escapeTags text.toList) run
  rw [canShow_plainText_iff]
  simpa [styled, hescape] using hshow

end ContentTree.Terminal
