import ContentTree.Text.Segments
import Mathlib.Data.List.Basic
/-!
Cutting a text at slashes and gluing the pieces undo each other, so a text is the same thing as a
nonempty list of pieces without slashes. Gluing two texts with a slash appends their lists, and
the tests on endings are facts about the last piece.
-/

set_option autoImplicit false
set_option relaxedAutoImplicit false

namespace ContentTree.Text

variable {text ending name : String}

/-! ### Cutting and gluing -/

/-- A text without a slash, which is what stands between two slashes of a path. -/
def Slashless (text : String) : Prop := '/' ∉ text.toList

instance (text : String) : Decidable (Slashless text) :=
  inferInstanceAs (Decidable ('/' ∉ text.toList))

theorem slashless_empty : Slashless "" := by simp [Slashless]

@[simp] theorem slashless_append {front back : String} :
    Slashless (front ++ back) ↔ Slashless front ∧ Slashless back := by
  simp [Slashless, not_or]

private theorem notMem_of_mem_splitOn {cs piece : List Char} (h : piece ∈ cs.splitOn '/') :
    '/' ∉ piece := by
  induction cs generalizing piece with
  | nil =>
    simp only [List.splitOn_nil, List.mem_singleton] at h
    simp [h]
  | cons c rest ih =>
    rw [List.splitOn_cons_eq_if_modifyHead] at h
    split at h
    · rcases List.mem_cons.mp h with rfl | h
      · simp
      · exact ih h
    · next hc =>
      obtain ⟨first, others, hsplit⟩ := List.exists_cons_of_ne_nil (List.splitOn_ne_nil '/' rest)
      rw [hsplit, List.modifyHead_cons] at h
      rcases List.mem_cons.mp h with rfl | h
      · have hfirst : '/' ∉ first := ih (by rw [hsplit]; exact List.mem_cons_self)
        have hne : '/' ≠ c := fun heq ↦ hc (by rw [heq]; exact beq_self_eq_true c)
        simp [hne, hfirst]
      · exact ih (by rw [hsplit]; exact List.mem_cons_of_mem first h)

/-- The pieces between slashes hold no slash. -/
theorem slashless_of_mem_segments {piece : String} (h : piece ∈ segments text) :
    Slashless piece := by
  obtain ⟨cs, hcs, rfl⟩ := List.mem_map.mp h
  simpa [Slashless] using notMem_of_mem_splitOn hcs

@[simp] theorem segments_ne_nil (text : String) : segments text ≠ [] := by
  simp [segments]

@[simp] theorem joinSegments_segments (text : String) : joinSegments (segments text) = text := by
  have hlists : (segments text).map String.toList = text.toList.splitOn '/' := by
    simp [segments]
  rw [joinSegments, hlists, List.intercalate_splitOn, String.ofList_toList]

/-- Assumes: at least one piece, and no slash in any piece. -/
theorem segments_joinSegments {pieces : List String} (hne : pieces ≠ [])
    (hpieces : ∀ piece ∈ pieces, Slashless piece) : segments (joinSegments pieces) = pieces := by
  have hlists : ∀ cs ∈ pieces.map String.toList, '/' ∉ cs := by
    intro cs hcs
    obtain ⟨piece, hpiece, rfl⟩ := List.mem_map.mp hcs
    exact hpieces piece hpiece
  rw [segments, joinSegments, String.toList_ofList,
    List.splitOn_intercalate '/' hlists (by simpa using hne)]
  simp

/-- A text without a slash is one piece. -/
theorem segments_of_slashless (h : Slashless text) : segments text = [text] := by
  simp [segments, List.splitOn_eq_singleton h]

theorem segments_append_slash (front back : String) :
    segments (front ++ "/" ++ back) = segments front ++ segments back := by
  have htext : (front ++ "/" ++ back).toList = front.toList ++ '/' :: back.toList := by simp
  rw [segments, htext, List.splitOn_append_cons_self, List.map_append]
  rfl

theorem segments_slash_append (back : String) : segments ("/" ++ back) = "" :: segments back := by
  have h := segments_append_slash "" back
  rwa [String.empty_append, segments_of_slashless slashless_empty] at h

@[simp] theorem joinSegments_nil : joinSegments [] = "" := by
  simp [joinSegments]

@[simp] theorem joinSegments_singleton (piece : String) : joinSegments [piece] = piece := by
  simp [joinSegments]

/-- Assumes: pieces on both sides. -/
theorem joinSegments_append {front back : List String} (hfront : front ≠ []) (hback : back ≠ []) :
    joinSegments (front ++ back) = joinSegments front ++ "/" ++ joinSegments back := by
  induction front with
  | nil => exact absurd rfl hfront
  | cons piece rest ih =>
    cases rest with
    | nil =>
      obtain ⟨first, others, rfl⟩ := List.exists_cons_of_ne_nil hback
      simp [joinSegments, String.ext_iff]
    | cons next others =>
      have hrest := congrArg String.toList (ih (by simp))
      simp only [joinSegments, String.toList_ofList, String.toList_append, List.cons_append,
        List.map_cons, List.map_append] at hrest
      simp [joinSegments, String.ext_iff, hrest]

theorem joinSegments_cons_cons (piece next : String) (rest : List String) :
    joinSegments (piece :: next :: rest) = piece ++ "/" ++ joinSegments (next :: rest) := by
  have h : joinSegments ([piece] ++ next :: rest) =
      joinSegments [piece] ++ "/" ++ joinSegments (next :: rest) :=
    joinSegments_append (by simp) (by simp)
  simpa using h

/-! ### Beginnings -/

theorem segments_injective : Function.Injective segments := by
  intro first second h
  rw [← joinSegments_segments first, h, joinSegments_segments]

/-- A text begins with another one and a slash exactly when the pieces of the other one are the
first of its own, and not all of them. -/
theorem append_slash_prefix_iff {front : String} :
    (front ++ "/").toList <+: text.toList ↔ segments front <+: segments text ∧ front ≠ text := by
  constructor
  · rintro ⟨back, hback⟩
    have htext : text = front ++ "/" ++ String.ofList back := by
      simp [String.ext_iff, ← hback]
    rw [htext, segments_append_slash]
    refine ⟨List.prefix_append _ _, fun heq ↦ ?_⟩
    have hlength := congrArg String.length heq
    simp only [String.length_append] at hlength
    have hslash : "/".length = 1 := rfl
    omega
  · rintro ⟨⟨back, hback⟩, hne⟩
    have hrest : back ≠ [] := by
      rintro rfl
      exact hne (segments_injective (by simpa using hback))
    have htext : text = front ++ "/" ++ joinSegments back := by
      rw [← joinSegments_segments text, ← hback, joinSegments_append (segments_ne_nil front) hrest,
        joinSegments_segments]
    exact ⟨(joinSegments back).toList, by simp [htext]⟩

/-! ### Endings -/

theorem finishesWith_iff : finishesWith ending text = true ↔ ∃ front, text = front ++ ending := by
  rw [finishesWith, List.isSuffixOf_iff_suffix]
  constructor
  · rintro ⟨front, hfront⟩
    exact ⟨String.ofList front, by simp [String.ext_iff, hfront]⟩
  · rintro ⟨front, rfl⟩
    exact ⟨front.toList, by simp⟩

@[simp] theorem finishesWith_append (front ending : String) :
    finishesWith ending (front ++ ending) = true :=
  finishesWith_iff.mpr ⟨front, rfl⟩

@[simp] theorem dropEnd_append (front ending : String) :
    dropEnd ending.length (front ++ ending) = front := by
  simp [dropEnd, ← String.length_toList]

/-- Assumes: an ending without a slash. A text after a slash decides whether the whole finishes
with it. -/
theorem finishesWith_append_slash (front : String) (hending : Slashless ending) :
    finishesWith ending (front ++ "/" ++ name) = finishesWith ending name := by
  rw [Bool.eq_iff_iff, finishesWith, finishesWith, List.isSuffixOf_iff_suffix,
    List.isSuffixOf_iff_suffix]
  have hlist : (front ++ "/" ++ name).toList = front.toList ++ '/' :: name.toList := by simp
  rw [hlist]
  constructor
  · intro h
    rcases List.suffix_or_suffix_of_suffix h (List.suffix_append front.toList _) with hs | hs
    · rcases List.suffix_cons_iff.mp hs with heq | hs
      · exact absurd (by rw [heq]; exact List.mem_cons_self) hending
      · exact hs
    · exact absurd (hs.subset List.mem_cons_self) hending
  · intro h
    exact (h.trans (List.suffix_cons '/' name.toList)).trans (List.suffix_append _ _)

/-- Assumes: texts without slashes. A path finishes with a slash and a name exactly when that is
its last name. -/
theorem finishesWith_slash_append_slash (front : String) (hending : Slashless ending)
    (hname : Slashless name) :
    finishesWith ("/" ++ ending) (front ++ "/" ++ name) = decide (name = ending) := by
  rw [Bool.eq_iff_iff, finishesWith, List.isSuffixOf_iff_suffix, decide_eq_true_iff]
  have hlist : (front ++ "/" ++ name).toList = front.toList ++ '/' :: name.toList := by simp
  have hslash : ("/" ++ ending).toList = '/' :: ending.toList := by simp
  rw [hlist, hslash]
  constructor
  · intro h
    rcases List.suffix_or_suffix_of_suffix h (List.suffix_append front.toList _) with hs | hs
    · rcases List.suffix_cons_iff.mp hs with heq | hs
      · exact (String.toList_inj.mp (List.cons.inj heq).2).symm
      · exact absurd (hs.subset List.mem_cons_self) hname
    · rcases List.suffix_cons_iff.mp hs with heq | hs
      · exact String.toList_inj.mp (List.cons.inj heq).2
      · exact absurd (hs.subset List.mem_cons_self) hending
  · rintro rfl
    exact List.suffix_append _ _

/-- A text does not finish with a slash and with something else that has none. -/
theorem not_finishesWith_of_slash (hne : ending ≠ "") (hending : Slashless ending)
    (h : finishesWith "/" text = true) : finishesWith ending text = false := by
  obtain ⟨front, rfl⟩ := finishesWith_iff.mp h
  have hslash : finishesWith ending (front ++ "/" ++ "") = finishesWith ending "" :=
    finishesWith_append_slash front hending
  rw [String.append_empty] at hslash
  rw [hslash, ← Bool.not_eq_true]
  intro hempty
  obtain ⟨before, hbefore⟩ := finishesWith_iff.mp hempty
  exact hne (String.append_eq_empty_iff.mp hbefore.symm).2

theorem finishesWith_trimStart (hending : Slashless ending) (h : finishesWith ending text = true) :
    finishesWith ending (trimStart (· == '/') text) = true := by
  obtain ⟨front, rfl⟩ := finishesWith_iff.mp h
  have hkeep : ending.toList.dropWhile (· == '/') = ending.toList := by
    cases hlist : ending.toList with
    | nil => rfl
    | cons c rest =>
      have hc : c ≠ '/' := fun heq ↦ hending (by simp [hlist, heq])
      rw [List.dropWhile_cons_of_neg (by simpa using hc)]
  rw [finishesWith, List.isSuffixOf_iff_suffix, trimStart, String.toList_ofList, String.toList_append,
    List.dropWhile_append]
  split_ifs
  · simp only [hkeep, List.suffix_rfl]
  · exact List.suffix_append _ _

/-! ### The last piece -/

theorem lastSegment_append_slash (front : String) (hname : Slashless name) :
    lastSegment (front ++ "/" ++ name) = name := by
  simp [lastSegment, segments_append_slash, segments_of_slashless hname]

/-- Assumes: an ending without a slash. It gets to the last piece. -/
theorem segments_append (text : String) (hending : Slashless ending) :
    ∃ pieces last, segments text = pieces ++ [last] ∧
      segments (text ++ ending) = pieces ++ [last ++ ending] := by
  obtain ⟨pieces, last, hpieces⟩ :=
    (List.eq_nil_or_concat (segments text)).resolve_left (segments_ne_nil text)
  rw [List.concat_eq_append] at hpieces
  have hslashless : ∀ piece ∈ pieces ++ [last], Slashless piece := fun piece hpiece ↦
    slashless_of_mem_segments (hpieces ▸ hpiece)
  obtain ⟨hfirst, hlast⟩ := List.forall_mem_append.mp hslashless
  have hboth : segments (last ++ ending) = [last ++ ending] :=
    segments_of_slashless (slashless_append.mpr ⟨List.forall_mem_singleton.mp hlast, hending⟩)
  refine ⟨pieces, last, hpieces, ?_⟩
  rw [← joinSegments_segments text, hpieces]
  by_cases hnil : pieces = []
  · simp [hnil, hboth]
  · have hfront : segments (joinSegments pieces) = pieces := segments_joinSegments hnil hfirst
    rw [joinSegments_append hnil (by simp), joinSegments_singleton, String.append_assoc,
      segments_append_slash, hfront, hboth]

theorem beforeLastSlash_append_slash (front : String) (hname : Slashless name) :
    beforeLastSlash (front ++ "/" ++ name) = front := by
  have hsegments : segments (front ++ "/" ++ name) = segments front ++ [name] := by
    rw [segments_append_slash, segments_of_slashless hname]
  obtain ⟨first, others, hfront⟩ := List.exists_cons_of_ne_nil (segments_ne_nil front)
  have hdrop : (segments front ++ [name]).dropLast = segments front := by simp
  unfold beforeLastSlash
  rw [hsegments]
  rw [hfront] at hdrop ⊢
  cases others with
  | nil =>
    change joinSegments [first] = front
    rw [← hfront, joinSegments_segments]
  | cons next rest =>
    change joinSegments ((first :: next :: rest ++ [name]).dropLast) = front
    rw [hdrop, ← hfront, joinSegments_segments]

theorem segments_beforeLastSlash (text : String) :
    segments (beforeLastSlash text) ⊆ segments text := by
  unfold beforeLastSlash
  split
  · exact List.Subset.refl _
  · exact List.Subset.refl _
  · next hnil hsingle =>
    have hpieces : (segments text).dropLast ≠ [] := by
      intro hempty
      obtain ⟨first, others, hlist⟩ := List.exists_cons_of_ne_nil (segments_ne_nil text)
      cases others with
      | nil => exact hsingle first hlist
      | cons next rest => simp [hlist] at hempty
    rw [segments_joinSegments hpieces fun piece hpiece ↦
      slashless_of_mem_segments (List.dropLast_subset _ hpiece)]
    exact List.dropLast_subset _

end ContentTree.Text
