import ContentTree.Proofs.Path.Logical
import ContentTree.Storage.FilePath
import Mathlib.Data.FinEnum
import Mathlib.Data.Set.Finite.List
/-!
A tidy path is given by its slashes in front and its parts. What is below a folder has the slashes
of the folder and first the folder's parts, then its own; so a file below a folder that is itself
below another is at the parts of both.
-/

set_option autoImplicit false
set_option relaxedAutoImplicit false

namespace ContentTree.Storage.FilePath

open ContentTree.Text ContentTree.Path ContentTree.Descriptor.Element

/-- A segment that tidying keeps. -/
def IsPart (segment : String) : Prop := segment ≠ "" ∧ segment ≠ "." ∧ Slashless segment

instance (segment : String) : Decidable (IsPart segment) :=
  inferInstanceAs (Decidable (segment ≠ "" ∧ segment ≠ "." ∧ Slashless segment))

/-- The path with some slashes in front and some parts. -/
def ofParts (front : String) (parts : List String) : String :=
  if front ++ joinSegments parts = "" then "." else front ++ joinSegments parts

variable {path root name front ending : String} {ps names : List String}

theorem isPart_of_isName (h : IsName name) : IsPart name := ⟨h.1, h.2.1, h.2.2.2⟩

theorem isPart_of_mem_concat (hps : ∀ part ∈ ps, IsPart part) (hname : IsPart name) :
    ∀ part ∈ ps ++ [name], IsPart part :=
  List.forall_mem_append.mpr ⟨hps, List.forall_mem_singleton.mpr hname⟩

theorem tidy_eq_ofParts (path : String) : tidy path = ofParts (anchor path) (parts path) := rfl

/-! ### Parts -/

theorem parts_eq_filter (path : String) : parts path = (namesIn path).filter (· ≠ ".") := by
  rw [parts, namesIn, List.filter_filter]
  refine List.filter_congr fun segment _ ↦ ?_
  by_cases hempty : segment = "" <;> by_cases hdot : segment = "." <;> simp [hempty, hdot]

theorem isPart_of_mem_parts (h : name ∈ parts path) : IsPart name := by
  rw [parts_eq_filter] at h
  obtain ⟨hname, hdot⟩ := List.mem_filter.mp h
  exact ⟨(mem_namesIn hname).1, by simpa using hdot, (mem_namesIn hname).2⟩

@[simp] theorem parts_append_slash (first second : String) :
    parts (first ++ "/" ++ second) = parts first ++ parts second := by
  simp [parts_eq_filter]

@[simp] theorem parts_slash_append (path : String) : parts ("/" ++ path) = parts path := by
  simp [parts_eq_filter]

@[simp] theorem parts_empty : parts "" = [] := by simp [parts_eq_filter]

@[simp] theorem parts_trimStart (path : String) :
    parts (trimStart (· == '/') path) = parts path := by
  rw [parts_eq_filter, parts_eq_filter, namesIn_trimStart]

theorem parts_joinSegments (h : ∀ part ∈ ps, IsPart part) : parts (joinSegments ps) = ps := by
  by_cases hne : ps = []
  · simp [hne]
  · rw [parts, segments_joinSegments hne fun part hpart ↦ (h part hpart).2.2]
    exact List.filter_eq_self.mpr fun part hpart ↦ by
      simp [(h part hpart).1, (h part hpart).2.1]

theorem parts_of_isPart (h : IsPart name) : parts name = [name] := by
  have hparts : parts (joinSegments [name]) = [name] := parts_joinSegments (by simpa using h)
  rwa [joinSegments_singleton] at hparts

/-! ### Slashes in front -/

/-- The first character of a text of parts is no slash. -/
theorem head_joinSegments (h : ∀ part ∈ ps, IsPart part) :
    ∀ c ∈ (joinSegments ps).toList.head?, c ≠ '/' := by
  have hpart : ∀ part, IsPart part → ∃ c rest, part.toList = c :: rest ∧ c ≠ '/' := by
    intro part hpart
    cases hlist : part.toList with
    | nil => exact absurd (String.toList_inj.mp (hlist.trans String.toList_empty.symm)) hpart.1
    | cons c rest =>
      have hslash := hpart.2.2
      rw [Slashless, hlist] at hslash
      exact ⟨c, rest, rfl, fun hc ↦ hslash (by simp [hc])⟩
  cases ps with
  | nil => simp
  | cons part others =>
    obtain ⟨c, rest, hlist, hc⟩ := hpart part (h part List.mem_cons_self)
    cases others with
    | nil => simp [hlist, hc]
    | cons next others =>
      rw [joinSegments_cons_cons]
      simp [hlist, hc]

/-- The slashes in front of a path are none, one or two. -/
theorem anchor_cases (path : String) :
    anchor path = "" ∨ anchor path = "/" ∨ anchor path = "//" := by
  unfold anchor
  split <;> simp

theorem anchor_anchor_append {text : String} (h : ∀ c ∈ text.toList.head?, c ≠ '/')
    (path : String) :
    anchor (anchor path ++ text) = anchor path := by
  have hslashes : ∀ slashes, slashes = "" ∨ slashes = "/" ∨ slashes = "//" →
      anchor (slashes ++ text) = slashes := by
    cases hlist : text.toList with
    | nil =>
      rintro slashes (rfl | rfl | rfl) <;> simp [anchor, hlist]
    | cons c rest =>
      have hc : c ≠ '/' := h c (by simp [hlist])
      rintro slashes (rfl | rfl | rfl) <;> simp [anchor, hlist, hc]
  exact hslashes _ (anchor_cases path)

/-- The slashes in front depend on the first three characters only. -/
theorem anchor_of_prefix {a b c : Char} {rest : List Char} (h : [a, b, c] <+: path.toList)
    (hroot : root.toList = a :: b :: c :: rest) : anchor path = anchor root := by
  obtain ⟨others, hpath⟩ := h
  rw [anchor, anchor, hroot, ← hpath]
  by_cases ha : a = '/' <;> by_cases hb : b = '/' <;> by_cases hc : c = '/' <;> simp [ha, hb, hc]

/-- Assumes: a folder that is not the empty path, and a text that begins with no slash. -/
theorem anchor_append {text : String} (hroot : root ≠ "") (hne : text ≠ "")
    (h : ∀ c ∈ text.toList.head?, c ≠ '/') :
    anchor (if finishesWith "/" root then root ++ text else root ++ "/" ++ text) = anchor root := by
  obtain ⟨t, ts, htext⟩ := List.exists_cons_of_ne_nil
    (fun hnil ↦ hne (String.toList_inj.mp (hnil.trans String.toList_empty.symm)))
  have ht : t ≠ '/' := h t (by simp [htext])
  have hslash : ∀ last, [last] <:+ root.toList →
      (finishesWith "/" root = true ↔ last = '/') := by
    rintro last ⟨front, hfront⟩
    rw [finishesWith_iff]
    constructor
    · rintro ⟨other, rfl⟩
      rw [String.toList_append] at hfront
      simpa using (List.append_inj' hfront rfl).2
    · rintro rfl
      exact ⟨String.ofList front, by simp [String.ext_iff, ← hfront]⟩
  match hcs : root.toList with
  | [] => exact absurd (String.toList_inj.mp (hcs.trans String.toList_empty.symm)) hroot
  | [a] =>
    rw [hcs] at hslash
    have ha := hslash a List.suffix_rfl
    split <;> simp_all [anchor]
  | [a, b] =>
    rw [hcs] at hslash
    have hb := hslash b (List.suffix_cons a [b])
    split <;> by_cases ha : a = '/' <;> simp_all [anchor]
  | a :: b :: c :: rest =>
    refine anchor_of_prefix ?_ hcs
    split <;> simp [hcs]

/-! ### Paths from parts -/

theorem ofParts_ne_empty (front : String) (ps : List String) : ofParts front ps ≠ "" := by
  unfold ofParts
  split
  · simp
  · assumption

theorem tidy_ne_empty (path : String) : tidy path ≠ "" := ofParts_ne_empty _ _

theorem parts_ofParts (h : ∀ part ∈ ps, IsPart part) (path : String) :
    parts (ofParts (anchor path) ps) = ps := by
  unfold ofParts
  split
  · next hempty =>
    have hjoin : joinSegments ps = "" := (String.append_eq_empty_iff.mp hempty).2
    have hps := parts_joinSegments h
    rw [hjoin, parts_empty] at hps
    rw [← hps]
    decide
  · rcases anchor_cases path with hp | hp | hp
    · rw [hp, String.empty_append, parts_joinSegments h]
    · rw [hp, parts_slash_append, parts_joinSegments h]
    · have hslashes : "//" ++ joinSegments ps = "/" ++ ("/" ++ joinSegments ps) := by
        simp [String.ext_iff]
      rw [hp, hslashes, parts_slash_append, parts_slash_append, parts_joinSegments h]

theorem anchor_ofParts (h : ∀ part ∈ ps, IsPart part) (path : String) :
    anchor (ofParts (anchor path) ps) = anchor path := by
  unfold ofParts
  split
  · next hempty => rw [(String.append_eq_empty_iff.mp hempty).1]; decide
  · exact anchor_anchor_append (head_joinSegments h) path

theorem tidy_tidy (path : String) : tidy (tidy path) = tidy path := by
  have hall : ∀ part ∈ parts path, IsPart part := fun part ↦ isPart_of_mem_parts
  rw [tidy_eq_ofParts path, tidy_eq_ofParts, anchor_ofParts hall, parts_ofParts hall]

/-- Assumes: a folder that is not the empty path, and a relative path that begins with no slash. -/
theorem below_eq_ofParts (hroot : root ≠ "") (h : ∀ c ∈ path.toList.head?, c ≠ '/') :
    below root path = ofParts (anchor root) (parts root ++ parts path) := by
  by_cases hempty : path = ""
  · rw [below, if_pos hempty, hempty, parts_empty, List.append_nil, tidy_eq_ofParts]
  · have hanchor := anchor_append hroot hempty h
    rw [below, if_neg hempty]
    split
    · next hslash =>
      obtain ⟨front, rfl⟩ := finishesWith_iff.mp hslash
      have hfront : parts (front ++ "/") = parts front := by
        simpa using parts_append_slash front ""
      rw [if_pos hslash] at hanchor
      rw [tidy_eq_ofParts, hanchor, parts_append_slash, hfront]
    · next hslash =>
      rw [if_neg hslash] at hanchor
      rw [tidy_eq_ofParts, hanchor, parts_append_slash]

/-- What is below a folder under a part has the parts of the folder and then that part. -/
theorem below_part (hroot : root ≠ "") (hname : IsPart name) :
    below root name = ofParts (anchor root) (parts root ++ [name]) := by
  have hhead : ∀ c ∈ (joinSegments [name]).toList.head?, c ≠ '/' :=
    head_joinSegments (by simpa using hname)
  rw [joinSegments_singleton] at hhead
  rw [below_eq_ofParts hroot hhead, parts_of_isPart hname]

theorem below_ofParts (hps : ∀ part ∈ ps, IsPart part) (hname : IsPart name) (path : String) :
    below (ofParts (anchor path) ps) name = ofParts (anchor path) (ps ++ [name]) := by
  rw [below_part (ofParts_ne_empty _ _) hname, anchor_ofParts hps, parts_ofParts hps]

theorem below_empty (hps : ∀ part ∈ ps, IsPart part) (path : String) :
    below (ofParts (anchor path) ps) "" = ofParts (anchor path) ps := by
  rw [below, if_pos rfl, tidy_eq_ofParts, anchor_ofParts hps, parts_ofParts hps]

theorem below_dot (hps : ∀ part ∈ ps, IsPart part) (path : String) :
    below (ofParts (anchor path) ps) "." = ofParts (anchor path) ps := by
  have hparts : parts "." = [] := by decide
  have hhead : ∀ c ∈ ".".toList.head?, c ≠ '/' := by simp
  rw [below_eq_ofParts (ofParts_ne_empty _ _) hhead, anchor_ofParts hps, parts_ofParts hps, hparts,
    List.append_nil]

/-! ### Endings -/

/-- The last part of a path keeps an ending without a slash, of two characters or more. Which part that
is does not depend on the ending. -/
theorem exists_parts_append (front : String) : ∃ others last, ∀ ending, Slashless ending →
    2 ≤ ending.length → parts (front ++ ending) = others ++ [last ++ ending] := by
  obtain ⟨pieces, last, hsegments, -⟩ := segments_append front slashless_empty
  refine ⟨pieces.filter fun segment ↦ segment != "" && segment != ".", last,
    fun ending hending hlength ↦ ?_⟩
  obtain ⟨samePieces, sameLast, hsame, happend⟩ := segments_append front hending
  obtain ⟨rfl, hlast⟩ := List.append_inj' (hsegments.symm.trans hsame) rfl
  rw [List.singleton_inj.mp hlast]
  have hshort : ∀ text : String, text.length ≤ 1 → sameLast ++ ending ≠ text := by
    intro text htext heq
    rw [← heq, String.length_append] at htext
    omega
  rw [parts, happend, List.filter_append, List.filter_cons_of_pos
    (by simp [hshort "" (by decide), hshort "." (by decide)]), List.filter_nil]

theorem joinSegments_concat (ps : List String) :
    ∃ front, ∀ name, joinSegments (ps ++ [name]) = front ++ name := by
  by_cases hnil : ps = []
  · exact ⟨"", fun name ↦ by rw [hnil, List.nil_append, joinSegments_singleton, String.empty_append]⟩
  · exact ⟨joinSegments ps ++ "/", fun name ↦ by
      rw [joinSegments_append hnil (by simp), joinSegments_singleton]⟩

/-- What is put behind a path gets to its last part. -/
theorem ofParts_append (hname : name ≠ "") (front ending : String) (ps : List String) :
    ofParts front (ps ++ [name]) ++ ending = ofParts front (ps ++ [name ++ ending]) := by
  obtain ⟨before, hjoin⟩ := joinSegments_concat ps
  rw [ofParts, ofParts, hjoin, hjoin, if_neg (by simp [hname]), if_neg (by simp [hname]),
    ← String.append_assoc, ← String.append_assoc, ← String.append_assoc]

/-- Assumes: an ending without a slash, of two characters or more. A path keeps it in its tidy form.
-/
theorem finishesWith_tidy (hending : Slashless ending) (hlength : 2 ≤ ending.length)
    (h : finishesWith ending path = true) : finishesWith ending (tidy path) = true := by
  obtain ⟨front, rfl⟩ := finishesWith_iff.mp h
  obtain ⟨others, last, hparts⟩ := exists_parts_append front
  obtain ⟨before, hjoin⟩ := joinSegments_concat others
  have hne : ending ≠ "" := by
    rintro rfl
    exact absurd hlength (by decide)
  rw [tidy, hparts ending hending hlength, hjoin, if_neg (by simp [hne]), ← String.append_assoc,
    ← String.append_assoc]
  exact finishesWith_append _ _

/-- Assumes: an ending without a slash, of two characters or more. The path below a folder keeps it.
-/
theorem finishesWith_below (hending : Slashless ending) (hlength : 2 ≤ ending.length)
    (h : finishesWith ending path = true) : finishesWith ending (below root path) = true := by
  obtain ⟨front, rfl⟩ := finishesWith_iff.mp h
  have hne : front ++ ending ≠ "" := by
    intro hempty
    obtain ⟨-, rfl⟩ := String.append_eq_empty_iff.mp hempty
    exact absurd hlength (by decide)
  rw [below, if_neg hne]
  split_ifs
  · rw [← String.append_assoc]
    exact finishesWith_tidy hending hlength (finishesWith_append _ _)
  · rw [← String.append_assoc]
    exact finishesWith_tidy hending hlength (finishesWith_append _ _)

/-! ### Short paths -/

theorem encode_append (first second : String) :
    Utf8.encode (first ++ second) = Utf8.encode first ++ Utf8.encode second := by
  simp [Utf8.encode]

theorem encode_injective : Function.Injective Utf8.encode := by
  intro first second h
  have hdata : first.toUTF8.data = second.toUTF8.data := Array.toList_inj.mp h
  exact String.toByteArray_inj.mp (ByteArray.ext hdata)

/-- There are only finitely many paths that a file system takes. -/
theorem finite_isShortPath : {path | isShortPath path = true}.Finite := by
  have hbytes : {bytes : List UInt8 | bytes.length ≤ maxPathBytes}.Finite :=
    List.finite_length_le UInt8 maxPathBytes
  refine (hbytes.preimage encode_injective.injOn).subset fun path hpath ↦ ?_
  simpa [isShortPath] using hpath

theorem isShortPath_of_append {first second : String} (h : isShortPath (first ++ second) = true) :
    isShortPath first = true := by
  rw [isShortPath, encode_append, List.length_append, decide_eq_true_eq] at h
  rw [isShortPath, decide_eq_true_eq]
  omega

/-! ### Paths from the current folder -/

theorem ofParts_empty_of_ne_nil (h : ∀ part ∈ ps, IsPart part) (hne : ps ≠ []) :
    ofParts "" ps = joinSegments ps := by
  rw [ofParts, String.empty_append, if_neg]
  intro hempty
  have hps := parts_joinSegments h
  rw [hempty, parts_empty] at hps
  exact hne hps.symm

theorem ofParts_empty_concat (h : ∀ part ∈ ps, IsPart part) (hname : IsPart name) (hne : ps ≠ []) :
    ofParts "" (ps ++ [name]) = ofParts "" ps ++ "/" ++ name := by
  have hall := isPart_of_mem_concat h hname
  rw [ofParts_empty_of_ne_nil h hne, ofParts_empty_of_ne_nil hall (by simp),
    joinSegments_append hne (by simp), joinSegments_singleton]

theorem not_beginsWith_ofParts_empty (h : ∀ part ∈ ps, IsPart part) :
    ¬ beginsWith "/" (ofParts "" ps) = true := by
  have hbegin : ∀ text : String, beginsWith "/" text = ['/'].isPrefixOf text.toList := fun _ ↦ rfl
  rw [hbegin, ofParts]
  split
  · decide
  · have hhead := head_joinSegments h
    rw [String.empty_append]
    cases hlist : (joinSegments ps).toList with
    | nil => simp
    | cons c rest =>
      rw [hlist] at hhead
      simpa using (hhead c rfl).symm

theorem segments_ofParts_empty (h : ∀ part ∈ ps, IsPart part) :
    segments (ofParts "" ps) = if ps = [] then ["."] else ps := by
  split
  · next hnil =>
    rw [hnil]
    decide
  · next hne =>
    rw [ofParts_empty_of_ne_nil h hne,
      segments_joinSegments hne fun part hpart ↦ (h part hpart).2.2]

end ContentTree.Storage.FilePath
