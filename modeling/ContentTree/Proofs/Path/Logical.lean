import ContentTree.Mapping.Backing
import ContentTree.Proofs.Name.Platform
import ContentTree.Proofs.Text.Segments
/-!
The names of a path are its segments without the empty ones, so slashes too many never change
them. A normalized path is the path of a list of proper names; joining appends a name, going up
removes the last one, and climbing from the path goes through the paths of all initial parts.
-/

set_option autoImplicit false
set_option relaxedAutoImplicit false

namespace ContentTree.Path

open ContentTree.Text ContentTree.Descriptor.Element

/-! ### Names of paths -/

/-- A name that a normalized path may hold. -/
def IsName (name : String) : Prop := name ≠ "" ∧ name ≠ "." ∧ name ≠ ".." ∧ Slashless name

instance (name : String) : Decidable (IsName name) :=
  inferInstanceAs (Decidable (name ≠ "" ∧ name ≠ "." ∧ name ≠ ".." ∧ Slashless name))

section Names

variable {path name : String} {names : List String}

theorem mem_namesIn (h : name ∈ namesIn path) : name ≠ "" ∧ Slashless name := by
  obtain ⟨hmem, hne⟩ := List.mem_filter.mp h
  exact ⟨by simpa using hne, slashless_of_mem_segments hmem⟩

@[simp] theorem namesIn_append_slash (front back : String) :
    namesIn (front ++ "/" ++ back) = namesIn front ++ namesIn back := by
  rw [namesIn, segments_append_slash, List.filter_append]
  rfl

@[simp] theorem namesIn_slash_append (back : String) : namesIn ("/" ++ back) = namesIn back := by
  rw [namesIn, segments_slash_append, List.filter_cons_of_neg (by simp)]
  rfl

@[simp] theorem namesIn_empty : namesIn "" = [] := by
  simp [namesIn, segments_of_slashless slashless_empty]

@[simp] theorem namesIn_slash : namesIn "/" = [] := namesIn_slash_append ""

theorem namesIn_of_slashless (h : Slashless name) (hne : name ≠ "") : namesIn name = [name] := by
  simp [namesIn, segments_of_slashless h, hne]

theorem namesIn_of_isName (h : IsName name) : namesIn name = [name] :=
  namesIn_of_slashless h.2.2.2 h.1

@[simp] theorem namesIn_join (parent name : String) :
    namesIn (join parent name) = namesIn parent ++ namesIn name := by
  unfold join
  split
  · next h => rw [h, namesIn_slash_append, namesIn_slash, List.nil_append]
  · exact namesIn_append_slash parent name

@[simp] theorem namesIn_trimStart (path : String) :
    namesIn (trimStart (· == '/') path) = namesIn path := by
  have hlist : ∀ cs : List Char,
      namesIn (String.ofList (cs.dropWhile (· == '/'))) = namesIn (String.ofList cs) := by
    intro cs
    induction cs with
    | nil => rfl
    | cons c rest ih =>
      by_cases hc : c = '/'
      · have hslash : String.ofList (c :: rest) = "/" ++ String.ofList rest := by
          simp [hc]
        rw [List.dropWhile_cons_of_pos (by simpa using hc), ih, hslash, namesIn_slash_append]
      · rw [List.dropWhile_cons_of_neg (by simpa using hc)]
  rw [trimStart, hlist, String.ofList_toList]

@[simp] theorem namesIn_trimEnd (path : String) :
    namesIn (trimEnd (· == '/') path) = namesIn path := by
  have hlist : ∀ cs : List Char,
      namesIn (String.ofList (cs.dropWhile (· == '/')).reverse) =
        namesIn (String.ofList cs.reverse) := by
    intro cs
    induction cs with
    | nil => rfl
    | cons c rest ih =>
      by_cases hc : c = '/'
      · have hslash : String.ofList (c :: rest).reverse =
            String.ofList rest.reverse ++ "/" ++ "" := by
          simp [hc]
        rw [List.dropWhile_cons_of_pos (by simpa using hc), ih, hslash, namesIn_append_slash,
          namesIn_empty, List.append_nil]
      · rw [List.dropWhile_cons_of_neg (by simpa using hc)]
  rw [trimEnd, hlist, List.reverse_reverse, String.ofList_toList]

theorem head_trimStart (path : String) :
    ∀ c ∈ (trimStart (· == '/') path).toList.head?, c ≠ '/' := by
  intro c hc
  rw [trimStart, String.toList_ofList] at hc
  have hhead := List.head?_dropWhile_not (· == '/') path.toList
  rw [Option.mem_def.mp hc] at hhead
  simpa using hhead

/-- A text that does not begin with a slash has a name, unless it is empty. -/
theorem namesIn_ne_nil (hne : path ≠ "") (h : ∀ c ∈ path.toList.head?, c ≠ '/') :
    namesIn path ≠ [] := by
  obtain ⟨c, rest, hpath⟩ := List.exists_cons_of_ne_nil
    (fun hnil ↦ hne (String.toList_inj.mp (hnil.trans String.toList_empty.symm)))
  have hc : (c == '/') = false := beq_eq_false_iff_ne.mpr (h c (by rw [hpath]; rfl))
  obtain ⟨first, others, hsplit⟩ := List.exists_cons_of_ne_nil (List.splitOn_ne_nil '/' rest)
  have hsegments : segments path = String.ofList (c :: first) :: others.map String.ofList := by
    rw [segments, hpath, List.splitOn_cons_eq_if_modifyHead, hc, hsplit]
    rfl
  rw [namesIn, hsegments, List.filter_cons_of_pos (by simp)]
  exact List.cons_ne_nil _ _

/-- Nothing but slashes is in a path exactly when it has no names. -/
theorem trimStart_eq_empty_iff : trimStart (· == '/') path = "" ↔ namesIn path = [] := by
  rw [← namesIn_trimStart]
  refine ⟨fun hempty ↦ by rw [hempty, namesIn_empty], fun hnil ↦ ?_⟩
  by_contra hne
  exact namesIn_ne_nil hne (head_trimStart path) hnil

/-- The names of the path on disk are the names on disk of the path's names. -/
theorem namesIn_toPlatformPath (path : String) :
    namesIn (Name.toPlatformPath path) = (namesIn path).map Name.toPlatform := by
  rw [namesIn, Name.segments_toPlatformPath, namesIn, List.filter_map]
  congr 1
  refine List.filter_congr fun name _ ↦ ?_
  simp

theorem isContained_iff : isContained path = true ↔ ∀ name ∈ namesIn path, IsName name := by
  rw [isContained, List.all_eq_true]
  constructor
  · intro h name hname
    have hdots := h name (List.mem_filter.mp hname).1
    simp only [Bool.and_eq_true, bne_iff_ne, ne_eq] at hdots
    exact ⟨(mem_namesIn hname).1, hdots.1, hdots.2, (mem_namesIn hname).2⟩
  · intro h segment hsegment
    by_cases hempty : segment = ""
    · simp [hempty]
    · have hname : segment ∈ namesIn path := List.mem_filter.mpr ⟨hsegment, by simpa using hempty⟩
      simp [(h segment hname).2.1, (h segment hname).2.2.1]

/-- Assumes: an ending of three characters or more. With it a text is no dot or two. -/
theorem isName_append {ending : String} (hname : Slashless name) (hending : Slashless ending)
    (hlength : 3 ≤ ending.length) : IsName (name ++ ending) := by
  have hlong : ∀ other : String, other.length < 3 → name ++ ending ≠ other := by
    intro other hshort heq
    rw [← heq, String.length_append] at hshort
    omega
  exact ⟨hlong "" (by decide), hlong "." (by decide), hlong ".." (by decide),
    slashless_append.mpr ⟨hname, hending⟩⟩

theorem isContained_join (parent name : String) :
    isContained (join parent name) = (isContained parent && isContained name) := by
  rw [Bool.eq_iff_iff, Bool.and_eq_true, isContained_iff, isContained_iff, isContained_iff,
    namesIn_join]
  simp only [List.mem_append, or_imp, forall_and]

theorem isContained_parent {above : String} (h : isContained path = true)
    (hparent : parent? path = some above) : isContained above = true := by
  unfold parent? at hparent
  split_ifs at hparent
  rw [← Option.some.inj hparent]
  split_ifs
  · decide
  · rw [isContained, List.all_eq_true] at h ⊢
    exact fun segment hsegment ↦ h segment (segments_beforeLastSlash path hsegment)

end Names

/-! ### Absolute paths -/

/-- A path that begins at the root. -/
def IsAbsolute (path : String) : Prop := ∃ rest, path = "/" ++ rest

section Absolute

variable {path above parent name : String}

theorem isAbsolute_slash : IsAbsolute "/" := ⟨"", rfl⟩

theorem isAbsolute_join (h : IsAbsolute parent) (name : String) :
    IsAbsolute (join parent name) := by
  unfold join
  split
  · exact ⟨name, rfl⟩
  · obtain ⟨rest, rfl⟩ := h
    exact ⟨rest ++ "/" ++ name, by simp [String.append_assoc]⟩

/-- An absolute path is cut at its last slash. -/
theorem IsAbsolute.split (h : IsAbsolute path) :
    ∃ front name, path = front ++ "/" ++ name ∧ Slashless name ∧
      (front = "" ∨ IsAbsolute front) := by
  obtain ⟨rest, rfl⟩ := h
  obtain ⟨init, last, hlast⟩ := List.eq_nil_or_concat (segments rest) |>.resolve_left
    (segments_ne_nil rest)
  have hmem : last ∈ segments rest := by simp [hlast]
  have hslashless : Slashless last := slashless_of_mem_segments hmem
  refine ⟨joinSegments ("" :: init), last, ?_, hslashless, ?_⟩
  · rw [← joinSegments_segments ("/" ++ rest), segments_slash_append, hlast, List.concat_eq_append,
      ← List.cons_append,
      joinSegments_append (by simp) (by simp), joinSegments_singleton]
  · cases init with
    | nil => exact .inl (joinSegments_singleton "")
    | cons first others =>
      rw [joinSegments_cons_cons]
      exact .inr ⟨joinSegments (first :: others), by simp⟩

/-- Assumes: an absolute path with names. It has slashes too many at its end, or ends in its last
name. -/
theorem IsAbsolute.split_last {names : List String} (h : IsAbsolute path)
    (hnames : namesIn path = names ++ [name]) :
    finishesWith "/" path = true ∨
      ∃ front, path = front ++ "/" ++ name ∧ namesIn front = names := by
  obtain ⟨front, last, rfl, hlast, -⟩ := h.split
  by_cases hempty : last = ""
  · rw [hempty, String.append_empty]
    exact .inl (finishesWith_append front "/")
  · rw [namesIn_append_slash, namesIn_of_slashless hlast hempty] at hnames
    obtain ⟨hfront, hname⟩ := List.append_inj' hnames rfl
    rw [List.singleton_inj] at hname
    exact .inr ⟨front, by rw [hname], hfront⟩

/-- Assumes: a last name. The path one level up is what is before the last slash, or the root. -/
theorem parent_append_slash (front : String) (hname : Slashless name)
    (hroot : ¬ (front = "" ∧ name = "")) :
    parent? (front ++ "/" ++ name) = some (if front = "" then "/" else front) := by
  rw [parent?, beforeLastSlash_append_slash front hname, if_neg]
  rintro (h | h)
  · have hlength := congrArg (fun text ↦ text.toList.length) h
    simp only [String.toList_append, List.length_append] at hlength
    have hfront : front.toList = [] := List.length_eq_zero_iff.mp (by simp at hlength; omega)
    have hname : name.toList = [] := List.length_eq_zero_iff.mp (by simp at hlength; omega)
    exact hroot ⟨String.toList_eq_nil_iff.mp hfront, String.toList_eq_nil_iff.mp hname⟩
  · have hlists := congrArg String.toList h
    simp at hlists

/-- Going up takes the last name off. -/
theorem namesIn_parent (h : IsAbsolute path) (hparent : parent? path = some above) :
    IsAbsolute above ∧ namesIn path = namesIn above ++ namesIn (lastSegment path) := by
  obtain ⟨front, name, rfl, hname, hfront⟩ := h.split
  have hroot : ¬ (front = "" ∧ name = "") := by
    rintro ⟨rfl, rfl⟩
    have hnone : parent? ("" ++ "/" ++ "") = none := by decide
    exact absurd (hparent.symm.trans hnone) (by simp)
  rw [parent_append_slash front hname hroot, Option.some.injEq] at hparent
  rw [lastSegment_append_slash front hname, namesIn_append_slash, ← hparent]
  split
  · next hempty =>
    rw [hempty, namesIn_empty, namesIn_slash]
    exact ⟨isAbsolute_slash, rfl⟩
  · next hempty => exact ⟨hfront.resolve_left hempty, rfl⟩

theorem join_eq_append_slash (h : IsAbsolute parent) (name : String) :
    ∃ front, join parent name = front ++ "/" ++ name ∧
      (if front = "" then "/" else front) = parent := by
  by_cases hroot : parent = "/"
  · exact ⟨"", by simp [join, hroot], by simp [hroot]⟩
  · have hne : parent ≠ "" := by
      obtain ⟨rest, rfl⟩ := h
      simp
    exact ⟨parent, by simp [join, hroot], by simp [hne]⟩

/-- A joined path ends in the name, and up to it has the names of the parent. -/
theorem exists_front_join (h : IsAbsolute parent) (name : String) :
    ∃ front, join parent name = front ++ "/" ++ name ∧ namesIn front = namesIn parent := by
  obtain ⟨front, hjoin, hfront⟩ := join_eq_append_slash h name
  refine ⟨front, hjoin, ?_⟩
  rw [← hfront]
  split
  · next hempty => rw [hempty, namesIn_empty, namesIn_slash]
  · rfl

theorem lastSegment_join (h : IsAbsolute parent) (hname : Slashless name) :
    lastSegment (join parent name) = name := by
  obtain ⟨front, hjoin, -⟩ := join_eq_append_slash h name
  rw [hjoin, lastSegment_append_slash front hname]

/-- Assumes: a name that is not empty and has no slash. -/
theorem parent_join (h : IsAbsolute parent) (hname : Slashless name) (hne : name ≠ "") :
    parent? (join parent name) = some parent := by
  obtain ⟨front, hjoin, hfront⟩ := join_eq_append_slash h name
  rw [hjoin, parent_append_slash front hname (fun hboth ↦ hne hboth.2), hfront]

theorem join_append (parent name ending : String) :
    join parent (name ++ ending) = join parent name ++ ending := by
  unfold join
  split <;> simp [String.append_assoc]

theorem join_injective (parent : String) : Function.Injective (join parent) := by
  intro first second h
  unfold join at h
  split at h
  · exact (String.append_right_inj "/").mp h
  · exact (String.append_right_inj (parent ++ "/")).mp h

end Absolute

/-! ### Normalized paths -/

section Normal

variable {path name : String} {names : List String}

@[simp] theorem ofNames_nil : ofNames [] = "/" := by simp [ofNames]

theorem segments_ofNames (h : ∀ name ∈ names, IsName name) (hne : names ≠ []) :
    segments (ofNames names) = "" :: names := by
  rw [ofNames, segments_slash_append,
    segments_joinSegments hne fun name hname ↦ (h name hname).2.2.2]

theorem namesIn_ofNames (h : ∀ name ∈ names, IsName name) : namesIn (ofNames names) = names := by
  by_cases hne : names = []
  · simp [hne]
  · rw [namesIn, segments_ofNames h hne, List.filter_cons_of_neg (by simp)]
    exact List.filter_eq_self.mpr fun name hname ↦ by simpa using (h name hname).1

theorem ofNames_injective {first second : List String} (hfirst : ∀ name ∈ first, IsName name)
    (hsecond : ∀ name ∈ second, IsName name) (h : ofNames first = ofNames second) :
    first = second := by
  rw [← namesIn_ofNames hfirst, h, namesIn_ofNames hsecond]

theorem join_ofNames (h : ∀ name ∈ names, IsName name) (name : String) :
    join (ofNames names) name = ofNames (names ++ [name]) := by
  by_cases hne : names = []
  · subst hne
    simp [join, ofNames]
  · have hroot : ofNames names ≠ "/" := by
      intro heq
      exact hne (ofNames_injective h (by simp) (heq.trans ofNames_nil.symm))
    rw [join, if_neg hroot, ofNames, ofNames, joinSegments_append hne (by simp),
      joinSegments_singleton]
    simp [String.append_assoc]

theorem reduce_skip {stack rest : List String} {segment : String}
    (h : segment = "" ∨ segment = ".") :
    reduce? stack (segment :: rest) = reduce? stack rest := by
  rw [reduce?.eq_def]
  exact if_pos h

theorem reduce_up_nil {rest : List String} : reduce? [] (".." :: rest) = none := by
  simp [reduce?]

theorem reduce_up {top : String} {below rest : List String} :
    reduce? (top :: below) (".." :: rest) = reduce? below rest := by
  simp [reduce?]

theorem reduce_down {stack rest : List String} {segment : String}
    (h : segment ≠ "" ∧ segment ≠ ".") (hup : segment ≠ "..") :
    reduce? stack (segment :: rest) = reduce? (segment :: stack) rest := by
  have hkeep : ¬ (segment = "" ∨ segment = ".") := not_or.mpr h
  rw [reduce?.eq_def]
  simp only [if_neg hkeep, if_neg hup]

theorem isName_of_reduce {stack out segments : List String}
    (hsegments : ∀ segment ∈ segments, Slashless segment) (hstack : ∀ name ∈ stack, IsName name)
    (h : reduce? stack segments = some out) : ∀ name ∈ out, IsName name := by
  induction segments generalizing stack with
  | nil =>
    simp only [reduce?, Option.some.injEq] at h
    exact h ▸ hstack
  | cons segment rest ih =>
    obtain ⟨hsegment, hrest⟩ := List.forall_mem_cons.mp hsegments
    by_cases hskip : segment = "" ∨ segment = "."
    · rw [reduce_skip hskip] at h
      exact ih hrest hstack h
    · have hkeep : segment ≠ "" ∧ segment ≠ "." := not_or.mp hskip
      by_cases hup : segment = ".."
      · subst hup
        cases stack with
        | nil =>
          rw [reduce_up_nil] at h
          cases h
        | cons top below =>
          rw [reduce_up] at h
          exact ih hrest (List.forall_mem_cons.mp hstack).2 h
      · rw [reduce_down hkeep hup] at h
        exact ih hrest (List.forall_mem_cons.mpr ⟨⟨hkeep.1, hkeep.2, hup, hsegment⟩, hstack⟩) h

private theorem reduce_of_isName {stack : List String} (h : ∀ name ∈ names, IsName name) :
    reduce? stack names = some (names.reverse ++ stack) := by
  induction names generalizing stack with
  | nil => rfl
  | cons name rest ih =>
    obtain ⟨hname, hrest⟩ := List.forall_mem_cons.mp h
    rw [reduce_down ⟨hname.1, hname.2.1⟩ hname.2.2.1, ih hrest]
    simp

theorem normalize_ofNames (h : ∀ name ∈ names, IsName name) :
    normalize (ofNames names) = .ok (ofNames names) := by
  have hbegin : beginsWith "/" (ofNames names) = true := by
    simp [beginsWith, ofNames]
  have hreduce : reduce? [] (segments (ofNames names)) = some names.reverse := by
    by_cases hne : names = []
    · subst hne
      rw [ofNames_nil]
      decide
    · rw [segments_ofNames h hne, reduce_skip (.inl rfl), reduce_of_isName h, List.append_nil]
  rw [normalize, if_pos hbegin, hreduce]
  simp

/-- Normalizing gives the path of a list of proper names. -/
theorem exists_names_of_normalize {normal : String} (h : normalize path = .ok normal) :
    ∃ names, (∀ name ∈ names, IsName name) ∧ normal = ofNames names := by
  unfold normalize at h
  split at h
  · split at h
    · next stack hreduce =>
      have hstack := isName_of_reduce (fun segment ↦ slashless_of_mem_segments) (by simp) hreduce
      refine ⟨stack.reverse, fun name hname ↦ hstack name (List.mem_reverse.mp hname), ?_⟩
      exact (Except.ok.inj h).symm
    · exact absurd h (by simp)
  · exact absurd h (by simp)

/-- Normalizing twice is normalizing once. -/
theorem normalize_normalize {normal : String} (h : normalize path = .ok normal) :
    normalize normal = .ok normal := by
  obtain ⟨names, hnames, rfl⟩ := exists_names_of_normalize h
  exact normalize_ofNames hnames

/-- The normalized paths are the paths of lists of proper names. -/
theorem normalize_eq_self_iff :
    normalize path = .ok path ↔ ∃ names, (∀ name ∈ names, IsName name) ∧ path = ofNames names := by
  refine ⟨exists_names_of_normalize, ?_⟩
  rintro ⟨names, hnames, rfl⟩
  exact normalize_ofNames hnames

theorem isContained_ofNames (h : ∀ name ∈ names, IsName name) :
    isContained (ofNames names) = true := by
  rw [isContained_iff, namesIn_ofNames h]
  exact h

theorem isAbsolute_ofNames (names : List String) : IsAbsolute (ofNames names) := ⟨_, rfl⟩

theorem parent_ofNames_concat {front : List String} {name : String}
    (h : ∀ other ∈ front ++ [name], IsName other) :
    parent? (ofNames (front ++ [name])) = some (ofNames front) := by
  obtain ⟨hfront, hname⟩ := List.forall_mem_append.mp h
  have hname : IsName name := List.forall_mem_singleton.mp hname
  rw [← join_ofNames hfront, parent_join (isAbsolute_ofNames front) hname.2.2.2 hname.1]

theorem lastSegment_ofNames_concat {front : List String} {name : String}
    (h : ∀ other ∈ front ++ [name], IsName other) :
    lastSegment (ofNames (front ++ [name])) = name := by
  obtain ⟨hfront, hname⟩ := List.forall_mem_append.mp h
  rw [← join_ofNames hfront,
    lastSegment_join (isAbsolute_ofNames front) (List.forall_mem_singleton.mp hname).2.2.2]

/-- Going up from a normalized path removes its last name. -/
theorem ofNames_of_parent {above : String} (h : ∀ name ∈ names, IsName name)
    (hparent : parent? (ofNames names) = some above) :
    ∃ front name, names = front ++ [name] ∧ above = ofNames front ∧
      lastSegment (ofNames names) = name := by
  rcases List.eq_nil_or_concat' names with rfl | ⟨front, name, rfl⟩
  · exact absurd hparent (by simp [parent?])
  · rw [parent_ofNames_concat h, Option.some.injEq] at hparent
    exact ⟨front, name, rfl, hparent.symm, lastSegment_ofNames_concat h⟩

theorem isAbsolute_of_normalize (h : normalize path = .ok path) : IsAbsolute path := by
  obtain ⟨names, -, rfl⟩ := normalize_eq_self_iff.mp h
  exact isAbsolute_ofNames names

theorem isContained_of_normalize (h : normalize path = .ok path) : isContained path = true := by
  obtain ⟨names, hnames, rfl⟩ := normalize_eq_self_iff.mp h
  exact isContained_ofNames hnames

/-- The path one level up from a normalized path is normalized, and leads back by a proper name. -/
theorem normalize_parent {parent : String} (h : normalize path = .ok path)
    (hparent : parent? path = some parent) :
    normalize parent = .ok parent ∧ IsName (lastSegment path) ∧
      path = join parent (lastSegment path) := by
  obtain ⟨names, hnames, rfl⟩ := normalize_eq_self_iff.mp h
  obtain ⟨front, name, rfl, rfl, hlast⟩ := ofNames_of_parent hnames hparent
  have hfront : ∀ other ∈ front, IsName other := fun other hother ↦ hnames other (by simp [hother])
  rw [hlast, join_ofNames hfront]
  exact ⟨normalize_ofNames hfront, hnames name (by simp), rfl⟩

/-- Joining a proper name to a normalized path gives a normalized path. -/
theorem normalize_join {parent : String} (h : normalize parent = .ok parent) (hname : IsName name) :
    normalize (join parent name) = .ok (join parent name) := by
  obtain ⟨names, hnames, rfl⟩ := normalize_eq_self_iff.mp h
  rw [join_ofNames hnames]
  exact normalize_ofNames
    (List.forall_mem_append.mpr ⟨hnames, List.forall_mem_singleton.mpr hname⟩)

end Normal

end ContentTree.Path
