import ContentTree.Proofs.Name.Platform
/-!
Names and paths on disk as a code. The code is read back name by name, so different names and
different paths never share one; and what it writes holds no character that some file systems
refuse, and no percent sign but at the start of an escape.
-/

set_option autoImplicit false
set_option relaxedAutoImplicit false

namespace ContentTree.Name

open ContentTree.Text

/-- The characters that some file systems refuse in names. -/
def refusedChars : List Char := ['\\', '/', ':', '*', '?', '"', '<', '>', '|']

/-- Whether each percent sign in a text starts an escape: the two digits after it are those that
stand for a character. -/
def PercentsEscape (text : List Char) : Prop :=
  ∀ rest, '%' :: rest <:+ text →
    ∃ c high low, escapeCode? c = some (high, low) ∧ [high, low] <+: rest

/-! ### Characters of names on disk -/

section Characters

variable {mark : Char} {front back : List Char}

theorem PercentsEscape.append (hfront : PercentsEscape front) (hback : PercentsEscape back) :
    PercentsEscape (front ++ back) := by
  rintro rest ⟨before, heq⟩
  rcases List.append_eq_append_iff.mp heq with ⟨middle, hmiddle, hrest⟩ | ⟨middle, -, hmiddle⟩
  · cases middle with
    | nil => exact hback rest ⟨[], hrest⟩
    | cons first others =>
      -- The sign stands in the front part, and so does its escape.
      obtain ⟨rfl, rfl⟩ := List.cons.inj hrest
      obtain ⟨c, high, low, hcode, hdigits⟩ := hfront others ⟨before, hmiddle.symm⟩
      exact ⟨c, high, low, hcode, hdigits.trans (List.prefix_append others back)⟩
  · exact hback rest ⟨middle, hmiddle.symm⟩

theorem percentsEscape_of_notMem {text : List Char} (h : '%' ∉ text) : PercentsEscape text :=
  fun _ hrest ↦ absurd (hrest.subset List.mem_cons_self) h

theorem percentsEscape_escapeChar (c : Char) : PercentsEscape (escapeChar c) := by
  cases hcode : escapeCode? c with
  | none =>
    have hc : '%' ≠ c := by
      rintro rfl
      exact absurd hcode (by decide)
    rw [escapeChar_of_code_none hcode]
    exact percentsEscape_of_notMem (by simpa using hc)
  | some digits =>
    obtain ⟨high, low⟩ := digits
    have hdigits : '%' ∉ [high, low] := by
      unfold escapeCode? at hcode
      split at hcode <;> simp only [Option.some.injEq, Prod.mk.injEq, reduceCtorEq] at hcode <;>
        (obtain ⟨rfl, rfl⟩ := hcode; decide)
    intro rest hrest
    rw [(escapeChar_of_code hcode).1] at hrest
    rcases List.suffix_cons_iff.mp hrest with heq | hrest
    · exact ⟨c, high, low, hcode, (List.cons.inj heq).2 ▸ List.prefix_rfl⟩
    · exact absurd (hrest.subset List.mem_cons_self) hdigits

theorem percentsEscape_escape (name : List Char) : PercentsEscape (escape name) := by
  induction name with
  | nil => exact percentsEscape_of_notMem (by simp [escape])
  | cons c rest ih => exact (percentsEscape_escapeChar c).append ih

theorem percentsEscape_encode (name : List Char) : PercentsEscape (encode name) := by
  have hmark : ∀ {text}, PercentsEscape text → PercentsEscape ('_' :: text) := fun htext ↦
    (percentsEscape_of_notMem (by decide : '%' ∉ ['_'])).append htext
  rcases encode_cases name with ⟨space, base, heq⟩ | heq | heq
  · rw [heq]
    exact (hmark (percentsEscape_escape space)).append (hmark (percentsEscape_escape base))
  · rw [heq]
    exact hmark (percentsEscape_escape name)
  · rw [heq]
    exact percentsEscape_escape name

theorem refused_notMem_escape (hrefused : mark ∈ refusedChars) (name : List Char) :
    mark ∉ escape name := by
  intro hmem
  have hdigit : ∀ mark ∈ refusedChars, mark ∉ ['%', '2', '3', '5', '7', 'a', 'c', 'e', 'f'] := by
    simp [refusedChars]
  have hcoded : ∀ mark ∈ refusedChars, escapeCode? mark ≠ none := by
    simp [refusedChars, escapeCode?]
  exact hcoded mark hrefused (mem_escape (hdigit mark hrefused) hmem).2

theorem refused_notMem_encode (hrefused : mark ∈ refusedChars) (name : List Char) :
    mark ∉ encode name := by
  have hmark : mark ≠ '_' := by
    rintro rfl
    exact absurd hrefused (by decide)
  have hescape := refused_notMem_escape hrefused
  rcases encode_cases name with ⟨space, base, heq⟩ | heq | heq <;> rw [heq] <;>
    simp [hmark, hescape]

end Characters

/-! ### Names and paths -/

@[simp] theorem ofPlatformPath_toPlatformPath (path : String) :
    ofPlatformPath (toPlatformPath path) = path := by
  have hround : ofPlatform ∘ toPlatform = id := funext ofPlatform_toPlatform
  rw [ofPlatformPath, segments_toPlatformPath, List.map_map, hround, List.map_id,
    joinSegments_segments]

/-- Names on disk and paths on disk are codes: each is read back, a path with as many segments, so
different ones never share a code. A name on disk holds no refused character and no percent sign
but that of an escape, and is a dot segment only if the name is. -/
theorem platform_codec :
    (∀ name, ofPlatform (toPlatform name) = name) ∧
    (∀ path, ofPlatformPath (toPlatformPath path) = path ∧
      (segments (toPlatformPath path)).length = (segments path).length) ∧
    Function.Injective toPlatform ∧ Function.Injective toPlatformPath ∧
    ∀ name, (∀ c ∈ refusedChars, c ∉ (toPlatform name).toList) ∧
      PercentsEscape (toPlatform name).toList ∧
        (toPlatform name = "." → name = ".") ∧ (toPlatform name = ".." → name = "..") := by
  refine ⟨ofPlatform_toPlatform, fun path ↦ ⟨ofPlatformPath_toPlatformPath path, ?_⟩,
    fun _ _ ↦ toPlatform_injective, Function.LeftInverse.injective ofPlatformPath_toPlatformPath,
    fun name ↦ ⟨fun c hc ↦ ?_, ?_, (toPlatform_eq_ending (by decide)).mp,
      (toPlatform_eq_ending (by decide)).mp⟩⟩
  · rw [segments_toPlatformPath, List.length_map]
  · rw [toPlatform, String.toList_ofList]
    exact refused_notMem_encode hc name.toList
  · rw [toPlatform, String.toList_ofList]
    exact percentsEscape_encode name.toList

/-- A namespace, an underscore that would read as one, and refused characters. -/
example : toPlatformPath "/jcr:content/_a_b/50%:*" = "/_jcr_content/__a_b/50%25%3a%2a" := by decide

end ContentTree.Name
