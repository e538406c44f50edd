import Mathlib.Data.List.Forall2
/-!
Results that may be errors. A list of results has values when each result has one, in the order of
the list, and it is an error when one of them is.
-/

set_option autoImplicit false
set_option relaxedAutoImplicit false

namespace ContentTree

variable {α β ε ε' : Type}

/-! ### One result after another -/

theorem isOk_iff {result : Except ε α} : result.isOk = true ↔ ∃ value, result = .ok value := by
  cases result <;> simp [Except.isOk, Except.toBool]

theorem isOk_map (result : Except ε α) (f : α → β) : (result.map f).isOk = result.isOk := by
  cases result <;> rfl

theorem isOk_mapError (result : Except ε α) (f : ε → ε') :
    (result.mapError f).isOk = result.isOk := by
  cases result <;> rfl

theorem toOption_eq_some {result : Except ε α} {value : α} :
    result.toOption = some value ↔ result = .ok value := by
  cases result <;> simp [Except.toOption]

/-- What is done after a step succeeds only if the step does. -/
theorem bind_eq_ok {first : Except ε α} {second : α → Except ε β} {result : β} :
    (first >>= second) = .ok result ↔ ∃ value, first = .ok value ∧ second value = .ok result := by
  cases first with
  | error error => simp [bind, Except.bind]
  | ok value => simp [bind, Except.bind]

theorem isOk_bind {first : Except ε α} {second : α → Except ε β} :
    (first >>= second).isOk = true ↔ ∃ value, first = .ok value ∧ (second value).isOk = true := by
  cases first with
  | error error => simp [bind, Except.bind, Except.isOk, Except.toBool]
  | ok value => simp [bind, Except.bind]

/-! ### Lists of results -/

variable {f : α → Except ε β} {inputs : List α}

theorem mapM_eq_ok_iff {values : List β} : inputs.mapM f = .ok values ↔
    List.Forall₂ (fun input value ↦ f input = .ok value) inputs values := by
  induction inputs generalizing values with
  | nil => simp [pure, Except.pure, eq_comm]
  | cons input rest ih =>
    rw [List.mapM_cons, bind_eq_ok, List.forall₂_cons_left_iff]
    refine exists_congr fun value ↦ ?_
    constructor
    · rintro ⟨hvalue, hrest⟩
      obtain ⟨others, hothers, hvalues⟩ := bind_eq_ok.mp hrest
      exact ⟨others, hvalue, ih.mp hothers, (Except.ok.inj hvalues).symm⟩
    · rintro ⟨others, hvalue, hothers, rfl⟩
      exact ⟨hvalue, bind_eq_ok.mpr ⟨others, ih.mpr hothers, rfl⟩⟩

/-- A list of results has values that are all good if each result has a good value. -/
theorem exists_mapM_iff {good : β → Prop} :
    (∃ values, inputs.mapM f = .ok values ∧ ∀ value ∈ values, good value) ↔
      ∀ input ∈ inputs, ∃ value, f input = .ok value ∧ good value := by
  simp only [mapM_eq_ok_iff]
  induction inputs with
  | nil => simp
  | cons input rest ih =>
    rw [List.forall_mem_cons, ← ih]
    constructor
    · rintro ⟨values, hvalues, hgood⟩
      obtain ⟨value, others, hvalue, hothers, rfl⟩ := List.forall₂_cons_left_iff.mp hvalues
      obtain ⟨hfirst, hrest⟩ := List.forall_mem_cons.mp hgood
      exact ⟨⟨value, hvalue, hfirst⟩, others, hothers, hrest⟩
    · rintro ⟨⟨value, hvalue, hfirst⟩, others, hothers, hrest⟩
      exact ⟨value :: others, .cons hvalue hothers, List.forall_mem_cons.mpr ⟨hfirst, hrest⟩⟩

theorem isOk_mapM : (inputs.mapM f).isOk = true ↔ ∀ input ∈ inputs, (f input).isOk = true := by
  have hall : (∃ values, inputs.mapM f = .ok values ∧ ∀ value ∈ values, True) ↔
      ∀ input ∈ inputs, ∃ value, f input = .ok value ∧ True := exists_mapM_iff
  simpa [isOk_iff] using hall

/-- The error of a list of results is that of one of them. -/
theorem exists_of_mapM_eq_error {error : ε} (h : inputs.mapM f = .error error) :
    ∃ input ∈ inputs, f input = .error error := by
  induction inputs with
  | nil => cases h
  | cons input rest ih =>
    cases hinput : f input with
    | error first =>
      rw [List.mapM_cons, hinput] at h
      exact ⟨input, List.mem_cons_self, hinput.trans (congrArg _ (Except.error.inj h))⟩
    | ok value =>
      rw [List.mapM_cons, hinput] at h
      cases hrest : rest.mapM f with
      | error later =>
        rw [hrest] at h
        obtain ⟨other, hother, hsame⟩ := ih (hrest.trans (congrArg _ (Except.error.inj h)))
        exact ⟨other, List.mem_cons_of_mem input hother, hsame⟩
      | ok others =>
        rw [hrest] at h
        cases h

theorem exists_error_mapM_iff :
    (∃ error, inputs.mapM f = .error error) ↔ ∃ input ∈ inputs, ∃ error, f input = .error error := by
  constructor
  · rintro ⟨error, herror⟩
    obtain ⟨input, hinput, hsame⟩ := exists_of_mapM_eq_error herror
    exact ⟨input, hinput, error, hsame⟩
  · rintro ⟨input, hinput, error, herror⟩
    cases hmap : inputs.mapM f with
    | error first => exact ⟨first, rfl⟩
    | ok values =>
      have hok := isOk_mapM.mp (isOk_iff.mpr ⟨values, hmap⟩) input hinput
      rw [herror] at hok
      cases hok

/-- Assumes: inputs that count have results with values, related to the inputs, and the others have
results without. The values of all results are those of the inputs that count, in order. -/
theorem exists_filterMap_iff {g : α → Except ε (Option β)} {counts : α → Bool}
    {related : α → β → Prop} (hnone : ∀ input, g input = .ok none ↔ counts input = false)
    (hsome : ∀ input value, counts input = true →
      (g input = .ok (some value) ↔ related input value)) {values : List β} :
    (∃ found, inputs.mapM g = .ok found ∧ found.filterMap id = values) ↔
      List.Forall₂ related (inputs.filter counts) values := by
  simp only [mapM_eq_ok_iff]
  induction inputs generalizing values with
  | nil => simp
  | cons input rest ih =>
    cases hcounts : counts input with
    | false =>
      have hskip := (hnone input).mpr hcounts
      rw [List.filter_cons_of_neg (by simp [hcounts]), ← ih]
      constructor
      · rintro ⟨found, hfound, hvalues⟩
        obtain ⟨first, others, hfirst, hothers, rfl⟩ := List.forall₂_cons_left_iff.mp hfound
        obtain rfl := Except.ok.inj (hskip.symm.trans hfirst)
        exact ⟨others, hothers, hvalues⟩
      · rintro ⟨others, hothers, hvalues⟩
        exact ⟨none :: others, .cons hskip hothers, hvalues⟩
    | true =>
      rw [List.filter_cons_of_pos hcounts, List.forall₂_cons_left_iff]
      constructor
      · rintro ⟨found, hfound, rfl⟩
        obtain ⟨first, others, hfirst, hothers, rfl⟩ := List.forall₂_cons_left_iff.mp hfound
        cases first with
        | none => exact absurd ((hnone input).mp hfirst) (by simp [hcounts])
        | some value =>
          exact ⟨value, _, (hsome input value hcounts).mp hfirst, ih.mp ⟨others, hothers, rfl⟩, rfl⟩
      · rintro ⟨value, more, hvalue, hmore, rfl⟩
        obtain ⟨others, hothers, rfl⟩ := ih.mpr hmore
        exact ⟨some value :: others, .cons ((hsome input value hcounts).mpr hvalue) hothers, rfl⟩

/-! ### Results that may be missing -/

/-- The values of a list of results come from its inputs. -/
theorem exists_of_mapM_eq_some {g : α → Option β} {values : List β}
    (h : inputs.mapM g = some values) : ∀ value ∈ values, ∃ input ∈ inputs, g input = some value := by
  induction inputs generalizing values with
  | nil =>
    obtain rfl : values = [] := (Option.some.inj h).symm
    simp
  | cons input rest ih =>
    rw [List.mapM_cons] at h
    obtain ⟨first, hfirst, h⟩ := Option.bind_eq_some_iff.mp h
    obtain ⟨others, hothers, h⟩ := Option.bind_eq_some_iff.mp h
    obtain rfl : values = first :: others := (Option.some.inj h).symm
    refine List.forall_mem_cons.mpr ⟨⟨input, List.mem_cons_self, hfirst⟩, fun value hvalue ↦ ?_⟩
    obtain ⟨other, hother, hgives⟩ := ih hothers value hvalue
    exact ⟨other, List.mem_cons_of_mem input hother, hgives⟩

end ContentTree
