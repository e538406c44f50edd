import ContentTree.Cache.Pair
import ContentTree.Descriptor.View
import Mathlib.Logic.Basic
/-!
What lookups find and what they ask. Running one over the bare file system is a map of monads: it
takes a value to itself, a continuation to a continuation, and a question to the answer of the file
system. The questions that a lookup can come to are told without running it. What it finds over a file
system that changes is told by the answers that it is given, one after the other.
-/

set_option autoImplicit false
set_option relaxedAutoImplicit false

namespace ContentTree.Lookup

open ContentTree.Storage ContentTree.Descriptor

variable {α β : Type} {disk : Disk}

/-! ### Running over the bare file system -/

@[simp] theorem on_pure (value : α) : (pure value : Lookup α).on disk = value := (rfl)

@[simp] theorem on_bind (first : Lookup α) (second : α → Lookup β) :
    (first >>= second).on disk = (second (first.on disk)).on disk := by
  induction first with
  | found value => rfl
  | ask question next ih => exact ih (disk.answer question)

@[simp] theorem on_kind (path : String) : (kind path).on disk = disk.kind? path := (rfl)

@[simp] theorem on_names (folder : String) : (names folder).on disk = disk.names folder := (rfl)

@[simp] theorem on_content (file : String) :
    (content file).on disk = Cache.readTree? disk file := (rfl)

theorem on_bytes (file : String) : (bytes file).on disk = disk.read file := (rfl)

@[simp] theorem on_isFile (path : String) :
    (isFile path).on disk = (disk.kind? path == some .file) := (rfl)

@[simp] theorem on_isFolder (path : String) :
    (isFolder path).on disk = (disk.kind? path == some .folder) := (rfl)

@[simp] theorem on_load (file path : String) (subPath? : Option String) :
    (View.load file path subPath?).on disk =
      ⟨file, path, subPath?, View.locate (Cache.readTree? disk file) subPath?⟩ := (rfl)

@[simp] theorem on_ite (condition : Prop) [Decidable condition] (yes no : Lookup α) :
    (if condition then yes else no).on disk = if condition then yes.on disk else no.on disk :=
  apply_ite (Lookup.on · disk) condition yes no

/-! ### Questions -/

/-- Whether all questions that a lookup can come to are allowed, and all values that it can find
satisfy a condition, whatever the answers are. -/
inductive Asks {α : Type} (allowed : Question → Prop) (result : α → Prop) : Lookup α → Prop
  | found {value : α} (holds : result value) : Asks allowed result (.found value)
  | ask {question : Question} {next : question.Answer → Lookup α} (here : allowed question)
      (after : ∀ answer, Asks allowed result (next answer)) :
      Asks allowed result (.ask question next)

variable {allowed : Question → Prop} {middle : α → Prop} {result : β → Prop}

theorem Asks.pure {value : β} (h : result value) : (pure value : Lookup β).Asks allowed result :=
  .found h

theorem Asks.bind {first : Lookup α} {second : α → Lookup β} (hfirst : first.Asks allowed middle)
    (hsecond : ∀ value, middle value → (second value).Asks allowed result) :
    (first >>= second).Asks allowed result := by
  induction hfirst with
  | found hvalue => exact hsecond _ hvalue
  | ask here _ ih => exact .ask here ih

/-- More questions may be allowed, and less may be known of the values. -/
theorem Asks.weaken {lookup : Lookup α} {wider : Question → Prop} {weaker : α → Prop}
    (h : lookup.Asks allowed middle) (hwider : ∀ question, allowed question → wider question)
    (hweaker : ∀ value, middle value → weaker value) : lookup.Asks wider weaker := by
  induction h with
  | found hvalue => exact .found (hweaker _ hvalue)
  | ask here _ ih => exact .ask (hwider _ here) ih

/-! ### Answers one after the other -/

/-- A question with an answer to it. -/
structure Reply where
  question : Question
  answer : question.Answer

/-- Whether a lookup finds a value when its questions are answered by some replies. The replies need
not be those of one file system, since it may change after each of them. -/
inductive Finds {α : Type} : Lookup α → List Reply → α → Prop
  | found {value : α} : Finds (.found value) [] value
  | ask {question : Question} {answer : question.Answer} {next : question.Answer → Lookup α}
      {replies : List Reply} {value : α} (after : Finds (next answer) replies value) :
      Finds (.ask question next) (⟨question, answer⟩ :: replies) value

variable {replies : List Reply}

@[simp] theorem finds_pure {value found : α} :
    (pure value : Lookup α).Finds replies found ↔ replies = [] ∧ found = value := by
  constructor
  · intro h
    cases h
    exact ⟨rfl, rfl⟩
  · rintro ⟨rfl, rfl⟩
    exact .found

/-- A continued lookup is given the replies to the first one and then the others. -/
theorem finds_bind {first : Lookup α} {second : α → Lookup β} {value : β} :
    (first >>= second).Finds replies value ↔
      ∃ here later middle, replies = here ++ later ∧ first.Finds here middle ∧
        (second middle).Finds later value := by
  constructor
  · intro h
    induction first generalizing replies with
    | found middle => exact ⟨[], replies, middle, rfl, .found, h⟩
    | ask question next ih =>
      cases h with
      | ask after =>
        obtain ⟨here, later, middle, rfl, hfirst, hsecond⟩ := ih _ after
        exact ⟨_ :: here, later, middle, rfl, .ask hfirst, hsecond⟩
  · rintro ⟨here, later, middle, rfl, hfirst, hsecond⟩
    induction hfirst with
    | found => exact hsecond
    | ask _ ih => exact .ask (ih hsecond)

/-- A file system that does not change gives replies too. -/
theorem finds_on (disk : Disk) (lookup : Lookup α) : ∃ replies, lookup.Finds replies (lookup.on disk) := by
  induction lookup with
  | found value => exact ⟨[], .found⟩
  | ask question next ih =>
    obtain ⟨replies, h⟩ := ih (disk.answer question)
    exact ⟨_ :: replies, .ask h⟩

end ContentTree.Lookup
