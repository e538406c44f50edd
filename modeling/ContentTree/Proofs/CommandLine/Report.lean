import ContentTree.CommandLine.Report
import ContentTree.Proofs.Lookup
import ContentTree.Proofs.Result
import ContentTree.Proofs.Terminal.Markup
/-!
When a report can be made. A JSON report and a tree always can. A YAML report cannot if the resource
type is a decimal or holds one. A table cannot if one of the texts in it, which are not escaped, is
markup that cannot be shown, and a table of children cannot either if a resource type in it is no
text.
-/

set_option autoImplicit false
set_option relaxedAutoImplicit false

namespace ContentTree

open ContentTree.Storage ContentTree.Descriptor ContentTree.Terminal

/-! ### Texts that can be shown -/

namespace CommandLine

theorem not_mem_toString (n : Nat) : '[' ∉ (toString n).toList := by
  intro hmem
  have hdigits : (toString n).toList = Nat.toDigits 10 n := by
    rw [Nat.toString_eq_repr, Nat.repr, String.toList_ofList]
  rw [hdigits] at hmem
  exact absurd (Nat.isDigit_of_mem_toDigits (by decide) (by decide) hmem) (by decide)

variable {render : Renderer}

/-- What commands count on in a renderer: it can show a text without an opening bracket, and any
text that is escaped and set in the style of a resource. -/
structure IsLawful (render : Renderer) : Prop where
  plain : ∀ text : String, '[' ∉ text.toList → CanShow render text
  label : ∀ (resource : Resource) (text : String), CanShow render (styled (styleOf resource) text)

theorem isLawful_plainText (isLiteral : String → Bool) : IsLawful (plainText isLiteral) where
  plain _ h := canShow_of_not_mem h
  label resource text := by
    have hwhite : IsOpening "white".toList "white" "white" :=
      ⟨⟨'w', "hite".toList, rfl, rfl, by simp [isBracket]⟩, rfl, by decide +kernel⟩
    have hblue : IsOpening "bold blue".toList "bold blue" "bold blue" :=
      ⟨⟨'b', "old blue".toList, rfl, rfl, by simp [isBracket]⟩, rfl, by decide +kernel⟩
    have hgreen : IsOpening "green".toList "green" "green" :=
      ⟨⟨'g', "reen".toList, rfl, rfl, by simp [isBracket]⟩, rfl, by decide +kernel⟩
    cases resource with
    | file => exact canShow_styled hwhite text
    | folder => exact canShow_styled hblue text
    | node => exact canShow_styled hgreen text

theorem IsLawful.toString (hlawful : IsLawful render) (n : Nat) : CanShow render (toString n) :=
  hlawful.plain _ (not_mem_toString n)

theorem IsLawful.sort (hlawful : IsLawful render) (resource : Resource) :
    CanShow render resource.sort := by
  refine hlawful.plain _ ?_
  cases resource with
  | file => exact (by decide : '[' ∉ "file".toList)
  | folder => exact (by decide : '[' ∉ "folder".toList)
  | node => exact (by decide : '[' ∉ "content".toList)

theorem isOk_shownText {markup : String} :
    (shownText render markup).isOk = true ↔ CanShow render markup := by
  rw [shownText, isOk_mapError, CanShow]

/-! ### Tables -/

/-- A table can be printed when its title and its cells can be shown. -/
theorem isOk_gridReport {title : String} {headings : List String} {rows : List (List String)} :
    (gridReport render title headings rows).isOk = true ↔
      CanShow render title ∧ ∀ row ∈ rows, ∀ cell ∈ row, CanShow render cell := by
  have hrows : (rows.mapM fun row : List String ↦ row.mapM (shownText render)).isOk = true ↔
      ∀ row ∈ rows, ∀ cell ∈ row, CanShow render cell := by
    simp only [isOk_mapM, isOk_shownText]
  rw [← hrows, ← isOk_shownText, and_comm, gridReport, isOk_map, shownGrid, isOk_bind,
    isOk_iff]
  constructor
  · rintro ⟨shown, hshown, hbody⟩
    obtain ⟨text, htext, -⟩ := isOk_bind.mp hbody
    exact ⟨⟨shown, hshown⟩, isOk_iff.mpr ⟨text, htext⟩⟩
  · rintro ⟨⟨shown, hshown⟩, htitle⟩
    obtain ⟨text, htext⟩ := isOk_iff.mp htitle
    exact ⟨shown, hshown, isOk_bind.mpr ⟨text, htext, rfl⟩⟩

variable {resource : Resource} {details : Details} {disk : Disk} {view : View} {path file : String}

theorem description_file : (Resource.file path file).description.on disk =
    (disk.size file).map fun size ↦
      (Resource.file path file).place ++ [("size", Detail.count size)] := by
  have hsize : (Lookup.size file).on disk = disk.size file := rfl
  simp only [Resource.description, Resource.info, Resource.size?, Lookup.on_bind, Lookup.on_pure, hsize]
  cases disk.size file <;> rfl

theorem exists_size (h : (Resource.file path file).description.on disk = .ok details) :
    ∃ size, details = (Resource.file path file).place ++ [("size", .count size)] := by
  rw [description_file] at h
  cases hsize : disk.size file with
  | error error =>
    rw [hsize] at h
    cases h
  | ok size =>
    rw [hsize] at h
    injection h with h
    exact ⟨size, h.symm⟩

theorem description_folder : (Resource.folder path file).description.on disk =
    .ok ((Resource.folder path file).place ++ [("size", .absent)]) := (rfl)

theorem description_node : (Resource.node view).description.on disk =
    .ok ((Resource.node view).place ++ [("resource_type", Resource.typeDetail view),
      ("properties", .properties (view.properties.map fun property ↦
        (property.1, property.2.plain)))]) := (rfl)

/-- Whether the cells of the rows for a detail can be shown. -/
def RowsShown (render : Renderer) (detail : String × Detail) : Prop :=
  ∀ row ∈ detailRows detail, ∀ cell ∈ row, CanShow render cell

theorem rowsShown_text (hlawful : IsLawful render) {key text : String} (hkey : '[' ∉ key.toList) :
    RowsShown render (key, .text text) ↔ CanShow render text := by
  simp [RowsShown, detailRows, hlawful.plain _ hkey]

theorem rowsShown_size (hlawful : IsLawful render) (size? : Option Nat) :
    RowsShown render ("size", (size?.map Detail.count).getD .absent) := by
  have hkey : CanShow render "size" := hlawful.plain _ (by decide)
  cases size? with
  | none => simp [RowsShown, detailRows, hkey, hlawful.plain]
  | some size => simpa [RowsShown, detailRows, hkey] using hlawful.toString size

theorem rowsShown_type (hlawful : IsLawful render) (view : View) :
    RowsShown render ("resource_type", Resource.typeDetail view) ↔
      ∀ value ∈ Resource.resourceType? view, CanShow render value.shown := by
  have hkey : CanShow render "resource_type" := hlawful.plain _ (by decide)
  unfold Resource.typeDetail
  cases Resource.resourceType? view with
  | none => simp [RowsShown, detailRows, hkey, hlawful.plain]
  | some value => simp [RowsShown, detailRows, hkey]

theorem rowsShown_properties (properties : List (String × Value)) :
    RowsShown render ("properties", .properties properties) ↔
      ∀ property ∈ properties,
        CanShow render ("@" ++ property.1) ∧ CanShow render property.2.shown := by
  simp only [RowsShown, detailRows, List.forall_mem_map, List.forall_mem_cons, List.not_mem_nil,
    false_imp_iff, implies_true, and_true]

/-- The table with the place of a resource and further details. -/
theorem isOk_tableReport_place (hlawful : IsLawful render) (resource : Resource)
    (others : Details) :
    (tableReport render resource.path (resource.place ++ others)).isOk = true ↔
      CanShow render resource.path ∧ CanShow render resource.name ∧
        CanShow render resource.backingFile ∧ ∀ detail ∈ others, RowsShown render detail := by
  have hplace : (∀ detail ∈ resource.place, RowsShown render detail) ↔
      CanShow render resource.name ∧ CanShow render resource.path ∧
        CanShow render resource.backingFile := by
    simp [Resource.place, rowsShown_text hlawful, hlawful.sort]
  rw [tableReport, isOk_gridReport, List.forall_mem_flatMap, List.forall_mem_append]
  change _ ∧ (∀ detail ∈ resource.place, RowsShown render detail) ∧
    (∀ detail ∈ others, RowsShown render detail) ↔ _
  rw [hplace]
  constructor
  · rintro ⟨hpath, ⟨hname, -, hfile⟩, hothers⟩
    exact ⟨hpath, hname, hfile, hothers⟩
  · rintro ⟨hpath, hname, hfile, hothers⟩
    exact ⟨hpath, ⟨hname, hpath, hfile⟩, hothers⟩

/-- The resource type of a resource that is a node, if it has one. -/
def typeOf? : Resource → Option Value
  | .node view => Resource.resourceType? view
  | _ => none

/-- The properties of a resource that is a node. -/
def propertiesOf : Resource → List (String × Value)
  | .node view => view.properties
  | _ => []

/-- Whether the texts in the table for a resource can be shown: its path, its name, its file, its
resource type, and the names and values of its properties. -/
def FitsTable (render : Renderer) (resource : Resource) : Prop :=
  CanShow render resource.path ∧ CanShow render resource.name ∧
    CanShow render resource.backingFile ∧ (∀ value ∈ typeOf? resource, CanShow render value.shown) ∧
      ∀ property ∈ propertiesOf resource,
        CanShow render ("@" ++ property.1) ∧ CanShow render property.2.plain.shown

instance : DecidablePred (FitsTable render) := fun _ => instDecidableAnd

/-- The table for a resource can be printed when the texts in it can be shown. -/
theorem isOk_tableReport (hlawful : IsLawful render)
    (h : resource.description.on disk = .ok details) :
    (tableReport render resource.path details).isOk = true ↔ FitsTable render resource := by
  cases resource with
  | file path file =>
    obtain ⟨size, rfl⟩ := exists_size h
    have hcount : RowsShown render ("size", .count size) := rowsShown_size hlawful (some size)
    rw [isOk_tableReport_place hlawful, List.forall_mem_singleton]
    simp [FitsTable, typeOf?, propertiesOf, hcount]
  | folder path file =>
    rw [description_folder] at h
    injection h with h
    have habsent : RowsShown render ("size", .absent) := rowsShown_size hlawful none
    rw [← h, isOk_tableReport_place hlawful, List.forall_mem_singleton]
    simp [FitsTable, typeOf?, propertiesOf, habsent]
  | node view =>
    rw [description_node] at h
    injection h with h
    rw [← h, isOk_tableReport_place hlawful, List.forall_mem_cons, List.forall_mem_singleton,
      rowsShown_type hlawful, rowsShown_properties, List.forall_mem_map]
    rfl

/-! ### YAML -/

/-- The single values in a value. -/
def scalars : Value → List Scalar
  | .single scalar => [scalar]
  | .multiple scalars => scalars

/-- Whether a single value is a decimal. -/
def isDecimal : Scalar → Bool
  | .decimal _ => true
  | _ => false

/-- Whether a value has a YAML form: none of its single values is a decimal. -/
def HasYaml (value : Value) : Prop := ∀ scalar ∈ scalars value, isDecimal scalar = false

instance : DecidablePred HasYaml := fun value =>
  inferInstanceAs (Decidable (∀ scalar ∈ scalars value, isDecimal scalar = false))

theorem isOk_scalarYaml {scalar : Scalar} :
    (scalarYaml scalar).isOk = true ↔ isDecimal scalar = false := by
  cases scalar <;> simp [scalarYaml, isDecimal, Except.isOk, Except.toBool]

theorem isOk_valueYaml {value : Value} : (valueYaml value).isOk = true ↔ HasYaml value := by
  cases value with
  | single scalar => simp [valueYaml, isOk_scalarYaml, HasYaml, scalars]
  | multiple scalars => simp only [valueYaml, isOk_map, isOk_mapM, isOk_scalarYaml, HasYaml,
      CommandLine.scalars]

/-- A value whose decimals are written out has a YAML form. -/
theorem hasYaml_plain (value : Value) : HasYaml value.plain := by
  have hscalar : ∀ scalar : Scalar, isDecimal scalar.plain = false := by
    intro scalar
    cases scalar <;> rfl
  cases value with
  | single scalar => simp [Value.plain, HasYaml, scalars, hscalar]
  | multiple scalars => simp [Value.plain, HasYaml, CommandLine.scalars, hscalar]

/-- Whether the resource type of a resource, if it has one, has a YAML form. -/
def FitsYaml (resource : Resource) : Prop := ∀ value ∈ typeOf? resource, HasYaml value

instance : DecidablePred FitsYaml := fun resource =>
  inferInstanceAs (Decidable (∀ value ∈ typeOf? resource, HasYaml value))

/-- A YAML report can be printed when each detail has a form. -/
theorem isOk_yamlReport_iff {details : Details} : (yamlReport details).isOk = true ↔
    ∀ detail ∈ details, (detailYaml detail.2).isOk = true := by
  have hall : (details.mapM fun detail : String × Detail ↦
      (detailYaml detail.2).map fun v ↦ (detail.1, v)).isOk = true ↔
        ∀ detail ∈ details, (detailYaml detail.2).isOk = true := by
    simp only [isOk_mapM, isOk_map]
  rw [← hall, yamlReport, isOk_bind, isOk_iff]
  exact ⟨fun ⟨members, hmembers, _⟩ ↦ ⟨members, hmembers⟩,
    fun ⟨members, hmembers⟩ ↦ ⟨members, hmembers, rfl⟩⟩

theorem isOk_placeYaml (resource : Resource) :
    ∀ detail ∈ resource.place, (detailYaml detail.2).isOk = true := by
  simp [Resource.place, detailYaml, Except.isOk, Except.toBool]

theorem isOk_typeYaml (view : View) :
    (detailYaml (Resource.typeDetail view)).isOk = true ↔ FitsYaml (.node view) := by
  unfold Resource.typeDetail FitsYaml typeOf?
  cases hvalue : Resource.resourceType? view with
  | none => simp [hvalue, detailYaml, Except.isOk, Except.toBool]
  | some value => simp [hvalue, detailYaml, isOk_valueYaml]

theorem isOk_propertiesYaml (view : View) :
    (detailYaml (.properties (view.properties.map fun property ↦
      (property.1, property.2.plain)))).isOk = true := by
  rw [detailYaml, isOk_map, isOk_mapM]
  refine List.forall_mem_map.mpr fun property _ ↦ ?_
  rw [isOk_map, isOk_valueYaml]
  exact hasYaml_plain property.2

/-- The YAML for a resource can be printed when its resource type has a form; its properties always
have one. -/
theorem isOk_yamlReport (h : resource.description.on disk = .ok details) :
    (yamlReport details).isOk = true ↔ FitsYaml resource := by
  rw [isOk_yamlReport_iff]
  have hplace := isOk_placeYaml resource
  cases resource with
  | file path file =>
    obtain ⟨size, rfl⟩ := exists_size h
    rw [List.forall_mem_append, List.forall_mem_singleton]
    exact iff_of_true ⟨hplace, rfl⟩ (by simp [FitsYaml, typeOf?])
  | folder path file =>
    rw [description_folder] at h
    injection h with h
    rw [← h, List.forall_mem_append, List.forall_mem_singleton]
    exact iff_of_true ⟨hplace, rfl⟩ (by simp [FitsYaml, typeOf?])
  | node view =>
    rw [description_node] at h
    injection h with h
    rw [← h, List.forall_mem_append, List.forall_mem_cons, List.forall_mem_singleton, isOk_typeYaml]
    exact ⟨fun hall ↦ hall.2.1, fun hfits ↦ ⟨hplace, hfits, isOk_propertiesYaml view⟩⟩

/-! ### Children -/

/-- The text that a value is, if it is one. -/
def textIn? : Value → Option String
  | .single (.text text) => some text
  | _ => none

/-- Whether a child has a place in a table of children: its resource type, if it has one, is a text
that can be shown or counts as nothing. -/
def FitsList (render : Renderer) (child : Resource) : Prop :=
  ∀ value ∈ typeOf? child, value.isNothing = true ∨ ∃ text ∈ textIn? value, CanShow render text

instance : DecidablePred (FitsList render) := fun child =>
  inferInstanceAs (Decidable (∀ value ∈ typeOf? child,
    value.isNothing = true ∨ ∃ text ∈ textIn? value, CanShow render text))

theorem remark_eq {value : Value} (h : Resource.resourceType? view = some value)
    (size? : Option Nat) : remark (.node view) size? =
      match textIn? value with
      | some text => .ok text
      | none => if value.isNothing then .ok "" else .error (.noText value) := by
  cases value with
  | single scalar => cases scalar <;> simp only [remark, h, textIn?]
  | multiple scalars => simp only [remark, h, textIn?]

/-- What is said of a child can be shown when it has a place in the table. -/
theorem exists_remark_iff (hlawful : IsLawful render) {child : Resource} {size? : Option Nat} :
    (∃ text, remark child size? = .ok text ∧ CanShow render text) ↔ FitsList render child := by
  have hempty : CanShow render "" := hlawful.plain _ (by decide)
  have hbytes : CanShow render ((size?.map fun size ↦ toString size ++ " bytes").getD "") := by
    cases size? with
    | none => exact hempty
    | some size =>
      refine hlawful.plain _ ?_
      rw [Option.map_some, Option.getD_some, String.toList_append, List.mem_append, not_or]
      exact ⟨not_mem_toString size, by decide⟩
  cases child with
  | file | folder => exact iff_of_true ⟨_, rfl, hbytes⟩ (by simp [FitsList, typeOf?])
  | node view =>
    have hfits : FitsList render (.node view) ↔ ∀ value ∈ Resource.resourceType? view,
        value.isNothing = true ∨ ∃ text ∈ textIn? value, CanShow render text := Iff.rfl
    rw [hfits]
    cases hvalue : Resource.resourceType? view with
    | none => simp [remark, hvalue, hempty]
    | some value =>
      rw [remark_eq hvalue]
      cases htext : textIn? value with
      | none => cases hnothing : value.isNothing <;> simp [htext, hnothing, hempty]
      | some text =>
        -- An empty text counts as nothing, and can be shown.
        have hnothing : value.isNothing = true → CanShow render text := by
          unfold textIn? at htext
          split at htext
          · cases htext
            exact fun h ↦ (eq_of_beq h : text = "") ▸ hempty
          · cases htext
        simpa [htext] using hnothing

theorem exists_childRow_iff (hlawful : IsLawful render) {child : Resource × Option Nat} :
    (∃ row, childRow child = .ok row ∧ ∀ cell ∈ row, CanShow render cell) ↔
      FitsList render child.1 := by
  have hlabel := hlawful.label child.1 child.1.name
  have hsort := hlawful.sort child.1
  have hremark := @exists_remark_iff render hlawful child.1 child.2
  rw [← hremark, childRow]
  cases remark child.1 child.2 with
  | error error => simp [bind, Except.bind]
  | ok text => simp [bind, Except.bind, pure, Except.pure, hlabel, hsort]

/-- The table of children can be printed. -/
theorem isOk_listReport (hlawful : IsLawful render) {children : List (Resource × Option Nat)} :
    (listReport render path children).isOk = true ↔
      children = [] ∨ CanShow render path ∧ ∀ child ∈ children, FitsList render child.1 := by
  cases children with
  | nil => simp [listReport, pure, Except.pure, Except.isOk, Except.toBool]
  | cons child rest =>
    have hrows : (listReport render path (child :: rest)).isOk = true ↔
        ∃ rows, (child :: rest).mapM childRow = .ok rows ∧
          (gridReport render path ["Name", "Type", "Details"] rows).isOk = true := by
      rw [← isOk_bind]
      rfl
    simp only [hrows, isOk_gridReport, ← exists_childRow_iff hlawful, reduceCtorEq, false_or]
    rw [← exists_mapM_iff, ← exists_and_left]
    exact exists_congr fun rows ↦ and_left_comm

/-! ### Trees -/

/-- A tree can always be printed, since the names in it are escaped. -/
theorem isOk_treeReport (hlawful : IsLawful render) (visits : List Visit) :
    (treeReport render visits).isOk = true := by
  cases visits with
  | nil => rfl
  | cons first rest =>
    obtain ⟨root, hroot⟩ := isOk_iff.mp (isOk_shownText.mpr
      (hlawful.label first.resource first.resource.path))
    have hlabels : (rest.mapM fun visit : Visit ↦
        (shownText render (styled (styleOf visit.resource) visit.resource.name)).map fun label ↦
          (visit.depth - first.depth, label)).isOk = true := by
      simp only [isOk_mapM, isOk_map, isOk_shownText]
      exact fun visit _ ↦ hlawful.label visit.resource visit.resource.name
    obtain ⟨labels, hlabels⟩ := isOk_iff.mp hlabels
    rw [treeReport, isOk_bind]
    exact ⟨root, hroot, isOk_bind.mpr ⟨labels, hlabels, rfl⟩⟩

end CommandLine

end ContentTree
