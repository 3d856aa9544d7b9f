import ServiceCatalog.Proofs.Description.Loading
import ServiceCatalog.Proofs.Json.Edits

/-!
# Extensions

An extension is a member whose name begins with `x-`.  Anyone may add extensions to a document, to
its info, among its paths, to a path item, an operation or a parameter.  Without them a document is
what it is for a reader who knows none (`documentWithoutExtensions`).

Nearly everywhere extensions are inert: with them and without them the same is read, or the same
error is reported.  The exception are the paths, where every member counts as a path item.  A member
can be left out there without a trace exactly if it reads as a path item without operations
(`IsIdle`).

So documents that agree apart from extensions load alike as long as those among their paths are
idle, and where a catalog is loaded, one that is not idle is noticed
(`extensions_are_inert_beside_paths`).  An extension among the paths that is no object, for one, has
the document refused (`extension_among_paths_is_refused`).
-/

namespace ServiceCatalog

set_option autoImplicit false

open ServiceCatalog.Json

namespace Description

/-- A member with this name is an extension. -/
def NamesExtension (name : String) : Prop :=
  "x-".toList <+: name.toList

instance (name : String) : Decidable (NamesExtension name) :=
  inferInstanceAs (Decidable (_ <+: _))

/-- A value without its own extensions.  Those inside its members stay. -/
def withoutExtensions (value : Value) : Value :=
  value.keepMembers fun name => !decide (NamesExtension name)

theorem member?_withoutExtensions {name : String} (ordinary : ¬ NamesExtension name)
    (value : Value) : (withoutExtensions value).member? name = value.member? name := by
  simp [withoutExtensions, Value.member?_keepMembers, ordinary]

/-- A record none of whose fields is an extension is read alike. -/
theorem record_withoutExtensions {ρ : Type} {fields : List (RecordField ρ)}
    (ordinary : ∀ field ∈ fields, ¬ NamesExtension field.name) (name : String) (blank : ρ)
    (value : Value) :
    record name fields blank (withoutExtensions value) = record name fields blank value :=
  record_keepMembers (fun field listed => by simp [ordinary field listed]) name blank value

theorem Info.decoder_withoutExtensions (value : Value) :
    Info.decoder (withoutExtensions value) = Info.decoder value :=
  record_withoutExtensions (by decide) _ _ value

theorem WrittenParameter.decoder_withoutExtensions (value : Value) :
    WrittenParameter.decoder (withoutExtensions value) = WrittenParameter.decoder value :=
  record_withoutExtensions (by decide) _ _ value

/-! ## Parameters -/

/-- Shared definitions without extensions.  The names that they are shared by stay. -/
def definitionsWithoutExtensions (shared : List (String × Value)) : List (String × Value) :=
  shared.map fun (name, definition) => (name, withoutExtensions definition)

theorem referred?_withoutExtensions (shared : List (String × Value)) (reference : String) :
    referred? (definitionsWithoutExtensions shared) reference =
      (referred? shared reference).map withoutExtensions := by
  unfold referred? definitionsWithoutExtensions
  split_ifs
  · exact Value.lookup_map_snd (fun _ => withoutExtensions) shared _
  · rfl

theorem definition_withoutExtensions (shared : List (String × Value)) (written : Value) :
    definition (definitionsWithoutExtensions shared) (withoutExtensions written) =
      (definition shared written).map withoutExtensions := by
  have ordinary : ¬ NamesExtension "$ref" := by decide
  have reference := member?_withoutExtensions ordinary written
  simp only [definition, reference, referred?_withoutExtensions]
  cases (written.member? "$ref").bind Value.text? with
  | none => rfl
  | some name =>
      dsimp only
      cases referred? shared name <;> rfl

theorem loadParameter_withoutExtensions (operation : String) (shared : List (String × Value))
    (location : String) (written : Value) :
    loadParameter operation (definitionsWithoutExtensions shared) location
        (withoutExtensions written) =
      loadParameter operation shared location written := by
  simp only [loadParameter, definition_withoutExtensions]
  cases definition shared written with
  | error cause => rfl
  | ok resolved =>
      show (readAt location WrittenParameter.decoder (withoutExtensions resolved) >>= _) =
        readAt location WrittenParameter.decoder resolved >>= _
      simp only [readAt, WrittenParameter.decoder_withoutExtensions]

/-- Loading a changed list is loading the list in another way. -/
theorem loadInto_map {σ : Type} (load : Nat → Value → Except CatalogError Parameter)
    (add : σ → Parameter → Except CatalogError σ) (change : Value → Value) (index : Nat)
    (written : List Value) (gathered : σ) :
    loadInto load add index (written.map change) gathered =
      loadInto (fun index value => load index (change value)) add index written gathered := by
  induction written generalizing index gathered with
  | nil => rfl
  | cons value written ih => simp only [List.map_cons, loadInto, ih]

theorem loadParameters_withoutExtensions (operation : String) (shared : List (String × Value))
    (pathLocation : String) (inherited : List Value) (operationLocation : String)
    (own : List Value) :
    loadParameters operation (definitionsWithoutExtensions shared) pathLocation
        (inherited.map withoutExtensions) operationLocation (own.map withoutExtensions) =
      loadParameters operation shared pathLocation inherited operationLocation own := by
  simp only [loadParameters, loadInto_map, loadParameter_withoutExtensions]

/-! ## Operations -/

/-- A part of an operation without extensions: they may stand in its parameters. -/
def partWithoutExtensions (name : String) (value : Value) : Value :=
  if name = "parameters" then value.mapItems withoutExtensions else value

/-- An operation without extensions, its own and those of its parameters. -/
def operationWithoutExtensions (operation : Value) : Value :=
  withoutExtensions
    (operation.mapFields (WrittenOperation.fields.map RecordField.name) partWithoutExtensions)

/-- Without extensions, an operation is read with parameters without them. -/
theorem WrittenOperation.decoder_withoutExtensions (value : Value) :
    WrittenOperation.decoder (operationWithoutExtensions value) =
      (WrittenOperation.decoder value).map fun operation =>
        { operation with parameters := operation.parameters.map withoutExtensions } := by
  refine (record_withoutExtensions (by decide) _ _ _).trans (record_mapFields ?_ rfl _ value)
  simp only [WrittenOperation.fields, List.forall_mem_cons, List.not_mem_nil, false_imp_iff,
    implies_true, and_true]
  exact ⟨RecordField.follows_untouched (fun _ => rfl) fun _ _ => rfl,
    RecordField.follows_untouched (fun _ => rfl) fun _ _ => rfl,
    RecordField.follows_untouched (fun _ => rfl) fun _ _ => rfl,
    RecordField.follows_untouched (fun _ => rfl) fun _ _ => rfl,
    RecordField.follows_of _ (listOf_anyValue_mapItems withoutExtensions) fun _ _ => rfl⟩

theorem loadOperation_withoutExtensions (shared : List (String × Value))
    (template location : String) (inherited : List Value) (name : String) (value : Value) :
    loadOperation (definitionsWithoutExtensions shared) template location
        (inherited.map withoutExtensions) name (operationWithoutExtensions value) =
      loadOperation shared template location inherited name value := by
  simp only [loadOperation, readAt, WrittenOperation.decoder_withoutExtensions]
  cases Verb.ofText? name with
  | none => rfl
  | some verb =>
      cases WrittenOperation.decoder value with
      | error cause => rfl
      | ok written =>
          show (loadParameters _ _ _ _ _ (written.parameters.map withoutExtensions) >>= _) =
            loadParameters _ _ _ _ _ written.parameters >>= _
          rw [loadParameters_withoutExtensions]

/-! ## Path items -/

/-- A member of a path item without extensions: an operation, or a list of parameters. -/
def memberWithoutExtensions (name : String) (value : Value) : Value :=
  if NamesOperation name then operationWithoutExtensions value
  else partWithoutExtensions name value

/-- A path item without extensions, its own and those of its members. -/
def itemWithoutExtensions (item : Value) : Value :=
  withoutExtensions (item.mapMembers memberWithoutExtensions)

/-- The members of a path item that has no extensions any more. -/
def itemMembersWithoutExtensions (members : List (String × Value)) : List (String × Value) :=
  (members.map fun (name, value) => (name, memberWithoutExtensions name value)).filter fun member =>
    !decide (NamesExtension member.1)

theorem inheritedParameters_withoutExtensions (location : String)
    (members : List (String × Value)) :
    inheritedParameters location (itemMembersWithoutExtensions members) =
      (inheritedParameters location members).map fun inherited =>
        inherited.map withoutExtensions := by
  have written : (itemMembersWithoutExtensions members).lookup "parameters" =
      (members.lookup "parameters").map fun value => value.mapItems withoutExtensions := by
    rw [itemMembersWithoutExtensions, lookup_filter fun name => !decide (NamesExtension name),
      Value.lookup_map_snd]
    rfl
  simp only [inheritedParameters, written]
  cases members.lookup "parameters" with
  | none => rfl
  | some value => cases value <;> rfl

/-- The operations of a path item stay where they are. -/
theorem operationMembers_withoutExtensions (members : List (String × Value)) :
    operationMembers (itemMembersWithoutExtensions members) =
      (operationMembers members).map fun (name, value) =>
        (name, operationWithoutExtensions value) := by
  have ordinary : ∀ name, NamesOperation name → (!decide (NamesExtension name)) = true := by
    intro name named
    have no : ¬ NamesExtension name := named.2.2
    simp [no]
  have changed : ∀ name value, NamesOperation name →
      memberWithoutExtensions name value = operationWithoutExtensions value :=
    fun name value named => if_pos named
  rw [itemMembersWithoutExtensions,
    operationMembers_filter (fun name => !decide (NamesExtension name)) ordinary]
  exact operationMembers_map changed members

/-- **The extensions of a path item are inert**, and so are those inside. -/
theorem loadPathItem_withoutExtensions (shared : List (String × Value)) (template : String)
    (item : Value) :
    loadPathItem (definitionsWithoutExtensions shared) template (itemWithoutExtensions item) =
      loadPathItem shared template item := by
  cases item with
  | object members =>
      show loadPathItem _ template (.object (itemMembersWithoutExtensions members)) = _
      simp only [loadPathItem, inheritedParameters_withoutExtensions,
        operationMembers_withoutExtensions]
      cases inheritedParameters ("/paths/" ++ template) members with
      | error cause => rfl
      | ok inherited =>
          show List.mapM _ (List.map _ (operationMembers members)) =
            List.mapM _ (operationMembers members)
          simp only [List.mapM_map, Function.comp_def, loadOperation_withoutExtensions]
  | null | bool | number | string | array => rfl

/-! ## Documents -/

section LeavingOut

variable (leftOut : String → Bool)

/-- Path items without extensions.  Those with the names in `leftOut` are left out themselves. -/
def pathsWithoutExtensions (paths : List (String × Value)) : List (String × Value) :=
  (paths.map fun (template, item) => (template, itemWithoutExtensions item)).filter fun path =>
    !leftOut path.1

/-- What is written for the paths of a document, without extensions. -/
def pathsSectionWithoutExtensions (paths : Value) : Value :=
  (paths.mapMembers fun _ item => itemWithoutExtensions item).keepMembers fun name => !leftOut name

/-- A section of a document without extensions. -/
def sectionWithoutExtensions (name : String) (value : Value) : Value :=
  if name = "info" then withoutExtensions value
  else if name = "paths" then pathsSectionWithoutExtensions leftOut value
  else if name = "parameters" then
    value.mapMembers fun _ definition => withoutExtensions definition
  else value

/-- A document without extensions.  Of those among its paths only the ones in `leftOut` are left
out, which may be all of them, some or none. -/
def documentWithoutExtensions (root : Value) : Value :=
  withoutExtensions
    (root.mapFields (Document.fields.map RecordField.name) (sectionWithoutExtensions leftOut))

/-- What is read of a document, without the extensions of its parts. -/
def Document.withoutExtensions (document : Document) : Document :=
  { document with
    paths := document.paths.map (pathsWithoutExtensions leftOut)
    parameters := definitionsWithoutExtensions document.parameters }

theorem Document.decoder_withoutExtensions (root : Value) :
    Document.decoder (documentWithoutExtensions leftOut root) =
      (Document.decoder root).map (Document.withoutExtensions leftOut) := by
  have info : ∀ value, optional Info.decoder (Description.withoutExtensions value) =
      (optional Info.decoder value).map (Option.map id) := by
    refine optional_change (fun _ => Value.keepMembers_eq_null) fun value => ?_
    rw [Except.map_id]
    exact Info.decoder_withoutExtensions value
  have paths : ∀ value,
      optional (membersOf anyValue) (pathsSectionWithoutExtensions leftOut value) =
        (optional (membersOf anyValue) value).map (Option.map (pathsWithoutExtensions leftOut)) := by
    simp only [pathsSectionWithoutExtensions]
    refine optional_change
      (fun _ => Value.keepMembers_eq_null.trans Value.mapMembers_eq_null) fun value => ?_
    rw [membersOf_anyValue_keepMembers, membersOf_anyValue_mapMembers]
    cases membersOf anyValue value <;> rfl
  have parameters : ∀ value,
      membersOf anyValue (value.mapMembers fun _ held => Description.withoutExtensions held) =
        (membersOf anyValue value).map definitionsWithoutExtensions :=
    membersOf_anyValue_mapMembers _
  refine (record_withoutExtensions (by decide) _ _ _).trans (record_mapFields ?_ rfl _ root)
  simp only [Document.fields, List.forall_mem_cons, List.not_mem_nil, false_imp_iff,
    implies_true, and_true]
  exact ⟨RecordField.follows_of (Option.map id) info fun read _ => by rw [Option.map_id]; rfl,
    RecordField.follows_untouched (fun _ => rfl) fun _ _ => rfl,
    RecordField.follows_untouched (fun _ => rfl) fun _ _ => rfl,
    RecordField.follows_untouched (fun _ => rfl) fun _ _ => rfl,
    RecordField.follows_of _ paths fun _ _ => rfl,
    RecordField.follows_of _ parameters fun _ _ => rfl⟩

theorem checkDialect_withoutExtensions (root : Value) :
    checkDialect (documentWithoutExtensions leftOut root) = checkDialect root := by
  have same : ∀ name, ¬ NamesExtension name →
      (∀ value, sectionWithoutExtensions leftOut name value = value) →
      (documentWithoutExtensions leftOut root).member? name = root.member? name := by
    intro name ordinary untouched
    rw [documentWithoutExtensions, member?_withoutExtensions ordinary, Value.member?_mapFields,
      funext untouched]
    exact congrFun Option.map_id_fun' _
  simp only [checkDialect, same "openapi" (by decide) fun _ => rfl,
    same "swagger" (by decide) fun _ => rfl]

end LeavingOut

/-! ## Extensions among the paths -/

/-- What stands among the paths reads as a path item without operations. -/
structure IsIdle (item : Value) : Prop where
  object : ∃ members, item = .object members
  parameters : item.member? "parameters" = none ∨
    ∃ list, item.member? "parameters" = some (.array list)
  operations : ∀ member ∈ item.members, ¬ NamesOperation member.1

/-- What has a name in `leftOut` among the paths is idle. -/
def IdleAmong (leftOut : String → Bool) (paths : List (String × Value)) : Prop :=
  ∀ path ∈ paths, leftOut path.1 = true → IsIdle path.2

theorem loadPathItem_eq_ok_nil {shared : List (String × Value)} {template : String}
    {item : Value} : loadPathItem shared template item = .ok [] ↔ IsIdle item := by
  have empty : ∀ members, operationMembers members = [] ↔
      ∀ member ∈ members, ¬ NamesOperation member.1 := by
    intro members
    rw [operationMembers_eq, List.filter_eq_nil_iff]
    simp
  rw [loadPathItem_eq_ok]
  constructor
  · rintro ⟨members, inherited, rfl, read, described⟩
    refine ⟨⟨members, rfl⟩, ?_, (empty members).mp (List.forall₂_nil_right_iff.mp described)⟩
    obtain ⟨absent, -⟩ | written := inheritedParameters_eq_ok.mp read
    · exact .inl absent
    · exact .inr ⟨inherited, written⟩
  · rintro ⟨⟨members, rfl⟩, written, none⟩
    have described := (empty members).mpr none
    rcases written with absent | ⟨list, written⟩
    · exact ⟨members, [], rfl, inheritedParameters_eq_ok.mpr (.inl ⟨absent, rfl⟩),
        described ▸ .nil⟩
    · exact ⟨members, list, rfl, inheritedParameters_eq_ok.mpr (.inr written), described ▸ .nil⟩

/-- Without extensions, the path items of a document are loaded as those that are not left out. -/
theorem mapM_pathsWithoutExtensions (leftOut : String → Bool)
    (shared paths : List (String × Value)) :
    (pathsWithoutExtensions leftOut paths).mapM (fun (template, item) =>
        loadPathItem (definitionsWithoutExtensions shared) template item) =
      (paths.filter fun path => !leftOut path.1).mapM fun (template, item) =>
        loadPathItem shared template item := by
  simp only [pathsWithoutExtensions, List.filter_map, List.mapM_map, Function.comp_def,
    loadPathItem_withoutExtensions]

section Loading

variable {leftOut : String → Bool}

theorem assemble_withoutExtensions {document : Document}
    (idle : ∀ paths, document.paths = some paths → IdleAmong leftOut paths) :
    assemble (document.withoutExtensions leftOut) = assemble document := by
  obtain ⟨info, host, basePath, schemes, paths, shared⟩ := document
  refine bind_congr fun found => bind_congr fun title => ?_
  have stops (next : List (String × Value) → Except CatalogError Catalog) :
      (demand "/paths" "paths" none >>= next) =
        .error (.malformed "/paths" (.missingField "paths")) := rfl
  have goesOn (next : List (String × Value) → Except CatalogError Catalog)
      (paths : List (String × Value)) :
      (demand "/paths" "paths" (some paths) >>= next) = next paths := rfl
  cases paths with
  | none => exact (stops _).trans (stops _).symm
  | some paths =>
      have loaded : ((pathsWithoutExtensions leftOut paths).mapM fun (template, item) =>
            loadPathItem (definitionsWithoutExtensions shared) template item).map List.flatten =
          (paths.mapM fun (template, item) => loadPathItem shared template item).map
            List.flatten := by
        rw [mapM_pathsWithoutExtensions]
        refine mapM_filter_flatten fun path member extension => loadPathItem_eq_ok_nil.mpr ?_
        exact idle paths rfl path member (by simpa using extension)
      refine (goesOn _ _).trans (Eq.trans ?_ (goesOn _ _).symm)
      exact bind_congr_map loaded fun operations => Except.ok (Catalog.mk title found.description
        (found.version.map versionText)
        (baseUrl? ⟨info, host, basePath, schemes, some paths, shared⟩) operations)

theorem load_withoutExtensions {root : Value} (distinct : root.NamesDistinct)
    (idle : IdleAmong leftOut (pathItems root)) :
    load (documentWithoutExtensions leftOut root) = load root := by
  simp only [load, checkDialect_withoutExtensions, readAt, Document.decoder_withoutExtensions]
  cases dialect : checkDialect root with
  | error cause => rfl
  | ok _ =>
      obtain ⟨members, rfl⟩ := exists_members_of_checkDialect dialect
      cases read : Document.decoder (.object members) with
      | error cause => rfl
      | ok document =>
          show (assemble (document.withoutExtensions leftOut) >>= _) = assemble document >>= _
          rw [assemble_withoutExtensions fun paths given => ?_]
          rwa [← pathItems_of_document (Value.namesDistinct_object.mp distinct).1 read given]

/-- What is left out among the paths without changing the catalog is idle. -/
theorem idleAmong_of_load {root : Value} {catalog : Catalog} (distinct : root.NamesDistinct)
    (loaded : load root = .ok catalog)
    (without : load (documentWithoutExtensions leftOut root) = .ok catalog) :
    IdleAmong leftOut (pathItems root) := by
  obtain ⟨dialect, document, read, assembles, -⟩ := load_eq_ok.mp loaded
  obtain ⟨-, documentToo, readToo, assemblesToo, -⟩ := load_eq_ok.mp without
  rw [Document.decoder_withoutExtensions, read] at readToo
  cases readToo
  obtain ⟨members, rfl⟩ := exists_members_of_checkDialect dialect
  obtain ⟨info, title, paths, operations, given, titled, there, items, rfl⟩ := assembles
  obtain ⟨_, _, pathsToo, operationsToo, -, -, thereToo, itemsToo, same⟩ := assemblesToo
  obtain rfl : pathsWithoutExtensions leftOut paths = pathsToo := by
    simpa [Document.withoutExtensions, there] using thereToo
  have without := mapM_pathsWithoutExtensions leftOut document.parameters paths
  have ordinary := mapM_eq_ok.mp (without.symm.trans (mapM_eq_ok.mpr itemsToo))
  have together : operations.flatten = operationsToo.flatten := congrArg Catalog.operations same
  obtain ⟨-, lossless⟩ := eq_nil_of_filter items ordinary
  intro path member extension
  rw [pathItems_of_document (Value.namesDistinct_object.mp distinct).1 read there] at member
  exact loadPathItem_eq_ok_nil.mp
    (lossless (together ▸ le_rfl) path member (by simpa using extension))

end Loading

end Description

open ServiceCatalog.Description

/-- **Extensions are inert, but for those among the paths.**  Take two documents that agree apart
from extensions and from the path members in `leftOut`, and let these be idle in the first.  If they
are idle in the second too, both load alike: they give the same catalog or the same error.  And
where the first gives a catalog, the second gives it only then. -/
theorem extensions_are_inert_beside_paths {leftOut : String → Bool} {document other : Value}
    (distinct : document.NamesDistinct) (distinctOther : other.NamesDistinct)
    (same : documentWithoutExtensions leftOut document = documentWithoutExtensions leftOut other)
    (idle : IdleAmong leftOut (pathItems document)) :
    (IdleAmong leftOut (pathItems other) → load other = load document) ∧
      ∀ catalog, load document = .ok catalog →
        (load other = .ok catalog ↔ IdleAmong leftOut (pathItems other)) := by
  have first := load_withoutExtensions distinct idle
  have alike : IdleAmong leftOut (pathItems other) → load other = load document := by
    intro idleOther
    rw [← load_withoutExtensions distinctOther idleOther, ← same, first]
  refine ⟨alike, fun catalog loaded => ⟨fun loadedOther => ?_, fun idleOther => ?_⟩⟩
  · exact idleAmong_of_load distinctOther loadedOther (same ▸ first.trans loaded)
  · rw [alike idleOther, loaded]

/-! ## Documents with extensions -/

/-- The document of items with extensions of all sorts: in the document and its info, among the
paths, in a path item, an operation and the parameters that are written in their places.  One that
the document of items has in its path item is left out. -/
def annotatedItemsDocument : Value :=
  .object
    [("x-origin", .array [.null, .object [("get", .string "x")]]),
      ("swagger", .string "2.0"),
      ("info", .object [("x-logo", .object []), ("title", .string "Items"), ("x-", .bool false)]),
      ("parameters", .object
        [("view", .object
          [("name", .string "view"), ("in", .string "query"), ("type", .string "string"),
            ("$ref", .string "#/parameters/view")])]),
      ("paths", .object
        [("x-paths", .object [("x-get", .string "none"), ("parameters", .array [.null])]),
          ("/items/\x7bid\x7d", .object
            [("parameters", .array
                [.object
                    [("name", .string "id"), ("in", .string "path"), ("type", .string "string"),
                      ("x-example", .number (.whole 7 (by decide)))],
                  .object [("$ref", .string "#/parameters/view")]]),
              ("get", .object
                [("x-cost", .array []),
                  ("operationId", .string "show item"),
                  ("parameters", .array
                    [.object
                        [("x-in", .string "body"), ("name", .string "trace"),
                          ("in", .string "header"), ("type", .string "string")],
                      .object
                        [("in", .string "query"), ("name", .string "view"),
                          ("type", .string "string"), ("required", .bool true)]])]),
              ("x-parameters", .string "none"),
              ("PUT", .object
                [("parameters", .array
                  [.object [("name", .string "item"), ("in", .string "body")]])])])])]

/-- All these extensions are inert. -/
theorem annotations_are_inert :
    itemsDocument.NamesDistinct ∧ annotatedItemsDocument.NamesDistinct ∧
      documentWithoutExtensions (NamesExtension ·) itemsDocument =
        documentWithoutExtensions (NamesExtension ·) annotatedItemsDocument ∧
      IdleAmong (NamesExtension ·) (pathItems itemsDocument) ∧
      IdleAmong (NamesExtension ·) (pathItems annotatedItemsDocument) ∧
      load annotatedItemsDocument = .ok itemsDocumentCatalog := by
  have distinct : annotatedItemsDocument.NamesDistinct := by
    simp [annotatedItemsDocument, Value.namesDistinct_object, Value.namesDistinct_array,
      Value.NamesDistinct.string, Value.NamesDistinct.bool, Value.NamesDistinct.null,
      Value.NamesDistinct.number]
  have same : documentWithoutExtensions (NamesExtension ·) itemsDocument =
      documentWithoutExtensions (NamesExtension ·) annotatedItemsDocument := by
    rfl
  have idle : IdleAmong (NamesExtension ·) (pathItems itemsDocument) := by
    intro path member extension
    change path ∈ [_] at member
    obtain rfl := List.mem_singleton.mp member
    cases extension
  have idleToo : IdleAmong (NamesExtension ·) (pathItems annotatedItemsDocument) := by
    intro path member extension
    change path ∈ [_, _] at member
    rcases List.mem_pair.mp member with rfl | rfl
    · exact ⟨⟨_, rfl⟩, .inr ⟨_, rfl⟩, by decide⟩
    · cases extension
  obtain ⟨alike, -⟩ :=
    extensions_are_inert_beside_paths namesDistinct_itemsDocument distinct same idle
  exact ⟨namesDistinct_itemsDocument, distinct, same, idle, idleToo,
    (alike idleToo).trans load_itemsDocument⟩

/-- A document of one path, with further members among the paths. -/
def listingDocument (others : List (String × Value)) : Value :=
  .object
    [("swagger", .string "2.0"),
      ("info", .object [("title", .string "Items")]),
      ("paths", .object
        (others ++
          [("/items", .object [("get", .object [("operationId", .string "listItems")])])]))]

/-- **An extension among the paths is read as a path item.**  Two documents agree apart from it; one
gives a catalog, the other is refused. -/
theorem extension_among_paths_is_refused :
    (listingDocument []).NamesDistinct ∧
      (listingDocument [("x-note", .bool true)]).NamesDistinct ∧
      documentWithoutExtensions (NamesExtension ·) (listingDocument []) =
        documentWithoutExtensions (NamesExtension ·) (listingDocument [("x-note", .bool true)]) ∧
      (∃ catalog, load (listingDocument []) = .ok catalog) ∧
      load (listingDocument [("x-note", .bool true)]) =
        .error (.malformed "/paths/x-note" .pathItemNotObject) := by
  refine ⟨?_, ?_, rfl, ⟨_, rfl⟩, ?_⟩
  · simp [listingDocument, Value.namesDistinct_object, Value.NamesDistinct.string]
  · simp [listingDocument, Value.namesDistinct_object, Value.NamesDistinct.string,
      Value.NamesDistinct.bool]
  · decide +kernel

end ServiceCatalog
