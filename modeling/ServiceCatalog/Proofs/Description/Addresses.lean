import Mathlib.Data.Prod.Basic
import ServiceCatalog.Proofs.Description.LoadedCatalog
import ServiceCatalog.Proofs.Overriding

/-!
# The addresses of operations

The address of an operation is its verb and its path (`Operation.address`).  No rule for catalogs is
about addresses: names have to differ, and two operations may have different identifiers and one
address all the same.

In a document an operation entry has a place of its own, the template of its path and its name in
the path item (`nodup_places`).  But verbs are read in any mixture of capital and small letters, so
that an address says no more than the place with the name in small letters (`folded`).  Addresses
repeat therefore exactly where a path item spells one verb in several ways
(`addresses_repeat_by_spelling`), which it may (`one_address_twice_is_accepted`).
-/

namespace ServiceCatalog

set_option autoImplicit false

open ServiceCatalog.Json ServiceCatalog.Description

/-- The address of an operation. -/
def Operation.address (operation : Operation) : Verb × String := (operation.verb, operation.path)

/-- Two names are different spellings of one text: they differ in capital and small letters of the
basic range, and in nothing else. -/
def OtherSpelling (first second : String) : Prop :=
  first ≠ second ∧ first.toList.map Char.toLower = second.toList.map Char.toLower

instance (first second : String) : Decidable (OtherSpelling first second) :=
  inferInstanceAs (Decidable (_ ∧ _))

/-- Verbs have different names. -/
theorem Verb.eq_of_lower_eq {first second : Verb}
    (same : first.lower.toList = second.lower.toList) : first = second := by
  revert same
  cases first <;> cases second <;> decide

namespace Description

/-! ## Places -/

namespace OperationEntry

/-- Where an operation entry stands: the template of its path, and its name there. -/
def place (entry : OperationEntry) : String × String := (entry.template, entry.name)

/-- The place of an entry, with its name in small letters. -/
def folded (entry : OperationEntry) : String × List Char :=
  (entry.template, entry.name.toList.map Char.toLower)

end OperationEntry

theorem nodup_pathItems {root : Value} (distinct : root.NamesDistinct) :
    ((pathItems root).map Prod.fst).Nodup := by
  unfold pathItems
  cases written : root.member? "paths" with
  | none => exact List.nodup_nil
  | some paths => exact (distinct.member written).nodup_members

theorem nodup_places_of_item {item : Value} (distinct : item.NamesDistinct) (template : String) :
    ((itemEntries template item).map OperationEntry.place).Nodup := by
  have names : ((item.members.filter fun member => NamesOperation member.1).map
      Prod.fst).Nodup := distinct.nodup_members.sublist (List.filter_sublist.map _)
  have placed := names.map (Prod.mk_right_injective template)
  rw [List.map_map] at placed
  rw [itemEntries, List.map_map]
  exact placed

/-- **Every operation entry of a document has a place of its own.** -/
theorem nodup_places {root : Value} (distinct : root.NamesDistinct) :
    ((operationEntries root).map OperationEntry.place).Nodup := by
  rw [operationEntries, List.map_flatMap, List.nodup_flatMap]
  refine ⟨fun member listed =>
    nodup_places_of_item (namesDistinct_of_pathItem distinct listed) member.1, ?_⟩
  have templates := List.pairwise_map.mp (nodup_pathItems distinct)
  refine templates.imp fun {one other} differ => List.disjoint_left.mpr ?_
  rintro _ memberOne memberOther
  obtain ⟨here, inOne, rfl⟩ := List.mem_map.mp memberOne
  obtain ⟨there, inOther, same⟩ := List.mem_map.mp memberOther
  have template := (Prod.mk.inj same).1
  rw [(eq_of_mem_itemEntries inOne).1, (eq_of_mem_itemEntries inOther).1] at template
  exact differ template.symm

/-- **Folded places repeat where a path item spells a name in two ways.** -/
theorem folded_eq_iff {root : Value} (distinct : root.NamesDistinct) {here there : OperationEntry}
    (memberHere : here ∈ operationEntries root) (memberThere : there ∈ operationEntries root)
    (differ : here ≠ there) :
    here.folded = there.folded ↔ here.template = there.template ∧ here.item = there.item ∧
      OtherSpelling here.name there.name := by
  constructor
  · intro same
    obtain ⟨template, spelled⟩ := Prod.mk.inj same
    refine ⟨template, ?_, fun name => differ ?_, spelled⟩
    · have listedHere := (mem_operationEntries.mp memberHere).1
      have listedThere := (mem_operationEntries.mp memberThere).1
      exact congrArg Prod.snd
        (List.inj_on_of_nodup_map (nodup_pathItems distinct) listedHere listedThere template)
    · exact List.inj_on_of_nodup_map (nodup_places distinct) memberHere memberThere
        (Prod.ext template name)
  · rintro ⟨template, -, -, spelled⟩
    exact Prod.ext template spelled

/-- No folded place repeats if no path item spells a name in two ways. -/
theorem nodup_folded_iff {root : Value} (distinct : root.NamesDistinct) :
    ((operationEntries root).map OperationEntry.folded).Nodup ↔
      ∀ here ∈ operationEntries root, ∀ there ∈ operationEntries root,
        here.template = there.template → ¬ OtherSpelling here.name there.name := by
  rw [List.nodup_map_iff_inj_on (nodup_places distinct).of_map]
  constructor
  · intro injective here memberHere there memberThere template other
    have same := injective here memberHere there memberThere (Prod.ext template other.2)
    exact other.1 (congrArg OperationEntry.name same)
  · intro apart here memberHere there memberThere same
    by_contra differ
    obtain ⟨template, -, other⟩ := (folded_eq_iff distinct memberHere memberThere differ).mp same
    exact apart here memberHere there memberThere template other

/-! ## Addresses -/

/-- Operations have the same address as others do if the entries that they stand for have the same
folded place. -/
theorem relatesKeys_standsFor :
    RelatesKeys (fun (entry : OperationEntry) (operation : Operation) => operation.StandsFor entry)
      OperationEntry.folded Operation.address
      fun (template, name) (verb, path) => template = path ∧ name = verb.lower.toList where
  unique := by
    constructor
    · rintro ⟨_, _⟩ ⟨verb, path⟩ ⟨_, _⟩ ⟨rfl, rfl⟩ ⟨rfl, rfl⟩
      rfl
    · rintro ⟨_, _⟩ ⟨first, _⟩ ⟨second, _⟩ ⟨rfl, rfl⟩ ⟨rfl, same⟩
      rw [Verb.eq_of_lower_eq same]
  keys := fun stands => ⟨stands.path.symm, stands.verb⟩

end Description

/-- **Addresses repeat where a path item spells a verb in two ways**, and nowhere else.

The operations of a catalog that was loaded stand for the operation entries of its document in
order.  Two of them have the same address exactly if their entries stand in the same path item,
under names that differ in capital and small letters only.  So all addresses are different exactly
if no path item has two such entries. -/
theorem addresses_repeat_by_spelling {root : Value} {catalog : Catalog}
    (distinct : root.NamesDistinct) (loaded : load root = .ok catalog) :
    (∀ (i j : Nat) (first second : Operation), i ≠ j →
      catalog.operations[i]? = some first → catalog.operations[j]? = some second →
      ∃ here there, (operationEntries root)[i]? = some here ∧
        (operationEntries root)[j]? = some there ∧
        first.StandsFor here ∧ second.StandsFor there ∧
        (first.address = second.address ↔ here.template = there.template ∧
          here.item = there.item ∧ OtherSpelling here.name there.name)) ∧
    ((catalog.operations.map Operation.address).Nodup ↔
      ∀ here ∈ operationEntries root, ∀ there ∈ operationEntries root,
        here.template = there.template → ¬ OtherSpelling here.name there.name) := by
  obtain ⟨described, -⟩ := describes_of_load distinct loaded
  have stand : List.Forall₂ (fun entry operation => operation.StandsFor entry)
      (operationEntries root) catalog.operations :=
    forall₂_imp_of_mem described fun entry member operation describes =>
      standsFor_of_describes (namesDistinct_of_entry distinct member).2 describes
  constructor
  · intro i j first second apart one other
    obtain ⟨here, atHere, standsFirst⟩ := exists_of_getElem?_right stand one
    obtain ⟨there, atThere, standsSecond⟩ := exists_of_getElem?_right stand other
    refine ⟨here, there, atHere, atThere, standsFirst, standsSecond, ?_⟩
    have differ : here ≠ there := by
      rintro rfl
      obtain ⟨inRange, -⟩ := List.getElem?_eq_some_iff.mp atHere
      exact apart ((List.getElem?_inj inRange (nodup_places distinct).of_map).mp
        (atHere.trans atThere.symm))
    rw [← relatesKeys_standsFor.eq_iff standsFirst standsSecond]
    exact folded_eq_iff distinct (List.mem_of_getElem? atHere) (List.mem_of_getElem? atThere) differ
  · rw [← relatesKeys_standsFor.nodup_iff stand]
    exact nodup_folded_iff distinct

/-- In the document of items one path item has two operations, under the names `get` and `PUT`.  So
their addresses are different. -/
theorem addresses_of_items :
    itemsDocument.NamesDistinct ∧ load itemsDocument = .ok itemsDocumentCatalog ∧
      (itemsDocumentCatalog.operations.map Operation.address).Nodup := by
  refine ⟨namesDistinct_itemsDocument, load_itemsDocument, ?_⟩
  obtain ⟨-, addresses⟩ :=
    addresses_repeat_by_spelling namesDistinct_itemsDocument load_itemsDocument
  exact addresses.mpr (by decide +kernel)

/-! ## A verb in two spellings -/

/-- A document with a path item that has one verb in two spellings. -/
def respelledDocument : Value :=
  .object
    [("swagger", .string "2.0"),
      ("info", .object [("title", .string "Items")]),
      ("paths", .object
        [("/items", .object
          [("get", .object [("operationId", .string "a")]),
            ("GET", .object [("operationId", .string "b")])])])]

/-- **One address twice is accepted**: a document from which a catalog is loaded, although both its
operations have the same verb and the same path. -/
theorem one_address_twice_is_accepted :
    respelledDocument.NamesDistinct ∧
      ∃ first second : Operation, load respelledDocument =
          .ok ((Catalog.titled "Items").withOperation first |>.withOperation second) ∧
        first.name = "a" ∧ second.name = "b" ∧ first.address = second.address := by
  refine ⟨?_, .declare "a" .get "/items" [], .declare "b" .get "/items" [], ?_, rfl, rfl, rfl⟩
  · simp [respelledDocument, Value.namesDistinct_object, Value.NamesDistinct.string]
  · decide +kernel

end ServiceCatalog
