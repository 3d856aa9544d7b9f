import ServiceCatalog.Description.Loading
import ServiceCatalog.Proofs.Overriding
import ServiceCatalog.Proofs.Success

/-!
# Merging the parameters of path item and operation

The parameters of an operation are put together one after another.  What comes out can be said at
once (`merged`): every parameter of the path item stands in its place, or the last parameter of the
operation that has its key does, and behind them stand the further parameters of the operation.

Putting together succeeds exactly if no two parameters of the path item have the same key, and no
two of the further ones have (`loadParameters_eq_ok`).  Nothing is asked of the parameters of the
operation that take the place of one of the path item, so their keys may repeat.

Which parameter a definition declares does not depend on where it stands (`Declares`); only the
wording of an error does.
-/

namespace ServiceCatalog

set_option autoImplicit false

/-- A placement is read from its name alone. -/
theorem Placement.ofText?_eq_some {text : String} {placement : Placement} :
    Placement.ofText? text = some placement ↔ text = placement.name := by
  constructor
  · intro found
    have named := List.find?_some found
    exact (beq_iff_eq.mp named).symm
  · rintro rfl
    cases placement <;> decide

/-- A format of lists is read from its name alone. -/
theorem CollectionFormat.ofText?_eq_some {text : String} {format : CollectionFormat} :
    CollectionFormat.ofText? text = some format ↔ text = format.name := by
  constructor
  · intro found
    have named := List.find?_some found
    exact (beq_iff_eq.mp named).symm
  · rintro rfl
    cases format <;> decide

namespace Description

open ServiceCatalog.Json

/-! ## Adding parameters one after another -/

theorem hasKey_eq_true {parameters : List Parameter} {parameter : Parameter} :
    hasKey parameters parameter = true ↔ parameter.key ∈ parameters.map Parameter.key := by
  simp [hasKey]

/-- A parameter is added if its key is new. -/
theorem addUnique_eq_ok {operation : String} {parameters result : List Parameter}
    {parameter : Parameter} :
    addUnique operation parameters parameter = .ok result ↔
      parameter.key ∉ parameters.map Parameter.key ∧ parameters ++ [parameter] = result := by
  simp only [addUnique, ← hasKey_eq_true]
  split_ifs with known <;> simp [known]

/-- Parameters are added one after another if no key repeats. -/
theorem foldlM_addUnique_eq_ok {operation : String} {gathered parameters result : List Parameter}
    (distinct : (gathered.map Parameter.key).Nodup) :
    parameters.foldlM (addUnique operation) gathered = .ok result ↔
      ((gathered ++ parameters).map Parameter.key).Nodup ∧ gathered ++ parameters = result := by
  induction parameters generalizing gathered with
  | nil => simp [distinct, pure, Except.pure]
  | cons parameter parameters ih =>
      have shift : gathered ++ parameter :: parameters = (gathered ++ [parameter]) ++ parameters := by
        simp
      rw [List.foldlM_cons, bind_eq_ok, shift]
      constructor
      · rintro ⟨_, added, rest⟩
        obtain ⟨new, rfl⟩ := addUnique_eq_ok.mp added
        exact (ih (nodup_map_concat distinct new)).mp rest
      · rintro ⟨all, same⟩
        obtain ⟨distinctToo, new⟩ := nodup_of_map_append all
        exact ⟨_, addUnique_eq_ok.mpr ⟨new, rfl⟩, (ih distinctToo).mpr ⟨all, same⟩⟩

/-- Where keys differ, the first parameter with a key is the only one. -/
theorem replaceFirst_eq_map {parameter : Parameter} {parameters : List Parameter}
    (distinct : (parameters.map Parameter.key).Nodup) :
    replaceFirst parameter parameters =
      parameters.map fun other => if parameter.key = other.key then parameter else other := by
  induction parameters with
  | nil => rfl
  | cons other rest ih =>
      obtain ⟨unlike, distinctRest⟩ := List.nodup_cons.mp distinct
      by_cases same : other.key = parameter.key
      · have unchanged : (rest.map fun other =>
            if parameter.key = other.key then parameter else other) = rest := by
          refine (List.map_congr_left fun later member => ?_).trans (List.map_id rest)
          have differs : parameter.key ≠ later.key := fun equal =>
            unlike (same ▸ equal ▸ List.mem_map_of_mem member)
          simp [differs]
        simp [replaceFirst, same, unchanged]
      · simp [replaceFirst, same, Ne.symm same, ih distinctRest]

/-- A parameter of the operation takes the place of the inherited one with its key. -/
theorem addOwn_of_known {operation : String} {inherited : List Parameter} {parameter : Parameter}
    (distinct : (inherited.map Parameter.key).Nodup)
    (known : parameter.key ∈ inherited.map Parameter.key) (own : List Parameter) :
    Merge.addOwn operation ⟨inherited, own⟩ parameter =
      .ok ⟨inherited.map fun other => if parameter.key = other.key then parameter else other,
        own⟩ := by
  rw [Merge.addOwn, if_pos (hasKey_eq_true.mpr known), replaceFirst_eq_map distinct]

/-- A parameter of the operation that overrides nothing is added, if no other has its key. -/
theorem addOwn_of_fresh {operation : String} {inherited own : List Parameter}
    {parameter : Parameter} {next : Merge} (fresh : parameter.key ∉ inherited.map Parameter.key) :
    Merge.addOwn operation ⟨inherited, own⟩ parameter = .ok next ↔
      parameter.key ∉ own.map Parameter.key ∧ next = ⟨inherited, own ++ [parameter]⟩ := by
  rw [Merge.addOwn, if_neg (hasKey_eq_true.not.mpr fresh), map_eq_ok]
  constructor
  · rintro ⟨_, added, rfl⟩
    obtain ⟨new, rfl⟩ := addUnique_eq_ok.mp added
    exact ⟨new, rfl⟩
  · rintro ⟨new, rfl⟩
    exact ⟨_, addUnique_eq_ok.mpr ⟨new, rfl⟩, rfl⟩

/-- **What the parameters of an operation do to those of its path item.**  Adding them succeeds
exactly if those that override nothing have different keys. -/
theorem foldlM_addOwn_eq_ok {operation : String} {inherited own parameters : List Parameter}
    {merge : Merge} (distinct : (inherited.map Parameter.key).Nodup)
    (distinctOwn : (own.map Parameter.key).Nodup) :
    parameters.foldlM (Merge.addOwn operation) ⟨inherited, own⟩ = .ok merge ↔
      ((own ++ further Parameter.key inherited parameters).map Parameter.key).Nodup ∧
        merge = ⟨inherited.map (overridden Parameter.key parameters),
          own ++ further Parameter.key inherited parameters⟩ := by
  induction parameters generalizing inherited own with
  | nil =>
      have unchanged : inherited.map (overridden Parameter.key []) = inherited :=
        List.map_id inherited
      simp [unchanged, further, distinctOwn, pure, Except.pure, eq_comm]
  | cons parameter parameters ih =>
      rw [List.foldlM_cons, bind_eq_ok]
      by_cases known : parameter.key ∈ inherited.map Parameter.key
      · -- The parameter overrides an inherited one, and the inherited keys stay the same.
        have keys : (inherited.map fun other =>
            if parameter.key = other.key then parameter else other).map Parameter.key =
              inherited.map Parameter.key := by
          rw [List.map_map]
          refine List.map_congr_left fun other _ => ?_
          by_cases same : parameter.key = other.key <;> simp [same]
        have twice : (inherited.map fun other =>
            if parameter.key = other.key then parameter else other).map
              (overridden Parameter.key parameters) =
            inherited.map (overridden Parameter.key (parameter :: parameters)) := by
          rw [List.map_map]
          refine List.map_congr_left fun other _ => ?_
          rw [overridden_cons]
          rfl
        have rest := ih (keys.symm ▸ distinct) distinctOwn
        rw [twice, further_congr keys] at rest
        simp only [addOwn_of_known distinct known, Except.ok.injEq, exists_eq_left',
          further_cons_of_known parameters known, rest]
      · -- The parameter is a further one, and must differ from those before it.
        have shift : own ++ parameter :: further Parameter.key inherited parameters =
            (own ++ [parameter]) ++ further Parameter.key inherited parameters := by
          simp
        simp only [addOwn_of_fresh known, further_cons_of_fresh parameters known,
          map_overridden_cons_of_fresh known, shift]
        constructor
        · rintro ⟨_, ⟨new, rfl⟩, rest⟩
          exact (ih distinct (nodup_map_concat distinctOwn new)).mp rest
        · rintro ⟨all, same⟩
          obtain ⟨distinctToo, new⟩ := nodup_of_map_append all
          exact ⟨_, ⟨new, rfl⟩, (ih distinct distinctToo).mpr ⟨all, same⟩⟩

/-! ## Parameters that a definition declares -/

/-- What is written for a parameter describes a parameter of an operation. -/
structure WrittenParameter.Describes (written : WrittenParameter) (parameter : Parameter) :
    Prop where
  name : written.name = some parameter.name
  placement : written.placement = some parameter.placement.name
  required : parameter.required = (written.required || parameter.placement == .path)
  kind : parameter.kind = declaredKind parameter.placement written
  collectionFormat :
    written.collectionFormat = none ∧ parameter.collectionFormat = .standard ∨
      written.collectionFormat = some parameter.collectionFormat.name
  description : parameter.description = written.description

theorem demand_eq_ok {α : Type} {location name : String} {written : Option α} {value : α} :
    demand location name written = .ok value ↔ written = some value := by
  cases written <;> simp [demand]

theorem declaredPlacement_eq_ok {operation parameter text : String} {placement : Placement} :
    declaredPlacement operation parameter text = .ok placement ↔ text = placement.name := by
  rw [← Placement.ofText?_eq_some, declaredPlacement]
  cases Placement.ofText? text <;> simp

theorem declaredFormat_eq_ok {location : String} {written : Option String}
    {format : CollectionFormat} :
    declaredFormat location written = .ok format ↔
      written = none ∧ format = .standard ∨ written = some format.name := by
  cases written with
  | none => simp [declaredFormat, eq_comm]
  | some text =>
      have read : CollectionFormat.ofText? text = some format ↔ text = format.name :=
        CollectionFormat.ofText?_eq_some
      cases found : CollectionFormat.ofText? text <;> simp_all [declaredFormat]

/-- Where a parameter is written does not matter to what it describes. -/
theorem describedParameter_eq_ok {operation location : String} {written : WrittenParameter}
    {parameter : Parameter} :
    describedParameter operation location written = .ok parameter ↔ written.Describes parameter := by
  simp only [describedParameter, bind_eq_ok, demand_eq_ok, declaredPlacement_eq_ok,
    declaredFormat_eq_ok]
  constructor
  · rintro ⟨name, named, text, placed, placement, rfl, format, listed, same⟩
    cases same
    exact ⟨named, placed, rfl, rfl, listed, rfl⟩
  · intro describes
    refine ⟨_, describes.name, _, describes.placement, _, rfl, _, describes.collectionFormat, ?_⟩
    obtain ⟨name, placement, required, kind, format, description⟩ := parameter
    have := describes.required
    have := describes.kind
    have := describes.description
    simp_all [Parameter.declare, Parameter.withRequired, Parameter.withKind,
      Parameter.withCollectionFormat, pure, Except.pure]

/-- The parameter that a definition declares, or the shared one that it refers to, wherever it
stands in the document. -/
def Declares (shared : List (String × Value)) (written : Value) (parameter : Parameter) : Prop :=
  ∃ resolved read, definition shared written = .ok resolved ∧
    WrittenParameter.decoder resolved = .ok read ∧ read.Describes parameter

theorem loadParameter_eq_ok {operation location : String} {shared : List (String × Value)}
    {written : Value} {parameter : Parameter} :
    loadParameter operation shared location written = .ok parameter ↔
      Declares shared written parameter := by
  simp only [loadParameter, readAt, bind_eq_ok, mapError_eq_ok, describedParameter_eq_ok, Declares,
    exists_and_left]

/-! ## All parameters of an operation -/

/-- Loading a list and adding what is loaded can be taken apart. -/
theorem loadInto_eq_ok {σ : Type} {load : Nat → Value → Except CatalogError Parameter}
    {add : σ → Parameter → Except CatalogError σ} {declares : Value → Parameter → Prop}
    (loads : ∀ index written parameter,
      load index written = .ok parameter ↔ declares written parameter)
    (index : Nat) {definitions : List Value} {gathered result : σ} :
    loadInto load add index definitions gathered = .ok result ↔
      ∃ parameters, List.Forall₂ declares definitions parameters ∧
        parameters.foldlM add gathered = .ok result := by
  induction definitions generalizing index gathered with
  | nil => simp [loadInto, pure, Except.pure]
  | cons definition definitions ih =>
      simp only [loadInto, bind_eq_ok, loads, ih, List.forall₂_cons_left_iff]
      constructor
      · rintro ⟨parameter, declared, next, added, parameters, all, rest⟩
        exact ⟨parameter :: parameters, ⟨parameter, parameters, declared, all, rfl⟩,
          by rw [List.foldlM_cons]; exact bind_eq_ok.mpr ⟨next, added, rest⟩⟩
      · rintro ⟨_, ⟨parameter, parameters, declared, all, rfl⟩, folded⟩
        rw [List.foldlM_cons] at folded
        obtain ⟨next, added, rest⟩ := bind_eq_ok.mp folded
        exact ⟨parameter, declared, next, added, parameters, all, rest⟩

/-- Definitions of a path item and of an operation declare the parameters of the operation.  Those
of the path item have different keys, and so have those of the operation that override nothing. -/
def DeclareMerged (shared : List (String × Value)) (inherited own : List Value)
    (result : List Parameter) : Prop :=
  ∃ pathLevel operationLevel,
    List.Forall₂ (Declares shared) inherited pathLevel ∧
    List.Forall₂ (Declares shared) own operationLevel ∧
    (pathLevel.map Parameter.key).Nodup ∧
    ((further Parameter.key pathLevel operationLevel).map Parameter.key).Nodup ∧
    result = merged Parameter.key pathLevel operationLevel

/-- **When the parameters of an operation can be put together, and what they are then.** -/
theorem loadParameters_eq_ok {operation pathLocation operationLocation : String}
    {shared : List (String × Value)} {inherited own : List Value} {result : List Parameter} :
    loadParameters operation shared pathLocation inherited operationLocation own = .ok result ↔
      DeclareMerged shared inherited own result := by
  have none : (([] : List Parameter).map Parameter.key).Nodup := List.nodup_nil
  have loads : ∀ location index written parameter,
      loadParameter operation shared (parameterLocation location index) written = .ok parameter ↔
        Declares shared written parameter := fun _ _ _ _ => loadParameter_eq_ok
  constructor
  · intro loaded
    obtain ⟨shares, first, loaded⟩ := bind_eq_ok.mp loaded
    obtain ⟨merge, second, same⟩ := bind_eq_ok.mp loaded
    obtain ⟨pathLevel, declared, gathered⟩ := (loadInto_eq_ok (loads pathLocation) 0).mp first
    obtain ⟨distinct, rfl⟩ := (foldlM_addUnique_eq_ok none).mp gathered
    obtain ⟨operationLevel, declaredOwn, added⟩ :=
      (loadInto_eq_ok (loads operationLocation) 0).mp second
    obtain ⟨distinctFurther, rfl⟩ := (foldlM_addOwn_eq_ok distinct none).mp added
    cases same
    exact ⟨pathLevel, operationLevel, declared, declaredOwn, distinct, distinctFurther, rfl⟩
  · rintro ⟨pathLevel, operationLevel, declared, declaredOwn, distinct, distinctFurther, rfl⟩
    have gathered : pathLevel.foldlM (addUnique operation) [] = .ok pathLevel :=
      (foldlM_addUnique_eq_ok none).mpr ⟨distinct, rfl⟩
    have added : operationLevel.foldlM (Merge.addOwn operation) ⟨pathLevel, []⟩ =
        .ok ⟨pathLevel.map (overridden Parameter.key operationLevel),
          further Parameter.key pathLevel operationLevel⟩ :=
      (foldlM_addOwn_eq_ok distinct none).mpr ⟨distinctFurther, rfl⟩
    have first := (loadInto_eq_ok (loads pathLocation) 0).mpr ⟨pathLevel, declared, gathered⟩
    have second := (loadInto_eq_ok (loads operationLocation) 0).mpr
      ⟨operationLevel, declaredOwn, added⟩
    exact bind_eq_ok.mpr ⟨pathLevel, first, bind_eq_ok.mpr ⟨_, second, rfl⟩⟩

end Description

end ServiceCatalog
