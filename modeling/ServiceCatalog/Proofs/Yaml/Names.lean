import Mathlib.Tactic.SplitIfs
import ServiceCatalog.Proofs.Json.Names
import ServiceCatalog.Yaml.Resolution

/-!
# Names in the values of YAML documents

A mapping may give a key twice.  Its value is built by assignments like that of a JSON object, so a
value that is read from a YAML text has distinct names as well (`namesDistinct_of_parse?`), though
an alias may put one node in many places.
-/

namespace ServiceCatalog.Yaml

set_option autoImplicit false

open ServiceCatalog.Json

/-! ## Scalars -/

theorem namesDistinct_of_integerValue? {number : Int} {value : Value}
    (read : integerValue? number = some value) : value.NamesDistinct := by
  obtain ⟨fitting, -, rfl⟩ := Option.map_eq_some_iff.mp read
  exact .number fitting

theorem namesDistinct_of_realWord (word : RealWord) : word.value.NamesDistinct := by
  cases word with
  | finite number => exact .number _
  | notFinite => exact .null

theorem namesDistinct_of_plainValue? {text : String} {value : Value}
    (read : plainValue? text = some value) : value.NamesDistinct := by
  unfold plainValue? at read
  split at read
  · cases read
    exact .null
  · split at read
    · cases read
      exact .bool _
    · split at read
      · exact namesDistinct_of_integerValue? read
      · split at read
        · cases read
          exact .string text
        · split at read
          · cases read
            exact namesDistinct_of_realWord _
          · cases read
            exact .string text

theorem namesDistinct_of_taggedValue? {tag : TagText} {plain : Bool} {text : String} {value : Value}
    (read : taggedValue? tag plain text = some value) : value.NamesDistinct := by
  unfold taggedValue? at read
  split_ifs at read
  · obtain ⟨flag, -, rfl⟩ := Option.map_eq_some_iff.mp read
    exact .bool flag
  · obtain ⟨number, -, written⟩ := Option.bind_eq_some_iff.mp read
    exact namesDistinct_of_integerValue? written
  · obtain ⟨word, -, rfl⟩ := Option.map_eq_some_iff.mp read
    exact namesDistinct_of_realWord word
  · cases read
    exact .null
  · exact namesDistinct_of_plainValue? read
  · cases read
    exact .string text

theorem namesDistinct_of_scalarValue? {tag : Option TagText} {plain : Bool} {text : String}
    {value : Value} (read : scalarValue? tag plain text = some value) : value.NamesDistinct := by
  unfold scalarValue? at read
  split at read
  · exact namesDistinct_of_taggedValue? read
  · split_ifs at read
    · exact namesDistinct_of_plainValue? read
    · cases read
      exact .string text

/-! ## Nodes -/

/-- Whatever the items of a list are resolved to has a property that each of them is resolved to
with. -/
theorem forall_mem_of_mapM {α β : Type} {P : β → Prop} {f : α → Resolving β}
    (each : ∀ {item left result rest}, f item left = some (result, rest) → P result)
    {items : List α} {results : List β} {left rest : Nat}
    (resolved : items.mapM f left = some (results, rest)) : ∀ result ∈ results, P result := by
  induction items generalizing results left with
  | nil =>
      cases resolved
      simp
  | cons item items ih =>
      rw [List.mapM_cons] at resolved
      obtain ⟨⟨first, middle⟩, resolvedFirst, others⟩ := Option.bind_eq_some_iff.mp resolved
      obtain ⟨⟨further, last⟩, resolvedFurther, same⟩ := Option.bind_eq_some_iff.mp others
      cases same
      exact List.forall_mem_cons.mpr ⟨each resolvedFirst, ih resolvedFurther⟩

/-- A scalar is resolved to a value of distinct names, at any depth. -/
theorem namesDistinct_of_lift {tag : Option TagText} {plain : Bool} {text : String}
    {left rest : Nat} {value : Value}
    (resolved : (if asksForType tag then (failure : Resolving Value)
      else StateT.lift (scalarValue? tag plain text)) left = some (value, rest)) :
    value.NamesDistinct := by
  split_ifs at resolved
  · cases resolved
  · obtain ⟨read, written, same⟩ := Option.bind_eq_some_iff.mp resolved
    cases same
    exact namesDistinct_of_scalarValue? written

/-- A node is resolved to a value of distinct names, whatever aliases stand for. -/
theorem namesDistinct_of_resolve {anchored : List (Nat × Node)} {depth : Nat} {node : Node}
    {left rest : Nat} {value : Value}
    (resolved : resolve anchored depth node left = some (value, rest)) : value.NamesDistinct := by
  induction depth generalizing node left rest value with
  | zero =>
      unfold resolve at resolved
      obtain ⟨⟨followed, behind⟩, -, resolvedNode⟩ := Option.bind_eq_some_iff.mp resolved
      cases followed with
      | scalar properties plain text => exact namesDistinct_of_lift resolvedNode
      | _ => cases resolvedNode
  | succ depth ih =>
      unfold resolve at resolved
      obtain ⟨⟨followed, behind⟩, -, resolvedNode⟩ := Option.bind_eq_some_iff.mp resolved
      cases followed with
      | scalar properties plain text => exact namesDistinct_of_lift resolvedNode
      | sequence properties items =>
          dsimp only at resolvedNode
          split_ifs at resolvedNode
          · cases resolvedNode
          · obtain ⟨⟨values, last⟩, resolvedItems, same⟩ := Option.bind_eq_some_iff.mp resolvedNode
            cases same
            exact .array (forall_mem_of_mapM ih resolvedItems)
      | mapping properties entries =>
          dsimp only at resolvedNode
          split_ifs at resolvedNode
          · cases resolvedNode
          · obtain ⟨⟨members, last⟩, resolvedEntries, same⟩ :=
              Option.bind_eq_some_iff.mp resolvedNode
            cases same
            refine Value.namesDistinct_ofMembers (forall_mem_of_mapM ?_ resolvedEntries)
            intro entry left member rest resolvedEntry
            obtain ⟨⟨key, behindKey⟩, -, resolvedRest⟩ := Option.bind_eq_some_iff.mp resolvedEntry
            obtain ⟨⟨found, behindValue⟩, resolvedValue, same⟩ :=
              Option.bind_eq_some_iff.mp resolvedRest
            cases same
            exact ih resolvedValue
      | _ => cases resolvedNode

/-- **A value that is read from a text has distinct names.** -/
theorem namesDistinct_of_parse? {text : String} {value : Value} (read : parse? text = some value) :
    value.NamesDistinct := by
  obtain ⟨root, -, resolved⟩ := Option.bind_eq_some_iff.mp read
  cases root with
  | none =>
      cases resolved
      exact .null
  | some node =>
      obtain ⟨⟨found, left⟩, run, rfl⟩ := Option.map_eq_some_iff.mp resolved
      exact namesDistinct_of_resolve run

end ServiceCatalog.Yaml
