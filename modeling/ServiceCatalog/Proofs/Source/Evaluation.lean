import ServiceCatalog.Catalog.Basic
import ServiceCatalog.Request.Arguments
import ServiceCatalog.Source.Syntax

/-!
# What a generated source computes

A generated source is a program, and this module says what it computes.  An expression stands for a
datum in the scope of the variables around it (`Expr.evaluate`), a statement changes the scope
(`Statement.perform`), and a function takes data to a datum (`Function.apply`).

Generated sources call the libraries they are written for: they put descriptors together step by
step, fill argument bags, and wrap what may be absent.  What these calls give is stated once, for
functions by their paths (`Datum.ofCall?`) and for methods by the datum they belong to
(`Datum.ofMethod?`, and `Datum.afterMethod?` for those that change it in place).  The steps of
descriptors are those of `Catalog/Basic`.

There is no datum where a source means nothing: an unknown name, a method that the datum does not
have, or a number of arguments that does not fit.  Waiting for an answer is no computation of this
kind, so the methods of the client have no datum either.
-/

namespace ServiceCatalog.Source

set_option autoImplicit false

open ServiceCatalog.Json ServiceCatalog.Numeric

/-! ## Data -/

/-- A datum of a generated source.  A floating point number without a value is an infinity or no
number at all. -/
inductive Datum where
  | text (value : String)
  | truth (value : Bool)
  | whole (value : Int64)
  | real (value : Option Binary64)
  | json (value : Value)
  | list (items : List Datum)
  | absent
  | present (content : Datum)
  | record (fields : List (String × Datum))
  | arguments (bag : Arguments)
  | verb (verb : Verb)
  | placement (placement : Placement)
  | format (format : CollectionFormat)
  | kind (kind : ValueKind)
  | parameter (parameter : Parameter)
  | operation (operation : Operation)
  | catalog (catalog : Catalog)

/-- A whole number of 64 bits fits a document. -/
theorem fits_toInt (number : Int64) : Fits number.toInt := by
  have lower := Int64.le_toInt number
  have upper := Int64.toInt_lt number
  constructor
  · exact lower
  · omega

namespace Datum

mutual

/-- The JSON value that a datum turns into.  What may be absent turns into `null` if it is, and so
does a floating point number that JSON cannot write. -/
def toValue? : Datum → Option Value
  | text value => some (.string value)
  | truth value => some (.bool value)
  | whole value => some (.number (.whole value.toInt (fits_toInt value)))
  | real (some value) => some (.number (.real value))
  | real none => some .null
  | json value => some value
  | list items => (toValues? items).map .array
  | absent => some .null
  | present content => content.toValue?
  | _ => none

/-- The JSON values that several data turn into. -/
def toValues? : List Datum → Option (List Value)
  | [] => some []
  | item :: items => do
      let value ← item.toValue?
      let values ← toValues? items
      return value :: values

end

/-- The datum is one of a type. -/
inductive HasType : Datum → Ty → Prop where
  | text (value : String) : HasType (text value) (.named "String")
  | whole (value : Int64) : HasType (whole value) (.named "i64")
  | real (value : Option Binary64) : HasType (real value) (.named "f64")
  | truth (value : Bool) : HasType (truth value) (.named "bool")
  | json (value : Value) : HasType (json value) (.path ["serde_json", "Value"] [])
  | list {items : List Datum} {type : Ty} (all : ∀ item ∈ items, HasType item type) :
      HasType (list items) (.path ["Vec"] [type])
  | absent (type : Ty) : HasType absent (.path ["Option"] [type])
  | present {content : Datum} {type : Ty} (typed : HasType content type) :
      HasType (present content) (.path ["Option"] [type])

/-- Data that turn into values one by one turn into them together. -/
theorem exists_toValues? {items : List Datum}
    (each : ∀ item ∈ items, ∃ value, item.toValue? = some value) :
    ∃ values, toValues? items = some values := by
  induction items with
  | nil => exact ⟨[], rfl⟩
  | cons item items ih =>
      obtain ⟨value, first⟩ := each item List.mem_cons_self
      obtain ⟨values, others⟩ := ih fun other member => each other (List.mem_cons_of_mem _ member)
      exact ⟨value :: values, by simp [toValues?, first, others]⟩

/-- **A datum of a type turns into a JSON value.** -/
theorem HasType.exists_toValue? {datum : Datum} {type : Ty} (typed : datum.HasType type) :
    ∃ value, datum.toValue? = some value := by
  induction typed with
  | text value => exact ⟨_, rfl⟩
  | whole value => exact ⟨_, rfl⟩
  | real value => cases value <;> exact ⟨_, rfl⟩
  | truth value => exact ⟨_, rfl⟩
  | json value => exact ⟨_, rfl⟩
  | list _ ih =>
      obtain ⟨values, turned⟩ := exists_toValues? ih
      exact ⟨.array values, by simp [toValue?, turned]⟩
  | absent _ => exact ⟨.null, rfl⟩
  | present _ ih => exact ih

/-! ## Names of data -/

/-- The verb of a name. -/
def verbNamed? : String → Option Verb
  | "Get" => some .get
  | "Post" => some .post
  | "Put" => some .put
  | "Patch" => some .patch
  | "Delete" => some .delete
  | "Head" => some .head
  | "Options" => some .options
  | _ => none

/-- The placement of a name. -/
def placementNamed? : String → Option Placement
  | "Path" => some .path
  | "Query" => some .query
  | "Body" => some .body
  | "Header" => some .header
  | "FormData" => some .formData
  | _ => none

/-- The format of lists of a name. -/
def formatNamed? : String → Option CollectionFormat
  | "Csv" => some .csv
  | "Ssv" => some .ssv
  | "Tsv" => some .tsv
  | "Pipes" => some .pipes
  | "Multi" => some .multi
  | _ => none

/-- The kind of values of a name. -/
def kindNamed? : String → Option ValueKind
  | "String" => some .string
  | "Integer" => some .integer
  | "Number" => some .number
  | "Boolean" => some .boolean
  | "Json" => some .json
  | _ => none

/-- The datum that a path names, whatever the scope. -/
def ofPath? : List String → Option Datum
  | ["define", "HttpVerb", name] => (verbNamed? name).map verb
  | ["define", "Placement", name] => (placementNamed? name).map placement
  | ["define", "CollectionFormat", name] => (formatNamed? name).map format
  | ["define", "ValueKind", name] => (kindNamed? name).map kind
  | ["None"] => some absent
  | _ => none

/-! ## Functions and methods of the libraries -/

/-- The parameter that a datum is. -/
def parameter? : Datum → Option Parameter
  | parameter made => some made
  | _ => none

/-- What the function of a path gives. -/
def ofCall? : List String → List Datum → Option Datum
  | ["define", "ParameterDescriptor", "new"], [text name, placement place] =>
      some (parameter (.declare name place))
  | ["define", "OperationDescriptor", "new"], [text name, verb method, text path, list made] =>
      (made.mapM parameter?).map fun parameters =>
        operation (.declare name method path parameters)
  | ["define", "OperationCatalog", "new"], [text title] => some (catalog (.titled title))
  | ["define", "ValueKind", "Array"], [kind item] => some (kind (.array item))
  | ["Box", "new"], [content] => some content
  | ["Args", "new"], [] => some (arguments .empty)
  | ["Some"], [content] => some (present content)
  | _, _ => none

/-- A step of a parameter. -/
def parameterStep? (made : Parameter) : String → Datum → Option Parameter
  | "required", truth required => some (made.withRequired required)
  | "kind", kind valueKind => some (made.withKind valueKind)
  | "collection_format", format listFormat => some (made.withCollectionFormat listFormat)
  | "description", text description => some (made.withDescription description)
  | _, _ => none

/-- A step of an operation. -/
def operationStep? (made : Operation) : String → Datum → Option Operation
  | "summary", text summary => some (made.withSummary summary)
  | "description", text description => some (made.withDescription description)
  | "deprecated", truth deprecated => some (made.withDeprecated deprecated)
  | _, _ => none

/-- A step of a catalog. -/
def catalogStep? (made : Catalog) : String → Datum → Option Catalog
  | "base_url", text baseUrl => some (made.withBaseUrl baseUrl)
  | "description", text description => some (made.withDescription description)
  | "version", text version => some (made.withVersion version)
  | "operation", operation added => some (made.withOperation added)
  | _, _ => none

/-- What a method of a datum gives.  Turning a datum into the type that it has keeps it. -/
def ofMethod? : Datum → String → List Datum → Option Datum
  | parameter made, step, [given] => (parameterStep? made step given).map parameter
  | operation made, step, [given] => (operationStep? made step given).map operation
  | catalog made, step, [given] => (catalogStep? made step given).map catalog
  | datum, "into", [] => some datum
  | _, _, _ => none

/-- What a datum is after a method that changes it. -/
def afterMethod? : Datum → String → List Datum → Option Datum
  | arguments bag, "insert", [text name, given] =>
      given.toValue?.map fun value => arguments (bag.insert name value)
  | _, _, _ => none

/-- The field of a record. -/
def field? (name : String) : Datum → Option Datum
  | record fields => fields.lookup name
  | _ => none

/-- A record with another datum in a field. -/
def withField? (name : String) (content : Datum) : Datum → Option Datum
  | record fields => some (record (assign name content fields))
  | _ => none

theorem ofMethod?_into (datum : Datum) : datum.ofMethod? "into" [] = some datum := by
  cases datum <;> rfl

end Datum

/-! ## Expressions -/

/-- The variables with their data, the last bound first. -/
abbrev Scope := List (String × Datum)

mutual

/-- The datum of an expression.  A path that names a datum of a library never names a variable. -/
def Expr.evaluate (scope : Scope) : Expr → Option Datum
  | .path segments =>
      match Datum.ofPath? segments, segments with
      | some datum, _ => some datum
      | none, [name] => scope.lookup name
      | none, _ => none
  | .text value => some (.text value)
  | .truth value => some (.truth value)
  | .call (.path segments) arguments => do
      Datum.ofCall? segments (← evaluateAll scope arguments)
  | .method receiver name arguments => do
      (← receiver.evaluate scope).ofMethod? name (← evaluateAll scope arguments)
  | .field receiver name => do (← receiver.evaluate scope).field? name
  | .borrow operand => operand.evaluate scope
  | .list elements => (evaluateAll scope elements).map .list
  | .record _ fields => (evaluateFields scope fields).map .record
  | .call _ _ | .await _ | .attempt _ => none

/-- The data of several expressions. -/
def evaluateAll (scope : Scope) : List Expr → Option (List Datum)
  | [] => some []
  | expr :: exprs => do
      let datum ← expr.evaluate scope
      let data ← evaluateAll scope exprs
      return datum :: data

/-- The data of the fields of a record. -/
def evaluateFields (scope : Scope) : List (String × Expr) → Option (List (String × Datum))
  | [] => some []
  | (name, expr) :: fields => do
      let datum ← expr.evaluate scope
      let data ← evaluateFields scope fields
      return (name, datum) :: data

end

/-! ## Functions -/

/-- The scope after a statement.  Only variables, and the fields of variables, are changed. -/
def Statement.perform (scope : Scope) : Statement → Option Scope
  | .bind _ name value => do return (name, ← value.evaluate scope) :: scope
  | .assign (.field (.path [variableName]) name) value => do
      let held ← scope.lookup variableName
      let changed ← Datum.withField? name (← value.evaluate scope) held
      return ServiceCatalog.assign variableName changed scope
  | .run (.method (.path [variableName]) name arguments) => do
      let held ← scope.lookup variableName
      let changed ← held.afterMethod? name (← evaluateAll scope arguments)
      return ServiceCatalog.assign variableName changed scope
  | _ => none

/-- The variable that a parameter of a function is. -/
def Binder.variableName : Binder → String
  | .receiver _ => "self"
  | .typed name _ => name

/-- What a function gives for its arguments. -/
def Function.apply (function : Function) (arguments : List Datum) : Option Datum :=
  if function.binders.length = arguments.length then do
    let scope ← function.body.foldlM Statement.perform
      ((function.binders.map Binder.variableName).zip arguments)
    function.value.evaluate scope
  else none

/-! ## Evaluating part by part -/

section Parts

attribute [local simp] Expr.evaluate evaluateAll evaluateFields Statement.perform

variable {scope : Scope} {expr : Expr} {segments : List String} {datum : Datum}

/-- A name that names nothing of a library is a variable. -/
theorem evaluate_variable {name : String} (unnamed : Datum.ofPath? [name] = none) :
    (Expr.named name).evaluate scope = scope.lookup name := by
  simp [Expr.named, unnamed]

theorem evaluate_text (value : String) : (Expr.text value).evaluate scope = some (.text value) :=
  rfl

theorem evaluate_truth (value : Bool) : (Expr.truth value).evaluate scope = some (.truth value) :=
  rfl

theorem evaluate_call {arguments : List Expr} {data : List Datum}
    (given : evaluateAll scope arguments = some data)
    (called : Datum.ofCall? segments data = some datum) :
    (Expr.call (.path segments) arguments).evaluate scope = some datum := by
  simp [given, called]

theorem evaluate_method {name : String} {arguments : List Expr} {data : List Datum} {own : Datum}
    (start : expr.evaluate scope = some own) (given : evaluateAll scope arguments = some data)
    (called : own.ofMethod? name data = some datum) :
    (Expr.method expr name arguments).evaluate scope = some datum := by
  simp [start, given, called]

theorem evaluateAll_cons {exprs : List Expr} {data : List Datum}
    (first : expr.evaluate scope = some datum) (others : evaluateAll scope exprs = some data) :
    evaluateAll scope (expr :: exprs) = some (datum :: data) := by
  simp [first, others]

theorem evaluateAll_singleton (only : expr.evaluate scope = some datum) :
    evaluateAll scope [expr] = some [datum] :=
  evaluateAll_cons only rfl

/-- Expressions that are made for items stand for the data of the items. -/
theorem evaluateAll_map {α : Type} {items : List α} {make : α → Expr} {meant : α → Datum}
    (each : ∀ item ∈ items, (make item).evaluate scope = some (meant item)) :
    evaluateAll scope (items.map make) = some (items.map meant) := by
  induction items with
  | nil => rfl
  | cons item items ih =>
      have others := ih fun other member => each other (List.mem_cons_of_mem _ member)
      exact evaluateAll_cons (each item List.mem_cons_self) others

/-- Fields that are made for items stand for the data of the items. -/
theorem evaluateFields_map {α : Type} {items : List α} {name : α → String} {make : α → Expr}
    {meant : α → Datum} (each : ∀ item ∈ items, (make item).evaluate scope = some (meant item)) :
    evaluateFields scope (items.map fun item => (name item, make item)) =
      some (items.map fun item => (name item, meant item)) := by
  induction items with
  | nil => rfl
  | cons item items ih =>
      have first := each item List.mem_cons_self
      have others := ih fun other member => each other (List.mem_cons_of_mem _ member)
      simp [first, others]

theorem evaluate_record {path : List String} {fields : List (String × Expr)}
    {data : List (String × Datum)} (given : evaluateFields scope fields = some data) :
    (Expr.record path fields).evaluate scope = some (.record data) := by
  simp [given]

theorem evaluate_field {name : String} {fields : List (String × Datum)}
    (start : expr.evaluate scope = some (.record fields)) (held : fields.lookup name = some datum) :
    (Expr.field expr name).evaluate scope = some datum := by
  simp [start, Datum.field?, held]

/-! ## Running step by step -/

theorem perform_bind {mutable : Bool} {name : String} (valued : expr.evaluate scope = some datum) :
    (Statement.bind mutable name expr).perform scope = some ((name, datum) :: scope) := by
  simp [valued]

/-- Assigning to a field of a variable changes the record that the variable holds. -/
theorem perform_assign {variableName name : String} {fields : List (String × Datum)}
    (held : scope.lookup variableName = some (.record fields))
    (valued : expr.evaluate scope = some datum) :
    (Statement.assign (.field (.named variableName) name) expr).perform scope =
      some (ServiceCatalog.assign variableName
        (.record (ServiceCatalog.assign name datum fields)) scope) := by
  simp [Expr.named, held, valued, Datum.withField?]

/-- A method that changes the datum of a variable changes the variable. -/
theorem perform_run {variableName name : String} {arguments : List Expr} {data : List Datum}
    {own : Datum} (held : scope.lookup variableName = some own)
    (given : evaluateAll scope arguments = some data)
    (changed : own.afterMethod? name data = some datum) :
    (Statement.run (.method (.named variableName) name arguments)).perform scope =
      some (ServiceCatalog.assign variableName datum scope) := by
  simp [Expr.named, held, given, changed]

/-- A function gives the datum of its last expression in the scope that its statements leave. -/
theorem Function.apply_eq_some {function : Function} {arguments : List Datum}
    (arity : function.binders.length = arguments.length)
    (ran : function.body.foldlM Statement.perform
      ((function.binders.map Binder.variableName).zip arguments) = some scope)
    (valued : function.value.evaluate scope = some datum) :
    function.apply arguments = some datum := by
  simp [Function.apply, arity, ran, valued]

end Parts

end ServiceCatalog.Source
