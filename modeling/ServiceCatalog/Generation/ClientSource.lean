import ServiceCatalog.Generation.ParamsSource
import ServiceCatalog.Text.Blank

/-!
# The source of the client

The generated client wraps a client of the runtime library and has one method for each operation.
A method takes the structure of the parameters and the options of a call, and answers with data of
the type that is asked for.
-/

namespace ServiceCatalog.Generation

set_option autoImplicit false

open Source

/-! ## What every client has -/

/-- A result that may be an error. -/
def resultType (value error : String) : Ty := .path ["Result"] [.named value, .named error]

/-- A shared value of a trait. -/
def sharedTrait (name : String) : Ty := .path ["Arc"] [.dynamic (.named name)]

/-- The inner client, from a builder with the catalog. -/
def buildInner (steps : List String) : Expr :=
  let builder := Expr.call (.path ["ApiClient", "builder"]) [.call (.named "catalog") []]
  let built := steps.foldl (fun expr step => withStep expr step (.named step)) builder
  .attempt (.method built "build" [])

/-- Builds the inner client and wraps it. -/
def wrapping (attributes : List Attribute) (name : String) (binders : List Binder)
    (steps : List String) : Function :=
  plainFunction attributes name binders (resultType "Self" "ConfigError")
    [.bind false "client" (buildInner steps)]
    (.call (.named "Ok") [.record ["Self"] [("client", .named "client")]])

/-- The parameter that is the transport. -/
def transportBinder : Binder := .typed "transport" (sharedTrait "Transport")

/-- The functions that every client has. -/
def commonFunctions : List Function := [
  wrapping
    [.doc " Creates a client against the catalog's base address.", .doc "", .doc " ## Errors",
      .doc "", .doc " Fails if the catalog declares no base address."]
    "new" [transportBinder] ["transport"],
  wrapping
    [.doc " Creates a client against a custom base address.", .doc "", .doc " ## Errors",
      .doc "", .doc " Fails if \x60base_url\x60 is not an absolute URL."]
    "with_base_url"
    [.typed "base_url" (.existential (.path ["Into"] [.named "String"])), transportBinder]
    ["base_url", "transport"],
  plainFunction [.doc " Uses \x60cache\x60 for every call that brings no cache of its own."]
    "with_cache" [.receiver .byValue, .typed "cache" (sharedTrait "Cache")] (.named "Self") []
    (.record ["Self"]
      [("client", withStep (.field .itself "client") "with_cache" (.named "cache"))]),
  plainFunction [.doc " The underlying binding set."] "client" [.receiver .byReference]
    (.reference (.named "ApiClient")) [] (.borrow (.field .itself "client"))]

/-! ## Operations -/

/-- What documents the method of an operation. -/
def methodDocs (operation : Operation) : List String :=
  [match operation.summary with
    | some summary => " " ++ summary
    | none => " Calls \x60" ++ operation.name ++ "\x60.",
    "", " " ++ requestLine operation] ++
  match operation.description with
  | some description => "" :: (Text.lines description).map (" " ++ ·)
  | none => []

/-- The method of an operation. -/
def operationMethod (operation : Operation) (suffix : String) : Function where
  attributes := (methodDocs operation).map .doc ++
    if operation.deprecated then [.deprecated] else []
  isAsync := true
  name := methodName operation.name
  typeParameters := [("T", .named "DeserializeOwned")]
  binders := [.receiver .byReference,
    .typed "params" (.named (structName operation.name suffix)),
    .typed "options" (.named "CallOptions")]
  result := resultType "T" "CallError"
  body := []
  value := .await (.method (.method (.field .itself "client") "call"
    [.text operation.name, .borrow (.method (.named "params") "into_args" []),
      .named "options"]) "json" [])

/-! ## The client -/

/-- The constant that is the base address, if the catalog has one. -/
def baseUrlMembers (catalog : Catalog) : List Member :=
  match catalog.baseUrl with
  | some url =>
      [.constant [.doc " Default base address."] "BASE_URL" (.reference (.named "str"))
        (.text url)]
  | none => []

/-- The structure of the client, with its functions. -/
def clientItems (catalog : Catalog) (name suffix : String) : List Item :=
  [.record [.doc (" " ++ catalog.title ++ " client."), .derives ["Debug", "Clone"]] name
      [⟨[], false, "client", .named "ApiClient"⟩],
    .members name (baseUrlMembers catalog ++ (commonFunctions ++
      catalog.operations.map fun operation => operationMethod operation suffix).map .function)]

end ServiceCatalog.Generation
