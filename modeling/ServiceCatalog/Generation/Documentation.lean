import ServiceCatalog.Generation.ParamsSource
import ServiceCatalog.Text.Blank

/-!
# Documentation of the generated module

The module begins with four sections: what the client is for, where its base address is, a table
of the operations, and an example.  An empty line follows every section.
-/

namespace ServiceCatalog.Generation

set_option autoImplicit false

/-- A text as code. -/
def asCode (text : String) : String := "\x60" ++ text ++ "\x60"

/-- What the client is for. -/
def introSection (catalog : Catalog) : List String :=
  let version := match catalog.version with
    | some version => " (version " ++ version ++ ")"
    | none => ""
  (" Generated API client for " ++ catalog.title ++ version ++ ".") ::
    match catalog.description with
    | some description =>
        "" :: (Text.lines (String.ofList (Text.trimEnd description.toList))).map (" " ++ ·)
    | none => []

/-- Where the base address is. -/
def baseUrlSection (catalog : Catalog) (client : String) : List String :=
  let custom := asCode (client ++ "::with_base_url")
  [" ## Base Address", "",
    match catalog.baseUrl with
    | some url => " " ++ asCode url ++ " by default; use " ++ custom ++ " to point elsewhere."
    | none => " The API declares no host: create clients with " ++ custom ++ "."]

/-- The row of an operation. -/
def operationRow (suffix : String) (operation : Operation) : String :=
  " | " ++ asCode (methodName operation.name) ++ " | " ++ requestLine operation ++ " | ["
    ++ asCode (structName operation.name suffix) ++ "] |"

/-- The table of the operations. -/
def operationsSection (catalog : Catalog) (suffix : String) : List String :=
  [" ## Operations", "", " | Method | Request | Params |", " |--------|---------|--------|"] ++
    catalog.operations.map (operationRow suffix)

/-- How the example makes a client. -/
def exampleClient (catalog : Catalog) (client : String) : String :=
  let transport := "Arc::new(ReqwestTransport::new()?))?;"
  " let client = " ++ client ++
    if catalog.baseUrl.isSome then "::new(" ++ transport
    else "::with_base_url(\"https://api.example.com\", " ++ transport

/-- How the example calls an operation. -/
def exampleCall (suffix : String) (operation : Operation) : List String :=
  let required := (operation.parameters.filter Parameter.required).map fun _ => "todo!()"
  [" let params = " ++ structName operation.name suffix ++ "::new("
      ++ ", ".intercalate required ++ ");",
    " let result: serde_json::Value = client." ++ methodName operation.name
      ++ "(params, CallOptions::new()).await?;"]

/-- The example. -/
def exampleSection (catalog : Catalog) (client moduleName suffix : String) : List String :=
  [" ## Example", "", " \x60\x60\x60ignore", " use std::sync::Arc;",
    " use apibind_runtime::\x7bCallOptions, ReqwestTransport\x7d;",
    " use crate::" ++ moduleName ++ "::" ++ client ++ ";", "", exampleClient catalog client] ++
    (catalog.operations.head?.map (exampleCall suffix)).getD [] ++ [" \x60\x60\x60"]

/-- The lines that document the module. -/
def moduleDocs (catalog : Catalog) (client moduleName suffix : String) : List String :=
  [introSection catalog, baseUrlSection catalog client, operationsSection catalog suffix,
    exampleSection catalog client moduleName suffix].flatMap (· ++ [""])

end ServiceCatalog.Generation
