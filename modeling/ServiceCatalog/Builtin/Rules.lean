import ServiceCatalog.Catalog.Basic
import ServiceCatalog.Catalog.Naming

/-!
# Catalogs that are known by name

The Rules API configures demand partners, the supply partners they buy from, versioned rule sets
for every type of supply, and publishing.  Its operations carry the names that follow from their
verbs and paths.
-/

namespace ServiceCatalog.Builtin

set_option autoImplicit false

/-! ## Parameters -/

/-- A text in the path, with a description. -/
def inPath (name description : String) : Parameter :=
  (Parameter.declare name .path).withDescription description

/-- A text in the query, with a description. -/
def inQuery (name : String) (required : Bool) (description : String) : Parameter :=
  ((Parameter.declare name .query).withRequired required).withDescription description

/-- A required body, with a description. -/
def inBody (name description : String) : Parameter :=
  ((Parameter.declare name .body).withRequired true).withDescription description

/-- The body `demandPartner`. -/
def demandPartner : Parameter :=
  inBody "demandPartner" "the properties of the demand partner to be created"

/-- The segment `dpId`. -/
def dpId : Parameter := inPath "dpId" "the unique demand partner id"

/-- The body `supplyPartner`. -/
def supplyPartner : Parameter :=
  inBody "supplyPartner" "the properties of the supply partner to be created"

/-- The segment `spId`. -/
def spId : Parameter := inPath "spId" "the unique supply partner id"

/-- The body `supplyPartnerConfiguration`. -/
def supplyPartnerConfiguration : Parameter :=
  inBody "supplyPartnerConfiguration" "the properties of the supply partner configuration"

/-- The segment `spTypeId`. -/
def spTypeId : Parameter := inPath "spTypeId" "the type of the supply"

/-- The query pair `dpId`. -/
def dpIdFilter : Parameter := inQuery "dpId" false "the unique demand partner id"

/-- The query pair `spId`. -/
def spIdFilter : Parameter := inQuery "spId" false "the unique supply partner id"

/-- The query pair `spTypeId`. -/
def spTypeIdFilter : Parameter := inQuery "spTypeId" false "the type of the supply"

/-- The query pair `limit`. -/
def limit : Parameter := inQuery "limit" true "the maximum number of items to be returned."

/-- The query pair `offset`. -/
def offset : Parameter :=
  inQuery "offset" true "the offset from the start of the list to be returned."

/-- The segment `version`. -/
def version : Parameter := inPath "version" "the configuration version"

/-- The body `qpsUpdate`. -/
def qpsUpdate : Parameter := inBody "qpsUpdate" "The QPS update JSON you want to post"

/-- The query pair `attr`. -/
def attr : Parameter := inQuery "attr" true "the attribute name to search for the feature in"

/-- The query pair `q`. -/
def q : Parameter := inQuery "q" true "the partial feature name to search for"

/-- The segment `ruleId`. -/
def ruleId : Parameter := inPath "ruleId" "the unique rule id"

/-! ## Operations -/

/-- An operation that is named after its verb and path, with a summary. -/
def entry (verb : Verb) (path : String) (parameters : List Parameter) (summary : String) :
    Operation :=
  (Operation.declare (OperationName.ofAddress verb path) verb path parameters).withSummary summary

/-- The path of a demand partner. -/
def demandPartnerPath : String := "/demand-partners/\x7bdpId\x7d"

/-- The path of the supply partners of a demand partner. -/
def supplyPath : String := demandPartnerPath ++ "/supply-partners"

/-- The path of a type of supply. -/
def supplyTypePath : String := supplyPath ++ "/\x7bspId\x7d/types/\x7bspTypeId\x7d"

/-- The path of a rule. -/
def rulePath : String := supplyTypePath ++ "/rules/\x7bruleId\x7d"

/-- The operations of the Rules API. -/
def rulesOperations : List Operation := [
  entry .post "/demand-partners" [demandPartner]
    "Adds a new demand partner for configuration management",
  entry .get "/demand-partners" []
    "View all demand partners in the system.",
  entry .get demandPartnerPath [dpId]
    "View demand partner details",
  entry .get "/supply-partners" []
    "View all supply partners",
  entry .post "/supply-partners" [supplyPartner]
    "Adds a new supply partner for configuration management",
  entry .get "/supply-partners/\x7bspId\x7d" [spId]
    "View supply partner details",
  entry .get supplyPath [dpId]
    "View the supply partners configured for a demand partner",
  entry .post supplyPath [dpId, supplyPartnerConfiguration]
    "Configures a new supply partner for the demand partner",
  entry .get supplyTypePath [dpId, spId, spTypeId]
    "Returns the configuration of supply partner for the demand partner",
  entry .put supplyTypePath [dpId, spId, spTypeId]
    "Updates the configuration for the supply partner for the demand partner",
  entry .get "/versions" [dpIdFilter, spIdFilter, spTypeIdFilter, limit, offset]
    "Return all the version for the specified identifiers.",
  entry .get "/versions/\x7bversion\x7d" [version]
    "View the version specified",
  entry .post "/versions/\x7bversion\x7d/qps" [version, qpsUpdate]
    "Update the max and desired QPS for rules in the versions",
  entry .post "/versions/\x7bversion\x7d/createDraft" [version]
    "Copy the specified Version to a new Draft Version so it can either be published or edited.",
  entry .get (supplyPath ++ "/\x7bspId\x7d/features/search") [dpId, spId, attr, q]
    "Search for feature matches based on a partial feature string and an attribute name",
  entry .get (supplyTypePath ++ "/publish") [dpId, spId, spTypeId]
    "Publish the configuration to the routes for this supply partner",
  entry .post (supplyTypePath ++ "/rules") [dpId, spId, spTypeId]
    "Create a new rule for a supply source and demand partner",
  entry .get rulePath [dpId, spId, spTypeId, ruleId]
    "Return the rule for a supply source and demand partner",
  entry .put rulePath [dpId, spId, spTypeId, ruleId]
    "Replaces a rule with a new version for a supply source and demand partner",
  entry .delete rulePath [dpId, spId, spTypeId, ruleId]
    "Remove the rule for a supply source and demand partner"]

/-- The catalog of the Rules API. -/
def rules : Catalog where
  title := "Rules API"
  description := some ("This is the API for configuring the demand partner and the s" ++
    "upply for those demand\npartners.\n")
  version := some "1.0.0"
  baseUrl := some "https://api.ntoggle.com/v1"
  operations := rulesOperations

/-! ## Names -/

/-- The names of the catalogs. -/
def names : List String := ["rules"]

/-- The catalog of a name. -/
def find? (name : String) : Option Catalog := [("rules", rules)].lookup name

end ServiceCatalog.Builtin
