import Voucher.Layout.Wire
import Voucher.Rule.Basic

/-!
Rules, projects and rule books as JSON. All fields are written; what is absent is written as `null`.
-/
namespace Voucher

namespace Rule

def fieldNames : List String :=
  ["id", "projectId", "name", "skuReference", "totalLength", "charset", "customCharset",
    "hasCheckDigit", "checkAlgorithm", "checkDigitPosition", "structure", "separator",
    "caseSensitive", "prefix", "customCheckFunction", "maxRedemptions", "productInfo",
    "campaignInfo", "pointsValue", "allowedCountries", "isActive", "createdAt"]

def toJson (r : Rule) : Json :=
  .obj
    [("id", .ofUuid r.id),
      ("projectId", .ofUuid r.projectId),
      ("name", .str r.name),
      ("skuReference", .ofStringOption r.skuReference),
      ("totalLength", .ofUInt64 r.totalLength),
      ("charset", r.charset.toJson),
      ("customCharset", .ofStringOption r.customCharset),
      ("hasCheckDigit", .bool r.hasCheckDigit),
      ("checkAlgorithm", .ofOption CheckDigit.Algorithm.toJson r.checkAlgorithm),
      ("checkDigitPosition", .ofOption CheckDigit.Position.toJson r.checkPosition),
      ("structure", r.layout.toJson),
      ("separator", .ofStringOption r.separator),
      ("caseSensitive", .bool r.caseSensitive),
      ("prefix", .ofStringOption r.codePrefix),
      ("customCheckFunction", .ofOption .ofDocument r.customCheck),
      ("maxRedemptions", .ofInt32 r.maxRedemptions),
      ("productInfo", .ofOption .ofDocument r.productInfo),
      ("campaignInfo", .ofOption .ofDocument r.campaignInfo),
      ("pointsValue", .ofOption .ofInt32 r.pointsValue),
      ("allowedCountries", .ofStrings r.allowedCountries),
      ("isActive", .bool r.isActive),
      ("createdAt", .ofInstant r.createdAt)]

def ofJson? (j : Json) : Option Rule := do
  let f ← Record.ofJson? fieldNames j
  let id ← f.required "id" Json.readUuid?
  let projectId ← f.required "projectId" Json.readUuid?
  let name ← f.required "name" Json.asString?
  let skuReference ← f.omissible "skuReference" Json.asString?
  let totalLength ← f.required "totalLength" Json.readUInt64?
  let charset ← f.required "charset" Charset.ofJson?
  let customCharset ← f.omissible "customCharset" Json.asString?
  let hasCheckDigit ← f.required "hasCheckDigit" Json.asBool?
  let checkAlgorithm ← f.omissible "checkAlgorithm" CheckDigit.Algorithm.ofJson?
  let checkPosition ← f.omissible "checkDigitPosition" CheckDigit.Position.ofJson?
  let layout ← f.required "structure" Layout.ofJson?
  let separator ← f.omissible "separator" Json.asString?
  let caseSensitive ← f.orDefault "caseSensitive" false Json.asBool?
  let codePrefix ← f.omissible "prefix" Json.asString?
  let customCheck ← f.omissible "customCheckFunction" Json.readDocument?
  let maxRedemptions ← f.required "maxRedemptions" Json.readInt32?
  let productInfo ← f.omissible "productInfo" Json.readDocument?
  let campaignInfo ← f.omissible "campaignInfo" Json.readDocument?
  let pointsValue ← f.omissible "pointsValue" Json.readInt32?
  let allowedCountries ← f.orDefault "allowedCountries" [] Json.readStrings?
  let isActive ← f.required "isActive" Json.asBool?
  let createdAt ← f.required "createdAt" Json.readInstant?
  pure { id, projectId, name, skuReference, totalLength, charset, customCharset, hasCheckDigit,
         checkAlgorithm, checkPosition, layout, separator, caseSensitive, codePrefix, customCheck,
         maxRedemptions, productInfo, campaignInfo, pointsValue, allowedCountries, isActive,
         createdAt }

end Rule

namespace Project

def fieldNames : List String :=
  ["id", "tenantId", "name", "description", "startsAt", "endsAt", "isActive", "metadata",
    "createdAt"]

def toJson (p : Project) : Json :=
  .obj
    [("id", .ofUuid p.id),
      ("tenantId", .ofUuid p.tenantId),
      ("name", .str p.name),
      ("description", .ofStringOption p.description),
      ("startsAt", .ofOption .ofInstant p.startsAt),
      ("endsAt", .ofOption .ofInstant p.endsAt),
      ("isActive", .bool p.isActive),
      ("metadata", .ofOption .ofDocument p.metadata),
      ("createdAt", .ofInstant p.createdAt)]

def ofJson? (j : Json) : Option Project := do
  let f ← Record.ofJson? fieldNames j
  let id ← f.required "id" Json.readUuid?
  let tenantId ← f.required "tenantId" Json.readUuid?
  let name ← f.required "name" Json.asString?
  let description ← f.optional "description" Json.asString?
  let startsAt ← f.optional "startsAt" Json.readInstant?
  let endsAt ← f.optional "endsAt" Json.readInstant?
  let isActive ← f.required "isActive" Json.asBool?
  let metadata ← f.optional "metadata" Json.readDocument?
  let createdAt ← f.required "createdAt" Json.readInstant?
  pure { id, tenantId, name, description, startsAt, endsAt, isActive, metadata, createdAt }

end Project

namespace RuleBook

def toJson (b : RuleBook) : Json :=
  .obj [("project", b.project.toJson), ("rules", .arr (b.rules.map Rule.toJson))]

def ofJson? (j : Json) : Option RuleBook := do
  let f ← Record.ofJson? ["project", "rules"] j
  let project ← f.required "project" Project.ofJson?
  let rules ← f.required "rules" (Json.readList? Rule.ofJson?)
  pure ⟨project, rules⟩

end RuleBook

end Voucher
