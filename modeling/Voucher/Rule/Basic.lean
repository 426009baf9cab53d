import Voucher.Charset
import Voucher.Layout.Basic

/-!
Code rules and projects. A rule says how a printed code of a project looks and how often it may be
redeemed; a project owns rules and may be valid for a stretch of time only.
-/
namespace Voucher

structure Rule where
  id : Uuid
  projectId : Uuid
  name : String
  skuReference : Option String
  /-- The length of a payload, which is what follows the prefix. -/
  totalLength : UInt64
  charset : Charset
  customCharset : Option String
  hasCheckDigit : Bool
  checkAlgorithm : Option CheckDigit.Algorithm
  checkPosition : Option CheckDigit.Position
  layout : Layout
  separator : Option String
  caseSensitive : Bool
  codePrefix : Option String
  customCheck : Option Document
  maxRedemptions : Int32
  productInfo : Option Document
  campaignInfo : Option Document
  pointsValue : Option Int32
  allowedCountries : List String
  isActive : Bool
  createdAt : Instant
  deriving Inhabited

namespace Rule

/-- The prefix that normalized codes carry: none if it is empty, and in upper case unless the rule
tells cases apart. -/
def effectivePrefix (r : Rule) : Option String :=
  match r.codePrefix with
  | some p =>
    if p.isEmpty then none
    else if r.caseSensitive then some p
    else some (Text.upper p)
  | none => none

/-- How often a code may be redeemed: at least once, whatever the rule says. -/
def redemptionLimit (r : Rule) : Int32 :=
  if r.maxRedemptions < 1 then 1 else r.maxRedemptions

end Rule

structure Project where
  id : Uuid
  tenantId : Uuid
  name : String
  description : Option String
  startsAt : Option Instant
  endsAt : Option Instant
  isActive : Bool
  metadata : Option Document
  createdAt : Instant
  deriving Inhabited

/-- A project with its active rules, in the order in which codes are matched against them. -/
structure RuleBook where
  project : Project
  rules : List Rule
  deriving Inhabited

end Voucher
