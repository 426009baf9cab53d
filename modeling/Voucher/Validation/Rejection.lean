import Voucher.Json.Record

/-!
Rejections: the stable codes under which a code is refused, with a text and, for some, details.
-/
namespace Voucher

inductive ErrorCode where
  | invalidStructure
  | invalidSegment
  | invalidCheckDigit
  | noMatchingRule
  | alreadyRedeemed
  | projectInactive
  | projectExpired
  | ruleInactive
  | geoBlocked
  | rateLimited
  | authFailed
  deriving DecidableEq, Inhabited

namespace ErrorCode

def all : List ErrorCode :=
  [invalidStructure, invalidSegment, invalidCheckDigit, noMatchingRule, alreadyRedeemed,
    projectInactive, projectExpired, ruleInactive, geoBlocked, rateLimited, authFailed]

def name : ErrorCode → String
  | invalidStructure => "INVALID_STRUCTURE"
  | invalidSegment => "INVALID_SEGMENT"
  | invalidCheckDigit => "INVALID_CHECK_DIGIT"
  | noMatchingRule => "NO_MATCHING_RULE"
  | alreadyRedeemed => "ALREADY_REDEEMED"
  | projectInactive => "PROJECT_INACTIVE"
  | projectExpired => "PROJECT_EXPIRED"
  | ruleInactive => "RULE_INACTIVE"
  | geoBlocked => "GEO_BLOCKED"
  | rateLimited => "RATE_LIMITED"
  | authFailed => "AUTH_FAILED"

def ofName? (s : String) : Option ErrorCode := all.find? (·.name == s)

def toJson (c : ErrorCode) : Json := .str c.name

def ofJson? (j : Json) : Option ErrorCode := j.readVariant?.bind ofName?

/-- The status with which a rejection is answered. -/
def status : ErrorCode → Nat
  | invalidStructure | invalidSegment | invalidCheckDigit => 400
  | noMatchingRule => 404
  | alreadyRedeemed => 409
  | projectInactive | projectExpired | ruleInactive | geoBlocked => 403
  | rateLimited => 429
  | authFailed => 401

end ErrorCode

structure Rejection where
  code : ErrorCode
  message : String
  details : Option Document

end Voucher
