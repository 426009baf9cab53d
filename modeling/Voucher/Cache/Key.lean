import Voucher.Uuid

/-!
Keys of the cache and of the locks. They share one key space; the second part of a key says whether
it belongs to a project's rules or to a redemption.
-/
namespace Voucher.Cache.Key

/-- Where a project's rules are cached. -/
def project (id : String) : String := "codeguard:project:" ++ id

/-- The pattern of all keys under which rules are cached. -/
def allProjects : String := "codeguard:project:*"

/-- The lock that guards a rule and the hash of a code. -/
def redemption (rule hash : String) : String := "codeguard:lock:" ++ rule ++ ":" ++ hash

end Voucher.Cache.Key
