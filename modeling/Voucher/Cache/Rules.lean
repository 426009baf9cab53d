import Voucher.Cache.Key
import Voucher.Json.Parser
import Voucher.Json.Printer
import Voucher.Rule.Wire
import Voucher.Service.Call

/-!
The cache of rule books. A book is read from the cache if it is there and can be read, and otherwise
loaded and cached. Storage alone decides: a cache that fails is passed by.
-/
namespace Voucher.Cache.Rules

open Service

def key (projectId : Uuid) : String := Key.project projectId.text

/-- A rule book as it is cached. -/
def encode (b : RuleBook) : String := b.toJson.text

def decode? (text : String) : Option RuleBook := (Json.read? text).bind RuleBook.ofJson?

/-- Loads a book from storage and caches it; a project that is not there is not cached. -/
def load (life : UInt64) (projectId : Uuid) : Action (Result (Option RuleBook)) := do
  match ← Action.fetchRuleBook projectId with
  | .error e => pure (.error e)
  | .ok none => pure (.ok none)
  | .ok (some book) =>
    let _ ← Action.writeCache (key projectId) (encode book) life
    pure (.ok (some book))

/-- The rule book of a project; only storage can make it fail. -/
def get (life : UInt64) (projectId : Uuid) : Action (Result (Option RuleBook)) := do
  match ← Action.readCache (key projectId) with
  | .ok (some text) =>
    match decode? text with
    | some book =>
      Action.count (.cacheLookup "hit")
      pure (.ok (some book))
    | none =>
      Action.count (.cacheLookup "error")
      load life projectId
  | .ok none =>
    Action.count (.cacheLookup "miss")
    load life projectId
  | .error _ =>
    Action.count (.cacheLookup "error")
    load life projectId

/-- Forgets the book of a project. -/
def invalidate (projectId : Uuid) : Action Unit := do
  let _ ← Action.deleteCached (key projectId)
  pure ()

/-- Forgets all books and tells how many there were; none if the cache fails. -/
def invalidateAll : Action Nat := do
  match ← Action.deleteCachedMatching Key.allProjects with
  | .ok n => pure n
  | .error _ => pure 0

end Voucher.Cache.Rules
