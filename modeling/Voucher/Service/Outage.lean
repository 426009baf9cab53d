import Voucher.Service.Call

/-!
Outages: questions that the surroundings answer wrongly on purpose. A question fails with an error,
is refused without an effect, or is overtaken, so that its effect happens but is not its own.
-/
namespace Voucher.Service

/-- What an outage strikes. -/
inductive Target where
  | fetchProject
  | fetchEntry
  | insertEntry
  | incrementEntry
  | findDetail
  | list
  | statistics
  | readCache
  | writeCache
  | deleteCache
  deriving DecidableEq, Inhabited

namespace Target

/-- The targets by name. -/
def named : List (String × Target) :=
  [("fetch_project", fetchProject), ("fetch_entry", fetchEntry), ("insert_entry", insertEntry),
    ("increment_entry", incrementEntry), ("get_by_id", findDetail), ("list", list),
    ("project_stats", statistics), ("cache_get", readCache), ("cache_set", writeCache),
    ("cache_delete", deleteCache)]

def ofName? (name : String) : Option Target := named.lookup name

end Target

inductive Outage where
  | fails (e : ServiceError)
  | refuses
  | overtakes
  deriving DecidableEq, Inhabited

namespace Outage

/-- The outage that a mode names. -/
def ofMode (mode : String) : Outage :=
  match mode with
  | "Database" => fails .database
  | "Redis" => fails (.redis (some "down"))
  | "Lock" => fails (.lock "key")
  | "Internal" => fails (.internal "boom")
  | "race" => overtakes
  | _ => refuses

end Outage

/-- What of the surroundings a question goes to, as far as it can be struck. -/
def Call.target? : Call → Option Target
  | readCache _ => some .readCache
  | writeCache .. => some .writeCache
  | deleteCached _ | deleteCachedMatching _ => some .deleteCache
  | fetchRuleBook _ => some .fetchProject
  | fetchEntry .. => some .fetchEntry
  | insertEntry _ => some .insertEntry
  | incrementEntry .. => some .incrementEntry
  | findDetail _ => some .findDetail
  | listDetails _ => some .list
  | statistics .. => some .statistics
  | now | freshId | acquire .. | release _ | count _ => none

end Voucher.Service
