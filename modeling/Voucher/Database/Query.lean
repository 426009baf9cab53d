import Voucher.Database.Row
import Voucher.Ledger.Entry
import Voucher.Service.Script

/-!
The queries that are sent to the database, with their parameters, and the connection that answers
them. A query is answered by rows or fails; whoever is down answers none.
-/
namespace Voucher.Database

inductive Query where
  | project (id : Uuid)
  | rules (projectId : Uuid)
  | entry (ruleId : Uuid) (hash : String)
  | insert (id : Uuid) (draft : Ledger.Draft)
  | increment (id : Uuid) (limit : Int32)
  | detail (id : Uuid)
  | details (filter : Ledger.Filter)
  | countDetails (filter : Ledger.Filter)
  | totals (projectId : Uuid)
  | countByRule (projectId : Uuid)
  | countByDay (projectId : Uuid) (since : Instant)

namespace Query

def ofInstant (t : Instant) : Json := .ofInstant (keep t)

def filterParameters (f : Ledger.Filter) : List Json :=
  [.ofOption .ofUuid f.projectId, .ofOption ofInstant f.since, .ofOption ofInstant f.upTo]

/-- The parameters of a query, in order. -/
def parameters : Query → List Json
  | project id => [.ofUuid id]
  | rules projectId => [.ofUuid projectId]
  | entry ruleId hash => [.ofUuid ruleId, .str hash]
  | insert id d =>
    [.ofUuid id, .ofUuid d.ruleId, .str d.codeHash, .ofStringOption d.codePlain,
      .ofStringOption d.userId, .ofStringOption d.transactionId, .ofStringOption d.ipAddress,
      .ofOption .ofDocument d.metadata]
  | increment id limit => [.ofUuid id, .ofInt32 limit]
  | detail id => [.ofUuid id]
  | details f => filterParameters f ++ [.ofInt64 f.limit, .int f.offset]
  | countDetails f => filterParameters f
  | totals projectId => [.ofUuid projectId]
  | countByRule projectId => [.ofUuid projectId]
  | countByDay projectId since => [.ofUuid projectId, ofInstant since]

end Query

/-- Rows, or a failure of the database. -/
abbrev Rows := Except Unit (List Row)

abbrev Action := Script Query fun _ => Rows

def ask (q : Query) : Action Rows := Script.call q

/-- A connection: what the database will answer, and what it was asked, the latest first. -/
structure Connection where
  replies : List Rows
  asked : List Query
  isDown : Bool
  isClosed : Bool

namespace Connection

def opened : Connection := ⟨[], [], false, false⟩

def isUp (c : Connection) : Bool := !c.isDown && !c.isClosed

/-- Answers a query with the next reply; without one there are no rows. -/
def answer (q : Query) (c : Connection) : Rows × Connection :=
  if c.isUp then
    match c.replies with
    | reply :: rest => (reply, { c with replies := rest, asked := q :: c.asked })
    | [] => (.ok [], { c with asked := q :: c.asked })
  else (.error (), c)

def perform {α : Type} (c : Connection) (a : Action α) : α × Connection :=
  a.run (fun q c => c.answer q) c

end Connection

end Voucher.Database
