import Voucher.Query.Page
import Voucher.Service.Call

/-!
Queries about redemptions: one by its identifier, a page of a listing, and the statistics of a
project. A query that asks for an impossible page is refused before the ledger is read.
-/
namespace Voucher.Query

open Service

/-- A query for a page; what is absent is chosen here. -/
structure Listing where
  projectId : Option Uuid
  since : Option Instant
  upTo : Option Instant
  page : Option Int64
  limit : Option Int64
  deriving Inhabited

namespace Listing

/-- A query written as an object. -/
def ofJson? (j : Json) : Option Listing := do
  pure ⟨← j.readOptional? "project_id" Json.readUuid?, ← j.readOptional? "from" Json.readInstant?,
    ← j.readOptional? "to" Json.readInstant?, ← j.readOptional? "page" Json.readInt64?,
    ← j.readOptional? "limit" Json.readInt64?⟩

def standardLimit : Int64 := 50

def maxLimit : Int64 := 100

def filter (l : Listing) : Ledger.Filter where
  projectId := l.projectId
  since := l.since
  upTo := l.upTo
  page := l.page.getD 1
  limit := l.limit.getD standardLimit

/-- Why a query is refused. -/
inductive Fault where
  | page
  | limit
  | stretch
  | range
  deriving DecidableEq

def Fault.message : Fault → String
  | page => "page 必须大于等于 1"
  | limit => "limit 必须在 1 到 " ++ Text.decimalString maxLimit.toInt ++ " 之间"
  | stretch => "from 不能晚于 to"
  | range => "page 超出范围"

/-- The first bound comes after the second. -/
def isReversed (l : Listing) : Bool :=
  match l.since, l.upTo with
  | some a, some b => b.lt a
  | _, _ => false

/-- The first reason to refuse a query. -/
def fault? (l : Listing) : Option Fault :=
  if l.filter.page < 1 then some .page
  else if l.filter.limit < 1 || maxLimit < l.filter.limit then some .limit
  else if l.isReversed then some .stretch
  else if l.filter.offset?.isNone then some .range
  else none

end Listing

/-- The redemption with an identifier. -/
def find (id : Uuid) : Action (Result Ledger.Detail) :=
  (Action.findDetail id).andThen fun
    | some d => pure (.ok d)
    | none => pure (.error (.redemptionNotFound id))

/-- A page of redemptions, latest first. -/
def list (l : Listing) : Action (Result Page) :=
  match l.fault? with
  | some fault => pure (.error (.validation fault.message))
  | none =>
    (Action.listDetails l.filter).andThen fun found =>
      pure (.ok ⟨found.1, ⟨l.filter.page.toInt, l.filter.limit.toInt, found.2⟩⟩)

/-- Days that statistics by day look back. -/
def windowDays : Int := 30

/-- The statistics of a project; by day for the last thirty days. -/
def statistics (projectId : Uuid) : Action (Result Ledger.Statistics) := do
  let now ← Action.now
  Action.statistics projectId (now.addSeconds (-(windowDays * 86400)))

end Voucher.Query
