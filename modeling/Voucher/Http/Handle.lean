import Voucher.Http.Body
import Voucher.Http.MediaType
import Voucher.Http.Message
import Voucher.Http.Route
import Voucher.Query.Run
import Voucher.Text.Blank
import Voucher.Validation.Run

/-!
Answering requests. Every request is answered and counted once, under its route or, where there is
none, its path. Whoever may call and how often is settled before requests come here.
-/
namespace Voucher.Http

open Service

/-- The address of the consumer: the first forwarded one, the real one, or the peer's. -/
def clientAddress (r : Request) : Option String :=
  let shown (text : String) : Option String :=
    let t := Text.trim text
    if t.isEmpty then none else some t
  let forwarded := (r.header? "x-forwarded-for").bind fun v =>
    shown (String.ofList (Text.cut ',' v.toList).1)
  (forwarded.orElse fun _ => (r.header? "x-real-ip").bind shown).orElse fun _ =>
    r.peer.map Address.text

/-- The sandbox is asked for by a header. -/
def asksSandbox (r : Request) : Bool :=
  match r.header? "x-sandbox" with
  | some v => ["true", "1"].contains (Text.trim v)
  | none => false

def errorReply (e : ApiError) : Reply := .json e.status e.body

/-- A result, or the failure of the service. -/
def reply {α : Type} (f : α → Reply) : Result α → Reply
  | .ok a => f a
  | .error e => errorReply (.ofServiceError e)

def outcomeReply (o : Outcome) : Reply := .json o.status o.toJson

def codeMissing : Reply := errorReply (.validation "code is required")

def isBlankCode (code : String) : Bool := (Text.trimChars code.toList).isEmpty

/-- Validates and redeems. -/
def validate (policy : Policy) (r : Request) : Action Reply :=
  if !((r.header? "content-type").map MediaType.isJson).getD false then pure (.bare 415)
  else
    match Body.request r.body with
    | .error .malformed => pure (.bare 400)
    | .error .misfit => pure (.bare 422)
    | .ok asked =>
      if isBlankCode asked.code then pure codeMissing
      else do
        let result ← Validation.run policy
          { asked with sandbox := asked.sandbox || asksSandbox r, ipAddress := clientAddress r }
        pure (reply outcomeReply result)

/-- An acceptance without the fields of a redemption. -/
def withoutRedemption : Outcome → Outcome
  | .accepted a =>
    .accepted { a with redeemedAt := none, redemptionId := none, redemptionCount := none }
  | .rejected r => .rejected r

/-- A field of a query that stands at most once. -/
def single? (fields : List (String × String)) (name : String) : Option (Option String) :=
  match fields.filter (·.1 == name) with
  | [] => some none
  | [f] => some (some f.2)
  | _ => none

/-- A field that is read if it is there. -/
def readField? {α : Type} (fields : List (String × String)) (name : String)
    (read : String → Option α) : Option (Option α) :=
  (single? fields name).bind fun
    | none => some none
    | some text => (read text).map some

/-- An integer with an optional sign. -/
def readInteger? (text : String) : Option Int64 :=
  let read (negative : Bool) (cs : List Char) : Option Int64 :=
    match Text.digits? cs with
    | some (d :: ds) =>
      let n : Int := Text.numeral (d :: ds)
      Json.readInt64? (.int (if negative then -n else n))
    | _ => none
  match text.toList with
  | '-' :: rest => read true rest
  | '+' :: rest => read false rest
  | cs => read false cs

/-- The request that a query writes; it never redeems. -/
def checkRequest? (fields : List (String × String)) : Option Voucher.Request := do
  let code ← ← single? fields "code"
  let projectId ← ← readField? fields "project_id" Uuid.ofString?
  let country ← single? fields "country"
  pure ⟨code, projectId, none, none, none, country, none, true, false⟩

/-- Says whether a code could be redeemed. -/
def check (policy : Policy) (r : Request) : Action Reply :=
  match checkRequest? r.target.fields with
  | none => pure (.bare 400)
  | some asked =>
    if isBlankCode asked.code then pure codeMissing
    else do
      let result ← Validation.run policy asked
      pure (reply (fun o => outcomeReply (withoutRedemption o)) result)

def listing? (fields : List (String × String)) : Option Query.Listing := do
  let projectId ← readField? fields "project_id" Uuid.ofString?
  let since ← readField? fields "from" Instant.ofString?
  let upTo ← readField? fields "to" Instant.ofString?
  let page ← readField? fields "page" readInteger?
  let limit ← readField? fields "limit" readInteger?
  pure ⟨projectId, since, upTo, page, limit⟩

def list (r : Request) : Action Reply :=
  match listing? r.target.fields with
  | none => pure (.bare 400)
  | some l => do
    let result ← Query.list l
    pure (reply (fun page => .json 200 page.toJson) result)

/-- The identifier that the open part of a path writes. -/
def pathId? (part : List Char) : Option Uuid := (decodePart? part).bind Uuid.ofChars?

/-- Answers under an identifier from the path. -/
def withId (part : List Char) (f : Uuid → Action Reply) : Action Reply :=
  match pathId? part with
  | none => pure (.bare 400)
  | some id => f id

def invalidated (n : Nat) : Reply := .json 200 (.obj [("invalidated", .ofNat n)])

def alive : Reply :=
  .json 200 (.obj [("status", .str "ok"), ("service", .str "code-validation-service")])

/-- Answers a request under its route; `part` is what the open part took. -/
def answer (policy : Policy) (r : Request) (part : List Char) : Route → Action Reply
  | .validate => validate policy r
  | .check => check policy r
  | .listing => list r
  | .redemption => withId part fun id => do
    let result ← Query.find id
    pure (reply (fun d => .json 200 (Query.redemptionJson d)) result)
  | .statistics => withId part fun id => do
    let result ← Query.statistics id
    pure (reply (fun s => .json 200 s.toJson) result)
  | .allRules => do
    let n ← Cache.Rules.invalidateAll
    pure (invalidated n)
  | .rules => withId part fun id => do
    Cache.Rules.invalidate id
    pure (invalidated 1)
  | .health => pure alive

/-- Answers a request by its route and method. -/
def dispatch (policy : Policy) (r : Request) : Action Reply :=
  match Route.find? r.target with
  | none => pure (.bare 404)
  | some (route, part) =>
    if route.methods.contains r.method then do
      let reply ← answer policy r part route
      pure (if r.method = "HEAD" then reply.head else reply)
    else pure { Reply.bare 405 with allow := some route.allow }

/-- The path under which a request is counted. -/
def countedPath (r : Request) : String :=
  match Route.find? r.target with
  | some (route, _) => route.template
  | none => String.ofList r.target.path

def requestId (r : Request) : Action RequestId :=
  match r.header? "x-request-id" with
  | some text => pure (.given text)
  | none => do
    let id ← Action.freshId
    pure (.made id)

/-- Answers and counts a request. -/
def handle (policy : Policy) (r : Request) : Action Response := do
  let id ← requestId r
  let reply ← dispatch policy r
  Action.count (.http r.method (countedPath r) reply.status)
  pure ⟨reply, id⟩

end Voucher.Http
