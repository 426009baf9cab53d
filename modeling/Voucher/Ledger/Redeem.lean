import Voucher.Cache.Key
import Voucher.Digest.Sha256
import Voucher.Service.Call

/-!
Redeeming a code. Under the lock of the rule and the code's hash, the first redemption makes an
entry and each later one raises its count, up to the rule's limit. The ledger refuses what a lost
lease might let through, and the lock is given up on every way out.
-/
namespace Voucher.Ledger

open Service

/-- Who redeems, and what is noted at the first redemption. -/
structure Context where
  userId : Option String
  transactionId : Option String
  ipAddress : Option String
  metadata : Option Document
  deriving Inhabited

/-- A context written as an object. -/
def Context.ofJson (j : Json) : Context :=
  ⟨j.textMember? "ow_user_id", j.textMember? "ow_transaction_id", j.textMember? "ip_address",
    j.documentMember? "metadata"⟩

inductive Redemption where
  | redeemed (entry : Entry)
  /-- The limit is reached; since when the code has been redeemed, if that is known. -/
  | exhausted (since : Option Instant)
  /-- The lock could not be had; the code may or may not be used up. -/
  | locked

def Redemption.toJson : Redemption → Json
  | redeemed e => .obj [("outcome", .str "Redeemed"), ("entry", e.toJson)]
  | exhausted since =>
    .obj [("outcome", .str "AlreadyRedeemed"), ("redeemed_at", .ofOption .ofInstant since)]
  | locked => .obj [("outcome", .str "LockUnavailable")]

def codeHash (normalized : String) : String := Sha256.hexOfText normalized

def draft (policy : Policy) (rule : Rule) (normalized : String) (c : Context) : Draft where
  ruleId := rule.id
  codeHash := codeHash normalized
  codePlain := if policy.storePlainCodes then some normalized else none
  userId := c.userId
  transactionId := c.transactionId
  ipAddress := c.ipAddress
  metadata := c.metadata

/-- Raises the count of an entry below the limit. -/
def redeemAgain (rule : Rule) (e : Entry) : Action (Result Redemption) :=
  if rule.redemptionLimit ≤ e.count then pure (.ok (.exhausted (some e.redeemedAt)))
  else
    (Action.incrementEntry e.id rule.redemptionLimit).andThen fun
      | some raised => pure (.ok (.redeemed raised))
      | none => pure (.ok (.exhausted (some e.redeemedAt)))

/-- Makes the entry; if another redemption made it meanwhile, this one counts as too late. -/
def redeemFirst (d : Draft) : Action (Result Redemption) :=
  (Action.insertEntry d).andThen fun
    | some made => pure (.ok (.redeemed made))
    | none =>
      (Action.fetchEntry d.ruleId d.codeHash).andThen fun e =>
        pure (.ok (.exhausted (e.map (·.redeemedAt))))

/-- What happens under the lock. -/
def redeemLocked (rule : Rule) (d : Draft) : Action (Result Redemption) :=
  (Action.fetchEntry d.ruleId d.codeHash).andThen fun
    | some e => redeemAgain rule e
    | none => redeemFirst d

def lockKey (rule : Rule) (normalized : String) : String :=
  Cache.Key.redemption rule.id.text (codeHash normalized)

/-- Redeems a normalized code under a rule once. -/
def redeem (policy : Policy) (rule : Rule) (normalized : String) (c : Context) :
    Action (Result Redemption) := do
  match ← Action.acquire (lockKey rule normalized) policy.lease with
  | .error _ =>
    Action.count .lockFailure
    pure (.ok .locked)
  | .ok guard =>
    let result ← redeemLocked rule (draft policy rule normalized c)
    let _ ← Action.release guard
    pure result

end Voucher.Ledger
