import Voucher.Ledger.Entry
import Voucher.Validation.Outcome

/-!
What queries answer: one redemption, or a page of redemptions with its place among all pages.
-/
namespace Voucher.Query

structure Pagination where
  page : Int
  limit : Int
  total : Int
  deriving DecidableEq, Inhabited

namespace Pagination

/-- The number of pages that hold all redemptions; none if a page holds nothing. -/
def totalPages (p : Pagination) : Int :=
  if 0 < p.limit then Int.tdiv (p.total + p.limit - 1) p.limit else 0

def toJson (p : Pagination) : Json :=
  .obj [("page", .int p.page), ("limit", .int p.limit), ("total", .int p.total),
    ("totalPages", .int p.totalPages)]

end Pagination

/-- A redemption with all that clients may see of it; the plain code and the
address are not shown. -/
def redemptionJson (d : Ledger.Detail) : Json :=
  .obj
    [("id", .ofUuid d.entry.id),
      ("code_hash", .str d.entry.codeHash),
      ("code_rule", NamedRef.toJson ⟨d.entry.ruleId, d.ruleName⟩),
      ("project", NamedRef.toJson ⟨d.projectId, d.projectName⟩),
      ("ow_user_id", .ofStringOption d.entry.userId),
      ("ow_transaction_id", .ofStringOption d.entry.transactionId),
      ("redemption_count", .ofInt32 d.entry.count),
      ("redeemed_at", .ofInstant d.entry.redeemedAt)]

/-- A redemption as one of a list. -/
def summaryJson (d : Ledger.Detail) : Json :=
  .obj
    [("id", .ofUuid d.entry.id),
      ("code_hash", .str d.entry.codeHash),
      ("code_rule_id", .ofUuid d.entry.ruleId),
      ("code_rule_name", .str d.ruleName),
      ("ow_user_id", .ofStringOption d.entry.userId),
      ("redemption_count", .ofInt32 d.entry.count),
      ("redeemed_at", .ofInstant d.entry.redeemedAt)]

structure Page where
  items : List Ledger.Detail
  pagination : Pagination
  deriving Inhabited

def Page.toJson (p : Page) : Json :=
  .obj [("data", .arr (p.items.map summaryJson)), ("pagination", p.pagination.toJson)]

end Voucher.Query
