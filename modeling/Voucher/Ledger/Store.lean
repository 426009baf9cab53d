import Voucher.Ledger.Entry

/-!
The store in memory: projects, rules, ledger entries, and an index from a rule and a code's hash to
the one entry they have. Each operation is one step; no two are interleaved.
-/
namespace Voucher.Ledger

structure Store where
  projects : List Project
  /-- In the order of insertion. -/
  rules : List Rule
  /-- In the order of insertion. -/
  entries : List Entry
  index : List ((Uuid × String) × Uuid)
  /-- How often a project was loaded. -/
  projectFetches : Nat
  deriving Inhabited

namespace Store

def empty : Store := ⟨[], [], [], [], 0⟩

/-- A project takes the place of one with the same identifier. -/
def insertProject (s : Store) (p : Project) : Store :=
  { s with projects := s.projects.filter (·.id != p.id) ++ [p] }

/-- A rule takes the place of one with the same identifier and becomes the last. -/
def insertRule (s : Store) (r : Rule) : Store :=
  { s with rules := s.rules.filter (·.id != r.id) ++ [r] }

def project? (s : Store) (id : Uuid) : Option Project := s.projects.find? (·.id == id)

def rule? (s : Store) (id : Uuid) : Option Rule := s.rules.find? (·.id == id)

/-- Changes the first rule with an identifier. -/
def updateFirst (id : Uuid) (change : Rule → Rule) : List Rule → List Rule
  | [] => []
  | r :: rest => if r.id = id then change r :: rest else r :: updateFirst id change rest

/-- Changes a rule in its place; says whether there was one. -/
def updateRule (s : Store) (id : Uuid) (change : Rule → Rule) : Bool × Store :=
  ((s.rule? id).isSome, { s with rules := updateFirst id change s.rules })

/-- Rules are tried in the order of their creation, and of their identifiers within one instant. -/
def ruleLe (a b : Rule) : Bool :=
  a.createdAt.lt b.createdAt || (a.createdAt == b.createdAt && a.id.le b.id)

/-- A project with its active rules. -/
def ruleBook? (s : Store) (projectId : Uuid) : Option RuleBook :=
  (s.project? projectId).map fun p =>
    ⟨p, (s.rules.filter fun r => r.projectId == projectId && r.isActive).mergeSort ruleLe⟩

/-- Loads a project with its active rules, and counts the load. -/
def fetchRuleBook (s : Store) (projectId : Uuid) : Option RuleBook × Store :=
  (s.ruleBook? projectId, { s with projectFetches := s.projectFetches + 1 })

def entry? (s : Store) (id : Uuid) : Option Entry := s.entries.find? (·.id == id)

/-- The entry of a rule and a code's hash. -/
def fetchEntry (s : Store) (ruleId : Uuid) (hash : String) : Option Entry :=
  (s.index.lookup (ruleId, hash)).bind s.entry?

/-- Makes an entry with a fresh identifier, unless the rule and the hash have one. -/
def insertEntry (s : Store) (d : Draft) (id : Uuid) (now : Instant) : Option Entry × Store :=
  match s.index.lookup (d.ruleId, d.codeHash) with
  | some _ => (none, s)
  | none =>
    let e := d.entry id now
    (some e,
      { s with entries := s.entries.filter (·.id != id) ++ [e],
               index := s.index ++ [((d.ruleId, d.codeHash), id)] })

/-- One redemption more. -/
def increment (e : Entry) : Entry := { e with count := e.count + 1 }

/-- Counts one redemption more, unless the entry has reached a limit. -/
def incrementEntry (s : Store) (id : Uuid) (limit : Int32) : Option Entry × Store :=
  match s.entry? id with
  | none => (none, s)
  | some e =>
    if limit ≤ e.count then (none, s)
    else
      (some (increment e),
        { s with entries := s.entries.map fun x => if x.id = id then increment x else x })

/-- An entry with its names; none if its rule or project is gone. -/
def detail? (s : Store) (e : Entry) : Option Detail := do
  let r ← s.rule? e.ruleId
  let p ← s.project? r.projectId
  pure ⟨e, r.name, p.id, p.name⟩

def findDetail (s : Store) (id : Uuid) : Option Detail := (s.entry? id).bind s.detail?

def details (s : Store) : List Detail := s.entries.filterMap s.detail?

/-- The latest redemption first; within one instant the larger identifier. -/
def detailLe (a b : Detail) : Bool :=
  b.entry.redeemedAt.lt a.entry.redeemedAt ||
    (a.entry.redeemedAt == b.entry.redeemedAt && b.entry.id.le a.entry.id)

/-- All entries that a filter shows, latest first. -/
def matching (s : Store) (f : Filter) : List Detail :=
  (s.details.filter f.admits).mergeSort detailLe

/-- One page of the entries that a filter shows, and the number of all of them. -/
def list (s : Store) (f : Filter) : List Detail × Nat :=
  let all := s.matching f
  ((all.drop f.offset.toNat).take f.limit.toInt.toNat, all.length)

/-- Raises the count of an element by one. -/
def bump {α : Type} [DecidableEq α] (a : α) : List (α × Nat) → List (α × Nat)
  | [] => [(a, 1)]
  | (b, n) :: rest => if b = a then (b, n + 1) :: rest else (b, n) :: bump a rest

/-- Counts the occurrences of each element; each is listed once. -/
def tally {α : Type} [DecidableEq α] : List α → List (α × Nat)
  | [] => []
  | a :: rest => bump a (tally rest)

/-- More redemptions first, then by name, then by identifier. -/
def ruleCountLe (a b : RuleCount) : Bool :=
  b.count < a.count || (a.count == b.count &&
    (a.ruleName < b.ruleName || (a.ruleName == b.ruleName && a.ruleId.le b.ruleId)))

/-- How often a project's codes have been redeemed: in all, by rule, and by
day from an instant on. -/
def statistics (s : Store) (projectId : Uuid) (since : Instant) : Statistics :=
  let all := s.details.filter (·.projectId == projectId)
  let recent := all.filter fun d => since.le d.entry.redeemedAt
  let byRule := (tally (all.map fun d => (d.entry.ruleId, d.ruleName))).map fun t =>
    (⟨t.1.1, t.1.2, t.2⟩ : RuleCount)
  let byDay := (tally (recent.map (·.entry.redeemedAt.dayNumber))).map fun t =>
    (⟨t.1, t.2⟩ : DayCount)
  { projectId := projectId
    total := all.length
    users := (tally (all.filterMap (·.entry.userId))).length
    byRule := byRule.mergeSort ruleCountLe
    byDay := byDay.mergeSort fun a b => b.day ≤ a.day }

end Store

end Voucher.Ledger
