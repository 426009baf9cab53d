import Voucher.Proofs.Ledger.Listing
import Voucher.Proofs.Service.Deployment
import Voucher.Query.Run
import Voucher.Rule.Sample

/-! Pages of a listing. A query that is answered asks the ledger for a page at its exact place, and
the pages one after another are the whole listing. -/
namespace Voucher

/-- Pieces of one length, one after another. -/
theorem flatMap_pieces (xs : List α) (size count : Nat) :
    (List.range count).flatMap (fun k => (xs.drop (k * size)).take size) =
      xs.take (count * size) := by
  induction count with
  | zero => simp
  | succ count ih =>
      rw [List.range_succ, List.flatMap_append, ih, Nat.succ_mul, List.take_add]
      simp

namespace Query

open Service

namespace Listing

/-- The query with another page. -/
def turnTo (l : Listing) (n : Int64) : Listing := { l with page := some n }

/-- A query for a page that there may be. -/
@[mk_iff]
structure Sound (l : Listing) : Prop where
  page : 1 ≤ l.filter.page.toInt
  limit : 1 ≤ l.filter.limit.toInt ∧ l.filter.limit.toInt ≤ 100
  stretch : ∀ a b, l.since = some a → l.upTo = some b → a.le b
  range : (l.filter.page.toInt - 1) * l.filter.limit.toInt < 9223372036854775808

variable {l : Listing}

theorem isReversed_eq_false :
    l.isReversed = false ↔ ∀ a b, l.since = some a → l.upTo = some b → a.le b := by
  unfold isReversed
  cases l.since <;> cases l.upTo <;> simp [Instant.le]

theorem exactOffset_eq (page : 1 ≤ l.filter.page.toInt) (limit : 1 ≤ l.filter.limit.toInt) :
    l.filter.exactOffset = (l.filter.page.toInt - 1) * l.filter.limit.toInt := by
  rw [Ledger.Filter.exactOffset, Int.max_eq_left page, Int.max_eq_left (by omega)]

theorem offset?_isNone (page : 1 ≤ l.filter.page.toInt) (limit : 1 ≤ l.filter.limit.toInt) :
    l.filter.offset?.isNone = false ↔ (l.filter.page.toInt - 1) * l.filter.limit.toInt <
      9223372036854775808 := by
  rw [← exactOffset_eq page limit, Ledger.Filter.offset?]
  split <;> simp <;> omega

/-- A query is refused unless there may be such a page. -/
theorem fault?_eq_none_iff : l.fault? = none ↔ l.Sound := by
  have one : (1 : Int64).toInt = 1 := rfl
  have hundred : maxLimit.toInt = 100 := rfl
  rw [sound_iff, ← isReversed_eq_false, fault?]
  simp only [Int64.lt_iff_toInt_lt, one, hundred, Bool.or_eq_true, decide_eq_true_eq]
  by_cases page : l.filter.page.toInt < 1
  · simp only [if_pos page, reduceCtorEq, false_iff]
    omega
  by_cases limit : l.filter.limit.toInt < 1 ∨ 100 < l.filter.limit.toInt
  · simp only [if_neg page, if_pos limit, reduceCtorEq, false_iff]
    omega
  have positive : 1 ≤ l.filter.page.toInt ∧ 1 ≤ l.filter.limit.toInt ∧
      l.filter.limit.toInt ≤ 100 := by omega
  rw [if_neg page, if_neg limit, ← offset?_isNone positive.1 positive.2.1]
  cases l.isReversed <;> cases l.filter.offset?.isNone <;> simp [positive]

theorem Sound.offset (sound : l.Sound) :
    l.filter.offset = (l.filter.page.toInt - 1) * l.filter.limit.toInt := by
  have exact := exactOffset_eq sound.page sound.limit.1
  have fits := sound.range
  rw [← exact] at fits ⊢
  rw [Ledger.Filter.offset, Ledger.Filter.offset?, if_pos (by omega)]
  rfl

end Listing

theorem list_unsound (unsound : ¬ l.Sound) :
    ∃ fault : Listing.Fault, list l = pure (.error (.validation fault.message)) := by
  rw [← Listing.fault?_eq_none_iff] at unsound
  obtain ⟨fault, found⟩ := Option.ne_none_iff_exists'.mp unsound
  exact ⟨fault, by rw [list, found]⟩

/-- A query that can be answered asks the ledger for its page. -/
theorem list_sound (sound : l.Sound) :
    list l = (Action.listDetails l.filter).andThen fun found =>
      pure (.ok ⟨found.1, ⟨l.filter.page.toInt, l.filter.limit.toInt, found.2⟩⟩) := by
  rw [list, Listing.fault?_eq_none_iff.mpr sound]

section Pages

variable {d : Deployment} {l : Listing} {n : Int64} {p : Page}

/-- What a query shows, on all its pages. -/
def shown (d : Deployment) (l : Listing) : List Ledger.Detail := d.store.matching l.filter

/-- How long a page is. -/
def Listing.size (l : Listing) : Nat := l.filter.limit.toInt.toNat

/-- How a page of a query is answered. -/
def turn (d : Deployment) (l : Listing) (n : Int64) : Result Page :=
  (d.perform (list (l.turnTo n))).1

/-- How many pages there are. -/
def Listing.pageCount (l : Listing) (total : Nat) : Nat := (total + l.size - 1) / l.size

theorem lt_pageCount_iff (positive : 0 < l.size) {total k : Nat} :
    k < l.pageCount total ↔ k * l.size < total := by
  rw [Listing.pageCount, Nat.lt_iff_add_one_le, Nat.le_div_iff_mul_le positive, Nat.succ_mul]
  omega

theorem pageCount_le (positive : 0 < l.size) (total : Nat) : l.pageCount total ≤ total := by
  by_contra more
  have less := (lt_pageCount_iff positive).mp (Nat.lt_of_not_le more)
  exact Nat.not_lt.mpr (Nat.le_mul_of_pos_right total positive) less

theorem le_pageCount_mul (positive : 0 < l.size) (total : Nat) :
    total ≤ l.pageCount total * l.size :=
  Nat.not_lt.mp fun less => Nat.lt_irrefl _ ((lt_pageCount_iff positive).mpr less)

theorem Listing.size_eq (limit : 1 ≤ l.filter.limit.toInt) :
    (l.size : Int) = l.filter.limit.toInt :=
  Int.toNat_of_nonneg (by omega)

theorem totalPages_eq (limit : 1 ≤ l.filter.limit.toInt) (page : Int) (total : Nat) :
    Pagination.totalPages ⟨page, l.filter.limit.toInt, total⟩ = l.pageCount total := by
  have size := Listing.size_eq limit
  have positive : 1 ≤ l.size := by omega
  have counted : Pagination.totalPages ⟨page, l.filter.limit.toInt, total⟩ =
      Int.tdiv (total + l.filter.limit.toInt - 1) l.filter.limit.toInt :=
      if_pos (show 0 < l.filter.limit.toInt by omega)
  rw [counted, Int.tdiv_eq_ediv_of_nonneg (by omega), Listing.pageCount, Int.natCast_ediv,
    Int.natCast_sub (by omega), Int.natCast_add, size]
  rfl

/-- A page of a query that can be answered is the piece at its place. -/
theorem turn_sound (served : d.outages.lookup .list = none) (sound : (l.turnTo n).Sound) :
    turn d l n = .ok ⟨((shown d l).drop ((n.toInt - 1).toNat * l.size)).take l.size,
      ⟨n.toInt, l.filter.limit.toInt, (shown d l).length⟩⟩ := by
  have found : d.perform (Action.listDetails (l.turnTo n).filter) =
      (.ok ((d.store.list (l.turnTo n).filter).1, (d.store.list (l.turnTo n).filter).2), d) :=
    Deployment.perform_served (by simpa [Call.target?] using served)
  have place : (l.turnTo n).filter.offset.toNat = (n.toInt - 1).toNat * l.size := by
    have page := sound.page
    have limit := sound.limit.1
    rw [sound.offset]
    exact Int.toNat_mul (by omega) (by omega)
  rw [turn, list_sound sound, Deployment.perform_andThen found, Ledger.Store.list, place]
  rfl

theorem sound_of_turn (answered : turn d l n = .ok p) : (l.turnTo n).Sound := by
  by_contra unsound
  obtain ⟨fault, refused⟩ := list_unsound unsound
  rw [turn, refused, Deployment.perform_pure] at answered
  contradiction

/-- The pages of a query are all that it shows. -/
structure Partition (d : Deployment) (l : Listing) (all : List Ledger.Detail) (pages : List Page) :
    Prop where
  /-- These are the answers for the pages from the first on; each page has a number. -/
  answered : pages.map .ok = (List.range pages.length).map fun k => turn d l (Int64.ofNat (k + 1))
  numbered : pages.length < 2 ^ 63
  whole : pages.flatMap (·.items) = all
  full : ∀ p ∈ pages.dropLast, (p.items.length : Int) = l.filter.limit.toInt
  /-- Whatever page is answered tells how many redemptions and pages there are. -/
  counted : ∀ n p, turn d l n = .ok p →
    p.pagination = ⟨n.toInt, l.filter.limit.toInt, all.length⟩ ∧
    p.pagination.totalPages = pages.length
  beyond : ∀ n p, turn d l n = .ok p → pages.length < n.toInt → p.items = []

/-- The page at a place among all pages. -/
def piece (l : Listing) (all : List Ledger.Detail) (k : Nat) : Page :=
  ⟨(all.drop (k * l.size)).take l.size, ⟨k + 1, l.filter.limit.toInt, all.length⟩⟩

/-- A page that is followed by another is full. -/
theorem piece_full (positive : 0 < l.size) (next : k + 1 < l.pageCount all.length) :
    (piece l all k).items.length = l.size := by
  have reach := (lt_pageCount_iff positive).mp next
  rw [Nat.succ_mul] at reach
  rw [piece, List.length_take, List.length_drop]
  omega

theorem turn_place (served : d.outages.lookup .list = none)
    (limit : 1 ≤ l.filter.limit.toInt ∧ l.filter.limit.toInt ≤ 100)
    (stretch : ∀ a b, l.since = some a → l.upTo = some b → a.le b) {k : Nat}
    (small : k + 1 < 2 ^ 63)
    (reach : k * l.size < 2 ^ 63) :
    turn d l (Int64.ofNat (k + 1)) = .ok (piece l (shown d l) k) := by
  have number : (Int64.ofNat (k + 1)).toInt = k + 1 := by
    rw [Int64.toInt_ofNat_of_lt small]
    rfl
  have sound : (l.turnTo (Int64.ofNat (k + 1))).Sound := by
    refine ⟨?_, limit, stretch, ?_⟩
    · change 1 ≤ (Int64.ofNat (k + 1)).toInt
      omega
    · change ((Int64.ofNat (k + 1)).toInt - 1) * l.filter.limit.toInt < 9223372036854775808
      rw [number, Int.add_sub_cancel, ← Listing.size_eq limit.1, ← Int.natCast_mul]
      omega
  rw [turn_sound served sound, number, Int.add_sub_cancel, Int.toNat_natCast]
  rfl

/-- As many pages as there are hold all that there is. -/
theorem partition (served : d.outages.lookup .list = none) (few : d.store.entries.length < 2 ^ 63)
    (limit : 1 ≤ l.filter.limit.toInt ∧ l.filter.limit.toInt ≤ 100)
    (stretch : ∀ a b, l.since = some a → l.upTo = some b → a.le b) :
    Partition d l (shown d l)
      ((List.range (l.pageCount (shown d l).length)).map (piece l (shown d l))) := by
  have positive : 0 < l.size := Int.pos_iff_toNat_pos.mp (by omega)
  have total : (shown d l).length < 2 ^ 63 :=
    Nat.lt_of_le_of_lt (d.store.length_matching_le l.filter) few
  have count := pageCount_le positive (shown d l).length
  constructor
  case answered =>
    rw [List.length_map, List.length_range, List.map_map]
    refine List.map_congr_left fun k member => ?_
    have there := List.mem_range.mp member
    have reach := (lt_pageCount_iff positive).mp there
    exact (turn_place served limit stretch (by omega) (by omega)).symm
  case numbered =>
    rw [List.length_map, List.length_range]
    omega
  case whole =>
    rw [List.flatMap_map]
    exact (flatMap_pieces _ _ _).trans (List.take_of_length_le (le_pageCount_mul positive _))
  case full =>
    -- Without its last page the list of pages is the list of all pages that another follows.
    intro p member
    cases last : l.pageCount (shown d l).length with
    | zero => simp [last] at member
    | succ before =>
        rw [last, List.range_succ, List.map_append, List.map_singleton,
          List.dropLast_concat] at member
        obtain ⟨k, earlier, rfl⟩ := List.mem_map.mp member
        have next : k + 1 < l.pageCount (shown d l).length := by
          have place := List.mem_range.mp earlier
          omega
        rw [piece_full positive next, Listing.size_eq limit.1]
  case counted =>
    intro n p answered
    rw [turn_sound served (sound_of_turn answered)] at answered
    cases answered
    refine ⟨rfl, ?_⟩
    rw [List.length_map, List.length_range]
    exact totalPages_eq limit.1 _ _
  case beyond =>
    intro n p answered later
    rw [turn_sound served (sound_of_turn answered)] at answered
    cases answered
    rw [List.length_map, List.length_range] at later
    have past : (shown d l).length ≤ (n.toInt - 1).toNat * l.size :=
      Nat.le_trans (le_pageCount_mul positive _) (Nat.mul_le_mul_right l.size (by omega))
    simp only [List.drop_eq_nil_of_le past, List.take_nil]

/-- The entries of a ledger have identifiers of their own, and are no more than a signed word can
tell. The pages of a query are then, one after another, all entries that the query shows, the latest
first. A query for a page that there cannot be asks nothing, and any other asks for the exact place
of its page. -/
theorem pages_partition_listing (d : Deployment) (served : d.outages.lookup .list = none)
    (ids : (d.store.entries.map (·.id)).Nodup) (few : d.store.entries.length < 2 ^ 63) :
    (∀ l : Listing, 1 ≤ l.filter.limit.toInt ∧ l.filter.limit.toInt ≤ 100 →
      (∀ a b, l.since = some a → l.upTo = some b → a.le b) →
      ∃ all pages, all.Pairwise Ledger.Detail.Newer ∧
        (∀ x, x ∈ all ↔ ∃ e ∈ d.store.entries, d.store.Names e x ∧ l.filter.Shows x) ∧
        Partition d l all pages) ∧
    ∀ (l : Listing) (σ : Type) (answer : (q : Call) → σ → q.Answer × σ) (s : σ),
      (¬ l.Sound → ∃ fault : Listing.Fault,
        (list l).run answer s = (.error (.validation fault.message), s) ∧
        (list l).asked answer s = []) ∧
      (l.Sound → (list l).asked answer s = [.listDetails l.filter] ∧
        l.filter.offset = (l.filter.page.toInt - 1) * l.filter.limit.toInt) := by
  refine ⟨fun l limit stretch => ?_, fun l σ answer s => ⟨fun unsound => ?_, fun sound => ?_⟩⟩
  · exact ⟨shown d l, _, Ledger.Store.matching_newer ids l.filter,
      fun x => Ledger.Store.mem_matching, partition served few limit stretch⟩
  · obtain ⟨fault, refused⟩ := list_unsound unsound
    exact ⟨fault, by rw [refused]; rfl, by rw [refused]; rfl⟩
  · refine ⟨?_, sound.offset⟩
    rw [list_sound sound, Action.andThen, Script.asked_bind]
    cases (Action.listDetails l.filter).run answer s with
    | mk found t => cases found <;> rfl

/-- A ledger with two redemptions at one instant. -/
def simultaneous : Deployment :=
  let made (n : Nat) : Ledger.Entry := (default : Ledger.Draft).entry (.ofNat n) .epoch
  { Deployment.inMemory .standard .epoch 0 with
    store := { Ledger.Store.empty with
      projects := [Project.sample], rules := [Rule.sample], entries := [made 1, made 2] } }

/-- On pages of one each, both are there. -/
theorem pages_partition_listing_simultaneous : ∃ all pages,
    (∀ e ∈ simultaneous.store.entries, ⟨e, "Luhn 11", .nil, "Test Project"⟩ ∈ all) ∧
      Partition simultaneous { (default : Listing) with limit := some 1 } all pages := by
  have ids : (simultaneous.store.entries.map (·.id)).Nodup := by decide
  obtain ⟨all, pages, -, content, partition⟩ :=
    (pages_partition_listing simultaneous rfl ids (by decide)).1
    { (default : Listing) with limit := some 1 } (by decide) nofun
  refine ⟨all, pages, fun e member => (content _).mpr ⟨e, member, ?_, nofun, nofun, nofun⟩,
    partition⟩
  obtain rfl | rfl : e = _ ∨ e = _ := by simpa [simultaneous] using member
  · exact ⟨Rule.sample, Project.sample, rfl, rfl, rfl⟩
  · exact ⟨Rule.sample, Project.sample, rfl, rfl, rfl⟩

end Pages

end Query

end Voucher
