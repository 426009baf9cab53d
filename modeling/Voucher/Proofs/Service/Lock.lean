import Voucher.Proofs.Cache.Key
import Voucher.Proofs.Cache.Rules
import Voucher.Proofs.Instant
import Voucher.Proofs.KeyValue.Server
import Voucher.Proofs.Lock.Rows

/-! When a lock of a deployment is to be had, wherever its locks are. A lock that is free stays free
while rules are loaded, and is granted at the first try. -/
namespace Voucher

namespace Service.Deployment

variable {d e : Deployment} {key : String} {lease : UInt64} {cache : Cache.Memory}
  {locks : Lock.Table} {server : KeyValue.Server} {rows : Option Lock.Rows} {process : Uuid}

/-- A lock is to be had: within the process if nobody holds it still, on the server if nobody holds
it at all. Where the server fails, the database has to be there and without a row that still counts,
and the lease has to be one that a row can be given, also after one more reading of the clock. -/
def LockFree (d : Deployment) (key : String) (lease : UInt64) : Prop :=
  match d.backing with
  | .process _ locks => locks.isFree key d.clock
  | .server server rows _ =>
    if server.isDown ∨ lease.toNat = 0 then
      lease.toNat ≤ Lock.Distributed.longestRowLease ∧
        Lock.Distributed.leaseEnds (d.clock.addNanos tick) lease.toNat ∧
        ∃ t, rows = some t ∧ t.isDown = false ∧
          ∀ row, t.row? key = some row → row.expiry.lt d.clock
    else server.value? key = none

theorem attempt_server (up : ¬ (server.isDown ∨ lease.toNat = 0)) (free : server.value? key = none)
    (fallback : Bool) (owner : String) (now : Instant) :
    ((Lock.Distributed.attempt fallback key owner lease.toNat).run Backends.answer
      ⟨server, rows, now⟩).1 = .granted .keyValue := by
  rw [not_or, Bool.not_eq_true] at up
  have granted := KeyValue.Server.claim_free up.1 up.2 free owner
  simp only [Lock.Distributed.attempt, Lock.Distributed.claim, Script.run_bind, Script.call,
    Script.run, Backends.answer, granted]
  rfl

theorem attempt_database {t : Lock.Rows} {now : Instant}
    (failing : server.isDown ∨ lease.toNat = 0)
    (short : lease.toNat ≤ Lock.Distributed.longestRowLease)
    (ends : Lock.Distributed.leaseEnds now lease.toNat) (up : t.isDown = false)
    (lapsed : ∀ row, t.row? key = some row → row.expiry.lt now) (owner : String) :
    ((Lock.Distributed.attempt true key owner lease.toNat).run Backends.answer
      ⟨server, some t, now⟩).1 = .granted .database := by
  have failed := KeyValue.Server.claim_fails failing key owner
  obtain ⟨purged, still, free⟩ := Lock.Rows.purge_lapsed up lapsed
  have granted := Lock.Rows.claim_free still free owner lease.toNat now
  simp only [Lock.Distributed.attempt, Lock.Distributed.attemptRow, Lock.Distributed.takeRow,
    if_neg (Nat.not_lt_of_le short), Lock.Distributed.claim, Lock.Distributed.clock,
    Lock.Distributed.purge, Lock.Distributed.claimRow, Script.run_bind, Script.call, Script.run,
    Backends.answer, Backends.onRows, failed, ends, purged, granted, if_true]
  rfl

theorem acquire_first {b : Backends} {place : Lock.Place} (fallback : Bool) (owner : String)
    (n lease : Nat) (granted : ((Lock.Distributed.attempt fallback key owner lease).run
      Backends.answer b).1 = .granted place) :
    ((Lock.Distributed.acquire fallback key owner lease (n + 1)).run Backends.answer b).1 =
      .granted ⟨key, owner, place⟩ := by
  rw [Lock.Distributed.acquire, Script.run_bind, granted]
  rfl

theorem isFree_later {now later : Instant} (free : locks.isFree key now) (after : now.le later) :
    locks.isFree key later := by
  rw [Lock.Table.isFree] at free ⊢
  cases found : locks.holding? key with
  | none => rfl
  | some h =>
      simp only [found] at free
      exact Instant.le_trans free after

theorem acquire_granted (backing : d.backing = .server server rows process)
    (tried : ∀ owner, ∃ place, ((Lock.Distributed.attempt rows.isSome key owner lease.toNat).run
      Backends.answer ⟨server, rows, d.clock⟩).1 = .granted place) :
    ∃ guard, (d.acquire key lease).1 = .ok guard := by
  obtain ⟨more, positive⟩ : ∃ more, d.lockConfig.attempts = more + 1 :=
    Nat.exists_eq_add_one.mpr (Nat.le_max_left 1 _)
  obtain ⟨place, granted⟩ := tried (process.text ++ ":" ++ (identifier d.identifiers).text)
  refine ⟨⟨key, process.text ++ ":" ++ (identifier d.identifiers).text, place⟩, ?_⟩
  simp only [acquire, takeIdentifier, readClock, backing, positive, acquire_first _ _ _ _ granted,
    Lock.Distributed.result?, Option.getD_some]

/-- Whoever reads the clock and then asks for a free lock is granted it at the first try. -/
theorem acquire_of_free (free : d.LockFree key lease) :
    ∃ guard, ((answer .now d).2.acquire key lease).1 = .ok guard := by
  have same : (answer .now d).2.backing = d.backing := rfl
  have read : (answer .now d).2.clock = d.clock.addNanos tick := rfl
  have later : d.clock.le (d.clock.addNanos tick) := d.clock.le_addNanos tick
  unfold LockFree at free
  rw [← read] at free later
  cases backing : d.backing with
  | process cache locks =>
      simp only [backing] at free
      obtain ⟨h, granted⟩ := acquire_free (same.trans backing) (isFree_later free later) lease
      exact ⟨_, by rw [granted]⟩
  | server server rows process =>
      simp only [backing] at free
      refine acquire_granted (same.trans backing) fun owner => ?_
      by_cases failing : server.isDown ∨ lease.toNat = 0
      · rw [if_pos failing] at free
        obtain ⟨short, ends, t, rfl, up, lapsed⟩ := free
        exact ⟨_, attempt_database failing short ends up
          (fun row found => Instant.lt_of_lt_of_le (lapsed row found) later) owner⟩
      · rw [if_neg failing] at free
        exact ⟨_, attempt_server failing free _ owner _⟩

theorem LockFree.of_process {held : Cache.Memory} (free : d.LockFree key lease)
    (before : d.backing = .process held locks) (after : e.backing = .process cache locks)
    (later : d.clock.le e.clock) : e.LockFree key lease := by
  unfold LockFree at free ⊢
  simp only [before, after] at free ⊢
  exact isFree_later free later

theorem LockFree.of_server {held : KeyValue.Server} (free : d.LockFree key lease)
    (before : d.backing = .server held rows process)
    (after : e.backing = .server server rows process)
    (down : server.isDown = held.isDown) (value : server.value? key = held.value? key)
    (same : e.clock = d.clock) : e.LockFree key lease := by
  unfold LockFree at free ⊢
  simp only [before, after] at free ⊢
  rw [down, value, same]
  exact free

theorem LockFree.of_same (free : d.LockFree key lease) (backing : e.backing = d.backing)
    (clock : e.clock = d.clock) : e.LockFree key lease := by
  unfold LockFree at free ⊢
  rw [backing, clock]
  exact free

/-- Loading the rules of a project takes no lock away. -/
theorem LockFree.serve {q : Call} (free : d.LockFree key lease)
    (loading : Cache.Rules.Loading projectId q) (other : key ≠ Cache.Rules.key projectId) :
    (serve q d).2.LockFree key lease := by
  cases q with
  | fetchRuleBook | count => exact free.of_same rfl rfl
  | readCache k =>
      cases backing : d.backing with
      | process cache locks =>
          simp only [Deployment.serve, readCache, readClock, backing]
          exact free.of_process backing rfl (Instant.le_addNanos _ _)
      | server server rows process =>
          simp only [Deployment.serve, readCache, backing]
          exact free.of_server backing rfl (server.perform_isDown _ _ rfl)
            (KeyValue.Server.value?_of_entries (server.get_entries k) key) rfl
  | writeCache k text life =>
      obtain rfl : k = Cache.Rules.key projectId := loading
      cases backing : d.backing with
      | process cache locks =>
          simp only [Deployment.serve, writeCache, readClock, backing]
          exact free.of_process backing rfl (Instant.le_addNanos _ _)
      | server server rows process =>
          simp only [Deployment.serve, writeCache, backing]
          exact free.of_server backing rfl (server.perform_isDown _ _ rfl)
            (server.value?_putFor_ne other text _) rfl
  | _ => exact loading.elim

theorem LockFree.answer {q : Call} (free : d.LockFree key lease)
    (loading : Cache.Rules.Loading projectId q) (other : key ≠ Cache.Rules.key projectId) :
    (answer q d).2.LockFree key lease := by
  unfold Deployment.answer
  split
  · rename_i outage struck
    cases q with
    | count => simp [Call.target?] at struck
    | readCache | writeCache => exact free
    | fetchRuleBook => cases outage <;> exact free.of_same rfl rfl
    | _ => exact loading.elim
  · exact free.serve loading other

theorem LockFree.perform {m : Action α} (free : d.LockFree key lease)
    (asks : m.Asks (Cache.Rules.Loading projectId)) (other : key ≠ Cache.Rules.key projectId) :
    (d.perform m).2.LockFree key lease := by
  have kept := asks.run (R := fun d e : Deployment => d.LockFree key lease → e.LockFree key lease)
    (fun _ => id) (fun first second => second ∘ first)
    (fun _ _ loading free => free.answer loading other) d
  exact kept free

end Service.Deployment

end Voucher
