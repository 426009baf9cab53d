import Voucher.KeyValue.Server
import Voucher.Proofs.Keyed

/-! What the commands of a key-value server do to its entries. A command that is refused, and one
that finds nothing to do, leaves them as they were. -/
namespace Voucher.KeyValue.Server

variable {s t : Server} {key other text : String}

theorem value?_of_entries (same : t.entries = s.entries) (key : String) :
    t.value? key = s.value? key := by
  rw [value?, value?, same]

theorem value?_put_self (s : Server) (key text : String) :
    (s.put key text).value? key = some text :=
  Keyed.lookup_putMember_self key text s.entries

theorem value?_put_ne (s : Server) (ne : other ≠ key) (text : String) :
    (s.put key text).value? other = s.value? other :=
  Keyed.lookup_putMember_ne ne text s.entries

theorem value?_remove_ne (s : Server) (ne : other ≠ key) :
    (s.remove [key]).value? other = s.value? other := by
  have single : (s.remove [key]).entries = s.entries.filter (·.1 != key) := by
    simp only [remove, List.contains_cons, List.contains_nil, Bool.or_false]
    rfl
  rw [value?, single]
  exact Keyed.lookup_filter_ne s.entries ne

theorem get_entries (s : Server) (key : String) : (s.get key).2.entries = s.entries := by
  unfold get perform
  split <;> rfl

theorem value?_putFor_ne (s : Server) (ne : other ≠ key) (text : String) (seconds : Nat) :
    (s.putFor key text seconds).2.value? other = s.value? other := by
  unfold putFor perform
  split
  · rfl
  · exact value?_put_ne s ne text

/-- Removing all keys of a pattern leaves none of them, and every other key as it was. -/
theorem value?_remove_matching (s : Server) (pattern key : String) :
    (s.remove ((s.entries.filter fun e =>
        Cache.Glob.acceptsString pattern e.1).map Prod.fst)).value? key =
      if Cache.Glob.acceptsString pattern key then none else s.value? key := by
  have kept := Keyed.lookup_filter
    (fun k =>
      !((s.entries.filter fun e => Cache.Glob.acceptsString pattern e.1).map Prod.fst).contains k)
    s.entries key
  rw [value?, remove, kept]
  cases accepted : Cache.Glob.acceptsString pattern key with
  | false => simp [accepted, value?]
  | true =>
      cases held : s.entries.lookup key with
      | none => simp
      | some text =>
          obtain ⟨before, after, whole, -⟩ := List.lookup_eq_some_iff.mp held
          have member : (key, text) ∈ s.entries :=
            whole ▸ List.mem_append_right before List.mem_cons_self
          have listed : (∃ found, (key, found) ∈ s.entries) ∧
              Cache.Glob.acceptsString pattern key = true :=
            ⟨⟨text, member⟩, accepted⟩
          simpa using listed

theorem value?_deleteMatching (up : s.isDown = false) (pattern key : String) :
    (s.deleteMatching pattern).2.value? key =
      if Cache.Glob.acceptsString pattern key then none else s.value? key := by
  rw [← value?_remove_matching]
  unfold deleteMatching keys perform
  cases found : (s.entries.filter fun e => Cache.Glob.acceptsString pattern e.1).map Prod.fst with
  | nil => simp [up, found, value?, remove]
  | cons k more => simp [up, found, delete, perform, value?, remove]

/-- A server that is down keeps everything. -/
theorem deleteMatching_down (down : s.isDown = true) (pattern : String) :
    s.deleteMatching pattern = (.error (), s) := by
  simp [deleteMatching, keys, perform, down]

theorem perform_isDown (s : Server) (c : Command) (effect : Server → α × Server)
    (keeps : (effect s).2.isDown = s.isDown) : (s.perform c effect).2.isDown = s.isDown := by
  unfold perform
  split
  · rfl
  · exact keeps

/-- A claim is granted on a free key only, and otherwise does nothing. -/
theorem claim_cases (s : Server) (key owner : String) (lease : Nat) :
    ((s.claim key owner lease).1 = .ok true ∧ s.value? key = none ∧
        (s.claim key owner lease).2.entries = (s.put key owner).entries) ∨
      ((s.claim key owner lease).1 ≠ .ok true ∧
        (s.claim key owner lease).2.entries = s.entries) := by
  unfold claim perform
  by_cases down : s.isDown
  · simp [down]
  · by_cases nothing : lease = 0
    · simp [down, nothing]
    · cases found : s.value? key <;> simp [down, nothing, found]

theorem claim_free (up : s.isDown = false) (lasting : lease ≠ 0) (free : s.value? key = none)
    (owner : String) : (s.claim key owner lease).1 = .ok true := by
  simp [claim, perform, up, lasting, free]

theorem claim_fails (failing : s.isDown = true ∨ lease = 0) (key owner : String) :
    (s.claim key owner lease).1 = .error () := by
  unfold claim perform
  by_cases down : s.isDown
  · simp [down]
  · simp [down, failing.resolve_left down]

/-- Only its owner removes a key by giving it up. -/
theorem yieldKey_cases (s : Server) (key owner : String) :
    (s.value? key = some owner ∧ (s.yieldKey key owner).2.entries = (s.remove [key]).entries) ∨
      (s.yieldKey key owner).2.entries = s.entries := by
  unfold yieldKey perform
  by_cases down : s.isDown
  · simp [down]
  · by_cases held : s.value? key = some owner <;> simp [down, held]

end Voucher.KeyValue.Server
