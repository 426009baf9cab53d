import Voucher.Cache.Key
import Voucher.Cache.Memory
import Voucher.Proofs.Instant
import Voucher.Proofs.Keyed
import Voucher.Proofs.Uuid

/-! What the cache in memory holds under a key after each operation. -/
namespace Voucher.Cache

theorem Key.project_inj {a b : String} (same : Key.project a = Key.project b) : a = b := by
  unfold Key.project at same
  exact String.append_right_inj _ |>.mp same

namespace Memory

variable {m : Memory} {key other text : String} {slot : Slot} {now : Instant} {life : Nat}

@[simp] theorem slot?_delete_self (m : Memory) (key : String) : (m.delete key).slot? key = none :=
  Keyed.lookup_filter_self m.slots key

theorem slot?_delete_ne (different : other ≠ key) : (m.delete key).slot? other = m.slot? other :=
  Keyed.lookup_filter_ne m.slots different

/-- Deleting leaves no slot that was not there. -/
theorem slot?_of_delete (found : (m.delete key).slot? other = some slot) :
    m.slot? other = some slot := by
  by_cases same : other = key
  · rw [same, slot?_delete_self] at found
    contradiction
  · rwa [slot?_delete_ne same] at found

@[simp] theorem slot?_write_self (m : Memory) (key text : String) (life : Nat) (now : Instant) :
    (m.write key text life now).slot? key = some ⟨text, now.addNanos life⟩ := by
  have gone := slot?_delete_self m key
  unfold slot? at gone ⊢
  simp [write, List.lookup_append, gone]

theorem slot?_write_ne (different : other ≠ key) :
    (m.write key text life now).slot? other = m.slot? other := by
  have kept := slot?_delete_ne (m := m) different
  have elsewhere : (other == key) = false := beq_eq_false_iff_ne.mpr different
  unfold slot? at kept ⊢
  simp [write, List.lookup_append, List.lookup_cons, elsewhere, kept]

/-- A text is read until it expires; otherwise nothing is found, and no slot appears. -/
theorem read_cases (m : Memory) (key : String) (now : Instant) :
    (∃ slot, m.slot? key = some slot ∧ now.lt slot.expiry ∧ m.read key now = (some slot.text, m)) ∨
      (∀ slot, m.slot? key = some slot → ¬ now.lt slot.expiry) ∧
        ∃ rest, m.read key now = (none, rest) ∧
          ∀ other slot, rest.slot? other = some slot → m.slot? other = some slot := by
  unfold read
  cases held : m.slot? key with
  | none => exact .inr ⟨nofun, m, rfl, fun _ _ found => found⟩
  | some slot =>
      by_cases fresh : now.lt slot.expiry
      · exact .inl ⟨slot, rfl, fresh, if_pos fresh⟩
      · refine .inr ⟨?_, m.delete key, if_neg fresh, fun _ _ found => slot?_of_delete found⟩
        rintro other ⟨⟩
        exact fresh

theorem slot?_deleteMatching (m : Memory) (pattern key : String) :
    (m.deleteMatching pattern).2.slot? key =
      if Glob.acceptsString pattern key then none else m.slot? key := by
  have kept := Keyed.lookup_filter (fun k => !Glob.acceptsString pattern k) m.slots key
  simp only [slot?, deleteMatching, kept]
  cases Glob.acceptsString pattern key <;> rfl

end Memory

end Voucher.Cache
