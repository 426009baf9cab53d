import Voucher.Http.Route
import Voucher.Proofs.Text.Search

/-! The path that a route is found under. -/
namespace Voucher

namespace Http.Route

/-- A route without an open part fits its own text only. -/
theorem fit_fixed (texts : List String) (segments : List (List Char)) :
    fit (texts.map .fixed) segments = some taken ↔ segments = texts.map String.toList ∧
      taken = [] := by
  induction texts generalizing segments with
  | nil => cases segments <;> simp [fit, eq_comm]
  | cons text rest ih =>
      cases segments with
      | nil => simp [fit]
      | cons s more =>
          simp only [List.map_cons, fit, List.cons.injEq]
          split
          · rename_i same
            simp [ih, same]
          · rename_i other
            simp [Ne.symm other]

/-- Codes are validated and redeemed under one path. -/
theorem find?_validate {t : Target} :
    (∃ part, find? t = some (.validate, part)) ↔ t.path = "/api/v1/validate".toList := by
  constructor
  · rintro ⟨part, found⟩
    unfold find? at found
    split at found
    · rename_i segments split
      obtain ⟨route, -, fits⟩ := List.exists_of_findSome?_eq_some found
      obtain ⟨taken, fit, same⟩ := Option.map_eq_some_iff.mp fits
      obtain ⟨rfl, -⟩ := Prod.mk.inj same
      obtain ⟨rfl, -⟩ := (fit_fixed ["api", "v1", "validate"] segments).mp fit
      rw [← Text.intercalate_splitAt '/' t.path]
      exact congrArg (List.intercalate ['/']) split
    · contradiction
  · intro path
    refine ⟨[], ?_⟩
    unfold find? Target.segments
    rw [path]
    rfl

end Http.Route

end Voucher
