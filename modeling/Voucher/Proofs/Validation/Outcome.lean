import Voucher.Validation.Outcome

/-! What a client reads off the JSON of an outcome. -/
namespace Voucher

namespace Json

theorem valuesOf_append (key : String) (first more : List (String × Json)) :
    valuesOf key (first ++ more) = valuesOf key first ++ valuesOf key more :=
  List.filterMap_append ..

theorem valuesOf_memberIfSome (key name : String) (write : α → Json) (a : Option α) :
    valuesOf key (memberIfSome name write a) = if name = key then (a.map write).toList else [] := by
  cases a with
  | none => simp [memberIfSome, valuesOf]
  | some a => by_cases same : name = key <;> simp [memberIfSome, valuesOf, same]

theorem get?_obj (once : valuesOf key members = [value]) :
    get? key (.obj members) = some value := by
  simp only [get?, once]

theorem get?_obj_none (absent : valuesOf key members = []) : get? key (.obj members) = none := by
  simp only [get?, absent]

end Json

theorem Acceptance.valuesOf_status (a : Acceptance) : Json.valuesOf "status" a.members = [] := by
  unfold Acceptance.members
  simp only [Json.valuesOf_append, Json.valuesOf_memberIfSome]
  cases a.sandbox <;> simp [Json.valuesOf]

theorem Acceptance.valuesOf_redemptionId (a : Acceptance) :
    Json.valuesOf "redemption_id" a.members = (a.redemptionId.map Json.str).toList := by
  unfold Acceptance.members
  simp only [Json.valuesOf_append, Json.valuesOf_memberIfSome]
  cases a.sandbox <;> simp [Json.valuesOf]

theorem Rejection.valuesOf_status (r : Rejection) : Json.valuesOf "status" r.members = [] := by
  unfold Rejection.members
  simp only [Json.valuesOf_append, Json.valuesOf_memberIfSome]
  simp [Json.valuesOf]

namespace Outcome

theorem toJson_status (o : Outcome) :
    o.toJson.textMember? "status" = some (if o.isAccepted then "OK" else "KO") := by
  cases o with
  | accepted a =>
      have once : Json.valuesOf "status" (("status", .str "OK") :: a.members) = [.str "OK"] := by
        simpa [Json.valuesOf] using a.valuesOf_status
      rw [Json.textMember?, toJson, Json.get?_obj once]
      rfl
  | rejected r =>
      have once : Json.valuesOf "status" (("status", .str "KO") :: r.members) = [.str "KO"] := by
        simpa [Json.valuesOf] using r.valuesOf_status
      rw [Json.textMember?, toJson, Json.get?_obj once]
      rfl

/-- An acceptance names its redemption. -/
theorem toJson_redemptionId (a : Acceptance) :
    (accepted a).toJson.textMember? "redemption_id" = a.redemptionId := by
  have same : Json.valuesOf "redemption_id" (("status", .str "OK") :: a.members) =
      (a.redemptionId.map Json.str).toList := by
    simpa [Json.valuesOf] using a.valuesOf_redemptionId
  rw [Json.textMember?, toJson]
  cases id : a.redemptionId with
  | none =>
      rw [id] at same
      rw [Json.get?_obj_none same]
      rfl
  | some text =>
      rw [id] at same
      rw [Json.get?_obj same]
      rfl

end Outcome

end Voucher
