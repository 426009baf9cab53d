import Voucher.Json.Number
import Voucher.Text.Search
import Voucher.Text.Upper

/-!
Values of settings as files and variables give them, and their reading as what a setting holds. A
reading is lenient: texts may hold numbers and flags, numbers are rounded, and every scalar has a
text. Later values take the place of earlier ones; tables are merged.
-/
namespace Voucher.Settings

inductive Value where
  | flag (b : Bool)
  | int (i : Int)
  | float (d : Double)
  | text (s : String)
  | list (items : List Value)
  | table (entries : List (String × Value))
  deriving Inhabited

namespace Value

/-- Changes the entry of a key, or makes it where there is none. -/
def alter (key : String) (change : Option Value → Value) :
    List (String × Value) → List (String × Value)
  | [] => [(key, change none)]
  | (k, v) :: rest =>
    if k = key then (k, change (some v)) :: rest else (k, v) :: alter key change rest

mutual

/-- What becomes of an earlier value when a later one comes. -/
def merge : (earlier later : Value) → Value
  | .table old, .table new => .table (mergeEntries old new)
  | _, later => later

/-- Puts entries into a table, one after another. -/
def mergeEntries : (old new : List (String × Value)) → List (String × Value)
  | old, [] => old
  | old, (key, value) :: rest =>
    mergeEntries (alter key (fun
      | some v => merge v value
      | none => value) old) rest

end

end Value

end Voucher.Settings
