import Voucher.Json.Record
import Voucher.Json.Document

/-!
Rows of a database. A column that is missing, null or of another type than is asked for has no
value. Instants are kept to the microsecond, counted from the start of 2000, and cut towards it.
-/
namespace Voucher.Database

abbrev Row := List (String × Json)

/-- The start of 2000. -/
def epoch : Instant := ⟨946684800, 0⟩

/-- An instant as the database keeps it. -/
def keep (t : Instant) : Instant :=
  let micros := Int.tdiv (t.totalNanos - epoch.totalNanos) 1000
  .ofNanos (epoch.totalNanos + micros * 1000)

namespace Row

variable {α : Type}

/-- The value of a column, read as a type. -/
def column (r : Row) (name : String) (read : Json → Option α) : Option α :=
  (r.lookup name).bind read

def uuid? (r : Row) (name : String) : Option Uuid := r.column name Json.readUuid?

def text? (r : Row) (name : String) : Option String := r.column name Json.asString?

def flag? (r : Row) (name : String) : Option Bool := r.column name Json.asBool?

def int32? (r : Row) (name : String) : Option Int32 := r.column name Json.readInt32?

def int64? (r : Row) (name : String) : Option Int64 := r.column name Json.readInt64?

def instant? (r : Row) (name : String) : Option Instant :=
  (r.column name Json.readInstant?).map keep

def document? (r : Row) (name : String) : Option Document :=
  r.column name fun
    | .null => none
    | j => some (.ofJson j)

def texts? (r : Row) (name : String) : Option (List String) := r.column name Json.readStrings?

/-- The number of a day. -/
def day? (r : Row) (name : String) : Option Int :=
  (r.text? name).bind fun s => (Instant.ofString? (s ++ "T00:00:00Z")).map (·.dayNumber)

/-- A text that names something. A text that names nothing fails the row. -/
def named? (r : Row) (name : String) (ofName? : String → Option α) : Option (Option α) :=
  match r.text? name with
  | none => some none
  | some s => (ofName? s).map some

end Row

end Voucher.Database
