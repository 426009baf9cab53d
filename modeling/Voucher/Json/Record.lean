import Voucher.Instant
import Voucher.Json.Document
import Voucher.Uuid
import Voucher.Word

/-!
Reading records from JSON. A record is an object, in which a known key stands at most once and
unknown keys are passed over, or an array of the fields in declaration order, in which fields may be
missing at the end. A reader of a field says what an absent field means.
-/
namespace Voucher

structure Record where
  fields : List (String × Json)
  /-- The record was written as an array. -/
  positional : Bool

namespace Record

def ofJson? (names : List String) : Json → Option Record
  | .obj members =>
    if names.all fun n => (Json.valuesOf n members).length ≤ 1 then some ⟨members, false⟩ else none
  | .arr items => if items.length ≤ names.length then some ⟨names.zip items, true⟩ else none
  | _ => none

/-- A record that must be written as an object. -/
def ofObject? (names : List String) : Json → Option Record
  | .obj members => ofJson? names (.obj members)
  | _ => none

def get? (r : Record) (name : String) : Option Json :=
  r.fields.lookup name

variable {α : Type}

/-- A field that must be there. -/
def required (r : Record) (name : String) (read : Json → Option α) : Option α :=
  (r.get? name).bind read

/-- A field whose absence means `default`. -/
def orDefault (r : Record) (name : String) (default : α) (read : Json → Option α) : Option α :=
  match r.get? name with
  | some value => read value
  | none => some default

/-- A value or `null`. -/
def nullable (read : Json → Option α) : Json → Option (Option α)
  | .null => some none
  | value => (read value).map some

/-- A field that may be `null`, or absent unless the record is written as an array. -/
def optional (r : Record) (name : String) (read : Json → Option α) : Option (Option α) :=
  match r.get? name with
  | some value => nullable read value
  | none => if r.positional then none else some none

/-- A field that may be `null` or absent in either form. -/
def omissible (r : Record) (name : String) (read : Json → Option α) : Option (Option α) :=
  r.orDefault name none (nullable read)

end Record

namespace Json

def readNat? (bound : Nat) (j : Json) : Option Nat :=
  match j with
  | .int i => if 0 ≤ i ∧ i < bound then some i.toNat else none
  | _ => none

def readUInt64? (j : Json) : Option UInt64 := (readNat? UInt64.size j).map UInt64.ofNat

def readInt64? : Json → Option Int64
  | .int i => if Word.Holds64 i then some (Int64.ofInt i) else none
  | _ => none

def readInt32? : Json → Option Int32
  | .int i => if Word.Holds32 i then some (Int32.ofInt i) else none
  | _ => none

def readUuid? (j : Json) : Option Uuid := j.asString?.bind Uuid.ofString?

def readInstant? (j : Json) : Option Instant := j.asString?.bind Instant.ofString?

def readList? {α : Type} (read : Json → Option α) (j : Json) : Option (List α) :=
  j.asItems?.bind (·.mapM read)

def readStrings? (j : Json) : Option (List String) := readList? asString? j

/-- A member that must be there. -/
def readMember? {α : Type} (name : String) (read : Json → Option α) (j : Json) : Option α :=
  (j.get? name).bind read

/-- A member that may be `null` or missing. -/
def readOptional? {α : Type} (name : String) (read : Json → Option α) (j : Json) :
    Option (Option α) :=
  Record.nullable read ((j.get? name).getD .null)

/-- A member whose absence, or `null`, is no text. -/
def textMember? (name : String) (j : Json) : Option String := (j.get? name).bind asString?

/-- Any value, brought into canonical form. -/
def readDocument? (j : Json) : Option Document := some (.ofJson j)

/-- A member as a document, unless it is `null` or missing. -/
def documentMember? (name : String) (j : Json) : Option Document :=
  match j.get? name with
  | some .null => none
  | member => member.map .ofJson

/-- The variant that a value names. A variant without fields may also be written as an object of one
member, its name with `null`. -/
def readVariant? : Json → Option String
  | .str name => some name
  | .obj [(name, .null)] => some name
  | _ => none

/-- The variant that a value within another variant names; there `{}` does for `null`. -/
def readInnerVariant? : Json → Option String
  | .obj [(name, .obj [])] => some name
  | value => readVariant? value

/-- The name of a variant by its place in the declaration, or the name itself. -/
def readTag? (names : List String) (byPlace : Bool) : Json → Option String
  | .str name => if name ∈ names then some name else none
  | .int i => if byPlace ∧ 0 ≤ i then names[i.toNat]? else none
  | _ => none

def ofUInt64 (n : UInt64) : Json := .int n.toNat
def ofInt64 (i : Int64) : Json := .int i.toInt
def ofInt32 (i : Int32) : Json := .int i.toInt
def ofUuid (u : Uuid) : Json := .str u.text
def ofInstant (t : Instant) : Json := .str t.text
def ofNat (n : Nat) : Json := .int n
def ofDocument (d : Document) : Json := d.value
def ofStringOption (s : Option String) : Json := ofOption .str s

/-- An object with some members put over its own. -/
def overlay (changes : List (String × Json)) : Json → Json
  | obj members => obj (changes.foldl (fun ms m => putMember m.1 m.2 ms) members)
  | other => other

end Json

end Voucher
