import Voucher.Settings.DotEnv
import Voucher.Settings.Read
import Voucher.Text.Upper
import Voucher.Toml.Document
import Voucher.Word

/-!
Loading settings. Later sources count over earlier ones: the names of the service and the
environment, the files of all environments, of this one and of the service, the variables, and last
the service's own variable for its port. Files may be missing; one that is wrong makes loading fail.
-/
namespace Voucher.Settings

structure Sources where
  /-- Texts of files by path, from the working directory. -/
  files : List (String × String)
  vars : DotEnv.Variables

/-- The parts of a path from the working directory, without detours; none if it leads elsewhere. -/
def pathParts : List (List Char) → List (List Char) → Option (List (List Char))
  | done, [] => some done.reverse
  | done, part :: rest =>
    if part = [] ∨ part = ['.'] then pathParts done rest
    else if part = ['.', '.'] then
      match done with
      | [] => none
      | _ :: before => pathParts before rest
    else pathParts (part :: done) rest

def resolve? (path : String) : Option (List (List Char)) :=
  match path.toList with
  | '/' :: _ => none
  | cs => pathParts [] (Text.splitAt '/' cs)

/-- The text of a file in a directory. -/
def Sources.file? (s : Sources) (directory name : String) : Option String :=
  let path := if name.startsWith "/" || directory.isEmpty then name else directory ++ "/" ++ name
  (resolve? path).bind fun parts =>
    (s.files.find? fun f => resolve? f.1 == some parts).map (·.2)

namespace Value

/-- A part of a key that points into tables. -/
def isKeyPart (cs : List Char) : Bool :=
  !cs.isEmpty && cs.all fun c => Text.isAsciiLetter c || Text.isAsciiDigit c || c == '_' || c == '-'

/-- The value at the end of a path of tables. -/
def nest : List (List Char) → Value → Value
  | [], v => v
  | part :: path, v => .table [(String.ofList part, nest path v)]

/-- Sets a value under a key, whose points lead into tables. -/
def set (entries : List (String × Value)) (key : String) (v : Value) : List (String × Value) :=
  let parts := Text.splitAt '.' key.toList
  match parts with
  | first :: path =>
    if parts.all isKeyPart then mergeEntries entries [(String.ofList first, nest path v)]
    else mergeEntries entries [(key, v)]
  | [] => entries

def setAll (entries : List (String × Value)) (new : List (String × Value)) :
    List (String × Value) :=
  new.foldl (fun entries e => set entries e.1 e.2) entries

/-- A numeral with a point or an exponent, or the name of what is no number. -/
def floatOf? (cs : List Char) : Option Double := do
  let (negative, cs) := Toml.sign cs
  let lower := cs.map Text.asciiLower
  if lower == "inf".toList || lower == "infinity".toList then some (Decimal.infinity negative)
  else if lower == "nan".toList then some Decimal.nan
  else do
    let (number, exponent) := Text.cut 'e' lower
    let (whole, fraction) := Text.cut '.' number
    let whole ← Text.digits? whole
    let fraction ← Text.digits? (fraction.getD [])
    if whole.isEmpty && fraction.isEmpty then none
    let exponent ← match exponent with
      | none => some 0
      | some x =>
        let (down, ds) := Toml.sign x
        match Text.digits? ds with
        | some (d :: ds) =>
          let n : Int := Text.numeral (d :: ds)
          some (if down then -n else n)
        | _ => none
    pure (Decimal.ofParts negative whole fraction exponent)

/-- The integer of 64 bits that a text writes. -/
def intOf? (cs : List Char) : Option Int :=
  let (negative, ds) := Toml.sign cs
  match Text.digits? ds with
  | some (d :: ds) =>
    let n : Int := Text.numeral (d :: ds)
    let i := if negative then -n else n
    if Word.Holds64 i then some i else none
  | _ => none

/-- What the text of a variable means: a flag, a number, or itself. -/
def ofVariable (s : String) : Value :=
  let lower := s.toList.map Text.asciiLower
  if lower = "true".toList then .flag true
  else if lower = "false".toList then .flag false
  else
    match intOf? s.toList with
    | some i => .int i
    | none =>
      match floatOf? s.toList with
      | some d => .float d
      | none => .text s

end Value

/-- What the names of variables start with, in any case. -/
def variableStart : List Char := "codeguard__".toList

/-- Two underscores part the names of tables. -/
def pointed : List Char → List Char
  | '_' :: '_' :: rest => '.' :: pointed rest
  | c :: rest => c :: pointed rest
  | [] => []

/-- The key that a variable sets. -/
def variableKey? (name : String) : Option String :=
  let lower := name.toList.map Text.asciiLower
  (Text.dropLiteral? variableStart lower).map fun rest => String.ofList (pointed rest)

/-- The settings that variables give. -/
def variableEntries (vars : DotEnv.Variables) : List (String × Value) :=
  vars.filterMap fun v => (variableKey? v.1).map fun key => (key, .ofVariable v.2)

/-- The name of the variable for a service's port. -/
def portVariable (service : String) : String :=
  String.ofList ((Text.upperChars service.toList).map fun c => if c = '-' then '_' else c) ++
    "_PORT"

/-- The port that a text writes. -/
def readPort? (s : String) : Option UInt16 :=
  (Value.saidWord? s).bind fun n => if n < UInt16.size then some (UInt16.ofNat n) else none

/-- The entries of a file; none if the file is there and wrong. -/
def fileEntries? (s : Sources) (directory name : String) : Option (List (String × Value)) :=
  match s.file? directory (name ++ ".toml") with
  | some text => Toml.parse? text
  | none => some []

/-- Loads the settings of a service. -/
def load? (service : String) (s : Sources) : Option Settings := do
  let vars := match s.file? "" ".env" with
    | some text => DotEnv.load s.vars text
    | none => s.vars
  let environment := (vars.lookup "CODEGUARD_ENV").getD "development"
  let directory := (vars.lookup "CONFIG_DIR").getD "config"
  let shared ← fileEntries? s directory "default"
  let special ← fileEntries? s directory environment
  let own ← fileEntries? s directory service
  let names : List (String × Value) :=
    [("service_name", .text service), ("environment", .text environment)]
  let entries := [shared, special, own, variableEntries vars].foldl Value.setAll names
  let settings ← ofValue? (.table entries)
  pure (match (vars.lookup (portVariable service)).bind readPort? with
    | some port => { settings with server := { settings.server with port := port } }
    | none => settings)

end Voucher.Settings
