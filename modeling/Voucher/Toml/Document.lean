import Voucher.Toml.Scalar

/-!
Documents in TOML: lines that give keys a value, under headers that open tables. A key has one value
and a table one header; what is written in braces or made by a key with points is complete where it
stands.
-/
namespace Voucher.Toml

open Settings (Value)

/-- How a table came about. -/
inductive Origin where
  | header
  /-- On the way to another table's header. -/
  | passed
  /-- By a key with points. -/
  | dotted
  deriving DecidableEq

inductive Node where
  | leaf (v : Value)
  | table (origin : Origin) (entries : List (String × Node))
  /-- Tables under one repeated header, the latest first. -/
  | tables (items : List (List (String × Node)))
  deriving Inhabited

namespace Node

mutual

def value : Node → Value
  | leaf v => v
  | table _ entries => .table (entryValues entries)
  | tables items => .list (itemValues items [])

def entryValues : List (String × Node) → List (String × Value)
  | [] => []
  | (key, node) :: rest => (key, node.value) :: entryValues rest

def itemValues : List (List (String × Node)) → List Value → List Value
  | [], done => done
  | item :: rest, done => itemValues rest (.table (entryValues item) :: done)

end

end Node

abbrev Entries := List (String × Node)

/-- Changes the node of a key, or makes one. -/
def alter? (key : String) (change : Option Node → Option Node) : Entries → Option Entries
  | [] => (change none).map fun node => [(key, node)]
  | (k, node) :: rest =>
    if k = key then (change (some node)).map fun node => (k, node) :: rest
    else (alter? key change rest).map ((k, node) :: ·)

/-- Changes the node at the end of a path. `enter` opens the tables on the way, with the function
that changes their entries. -/
def alterPath? (enter : (Entries → Option Entries) → Option Node → Option Node)
    (change : Option Node → Option Node) : (path : List String) → Entries → Option Entries
  | [], _ => none
  | [key], entries => alter? key change entries
  | key :: path, entries => alter? key (enter (alterPath? enter change path)) entries

/-- Opens a table on the way to a header. -/
def enterHeader (inner : Entries → Option Entries) : Option Node → Option Node
  | none => (inner []).map (.table .passed)
  | some (.table origin entries) => (inner entries).map (.table origin)
  | some (.tables (last :: rest)) => (inner last).map fun e => .tables (e :: rest)
  | some _ => none

/-- Opens a table on the way to a value. -/
def enterDotted (inner : Entries → Option Entries) : Option Node → Option Node
  | none => (inner []).map (.table .dotted)
  | some (.table .dotted entries) => (inner entries).map (.table .dotted)
  | some _ => none

/-- Gives a key a value, once. -/
def assign? (path : List String) (v : Value) (entries : Entries) : Option Entries :=
  alterPath? enterDotted (fun
    | none => some (.leaf v)
    | some _ => none) path entries

/-- Opens the table of a header. -/
def openTable? (path : List String) (entries : Entries) : Option Entries :=
  alterPath? enterHeader (fun
    | none => some (.table .header [])
    | some (.table .passed inner) => some (.table .header inner)
    | some _ => none) path entries

/-- Adds a table under a repeated header. -/
def addTable? (path : List String) (entries : Entries) : Option Entries :=
  alterPath? enterHeader (fun
    | none => some (.tables [[]])
    | some (.tables items) => some (.tables ([] :: items))
    | some _ => none) path entries

/-- Gives a key a value within the table that is open. -/
def assignUnder? (header path : List String) (v : Value) (entries : Entries) : Option Entries :=
  match header with
  | [] => assign? path v entries
  | _ => alterPath? enterHeader (fun
      | some (.table origin inner) => (assign? path v inner).map (.table origin)
      | some (.tables (last :: rest)) => (assign? path v last).map fun e => .tables (e :: rest)
      | _ => none) header entries

/-- What follows a comment. -/
def skipComment? (cs : List Char) : Option (List Char) :=
  match cs with
  | '#' :: rest =>
    match rest.dropWhile isText with
    | [] => some []
    | '\n' :: after => some ('\n' :: after)
    | '\r' :: '\n' :: after => some ('\n' :: after)
    | _ => none
  | cs => some cs

/-- Spaces, line breaks and comments. -/
def skipBlank? : (fuel : Nat) → List Char → Option (List Char)
  | 0, _ => none
  | fuel + 1, cs =>
    match skipSpace cs with
    | '\n' :: rest => skipBlank? fuel rest
    | '\r' :: '\n' :: rest => skipBlank? fuel rest
    | '#' :: rest => (skipComment? ('#' :: rest)).bind (skipBlank? fuel)
    | cs => some cs

mutual

/-- A value. -/
def value? : (fuel : Nat) → List Char → Option (Value × List Char)
  | 0, _ => none
  | fuel + 1, cs =>
    match cs with
    | '"' :: _ | '\'' :: _ => (quoted? cs).map fun p => (.text (String.ofList p.1), p.2)
    | '[' :: rest => (items? fuel rest).map fun p => (.list p.1, p.2)
    | '\x7b' :: rest =>
      match skipSpace rest with
      | '\x7d' :: after => some (.table [], after)
      | _ => (members? fuel [] rest).map fun p => ((Node.table .header p.1).value, p.2)
    | _ => scalarValue? cs

/-- Items of a list, over several lines if need be, up to the closing bracket. -/
def items? : (fuel : Nat) → List Char → Option (List Value × List Char)
  | 0, _ => none
  | fuel + 1, cs => do
    let cs ← skipBlank? fuel cs
    match cs with
    | ']' :: rest => pure ([], rest)
    | _ => do
      let (v, rest) ← value? fuel cs
      let rest ← skipBlank? fuel rest
      match rest with
      | ',' :: rest => do
        let (more, rest) ← items? fuel rest
        pure (v :: more, rest)
      | ']' :: rest => pure ([v], rest)
      | _ => none

/-- Members of a table in braces, on one line, up to the closing brace. -/
def members? : (fuel : Nat) → Entries → List Char → Option (Entries × List Char)
  | 0, _, _ => none
  | fuel + 1, entries, cs => do
    let (path, rest) ← key fuel cs
    let rest ← mark? '=' rest
    let (v, rest) ← value? fuel (skipSpace rest)
    let entries ← assign? path v entries
    match skipSpace rest with
    | ',' :: rest => members? fuel entries rest
    | '\x7d' :: rest => pure (entries, rest)
    | _ => none

end

/-- The end of a line: a comment, and a line break unless the text ends. -/
def lineEnd? (cs : List Char) : Option (List Char) :=
  match skipComment? (skipSpace cs) with
  | some [] => some []
  | some ('\n' :: rest) => some rest
  | some ('\r' :: '\n' :: rest) => some rest
  | _ => none

/-- Lines up to the end of the text, under the header that is open. -/
def lines? : (fuel : Nat) → (header : List String) → Entries → List Char → Option Entries
  | 0, _, _, _ => none
  | fuel + 1, header, entries, cs => do
    let cs ← skipBlank? (fuel + 1) cs
    match cs with
    | [] => pure entries
    | '[' :: '[' :: rest => do
      let (path, rest) ← key fuel rest
      let rest ← (mark? ']' rest).bind (mark? ']')
      let rest ← lineEnd? rest
      let entries ← addTable? path entries
      lines? fuel path entries rest
    | '[' :: rest => do
      let (path, rest) ← key fuel rest
      let rest ← mark? ']' rest
      let rest ← lineEnd? rest
      let entries ← openTable? path entries
      lines? fuel path entries rest
    | cs => do
      let (path, rest) ← key fuel cs
      let rest ← mark? '=' rest
      let (v, rest) ← value? fuel (skipSpace rest)
      let rest ← lineEnd? rest
      let entries ← assignUnder? header path v entries
      lines? fuel header entries rest

/-- The entries of the table that a document writes. -/
def parse? (s : String) : Option (List (String × Value)) :=
  let cs := match s.toList with
    | c :: rest => if c.toNat = 0xFEFF then rest else c :: rest
    | [] => []
  (lines? (cs.length + 2) [] [] cs).map Node.entryValues

end Voucher.Toml
