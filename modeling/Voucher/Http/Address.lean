import Voucher.Text.Digit
import Voucher.Text.Search
import Voucher.Uuid

/-!
Addresses of network peers: four octets, or eight words of sixteen bits. Words are written in lower
case, the longest run of zeros is left out, and an address that only wraps four octets shows them.
-/
namespace Voucher.Http

inductive Address where
  | v4 (octets : List Nat)
  | v6 (words : List Nat)
  deriving DecidableEq, Inhabited

namespace Address

def octetChars (octets : List Nat) : List Char :=
  ['.'].intercalate (octets.map Text.decimal)

def wordChars (words : List Nat) : List Char :=
  [':'].intercalate (words.map (Nat.toDigits 16))

/-- The length of the run of zeros at the front. -/
def zeroRun (words : List Nat) : Nat := (words.takeWhile (· == 0)).length

/-- Where the first longest run of zeros starts, and its length. -/
def longestRun : (position : Nat) → List Nat → Nat × Nat
  | position, [] => (position, 0)
  | position, w :: rest =>
    let later := longestRun (position + 1) rest
    let here := zeroRun (w :: rest)
    if later.2 ≤ here then (position, here) else later

def chars : Address → List Char
  | v4 octets => octetChars octets
  | v6 [0, 0, 0, 0, 0, 0xFFFF, a, b] =>
    [':', ':', 'f', 'f', 'f', 'f', ':'] ++ octetChars [a / 256, a % 256, b / 256, b % 256]
  | v6 words =>
    let (start, length) := longestRun 0 words
    if length < 2 then wordChars words
    else wordChars (words.take start) ++ [':', ':'] ++ wordChars (words.drop (start + length))

def text (a : Address) : String := String.ofList a.chars

namespace Reader

def mark? (c : Char) : List Char → Option (List Char)
  | d :: rest => if d = c then some rest else none
  | [] => none

/-- An octet in decimal, without leading zeros. -/
def octet? (cs : List Char) : Option (Nat × List Char) :=
  match Text.takeDigits cs with
  | ([], _) => none
  | (d :: ds, rest) =>
    let n := Text.numeral (d :: ds)
    if (d.val = 0 ∧ ds ≠ []) ∨ 255 < n ∨ 2 < ds.length then none else some (n, rest)

/-- Four octets between points. -/
def octets? (cs : List Char) : Option (List Nat × List Char) := do
  let (a, cs) ← octet? cs
  let (b, cs) ← (mark? '.' cs).bind octet?
  let (c, cs) ← (mark? '.' cs).bind octet?
  let (d, cs) ← (mark? '.' cs).bind octet?
  pure ([a, b, c, d], cs)

/-- A word of at most four hexadecimal digits. -/
def word? (cs : List Char) : Option (Nat × List Char) :=
  let ds := cs.takeWhile fun c => (Json.Parser.hexValue? c).isSome
  if ds.isEmpty ∨ 4 < ds.length then none
  else (Uuid.hexNumeral? ds).map fun n => (n, cs.drop ds.length)

/-- Up to `limit` words between colons; four octets may stand for the last two. -/
def words : (limit : Nat) → (first : Bool) → List Char → List Nat × Bool × List Char
  | 0, _, cs => ([], false, cs)
  | limit + 1, first, cs =>
    match if first then some cs else mark? ':' cs with
    | none => ([], false, cs)
    | some inner =>
      match if limit = 0 then none else octets? inner with
      | some ([a, b, c, d], rest) => ([a * 256 + b, c * 256 + d], true, rest)
      | _ =>
        match word? inner with
        | none => ([], false, cs)
        | some (w, rest) =>
          let (more, wraps, rest) := words limit false rest
          (w :: more, wraps, rest)

/-- Eight words, some zeros of which may be left out between two colons. -/
def v6? (cs : List Char) : Option (List Nat × List Char) :=
  let (front, wraps, rest) := words 8 true cs
  if front.length = 8 then some (front, rest)
  else if wraps then none
  else do
    let rest ← (mark? ':' rest).bind (mark? ':')
    let (back, _, rest) := words (7 - front.length) true rest
    pure (front ++ List.replicate (8 - front.length - back.length) 0 ++ back, rest)

/-- A port after a colon, which ends the text. -/
def isPort (cs : List Char) : Bool :=
  match mark? ':' cs with
  | some rest =>
    match Text.takeDigits rest with
    | (d :: ds, []) => Text.numeral (d :: ds) < 65536
    | _ => false
  | none => false

/-- What follows a scope, which is a number after a percent sign. -/
def scope? (cs : List Char) : Option (List Char) :=
  match mark? '%' cs with
  | none => some cs
  | some rest =>
    match Text.takeDigits rest with
    | (d :: ds, after) => if Text.numeral (d :: ds) < UInt32.size then some after else none
    | _ => none

end Reader

open Reader in
/-- The address of a text with a port; eight words stand in brackets and may have a scope. -/
def ofEndpoint? (cs : List Char) : Option Address :=
  match cs with
  | '[' :: inner => do
    let (words, rest) ← v6? inner
    let rest ← (scope? rest).bind (mark? ']')
    if isPort rest then some (.v6 words) else none
  | _ => do
    let (octets, rest) ← octets? cs
    if isPort rest then some (.v4 octets) else none

end Address

end Voucher.Http
