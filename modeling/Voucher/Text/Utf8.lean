/-!
Decoding UTF-8. A byte that begins no character, and the bytes of a character that breaks off, stand
for one mistake; what follows is decoded on its own.
-/
namespace Voucher.Text.Utf8

/-- What a lead byte announces: how many bytes follow, its own bits, and the
bounds of the next byte. -/
structure Lead where
  count : Nat
  bits : Nat
  low : Nat
  high : Nat

def lead? (b : Nat) : Option Lead :=
  if b < 0x80 then some ⟨0, b, 0, 0⟩
  else if b < 0xC2 then none
  else if b < 0xE0 then some ⟨1, b - 0xC0, 0x80, 0xBF⟩
  else if b = 0xE0 then some ⟨2, 0, 0xA0, 0xBF⟩
  else if b = 0xED then some ⟨2, 13, 0x80, 0x9F⟩
  else if b < 0xF0 then some ⟨2, b - 0xE0, 0x80, 0xBF⟩
  else if b = 0xF0 then some ⟨3, 0, 0x90, 0xBF⟩
  else if b < 0xF4 then some ⟨3, b - 0xF0, 0x80, 0xBF⟩
  else if b = 0xF4 then some ⟨3, 4, 0x80, 0x8F⟩
  else none

/-- Takes the bytes that follow a lead byte; stops at one that is out of bounds. -/
def follow : (count low high value : Nat) → List UInt8 → Option Nat × List UInt8
  | 0, _, _, value, rest => (some value, rest)
  | _ + 1, _, _, _, [] => (none, [])
  | count + 1, low, high, value, b :: rest =>
    if low ≤ b.toNat ∧ b.toNat ≤ high then
      follow count 0x80 0xBF (value * 64 + (b.toNat - 0x80)) rest
    else (none, b :: rest)

theorem length_follow (count low high value : Nat) (bytes : List UInt8) :
    (follow count low high value bytes).2.length ≤ bytes.length := by
  induction count generalizing low high value bytes with
  | zero => simp [follow]
  | succ count ih =>
    cases bytes with
    | nil => simp [follow]
    | cons b rest =>
      rw [follow]
      split
      · exact Nat.le_trans (ih ..) (by simp)
      · simp

/-- One character or mistake, and the bytes after it. -/
def next (b : UInt8) (rest : List UInt8) : Option Char × List UInt8 :=
  match lead? b.toNat with
  | none => (none, rest)
  | some l =>
    ((follow l.count l.low l.high l.bits rest).1.map Char.ofNat,
      (follow l.count l.low l.high l.bits rest).2)

theorem length_next (b : UInt8) (rest : List UInt8) : (next b rest).2.length ≤ rest.length := by
  rw [next]
  split
  · simp
  · exact length_follow ..

/-- The characters of a text, and its mistakes. -/
def pieces : List UInt8 → List (Option Char)
  | [] => []
  | b :: rest => (next b rest).1 :: pieces (next b rest).2
termination_by bytes => bytes.length
decreasing_by
  have := length_next b rest
  simp
  omega

/-- The text of bytes without mistakes. -/
def decode? (bytes : List UInt8) : Option (List Char) := (pieces bytes).mapM id

/-- The text of bytes, with a replacement character for each mistake. -/
def decode (bytes : List UInt8) : List Char := (pieces bytes).map (·.getD (Char.ofNat 0xFFFD))

end Voucher.Text.Utf8
