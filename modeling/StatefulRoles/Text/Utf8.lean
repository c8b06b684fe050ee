/-!
# Lenient UTF-8

Bytes are read as UTF-8 and nothing is refused: the longest beginning of a character that cannot
go on gives one replacement character, and the byte that ended it is read afresh. The reader is a
machine that takes one byte at a time; between characters its state is `none`.
-/
namespace StatefulRoles.Text.Utf8

/-- Stands for bytes that are no character. -/
def replacement : Char := '\ufffd'

/-- A character begun: the bytes still owed, the bits read so far, and the range of the next
byte. -/
structure Pending where
  owed : Nat
  bits : Nat
  low : Nat
  high : Nat
deriving DecidableEq

/-- A byte that starts a character, or cannot: the text known at once, and the state after it. The
ranges of the second byte leave out overlong forms, surrogates and what lies beyond U+10FFFF. -/
def fresh (b : Nat) : List Char × Option Pending :=
  if b ≤ 0x7f then ([Char.ofNat b], none)
  else if 0xc2 ≤ b && b ≤ 0xdf then ([], some ⟨1, b - 0xc0, 0x80, 0xbf⟩)
  else if b == 0xe0 then ([], some ⟨2, 0, 0xa0, 0xbf⟩)
  else if b == 0xed then ([], some ⟨2, 0xd, 0x80, 0x9f⟩)
  else if 0xe1 ≤ b && b ≤ 0xef then ([], some ⟨2, b - 0xe0, 0x80, 0xbf⟩)
  else if b == 0xf0 then ([], some ⟨3, 0, 0x90, 0xbf⟩)
  else if 0xf1 ≤ b && b ≤ 0xf3 then ([], some ⟨3, b - 0xf0, 0x80, 0xbf⟩)
  else if b == 0xf4 then ([], some ⟨3, 4, 0x80, 0x8f⟩)
  else ([replacement], none)

/-- One byte. -/
def step : Option Pending → Nat → List Char × Option Pending
  | none, b => fresh b
  | some p, b =>
    if p.low ≤ b && b ≤ p.high then
      let bits := p.bits * 64 + (b - 0x80)
      if p.owed ≤ 1 then ([Char.ofNat bits], none)
      else ([], some ⟨p.owed - 1, bits, 0x80, 0xbf⟩)
    else (replacement :: (fresh b).1, (fresh b).2)

/-- The text of the bytes that follow a state. -/
def decodeFrom : Option Pending → List UInt8 → List Char
  | none, [] => []
  | some _, [] => [replacement]
  | state, b :: bs => (step state b.toNat).1 ++ decodeFrom (step state b.toNat).2 bs

/-- The text of a byte sequence. -/
def decode (bytes : List UInt8) : List Char := decodeFrom none bytes

end StatefulRoles.Text.Utf8
