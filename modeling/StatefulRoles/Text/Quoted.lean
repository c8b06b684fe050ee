import StatefulRoles.Text.Printable
/-!
# Quoted literals

A text inside a message is shown between quote marks, with whatever would be unreadable there
escaped; a byte sequence is shown the same way, by its ASCII characters, with a `b` in front.
-/
namespace StatefulRoles.Text.Quoted

def single : Char := '\x27'
def double : Char := '\x22'

/-- The quote mark of a text: double when the text holds a single one and no double one. -/
def mark (cs : List Char) : Char :=
  if cs.contains single && !cs.contains double then double else single

/-- A number in lower-case hexadecimal, padded with zeros to a width. -/
def hex (width n : Nat) : List Char := (Nat.toDigits 16 n).leftpad width '0'

/-- The escapes of one letter that both kinds of literal share: the backslash, the quote mark and
the three common controls. -/
def escape? (mark c : Char) : Option (List Char) :=
  if c = '\\' || c = mark then some ['\\', c]
  else if c = '\n' then some ['\\', 'n']
  else if c = '\r' then some ['\\', 'r']
  else if c = '\t' then some ['\\', 't']
  else none

/-- A character inside a literal: as it is if it can be printed, else by its code point. -/
def encodeChar (mark c : Char) : List Char :=
  match escape? mark c with
  | some e => e
  | none =>
    if isPrintable c then [c]
    else if c.toNat ≤ 0xff then '\\' :: 'x' :: hex 2 c.toNat
    else if c.toNat ≤ 0xffff then '\\' :: 'u' :: hex 4 c.toNat
    else '\\' :: 'U' :: hex 8 c.toNat

/-- A byte inside a literal: printable ASCII as it is, else by its value. -/
def encodeByte (mark : Char) (b : UInt8) : List Char :=
  let c := Char.ofNat b.toNat
  match escape? mark c with
  | some e => e
  | none => if 0x20 ≤ b.toNat && b.toNat < 0x7f then [c] else '\\' :: 'x' :: hex 2 b.toNat

/-- The literal of a text. -/
def ofText (s : String) : String :=
  let m := mark s.toList
  String.ofList (m :: s.toList.flatMap (encodeChar m) ++ [m])

/-- The literal of a byte sequence. -/
def ofBytes (bytes : List UInt8) : String :=
  let m := mark (bytes.map fun b => Char.ofNat b.toNat)
  String.ofList ('b' :: m :: bytes.flatMap (encodeByte m) ++ [m])

end StatefulRoles.Text.Quoted
