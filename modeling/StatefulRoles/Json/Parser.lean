import StatefulRoles.Json
import StatefulRoles.Text.Digit
/-!
# Reading JSON

`Json.parse` reads a whole text. It is strict on strings (no control characters, only the known
escapes) and on numbers (a whole number has at most `maxDigits` digits), takes `NaN`, `Infinity` and
`-Infinity` as numbers, and of several members with one name keeps the last value. An escaped
surrogate without its partner reads as U+FFFD. How deep containers may stand inside each other is
for the caller to say: a text is given up at the first bracket beyond that, whatever would follow.
-/
namespace StatefulRoles.Json

/-- Why a text is not read: it is no JSON, or a container stands too deep in it. -/
inductive Refusal where
  | malformed
  | tooDeep (container : Container)
deriving DecidableEq, Repr

namespace Parser

/-- What a reader gives: what it has read, and what is left of the text. -/
abbrev Reading (α : Type) := Option (α × List Char)

def isBlank (c : Char) : Bool := c == ' ' || c == '\t' || c == '\n' || c == '\r'

def skipBlanks (cs : List Char) : List Char := cs.dropWhile isBlank

/-! ## Strings -/

def hexDigit? (c : Char) : Option Nat :=
  if c.isDigit then some (c.toNat - 48)
  else if 'a' ≤ c && c ≤ 'f' then some (c.toNat - 87)
  else if 'A' ≤ c && c ≤ 'F' then some (c.toNat - 55)
  else none

/-- The number that hexadecimal digits write. -/
def hexValue? (cs : List Char) : Option Nat :=
  cs.foldlM (fun n c => (hexDigit? c).map (n * 16 + ·)) 0

/-- The characters that a backslash and one letter stand for. -/
def escapes : List (Char × Nat) :=
  [('\x22', 0x22), ('\\', 0x5c), ('/', 0x2f), ('b', 0x8), ('f', 0xc), ('n', 0xa), ('r', 0xd),
   ('t', 0x9)]

/-- The code points and escaped code units of a string, after its opening quote mark. -/
def units? : List Char → Reading (List Nat)
  | [] => none
  | '\x22' :: rest => some ([], rest)
  | '\\' :: 'u' :: a :: b :: c :: d :: rest =>
    match hexValue? [a, b, c, d], units? rest with
    | some unit, some (units, rest) => some (unit :: units, rest)
    | _, _ => none
  | '\\' :: letter :: rest =>
    match escapes.lookup letter, units? rest with
    | some unit, some (units, rest) => some (unit :: units, rest)
    | _, _ => none
  | c :: rest =>
    if c.toNat < 0x20 || c = '\\' then none
    else match units? rest with
      | some (units, rest) => some (c.toNat :: units, rest)
      | none => none

def isHigh (unit : Nat) : Bool := 0xd800 ≤ unit && unit ≤ 0xdbff
def isLow (unit : Nat) : Bool := 0xdc00 ≤ unit && unit ≤ 0xdfff

/-- The character of one unit. -/
def charOfUnit (unit : Nat) : Char := if isHigh unit || isLow unit then '\ufffd' else Char.ofNat unit

/-- The characters of a string: a high surrogate and a low one after it are one character. -/
def charsOfUnits : List Nat → List Char
  | [] => []
  | [u] => [charOfUnit u]
  | u :: v :: rest =>
    if isHigh u && isLow v then
      Char.ofNat (0x10000 + (u - 0xd800) * 0x400 + (v - 0xdc00)) :: charsOfUnits rest
    else charOfUnit u :: charsOfUnits (v :: rest)

/-- A string, after its opening quote mark. -/
def string? (cs : List Char) : Reading String :=
  (units? cs).map fun (units, rest) => (String.ofList (charsOfUnits units), rest)

/-! ## Numbers -/

/-- The digits of the fraction. A point without a digit behind it is none. -/
def fraction (cs : List Char) : List Char × List Char :=
  match cs with
  | '.' :: rest =>
    match rest.takeWhile Char.isDigit with
    | [] => ([], cs)
    | digits => (digits, rest.dropWhile Char.isDigit)
  | _ => ([], cs)

/-- The exponent, if there is one: a letter without a digit behind it is none. -/
def exponent? (cs : List Char) : Option Int × List Char :=
  match cs with
  | mark :: rest =>
    if mark.toLower = 'e' then
      let (negative, rest) := Text.takeSign rest
      match rest.takeWhile Char.isDigit with
      | [] => (none, cs)
      | digits =>
        let n : Int := Text.natOfDigits digits
        (some (if negative then -n else n), rest.dropWhile Char.isDigit)
    else (none, cs)
  | [] => (none, [])

/-- The digits before the point: a zero stands alone. -/
def whole? : List Char → Reading (List Char)
  | '0' :: rest => some (['0'], rest)
  | cs =>
    match cs.takeWhile Char.isDigit with
    | [] => none
    | digits => some (digits, cs.dropWhile Char.isDigit)

/-- The most digits of a whole number. -/
def maxDigits : Nat := 4300

/-- A number without its sign: whole when it has neither a fraction nor an exponent. A whole number
of too many digits is not read. -/
def unsigned? (negative : Bool) (cs : List Char) : Reading Json :=
  match whole? cs with
  | none => none
  | some (whole, rest) =>
    let (fraction, rest) := fraction rest
    let (exponent, rest) := exponent? rest
    if fraction.isEmpty && exponent.isNone then
      if maxDigits < whole.length then none
      else
        let n : Int := Text.natOfDigits whole
        some (.int (if negative then -n else n), rest)
    else
      let exponent := exponent.getD 0 - (fraction.length : Int)
      some (.real (.ofDecimal negative (Text.natOfDigits (whole ++ fraction)) exponent), rest)

/-! ## Values -/

/-- What starts with neither a bracket nor a quote mark. -/
def atom? : List Char → Reading Json
  | 'n' :: 'u' :: 'l' :: 'l' :: rest => some (.null, rest)
  | 't' :: 'r' :: 'u' :: 'e' :: rest => some (.bool true, rest)
  | 'f' :: 'a' :: 'l' :: 's' :: 'e' :: rest => some (.bool false, rest)
  | 'N' :: 'a' :: 'N' :: rest => some (.real .nan, rest)
  | 'I' :: 'n' :: 'f' :: 'i' :: 'n' :: 'i' :: 't' :: 'y' :: rest =>
    some (.real (.infinite false), rest)
  | '-' :: 'I' :: 'n' :: 'f' :: 'i' :: 'n' :: 'i' :: 't' :: 'y' :: rest =>
    some (.real (.infinite true), rest)
  | '-' :: rest => unsigned? true rest
  | cs => unsigned? false cs

/-- What the reading of a value gives. -/
abbrev Outcome := Except Refusal (Json × List Char)

/-- The outcome for a text that is malformed where nothing is read. -/
def outcome : Reading Json → Outcome
  | some reading => .ok reading
  | none => .error .malformed

mutual

/-- One value, from its first character; so many containers may stand inside each other in it. The
fuel bounds the calls; of any two in a row the second reads on from a shorter text, so twice the
length of the text is enough. -/
def value : Nat → Nat → List Char → Outcome
  | 0, _, _ => .error .malformed
  | fuel + 1, depth, cs =>
    match cs with
    | '\x22' :: rest => outcome ((string? rest).map fun (s, rest) => (.str s, rest))
    | '[' :: rest =>
      match depth with
      | 0 => .error (.tooDeep .array)
      | depth + 1 =>
        match skipBlanks rest with
        | ']' :: rest => .ok (.arr [], rest)
        | rest => items fuel depth [] rest
    | '\x7b' :: rest =>
      match depth with
      | 0 => .error (.tooDeep .object)
      | depth + 1 =>
        match skipBlanks rest with
        | '\x7d' :: rest => .ok (.obj [], rest)
        | rest => members fuel depth [] rest
    | cs => outcome (atom? cs)

/-- The items of an array from the next one on, behind those already read, which are in reverse
order. -/
def items : Nat → Nat → List Json → List Char → Outcome
  | 0, _, _, _ => .error .malformed
  | fuel + 1, depth, before, cs =>
    match value fuel depth cs with
    | .error refusal => .error refusal
    | .ok (item, rest) =>
      match skipBlanks rest with
      | ']' :: rest => .ok (.arr (item :: before).reverse, rest)
      | ',' :: rest => items fuel depth (item :: before) (skipBlanks rest)
      | _ => .error .malformed

/-- The members of an object from the next one on, behind those already read. -/
def members : Nat → Nat → Entries Json → List Char → Outcome
  | 0, _, _, _ => .error .malformed
  | fuel + 1, depth, before, cs =>
    match cs with
    | '\x22' :: rest =>
      match string? rest with
      | none => .error .malformed
      | some (name, rest) =>
        match skipBlanks rest with
        | ':' :: rest =>
          match value fuel depth (skipBlanks rest) with
          | .error refusal => .error refusal
          | .ok (value, rest) =>
            match skipBlanks rest with
            | '\x7d' :: rest => .ok (.obj (before.put name value), rest)
            | ',' :: rest => members fuel depth (before.put name value) (skipBlanks rest)
            | _ => .error .malformed
        | _ => .error .malformed
    | _ => .error .malformed

end

end Parser

/-- Reads a text that holds one JSON value, no deeper than said, and nothing else but blanks around
it. -/
def parse (depth : Nat) (cs : List Char) : Except Refusal Json :=
  match Parser.value (2 * cs.length + 1) depth (Parser.skipBlanks cs) with
  | .ok (value, rest) =>
    if (Parser.skipBlanks rest).isEmpty then .ok value else .error .malformed
  | .error refusal => .error refusal

end StatefulRoles.Json
