import StatefulRoles.Text.Blank
import StatefulRoles.Text.Digit
/-!
# Numerals

A plain numeral is perhaps a minus sign, and digits of which the first is no zero, unless zero is
meant. A text writes a whole number in more ways than one: with blanks around it, a plus sign, a
fraction of zeros, zeros in front, underscores between digits. `Numeral.read` takes a text as it is
if it is plain, and otherwise takes these off one after the other and reads what is left. Zeros in
front are taken off together with the underscores among them, behind the minus sign or before it.
-/
namespace StatefulRoles.Numeral

/-- Why a text gives no whole number. -/
inductive Error where
  | unreadable
  | oversized
deriving DecidableEq, Repr

/-- The most digits of a plain numeral. -/
def maxDigits : Nat := 4300

/-! ## What may be left out -/

/-- The text without a plus sign in front, which does not go with a minus sign. -/
def withoutPlus : List Char → List Char
  | '+' :: '-' :: cs => '+' :: '-' :: cs
  | '+' :: cs => cs
  | cs => cs

/-- The text without a fraction of zeros: a point, and at least one zero behind it. -/
def withoutFraction (cs : List Char) : List Char :=
  match cs.dropWhile (· ≠ '.') with
  | _ :: '0' :: zeros => if zeros.all (· = '0') then cs.takeWhile (· ≠ '.') else cs
  | _ => cs

/-- Does a zero in front, or an underscore behind one, tell nothing about the number? -/
def isFilling (c : Char) : Bool := c = '0' || c = '_'

/-- The text without zeros in front, if a digit or a minus sign follows them. Of zeros with nothing
behind them the last character stays. -/
def withoutZeros : List Char → Option (List Char)
  | '0' :: cs =>
    match cs.dropWhile isFilling with
    | [] => some [cs.getLastD '0']
    | c :: rest => if c.isDigit || c = '-' then some (c :: rest) else none
  | c :: cs => if c.isDigit then some (c :: cs) else none
  | [] => none

/-- The text without zeros in front, or right behind a minus sign in front. -/
def withoutLeadingZeros : List Char → Option (List Char)
  | '-' :: cs => (withoutZeros cs).map ('-' :: ·)
  | cs => withoutZeros cs

/-- Do two underscores stand side by side? -/
def hasDouble (cs : List Char) : Bool := (cs.zip cs.tail).any fun (c, d) => c = '_' && d = '_'

/-- The text without its underscores, if each stands alone and none at an end. -/
def withoutUnderscores (cs : List Char) : List Char :=
  if cs.head? = some '_' || cs.getLast? = some '_' || hasDouble cs then cs
  else cs.filter (· ≠ '_')

/-! ## Reading -/

/-- The text without all that may be left out. -/
def bare? (cs : List Char) : Option (List Char) :=
  (withoutLeadingZeros (withoutFraction (withoutPlus (Text.trim Text.isWhiteSpace cs)))).map
    withoutUnderscores

/-- Reads a plain numeral. One of too many digits is oversized whatever comes behind them. -/
def readPlain (cs : List Char) : Except Error Int :=
  let (negative, rest) : Bool × List Char := match cs with
    | '-' :: rest => (true, rest)
    | _ => (false, cs)
  match rest.takeWhile Char.isDigit with
  | [] => .error .unreadable
  | '0' :: _ => if rest = ['0'] then .ok 0 else .error .unreadable
  | digits =>
    if maxDigits < digits.length then .error .oversized
    else if digits.length < rest.length then .error .unreadable
    else
      let n : Int := Text.natOfDigits digits
      .ok (if negative then -n else n)

/-- Reads the whole number that a text writes. Only a text that starts as a plain numeral is found
oversized; one that is too long without what may be left out is just not read. -/
def read (cs : List Char) : Except Error Int :=
  match readPlain cs with
  | .ok n => .ok n
  | .error .oversized => .error .oversized
  | .error .unreadable =>
    match (bare? cs).map readPlain with
    | some (.ok n) => .ok n
    | _ => .error .unreadable

end StatefulRoles.Numeral
