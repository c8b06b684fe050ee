/-!
# Blank characters

Two classes are in use: white space proper, and the wider class that counts the four information
separators as well. Numbers written as integers are trimmed of the first, decimal literals and
lines of a settings file of the second.
-/
namespace StatefulRoles.Text

/-- White space, as the property of that name has it. -/
def isWhiteSpace (c : Char) : Bool :=
  let n := c.toNat
  (0x9 ≤ n && n ≤ 0xd) || n == 0x20 || n == 0x85 || n == 0xa0 || n == 0x1680 ||
  (0x2000 ≤ n && n ≤ 0x200a) || n == 0x2028 || n == 0x2029 || n == 0x202f || n == 0x205f ||
  n == 0x3000

/-- White space, or one of the information separators U+001C to U+001F. -/
def isSpacing (c : Char) : Bool :=
  isWhiteSpace c || (0x1c ≤ c.toNat && c.toNat ≤ 0x1f)

/-- The text without its longest ending inside `p`. -/
def trimEnd (p : Char → Bool) (cs : List Char) : List Char := (cs.reverse.dropWhile p).reverse

/-- The text without its longest beginning and its longest ending inside `p`. -/
def trim (p : Char → Bool) (cs : List Char) : List Char := trimEnd p (cs.dropWhile p)

end StatefulRoles.Text
