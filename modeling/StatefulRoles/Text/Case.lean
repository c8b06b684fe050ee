/-!
# Letter case, as far as ASCII can see

Object names and setting names are compared and kept as ASCII text, so of the full case mappings
only the characters with an ASCII character in their image matter. `lower` and `upper` map those
and leave every other character beyond ASCII alone: its image lies beyond ASCII as well, and the
caller drops it or finds no match for it either way.
-/
namespace StatefulRoles.Text

/-- Lower case of one character. Beyond ASCII, the Kelvin sign becomes `k`, and a capital `I` with
a dot above becomes `i` and a combining dot. -/
def lowerChar (c : Char) : List Char :=
  if c = '\u212a' then ['k']
  else if c = '\u0130' then ['i', '\u0307']
  else [c.toLower]

/-- Lower case of a text. -/
def lower (cs : List Char) : List Char := cs.flatMap lowerChar

/-- The characters beyond ASCII whose upper case holds an ASCII letter. -/
def upperTable : List (Char × String) :=
  [('\u00df', "SS"), ('\u0131', "I"), ('\u0149', "\u02bcN"), ('\u017f', "S"),
   ('\u01f0', "J\u030c"), ('\u1e96', "H\u0331"), ('\u1e97', "T\u0308"), ('\u1e98', "W\u030a"),
   ('\u1e99', "Y\u030a"), ('\u1e9a', "A\u02be"), ('\ufb00', "FF"), ('\ufb01', "FI"),
   ('\ufb02', "FL"), ('\ufb03', "FFI"), ('\ufb04', "FFL"), ('\ufb05', "ST"), ('\ufb06', "ST")]

/-- Upper case of one character. -/
def upperChar (c : Char) : List Char :=
  match upperTable.lookup c with
  | some image => image.toList
  | none => [c.toUpper]

/-- Upper case of a text. -/
def upper (cs : List Char) : List Char := cs.flatMap upperChar

end StatefulRoles.Text
