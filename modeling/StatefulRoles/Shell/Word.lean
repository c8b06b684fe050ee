/-!
# Words of a shell command

`quote` writes a text so that a POSIX shell reads it back as one literal word: as it is when none
of its characters means anything to the shell, else between single quotes.
-/
namespace StatefulRoles.Shell

/-- Characters that no shell treats specially: ASCII letters and digits and some punctuation. -/
def isSafe (c : Char) : Bool := c.isAlphanum || "_@%+=:,./-".toList.contains c

/-- A character between single quotes. A single quote cannot stand there, so it closes them, stands
between double quotes, and opens them again. -/
def quoteChar (c : Char) : List Char :=
  if c = '\x27' then "'\"'\"'".toList else [c]

/-- The characters of a word as a shell command writes them. -/
def quoteChars (cs : List Char) : List Char :=
  if !cs.isEmpty && cs.all isSafe then cs else '\x27' :: cs.flatMap quoteChar ++ ['\x27']

/-- A word as a shell command writes it. Mirrors `quote`. -/
def quote (word : String) : String := String.ofList (quoteChars word.toList)

/-- Words as a shell command writes them, with a blank between each two. -/
def quoteAll (words : List String) : String := " ".intercalate (words.map quote)

end StatefulRoles.Shell
