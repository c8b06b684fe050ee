import StatefulRoles.Entries
import StatefulRoles.Text.Blank
/-!
# Settings files

A settings file gives one name and value a line, `NAME = value`. A value may stand between quote
marks, with escapes inside, and go over several lines; without quote marks it ends before a comment
or at the end of the line. A line that does not read this way is left out. In a value, a reference
`$` with a name in braces stands for what the file gave for the name further up or, failing that,
for the variable of the environment.
-/
namespace StatefulRoles.EnvFile

/-- What one line gives for a name; a name alone gives no value. -/
structure Binding where
  name : String
  value : Option String
deriving DecidableEq, Repr

/-- A reading: what was read and what follows it, or else what follows where the reading stopped. -/
abbrev Reading (α : Type) := Except (List Char) (α × List Char)

/-- Is the character blank without ending a line? -/
def isInline (c : Char) : Bool := Text.isSpacing c && c ≠ '\n'

def isLineEnd (c : Char) : Bool := c = '\n'

/-- What follows the end of the line. -/
def nextLine (cs : List Char) : List Char := (cs.dropWhile (!isLineEnd ·)).drop 1

/-- The text with a line feed at every end of a line. -/
def withLineFeeds : List Char → List Char
  | '\r' :: '\n' :: cs => '\n' :: withLineFeeds cs
  | '\r' :: cs => '\n' :: withLineFeeds cs
  | c :: cs => c :: withLineFeeds cs
  | [] => []

/-- The text without the byte order mark that it may begin with. -/
def withoutMark : List Char → List Char
  | '\ufeff' :: cs => cs
  | cs => cs

/-! ## Names -/

/-- A line may begin with the word `export` and blanks. -/
def skipExport (cs : List Char) : List Char :=
  match cs with
  | 'e' :: 'x' :: 'p' :: 'o' :: 'r' :: 't' :: b :: rest =>
    if isInline b then rest.dropWhile isInline else cs
  | _ => cs

/-- A character of a name without quote marks. -/
def isNameChar (c : Char) : Bool := c ≠ '=' && c ≠ '#' && !Text.isSpacing c

/-- Reads the name of a line; a line that is a comment has none. -/
def name (cs : List Char) : Reading (Option String) :=
  match cs with
  | '#' :: _ => .ok (none, cs)
  | '\x27' :: rest =>
    match rest.takeWhile (· ≠ '\x27'), rest.dropWhile (· ≠ '\x27') with
    | c :: name, _ :: after => .ok (some (String.ofList (c :: name)), after)
    | _, _ => .error cs
  | _ =>
    match cs.takeWhile isNameChar with
    | [] => .error cs
    | name => .ok (some (String.ofList name), cs.dropWhile isNameChar)

/-! ## Values -/

/-- What stands before the closing quote mark, and what follows it. A backslash goes with the
character behind it, so a mark behind a backslash closes nothing. -/
def quoted (mark : Char) : List Char → Option (List Char × List Char)
  | [] => none
  | '\\' :: c :: cs => (quoted mark cs).map fun (value, after) => ('\\' :: c :: value, after)
  | c :: cs =>
    if c = mark then some ([], cs)
    else (quoted mark cs).map fun (value, after) => (c :: value, after)

/-- What a backslash and a letter stand for between single quote marks. -/
def singleEscapes : List (Char × Char) := [('\\', '\\'), ('\x27', '\x27')]

/-- What a backslash and a letter stand for between double quote marks. -/
def doubleEscapes : List (Char × Char) :=
  [('\\', '\\'), ('\x27', '\x27'), ('\x22', '\x22'), ('a', '\x07'), ('b', '\x08'), ('f', '\x0c'),
   ('n', '\n'), ('r', '\r'), ('t', '\t'), ('v', '\x0b')]

/-- The text with its escapes replaced; a backslash before any other character stays. -/
def unescape (escapes : List (Char × Char)) : List Char → List Char
  | '\\' :: letter :: rest =>
    match escapes.lookup letter with
    | some image => image :: unescape escapes rest
    | none => '\\' :: unescape escapes (letter :: rest)
  | c :: rest => c :: unescape escapes rest
  | [] => []

/-- A line up to a comment, which starts at a `#` behind a blank. -/
def uncommented (afterBlank : Bool) : List Char → List Char
  | [] => []
  | c :: cs => if afterBlank && c = '#' then [] else c :: uncommented (Text.isSpacing c) cs

/-- Reads a value, from right behind the equals sign. -/
def value (cs : List Char) : Reading (List Char) :=
  match cs.dropWhile isInline with
  | '\x27' :: rest =>
    match quoted '\x27' rest with
    | some (value, after) => .ok (unescape singleEscapes value, after)
    | none => .error rest
  | '\x22' :: rest =>
    match quoted '\x22' rest with
    | some (value, after) => .ok (unescape doubleEscapes value, after)
    | none => .error rest
  | _ =>
    let line := cs.takeWhile (!isLineEnd ·)
    .ok (Text.trim Text.isSpacing (uncommented false line), cs.dropWhile (!isLineEnd ·))

/-- Reads the value of a name, if an equals sign follows. -/
def assignment (cs : List Char) : Reading (Option (List Char)) :=
  match cs.dropWhile isInline with
  | '=' :: rest => (value rest).map fun (value, after) => (some value, after)
  | rest => .ok (none, rest)

/-! ## Lines -/

/-- Reads the end of a line, perhaps behind a comment. -/
def lineEnd (cs : List Char) : Except (List Char) (List Char) :=
  match cs.dropWhile isInline with
  | [] => .ok []
  | c :: rest =>
    if isLineEnd c then .ok rest else if c = '#' then .ok (nextLine rest) else .error (c :: rest)

/-- Reads one line. -/
def line (cs : List Char) : Except (List Char) (Option Binding × List Char) := do
  let (name, afterName) ← name (skipExport cs)
  let (value, afterValue) ← assignment afterName
  let rest ← lineEnd afterValue
  return (name.map fun name => ⟨name, value.map String.ofList⟩, rest)

/-- What the lines of a file give, in order. Every line that is read or left out takes at least
one character. -/
def bindings (cs : List Char) : List Binding :=
  match cs.dropWhile Text.isSpacing with
  | [] => []
  | start =>
    let (found, rest) : Option Binding × List Char := match line start with
      | .ok read => read
      | .error stopped => (none, nextLine stopped)
    if rest.length < cs.length then found.toList ++ bindings rest else found.toList
termination_by cs.length

/-! ## References -/

/-- A reference, after its `$` and brace: a name, the text to take if nothing has that name, and
what follows the closing brace. -/
def reference? (cs : List Char) : Option (String × List Char × List Char) :=
  let name := String.ofList (cs.takeWhile fun c => c ≠ '\x7d' && c ≠ ':')
  match cs.dropWhile fun c => c ≠ '\x7d' && c ≠ ':' with
  | '\x7d' :: rest => some (name, [], rest)
  | ':' :: '-' :: rest =>
    match rest.dropWhile (· ≠ '\x7d') with
    | _ :: after => some (name, rest.takeWhile (· ≠ '\x7d'), after)
    | [] => none
  | _ => none

/-- A value with its references replaced. -/
def expand (look : String → Option String) (cs : List Char) : List Char :=
  match cs with
  | [] => []
  | '$' :: '\x7b' :: inner =>
    match reference? inner with
    | some (name, default, rest) =>
      (((look name).map String.toList).getD default) ++
        if rest.length ≤ inner.length then expand look rest else []
    | none => '$' :: expand look ('\x7b' :: inner)
  | c :: rest => c :: expand look rest
termination_by cs.length

/-- The entries with one more line: what stands further up comes before the environment, and a
name without a value stands for nothing. -/
def addBinding (environment : Entries String) (known : Entries (Option String)) (b : Binding) :
    Entries (Option String) :=
  let look (name : String) : Option String :=
    match known.lookup name with
    | some value => some (value.getD "")
    | none => environment.lookup name
  known.put b.name (b.value.map fun value => String.ofList (expand look value.toList))

/-- The entries that a settings file gives. -/
def parse (environment : Entries String) (text : String) : Entries (Option String) :=
  (bindings (withLineFeeds (withoutMark text.toList))).foldl (addBinding environment) []

end StatefulRoles.EnvFile
