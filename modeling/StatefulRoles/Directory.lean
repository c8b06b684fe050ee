/-!
# Directories

A directory is written as an absolute path. `absolute` brings every spelling to one form through
the components it names; `cover?` compares two paths as they are written.
-/
namespace StatefulRoles.Directory

/-- The pieces of a path between its slashes. -/
def segments : List Char → List (List Char)
  | [] => [[]]
  | c :: cs =>
    if c = '/' then [] :: segments cs
    else match segments cs with
      | [] => [[c]]
      | s :: ss => (c :: s) :: ss

/-- One step of a path, on the components so far with the last one first: nothing and `.` stay,
`..` goes up and stays at the root, all else goes down. -/
def enter (above : List (List Char)) (segment : List Char) : List (List Char) :=
  if segment = [] || segment = ['.'] then above
  else if segment = ['.', '.'] then above.tail
  else segment :: above

/-- The components that a path names, from the root. -/
def components (path : List Char) : List (List Char) := ((segments path).foldl enter []).reverse

/-- The path with the given components. -/
def ofComponents (cs : List (List Char)) : List Char := '/' :: ['/'].intercalate cs

/-- The absolute path of a directory, in its one form. Mirrors `abs_dir`. -/
def absolute (path : String) : String := String.ofList (ofComponents (components path.toList))

/-- How one directory covers another: it is the same, or it lies above. -/
inductive Cover where
  | equal
  | ancestor
deriving DecidableEq, Repr

/-- How the paths below a directory begin: with the path and one slash. -/
def stem (path : List Char) : List Char :=
  if path.getLast? = some '/' then path else path ++ ['/']

/-- Whether and how a candidate covers a path, both taken as they are written. Mirrors `_covers`. -/
def cover? (candidate path : String) : Option Cover :=
  if candidate = path then some .equal
  else if (stem candidate.toList).isPrefixOf path.toList then some .ancestor
  else none

end StatefulRoles.Directory
