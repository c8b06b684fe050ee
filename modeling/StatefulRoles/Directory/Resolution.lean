import StatefulRoles.Directory
import StatefulRoles.Log
/-!
# Directories to persist

The platform and the app each list directories to keep on a role's volume. Every directory kept
becomes a mount of its own, so `resolve` leaves out each entry that another one covers: an entry
with an ancestor in either list, one that repeats an earlier entry of its list, and an app's entry
that the platform lists as well. What is kept stays in order, the platform's entries first.
-/
namespace StatefulRoles.Directory

/-- An entry left out: the entry, the entry that covers it (both as they were given), and whose list
it was in. Mirrors `SkippedDir`. -/
structure Skipped where
  path : String
  coveredBy : String
  source : String
deriving DecidableEq, Repr

/-- What becomes of one entry. -/
inductive Verdict where
  | kept (dir : String)
  | skipped (record : Skipped)
deriving DecidableEq, Repr

/-- What is logged about an entry left out. -/
def Skipped.log (record : Skipped) : Log :=
  .info s!"[PERSIST] Skipping {record.path} from {record.source} persistDirs; dir {record.coveredBy} covers it"

/-- The directories kept, the entries left out, and what was logged on the way, each in order.
Mirrors `PersistDirResolution`. -/
structure Resolution where
  dirs : List String := []
  skipped : List Skipped := []
  logs : List Log := []
deriving DecidableEq, Repr

/-- What becomes of one entry more; one that is left out is logged at once. -/
def Resolution.add (r : Resolution) : Verdict → Resolution
  | .kept dir => { r with dirs := r.dirs ++ [dir] }
  | .skipped record =>
    { r with logs := r.logs ++ [record.log], skipped := r.skipped ++ [record] }

/-- The first entry of a list that covers a directory. An ancestor always does; the same directory
does at the positions where `equalCounts` says so. Part of `_filter_dirs`. -/
def firstCover (equalCounts : Nat → Bool) (entries : List String) (dir : String) : Option String :=
  (entries.zipIdx.find? fun (entry, index) =>
    match cover? (absolute entry) dir with
    | some .ancestor => true
    | some .equal => equalCounts index
    | none => false).map (·.1)

/-- The verdict on the entry at a position of its own list: its own list is searched first, where
the same directory counts at earlier positions, then the other list, where it counts if ties are
lost to it. Part of `_filter_dirs`. -/
def judge (own other : List String) (tiesLost : Bool) (source : String) (entry : String)
    (index : Nat) : Verdict :=
  let dir := absolute entry
  match firstCover (· < index) own dir <|> firstCover (fun _ => tiesLost) other dir with
  | some covering => .skipped ⟨entry, covering, source⟩
  | none => .kept dir

/-- Walks over a list and judges its entries one after the other. Mirrors `_filter_dirs`. -/
def walk (own other : List String) (tiesLost : Bool) (source : String) (r : Resolution) :
    Resolution :=
  own.zipIdx.foldl (fun r (entry, index) => r.add (judge own other tiesLost source entry index)) r

/-- Merges the platform's list and the app's, if it has one. `appSource` says in the records whose
list the app's is. Mirrors `resolve_persist_dirs`. -/
def resolve (platform : List String) (app : Option (List String)) (appSource : String) :
    Resolution :=
  let own := app.getD []
  walk own platform true appSource (walk platform own false "default" {})

end StatefulRoles.Directory
