import StatefulRoles.Text.Blank
import StatefulRoles.Text.Case
/-!
# Object names

A name that a user chose becomes the base of an object's name: lower-case ASCII letters and digits
in words joined by single dashes, cut to a length that leaves room for what the server and the pod
controller append.
-/
namespace StatefulRoles.ObjectName

/-- The longest stateful set name whose revision label, the name with a dash and a hash of ten
characters, still fits in the 63 characters of a label value. Mirrors
`MAX_STATEFULSET_NAME_LENGTH`. -/
def maxLength : Nat := 52

/-- The longest base of a generated name: the server appends five characters, and a dash stands
before them. Mirrors `MAX_GENERATE_NAME_BASE_LENGTH`. -/
def maxBaseLength : Nat := maxLength - 6

def isDash (c : Char) : Bool := c == '-'

/-- Underscores, blanks and dots part words as dashes do. -/
def dashed (c : Char) : Char := if c == '_' || c == ' ' || c == '.' then '-' else c

/-- The characters of a name: ASCII letters, digits and the dash. -/
def isNameChar (c : Char) : Bool := c.isAlphanum || isDash c

/-- One pass over a text from its beginning: each pair of dashes becomes one dash. -/
def mergePairs : List Char → List Char
  | [] => []
  | [c] => [c]
  | c :: d :: cs =>
    if isDash c && isDash d then c :: mergePairs cs else c :: mergePairs (d :: cs)

/-- Whether two dashes follow one another. -/
def hasPair : List Char → Bool
  | [] => false
  | [_] => false
  | c :: d :: cs => isDash c && isDash d || hasPair (d :: cs)

theorem mergePairs_sublist (cs : List Char) : (mergePairs cs).Sublist cs := by
  fun_induction mergePairs cs with
  | case1 => exact List.Sublist.refl _
  | case2 => exact List.Sublist.refl _
  | case3 c d cs _ ih => exact (ih.cons d).cons_cons c
  | case4 c d cs _ ih => exact ih.cons_cons c

/-- While there are pairs, a pass makes the text shorter. -/
theorem length_mergePairs_lt {cs : List Char} (h : hasPair cs = true) :
    (mergePairs cs).length < cs.length := by
  fun_induction mergePairs cs with
  | case1 => cases h
  | case2 => cases h
  | case3 c d cs _ _ =>
    have hle := (mergePairs_sublist cs).length_le
    simp only [List.length_cons]
    omega
  | case4 c d cs hcd ih =>
    rw [hasPair, Bool.or_eq_true, or_iff_right hcd] at h
    exact Nat.succ_lt_succ (ih h)

/-- Passes until no two dashes follow one another: each run of dashes becomes one dash. Part of
`mung_object_name`. -/
def collapse (cs : List Char) : List Char :=
  if hasPair cs = true then collapse (mergePairs cs) else cs
termination_by cs.length
decreasing_by exact length_mergePairs_lt ‹_›

/-- The beginning of a list up to a length; a negative length counts from the end. Part of
`mung_object_name`. -/
def cut (length : Int) (cs : List Char) : List Char :=
  if 0 ≤ length then cs.take length.toNat else cs.take (cs.length - (-length).toNat)

/-- The words of a name joined by single dashes, at full length. -/
def base (name : List Char) : List Char :=
  Text.trim isDash (collapse (((Text.lower name).map dashed).filter isNameChar))

/-- The base cut to a length, without a dash at the end; `x` when nothing is left. -/
def sanitizeChars (length : Int) (name : List Char) : List Char :=
  match Text.trimEnd isDash (cut length (base name)) with
  | [] => ['x']
  | cs => cs

/-- The object name made of a name that a user chose. Mirrors `mung_object_name`. -/
def sanitize (name : String) (length : Int) : String :=
  String.ofList (sanitizeChars length name.toList)

/-- The base of a generated object name. -/
def generatedBase (name : String) : String := sanitize name maxBaseLength

end StatefulRoles.ObjectName
