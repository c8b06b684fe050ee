import StatefulRoles.Json.Parser
/-!
# What the reader of JSON reads

`Reads` says what a text holds without a word about calls and their bound: which stretch of it is
which value, and which members an object has as they are written, each name as often as it comes.
Strings and what starts with neither a bracket nor a quote mark are read as `string?` and `atom?`
read them.

Results:
* `parse_eq_ok_iff`: a text is read exactly when it holds a value, and as that value.
* `parse_eq_obj_iff`: it is read as an object exactly when it holds one, with the members collected.
* `Entries.lookup_collect`: of the members of one name an object keeps the last.
-/
namespace StatefulRoles

namespace Entries

variable {α : Type}

/-- Named values put one after the other. -/
def collect (before written : Entries α) : Entries α :=
  written.foldl (fun entries entry => entries.put entry.1 entry.2) before

/-- Of the values of one name the last stays. -/
theorem lookup_collect (before written : Entries α) (name : String) :
    (collect before written).lookup name =
      (written.reverse.lookup name).or (before.lookup name) := by
  induction written generalizing before with
  | nil => rfl
  | cons entry rest ih =>
    show (collect (before.put entry.1 entry.2) rest).lookup name = _
    rw [ih, lookup_put, List.reverse_cons, List.lookup_append, lookup_cons, Option.or_assoc]
    split <;> rfl

end Entries

namespace Json
namespace Parser

/-- What a stretch of a text can be. -/
inductive Piece where
  | value (j : Json)
  | items (js : List Json)
  | object (written : Entries Json)
  | members (written : Entries Json)
  | member (name : String) (j : Json)

/-- So deep containers may stand inside each other, a text begins with a piece, and this is left of
the text. Items and members go up to the bracket that closes them. -/
inductive Reads : Nat → List Char → Piece → List Char → Prop
  | atom {depth cs j rest} (h : atom? cs = some (j, rest)) : Reads depth cs (.value j) rest
  | text {depth cs s rest} (h : string? cs = some (s, rest)) :
    Reads depth ('\x22' :: cs) (.value (.str s)) rest
  | emptyArray {depth cs rest} (h : skipBlanks cs = ']' :: rest) :
    Reads (depth + 1) ('[' :: cs) (.value (.arr [])) rest
  | array {depth cs js rest} (h : Reads depth (skipBlanks cs) (.items js) rest) :
    Reads (depth + 1) ('[' :: cs) (.value (.arr js)) rest
  | lastItem {depth cs j rest rest'} (h : Reads depth cs (.value j) rest)
    (hend : skipBlanks rest = ']' :: rest') : Reads depth cs (.items [j]) rest'
  | moreItems {depth cs j js rest rest' rest''} (h : Reads depth cs (.value j) rest)
    (hcomma : skipBlanks rest = ',' :: rest')
    (hmore : Reads depth (skipBlanks rest') (.items js) rest'') :
    Reads depth cs (.items (j :: js)) rest''
  | collected {depth cs written rest} (h : Reads depth cs (.object written) rest) :
    Reads depth cs (.value (.obj (Entries.collect [] written))) rest
  | emptyObject {depth cs rest} (h : skipBlanks cs = '\x7d' :: rest) :
    Reads (depth + 1) ('\x7b' :: cs) (.object []) rest
  | object {depth cs written rest} (h : Reads depth (skipBlanks cs) (.members written) rest) :
    Reads (depth + 1) ('\x7b' :: cs) (.object written) rest
  | member {depth cs name rest rest' j rest''} (hname : string? cs = some (name, rest))
    (hcolon : skipBlanks rest = ':' :: rest')
    (h : Reads depth (skipBlanks rest') (.value j) rest'') :
    Reads depth ('\x22' :: cs) (.member name j) rest''
  | lastMember {depth cs name j rest rest'} (h : Reads depth cs (.member name j) rest)
    (hend : skipBlanks rest = '\x7d' :: rest') : Reads depth cs (.members [(name, j)]) rest'
  | moreMembers {depth cs name j written rest rest' rest''}
    (h : Reads depth cs (.member name j) rest) (hcomma : skipBlanks rest = ',' :: rest')
    (hmore : Reads depth (skipBlanks rest') (.members written) rest'') :
    Reads depth cs (.members ((name, j) :: written)) rest''

/-! ## What is read is there -/

theorem outcome_eq_ok {reading : Reading Json} {x : Json × List Char} :
    outcome reading = .ok x ↔ reading = some x := by
  cases reading <;> simp [outcome]

/-- What one call reads is there if what it calls in turn reads is there. -/
structure Sound (fuel : Nat) : Prop where
  value : ∀ {depth cs j rest}, value fuel depth cs = .ok (j, rest) → Reads depth cs (.value j) rest
  items : ∀ {depth before cs j rest}, items fuel depth before cs = .ok (j, rest) →
    ∃ js, j = .arr (before.reverse ++ js) ∧ Reads depth cs (.items js) rest
  members : ∀ {depth before cs j rest}, members fuel depth before cs = .ok (j, rest) →
    ∃ written, j = .obj (Entries.collect before written) ∧ Reads depth cs (.members written) rest

variable {fuel depth : Nat} {cs rest : List Char} {j : Json}

theorem Sound.value_succ (h : Sound fuel) (hv : Parser.value (fuel + 1) depth cs = .ok (j, rest)) :
    Reads depth cs (.value j) rest := by
  rw [Parser.value.eq_def] at hv
  dsimp only at hv
  split at hv
  · rw [outcome_eq_ok, Option.map_eq_some_iff] at hv
    obtain ⟨⟨s, r⟩, hs, hr⟩ := hv
    cases hr
    exact .text hs
  · split at hv
    · cases hv
    · split at hv
      case h_1 r hr =>
        cases hv
        exact .emptyArray hr
      case h_2 =>
        obtain ⟨js, rfl, hread⟩ := h.items hv
        exact .array hread
  · split at hv
    · cases hv
    · split at hv
      case h_1 r hr =>
        cases hv
        exact .collected (.emptyObject hr)
      case h_2 =>
        obtain ⟨written, rfl, hread⟩ := h.members hv
        exact .collected (.object hread)
  · exact .atom (outcome_eq_ok.mp hv)

theorem Sound.items_succ (h : Sound fuel) {before : List Json}
    (hi : Parser.items (fuel + 1) depth before cs = .ok (j, rest)) :
    ∃ js, j = .arr (before.reverse ++ js) ∧ Reads depth cs (.items js) rest := by
  rw [Parser.items] at hi
  split at hi
  · cases hi
  · rename_i item r hitem
    have hread := h.value hitem
    split at hi
    case h_1 r' hr =>
      cases hi
      exact ⟨[item], by rw [List.reverse_cons], .lastItem hread hr⟩
    case h_2 r' hr =>
      obtain ⟨js, rfl, hmore⟩ := h.items hi
      exact ⟨item :: js, by rw [List.reverse_cons, List.append_assoc]; rfl,
        .moreItems hread hr hmore⟩
    case h_3 => cases hi

theorem Sound.members_succ (h : Sound fuel) {before : Entries Json}
    (hm : Parser.members (fuel + 1) depth before cs = .ok (j, rest)) :
    ∃ written, j = .obj (Entries.collect before written) ∧
      Reads depth cs (.members written) rest := by
  rw [Parser.members.eq_def] at hm
  dsimp only at hm
  split at hm
  case h_2 => cases hm
  split at hm
  · cases hm
  rename_i name r hname
  split at hm
  case h_2 => cases hm
  rename_i r' hcolon
  split at hm
  · cases hm
  rename_i value r'' hvalue
  have hread : Reads depth _ (.member name value) r'' := .member hname hcolon (h.value hvalue)
  split at hm
  case h_1 _ hr =>
    cases hm
    exact ⟨[(name, value)], rfl, .lastMember hread hr⟩
  case h_2 _ hr =>
    obtain ⟨written, rfl, hmore⟩ := h.members hm
    exact ⟨(name, value) :: written, rfl, .moreMembers hread hr hmore⟩
  case h_3 => cases hm

theorem sound (fuel : Nat) : Sound fuel := by
  induction fuel with
  | zero => constructor <;> nofun
  | succ fuel ih => exact ⟨ih.value_succ, ih.items_succ, ih.members_succ⟩

/-! ## What is left of a text is its ending -/

theorem skipBlanks_suffix (cs : List Char) : skipBlanks cs <:+ cs := List.dropWhile_suffix isBlank

theorem units?_suffix {units : List Nat} (h : units? cs = some (units, rest)) : rest <:+ cs := by
  fun_induction units? cs generalizing units rest with
  | case1 => cases h
  | case2 r =>
    cases h
    exact List.suffix_cons _ _
  | case3 a b c d r us r' unit hmore hvalue ih =>
    cases h
    exact (ih hmore).trans ⟨['\\', 'u', a, b, c, d], rfl⟩
  | case4 => cases h
  | case5 letter r _ us r' unit hmore hletter ih =>
    cases h
    exact (ih hmore).trans ⟨['\\', letter], rfl⟩
  | case6 => cases h
  | case7 => cases h
  | case8 c r _ _ _ _ us r' hmore ih =>
    cases h
    exact (ih hmore).trans (List.suffix_cons _ _)
  | case9 => cases h

theorem string?_suffix {s : String} (h : string? cs = some (s, rest)) : rest <:+ cs := by
  obtain ⟨⟨units, r⟩, hunits, hr⟩ := Option.map_eq_some_iff.mp h
  cases hr
  exact units?_suffix hunits

theorem fraction_suffix (cs : List Char) : (fraction cs).2 <:+ cs := by
  unfold fraction
  split
  · split
    · exact List.suffix_rfl
    · exact (List.dropWhile_suffix _).trans (List.suffix_cons _ _)
  · exact List.suffix_rfl

theorem takeSign_suffix (cs : List Char) : (Text.takeSign cs).2 <:+ cs := by
  unfold Text.takeSign
  split
  · exact List.suffix_cons _ _
  · exact List.suffix_cons _ _
  · exact List.suffix_rfl

theorem exponent?_suffix (cs : List Char) : (exponent? cs).2 <:+ cs := by
  unfold exponent?
  split
  · rename_i mark r
    split
    · dsimp only
      split
      · exact List.suffix_rfl
      · exact ((List.dropWhile_suffix _).trans (takeSign_suffix r)).trans (List.suffix_cons _ _)
    · exact List.suffix_rfl
  · exact List.suffix_rfl

theorem whole?_suffix {digits : List Char} (h : whole? cs = some (digits, rest)) :
    rest <:+ cs := by
  unfold whole? at h
  split at h
  · cases h
    exact List.suffix_cons _ _
  · split at h
    · cases h
    · cases h
      exact List.dropWhile_suffix _

theorem unsigned?_suffix {negative : Bool} (h : unsigned? negative cs = some (j, rest)) :
    rest <:+ cs := by
  unfold unsigned? at h
  split at h
  · cases h
  · rename_i whole r hwhole
    have hrest : (exponent? (fraction r).2).2 <:+ cs :=
      ((exponent?_suffix _).trans (fraction_suffix r)).trans (whole?_suffix hwhole)
    dsimp only at h
    split at h
    · split at h
      · cases h
      · cases h
        exact hrest
    · cases h
      exact hrest

theorem atom?_suffix (h : atom? cs = some (j, rest)) : rest <:+ cs := by
  unfold atom? at h
  split at h
  case h_7 => exact (unsigned?_suffix h).trans (List.suffix_cons _ _)
  case h_8 => exact unsigned?_suffix h
  all_goals
    cases h
    simp [List.suffix_cons_iff]

theorem Reads.suffix {piece : Piece} (h : Reads depth cs piece rest) : rest <:+ cs := by
  have hblank {cs cs' : List Char} {c : Char} (hc : skipBlanks cs = c :: cs') : cs' <:+ cs :=
    (List.suffix_cons c cs').trans (hc ▸ skipBlanks_suffix cs)
  induction h with
  | atom h => exact atom?_suffix h
  | text h => exact (string?_suffix h).trans (List.suffix_cons _ _)
  | emptyArray h => exact (hblank h).trans (List.suffix_cons _ _)
  | emptyObject h => exact (hblank h).trans (List.suffix_cons _ _)
  | array _ ih => exact (ih.trans (skipBlanks_suffix _)).trans (List.suffix_cons _ _)
  | object _ ih => exact (ih.trans (skipBlanks_suffix _)).trans (List.suffix_cons _ _)
  | collected _ ih => exact ih
  | lastItem _ hend ih => exact (hblank hend).trans ih
  | lastMember _ hend ih => exact (hblank hend).trans ih
  | moreItems _ hcomma _ ih ihmore =>
    exact ((ihmore.trans (skipBlanks_suffix _)).trans (hblank hcomma)).trans ih
  | moreMembers _ hcomma _ ih ihmore =>
    exact ((ihmore.trans (skipBlanks_suffix _)).trans (hblank hcomma)).trans ih
  | member hname hcolon _ ih =>
    exact (((ih.trans (skipBlanks_suffix _)).trans (hblank hcolon)).trans
      (string?_suffix hname)).trans (List.suffix_cons _ _)

/-- A bracket that closes starts no item. -/
theorem Reads.not_bracket {js : List Json} (h : Reads depth (']' :: cs) (.items js) rest) :
    False := by
  have hvalue {j rest} (h : Reads depth (']' :: cs) (.value j) rest) : False := by
    cases h with
    | atom h => cases h
    | collected h => cases h
  cases h with
  | lastItem h => exact hvalue h
  | moreItems h => exact hvalue h

theorem Reads.not_brace {written : Entries Json}
    (h : Reads depth ('\x7d' :: cs) (.members written) rest) : False := by
  cases h with
  | lastMember h => cases h
  | moreMembers h => cases h

/-! ## What is there is read

A call and the calls that it makes in turn read on from endings of the text, and of two calls in a
row the second from a shorter one. So twice the length of the text bounds them. -/

/-- A call that is allowed enough calls in turn finds the piece. -/
def Found (depth : Nat) (cs rest : List Char) : Piece → Prop
  | .value j => ∀ fuel, 2 * cs.length < fuel → value fuel depth cs = .ok (j, rest)
  | .items js => ∀ fuel before, 2 * cs.length + 1 < fuel →
    items fuel depth before cs = .ok (.arr (before.reverse ++ js), rest)
  | .object written => ∀ fuel, 2 * cs.length < fuel →
    value fuel depth cs = .ok (.obj (Entries.collect [] written), rest)
  | .members written => ∀ fuel before, 2 * cs.length + 1 < fuel →
    members fuel depth before cs = .ok (.obj (Entries.collect before written), rest)
  | .member name j => ∃ cs' rest' rest'', cs = '\x22' :: cs' ∧ string? cs' = some (name, rest') ∧
    skipBlanks rest' = ':' :: rest'' ∧
    ∀ fuel, 2 * cs.length < fuel → value fuel depth (skipBlanks rest'') = .ok (j, rest)

theorem found_atom (h : atom? cs = some (j, rest)) : Found depth cs rest (.value j) := by
  intro fuel hfuel
  obtain ⟨fuel, rfl⟩ : ∃ n, fuel = n + 1 := ⟨fuel - 1, by omega⟩
  rw [value.eq_def]
  dsimp only
  split
  · cases h
  · cases h
  · cases h
  · rw [h]
    rfl

/-- What is read behind a member. -/
def afterMember (fuel depth : Nat) (before : Entries Json) : List Char → Outcome
  | '\x7d' :: rest => .ok (.obj before, rest)
  | ',' :: rest => members fuel depth before (skipBlanks rest)
  | _ => .error .malformed

theorem members_succ {name : String} {before : Entries Json} {rest' rest'' : List Char}
    (hname : string? cs = some (name, rest')) (hcolon : skipBlanks rest' = ':' :: rest'')
    (hvalue : value fuel depth (skipBlanks rest'') = .ok (j, rest)) :
    members (fuel + 1) depth before ('\x22' :: cs) =
      afterMember fuel depth (before.put name j) (skipBlanks rest) := by
  simp only [members, hname, hcolon, hvalue]
  rfl

theorem Reads.found {piece : Piece} (h : Reads depth cs piece rest) :
    Found depth cs rest piece := by
  have hshort {cs cs' : List Char} {c : Char} (hc : skipBlanks cs = c :: cs') :
      (skipBlanks cs').length < cs.length := by
    have hle := (skipBlanks_suffix cs).length_le
    have hle' := (skipBlanks_suffix cs').length_le
    rw [hc, List.length_cons] at hle
    omega
  induction h with
  | atom h => exact found_atom h
  | text h =>
    intro fuel hfuel
    obtain ⟨fuel, rfl⟩ : ∃ n, fuel = n + 1 := ⟨fuel - 1, by omega⟩
    rw [value, h]
    rfl
  | emptyArray h =>
    intro fuel hfuel
    obtain ⟨fuel, rfl⟩ : ∃ n, fuel = n + 1 := ⟨fuel - 1, by omega⟩
    rw [value, h]
    rfl
  | @array depth cs js rest h ih =>
    intro fuel hfuel
    obtain ⟨fuel, rfl⟩ : ∃ n, fuel = n + 1 := ⟨fuel - 1, by omega⟩
    have hle := (skipBlanks_suffix cs).length_le
    rw [List.length_cons] at hfuel
    rw [value]
    split
    case h_1 r hr => exact (Reads.not_bracket (hr ▸ h)).elim
    case h_2 => exact ih fuel [] (by omega)
  | collected _ ih => exact ih
  | emptyObject h =>
    intro fuel hfuel
    obtain ⟨fuel, rfl⟩ : ∃ n, fuel = n + 1 := ⟨fuel - 1, by omega⟩
    rw [value, h]
    rfl
  | @object depth cs written rest h ih =>
    intro fuel hfuel
    obtain ⟨fuel, rfl⟩ : ∃ n, fuel = n + 1 := ⟨fuel - 1, by omega⟩
    have hle := (skipBlanks_suffix cs).length_le
    rw [List.length_cons] at hfuel
    rw [value]
    split
    case h_1 r hr => exact (Reads.not_brace (hr ▸ h)).elim
    case h_2 => exact ih fuel [] (by omega)
  | lastItem h hend ih =>
    intro fuel before hfuel
    obtain ⟨fuel, rfl⟩ : ∃ n, fuel = n + 1 := ⟨fuel - 1, by omega⟩
    rw [items, ih fuel (by omega)]
    dsimp only
    rw [hend, List.reverse_cons]
    rfl
  | @moreItems depth cs j js rest rest' rest'' h hcomma _ ih ihmore =>
    intro fuel before hfuel
    obtain ⟨fuel, rfl⟩ : ∃ n, fuel = n + 1 := ⟨fuel - 1, by omega⟩
    have hle := h.suffix.length_le
    have hlt := hshort hcomma
    have hrest := ihmore fuel (j :: before) (by omega)
    rw [List.reverse_cons, List.append_assoc] at hrest
    rw [items, ih fuel (by omega)]
    dsimp only
    rw [hcomma]
    exact hrest
  | @member depth cs name rest rest' j rest'' hname hcolon h ih =>
    have hle := (string?_suffix hname).length_le
    have hlt := hshort hcolon
    refine ⟨cs, rest, rest', rfl, hname, hcolon, fun fuel hfuel => ih fuel ?_⟩
    rw [List.length_cons] at hfuel
    omega
  | lastMember h hend ih =>
    intro fuel before hfuel
    obtain ⟨fuel, rfl⟩ : ∃ n, fuel = n + 1 := ⟨fuel - 1, by omega⟩
    obtain ⟨cs', r, r', rfl, hname, hcolon, hvalue⟩ := ih
    rw [members_succ hname hcolon (hvalue fuel (by omega)), hend]
    rfl
  | @moreMembers depth cs name j written rest rest' rest'' h hcomma _ ih ihmore =>
    intro fuel before hfuel
    obtain ⟨fuel, rfl⟩ : ∃ n, fuel = n + 1 := ⟨fuel - 1, by omega⟩
    have hle := h.suffix.length_le
    have hlt := hshort hcomma
    obtain ⟨cs', r, r', rfl, hname, hcolon, hvalue⟩ := ih
    rw [members_succ hname hcolon (hvalue fuel (by omega)), hcomma]
    exact ihmore fuel (before.put name j) (by omega)

end Parser

/-! ## Whole texts -/

/-- A text is a piece in which containers stand no deeper than said, with nothing but blanks around
it. -/
def Holds (depth : Nat) (cs : List Char) (piece : Parser.Piece) : Prop :=
  ∃ rest, Parser.Reads depth (Parser.skipBlanks cs) piece rest ∧ Parser.skipBlanks rest = []

/-- A text is read exactly when it holds a value, and as that value. -/
theorem parse_eq_ok_iff {depth : Nat} {cs : List Char} {j : Json} :
    parse depth cs = .ok j ↔ Holds depth cs (.value j) := by
  unfold parse Holds
  constructor
  · intro h
    split at h
    · rename_i value rest hvalue
      split at h
      case isTrue hblank =>
        cases h
        exact ⟨rest, (Parser.sound _).value hvalue, List.isEmpty_iff.mp hblank⟩
      case isFalse => cases h
    · cases h
  · rintro ⟨rest, hread, hblank⟩
    have hle := (Parser.skipBlanks_suffix cs).length_le
    have hvalue := hread.found (2 * cs.length + 1) (by omega)
    rw [hvalue]
    dsimp only
    rw [hblank]
    rfl

/-- No object starts with neither a bracket nor a quote mark. -/
theorem Parser.atom?_ne_obj {cs rest : List Char} {members : Entries Json} :
    Parser.atom? cs ≠ some (.obj members, rest) := by
  have hunsigned (negative : Bool) (cs : List Char) :
      Parser.unsigned? negative cs ≠ some (.obj members, rest) := by
    unfold Parser.unsigned?
    split
    · nofun
    · dsimp only
      split
      · split <;> nofun
      · nofun
  unfold Parser.atom?
  split
  case h_7 => exact hunsigned _ _
  case h_8 => exact hunsigned _ _
  all_goals nofun

/-- A text is read as an object exactly when it holds one, with the members collected. -/
theorem parse_eq_obj_iff {depth : Nat} {cs : List Char} {members : Entries Json} :
    parse depth cs = .ok (.obj members) ↔
      ∃ written, Holds depth cs (.object written) ∧ members = Entries.collect [] written := by
  rw [parse_eq_ok_iff]
  unfold Holds
  generalize Parser.skipBlanks cs = cs
  constructor
  · rintro ⟨rest, hread, hblank⟩
    cases hread with
    | atom h => exact absurd h Parser.atom?_ne_obj
    | collected h => exact ⟨_, ⟨rest, h, hblank⟩, rfl⟩
  · rintro ⟨written, ⟨rest, hread, hblank⟩, rfl⟩
    exact ⟨rest, .collected hread, hblank⟩

end Json
end StatefulRoles
