import StatefulRoles.Proofs.Schema.Faithful
import StatefulRoles.Proofs.Schema.Outcomes
/-!
# Schemas that judge the sizes in a document

`Tracks` says of a schema that it judges each of the sizes that a document has, wherever it has
them, and that otherwise no reading traps. `Keeps` says that it writes them as they were given.

Results:
* `quantity_tracks`, `optionalQuantity_tracks`: a schema of a size tracks it.
* `option_tracks`, `list_tracks`: so does one that is put together of schemas that do.
* `object_tracks`, with `Reads.required`, `Reads.defaulted` and `Reads.seq` for the members: so does
  one of an object, if its members do.
-/
namespace StatefulRoles

/-- The schema judges the sizes of a document, each on its own. In a document that is valid, any
value may be given as a size instead, and decides what comes of the whole. -/
structure Tracks {α : Type} (s : Schema α) (sizes : Sizes) : Prop where
  traps : ∀ x, (s.read x).trap? = (sizes x).findSome? (·.verdict.trap?)
  causes : ∀ x, (s.read x).trap? = none →
    ∀ g ∈ sizes x, (s.read x).causesAt g.place = g.verdict.causes
  put : ∀ x a, s.read x = .ok a → ∀ g ∈ sizes x, ∀ value,
    g.withValue value ∈ sizes (x.put g.place value) ∧
      Verdict.Decides g.place (g.withValue value).verdict (s.read (x.put g.place value))

/-- What is written of a value that was read has each size as it was given. -/
def Keeps {α : Type} (s : Schema α) (sizes : Sizes) : Prop :=
  ∀ x a, s.read x = .ok a → ∀ g ∈ sizes x, (s.write a).part? g.place = some g.value

theorem Tracks.within {α : Type} {s : Schema α} {sizes : Sizes} (h : Tracks s sizes)
    (step : Issue.Step) (x : Json) :
    Judges (· = step) ((sizes x).map (·.under step)) ((s.read x).within step) where
  traps := by
    rw [Checked.trap?_within, h.traps, List.findSome?_map]
    rfl
  causes htrap := by
    rw [Checked.trap?_within] at htrap
    rw [List.forall_mem_map]
    intro g hg
    exact (Checked.causesAt_within step g.place _).trans (h.causes x htrap g hg)
  issues place hplace := ⟨step, Checked.places_within step _ place hplace, rfl⟩
  sizes := List.forall_mem_map.mpr fun g _ => ⟨step, rfl, rfl⟩

namespace Schema

variable {α β : Type} {s : Schema α} {sizes : Sizes}

/-! ## Sizes themselves -/

theorem option_read_eq_none {x : Json} : (option s).read x = .ok none ↔ x = .null := by
  cases x with
  | null => exact iff_of_true rfl rfl
  | _ =>
    refine iff_of_false (fun h => ?_) nofun
    obtain ⟨a, -, ha⟩ := Checked.map_eq_ok.mp h
    cases ha

theorem ofText_decides (text : String) :
    Verdict.Decides [] (.ofText text) (quantity.read (.str text)) := by
  simp only [quantity, Schema.text, Checked.bind, Verdict.ofText]
  rcases Quantity.parse text with (_ | _ | t) | q
  · exact .rejected _
  · exact .rejected _
  · exact .escaping t
  · exact .accepted text

theorem quantity_decides (x : Json) :
    Verdict.Decides [] (Size.mk [] x false).verdict (quantity.read x) := by
  cases x with
  | str text => exact ofText_decides text
  | _ => exact .rejected _

theorem optionalQuantity_decides (x : Json) :
    Verdict.Decides [] (Size.mk [] x true).verdict ((option quantity).read x) := by
  cases x with
  | null => exact .accepted none
  | str text => exact (ofText_decides text).map some
  | _ => exact .rejected _

/-- A schema of a size tracks it if it decides what comes of the reading. -/
theorem tracks_itself {nullable : Bool}
    (h : ∀ x, Verdict.Decides [] (Size.mk [] x nullable).verdict (s.read x)) :
    Tracks s (Sizes.itself nullable) where
  traps x := by
    rw [(h x).trap?]
    simp [Sizes.itself]
  causes x _ := List.forall_mem_singleton.mpr (h x).causesAt
  put x a _ := List.forall_mem_singleton.mpr fun value => ⟨List.mem_singleton.mpr rfl, h value⟩

theorem quantity_tracks : Tracks quantity (Sizes.itself false) := tracks_itself quantity_decides

theorem quantity_keeps : Keeps quantity (Sizes.itself false) := by
  intro x a ha
  obtain ⟨rfl, -⟩ := quantity_read_eq_ok.mp ha
  exact List.forall_mem_singleton.mpr rfl

theorem optionalQuantity_tracks : Tracks (option quantity) (Sizes.itself true) :=
  tracks_itself optionalQuantity_decides

theorem optionalQuantity_keeps : Keeps (option quantity) (Sizes.itself true) := by
  intro x a ha
  cases a with
  | none =>
    obtain rfl : x = .null := option_read_eq_none.mp ha
    exact List.forall_mem_singleton.mpr rfl
  | some text =>
    obtain ⟨rfl, -⟩ := quantity_read_eq_ok.mp (option_read_eq_some.mp ha).2
    exact List.forall_mem_singleton.mpr rfl

/-! ## Values that have no size -/

/-- Reading ends in an outcome that is a value or issues. -/
def Trapless (s : Schema α) : Prop := ∀ x, (s.read x).trap? = none

theorem Trapless.tracks (h : Trapless s) : Tracks s fun _ => [] := ⟨h, nofun, nofun⟩

/-! ## Composition -/

theorem option_tracks (h : Tracks s sizes) (hdeep : ∀ x, ∀ g ∈ sizes x, g.place ≠ []) :
    Tracks (option s) sizes.orNull := by
  have hread {x : Json} (hx : x ≠ .null) : (option s).read x = some <$> s.read x := by
    cases x with
    | null => exact absurd rfl hx
    | _ => rfl
  have hsizes {x : Json} (hx : x ≠ .null) : sizes.orNull x = sizes x := by
    cases x with
    | null => exact absurd rfl hx
    | _ => rfl
  refine ⟨fun x => ?_, fun x htrap => ?_, fun x a ha => ?_⟩ <;> by_cases hx : x = .null
  · rw [hx]
    rfl
  · rw [hread hx, hsizes hx, Checked.trap?_map, h.traps]
  · rw [hx]
    exact nofun
  · rw [hread hx, Checked.trap?_map] at htrap
    simpa only [hread hx, hsizes hx, Checked.causesAt_map] using h.causes x htrap
  · rw [hx]
    exact nofun
  · intro g hg value
    rw [hsizes hx] at hg
    rw [hread hx] at ha
    obtain ⟨b, hb, -⟩ := Checked.map_eq_ok.mp ha
    have hput := Json.put_ne_null hx (hdeep x g hg) value
    rw [hread hput, hsizes hput]
    obtain ⟨hmem, hdecides⟩ := h.put x b hb g hg value
    exact ⟨hmem, hdecides.map some⟩

theorem option_keeps (h : Keeps s sizes) : Keeps (option s) sizes.orNull := by
  intro x a ha g hg
  cases a with
  | none =>
    obtain rfl : x = .null := option_read_eq_none.mp ha
    cases hg
  | some b =>
    obtain ⟨hx, hb⟩ := option_read_eq_some.mp ha
    have hsizes : sizes.orNull x = sizes x := by
      cases x with
      | null => exact absurd rfl hx
      | _ => rfl
    rw [hsizes] at hg
    exact h x b hb g hg

/-- The items of a list, of which the first has the given index. -/
def readItems (s : Schema α) (start : Nat) (items : List Json) : Checked (List α) :=
  .sequence ((items.zipIdx start).map fun (item, index) => (s.read item).within (.index index))

theorem readItems_cons (start : Nat) (item : Json) (items : List Json) :
    readItems s start (item :: items) =
      List.cons <$> (s.read item).within (.index start) <*> readItems s (start + 1) items := rfl

theorem ofItems_cons (start : Nat) (item : Json) (items : List Json) :
    sizes.ofItems start (item :: items) =
      (sizes item).map (·.under (.index start)) ++ sizes.ofItems (start + 1) items := by
  simp [Sizes.ofItems, List.zipIdx_cons]

theorem mem_ofItems {start : Nat} {items : List Json} {g : Size} :
    g ∈ sizes.ofItems start items ↔ ∃ (index : Nat) (item : Json), items[index]? = some item ∧
      ∃ g' ∈ sizes item, g = g'.under (.index (start + index)) := by
  simp only [Sizes.ofItems, List.mem_flatMap, List.mem_map, Prod.exists,
    List.mk_mem_zipIdx_iff_le_and_getElem?_sub]
  constructor
  · rintro ⟨item, index, ⟨hle, hitem⟩, g', hg', rfl⟩
    exact ⟨index - start, item, hitem, g', hg', by rw [Nat.add_sub_cancel' hle]⟩
  · rintro ⟨index, item, hitem, g', hg', rfl⟩
    have hitem' : items[start + index - start]? = some item := by rwa [Nat.add_sub_cancel_left]
    exact ⟨item, start + index, ⟨Nat.le_add_right _ _, hitem'⟩, g', hg', rfl⟩

/-- Each item of a list that was read was read itself. -/
theorem exists_item {items : List Json} {as : List α} (h : (list s).read (.arr items) = .ok as)
    {index : Nat} {item : Json} (hitem : items[index]? = some item) :
    ∃ a, as[index]? = some a ∧ s.read item = .ok a := by
  have hall := list_read_eq_ok.mp h
  clear h
  induction hall generalizing index with
  | nil => cases hitem
  | cons hfirst hrest ih =>
    cases index with
    | zero =>
      obtain rfl := Option.some.inj hitem
      exact ⟨_, rfl, hfirst⟩
    | succ index => exact ih hitem

theorem readItems_judges (h : Tracks s sizes) (start : Nat) (items : List Json) :
    Judges (fun step => ∃ index, start ≤ index ∧ step = .index index) (sizes.ofItems start items)
      (readItems s start items) := by
  induction items generalizing start with
  | nil => exact Judges.ok _ []
  | cons item items ih =>
    have hapart : Apart (· = Issue.Step.index start)
        (fun step => ∃ index, start + 1 ≤ index ∧ step = .index index) := by
      rintro step rfl ⟨index, hindex, heq⟩
      cases heq
      exact Nat.not_succ_le_self _ hindex
    rw [readItems_cons, ofItems_cons]
    refine (((h.within (.index start) item).map List.cons).seq (ih (start + 1)) hapart).mono ?_
    rintro step (rfl | ⟨index, hindex, rfl⟩)
    · exact ⟨start, Nat.le_refl _, rfl⟩
    · exact ⟨index, Nat.le_of_succ_le hindex, rfl⟩

/-- A value that is put into one item of a valid list decides what comes of the list. -/
theorem readItems_put (h : Tracks s sizes) {start index : Nat} {items : List Json} {as : List α}
    (has : readItems s start items = .ok as) {item : Json} (hitem : items[index]? = some item)
    {g : Size} (hg : g ∈ sizes item) (value : Json) :
    Verdict.Decides (.index (start + index) :: g.place) (g.withValue value).verdict
      (readItems s start (items.modify index (·.put g.place value))) := by
  induction items generalizing start index as with
  | nil => cases hitem
  | cons first items ih =>
    rw [readItems_cons, Checked.seq_eq_ok] at has
    obtain ⟨f, hf, rest, hrest, rfl⟩ := has
    obtain ⟨a, ha, rfl⟩ := Checked.map_eq_ok.mp hf
    cases index with
    | zero =>
      obtain rfl : first = item := by simpa using hitem
      rw [List.modify_zero_cons, readItems_cons, hrest]
      have hdecides := (h.put first a (Checked.within_eq_ok.mp ha) g hg value).2
      exact ((hdecides.within (.index start)).map List.cons).seq_ok rest
    | succ index =>
      have hdecides := ih hrest (by simpa using hitem)
      rw [List.modify_succ_cons, readItems_cons, ha]
      rw [Nat.add_right_comm, Nat.add_assoc] at hdecides
      exact hdecides.map (List.cons a)

theorem list_tracks (h : Tracks s sizes) : Tracks (list s) sizes.inItems where
  traps x := by
    cases x with
    | arr items => exact (readItems_judges h 0 items).traps
    | _ => rfl
  causes x htrap := by
    cases x with
    | arr items => exact (readItems_judges h 0 items).causes htrap
    | _ => exact nofun
  put x as has g hg value := by
    cases x with
    | arr items =>
      obtain ⟨index, item, hitem, g, hmem, rfl⟩ := mem_ofItems.mp hg
      obtain ⟨a, -, ha⟩ := exists_item has hitem
      have hput : (Json.arr items).put (g.under (.index (0 + index))).place value =
          .arr (items.modify index (·.put g.place value)) := by
        rw [Nat.zero_add]
        rfl
      rw [hput]
      refine ⟨mem_ofItems.mpr ⟨index, item.put g.place value, ?_, g.withValue value,
        (h.put item a ha g hmem value).1, rfl⟩, readItems_put h has hitem hmem value⟩
      rw [List.getElem?_modify_eq, hitem]
      rfl
    | _ => cases hg

theorem list_keeps (h : Keeps s sizes) : Keeps (list s) sizes.inItems := by
  intro x as has g hg
  cases x with
  | arr items =>
    obtain ⟨index, item, hitem, g, hmem, rfl⟩ := mem_ofItems.mp hg
    obtain ⟨a, has, ha⟩ := exists_item has hitem
    have hwritten : (as.map s.write)[index]? = some (s.write a) := by
      rw [List.getElem?_map, has, Option.map_some]
    rw [Nat.zero_add]
    show ((as.map s.write)[index]?).bind (Json.part? g.place) = some g.value
    rw [hwritten]
    exact h item a ha g hmem
  | _ => cases hg

/-! ## Objects -/

section

variable {names names' : List String} {sizes' : Sizes} {read : Members → Checked α}

/-- Is the step into a member with one of these names? -/
def IsMember (names : List String) (step : Issue.Step) : Prop := ∃ name ∈ names, step = .name name

/-- A part of the reading of an object that asks for these members only, and judges the sizes in
them. -/
structure Reads (names : List String) (sizes : Sizes) (read : Members → Checked α) : Prop where
  others : ∀ x, (∀ o, x ≠ .obj o) → sizes x = []
  judges : ∀ o, Judges (IsMember names) (sizes (.obj o)) (read o)
  congr : ∀ o o' : Members, (∀ name ∈ names, o.lookup name = o'.lookup name) →
    read o = read o' ∧ sizes (.obj o) = sizes (.obj o')
  put : ∀ o a, read o = .ok a → ∀ g ∈ sizes (.obj o), ∀ value o',
    (Json.obj o).put g.place value = .obj o' →
      g.withValue value ∈ sizes (.obj o') ∧
        Verdict.Decides g.place (g.withValue value).verdict (read o')

theorem exists_of_behind {place : Place} (h : Behind (IsMember names) place) :
    ∃ name ∈ names, ∃ rest, place = .name name :: rest := by
  obtain ⟨step, hstep, name, hname, rfl⟩ := h
  cases place with
  | nil => cases hstep
  | cons step rest => exact ⟨name, hname, rest, by rw [Option.some.inj hstep]⟩

theorem exists_put_place (o : Members) {place : Place} (value : Json)
    (hplace : Behind (IsMember names) place) : ∃ o', (Json.obj o).put place value = .obj o' := by
  obtain ⟨name, -, rest, rfl⟩ := exists_of_behind hplace
  exact ⟨_, rfl⟩

/-- What is put into one member leaves the others alone. -/
theorem lookup_put_place {o o' : Members} {place : Place} {value : Json}
    (h : (Json.obj o).put place value = .obj o') (hplace : Behind (IsMember names) place)
    {name : String} (hname : name ∉ names) : o'.lookup name = o.lookup name := by
  obtain ⟨other, hother, rest, rfl⟩ := exists_of_behind hplace
  obtain rfl := Json.obj.inj h
  have hne : name ≠ other := by
    rintro rfl
    exact hname hother
  rw [Entries.lookup_put, if_neg hne]

/-- Members with different names are read on their own. -/
theorem Reads.seq {f : Members → Checked (α → β)} {x : Members → Checked α}
    (hf : Reads names sizes f) (hx : Reads names' sizes' x)
    (hnames : ∀ name ∈ names, name ∉ names') :
    Reads (names ++ names') (fun j => sizes j ++ sizes' j) fun o => f o <*> x o where
  others x h := by rw [hf.others x h, hx.others x h, List.append_nil]
  judges o := by
    have hapart : Apart (IsMember names) (IsMember names') := by
      rintro step ⟨name, hname, rfl⟩ ⟨name', hname', heq⟩
      cases heq
      exact hnames name hname hname'
    refine ((hf.judges o).seq (hx.judges o) hapart).mono ?_
    rintro step (⟨name, hname, rfl⟩ | ⟨name, hname, rfl⟩)
    · exact ⟨name, List.mem_append_left _ hname, rfl⟩
    · exact ⟨name, List.mem_append_right _ hname, rfl⟩
  congr o o' h := by
    obtain ⟨hfread, hfsizes⟩ := hf.congr o o' fun name hname =>
      h name (List.mem_append_left _ hname)
    obtain ⟨hxread, hxsizes⟩ := hx.congr o o' fun name hname =>
      h name (List.mem_append_right _ hname)
    rw [hfread, hxread, hfsizes, hxsizes]
    exact ⟨rfl, rfl⟩
  put o b hb g hg value o' hput := by
    obtain ⟨k, hk, a, ha, rfl⟩ := Checked.seq_eq_ok.mp hb
    rcases List.mem_append.mp hg with hg | hg
    · obtain ⟨hmem, hdecides⟩ := hf.put o k hk g hg value o' hput
      have hsame := hx.congr o' o fun name hname =>
        lookup_put_place hput ((hf.judges o).sizes g hg) fun h => hnames name h hname
      rw [hsame.1, ha]
      exact ⟨List.mem_append_left _ hmem, hdecides.seq_ok a⟩
    · obtain ⟨hmem, hdecides⟩ := hx.put o a ha g hg value o' hput
      have hsame := hf.congr o' o fun name hname =>
        lookup_put_place hput ((hx.judges o).sizes g hg) fun h => hnames name hname h
      rw [hsame.1, hk]
      exact ⟨List.mem_append_right _ hmem, hdecides.map k⟩

theorem Reads.map {x : Members → Checked α} (hx : Reads names sizes x) (f : α → β) :
    Reads names sizes fun o => f <$> x o where
  others := hx.others
  judges o := (hx.judges o).map f
  congr o o' h := by
    obtain ⟨hread, hsizes⟩ := hx.congr o o' h
    exact ⟨congrArg _ hread, hsizes⟩
  put o b hb g hg value o' hput := by
    obtain ⟨a, ha, rfl⟩ := Checked.map_eq_ok.mp hb
    obtain ⟨hmem, hdecides⟩ := hx.put o a ha g hg value o' hput
    exact ⟨hmem, hdecides.map f⟩

/-- A member that has no size. -/
theorem Reads.plain {f : Members → Checked (α → β)} {x : Members → Checked α}
    (hf : Reads names sizes f) (hx : Reads names' (fun _ => []) x)
    (hnames : ∀ name ∈ names, name ∉ names') :
    Reads (names ++ names') sizes fun o => f o <*> x o := by
  have hseq := hf.seq hx hnames
  simp only [List.append_nil] at hseq
  exact hseq

variable {name : String}

theorem inMember_none {o : Members} (h : o.lookup name = none) :
    sizes.inMember name (.obj o) = [] := by
  simp [Sizes.inMember, Json.get?, h]

theorem inMember_some {o : Members} {value : Json} (h : o.lookup name = some value) :
    sizes.inMember name (.obj o) = (sizes value).map (·.under (.name name)) := by
  simp [Sizes.inMember, Json.get?, h]

theorem inMember_nil : (Sizes.inMember name fun _ => []) = fun _ => [] := by
  funext x
  unfold Sizes.inMember
  split <;> rfl

/-- A member is read by its schema if it is there. -/
theorem Reads.member {missing : Checked α} (h : Tracks s sizes)
    (hsome : ∀ o value, o.lookup name = some value → read o = (s.read value).within (.name name))
    (hnone : ∀ o, o.lookup name = none → read o = missing)
    (hmissing : Judges (IsMember [name]) [] missing) :
    Reads [name] (sizes.inMember name) read where
  others x hx := by
    cases x with
    | obj o => exact absurd rfl (hx o)
    | _ => rfl
  judges o := by
    cases ho : o.lookup name with
    | none =>
      rw [hnone o ho, inMember_none ho]
      exact hmissing
    | some value =>
      rw [hsome o value ho, inMember_some ho]
      refine (h.within (.name name) value).mono ?_
      rintro step rfl
      exact ⟨name, List.mem_singleton.mpr rfl, rfl⟩
  congr o o' hsame := by
    have hsame := hsame name (List.mem_singleton.mpr rfl)
    cases ho : o.lookup name with
    | none =>
      have ho' := hsame.symm.trans ho
      rw [hnone o ho, hnone o' ho', inMember_none ho, inMember_none ho']
      exact ⟨rfl, rfl⟩
    | some value =>
      have ho' := hsame.symm.trans ho
      rw [hsome o value ho, hsome o' value ho', inMember_some ho, inMember_some ho']
      exact ⟨rfl, rfl⟩
  put o a ha g hg value o' hput := by
    cases ho : o.lookup name with
    | none =>
      rw [inMember_none ho] at hg
      cases hg
    | some before =>
      rw [inMember_some ho] at hg
      obtain ⟨g, hmem, rfl⟩ := List.mem_map.mp hg
      rw [hsome o before ho] at ha
      obtain ⟨hmem', hdecides⟩ := h.put before a (Checked.within_eq_ok.mp ha) g hmem value
      have ho' : o'.lookup name = some (before.put g.place value) := by
        rw [← Json.obj.inj hput, Entries.lookup_put, if_pos rfl, ho, Option.getD_some]
      rw [hsome o' _ ho', inMember_some ho']
      exact ⟨List.mem_map.mpr ⟨_, hmem', rfl⟩, hdecides.within (.name name)⟩

theorem Reads.required (name : String) (h : Tracks s sizes) :
    Reads [name] (sizes.inMember name) fun o => o.required name s := by
  have hmissing := Judges.issue (α := α) (.name name) [] .missing
  refine Reads.member h (fun o value ho => ?_) (fun o ho => ?_) (hmissing.mono ?_)
  · rw [Members.required, ho]
  · rw [Members.required, ho]
  · rintro step rfl
    exact ⟨name, List.mem_singleton.mpr rfl, rfl⟩

theorem Reads.defaulted (name : String) (h : Tracks s sizes) (d : α) :
    Reads [name] (sizes.inMember name) fun o => o.defaulted name s d := by
  refine Reads.member h (fun o value ho => ?_) (fun o ho => ?_) (Judges.ok _ d)
  · rw [Members.defaulted, ho]
  · rw [Members.defaulted, ho]

/-- What is written of a member that was read has its sizes as they were given. -/
theorem keeps_member {o members : Members} {a : α} (h : Keeps s sizes)
    (hread : ∀ value, o.lookup name = some value → s.read value = .ok a)
    (hwritten : members.lookup name = some (s.write a)) :
    ∀ g ∈ sizes.inMember name (.obj o), (Json.obj members).part? g.place = some g.value := by
  intro g hg
  cases ho : o.lookup name with
  | none =>
    rw [inMember_none ho] at hg
    cases hg
  | some value =>
    rw [inMember_some ho] at hg
    obtain ⟨g, hmem, rfl⟩ := List.mem_map.mp hg
    show (members.lookup name).bind (Json.part? g.place) = some g.value
    rw [hwritten]
    exact h value a (hread value ho) g hmem

theorem keeps_required {o members : Members} {a : α} (h : Keeps s sizes)
    (hread : o.required name s = .ok a) (hwritten : members.lookup name = some (s.write a)) :
    ∀ g ∈ sizes.inMember name (.obj o), (Json.obj members).part? g.place = some g.value := by
  refine keeps_member h (fun value hvalue => ?_) hwritten
  obtain ⟨value', hvalue', ha⟩ := required_eq_ok.mp hread
  cases hvalue.symm.trans hvalue'
  exact ha

theorem keeps_defaulted {o members : Members} {a d : α} (h : Keeps s sizes)
    (hread : o.defaulted name s d = .ok a) (hwritten : members.lookup name = some (s.write a)) :
    ∀ g ∈ sizes.inMember name (.obj o), (Json.obj members).part? g.place = some g.value := by
  refine keeps_member h (fun value hvalue => ?_) hwritten
  rcases defaulted_eq_ok.mp hread with ⟨value', hvalue', ha⟩ | ⟨hnone, -⟩
  · cases hvalue.symm.trans hvalue'
    exact ha
  · cases hvalue.symm.trans hnone

/-- An object is read by its members. -/
theorem object_tracks (hread : s.read = object read) (h : Reads names sizes read) :
    Tracks s sizes := by
  have hother {x : Json} (hx : ∀ o, x ≠ .obj o) : s.read x = .issue .notObject := by
    rw [hread]
    cases x with
    | obj o => exact absurd rfl (hx o)
    | _ => rfl
  refine ⟨fun x => ?_, fun x htrap => ?_, fun x a ha => ?_⟩ <;> by_cases hx : ∃ o, x = .obj o
  · obtain ⟨o, rfl⟩ := hx
    rw [hread]
    exact (h.judges o).traps
  · have hx := not_exists.mp hx
    rw [hother hx, h.others x hx]
    rfl
  · obtain ⟨o, rfl⟩ := hx
    rw [hread] at htrap ⊢
    exact (h.judges o).causes htrap
  · rw [h.others x (not_exists.mp hx)]
    exact nofun
  · obtain ⟨o, rfl⟩ := hx
    intro g hg value
    obtain ⟨o', hput⟩ := exists_put_place o value ((h.judges o).sizes g hg)
    rw [hread] at ha
    rw [hput, hread]
    exact h.put o a ha g hg value o' hput
  · rw [h.others x (not_exists.mp hx)]
    exact nofun

theorem object_keeps (hread : s.read = object read) (h : ∀ o a, read o = .ok a →
    ∀ g ∈ sizes (.obj o), (s.write a).part? g.place = some g.value) : Keeps s sizes := by
  intro x a ha
  rw [hread] at ha
  obtain ⟨o, rfl, ha⟩ := object_eq_ok.mp ha
  exact h o a ha

end

end Schema
end StatefulRoles
