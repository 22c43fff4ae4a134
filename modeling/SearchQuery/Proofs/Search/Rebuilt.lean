import SearchQuery.Proofs.Search.Casters
import SearchQuery.Proofs.Search.Lasting

/-!
# Searches made from the attributes of others

The mapping of all attributes of a search is what a new search of the same class can be made from. The new
search stores each value once more, so it has the same attributes only where storing settles: what an
attribute has stored, it stores as it is. Casting does (`Column.tryCast_of_tryCast`), so where a class
converts by casting only, a search can be made from the attributes of every other one, and has just these
(`casting_settles`).

## Shape of the argument

Two things last through the life of a search: every attribute stores what it would store again
(`StoresSettled`), and every name that is declared has a value (`IsFull`). An attribute that a method of the
class hides keeps its value as it was given. Both searches see the class as it stands: a declaration that
comes between them may cast what was stored before.
-/

namespace SearchQuery

/-- A NaN with a label keeps it. -/
theorem Value.isSettled_labelled (v : Value) (n : Nat) : (v.labelled (n + 1)).IsSettled := by
  intro label
  cases v with
  | float x =>
    cases x with
    | nan l => cases l <;> rfl
    | _ => rfl
  | decimal d =>
    cases d with
    | nan negative signalling payload l => cases l <;> rfl
    | _ => rfl
  | _ => rfl

/-- What is stored by casting, or as it is given, is stored again as it is. -/
theorem CastsOnly.stored_labelled {conversion : Option Conversion} (h : CastsOnly conversion)
    {v w : Value} (hw : Search.stored conversion v = .ok w) (label : Nat) :
    Search.stored conversion (w.labelled label) = .ok (w.labelled label) := by
  obtain rfl | ⟨m, kind, rfl⟩ := h
  · rfl
  rw [Search.stored, Value.isIgnored_labelled]
  split
  next => rfl
  next hgiven =>
    have hcast : Column.tryCast m kind v = .ok w := by
      rw [Search.stored] at hw
      split at hw
      next hignored =>
        cases hw
        exact absurd hignored hgiven
      next => exact hw
    exact Column.tryCast_labelled (Column.tryCast_of_tryCast hcast) label

namespace Search

/-! ## What a search holds under a name -/

/-- The value that a search holds under a name: that of the attribute, or of what hides it. -/
def held? (c : ClassView) (s : Search) (name : String) : Option Value :=
  match c.member? name with
  | some (.attribute _) => s.values.lookup name
  | _ => s.extras.lookup name

variable {c : ClassView} {s t : Search} {name : String} {v w : Value}

/-- An attribute holds what is stored for it. -/
theorem held?_attribute {conversion : Option Conversion}
    (h : c.member? name = some (.attribute conversion)) (s : Search) :
    held? c s name = s.values.lookup name := by
  rw [held?, h]

/-- Anything else holds what is kept under its name. -/
theorem held?_hidden (h : ∀ conversion, c.member? name ≠ some (.attribute conversion)) (s : Search) :
    held? c s name = s.extras.lookup name := by
  unfold held?
  split
  next conversion hmember => exact absurd hmember (h conversion)
  next => rfl

/-- What is held is read. -/
theorem valueOf_of_held? (h : held? c s name = some v) : valueOf c name s = .ok v s := by
  have hcallee : callee? c s name = some (.value v) := by
    rcases hm : c.member? name with - | (conversion | ⟨_, _⟩ | _)
    all_goals
      simp only [held?, hm] at h
      simp only [callee?, hm, h, Option.map_some]
  rw [valueOf, estate_get_bind, hcallee]
  rfl

/-- **All attributes are read** where each has a value. -/
theorem allAttributes_eq {f : String → Value}
    (h : ∀ name ∈ c.schema.uniqueNames, held? c s name = some (f name)) :
    allAttributes c s = .ok (toDict (c.schema.uniqueNames.map fun name => (name, f name))) s := by
  have hread : ∀ names : List String, (∀ name ∈ names, held? c s name = some (f name)) →
      (names.mapM fun name => do return (name, ← valueOf c name) : Searching _) s =
        .ok (names.map fun name => (name, f name)) s := by
    intro names hnames
    induction names with
    | nil => rfl
    | cons name names ih =>
      rw [List.forall_mem_cons] at hnames
      rw [List.mapM_cons]
      refine estate_bind_eq_ok.mpr ⟨(name, f name), s, ?_, ?_⟩
      · exact estate_bind_eq_ok.mpr ⟨f name, s, valueOf_of_held? hnames.1, rfl⟩
      · exact estate_bind_eq_ok.mpr ⟨_, s, ih hnames.2, rfl⟩
  exact estate_bind_eq_ok.mpr ⟨_, s, hread _ h, rfl⟩

/-! ## What lasts -/

/-- What the search stores for an attribute, the attribute would store again as it is. -/
def StoresSettled (c : ClassView) (s : Search) : Prop :=
  ∀ name conversion w, c.member? name = some (.attribute conversion) → s.values.lookup name = some w →
    stored conversion w = .ok w ∧ w.IsSettled

/-- Every search attribute has a value. -/
def IsFull (c : ClassView) (s : Search) : Prop :=
  ∀ name ∈ c.schema.names, (held? c s name).isSome = true

/-- **What an assignment does.** It leaves the search as it is, stores the value in an attribute, or keeps
it beside the attributes. -/
theorem after_assign_cases (c : ClassView) (name : String) (v : Value) (s : Search) :
    after (assign c name v) s = s ∨
      (∃ conversion w, c.member? name = some (.attribute conversion) ∧ stored conversion v = .ok w ∧
        after (assign c name v) s = s.withValue name w) ∨
      (∀ conversion, c.member? name ≠ some (.attribute conversion)) ∧
        after (assign c name v) s = { s with extras := putEntry s.extras name v } := by
  by_cases hattribute : ∃ conversion, c.member? name = some (.attribute conversion)
  · obtain ⟨conversion, hmember⟩ := hattribute
    rw [assign_eq_store hmember, store]
    cases hw : stored conversion v with
    | error e => exact Or.inl rfl
    | ok w => exact Or.inr (Or.inl ⟨conversion, w, hmember, hw, rfl⟩)
  · rw [not_exists] at hattribute
    rw [after, assign_of_hidden hattribute]
    split
    next h =>
      split at h
      next => cases h
      next =>
        cases h
        exact Or.inr (Or.inr ⟨hattribute, rfl⟩)
    next h =>
      split at h
      next =>
        cases h
        exact Or.inl rfl
      next => cases h

/-- A value that is settled may be stored. -/
theorem StoresSettled.put (hs : StoresSettled c s) {v : Value}
    (hv : ∀ conversion, c.member? name = some (.attribute conversion) →
      stored conversion v = .ok v ∧ v.IsSettled) :
    StoresSettled c { s with values := putEntry s.values name v } := by
  intro other conversion w hmember hlookup
  by_cases hname : other = name
  · subst hname
    rw [lookup_putEntry] at hlookup
    cases hlookup
    exact hv conversion hmember
  · rw [lookup_putEntry_ne _ _ hname] at hlookup
    exact hs other conversion w hmember hlookup

/-- Where a class converts by casting only, what is stored is settled for good. -/
theorem lasts_storesSettled
    (hcasts : ∀ name conversion, c.member? name = some (.attribute conversion) → CastsOnly conversion) :
    Lasts c (StoresSettled c) where
  assign name v s hs := by
    obtain h | ⟨conversion, w, hmember, hw, h⟩ | ⟨-, h⟩ := after_assign_cases c name v s
    · rwa [h]
    · rw [h]
      refine StoresSettled.put (s := { s with labels := s.labels + 1 }) hs fun conversion' hmember' => ?_
      cases hmember.symm.trans hmember'
      exact ⟨(hcasts name _ hmember).stored_labelled hw _, w.isSettled_labelled s.labels⟩
    · rw [h]
      exact hs
  ignored s name hs := by
    refine hs.put fun conversion _ => ⟨?_, fun label => rfl⟩
    cases conversion <;> rfl
  journal s journal hs := hs
  labels s labels hs := hs

/-- What has a value still has one when a value is written. -/
theorem isSome_lookup_putEntry {entries : List (String × Value)}
    (h : (entries.lookup name).isSome = true) (key : String) (v : Value) :
    ((putEntry entries key v).lookup name).isSome = true := by
  by_cases hname : name = key
  · rw [hname, lookup_putEntry]
    rfl
  · rwa [lookup_putEntry_ne _ _ hname]

/-- A full search stays full with one value more. -/
theorem IsFull.values (hs : IsFull c s) (name : String) (v : Value) (labels : Nat) :
    IsFull c { s with values := putEntry s.values name v, labels } := by
  intro other hother
  have hheld := hs other hother
  unfold held? at hheld ⊢
  split at hheld
  next => exact isSome_lookup_putEntry hheld name v
  next => exact hheld

/-- So it does with one value more that is no attribute's. -/
theorem IsFull.extras (hs : IsFull c s) (name : String) (v : Value) :
    IsFull c { s with extras := putEntry s.extras name v } := by
  intro other hother
  have hheld := hs other hother
  unfold held? at hheld ⊢
  split at hheld
  next => exact hheld
  next => exact isSome_lookup_putEntry hheld name v

/-- An attribute that has a value is never without one again. -/
theorem lasts_isFull : Lasts c (IsFull c) where
  assign name v s hs := by
    obtain h | ⟨-, w, -, -, h⟩ | ⟨-, h⟩ := after_assign_cases c name v s
    · rwa [h]
    · rw [h]
      exact hs.values name _ _
    · rw [h]
      exact hs.extras name v
  ignored s name hs := hs.values name .ignored s.labels
  journal s journal hs := hs
  labels s labels hs := hs

/-! ## What is held after a new start -/

/-- What was given last is held as the attribute stores it, or as it was given. -/
theorem Holds.isSome_held? {raw : String → Option Value} (h : Holds c raw s) (hraw : raw name = some v) :
    (held? c s name).isSome = true := by
  by_cases hattribute : ∃ conversion, c.member? name = some (.attribute conversion)
  · obtain ⟨conversion, hmember⟩ := hattribute
    obtain ⟨-, w, label, -, hlookup⟩ := h.stored name v conversion hraw hmember
    rw [held?_attribute hmember, hlookup]
    rfl
  · rw [not_exists] at hattribute
    rw [held?_hidden hattribute, (h.hidden name v hraw hattribute).2.1]
    rfl

/-- What settles is held as it was given. -/
theorem Holds.held?_eq {raw : String → Option Value} (h : Holds c raw s) (hraw : raw name = some v)
    (hv : ∀ conversion, c.member? name = some (.attribute conversion) →
      Search.stored conversion v = .ok v ∧ v.IsSettled) : held? c s name = some v := by
  by_cases hattribute : ∃ conversion, c.member? name = some (.attribute conversion)
  · obtain ⟨conversion, hmember⟩ := hattribute
    obtain ⟨hstored, hsettled⟩ := hv conversion hmember
    obtain ⟨-, w, label, hw, hlookup⟩ := h.stored name v conversion hraw hmember
    cases hstored.symm.trans hw
    rw [held?_attribute hmember, hlookup, hsettled label]
  · rw [not_exists] at hattribute
    rw [held?_hidden hattribute, (h.hidden name v hraw hattribute).2.1]

/-- A search that was made has a value for every attribute. -/
theorem isFull_of_make {attributes : Value} {values : List (String × Value)} {s₀ : Search}
    (hvalues : s₀.values = []) (hextras : s₀.extras = []) (h : make c attributes values s₀ = .ok () s) :
    IsFull c s := by
  obtain ⟨-, supplied, -, -, hassign⟩ := make_eq_ok_iff.mp h
  intro name hname
  exact (holds_of_make hvalues hextras hassign).isSome_held? (if_pos hname)

/-- The mapping of all attributes gives each attribute its value. -/
theorem suppliedBy_toDict (values : List (String × Value)) :
    suppliedBy (toDict values) [] =
      .ok (values.foldl (fun named p => putEntry named p.1 p.2) []) := by
  have hentries : ∀ entries, entriesOf (.dict entries) = .ok entries := by
    intro entries
    cases entries <;> rfl
  have hnamed : ∀ (values : List (String × Value)) (named : List (String × Value)),
      (values.map fun p => (Value.text p.1, p.2)).foldlM
          (fun named e => e.1.written.map (putEntry named · e.2)) named =
        (.ok (values.foldl (fun named p => putEntry named p.1 p.2) named) : Except Failure _) := by
    intro values named
    induction values generalizing named with
    | nil => rfl
    | cons p values ih => exact ih (putEntry named p.1 p.2)
  rw [suppliedBy, toDict, hentries]
  exact congrArg (Except.map _) (hnamed values [])

/-- What is supplied by a mapping of names is a value for each of them, and no more. -/
theorem exists_supplied (names : List String) (f : String → Value) :
    ∃ supplied, suppliedBy (toDict (names.map fun name => (name, f name))) [] = .ok supplied ∧
      (∀ name ∈ names, supplied.lookup name = some (f name)) ∧
      ∀ name ∈ supplied.map (·.1), name ∈ names := by
  refine ⟨_, suppliedBy_toDict _, fun name hname => ?_, fun name hname => ?_⟩
  · rw [lookup_foldl_putEntry]
    exact (overwritten_map names f name).trans (if_pos hname)
  · obtain ⟨⟨key, v⟩, hentry, rfl⟩ := List.mem_map.mp hname
    by_contra hmem
    have hnone := (lookup_foldl_putEntry (names.map fun name => (name, f name)) [] key).trans
      ((overwritten_map names f key).trans (if_neg hmem))
    rw [List.lookup_eq_none_iff] at hnone
    exact absurd (hnone _ hentry) (by simp)

/-- A value that is settled can be given to its attribute again. -/
theorem exists_assign_of_settled (hname : name ≠ "attributes")
    (hv : ∀ conversion, c.member? name = some (.attribute conversion) → stored conversion v = .ok v)
    (t : Search) : ∃ t', assign c name v t = .ok () t' := by
  by_cases hattribute : ∃ conversion, c.member? name = some (.attribute conversion)
  · obtain ⟨conversion, hmember⟩ := hattribute
    exact (exists_assign_attribute_iff hmember v t).mpr ⟨v, hv conversion hmember⟩
  · rw [not_exists] at hattribute
    rw [assign_of_hidden hattribute, if_neg fun h => hname h.1]
    exact ⟨_, rfl⟩

/-- A search that is made from values that are settled holds just these. -/
theorem exists_make_holding {f : String → Value} (hmodel : c.schema.model.isSome = true)
    (hlisted : c.schema.IsListed) (hnames : "attributes" ∉ c.schema.names)
    (hf : ∀ name ∈ c.schema.uniqueNames, ∀ conversion, c.member? name = some (.attribute conversion) →
      stored conversion (f name) = .ok (f name) ∧ (f name).IsSettled)
    {s₀ : Search} (hvalues : s₀.values = []) (hextras : s₀.extras = []) :
    ∃ t, make c (toDict (c.schema.uniqueNames.map fun name => (name, f name))) [] s₀ = .ok () t ∧
      ∀ name ∈ c.schema.uniqueNames, held? c t name = some (f name) := by
  obtain ⟨supplied, hsupplied, hlookup, hkeys⟩ := exists_supplied c.schema.uniqueNames f
  have hinitial : ∀ name ∈ c.schema.uniqueNames, initial c supplied name = f name := by
    intro name hname
    rw [initial, hlookup name hname]
  have hassigns : ∀ e ∈ c.schema.uniqueNames.map fun name => (name, initial c supplied name),
      ∀ t, ∃ t', assign c e.1 e.2 t = .ok () t' := by
    intro e he t
    obtain ⟨name, hname, rfl⟩ := List.mem_map.mp he
    dsimp only
    rw [hinitial name hname]
    refine exists_assign_of_settled ?_ (fun conversion h => (hf name hname conversion h).1) t
    rintro rfl
    exact hnames (List.mem_eraseDups.mp hname)
  obtain ⟨t, ht⟩ := exists_assignAll hassigns s₀
  have hknown : ∀ name ∈ supplied.map (·.1), c.schema.declares name = true := fun name hname =>
    (hlisted name).mpr (List.mem_eraseDups.mp (hkeys name hname))
  refine ⟨t, make_eq_ok_iff.mpr ⟨hmodel, supplied, hsupplied, hknown, ht⟩, fun name hname => ?_⟩
  refine (holds_of_make hvalues hextras ht).held?_eq ?_ (hf name hname)
  rw [if_pos (List.mem_eraseDups.mp hname), hinitial name hname]

/-- **A search is made again from its attributes**, if all it stores is settled. -/
theorem exists_make_of_settled (hsettled : StoresSettled c s) (hfull : IsFull c s)
    (hmodel : c.schema.model.isSome = true) (hlisted : c.schema.IsListed)
    (hnames : "attributes" ∉ c.schema.names) :
    ∃ d, allAttributes c s = .ok d s ∧
      ∀ s₀ : Search, s₀.values = [] → s₀.extras = [] →
        ∃ t, make c d [] s₀ = .ok () t ∧ allAttributes c t = .ok d t := by
  let f : String → Value := fun name => (held? c s name).getD .null
  have hheld : ∀ name ∈ c.schema.uniqueNames, held? c s name = some (f name) := by
    intro name hname
    obtain ⟨v, hv⟩ := Option.isSome_iff_exists.mp (hfull name (List.mem_eraseDups.mp hname))
    simp only [f, hv, Option.getD_some]
  refine ⟨_, allAttributes_eq hheld, fun s₀ hvalues hextras => ?_⟩
  obtain ⟨t, ht, hagain⟩ := exists_make_holding hmodel hlisted hnames (f := f)
    (fun name hname conversion hmember => hsettled name conversion (f name) hmember
      (by rw [← held?_attribute hmember, hheld name hname])) hvalues hextras
  exact ⟨t, ht, allAttributes_eq hagain⟩

/-- A search that was made is bound to a model. -/
theorem Used.model (h : Used c s) : c.schema.model.isSome = true := by
  induction h with
  | made _ _ hmake => exact (make_eq_ok_iff.mp hmake).1
  | operated _ _ ih => exact ih
  | beside _ _ _ ih => exact ih

end Search

/-! ## Casting settles -/

/-- **Casting settles in one step.** The caster of a kind fails where its conversion runs out of the
machine, and only there. Else it makes `null`, a value of the kind, or the value itself, and leaves what it
has made. So where no declaration of a class or of its ancestors gives a conversion, all attributes of a
search can be read, however the search was made and used, and a new search that is made from them has the
same attributes, those that are ignored included. -/
theorem casting_settles (m : Machine) (kind : ColumnKind) (v : Value) {ops : List ClassOperation}
    {r : Registry} {id : Nat} :
    ((∀ e, Column.tryCast m kind v = .error e ↔
          Column.IsConverted kind v ∧ Column.Exhausts m kind v e) ∧
        ∀ w, Column.tryCast m kind v = .ok w →
          w = Column.cast kind v ∧ (w = .null ∨ kind.holds w = true ∨ w = v) ∧
            Column.tryCast m kind w = .ok w) ∧
      (Registry.Runs {} ops r → r.Unconverted id ops → ∀ {s : Search}, Search.Used (r.view id) s →
        ∃ d, Search.allAttributes (r.view id) s = .ok d s ∧
          ∀ s₀ : Search, s₀.values = [] → s₀.extras = [] →
            ∃ t, Search.make (r.view id) d [] s₀ = .ok () t ∧
              Search.allAttributes (r.view id) t = .ok d t) := by
  refine ⟨⟨fun e => Column.tryCast_eq_error_iff, fun w hw => ?_⟩, ?_⟩
  · refine ⟨Column.tryCast_eq_ok hw, ?_, Column.tryCast_of_tryCast hw⟩
    rw [Column.tryCast_eq_ok hw]
    exact Column.cast_cases kind v
  · intro hrun hops s hs
    -- That stored values are settled lasts, and so does that every attribute has one.
    have hlasts : Search.Lasts (r.view id) (Search.StoresSettled (r.view id)) :=
      Search.lasts_storesSettled fun name conversion hmember => hrun.casts hops hmember
    refine Search.exists_make_of_settled ?_ ?_ hs.model (hrun.isListed id)
      fun h => hrun.not_reserved id _ h (by decide)
    · refine hlasts.used (fun attributes values s₀ s hvalues _ hmake => ?_) hs
      -- Nothing is stored before the search is made.
      have hfresh : Search.StoresSettled (r.view id) s₀ := by
        intro name conversion w _ hlookup
        rw [hvalues] at hlookup
        cases hlookup
      have hmade := hlasts.make attributes values s₀ hfresh
      rwa [after, hmake] at hmade
    · exact Search.lasts_isFull.used (fun _ _ _ _ => Search.isFull_of_make) hs

/-- An integer that has more digits than there is memory for, and a list that is nested too deep to be
written, do not pass through: the caster fails. -/
theorem cast_runs_out :
    Column.tryCast {} .int (.decimal (.finite false 1 999999999999999999)) = .error .outOfMemory ∧
      Column.tryCast {} .text (Value.nested 900) = .error .endlessRecursion :=
  ⟨rfl, Column.tryCast_nested (by decide)⟩

/-- A class on the table of three kinds of columns, which casts what is stored for them. -/
def castingItems : List ClassOperation :=
  [.subclass {} "Items" Registry.root [] (some (.table shelf)) [("type_cast", .value (.bool true))]]

/-- The text of what a computation answers. -/
def answerText (act : Searching Value) (s : Search) : Option String :=
  (answer act s).toOption.map Value.literal

/-- Texts of a form are cast once, to a number, to `null` and to a NaN; one that is no number passes
through, and what was not given is ignored. A new search has them from the old one. -/
theorem casting_settles_items :
    let c := (Registry.afterAll castingItems {}).view 1
    let given : List (String × Value) :=
      [("id", .text " 12 "), ("min_id", .text " "), ("max_id", .text "abc"), ("name", .int 42),
        ("price", .text "nan")]
    ∃ s d t, Search.make c (.dict []) given {} = .ok () s ∧ Search.allAttributes c s = .ok d s ∧
      d.literal = "\x7b'id': 12, 'min_id': None, 'max_id': 'abc', 'name': '42', " ++
        "'min_name': <ignored>, 'max_name': <ignored>, 'price': Decimal('NaN'), " ++
        "'min_price': <ignored>, 'max_price': <ignored>\x7d" ∧
      Search.make c d [] {} = .ok () t ∧ Search.allAttributes c t = .ok d t := by
  intro c given
  let s := after (Search.make c (.dict []) given) {}
  have hmake : Search.make c (.dict []) given {} = .ok () s := eq_ok_of_succeeds (by decide +kernel)
  have hruns : Registry.Runs {} ([] ++ castingItems) (Registry.afterAll castingItems {}) :=
    .snoc .nil (by decide)
  have hunconverted : (Registry.afterAll castingItems {}).Unconverted 1 castingItems := by
    intro front op back hsplit _
    have hop : op ∈ castingItems := by rw [hsplit]; simp
    rw [List.mem_singleton.mp hop]
    rintro m ⟨⟩
    trivial
  obtain ⟨d, hd, hrebuilt⟩ :=
    (casting_settles {} .int (.text " 12 ")).2 hruns hunconverted (.made rfl rfl hmake)
  obtain ⟨t, ht, hdt⟩ := hrebuilt {} rfl rfl
  refine ⟨s, d, t, hmake, hd, ?_, ht, hdt⟩
  have htext : answerText (Search.allAttributes c) s = some d.literal := by
    rw [answerText, answer, hd]
    rfl
  exact Option.some.inj (htext.symm.trans (by decide +kernel))

end SearchQuery
