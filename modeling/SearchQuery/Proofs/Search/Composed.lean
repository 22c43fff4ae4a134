import SearchQuery.Proofs.Search.Contributed
import SearchQuery.Proofs.Search.History

/-!
# Composition follows the declarations

What a search composes is told by the history of its class. Names count in the order in which they were
declared first, a default and a conversion are those of the last declaration, and a block is that of the
last declaration that gave one. `Search.composed` asks the blocks in that order, each for itself;
`composition_follows_history` says that a search does just that.

## What may come in between

The parts of a composition are found by name, so whatever takes one of the names takes its place. A method
of a class body can hide an attribute that an ancestor has declared, or an operation by which options are
composed, and a value that is assigned to the search can hide what an attribute contributes
(`composition_hidden`). `PlainChain` says that no class body does, and `Hook.Spares` that no block does.
-/

namespace SearchQuery

/-! ## Code that spares names -/

/-- The code assigns to no name of these, whatever it is answered. -/
def Hook.Spares (P : String → Prop) : Hook → Prop
  | done _ => True
  | fail _ => True
  | read _ next => ∀ v, (next v).Spares P
  | write name _ next => ¬ P name ∧ next.Spares P
  | ignore _ next => next.Spares P
  | note _ next => next.Spares P
  | ignoreAll next => next.Spares P
  | label next => ∀ n, (next n).Spares P

/-- What holds of a search whatever values its attributes have, and whatever is assigned to it under
names other than these. -/
structure Search.IsKept (P : String → Prop) (I : Search → Prop) : Prop where
  values : ∀ s name v, I s → I { s with values := putEntry s.values name v }
  extras : ∀ s name v, ¬ P name → I s → I { s with extras := putEntry s.extras name v }
  journal : ∀ s journal, I s → I { s with journal }
  labels : ∀ s labels, I s → I { s with labels }

namespace Search

variable {c : ClassView} {s : Search} {P : String → Prop} {I : Search → Prop}

/-! ### Operations that change nothing -/

theorem after_ownOnly (c : ClassView) (operation : String) (s : Search) :
    after (ownOnly c operation) s = s := by
  rw [after, ownOnly, estate_get_bind]
  cases (callee? c s operation).isSome <;> rfl

theorem after_checkNames (c : ClassView) (names : List String) (s : Search) :
    after (checkNames c names) s = s := by
  rw [after, checkNames]
  cases (names.filter (!c.schema.declares ·)).isEmpty <;> rfl

/-- Names pass the check if all of them are declared. -/
theorem checkNames_eq_ok {names : List String} {s s' : Search}
    (h : checkNames c names s = .ok () s') :
    (∀ name ∈ names, c.schema.declares name = true) ∧ s' = s := by
  have hstate := after_checkNames c names s
  rw [after, h] at hstate
  refine ⟨fun name hname => ?_, hstate⟩
  rw [checkNames] at h
  split at h
  next hknown =>
    rw [List.isEmpty_iff, List.filter_eq_nil_iff] at hknown
    simpa using hknown name hname
  next => cases h

theorem checkNames_of_declares {names : List String}
    (h : ∀ name ∈ names, c.schema.declares name = true) (s : Search) :
    checkNames c names s = .ok () s := by
  have hknown : names.filter (!c.schema.declares ·) = [] := by
    rw [List.filter_eq_nil_iff]
    intro name hname
    simp [h name hname]
  rw [checkNames, hknown]
  rfl

/-- To look for a value changes nothing. -/
theorem after_valueOf (c : ClassView) (name : String) (s : Search) : after (valueOf c name) s = s := by
  rw [after, valueOf, estate_get_bind]
  rcases callee? c s name with - | (v | m)
  · dsimp only
    split
    next h =>
      split at h
      next => cases h; rfl
      next => cases h
    next h =>
      split at h
      next => cases h
      next => cases h; rfl
  · rfl
  · rfl

theorem after_mapM {α β : Type} {f : α → Searching β} (h : ∀ a s, after (f a) s = s) (as : List α)
    (s : Search) : after (as.mapM f) s = s := by
  induction as with
  | nil => rfl
  | cons a as ih =>
    rw [List.mapM_cons]
    refine after_bind_keeps (I := (· = s)) (h a s) fun b s₁ _ hs₁ => ?_
    subst hs₁
    exact after_bind_keeps (I := (· = s₁)) ih fun _ _ _ hs₂ => hs₂

/-- Reading changes nothing in the search. -/
theorem after_read (c : ClassView) (name : String) (s : Search) : after (read c name) s = s := by
  rw [read]
  split
  next =>
    refine after_bind_keeps (I := (· = s)) (after_mapM (fun name s => ?_) _ s) fun _ _ _ hs₁ => hs₁
    exact after_bind_keeps (I := (· = s)) (after_valueOf c name s) fun _ _ _ hs₁ => hs₁
  next => exact after_valueOf c name s

/-! ### Code -/

/-- An assignment to a name that may be assigned to keeps what writes keep. -/
theorem IsKept.assign (h : IsKept P I) {name : String} (hname : ¬ P name) (v : Value) (hs : I s) :
    I (after (assign c name v) s) := by
  rw [Search.assign]
  split
  next conversion _ =>
    cases stored conversion v with
    | error e => exact hs
    | ok w => exact h.values _ name _ (h.labels s _ hs)
  next =>
    split
    next => exact hs
    next => exact h.extras s name v hname hs

/-- So does the mark of an attribute. -/
theorem IsKept.ignore (h : IsKept P I) (name : String) (hs : I s) :
    I (after (ignore c name) s) := by
  refine after_bind_keeps (by rwa [after_ownOnly]) fun _ s₁ _ hs₁ => ?_
  refine after_bind_keeps (by rwa [after_checkNames]) fun _ s₂ _ hs₂ => ?_
  exact h.values s₂ name .ignored hs₂

/-- So do the marks of several attributes. -/
theorem IsKept.ignoreEach (h : IsKept P I) (names : List String) (hs : I s) :
    I (after (ignoreEach c names) s) := by
  induction names generalizing s with
  | nil => exact hs
  | cons name names ih => exact after_bind_keeps (h.ignore name hs) fun _ _ _ hs₁ => ih hs₁

/-- So do the marks of all of them. -/
theorem IsKept.ignoreAll (h : IsKept P I) (hs : I s) : I (after (ignoreAll c) s) :=
  after_bind_keeps (by rwa [after_ownOnly]) fun _ _ _ hs₁ => h.ignoreEach _ hs₁

/-- Code that spares the names keeps what is kept. -/
theorem IsKept.run (h : IsKept P I) {hook : Hook} (hspares : hook.Spares P) (hs : I s) :
    I (after (hook.run c) s) := by
  induction hook generalizing s with
  | done v => exact hs
  | fail e => exact hs
  | read name next ih =>
    refine after_bind_keeps ?_ fun v s₁ _ hs₁ => ih v (hspares v) hs₁
    rwa [after_read]
  | write name v next ih =>
    exact after_bind_keeps (h.assign hspares.1 v hs) fun _ _ _ hs₁ => ih hspares.2 hs₁
  | ignore name next ih =>
    exact after_bind_keeps (h.ignore name hs) fun _ _ _ hs₁ => ih hspares hs₁
  | note line next ih =>
    exact after_bind_keeps (h.journal s _ hs) fun _ _ _ hs₁ => ih hspares hs₁
  | ignoreAll next ih =>
    exact after_bind_keeps (h.ignoreAll hs) fun _ _ _ hs₁ => ih hspares hs₁
  | label next ih =>
    exact after_bind_keeps (h.labels s _ hs) fun n _ _ hs₁ => ih n (hspares n) hs₁

end Search

/-! ## What a search composes by -/

/-- The operations by which options are composed. -/
def composingOperations : List String :=
  ["find_options", "find_options_list", "find_options_for", "ignored", "before_find_options"]

/-- A name by which options are composed: that of an operation or of a contribution. -/
def IsComposing (key : String) : Prop :=
  key ∈ composingOperations ∨ ∃ name, key = contributionName name

/-- What a class must have for its searches to compose options from these blocks. -/
structure ClassView.ComposesBy (c : ClassView) (block : String → Option Hook) : Prop where
  operations : ∀ key ∈ composingOperations, c.member? key = none
  contributions : ∀ name, c.member? (contributionName name) = (block name).map (.contribution name)
  blocks : ∀ name b, block name = some b → b.Spares IsComposing
  declares : ∀ name ∈ c.schema.names, c.schema.declares name = true
  callbacks : c.schema.callbacks = []

namespace Search

/-- Every search attribute has a value, and nothing that was assigned to the search has one of the names
by which options are composed. -/
structure Composable (c : ClassView) (s : Search) : Prop where
  values : ∀ name ∈ c.schema.names, (s.values.lookup name).isSome = true
  extras : ∀ key, IsComposing key → s.extras.lookup key = none

/-- The option-maps of the attributes that are not ignored, each from its own block and each checked by
the bridge as it comes. -/
def composed (c : ClassView) (bridge : Bridge) (block : String → Option Hook) :
    List String → Searching (List Value)
  | [] => return []
  | name :: names => do
    if ((← get).values.lookup name).any (·.isIgnored) then composed c bridge block names
    else
      match block name with
      | none => throw (.undefinedFindOptions name)
      | some b =>
        let options ← b.run c
        lift (bridge.validate options)
        return options :: (← composed c bridge block names)

variable {c : ClassView} {bridge : Bridge} {block : String → Option Hook} {s : Search}

/-- To be composable is kept by all writes that do not take the place of an operation. -/
theorem isKept_composable (c : ClassView) : IsKept IsComposing (Composable c) where
  values s name v h := by
    refine ⟨fun n hn => ?_, h.extras⟩
    by_cases hname : n = name
    · rw [hname, lookup_putEntry]
      rfl
    · rw [lookup_putEntry_ne _ _ hname]
      exact h.values n hn
  extras s name v hname h := by
    refine ⟨h.values, fun key hkey => ?_⟩
    rw [lookup_putEntry_ne _ _ (by rintro rfl; exact hname hkey)]
    exact h.extras key hkey
  journal s journal h := ⟨h.values, h.extras⟩
  labels s labels h := ⟨h.values, h.extras⟩

namespace Composable

variable (hc : c.ComposesBy block) (hs : s.Composable c)

include hc hs

/-- Nothing takes the place of an operation. -/
theorem callee?_eq_none {key : String} (hkey : key ∈ composingOperations) : callee? c s key = none := by
  unfold callee?
  rw [hc.operations key hkey, hs.extras key (Or.inl hkey)]
  rfl

theorem ownOnly_eq {key : String} (hkey : key ∈ composingOperations) :
    ownOnly c key s = .ok () s :=
  ownOnly_eq_ok_iff.mpr ⟨hs.callee?_eq_none hc hkey, rfl⟩

/-- An attribute is ignored if the mark is stored for it. -/
theorem ignored_eq {name : String} (hname : name ∈ c.schema.names) :
    ignored c name s = .ok ((s.values.lookup name).any (·.isIgnored)) s := by
  obtain ⟨v, hv⟩ := Option.isSome_iff_exists.mp (hs.values name hname)
  refine ignored_eq_ok_iff.mpr ⟨hs.callee?_eq_none hc (by decide), hc.declares name hname, ⟨v, hv, ?_⟩, rfl⟩
  rw [hv]
  rfl

/-- An attribute that is not ignored answers with its block, if it has one. -/
theorem findOptionsFor_eq {name : String} (hname : name ∈ c.schema.names)
    (hgiven : (s.values.lookup name).any (·.isIgnored) = false) :
    findOptionsFor c name s =
      match block name with
      | none => .error (.undefinedFindOptions name) s
      | some b => b.run c s := by
  have hcallee : callee? c s (contributionName name) =
      ((block name).map (.contribution name)).map .member := by
    unfold callee?
    rw [hc.contributions name, hs.extras _ (Or.inr ⟨name, rfl⟩)]
    cases block name <;> rfl
  rw [findOptionsFor, estate_bind_eq, hs.ownOnly_eq hc (by decide)]
  dsimp only
  rw [estate_bind_eq, checkNames_eq_ok_iff.mpr ⟨hc.declares name hname, rfl⟩]
  dsimp only
  rw [estate_get_bind, hcallee]
  cases block name with
  | none => rfl
  | some b =>
    change (ignored c name >>= fun isIgnored => if isIgnored then return .dict [] else b.run c) s = _
    rw [estate_bind_eq, hs.ignored_eq hc hname, hgiven]
    rfl

/-- **What is collected.** The attributes are asked in order, each for what its block answers. -/
theorem contributions_eq {names : List String} (hnames : ∀ name ∈ names, name ∈ c.schema.names) :
    contributions c bridge.validate names s = composed c bridge block names s := by
  induction names generalizing s with
  | nil => rfl
  | cons name names ih =>
    rw [List.forall_mem_cons] at hnames
    rw [contributions, composed, estate_get_bind, estate_bind_eq, hs.ignored_eq hc hnames.1]
    dsimp only
    cases hignored : (s.values.lookup name).any (·.isIgnored) with
    | true => exact ih hs hnames.2
    | false =>
      simp only [Bool.false_eq_true, if_false]
      rw [estate_bind_eq, hs.findOptionsFor_eq hc hnames.1 hignored]
      cases hblock : block name with
      | none => rfl
      | some b =>
        dsimp only
        rw [estate_bind_eq]
        -- The block may write to the search, so the attributes behind it are asked in another one.
        have hkept : (after (b.run c) s).Composable c :=
          (isKept_composable c).run (hc.blocks name b hblock) hs
        rw [after] at hkept
        cases hrun : b.run c s with
        | error e s₁ => rfl
        | ok options s₁ =>
          rw [hrun] at hkept
          dsimp only
          cases hvalid : bridge.validate options with
          | error e => rfl
          | ok _ =>
            change ((contributions c bridge.validate names) >>= fun maps => return options :: maps) s₁ =
              ((composed c bridge block names) >>= fun maps => return options :: maps) s₁
            rw [estate_bind_eq, estate_bind_eq, ih hkept hnames.2]

theorem orHiding_eq {key : String} (hkey : key ∈ composingOperations) (own : Searching Value) :
    orHiding c key own s = own s := by
  rw [orHiding, estate_get_bind, hs.callee?_eq_none hc hkey]

/-- Without callbacks and a hook, nothing happens before options are composed. -/
theorem runBeforeFindOptions_eq : runBeforeFindOptions c s = .ok () s := by
  rw [runBeforeFindOptions, runChain, estate_bind_eq, hc.callbacks]
  change ((orHiding c "before_find_options" (return .null)) >>= fun _ => pure ()) s = _
  rw [estate_bind_eq, hs.orHiding_eq hc (by decide)]
  rfl

/-- What is collected is what the blocks give. -/
theorem ownFindOptionsList_eq (hbridge : c.schema.bridge = some bridge) :
    ownFindOptionsList c s = composed c bridge block c.schema.uniqueNames s := by
  have hvalidate : (fun v => (Search.bridge c).bind fun b => b.validate v) = bridge.validate := by
    rw [Search.bridge, hbridge]
    rfl
  have hnames : ∀ name ∈ c.schema.uniqueNames, name ∈ c.schema.names := fun name hname =>
    List.mem_eraseDups.mp hname
  rw [ownFindOptionsList_def, estate_bind_eq, hs.runBeforeFindOptions_eq hc]
  dsimp only
  rw [hvalidate, hs.contributions_eq hc hnames]

theorem findOptionsList_eq (hbridge : c.schema.bridge = some bridge) :
    findOptionsList c s =
      (do return .list (← composed c bridge block c.schema.uniqueNames) : Searching Value) s := by
  rw [findOptionsList_def, hs.orHiding_eq hc (by decide), estate_bind_eq, estate_bind_eq,
    hs.ownFindOptionsList_eq hc hbridge]

/-- The options are what the blocks give, merged. -/
theorem findOptions_eq (hbridge : c.schema.bridge = some bridge) :
    findOptions c s =
      (do lift (bridge.merge (← composed c bridge block c.schema.uniqueNames)) : Searching Value) s := by
  rw [findOptions_def, hs.orHiding_eq hc (by decide), ownFindOptions_def, estate_bind_eq, estate_bind_eq,
    optionMaps_eq (hs.callee?_eq_none hc (by decide)), hs.ownFindOptionsList_eq hc hbridge,
    Search.bridge, hbridge]
  rfl

end Composable

/-! ## Searches as they are made -/

/-- What is assigned to a search attribute is stored as its conversion makes it. -/
def store (conversion : Option Conversion) (name : String) (v : Value) : Searching Unit := do
  let v ← lift (stored conversion v)
  let v := v.labelled (← freshLabel)
  modify fun s => { s with values := putEntry s.values name v }

theorem assign_eq_store {conversion : Option Conversion} {name : String}
    (h : c.member? name = some (.attribute conversion)) (v : Value) :
    assign c name v = store conversion name v := by
  rw [assign, h]
  rfl

/-- The search with a value for an attribute. The value takes a label of its own. -/
def withValue (s : Search) (name : String) (w : Value) : Search :=
  { s with values := putEntry s.values name (w.labelled (s.labels + 1)), labels := s.labels + 1 }

/-- An attribute takes what it can store. -/
theorem assign_attribute_eq_ok_iff {conversion : Option Conversion} {name : String}
    (h : c.member? name = some (.attribute conversion)) {v : Value} {s t : Search} :
    assign c name v s = .ok () t ↔ ∃ w, stored conversion v = .ok w ∧ t = s.withValue name w := by
  rw [assign_eq_store h]
  constructor
  · intro hstore
    obtain ⟨w, s₁, hlift, hmodify⟩ := estate_bind_eq_ok.mp hstore
    obtain ⟨hw, rfl⟩ := Bridge.lift_eq_ok hlift
    cases hmodify
    exact ⟨w, hw, rfl⟩
  · rintro ⟨w, hw, rfl⟩
    rw [store, hw]
    rfl

/-- An attribute takes just what it can store. -/
theorem exists_assign_attribute_iff {conversion : Option Conversion} {name : String}
    (h : c.member? name = some (.attribute conversion)) (v : Value) (s : Search) :
    (∃ t, assign c name v s = .ok () t) ↔ ∃ w, stored conversion v = .ok w := by
  simp only [assign_attribute_eq_ok_iff h]
  exact ⟨fun ⟨_, w, hw, _⟩ => ⟨w, hw⟩, fun ⟨w, hw⟩ => ⟨_, w, hw, rfl⟩⟩

/-- A search that is made has a value for each attribute that it is given one for. -/
theorem assignAll_eq_ok {entries : List (String × Value)}
    (hentries : ∀ e ∈ entries, ∃ conversion, c.member? e.1 = some (.attribute conversion)) {s s' : Search}
    (h : assignAll c entries s = .ok () s') :
    s'.extras = s.extras ∧ (∀ name, (s.values.lookup name).isSome = true →
      (s'.values.lookup name).isSome = true) ∧
      ∀ e ∈ entries, (s'.values.lookup e.1).isSome = true := by
  induction entries generalizing s with
  | nil =>
    cases h
    exact ⟨rfl, fun _ h => h, by simp⟩
  | cons e entries ih =>
    rw [List.forall_mem_cons] at hentries
    obtain ⟨conversion, hconversion⟩ := hentries.1
    obtain ⟨_, s₁, hassign, hrest⟩ := estate_bind_eq_ok.mp h
    obtain ⟨w, -, rfl⟩ := (assign_attribute_eq_ok_iff hconversion).mp hassign
    obtain ⟨hextras, hkept, hnew⟩ := ih hentries.2 hrest
    refine ⟨hextras, fun name hname => hkept name ?_, ?_⟩
    · by_cases hne : name = e.1
      · rw [withValue, hne, lookup_putEntry]
        rfl
      · rw [withValue, lookup_putEntry_ne _ _ hne]
        exact hname
    · rw [List.forall_mem_cons]
      refine ⟨hkept e.1 ?_, hnew⟩
      rw [withValue, lookup_putEntry]
      rfl

/-- The values by name that a search is made from: the entries of a value, and values by name over them. -/
def suppliedBy (attributes : Value) (values : List (String × Value)) :
    Except Failure (List (String × Value)) :=
  (entriesOf attributes >>= byName).map fun given =>
    values.foldl (fun named p => putEntry named p.1 p.2) given

/-- A search is made of a bound class, from values for its attributes. -/
theorem make_eq_ok_iff {attributes : Value} {values : List (String × Value)} {s s' : Search} :
    make c attributes values s = .ok () s' ↔
      c.schema.model.isSome = true ∧ ∃ supplied, suppliedBy attributes values = .ok supplied ∧
        (∀ name ∈ supplied.map (·.1), c.schema.declares name = true) ∧
        assignAll c (c.schema.uniqueNames.map fun name => (name, initial c supplied name)) s = .ok () s' := by
  rw [make]
  cases hmodel : c.schema.model with
  | none =>
    refine iff_of_false (fun h => ?_) fun h => ?_
    · cases h
    · cases h.1
  | some m =>
    rw [suppliedBy]
    cases hgiven : entriesOf attributes >>= byName with
    | error e =>
      refine iff_of_false (fun h => ?_) fun h => ?_
      · cases h
      · obtain ⟨-, supplied, hsupplied, -⟩ := h
        cases hsupplied
    | ok given =>
      -- The checks come before the assignments, and leave the search as it is.
      constructor
      · intro h
        obtain ⟨_, s₁, hlift, hchecked⟩ := estate_bind_eq_ok.mp h
        obtain ⟨hsame, rfl⟩ := Bridge.lift_eq_ok hlift
        cases hsame
        obtain ⟨_, s₂, hcheck, hassign⟩ := estate_bind_eq_ok.mp hchecked
        obtain ⟨hknown, rfl⟩ := checkNames_eq_ok hcheck
        exact ⟨rfl, _, rfl, hknown, hassign⟩
      · rintro ⟨-, supplied, hsupplied, hknown, hassign⟩
        cases hsupplied
        refine estate_bind_eq_ok.mpr ⟨given, s, rfl, ?_⟩
        exact estate_bind_eq_ok.mpr ⟨(), s, checkNames_of_declares hknown s, hassign⟩

/-- A search that is made of a bound class is composable. -/
theorem make_eq_ok (hattributes : ∀ name ∈ c.schema.names, ∃ conversion,
      c.member? name = some (.attribute conversion))
    {attributes : Value} {values : List (String × Value)} {s₀ : Search} (hs₀ : s₀.extras = [])
    (h : make c attributes values s₀ = .ok () s) : c.schema.model.isSome = true ∧ s.Composable c := by
  obtain ⟨hmodel, supplied, -, -, hassign⟩ := make_eq_ok_iff.mp h
  obtain ⟨hextras, -, hnew⟩ := assignAll_eq_ok (fun e he => by
    obtain ⟨name, hname, rfl⟩ := List.mem_map.mp he
    exact hattributes name (List.mem_eraseDups.mp hname)) hassign
  refine ⟨hmodel, fun name hname => ?_, fun key _ => ?_⟩
  · exact hnew _ (List.mem_map.mpr ⟨name, List.mem_eraseDups.mpr hname, rfl⟩)
  · rw [hextras, hs₀]
    rfl

end Search

/-! ## Classes with a history -/

/-- No class body defines a method that takes part in composing options or hides an attribute that was
declared before it; no attribute is named like a contribution; no block assigns to one of these names. -/
structure PlainChain (es : List ChainEvent) : Prop where
  bodies : ∀ methods, .body methods ∈ es → ∀ m ∈ methods, ¬ IsComposing m.1
  names : ∀ b ∈ declarations es, ∀ other, b.name ≠ contributionName other
  shown : ∀ b ∈ declarations es, ∀ hook, lastMember es b.name ≠ some (.method hook)
  blocks : ∀ b ∈ declarations es, ∀ block ∈ b.block, block.Spares IsComposing

/-- The operations that compose options are among what every search has. -/
theorem isReserved_of_composing {key : String} (h : key ∈ composingOperations) : key ∈ reservedNames := by
  revert h key
  decide

namespace PlainChain

variable {es : List ChainEvent}

/-- No event gives a member under the name of an operation that composes. -/
theorem lastMember_operation (h : PlainChain es) (hstrict : ∀ b ∈ declarations es, b.IsStrict)
    {key : String} (hkey : key ∈ composingOperations) : lastMember es key = none := by
  rw [lastMember, List.findSome?_eq_none_iff]
  intro e he
  rw [List.mem_reverse] at he
  cases e with
  | body methods =>
    rw [ChainEvent.member?, Option.map_eq_none_iff, List.lookup_eq_none_iff]
    intro m hm
    rw [bne_iff_ne]
    rintro rfl
    exact h.bodies methods he m hm (Or.inl hkey)
  | declared b =>
    have hreserved := isReserved_of_composing hkey
    rw [ChainEvent.member?, if_neg, if_neg]
    · rintro rfl
      exact contributionName_not_reserved _ hreserved
    · rintro rfl
      exact (hstrict b (mem_declarations.mpr he)).not_reserved hreserved

/-- An attribute is found with the conversion of its last declaration. -/
theorem lastMember_attribute (h : PlainChain es) {b : Builder} (hb : b ∈ declarations es) :
    ∃ b', lastDeclaration es b.name = some b' ∧
      lastMember es b.name = some (.attribute b'.conversion) := by
  cases hm : lastMember es b.name with
  | none =>
    rw [lastMember, List.findSome?_eq_none_iff] at hm
    have hgiven := hm (.declared b) (List.mem_reverse.mpr (mem_declarations.mp hb))
    rw [ChainEvent.member?, if_pos rfl] at hgiven
    cases hgiven
  | some m =>
    rcases m with conversion | ⟨name, block⟩ | hook
    · obtain ⟨b', hlast, rfl⟩ := conversion_of_lastMember hm
      exact ⟨b', hlast, rfl⟩
    · obtain ⟨e, -, he⟩ := List.exists_of_findSome?_eq_some hm
      exact absurd (ChainEvent.contribution_name he) (h.names b hb name)
    · exact absurd hm (h.shown b hb hook)

end PlainChain

/-- The last declaration of a name is one of it. -/
theorem lastDeclaration_mem {es : List ChainEvent} {name : String} {b : Builder}
    (h : lastDeclaration es name = some b) : b ∈ declarations es ∧ b.name = name :=
  ⟨List.mem_reverse.mp (List.mem_of_find?_eq_some h), by simpa using List.find?_some h⟩

/-- The last block is that of a declaration. -/
theorem lastBlock_mem {es : List ChainEvent} {name : String} {block : Hook}
    (h : lastBlock es name = some block) : ∃ b ∈ declarations es, b.block = some block := by
  obtain ⟨b, hb, hblock⟩ := List.exists_of_findSome?_eq_some h
  split at hblock
  next => exact ⟨b, List.mem_reverse.mp hb, hblock⟩
  next => cases hblock

namespace Lineage

variable {r : Registry} {id : Nat} {es : List ChainEvent}

/-- Every attribute that is listed was declared. -/
theorem exists_lastDeclaration (h : Lineage r id es) {name : String}
    (hname : name ∈ (r.view id).schema.names) : ∃ b, lastDeclaration es name = some b := by
  rw [h.names_eq] at hname
  obtain ⟨b, hb, rfl⟩ := List.mem_map.mp hname
  rw [← Option.isSome_iff_exists, lastDeclaration, List.find?_isSome]
  exact ⟨b, List.mem_reverse.mpr hb, by simp⟩

/-- A class with a plain history composes its options by the blocks that were given last. -/
theorem composesBy (h : Lineage r id es) (hplain : PlainChain es)
    (hcallbacks : (r.find id).schema.callbacks = []) : (r.view id).ComposesBy (lastBlock es) where
  operations key hkey := by
    rw [h.member?_eq]
    exact hplain.lastMember_operation h.records.strict hkey
  contributions name := by
    rw [h.member?_eq]
    refine lastMember_contributionName (fun methods hmethods m hm hname => ?_) fun b hb => ?_
    · exact hplain.bodies methods hmethods m hm (Or.inr ⟨name, hname⟩)
    · exact hplain.names b (mem_declarations.mpr hb) name
  blocks name block hblock := by
    obtain ⟨b, hb, hgiven⟩ := lastBlock_mem hblock
    exact hplain.blocks b hb block hgiven
  declares name hname := by
    obtain ⟨b, hb⟩ := h.exists_lastDeclaration hname
    have hdefault := h.defaults_eq name
    rw [hb] at hdefault
    exact List.any_eq_true.mpr ⟨_, mem_of_lookup hdefault, by simp⟩
  callbacks := hcallbacks

/-- A declared attribute is found with the conversion of its last declaration. -/
theorem member?_attribute (h : Lineage r id es) (hplain : PlainChain es) {name : String} {b : Builder}
    (hb : lastDeclaration es name = some b) :
    (r.view id).member? name = some (.attribute b.conversion) := by
  obtain ⟨hmem, rfl⟩ := lastDeclaration_mem hb
  obtain ⟨b', hb', hmember⟩ := hplain.lastMember_attribute hmem
  rw [hb] at hb'
  cases hb'
  rw [h.member?_eq, hmember]

end Lineage

/-- The library's own check rejects an option-map as one, unless a number in it is too long to be
written. -/
theorem FindOptions.validate_eq_error {v : Value} {e : Failure} (h : validate v = .error e)
    (hlong : v.isTooLong = false) : ∃ keys message, e = .invalidFindOptions keys message := by
  -- A key that can be written is no obstacle to the message that tells it.
  have hkeys : ∀ entries : List (Value × Value), Value.isTooLong (.dict entries) = false →
      Value.anyTooLong ((entries.map (·.1)).filter (!isKey ·)) = false := by
    intro entries hentries
    rw [Value.isTooLong] at hentries
    induction entries with
    | nil => rfl
    | cons e entries ih =>
      obtain ⟨k, v⟩ := e
      simp only [Value.anyEntryTooLong, Value.isEntryTooLong, Bool.or_eq_false_iff] at hentries
      rw [List.map_cons, List.filter_cons]
      split
      next => rw [Value.anyTooLong, hentries.1.1, ih hentries.2, Bool.or_false]
      next => exact ih hentries.2
  unfold validate at h
  split at h
  next => cases h
  next entries =>
    dsimp only at h
    split at h
    next => cases h
    next =>
      rw [if_neg (by simp [hkeys entries hlong])] at h
      cases h
      exact ⟨_, _, rfl⟩
  next =>
    rw [if_neg (by simp [hlong])] at h
    cases h
    exact ⟨_, _, rfl⟩

/-- **Composition follows the declarations.** The names of a class are those of its history in order of
first declaration; an attribute has the default and the conversion of its last declaration. A search of
the class composes what the last blocks of its attributes answer, in that order, up to the first that is
missing, fails or is rejected by the bridge; its options are what the bridge makes of these. -/
theorem composition_follows_history {r : Registry} {id : Nat} {es : List ChainEvent}
    (h : Lineage r id es) (hplain : PlainChain es) (hcallbacks : (r.find id).schema.callbacks = []) :
    let c := r.view id
    let names := ((declarations es).map (·.name)).eraseDups
    c.schema.uniqueNames = names ∧
    (∀ name b, lastDeclaration es name = some b →
      (∀ supplied, Search.initial c supplied name = (supplied.lookup name).getD b.default) ∧
      ∀ v, Search.assign c name v = Search.store b.conversion name v) ∧
    (∀ attributes values s s', s.extras = [] → Search.make c attributes values s = .ok () s' →
      s'.Composable c ∧ ∃ bridge, c.schema.bridge = some bridge) ∧
    ∀ bridge, c.schema.bridge = some bridge →
      (∀ s, s.Composable c →
        Search.findOptionsList c s =
          (do return .list (← Search.composed c bridge (lastBlock es) names) : Searching Value) s ∧
        Search.findOptions c s =
          (do Search.lift (bridge.merge (← Search.composed c bridge (lastBlock es) names)) :
            Searching Value) s) ∧
      ∀ t config, bridge = .relational t config → ∀ v e, bridge.validate v = .error e →
        v.isTooLong = false → ∃ keys message, e = .invalidFindOptions keys message := by
  intro c names
  -- What the class holds is told by the events of its lineage, and the searches follow the class.
  have hc : c.ComposesBy (lastBlock es) := h.composesBy hplain hcallbacks
  have hnames : c.schema.uniqueNames = names := congrArg List.eraseDups h.names_eq
  refine ⟨hnames, fun name b hb => ⟨fun supplied => ?_, fun v => ?_⟩, ?_, fun bridge hbridge => ⟨?_, ?_⟩⟩
  · rw [Search.initial]
    cases supplied.lookup name with
    | some v => rfl
    | none =>
      change (c.schema.defaults.lookup name).getD .ignored = b.default
      rw [h.defaults_eq, hb]
      rfl
  · exact Search.assign_eq_store (h.member?_attribute hplain hb) v
  · intro attributes values s s' hextras hmake
    have hattributes : ∀ name ∈ c.schema.names, ∃ conversion,
        c.member? name = some (.attribute conversion) := fun name hname => by
      obtain ⟨b, hb⟩ := h.exists_lastDeclaration hname
      exact ⟨b.conversion, h.member?_attribute hplain hb⟩
    obtain ⟨hmodel, hs'⟩ := Search.make_eq_ok hattributes hextras hmake
    obtain ⟨-, ops, hops⟩ := h.exists_runs
    refine ⟨hs', Option.isSome_iff_exists.mp ?_⟩
    exact (hops.bridge_isSome id).symm.trans hmodel
  · intro s hs
    rw [hs.findOptionsList_eq hc hbridge, hs.findOptions_eq hc hbridge, hnames]
    exact ⟨rfl, rfl⟩
  · rintro t config rfl v e hvalidate hlong
    exact FindOptions.validate_eq_error hvalidate hlong

/-! ## Names that are taken -/

/-- What a block contributes in the examples. -/
def someCondition : Value :=
  .dict [(.text "conditions", .text "x")]

/-- A class with a model of its own, which declares these attributes, and a subclass with these methods. -/
def chain (bs : List Builder) (methods : List (String × Hook)) : Registry :=
  Registry.afterAll
    ([.subclass {} "P" Registry.root [] (some (.custom "M" {})) []] ++
      bs.map (.accessorBuilder 1 · [] none) ++ [.subclass {} "Q" 1 methods none []]) {}

/-- What the subclass has been given. -/
def chainHistory (bs : List Builder) (methods : List (String × Hook)) : List ChainEvent :=
  [.body []] ++ bs.map .declared ++ [.body methods]

/-- A value for each of the attributes. -/
def chainValues (bs : List Builder) : List (String × Value) :=
  bs.map fun b => (b.name, .int 1)

/-- A search of the subclass with these values. -/
def chainSearch (bs : List Builder) (methods : List (String × Hook)) : Search :=
  after (Search.make ((chain bs methods).view 2) (.dict []) (chainValues bs)) {}

/-- No name is that of a contribution and there are no callbacks, but a search of the subclass fails where
the blocks of its attributes answer. -/
structure Strays (bs : List Builder) (methods : List (String × Hook)) (maps : List Value) (e : Failure) :
    Prop where
  lineage : Lineage (chain bs methods) 2 (chainHistory bs methods)
  bodies : ∀ m ∈ methods, ∀ name, m.1 ≠ contributionName name
  names : ∀ b ∈ bs, ∀ name, b.name ≠ contributionName name
  callbacks : ((chain bs methods).find 2).schema.callbacks = []
  made : Search.make ((chain bs methods).view 2) (.dict []) (chainValues bs) {} =
    .ok () (chainSearch bs methods)
  answered : ∃ s, Search.composed ((chain bs methods).view 2) (.custom {})
    (lastBlock (chainHistory bs methods)) (bs.map (·.name)) (chainSearch bs methods) = .ok maps s
  failed : ∃ s, Search.findOptionsList ((chain bs methods).view 2) (chainSearch bs methods) = .error e s

/-- An attribute with a block. -/
def plainBuilder : Builder :=
  { name := "a", block := some (.done someCondition) }

/-- An attribute whose block assigns to what another one contributes. -/
def meddlingBuilder : Builder :=
  { name := "a", block := some (.write (contributionName "b") (.int 3) (.done someCondition)) }

/-- A name that starts otherwise is that of no contribution. -/
theorem ne_contributionName {key : String}
    (h : ("find_options_for_".toList.isPrefixOf key.toList) = false) (name : String) :
    key ≠ contributionName name := by
  rintro rfl
  rw [toList_contributionName] at h
  simp at h

/-- The first class of its registry has an empty body. -/
theorem lineage_born {r : Registry}
    (h : Registry.subclass {} "P" Registry.root [] (some (.custom "M" {})) [] {} = .ok 1 r) :
    Lineage r 1 [.body []] :=
  Lineage.subclass {} "P" [] (some (.custom "M" {})) [] .root h

/-- A method of a class body hides an attribute, or an operation; a block hides what another attribute
contributes. -/
theorem composition_hidden :
    Strays [plainBuilder] [("a", .done .null)] [someCondition] .noKey ∧
    Strays [plainBuilder] [("ignored", .done .null)] [someCondition] .wrongType ∧
    Strays [meddlingBuilder, { plainBuilder with name := "b" }] [] [someCondition, someCondition]
      .wrongType := by
  have hname : ∀ b ∈ [plainBuilder], ∀ name, b.name ≠ contributionName name := by
    simpa using ne_contributionName (by decide)
  have hnames : ∀ b ∈ [meddlingBuilder, { plainBuilder with name := "b" }],
      ∀ name, b.name ≠ contributionName name := by
    simpa using ⟨ne_contributionName (by decide), ne_contributionName (by decide)⟩
  have hborn : Lineage _ 1 [.body []] := lineage_born rfl
  have hplain := hborn.declared (.accessorBuilder 1 plainBuilder [] none) (by decide) rfl rfl
  have hmethod : ∀ key, ("find_options_for_".toList.isPrefixOf key.toList) = false →
      ∀ m ∈ [(key, Hook.done .null)], ∀ name, m.1 ≠ contributionName name := by
    intro key hkey
    simpa using ne_contributionName hkey
  refine ⟨⟨?_, hmethod _ (by decide), hname, rfl, rfl, ⟨_, rfl⟩, ⟨_, rfl⟩⟩,
    ⟨?_, hmethod _ (by decide), hname, rfl, rfl, ⟨_, rfl⟩, ⟨_, rfl⟩⟩,
    ⟨?_, by simp, hnames, rfl, rfl, ⟨_, rfl⟩, ⟨_, rfl⟩⟩⟩
  · exact hplain.subclass {} "Q" [("a", .done .null)] none [] rfl
  · exact hplain.subclass {} "Q" [("ignored", .done .null)] none [] rfl
  · have hmeddling :=
      hborn.declared (.accessorBuilder 1 meddlingBuilder [] none) (by decide) rfl rfl
    have hboth := hmeddling.declared
      (.accessorBuilder 1 { plainBuilder with name := "b" } [] none) (by decide) rfl rfl
    exact hboth.subclass {} "Q" [] none [] rfl

/-- The attribute once more, with a conversion and no block. -/
def countingBuilder : Builder :=
  { name := "a", options := [("store_as", .conversion Value.increment)] }

/-- An attribute that is declared again keeps its place and its block, and stores as the new declaration
tells. -/
theorem composition_follows_history_redeclared :
    let bs := [plainBuilder, { plainBuilder with name := "b" }, countingBuilder]
    let c := (chain bs []).view 2
    Lineage (chain bs []) 2 (chainHistory bs []) ∧ c.schema.uniqueNames = ["a", "b"] ∧
      (∀ v, Search.assign c "a" v = Search.store (some Value.increment) "a" v) ∧
      Search.findOptionsList c { values := [("a", .int 1), ("b", .int 1)] } =
        .ok (.list [someCondition, someCondition]) { values := [("a", .int 1), ("b", .int 1)] } := by
  intro bs c
  have hborn : Lineage _ 1 [.body []] := lineage_born rfl
  have hplain := hborn.declared (.accessorBuilder 1 plainBuilder [] none) (by decide) rfl rfl
  have hboth := hplain.declared
    (.accessorBuilder 1 { plainBuilder with name := "b" } [] none) (by decide) rfl rfl
  have hagain := hboth.declared (.accessorBuilder 1 countingBuilder [] none) (by decide) rfl rfl
  have hlineage : Lineage (chain bs []) 2 (chainHistory bs []) :=
    hagain.subclass {} "Q" [] none [] rfl
  have hdeclared : ∀ b ∈ declarations (chainHistory bs []),
      b = plainBuilder ∨ b = { plainBuilder with name := "b" } ∨ b = countingBuilder := by
    intro b hb
    have hbs : declarations (chainHistory bs []) = bs := rfl
    simpa [hbs, bs] using hb
  have hchain : PlainChain (chainHistory bs []) := by
    refine ⟨?_, ?_, ?_, ?_⟩
    · intro methods hmethods m hm
      obtain rfl : methods = [] := by simpa [chainHistory, bs] using hmethods
      cases hm
    · intro b hb
      rcases hdeclared b hb with rfl | rfl | rfl <;> exact ne_contributionName (by decide)
    · intro b hb hook hhook
      rcases hdeclared b hb with rfl | rfl | rfl <;> cases hhook
    · intro b hb block hblock
      rcases hdeclared b hb with rfl | rfl | rfl <;> cases hblock <;> trivial
  have hall := composition_follows_history hlineage hchain rfl
  refine ⟨hlineage, hall.1, (hall.2.1 "a" countingBuilder rfl).2, ?_⟩
  have hcomposed := (hall.2.2.2 (.custom {}) rfl).1 { values := [("a", .int 1), ("b", .int 1)] } ?_
  · exact hcomposed.1
  · refine ⟨fun name hname => ?_, fun _ _ => rfl⟩
    have hnames : c.schema.names = ["a", "b", "a"] := rfl
    rw [hnames] at hname
    revert name
    decide

end SearchQuery
