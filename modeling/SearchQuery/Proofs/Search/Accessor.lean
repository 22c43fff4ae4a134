import SearchQuery.Proofs.Search.Binding
import SearchQuery.Proofs.Search.History

/-!
# Rows of declarations that fail

A row of names with one set of options and one block is declared name by name. A row that is accepted
leaves what its names leave one by one. A row that fails may have declared some of its names: what is no
text is found before anything is declared, but a name that is refused leaves the names in front of it
declared (`accessor_one_by_one`, `accessor_leaves_front`). So the registry stays as it was where the first
name is the one refused.

What a table makes of a declaration depends on the options alone, and all names of a row have the same. So
an option that is refused is refused at the first name, and of the names behind it only one that no
attribute can have is ever refused.

## Shape of the argument

* `declareAll_eq_error_iff` cuts a row at the declaration that is refused.
* `ByOptions` is kept by every step of rewriting (`byOptions_rewriteRelational`).
* `accessor_texts` and `accessorEach_texts` give both ways of declaring texts as one row of builders.
-/

namespace SearchQuery

/-! ## What looks at the options alone -/

section ByOptions

variable {β γ : Type}

/-- From the same options the computation gives the same answer, and leaves the same options. -/
def ByOptions (act : EStateM Failure Builder β) : Prop :=
  ∀ b b' : Builder, b.options = b'.options →
    answer act b = answer act b' ∧ (after act b).options = (after act b').options

/-- What is done one after the other is told by the options, if each part is. -/
theorem ByOptions.bind {x : EStateM Failure Builder β} {f : β → EStateM Failure Builder γ}
    (hx : ByOptions x) (hf : ∀ v, ByOptions (f v)) : ByOptions (x >>= f) := by
  intro b b' h
  obtain ⟨hanswer, hafter⟩ := hx b b' h
  rw [answer, answer] at hanswer
  rw [after, after] at hafter
  rw [answer, answer, after_bind, after_bind, estate_bind_eq, estate_bind_eq]
  cases hb : x b with
  | ok v b₁ =>
    cases hb' : x b' with
    | ok v' b₁' =>
      rw [hb, hb'] at hanswer hafter
      cases hanswer
      exact hf v b₁ b₁' hafter
    | error e' b₁' =>
      rw [hb, hb'] at hanswer
      cases hanswer
  | error e b₁ =>
    cases hb' : x b' with
    | ok v' b₁' =>
      rw [hb, hb'] at hanswer
      cases hanswer
    | error e' b₁' =>
      rw [hb, hb'] at hanswer hafter
      cases hanswer
      exact ⟨rfl, hafter⟩

theorem byOptions_pure (v : β) : ByOptions (pure v) :=
  fun _ _ h => ⟨rfl, h⟩

theorem byOptions_throw (e : Failure) : ByOptions (throw e : EStateM Failure Builder β) :=
  fun _ _ h => ⟨rfl, h⟩

theorem byOptions_lift (e : Except Failure β) : ByOptions (Bridge.lift e) := by
  cases e with
  | ok v => exact byOptions_pure v
  | error e => exact byOptions_throw e

theorem byOptions_modify {f : Builder → Builder}
    (hf : ∀ b b' : Builder, b.options = b'.options → (f b).options = (f b').options) :
    ByOptions (modify f) :=
  fun b b' h => ⟨rfl, hf b b' h⟩

/-- To take an option is told by the options. -/
theorem byOptions_take (name : String) : ByOptions (Bridge.take name) := by
  intro b b' h
  refine ⟨?_, ?_⟩
  · exact congrArg (fun o : Options => Except.ok (o.get? name)) h
  · exact congrArg (fun o : Options => o.erase name) h

/-- A cast goes in front of the conversion that the options hold. -/
theorem options_castTo (m : Machine) (kind : Option ColumnKind) {b b' : Builder}
    (h : b.options = b'.options) :
    (kind.elim b (Bridge.castTo m · b)).options = (kind.elim b' (Bridge.castTo m · b')).options := by
  cases kind with
  | none => exact h
  | some kind => simp only [Option.elim_some, Bridge.castTo, h]

variable (t : Table) (config : Config) (operator : String)

/-- So is the rewriting of an operator on columns. -/
theorem byOptions_rewriteColumn (op : ColumnOperator) :
    ByOptions (Bridge.rewriteColumn t operator op) := by
  refine (byOptions_take "column").bind fun name => ?_
  split
  next s =>
    split
    next => exact byOptions_throw _
    next =>
      refine (byOptions_lift (t.column (.text s))).bind fun column => ?_
      refine (byOptions_take "type_cast").bind fun wanted => ?_
      -- The block is made of the name, which no option tells.
      have hblock := byOptions_modify (f := fun b : Builder =>
        { b with block := some (Bridge.columnBlock op b.name (t.sqlColumn column)) }) fun _ _ h => h
      split
      next =>
        exact (byOptions_modify fun _ _ h => options_castTo t.machine column.kind h).bind fun _ => hblock
      next => exact hblock
  next => exact byOptions_throw _

/-- So is that of a full text search. -/
theorem byOptions_rewriteFullText : ByOptions (Bridge.rewriteFullText t config operator) := by
  refine (byOptions_take "columns").bind fun several => ?_
  rw [ite_bind_eq]
  have hnames : ByOptions
      (if several.any Setting.truthy then pure several else Bridge.take "column") := by
    split
    next => exact byOptions_pure _
    next => exact byOptions_take "column"
  refine hnames.bind fun names => ?_
  refine (byOptions_take "column").bind fun _ => (byOptions_take "type_cast").bind fun _ => ?_
  refine (byOptions_lift _).bind fun columns => (byOptions_take "exclude").bind fun given => ?_
  cases given with
  | some s => exact byOptions_modify fun _ _ h => h
  | none => exact (byOptions_lift config.patterns).bind fun _ => byOptions_modify fun _ _ h => h

/-- **A table looks at the options alone.** -/
theorem byOptions_rewriteRelational : ByOptions (Bridge.rewriteRelational t config) := by
  refine (byOptions_take "operator").bind fun given => ?_
  split
  next => exact byOptions_pure _
  next => exact byOptions_pure _
  next s _ =>
    refine (byOptions_lift s.toValue.written).bind fun operator => ?_
    split
    next op _ => exact byOptions_rewriteColumn t operator op
    next =>
      split
      next => exact byOptions_rewriteFullText t config operator
      next => exact byOptions_throw _

end ByOptions

namespace Registry

variable {id : Nat} {options : Options} {block : Option Hook} {r r' : Registry} {e : Failure}

/-! ## Single declarations that fail -/

/-- An attribute is refused for the options that are left over, or else for its name. -/
theorem addAttribute_eq_error {b : Builder} (h : addAttribute id b r = .error e r') :
    r' = r ∧ (b.options.unknown attributeOptions = [] → e = .invalidAttributeName b.name) := by
  rw [addAttribute] at h
  split at h
  next hoptions =>
    cases h
    exact ⟨rfl, fun hnone => by simp [hnone] at hoptions⟩
  next =>
    split at h
    next =>
      cases h
      exact ⟨rfl, fun _ => rfl⟩
    next => cases h

/-- A declaration that fails changes nothing. -/
theorem declare_eq_error {b : Builder} (h : declare id b r = .error e r') : r' = r := by
  obtain ⟨_, -, -, hok⟩ | ⟨e', herror⟩ := declare_cases id b r
  · rw [hok] at h
    cases h
  · rw [herror] at h
    cases h
    rfl

/-- A declaration succeeds if the bridge makes one of it that keeps the rules. -/
theorem declare_eq_ok_iff {b : Builder} :
    declare id b r = .ok () r' ↔ ∃ b', rewritten (r.find id) b = .ok b' ∧ b'.IsStrict ∧
      r' = r.update id (·.withAttribute b') := by
  constructor
  · intro h
    obtain ⟨b', hrewritten, hstrict, hok⟩ | ⟨e', herror⟩ := declare_cases id b r
    · rw [hok] at h
      cases h
      exact ⟨b', hrewritten, hstrict, rfl⟩
    · rw [herror] at h
      cases h
  · rintro ⟨b', hrewritten, hstrict, rfl⟩
    exact declare_of_strict hrewritten hstrict

/-! ## Rows of builders -/

/-- **Where a row stops.** The declarations in front of the one that is refused are made, and those behind
it are not looked at. -/
theorem declareAll_eq_error_iff {bs : List Builder} :
    declareAll id bs r = .error e r' ↔ ∃ front b back, bs = front ++ b :: back ∧
      declareAll id front r = .ok () r' ∧ declare id b r' = .error e r' := by
  induction bs generalizing r with
  | nil =>
    constructor
    · intro h
      cases h
    · rintro ⟨front, b, back, hbs, -⟩
      simp at hbs
  | cons b bs ih =>
    rw [declareAll, estate_bind_eq_error]
    constructor
    · rintro (h | ⟨_, r₁, h₁, h⟩)
      · obtain rfl := declare_eq_error h
        exact ⟨[], b, bs, rfl, rfl, h⟩
      · obtain ⟨front, b', back, rfl, hfront, hb'⟩ := ih.mp h
        exact ⟨b :: front, b', back, rfl, estate_bind_eq_ok.mpr ⟨(), r₁, h₁, hfront⟩, hb'⟩
    · rintro ⟨front, b', back, hbs, hfront, hb'⟩
      cases front with
      | nil =>
        obtain ⟨rfl, rfl⟩ := List.cons_eq_cons.mp hbs
        cases hfront
        exact Or.inl hb'
      | cons b₁ front =>
        obtain ⟨rfl, rfl⟩ := List.cons_eq_cons.mp hbs
        obtain ⟨_, r₁, h₁, hrest⟩ := estate_bind_eq_ok.mp hfront
        exact Or.inr ⟨(), r₁, h₁, ih.mpr ⟨front, b', back, rfl, hrest, hb'⟩⟩

/-- Every declaration that is made adds a name. -/
theorem ne_of_declareAll_cons {b : Builder} {bs : List Builder} (hid : id < r.classes.length)
    (h : declareAll id (b :: bs) r = .ok () r') : r' ≠ r := by
  obtain ⟨-, hall⟩ := declareAll_eq_ok h
  rw [declareAll] at h
  obtain ⟨_, r₁, hdeclare, -⟩ := estate_bind_eq_ok.mp h
  obtain ⟨b', hrewritten, -, -⟩ := declare_eq_ok_iff.mp hdeclare
  have hcons : (r.find id).rewrittenAll (b :: bs) = b' :: (r.find id).rewrittenAll bs := by
    rw [SearchClass.rewrittenAll, List.filterMap_cons, hrewritten]
    rfl
  intro heq
  have hnames : (r'.find id).schema.names =
      (r.find id).schema.names ++ (b' :: (r.find id).rewrittenAll bs).map (·.name) := by
    rw [hall, find_update_self hid, hcons]
    exact SearchClass.names_withAttributes _ _
  rw [heq] at hnames
  simp at hnames

/-- The bridge of a class is that of a table, if it has one. -/
def IsOfTable (r : Registry) (id : Nat) : Prop :=
  ∀ bridge ∈ (r.find id).schema.bridge, ∃ t config, bridge = .relational t config

/-- Builders with the same options are rewritten to builders with the same options, or both are refused. -/
theorem rewritten_options (h : r.IsOfTable id) {b b' g : Builder} (hoptions : b.options = g.options)
    (hb : rewritten (r.find id) b = .ok b') :
    ∃ g', rewritten (r.find id) g = .ok g' ∧ g'.options = b'.options ∧ g'.name = g.name := by
  cases hbridge : (r.find id).schema.bridge with
  | none =>
    rw [rewritten, hbridge] at hb ⊢
    cases hb
    exact ⟨g, rfl, hoptions.symm, rfl⟩
  | some bridge =>
    obtain ⟨t, config, rfl⟩ := h bridge hbridge
    rw [SearchClass.rewritten_eq_ok_iff hbridge] at hb
    obtain ⟨hanswer, hafter⟩ := byOptions_rewriteRelational t config b g hoptions
    change Bridge.rewriteRelational t config b = .ok () b' at hb
    rw [answer, hb] at hanswer
    rw [after, hb] at hafter
    cases hg : Bridge.rewriteRelational t config g with
    | error e g' =>
      rw [answer, hg] at hanswer
      cases hanswer
    | ok u g' =>
      rw [after, hg] at hafter
      exact ⟨g', (SearchClass.rewritten_eq_ok_iff hbridge).mpr hg, hafter.symm,
        Bridge.name_rewriteRelational hg⟩

/-- Behind a declaration that is made, one with the same options is refused for its name only. -/
theorem invalidName_of_declareAll (h : r.IsOfTable id) {b g : Builder} {bs : List Builder}
    (hoptions : b.options = g.options) (hfront : declareAll id (b :: bs) r = .ok () r')
    (hg : declare id g r' = .error e r') : e = .invalidAttributeName g.name := by
  obtain ⟨-, hall⟩ := declareAll_eq_ok hfront
  rw [declareAll] at hfront
  obtain ⟨_, r₁, hdeclare, -⟩ := estate_bind_eq_ok.mp hfront
  obtain ⟨b', hb, hstrict, -⟩ := declare_eq_ok_iff.mp hdeclare
  obtain ⟨g', hg', hsame, hname⟩ := rewritten_options h hoptions hb
  have hbridge : (r'.find id).schema.bridge = (r.find id).schema.bridge := by
    rw [hall]
    rcases find_update r id (·.withAttributes _) id with hfind | hfind
    · rw [hfind]
    · rw [hfind, SearchClass.withAttributes_bridge]
  rw [declare, estate_get_bind, SearchClass.rewritten_congr hbridge, hg'] at hg
  rw [← hname]
  exact (addAttribute_eq_error hg).2 (hsame ▸ hstrict.options)

/-! ## Rows of names -/

/-- The builders of a row of names. -/
def rowBuilders (options : Options) (block : Option Hook) (texts : List String) : List Builder :=
  texts.map fun name => { name, options, block }

/-- Declare names one by one, each by a declaration of its own. -/
def accessorEach (id : Nat) (options : Options) (block : Option Hook) : List Value → Declaring Unit
  | [] => pure ()
  | name :: names => do
    accessor id [name] options block
    accessorEach id options block names

/-- Why a row of names is refused before any of them is declared: an option is named like a parameter of
the declaration, or one of the names is no text. -/
inductive RefusedAtOnce (names : List Value) (options : Options) : Failure → Prop
  | parameter : options.uses declarationParameters = true → RefusedAtOnce names options .wrongType
  | noText {front : List String} {v : Value} {back : List Value} :
    options.uses declarationParameters = false → names = front.map .text ++ v :: back →
    (∀ s, v ≠ .text s) → RefusedAtOnce names options (.attributeNameNotText v)

/-- The text that a name of a row is. -/
def textOf : Value → Except Failure String
  | .text s => .ok s
  | v => .error (.attributeNameNotText v)

/-- A name that is no text cannot be taken for one. -/
theorem textOf_eq_error {v : Value} (hv : ∀ s, v ≠ .text s) :
    textOf v = .error (.attributeNameNotText v) := by
  unfold textOf
  split
  next s => exact absurd rfl (hv s)
  next => rfl

/-- An accessor reads all names first, and then declares them. -/
theorem accessor_eq (huses : options.uses declarationParameters = false) (names : List Value) :
    accessor id names options block =
      lift (names.mapM textOf) >>= fun texts => declareAll id (rowBuilders options block texts) := by
  have htext : (fun n : Value =>
      match n with
      | .text s => Except.ok s
      | v => .error (Failure.attributeNameNotText v)) = textOf := by
    funext v
    cases v <;> rfl
  rw [accessor, if_neg (by simp [huses]), ← htext]
  rfl

/-- A row of texts is a row of builders. -/
theorem accessor_texts (huses : options.uses declarationParameters = false) (texts : List String) :
    accessor id (texts.map .text) options block = declareAll id (rowBuilders options block texts) := by
  have htexts : (texts.map Value.text).mapM textOf = .ok texts := by
    rw [mapM_eq_ok_iff, List.forall₂_map_left_iff, List.forall₂_same]
    intro s _
    rfl
  rw [accessor_eq huses, htexts]
  rfl

theorem accessor_text (huses : options.uses declarationParameters = false) (name : String) :
    accessor id [.text name] options block = declare id { name, options, block } :=
  (accessor_texts huses [name]).trans (declareAll_singleton id _)

theorem accessorEach_texts (huses : options.uses declarationParameters = false) (texts : List String) :
    accessorEach id options block (texts.map .text) =
      declareAll id (rowBuilders options block texts) := by
  induction texts with
  | nil => rfl
  | cons name texts ih =>
    rw [List.map_cons, accessorEach, accessor_text huses, ih]
    rfl

/-- All names are texts, or there is a first one that is none. -/
theorem mapM_textOf_cases (names : List Value) :
    (∃ texts : List String, names = texts.map .text) ∨
      ∃ (front : List String) (v : Value) (back : List Value),
        names = front.map .text ++ v :: back ∧ (∀ s, v ≠ .text s) ∧
          names.mapM textOf = .error (.attributeNameNotText v) := by
  induction names with
  | nil => exact Or.inl ⟨[], rfl⟩
  | cons v names ih =>
    by_cases hv : ∃ s, v = .text s
    · obtain ⟨s, rfl⟩ := hv
      obtain ⟨texts, rfl⟩ | ⟨front, v, back, rfl, hv, hmap⟩ := ih
      · exact Or.inl ⟨s :: texts, rfl⟩
      · refine Or.inr ⟨s :: front, v, back, rfl, hv, ?_⟩
        rw [List.mapM_cons, hmap]
        rfl
    · rw [not_exists] at hv
      refine Or.inr ⟨[], v, names, rfl, hv, ?_⟩
      rw [List.mapM_cons, textOf_eq_error hv]
      rfl

/-- A row is refused at once, or its names are texts that are declared one after the other. -/
theorem accessor_outcome (id : Nat) (names : List Value) (options : Options) (block : Option Hook)
    (r : Registry) :
    (∃ e, RefusedAtOnce names options e ∧ accessor id names options block r = .error e r) ∨
      ∃ texts : List String, names = texts.map .text ∧ options.uses declarationParameters = false := by
  cases huses : options.uses declarationParameters with
  | true =>
    refine Or.inl ⟨.wrongType, .parameter huses, ?_⟩
    rw [accessor, if_pos huses]
    rfl
  | false =>
    obtain ⟨texts, hnames⟩ | ⟨front, v, back, hnames, hv, hmap⟩ := mapM_textOf_cases names
    · exact Or.inr ⟨texts, hnames, rfl⟩
    · refine Or.inl ⟨_, .noText huses hnames hv, ?_⟩
      rw [accessor_eq huses, hmap]
      rfl

/-- **Rows of declarations.** A row that is accepted leaves what its names leave one by one. One that fails
is refused at once, and changes nothing, or is refused at one of its names and leaves what the names in
front of it leave: nothing changes where that is the first name. A class without a bridge, or with that of a
table, refuses a name behind the first one only because no attribute can have it. -/
theorem accessor_one_by_one (id : Nat) (names : List Value) (options : Options) (block : Option Hook)
    (r : Registry) :
    (∀ r', accessor id names options block r = .ok () r' →
      accessorEach id options block names r = .ok () r') ∧
    ∀ e r', accessor id names options block r = .error e r' →
      RefusedAtOnce names options e ∧ r' = r ∨
        ∃ (front : List String) (name : String) (back : List String),
          names = (front ++ name :: back).map .text ∧
          accessorEach id options block (front.map .text) r = .ok () r' ∧
          accessor id [.text name] options block r' = .error e r' ∧
          (id < r.classes.length → (r' = r ↔ front = [])) ∧
          (r.IsOfTable id → front ≠ [] → e = .invalidAttributeName name) := by
  obtain ⟨e, hrefused, hrun⟩ | ⟨texts, rfl, huses⟩ := accessor_outcome id names options block r
  · rw [hrun]
    refine ⟨fun r' h => ?_, fun e' r' h => ?_⟩
    · cases h
    · cases h
      exact Or.inl ⟨hrefused, rfl⟩
  -- From here on all names are texts, and both forms declare the same row of builders.
  rw [accessor_texts huses, accessorEach_texts huses]
  refine ⟨fun r' h => h, fun e r' h => Or.inr ?_⟩
  obtain ⟨before, b, behind, hbs, hfront, hb⟩ := declareAll_eq_error_iff.mp h
  rw [rowBuilders, List.map_eq_append_iff] at hbs
  obtain ⟨front, rest, rfl, rfl, hrest⟩ := hbs
  obtain ⟨name, back, rfl, rfl, rfl⟩ := List.map_eq_cons_iff.mp hrest
  change declareAll id (rowBuilders options block front) r = .ok () r' at hfront
  refine ⟨front, name, back, rfl, ?_, ?_, fun hid => ?_, fun htable hne => ?_⟩
  · rw [accessorEach_texts huses]
    exact hfront
  · rw [accessor_text huses]
    exact hb
  · cases front with
    | nil =>
      cases hfront
      exact ⟨fun _ => rfl, fun _ => rfl⟩
    | cons first front =>
      have hne : r' ≠ r := ne_of_declareAll_cons hid hfront
      exact iff_of_false hne (List.cons_ne_nil first front)
  · cases front with
    | nil => exact absurd rfl hne
    | cons first front =>
      have hsame : ({ name := first, options, block } : Builder).options =
          ({ name, options, block } : Builder).options := rfl
      exact invalidName_of_declareAll htable hsame hfront hb

/-- A class bound to a model that predefines nothing. -/
def plainlyBound : Registry :=
  after (subclass {} "S" root [] (some (.custom "M" {})) []) {}

/-- Options and a block that the names of a row share. -/
def sharedOptions : Options := [("default", .value (.int 1))]

/-- A block that always asks for the same condition. -/
def sharedBlock : Option Hook := some (.done (.dict [(.text "conditions", .text "x")]))

/-- A row with a name that no attribute can have is cut in front of it. -/
theorem accessor_one_by_one_cut :
    (∃ r', accessor 1 [.text "a", .text "b"] sharedOptions sharedBlock plainlyBound = .ok () r' ∧
      accessorEach 1 sharedOptions sharedBlock [.text "a", .text "b"] plainlyBound = .ok () r') ∧
    ∃ r', accessor 1 [.text "a", .text "1b"] sharedOptions sharedBlock plainlyBound =
        .error (.invalidAttributeName "1b") r' ∧
      accessorEach 1 sharedOptions sharedBlock [.text "a"] plainlyBound = .ok () r' ∧
      r' ≠ plainlyBound := by
  refine ⟨⟨_, rfl, (accessor_one_by_one 1 _ _ _ _).1 _ rfl⟩, ⟨_, rfl, ?_⟩⟩
  obtain ⟨hrefused, -⟩ | ⟨front, name, back, hnames, heach, hone, hiff, -⟩ :=
    (accessor_one_by_one 1 [.text "a", .text "1b"] sharedOptions sharedBlock plainlyBound).2 _ _ rfl
  · cases hrefused
  · cases front with
    | nil =>
      -- Then it is the first name that is refused.
      obtain ⟨rfl, -⟩ : "a" = name ∧ _ := by simpa using hnames
      cases hone
    | cons first front =>
      have hlength := congrArg List.length hnames
      simp only [List.length_map, List.length_append, List.length_cons, List.length_nil] at hlength
      obtain rfl : front = [] := List.eq_nil_of_length_eq_zero (by omega)
      obtain rfl : "a" = first := by simpa using congrArg List.head? hnames
      exact ⟨heach, mt (hiff (by decide)).mp (List.cons_ne_nil _ _)⟩

/-- A name in front of the one that is refused is declared: it has its default, its attribute and its
block. -/
theorem accessor_leaves_front :
    ∃ r', accessor 1 [.text "a", .text "1b"] sharedOptions sharedBlock plainlyBound =
        .error (.invalidAttributeName "1b") r' ∧
      (plainlyBound.find 1).schema.names = [] ∧ (r'.find 1).schema.names = ["a"] ∧
      (plainlyBound.find 1).schema.defaults = [] ∧ (r'.find 1).schema.defaults = [("a", .int 1)] ∧
      (plainlyBound.find 1).members = [] ∧
      (r'.find 1).members.map (·.1) = ["a", "find_options_for_a"] :=
  ⟨_, rfl, rfl, rfl, rfl, rfl, rfl, rfl⟩

end Registry

end SearchQuery
