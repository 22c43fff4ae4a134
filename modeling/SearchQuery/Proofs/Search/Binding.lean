import SearchQuery.Proofs.Search.Declared
import SearchQuery.Search.Composition

/-!
# Failed bindings

Binding a class to a model declares the attributes that the bridge predefines, and one of them may be
rejected. The class then gets its schema back, and loses the members of the names that are new.

What is not given back are members that one of these attributes has taken the place of
(`setModel_error_redeclared`): an attribute that is declared again keeps the conversion of the bridge, and
a method written for the class is lost with the attribute. Where the class has no such name, nothing is
left of a failed binding (`setModel_error`).

## Shape of the argument

While attributes are declared, the members of all other names stay what they were, and members of names
that the class did not have come last (`Overwrites`). So taking the new members away again gives back the
members of the class, entry by entry.
-/

namespace SearchQuery

/-! ## Names that a model predefines -/

/-- The bridge declares an attribute of this name when it is bound. The name is the one that rewriting
leaves. -/
def Bridge.Predefines (bridge : Bridge) (options : Options) (name : String) : Prop :=
  ∃ bs, bridge.automatic options = .ok bs ∧ ∃ b ∈ bs, ∃ b', bridge.rewrite b = .ok () b' ∧ b'.name = name

/-- The model has a bridge that declares an attribute of this name. -/
def Model.Predefines (m : Model) (current : Config) (options : Options) (name : String) : Prop :=
  ∃ bridge, bridgeFor current m = .ok bridge ∧ bridge.Predefines options name

/-- The bridge leaves the name of a declaration. -/
theorem Bridge.name_rewriteRelational {t : Table} {config : Config} {b b' : Builder}
    (h : rewriteRelational t config b = .ok () b') : b'.name = b.name := by
  by_cases hoperator : b.options.NameOperator
  · obtain ⟨-, -, hname, -⟩ := rewriteRelational_eq_ok hoperator h
    exact hname
  · rw [rewriteRelational_of_not_named hoperator h]

/-! ## Members that are written over -/

/-- The key of the member of one of the attributes, or of what it contributes. -/
def IsMemberOf (P : String → Prop) (key : String) : Prop :=
  ∃ n, P n ∧ (key = n ∨ key = contributionName n)

theorem IsMemberOf.mono {P Q : String → Prop} (hPQ : ∀ n, P n → Q n) {key : String}
    (h : IsMemberOf P key) : IsMemberOf Q key := by
  obtain ⟨n, hn, hkey⟩ := h
  exact ⟨n, hPQ n hn, hkey⟩

/-- Only members of some keys have changed, and if these are new, they have come last. -/
structure Overwrites (P : String → Prop) (es es' : List (String × Member)) : Prop where
  kept : ∀ key, ¬ P key → es'.lookup key = es.lookup key
  added : (∀ e ∈ es, ¬ P e.1) → ∃ more, es' = es ++ more ∧ ∀ e ∈ more, P e.1

theorem putEntry_append {β : Type} {front : List (String × β)} {key : String}
    (h : ∀ e ∈ front, e.1 ≠ key) (back : List (String × β)) (value : β) :
    putEntry (front ++ back) key value = front ++ putEntry back key value := by
  have hany : front.any (·.1 == key) = false := by
    rw [List.any_eq_false]
    intro e he
    simpa using h e he
  have hmap : front.map (fun e => if e.1 == key then (key, value) else e) = front := by
    refine (List.map_congr_left fun e he => ?_).trans (List.map_id front)
    rw [if_neg (by simpa using h e he)]
    rfl
  rw [putEntry, putEntry, List.any_append, hany, Bool.false_or]
  split
  next => rw [List.map_append, hmap]
  next => rw [List.append_assoc]

namespace Overwrites

variable {P : String → Prop} {es es' : List (String × Member)}

theorem refl (P : String → Prop) (es : List (String × Member)) : Overwrites P es es :=
  ⟨fun _ _ => rfl, fun _ => ⟨[], (List.append_nil es).symm, by simp⟩⟩

theorem mono (h : Overwrites P es es') {Q : String → Prop} (hPQ : ∀ key, P key → Q key) :
    Overwrites Q es es' := by
  refine ⟨fun key hkey => h.kept key (mt (hPQ key) hkey), fun hnew => ?_⟩
  obtain ⟨more, hes, hmore⟩ := h.added fun e he => mt (hPQ e.1) (hnew e he)
  exact ⟨more, hes, fun e he => hPQ _ (hmore e he)⟩

/-- A member that may be overwritten is put in its place. -/
theorem putEntry (h : Overwrites P es es') {key : String} (hkey : P key) (m : Member) :
    Overwrites P es (putEntry es' key m) := by
  refine ⟨fun name hname => ?_, fun hnew => ?_⟩
  · have hne : name ≠ key := by
      rintro rfl
      exact hname hkey
    rw [lookup_putEntry_ne es' m hne, h.kept name hname]
  · obtain ⟨more, rfl, hmore⟩ := h.added hnew
    refine ⟨SearchQuery.putEntry more key m, putEntry_append (fun e he => ?_) more m, fun e he => ?_⟩
    · rintro rfl
      exact hnew e he hkey
    · rcases mem_putEntry he with he | rfl
      · exact hmore e he
      · exact hkey

end Overwrites

/-! ## Classes with more attributes -/

namespace SearchClass

/-- The class declares `more` attributes, and has only members of theirs that it did not have. -/
structure Extends (more : List String) (c c' : SearchClass) : Prop where
  name : c'.name = c.name
  ancestors : c'.ancestors = c.ancestors
  names : c'.schema.names = c.schema.names ++ more
  members : Overwrites (IsMemberOf (· ∈ more)) c.members c'.members

namespace Extends

variable {more : List String} {c c' : SearchClass}

/-- A declaration extends the class by its name. -/
theorem withAttribute (h : c.Extends more c') (b : Builder) :
    c.Extends (more ++ [b.name]) (c'.withAttribute b) := by
  have hname : b.name ∈ more ++ [b.name] := by simp
  have hmembers : Overwrites (IsMemberOf (· ∈ more ++ [b.name])) c.members c'.members :=
    h.members.mono fun _ hkey => hkey.mono fun _ hn => List.mem_append_left _ hn
  refine ⟨h.name, h.ancestors, ?_, ?_⟩
  · change c'.schema.names ++ [b.name] = _
    rw [h.names, List.append_assoc]
  · have hattribute := hmembers.putEntry (show IsMemberOf _ b.name from ⟨_, hname, Or.inl rfl⟩)
    rw [SearchClass.withAttribute]
    split
    next => exact (hattribute _).putEntry ⟨_, hname, Or.inr rfl⟩ _
    next => exact hattribute _

/-- Giving back the schema leaves nothing but members to differ. -/
theorem restored_eq_members (h : c.Extends more c') :
    c'.restored c.schema = { c with members := (c'.restored c.schema).members } := by
  rw [SearchClass.restored, h.name, h.ancestors]

/-- Members of all other names outlast the attributes that were added. -/
theorem lookup_restored (h : c.Extends more c') {key : String} (hkey : ¬ IsMemberOf (· ∈ more) key) :
    (c'.restored c.schema).members.lookup key = c.members.lookup key := by
  rw [← h.members.kept key hkey]
  refine lookup_filter _ fun member => ?_
  rw [Bool.not_eq_true', List.any_eq_false]
  intro n hn hgone
  -- A name that is taken away is a new one, so it is one of those that were added.
  rw [List.mem_filter, h.names, List.mem_append] at hn
  obtain ⟨hn | hn, hnew⟩ := hn
  · simp [hn] at hnew
  · exact hkey ⟨n, hn, by simpa using hgone⟩

/-- A class that had none of the names gets back all that it was. -/
theorem restored_eq (h : c.Extends more c') (hnames : ∀ n ∈ more, n ∉ c.schema.names)
    (hmembers : ∀ e ∈ c.members, ¬ IsMemberOf (· ∈ more) e.1) : c'.restored c.schema = c := by
  obtain ⟨added, hes, hadded⟩ := h.members.added hmembers
  have hfresh : c'.schema.names.filter (!c.schema.names.contains ·) = more := by
    rw [h.names, List.filter_append, List.filter_eq_nil_iff.mpr (by simp), List.nil_append]
    exact List.filter_eq_self.mpr fun n hn => by simpa using hnames n hn
  have hgone : ∀ key, (more.any fun n => key == n || key == contributionName n) = true ↔
      IsMemberOf (· ∈ more) key := by
    intro key
    simp [IsMemberOf]
  have hrestored : (c'.restored c.schema).members = c.members := by
    rw [SearchClass.restored]
    dsimp only
    rw [hfresh, hes, List.filter_append]
    have hfront : c.members.filter (fun e => !more.any fun n => e.1 == n || e.1 == contributionName n) =
        c.members := by
      refine List.filter_eq_self.mpr fun e he => ?_
      rw [Bool.not_eq_true']
      exact Bool.eq_false_iff.mpr (mt (hgone e.1).mp (hmembers e he))
    have hback : added.filter (fun e => !more.any fun n => e.1 == n || e.1 == contributionName n) = [] := by
      refine List.filter_eq_nil_iff.mpr fun e he => ?_
      rw [(hgone e.1).mpr (hadded e he)]
      decide
    rw [hfront, hback, List.append_nil]
  rw [h.restored_eq_members, hrestored]

end Extends

end SearchClass

/-! ## Bindings on their way -/

namespace Registry

/-- The class has been given a bridge, and some of the attributes that the bridge predefines. -/
def Binding (bridge : Bridge) (options : Options) (id : Nat) (r r' : Registry) : Prop :=
  ∃ more c, r' = (r.update id fun _ => c) ∧ c.schema.bridge = some bridge ∧
    (r.find id).Extends more c ∧ ∀ n ∈ more, bridge.Predefines options n

namespace Binding

variable {bridge : Bridge} {options : Options} {id : Nat} {r r' : Registry}

/-- A binding starts with the model and its bridge. -/
theorem start (m : Model) :
    Binding bridge options id r (r.update id fun c =>
      { c with schema := { c.schema with model := some m, bridge := some bridge } }) := by
  refine ⟨[], _, update_eq r id _, rfl, ⟨rfl, rfl, (List.append_nil _).symm, .refl _ _⟩, ?_⟩
  simp

/-- It goes on with each attribute that is predefined. -/
theorem withAttribute (h : Binding bridge options id r r') {bs : List Builder}
    (hbs : bridge.automatic options = .ok bs) {b b' : Builder} (hb : b ∈ bs)
    (hrewritten : rewritten (r'.find id) b = .ok b') :
    Binding bridge options id r (r'.update id (·.withAttribute b')) := by
  obtain ⟨more, c, rfl, hbridge, hextends, hmore⟩ := h
  rcases lt_or_ge id r.classes.length with hid | hid
  · rw [find_update_self hid] at hrewritten
    have hrun := (SearchClass.rewritten_eq_ok_iff hbridge).mp hrewritten
    refine ⟨more ++ [b'.name], c.withAttribute b', update_update .., hbridge,
      hextends.withAttribute b', fun n hn => ?_⟩
    rcases List.mem_append.mp hn with hn | hn
    · exact hmore n hn
    · rw [List.mem_singleton.mp hn]
      exact ⟨bs, hbs, b, hb, b', hrun, rfl⟩
  · rw [update_of_le hid, update_of_le hid]
    exact ⟨more, c, (update_of_le hid _).symm, hbridge, hextends, hmore⟩

/-- A declaration adds its attribute or is rejected. -/
theorem declare (h : Binding bridge options id r r') {bs : List Builder}
    (hbs : bridge.automatic options = .ok bs) {b : Builder} (hb : b ∈ bs) :
    Binding bridge options id r (after (Registry.declare id b) r') := by
  refine after_bind_keeps (I := Binding bridge options id r) h fun r₁ r₂ hget _ => ?_
  cases hget
  cases hrewritten : rewritten (r'.find id) b with
  | error e => exact h
  | ok b' =>
    change Binding bridge options id r (after (addAttribute id b') r')
    rw [addAttribute]
    split
    next => exact h
    next =>
      split
      next => exact h
      next => exact h.withAttribute hbs hb hrewritten

/-- It goes on until one of them fails, or all are declared. -/
theorem declareAll (h : Binding bridge options id r r') {all bs : List Builder}
    (hall : bridge.automatic options = .ok all) (hbs : bs ⊆ all) :
    Binding bridge options id r (after (Registry.declareAll id bs) r') := by
  induction bs generalizing r' with
  | nil => exact h
  | cons b bs ih =>
    rw [List.cons_subset] at hbs
    rw [Registry.declareAll]
    exact after_bind_keeps (h.declare hall hbs.1) fun _ _ _ h₁ => ih h₁ hbs.2

end Binding

variable {current : Config} {id : Nat} {m : Model} {options : Options} {r r' : Registry} {e : Failure}

/-- A binding fails before it has changed anything, or on its way. -/
theorem setModel_eq_error (h : setModel current id m options r = .error e r') :
    r' = r ∨ ∃ bridge r₁, bridgeFor current m = .ok bridge ∧ Binding bridge options id r r₁ ∧
      r' = r₁.update id (·.restored (r.find id).schema) := by
  rw [setModel] at h
  split at h
  next =>
    cases h
    exact Or.inl rfl
  next =>
    obtain hget | ⟨r₁, r₂, hget, h⟩ := estate_bind_eq_error.mp h
    · cases hget
    cases hget
    cases hmodel : (r.find id).schema.model with
    | some bound =>
      simp only [hmodel] at h
      cases h
      exact Or.inl rfl
    | none =>
      simp only [hmodel] at h
      obtain hlift | ⟨bridge, r₁, hlift, h⟩ := estate_bind_eq_error.mp h
      · exact Or.inl (Bridge.lift_eq_error hlift).2
      obtain ⟨hbridge, rfl⟩ := Bridge.lift_eq_ok hlift
      obtain hbind | ⟨_, r₂, hbind, h⟩ := estate_bind_eq_error.mp h
      · cases hbind
      cases hbind
      -- From here on a failure is caught, and thrown again when the schema has been given back.
      obtain ⟨e₁, r₂, hdeclare, hcatch⟩ := estate_tryCatch_eq_error.mp h
      cases hcatch
      refine Or.inr ⟨bridge, r₂, hbridge, ?_, rfl⟩
      have hstart : Binding bridge options id r₁ _ := Binding.start m
      obtain hlift | ⟨bs, r₃, hlift, hall⟩ := estate_bind_eq_error.mp hdeclare
      · rw [(Bridge.lift_eq_error hlift).2]
        exact hstart
      obtain ⟨hbs, rfl⟩ := Bridge.lift_eq_ok hlift
      rw [← after_eq_error hall]
      exact hstart.declareAll hbs (List.Subset.refl bs)

/-- No other class changes. -/
theorem find_of_setModel_eq_error (h : setModel current id m options r = .error e r') {i : Nat}
    (hi : i ≠ id) : r'.find i = r.find i := by
  obtain rfl | ⟨bridge, r₁, -, ⟨more, c, rfl, -⟩, rfl⟩ := setModel_eq_error h
  · rfl
  · rw [find_update_ne _ hi, find_update_ne _ hi]

/-- The class changes in its members only, and of these only in members of attributes that the model
predefines. -/
theorem members_of_setModel_eq_error (h : setModel current id m options r = .error e r') :
    ∃ members, r'.find id = { r.find id with members } ∧
      ∀ key, ¬ IsMemberOf (m.Predefines current options) key →
        members.lookup key = (r.find id).members.lookup key := by
  obtain rfl | ⟨bridge, r₁, hbridge, ⟨more, c, rfl, -, hextends, hmore⟩, rfl⟩ := setModel_eq_error h
  · exact ⟨_, rfl, fun _ _ => rfl⟩
  rw [update_update]
  rcases lt_or_ge id r.classes.length with hid | hid
  · rw [find_update_self hid]
    refine ⟨_, hextends.restored_eq_members, fun key hkey => hextends.lookup_restored fun hmember => ?_⟩
    exact hkey (hmember.mono fun n hn => ⟨bridge, hbridge, hmore n hn⟩)
  · rw [update_of_le hid]
    exact ⟨_, rfl, fun _ _ => rfl⟩

/-- Nothing changes where the class has no attribute or member that the model predefines. -/
theorem eq_of_setModel_eq_error (h : setModel current id m options r = .error e r')
    (hnames : ∀ n, m.Predefines current options n → n ∉ (r.find id).schema.names)
    (hmembers : ∀ p ∈ (r.find id).members, ¬ IsMemberOf (m.Predefines current options) p.1) :
    r' = r := by
  obtain rfl | ⟨bridge, r₁, hbridge, ⟨more, c, rfl, -, hextends, hmore⟩, rfl⟩ := setModel_eq_error h
  · rfl
  have hpredefined : ∀ n ∈ more, m.Predefines current options n := fun n hn =>
    ⟨bridge, hbridge, hmore n hn⟩
  have hrestored : c.restored (r.find id).schema = r.find id :=
    hextends.restored_eq (fun n hn => hnames n (hpredefined n hn)) fun p hp hmember =>
      hmembers p hp (hmember.mono hpredefined)
  rw [update_update]
  calc (r.update id fun _ => c.restored (r.find id).schema)
    _ = r.update id fun _ => r.find id := by rw [hrestored]
    _ = r := update_find r id

/-- **What a failed binding leaves.** No other class changes, and the class changes in its members only,
and of these only in members of attributes that the model predefines. Where the class has no such
attribute or member, nothing is left. -/
theorem setModel_error (h : setModel current id m options r = .error e r') :
    (∀ i, i ≠ id → r'.find i = r.find i) ∧
    (∃ members, r'.find id = { r.find id with members } ∧
      ∀ key, ¬ IsMemberOf (m.Predefines current options) key →
        members.lookup key = (r.find id).members.lookup key) ∧
    ((∀ n, m.Predefines current options n → n ∉ (r.find id).schema.names) →
      (∀ p ∈ (r.find id).members, ¬ IsMemberOf (m.Predefines current options) p.1) → r' = r) := by
  refine ⟨fun i hi => ?_, ?_, fun hnames hmembers => ?_⟩
  · exact find_of_setModel_eq_error h hi
  · exact members_of_setModel_eq_error h
  · exact eq_of_setModel_eq_error h hnames hmembers

/-- A search class with one attribute, which stores one more than it is given. -/
def counting : Registry :=
  after (accessor 1 [.text "a"] [("store_as", .conversion Value.increment)] none)
    (after (subclass {} "S" root [] none []) {})

/-- A model that predefines an attribute, and one more that no search can have. -/
def rejected (name : String) : Model :=
  .custom "Rejected" { automatic := fun _ => .ok [{ name }, { name := "ignore" }] }

/-- What is predefined, if a name is rejected, is this name and the one in front of it. -/
theorem rejected_predefines {name n : String} {options : Options}
    (h : (rejected name).Predefines {} options n) : n = name ∨ n = "ignore" := by
  obtain ⟨bridge, hbridge, bs, hbs, b, hb, b', hrewrite, rfl⟩ := h
  cases hbridge
  cases hbs
  cases hrewrite
  rcases List.mem_pair.mp hb with rfl | rfl
  · exact Or.inl rfl
  · exact Or.inr rfl

/-- An attribute that the class does not have is gone when the binding has failed. -/
theorem setModel_error_new :
    setModel {} 1 (rejected "b") [] counting =
        .error (.invalidAttributeName "ignore") (after (setModel {} 1 (rejected "b") []) counting) ∧
      after (setModel {} 1 (rejected "b") []) counting = counting := by
  have hfail : setModel {} 1 (rejected "b") [] counting =
      .error (.invalidAttributeName "ignore") (after (setModel {} 1 (rejected "b") []) counting) := rfl
  have hnames : (counting.find 1).schema.names = ["a"] := rfl
  have hmembers : (counting.find 1).members = [("a", .attribute (some Value.increment))] := rfl
  refine ⟨hfail, (setModel_error hfail).2.2 (fun n hn => ?_) fun p hp ⟨n, hn, hkey⟩ => ?_⟩
  · rw [hnames]
    rcases rejected_predefines hn with rfl | rfl <;> decide
  · rw [hmembers, List.mem_singleton] at hp
    subst hp
    rcases rejected_predefines hn with rfl | rfl <;> exact absurd hkey (by decide)

/-- What is stored for one, when the class has been bound to a model that predefines nothing. -/
def storedForOne (r : Registry) : List (String × Value) :=
  let bound := after (setModel {} 1 (.custom "Plain" {}) []) r
  (after (Search.make (bound.view 1) (.dict []) [("a", .int 1)]) {}).values

/-- An attribute that the class has loses its conversion to a binding that fails. -/
theorem setModel_error_redeclared :
    ∃ e r', setModel {} 1 (rejected "a") [] counting = .error e r' ∧
      storedForOne counting = [("a", .int 2)] ∧ storedForOne r' = [("a", .int 1)] := by
  refine ⟨.invalidAttributeName "ignore", _, rfl, ?_, ?_⟩
  · rfl
  · rfl

end Registry

end SearchQuery
