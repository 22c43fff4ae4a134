import SearchQuery.Proofs.Search.LastWrite

/-!
# Classes with one attribute more

A class that is given one attribute more sees what it saw before under all names but two: that of the
attribute and that of its contribution (`ClassView.Extends`). So code that avoids the two does the same in a
search of either class (`Hook.Avoids`), and so do the operations of the search on its other attributes.

## Shape of a comparison

Two searches are alike but for the attribute if they tell the same under all names that the declaration
leaves alone (`AlikeBut`). This is a relation that what code may do which avoids the attribute keeps
(`Alongside.simulation`): it takes searches that are alike but for the attribute to such searches, with the
same result or the same failure. The classes differ in what both computations look up.
-/

namespace SearchQuery

/-! ## Declarations that leave names alone -/

/-- The same failure, up to the name of the class that it tells. -/
inductive Failure.SameIn (n n' : String) : Failure → Failure → Prop
  | refl (e : Failure) : SameIn n n' e e
  | unknownAttributes (names : List String) :
    SameIn n n' (.unknownAttributes n names) (.unknownAttributes n' names)
  | modelAlreadySet (m : Value) : SameIn n n' (.modelAlreadySet n m) (.modelAlreadySet n' m)
  | modelNotSet : SameIn n n' (.modelNotSet n) (.modelNotSet n')

/-- Failures of one class are the same in it if they are equal. -/
theorem Failure.SameIn.eq {n : String} {e e' : Failure} (h : SameIn n n e e') : e = e' := by
  cases h <;> rfl

/-- The declaration gives no member of the name. -/
def Builder.LeavesAlone (b : Builder) (key : String) : Prop :=
  key ≠ b.name ∧ (key = contributionName b.name → b.block = none)

/-- A name that is neither of the two is left alone. -/
theorem Builder.LeavesAlone.of_ne {b : Builder} {key : String} (hname : key ≠ b.name)
    (hcontribution : key ≠ contributionName b.name) : b.LeavesAlone key :=
  ⟨hname, fun h => absurd h hcontribution⟩

/-- Under such a name the declaration gives nothing. -/
theorem Builder.LeavesAlone.member?_eq_none {b : Builder} {key : String} (h : b.LeavesAlone key) :
    (ChainEvent.declared b).member? key = none := by
  rw [ChainEvent.member?, if_neg h.1]
  split
  next hkey => rw [h.2 hkey]; rfl
  next => rfl

/-- No declaration that is accepted touches what every search has. -/
theorem Builder.IsStrict.leavesAlone {b : Builder} (hb : b.IsStrict) {key : String}
    (hkey : key ∈ reservedNames) : b.LeavesAlone key := by
  refine .of_ne ?_ ?_
  · rintro rfl
    exact hb.not_reserved hkey
  · rintro rfl
    exact contributionName_not_reserved _ hkey

/-- The second class is the first one with one attribute more. -/
structure ClassView.Extends (c : ClassView) (b : Builder) (c' : ClassView) : Prop
    extends c.Gains [b] c' where
  strict : b.IsStrict
  model : c'.schema.model = c.schema.model
  bridge : c'.schema.bridge = c.schema.bridge
  callbacks : c'.schema.callbacks = c.schema.callbacks

namespace ClassView.Extends

variable {c c' : ClassView} {b : Builder}

theorem member?_eq (h : c.Extends b c') {key : String} (hkey : b.LeavesAlone key) :
    c'.member? key = c.member? key := by
  rw [h.member, List.map_singleton, lastMember_singleton, hkey.member?_eq_none, Option.none_or]

theorem member?_reserved (h : c.Extends b c') {key : String} (hkey : key ∈ reservedNames) :
    c'.member? key = c.member? key :=
  h.member?_eq (h.strict.leavesAlone hkey)

/-- The attribute itself is found. -/
theorem member?_name (h : c.Extends b c') : c'.member? b.name = some (.attribute b.conversion) := by
  rw [h.member, List.map_singleton, lastMember_singleton, ChainEvent.member?, if_pos rfl]
  rfl

/-- Its contribution is found, if it has one. -/
theorem member?_contributionName (h : c.Extends b c') {block : Hook} (hblock : b.block = some block) :
    c'.member? (contributionName b.name) = some (.contribution b.name block) := by
  rw [h.member, List.map_singleton, lastMember_singleton, ChainEvent.member?,
    if_neg (contributionName_ne b.name), if_pos rfl, hblock]
  rfl

theorem names_eq (h : c.Extends b c') : c'.schema.names = c.schema.names ++ [b.name] := h.names

/-- Other attributes keep their defaults. -/
theorem defaults_eq (h : c.Extends b c') {name : String} (hname : name ≠ b.name) :
    c'.schema.defaults.lookup name = c.schema.defaults.lookup name := by
  rw [h.defaults]
  simp [lastDeclaration, declarations, ChainEvent.builder?, hname.symm]

/-- It has its own default. -/
theorem defaults_name (h : c.Extends b c') : c'.schema.defaults.lookup b.name = some b.default := by
  rw [h.defaults]
  simp [lastDeclaration, declarations, ChainEvent.builder?]

end ClassView.Extends

/-- An attribute is declared if it has a default. -/
theorem Schema.declares_eq_isSome (s : Schema) (name : String) :
    s.declares name = (s.defaults.lookup name).isSome := by
  rw [Schema.declares]
  induction s.defaults with
  | nil => rfl
  | cons e defaults ih =>
    rw [List.any_cons, List.lookup_cons, ih]
    by_cases he : name = e.1
    · rw [he]
      simp
    · rw [beq_false_of_ne he, beq_false_of_ne (Ne.symm he)]
      rfl

namespace ClassView.Extends

variable {c c' : ClassView} {b : Builder} (h : c.Extends b c')

include h

theorem declares_eq {name : String} (hname : name ≠ b.name) :
    c'.schema.declares name = c.schema.declares name := by
  rw [Schema.declares_eq_isSome, Schema.declares_eq_isSome, h.defaults_eq hname]

/-- The attribute itself is declared. -/
theorem declares_name : c'.schema.declares b.name = true := by
  rw [Schema.declares_eq_isSome, h.defaults_name]
  rfl

theorem declares_eq_of_mem (hc : c.schema.IsListed) {name : String} (hname : name ∈ c.schema.names) :
    c'.schema.declares name = c.schema.declares name := by
  by_cases hne : name = b.name
  · subst hne
    rw [h.declares_name, (hc b.name).mpr hname]
  · exact h.declares_eq hne

/-- The new attribute comes last, unless it was declared before. -/
theorem uniqueNames_eq : c'.schema.uniqueNames =
    if b.name ∈ c.schema.names then c.schema.uniqueNames else c.schema.uniqueNames ++ [b.name] := by
  rw [Schema.uniqueNames, h.names_eq, List.eraseDups_append]
  split
  next hname =>
    have hnone : [b.name].removeAll c.schema.names = [] := by
      simp [List.removeAll, hname]
    rw [hnone, List.eraseDups_nil, List.append_nil]
    rfl
  next hname =>
    have hone : [b.name].removeAll c.schema.names = [b.name] := by
      simp [List.removeAll, hname]
    rw [hone]
    rfl

end ClassView.Extends

/-! ## Code that avoids an attribute -/

/-- The operations by which a search asks its attributes. -/
def askingOperations : List String := ["ignored", "find_options_for"]

/-- What code may do that avoids the attribute: it neither reads, assigns nor calls what the declaration
gives, and does not ask for all attributes. If it avoids the attribute `wholly`, it does not ignore all
attributes at once either, and hides none of the operations by which the attribute is asked. -/
def Permit.avoiding (b : Builder) (wholly : Prop) : Permit where
  reads name := b.LeavesAlone name ∧ name ≠ "attributes"
  writes name _ := b.LeavesAlone name ∧ (wholly → name ∉ askingOperations)
  asks name := name ≠ b.name
  calls key := b.LeavesAlone key
  ignoresAll := ¬ wholly
  labels := True
  whole := False

/-- The code avoids the attribute, whatever it is answered. -/
def Hook.Avoids (b : Builder) (wholly : Prop) (hook : Hook) : Prop :=
  hook.Obeys (.avoiding b wholly)

/-- The code of a member that can be called. -/
def Member.code? : Member → Option Hook
  | .attribute _ => none
  | .contribution _ block => some block
  | .method hook => some hook

/-- What declarations keep of every class: the attributes that have a default are those that are listed,
none is named like what every search has, and each contribution stands under its own name. -/
structure ClassView.IsOrderly (c : ClassView) : Prop where
  listed : c.schema.IsListed
  unreserved : ∀ name ∈ c.schema.names, name ∉ reservedNames
  contributions : ∀ key name block, c.member? key = some (.contribution name block) →
    key = contributionName name

/-- A member whose code avoids the attribute does not ask for it. -/
theorem ClassView.IsOrderly.obeys {c : ClassView} (hc : c.IsOrderly) {b : Builder} {wholly : Prop}
    {key : String}
    (hkey : key ≠ contributionName b.name) {m : Member} (hm : c.member? key = some m)
    (hcode : ∀ hook ∈ m.code?, hook.Avoids b wholly) : m.Obeys (.avoiding b wholly) := by
  rcases m with f | ⟨name, block⟩ | hook
  · trivial
  · refine ⟨?_, hcode block rfl⟩
    rintro rfl
    exact hkey (hc.contributions key _ block hm)
  · exact hcode hook rfl

/-! ## What declarations keep -/

section Members

variable {P : String → Member → Prop}
  (hdeclared : ∀ b : Builder, b.IsStrict → ∀ key m, (ChainEvent.declared b).member? key = some m → P key m)

include hdeclared

theorem SearchClass.forall_members_withAttributes {c : SearchClass} {bs : List Builder}
    (hbs : ∀ b ∈ bs, b.IsStrict) (hc : ∀ e ∈ c.members, P e.1 e.2) :
    ∀ e ∈ (c.withAttributes bs).members, P e.1 e.2 := by
  induction bs generalizing c with
  | nil => exact hc
  | cons b bs ih =>
    rw [List.forall_mem_cons] at hbs
    refine ih hbs.2 fun e he => ?_
    have hattribute : ∀ e ∈ putEntry c.members b.name (.attribute b.conversion), P e.1 e.2 := by
      intro e he
      rcases mem_putEntry he with he | rfl
      · exact hc e he
      · exact hdeclared b hbs.1 _ _ (if_pos rfl)
    cases hblock : b.block with
    | none =>
      simp only [SearchClass.withAttribute, hblock] at he
      exact hattribute e he
    | some block =>
      simp only [SearchClass.withAttribute, hblock] at he
      rcases mem_putEntry he with he | rfl
      · exact hattribute e he
      · refine hdeclared b hbs.1 _ _ ?_
        rw [ChainEvent.member?, if_neg (contributionName_ne b.name), if_pos rfl, hblock]
        rfl

/-- What holds of all members that declarations give is kept by every change of a class. -/
theorem ClassOperation.Changes.forall_members {c c' : SearchClass} {op : ClassOperation}
    (h : Changes c op c') (hc : ∀ e ∈ c.members, P e.1 e.2) : ∀ e ∈ c'.members, P e.1 e.2 := by
  cases h with
  | declared _ hstrict => exact SearchClass.forall_members_withAttributes hdeclared hstrict hc
  | @added _ b hstrict =>
    have hall : ∀ b' ∈ [b], b'.IsStrict := List.forall_mem_singleton.mpr hstrict
    exact SearchClass.forall_members_withAttributes hdeclared hall hc
  | callbacks => exact hc
  | bound _ _ _ hstrict =>
    exact SearchClass.forall_members_withAttributes (c := c.bound _ _) hdeclared hstrict hc
  | restored _ _ _ hstrict =>
    intro e he
    exact SearchClass.forall_members_withAttributes (c := c.bound _ _) hdeclared hstrict hc e
      (List.mem_filter.mp he).1

/-- What holds of all members that declarations give holds in every class that operations make. -/
theorem Registry.Runs.forall_members (hmethod : ∀ key hook, P key (.method hook)) {r : Registry}
    {ops : List ClassOperation} (h : Registry.Runs {} ops r) (i : Nat) :
    ∀ e ∈ (r.find i).members, P e.1 e.2 := by
  refine h.forall_find (I := fun c => ∀ e ∈ c.members, P e.1 e.2)
    (fun _ _ _ hchange hc => hchange.forall_members hdeclared hc) (fun p parent name methods _ e he => ?_)
    (fun e he => by cases he) i
  obtain ⟨m, -, rfl⟩ := List.mem_map.mp he
  exact hmethod _ _

end Members

/-- Every class that operations make is orderly. -/
theorem Registry.Runs.isOrderly {r : Registry} {ops : List ClassOperation} (h : Registry.Runs {} ops r)
    (id : Nat) : (r.view id).IsOrderly where
  listed := h.isListed id
  unreserved := h.not_reserved id
  contributions key name block hm := by
    obtain ⟨i, -, hi⟩ := mem_of_member? hm
    refine h.forall_members (P := fun key m => ∀ name block, m = .contribution name block →
        key = contributionName name) (fun b _ key m hgiven name block hm => ?_)
      (fun _ _ _ _ hm => by cases hm) i _ hi name block rfl
    rw [hm] at hgiven
    exact ChainEvent.contribution_name hgiven

/-- A class that an attribute is declared on is extended by it. -/
theorem Registry.extends_of_addAttribute {r r' : Registry} (hr : r.IsTree) {id : Nat}
    (hid : id < r.classes.length) {b : Builder} (h : addAttribute id b r = .ok () r') :
    (r.view id).Extends b (r'.view id) := by
  obtain ⟨hstrict, hadd⟩ | ⟨e, hadd⟩ := addAttribute_cases id b r
  · rw [hadd, update_eq] at h
    cases h
    have hself := find_update_self hid fun _ => (r.find id).withAttribute b
    have hadds := SearchClass.Adds.withAttributes (r.find id) (List.forall_mem_singleton.mpr hstrict)
    refine { hadds.gains hr hid with strict := hstrict, model := ?_, bridge := ?_, callbacks := ?_ }
    · exact congrArg (·.schema.model) hself
    · exact congrArg (·.schema.bridge) hself
    · exact congrArg (·.schema.callbacks) hself
  · rw [hadd] at h
    cases h

/-! ## Searches that are alike but for an attribute -/

namespace Search

/-- The search holds a value for the attribute that is not ignored, and hides nothing by which it is
asked. -/
structure Offers (b : Builder) (t : Search) : Prop where
  value : ∃ v, t.values.lookup b.name = some v ∧ v.isIgnored = false
  extras : ∀ key, key ∈ askingOperations ∨ ¬ b.LeavesAlone key → t.extras.lookup key = none

/-- Both searches tell the same under the names that the declaration leaves alone. Where the code avoids
the attribute `wholly`, the second one goes on to offer it. -/
structure AlikeBut (b : Builder) (wholly : Prop) (s t : Search) : Prop where
  values : ∀ name, name ≠ b.name → s.values.lookup name = t.values.lookup name
  extras : ∀ name, b.LeavesAlone name → s.extras.lookup name = t.extras.lookup name
  journal : s.journal = t.journal
  labels : s.labels = t.labels
  offers : wholly → Offers b t

/-- Run on searches that are alike but for the attribute, the computations do the same, up to the names of the
classes in their failures. -/
abbrev Alongside (b : Builder) (wholly : Prop) (n n' : String) {α : Type} (act act' : Searching α) : Prop :=
  Relates (AlikeBut b wholly) (Failure.SameIn n n') act act'

namespace AlikeBut

variable {b : Builder} {wholly : Prop} {s t : Search}

/-- A search is like itself. -/
theorem refl (b : Builder) (s : Search) : AlikeBut b False s s :=
  ⟨fun _ _ => rfl, fun _ _ => rfl, rfl, rfl, False.elim⟩

/-- A value that is stored in both searches leaves them alike. -/
theorem putValue (h : AlikeBut b wholly s t) {name : String} (hname : wholly → name ≠ b.name) (v : Value) :
    AlikeBut b wholly { s with values := putEntry s.values name v }
      { t with values := putEntry t.values name v } := by
  refine ⟨fun key hkey => ?_, h.extras, h.journal, h.labels, fun hwholly => ?_⟩
  · by_cases heq : key = name
    · rw [heq, lookup_putEntry, lookup_putEntry]
    · rw [lookup_putEntry_ne _ _ heq, lookup_putEntry_ne _ _ heq]
      exact h.values key hkey
  · refine ⟨?_, (h.offers hwholly).extras⟩
    rw [lookup_putEntry_ne _ _ (hname hwholly).symm]
    exact (h.offers hwholly).value

/-- So does a value that is kept under another name. -/
theorem putExtra (h : AlikeBut b wholly s t) {name : String}
    (hname : b.LeavesAlone name ∧ (wholly → name ∉ askingOperations)) (v : Value) :
    AlikeBut b wholly { s with extras := putEntry s.extras name v }
      { t with extras := putEntry t.extras name v } := by
  refine ⟨h.values, fun key hkey => ?_, h.journal, h.labels, fun hwholly => ?_⟩
  · by_cases heq : key = name
    · rw [heq, lookup_putEntry, lookup_putEntry]
    · rw [lookup_putEntry_ne _ _ heq, lookup_putEntry_ne _ _ heq]
      exact h.extras key hkey
  · refine ⟨(h.offers hwholly).value, fun key hkey => ?_⟩
    rw [lookup_putEntry_ne _ _ (by rintro rfl; exact hkey.elim (hname.2 hwholly) (· hname.1))]
    exact (h.offers hwholly).extras key hkey

/-- What the second search holds for the attribute itself does not count. -/
theorem putOwn_right (h : AlikeBut b wholly s t) (hwholly : ¬ wholly) (v : Value) :
    AlikeBut b wholly s { t with values := putEntry t.values b.name v } := by
  refine ⟨fun key hkey => ?_, h.extras, h.journal, h.labels, (absurd · hwholly)⟩
  rw [lookup_putEntry_ne _ _ hkey]
  exact h.values key hkey

/-- Both searches may store what they like for the attribute itself. -/
theorem putOwn (h : AlikeBut b False s t) (v v' : Value) :
    AlikeBut b False { s with values := putEntry s.values b.name v }
      { t with values := putEntry t.values b.name v' } := by
  refine ⟨fun key hkey => ?_, h.extras, h.journal, h.labels, False.elim⟩
  rw [lookup_putEntry_ne _ _ hkey, lookup_putEntry_ne _ _ hkey]
  exact h.values key hkey

/-- Labels are counted together. -/
theorem setLabels (h : AlikeBut b wholly s t) (labels : Nat) :
    AlikeBut b wholly { s with labels } { t with labels } :=
  ⟨h.values, h.extras, h.journal, rfl, fun hwholly => ⟨(h.offers hwholly).value, (h.offers hwholly).extras⟩⟩

/-- Lines are noted together. -/
theorem setJournal (h : AlikeBut b wholly s t) (journal : List String) :
    AlikeBut b wholly { s with journal } { t with journal } :=
  ⟨h.values, h.extras, rfl, h.labels, fun hwholly => ⟨(h.offers hwholly).value, (h.offers hwholly).extras⟩⟩

end AlikeBut

/-! ## Operations on other attributes -/

/-- Nothing but the attribute is called differently. -/
theorem AlikeBut.callee?_eq {b : Builder} {wholly : Prop} {s t : Search} (hst : AlikeBut b wholly s t)
    {c c' : ClassView}
    (h : c.Extends b c') {key : String} (hkey : b.LeavesAlone key) : callee? c s key = callee? c' t key := by
  unfold callee?
  rw [h.member?_eq hkey, hst.values key hkey.1, hst.extras key hkey]

namespace Alongside

variable {c c' : ClassView} {b : Builder} {wholly : Prop} (h : c.Extends b c')

theorem lift {α : Type} (n n' : String) (x : Except Failure α) :
    Alongside b wholly n n' (Search.lift x) (Search.lift x) := by
  intro s t hst
  cases x with
  | ok a => exact .ok hst
  | error e => exact .error (.refl e) hst

/-- Both searches count labels from the same one. -/
theorem freshLabel (n n' : String) : Alongside b wholly n n' freshLabel freshLabel := by
  intro s t hst
  change Matches _ _ (.ok (s.labels + 1) _) (.ok (t.labels + 1) _)
  rw [hst.labels]
  exact .ok (hst.setLabels _)

include h

theorem ownOnly {operation : String} (hoperation : operation ∈ reservedNames) :
    Alongside b wholly c.name c'.name (ownOnly c operation) (ownOnly c' operation) :=
  Relates.ownOnly (fun _ _ hst => hst.callee?_eq h (h.strict.leavesAlone hoperation)) .refl

/-- Other attributes are read alike. -/
theorem read {name : String} (hname : (Permit.avoiding b wholly).reads name) :
    Alongside b wholly c.name c'.name (read c name) (read c' name) := by
  have hone : (name == "attributes") = false := beq_false_of_ne hname.2
  unfold Search.read
  rw [hone]
  refine .get_bind fun s t hst => ?_
  rw [hst.callee?_eq h hname.1, h.member?_eq hname.1]
  split
  · exact .pure _
  · exact .pure _
  · exact .ite (.pure _) (.throw (.refl _))

/-- Every attribute may be ignored that both classes declare, but the attribute itself where it is avoided
altogether. -/
theorem ignore {name : String} (hname : c'.schema.declares name = c.schema.declares name)
    (hother : wholly → name ≠ b.name) :
    Alongside b wholly c.name c'.name (ignore c name) (ignore c' name) := by
  refine (ownOnly h (by decide)).bind fun _ => .bind (.checkNames ?_ .unknownAttributes) fun _ => ?_
  · rw [List.forall_mem_singleton]
    exact hname
  · exact .modify fun s t hst => hst.putValue hother .ignored

/-- What is assigned to other names is stored alike. -/
theorem assign {name : String} {v : Value} (hname : (Permit.avoiding b wholly).writes name v) :
    Alongside b wholly c.name c'.name (assign c name v) (assign c' name v) := by
  have hhides : hidesAttributes c' = hidesAttributes c := by
    rw [hidesAttributes, hidesAttributes, h.member?_reserved (by decide)]
  unfold Search.assign
  rw [h.member?_eq hname.1, hhides]
  split
  next conversion _ =>
    refine (lift _ _ _).bind fun w => (freshLabel _ _).bind fun label => ?_
    exact .modify fun s t hst => hst.putValue (fun _ => hname.1.1) _
  next => exact .ite (.throw (.refl _)) (.modify fun s t hst => hst.putExtra hname v)

theorem assignAll {entries : List (String × Value)} (hentries : ∀ e ∈ entries, b.LeavesAlone e.1) :
    Alongside b False c.name c'.name (assignAll c entries) (assignAll c' entries) :=
  Relates.assignAll fun e he => assign h ⟨hentries e he, False.elim⟩

end Alongside

/-- Attributes are ignored one after the other. -/
theorem ignoreEach_append (c : ClassView) (names names' : List String) :
    ignoreEach c (names ++ names') = ignoreEach c names >>= fun _ => ignoreEach c names' := by
  induction names with
  | nil => rfl
  | cons name names ih => rw [List.cons_append, ignoreEach, ignoreEach, ih, bind_assoc]

/-- To ignore an attribute marks it, where nothing hides the operation. -/
theorem ignore_eq_ok {c : ClassView} {name : String} {s s' : Search} (h : ignore c name s = .ok () s') :
    callee? c s "ignore" = none ∧ s' = { s with values := putEntry s.values name .ignored } := by
  obtain ⟨_, s₁, hown, hrest⟩ := estate_bind_eq_ok.mp h
  obtain ⟨hnone, rfl⟩ := ownOnly_eq_ok_iff.mp hown
  obtain ⟨_, s₂, hcheck, hmodify⟩ := estate_bind_eq_ok.mp hrest
  obtain ⟨-, rfl⟩ := checkNames_eq_ok_iff.mp hcheck
  cases hmodify
  exact ⟨hnone, rfl⟩

/-- Once attributes have been ignored, nothing hides the operation that did so. -/
theorem callee?_of_ignoreEach {c : ClassView} {names : List String} (hne : names ≠ [])
    (hnames : ∀ name ∈ names, name ∉ reservedNames) {s s' : Search}
    (h : ignoreEach c names s = .ok () s') : callee? c s' "ignore" = none := by
  induction names generalizing s with
  | nil => exact absurd rfl hne
  | cons name names ih =>
    rw [List.forall_mem_cons] at hnames
    obtain ⟨_, s₁, hfirst, hrest⟩ := estate_bind_eq_ok.mp h
    obtain ⟨hnone, rfl⟩ := ignore_eq_ok hfirst
    cases names with
    | nil =>
      cases hrest
      have hother : "ignore" ≠ name := by
        rintro rfl
        exact hnames.1 (by decide)
      unfold callee? at hnone ⊢
      rw [lookup_putEntry_ne _ _ hother]
      exact hnone
    | cons other names => exact ih (by simp) hnames.2 hrest

namespace Alongside

variable {c c' : ClassView} {b : Builder} {wholly : Prop} (h : c.Extends b c')

include h

/-- All attributes of the second class are those of the first one and the new one, which can be ignored
where any other one can. -/
theorem ignoreAll (hc : c.IsOrderly) (hne : c.schema.names ≠ []) (hwholly : ¬ wholly) :
    Alongside b wholly c.name c'.name (ignoreAll c) (ignoreAll c') := by
  refine (ownOnly h (by decide)).bind fun _ s t hst => ?_
  have hdeclares : ∀ name ∈ c.schema.names, c'.schema.declares name = c.schema.declares name := fun _ =>
    h.declares_eq_of_mem hc.listed
  have heach :=
    Relates.ignoreEach (fun name hname => ignore h (hdeclares name hname) (absurd · hwholly)) s t hst
  rw [h.names_eq, ignoreEach_append, estate_bind_eq]
  cases hrun : Search.ignoreEach c c.schema.names s with
  | error e s₁ =>
    rw [hrun] at heach
    generalize Search.ignoreEach c' c.schema.names t = y at heach ⊢
    cases heach with
    | error he hst => exact .error he hst
  -- The one class has ignored all its attributes, and the other one has the new attribute left.
  | ok u s₁ =>
    have hnone := callee?_of_ignoreEach hne hc.unreserved hrun
    rw [hrun] at heach
    generalize Search.ignoreEach c' c.schema.names t = y at heach ⊢
    cases heach with
    | @ok _ _ t₁ hst =>
      rw [hst.callee?_eq h (h.strict.leavesAlone (by decide))] at hnone
      have hignore : Search.ignore c' b.name t₁ =
          .ok () { t₁ with values := putEntry t₁.values b.name .ignored } := by
        rw [Search.ignore, estate_bind_eq, ownOnly_eq_ok_iff.mpr ⟨hnone, rfl⟩]
        dsimp only
        rw [estate_bind_eq, checkNames_eq_ok_iff.mpr ⟨h.declares_name, rfl⟩]
        rfl
      change Matches _ _ _ ((Search.ignore c' b.name >>= fun _ => Pure.pure ()) t₁)
      rw [estate_bind_eq, hignore]
      exact .ok (hst.putOwn_right hwholly _)

/-- **Code that avoids the attribute** does the same in a search of either class. -/
theorem simulation (hc : c.IsOrderly) (hnames : ¬ wholly → c.schema.names ≠ []) :
    Simulation (.avoiding b wholly) c c' (AlikeBut b wholly) (Failure.SameIn c.name c'.name) where
  refl := .refl
  missing he := by cases he <;> rfl
  unknown := .unknownAttributes
  bound := .modelAlreadySet
  model := h.model
  listed := False.elim
  reserved _ := h.strict.leavesAlone
  callee hst := hst.callee?_eq h
  member := h.member?_eq
  declares := h.declares_eq
  stored hst := hst.values _
  read := read h
  all := False.elim
  assign := assign h
  marked hst hname := hst.putValue (fun _ => hname) .ignored
  ignoreAll hwholly := ignoreAll h hc (hnames hwholly) hwholly
  noted line hst := by
    rw [hst.journal]
    exact hst.setJournal _
  label _ := freshLabel _ _

end Alongside

/-! ## Searches as they are made -/

/-- The same answer, or the same failure up to the name of the class. -/
inductive SameAnswer (n n' : String) {α : Type} : Except Failure α → Except Failure α → Prop
  | ok (a : α) : SameAnswer n n' (.ok a) (.ok a)
  | error {e e' : Failure} : Failure.SameIn n n' e e' → SameAnswer n n' (.error e) (.error e')

theorem SameAnswer.refl (n n' : String) {α : Type} (x : Except Failure α) : SameAnswer n n' x x := by
  cases x with
  | ok a => exact .ok a
  | error e => exact .error (.refl e)

/-- What is done with the same answer gives the same answer. -/
theorem SameAnswer.bind {n n' : String} {α β : Type} {x x' : Except Failure α} (h : SameAnswer n n' x x')
    (f : α → Except Failure β) : SameAnswer n n' (x >>= f) (x' >>= f) := by
  cases h with
  | ok a => exact .refl n n' (f a)
  | error he => exact .error he

/-- The same result and searches that are alike but for the attribute, or the same failure up to the name of
the class, whatever it leaves. -/
inductive AgreeBut (b : Builder) (wholly : Prop) (n n' : String) {α : Type} :
    EStateM.Result Failure Search α → EStateM.Result Failure Search α → Prop
  | ok {a : α} {s t : Search} : AlikeBut b wholly s t → AgreeBut b wholly n n' (.ok a s) (.ok a t)
  | error {e e' : Failure} {s t : Search} : Failure.SameIn n n' e e' →
    AgreeBut b wholly n n' (.error e s) (.error e' t)

/-- Computations that do the same agree. -/
theorem Relates.agreeBut {b : Builder} {wholly : Prop} {n n' : String} {α : Type} {act act' : Searching α}
    (h : Alongside b wholly n n' act act') {s t : Search} (hst : AlikeBut b wholly s t) :
    AgreeBut b wholly n n' (act s) (act' t) := by
  have hact := h s t hst
  generalize act s = x at hact ⊢
  generalize act' t = y at hact ⊢
  cases hact with
  | ok hst => exact .ok hst
  | error he _ => exact .error he

/-- Computations of one class that do the same answer the same. -/
theorem Relates.answer_eq {R : Search → Search → Prop} {n : String} {α : Type} {act act' : Searching α}
    (h : Relates R (Failure.SameIn n n) act act') {s t : Search} (hst : R s t) :
    answer act s = answer act' t := by
  have hact := h s t hst
  rw [answer, answer]
  generalize act s = x at hact ⊢
  generalize act' t = y at hact ⊢
  cases hact with
  | ok _ => rfl
  | error he _ => rw [he.eq]

/-- Computations that agree answer the same if what follows them does on searches that are alike. -/
theorem AgreeBut.sameAnswer_bind {b : Builder} {wholly : Prop} {n n' : String} {α β : Type}
    {act act' : Searching α} {f f' : α → Searching β} {s t : Search}
    (h : AgreeBut b wholly n n' (act s) (act' t))
    (hf : ∀ a s₁ t₁, act s = .ok a s₁ → AlikeBut b wholly s₁ t₁ →
      SameAnswer n n' (answer (f a) s₁) (answer (f' a) t₁)) :
    SameAnswer n n' (answer (act >>= f) s) (answer (act' >>= f') t) := by
  rw [answer, answer, estate_bind_eq, estate_bind_eq]
  generalize act s = x at h hf ⊢
  generalize act' t = y at h ⊢
  cases h with
  | ok hst => exact hf _ _ _ rfl hst
  | error he => exact .error he

/-- Values are assigned one after the other. -/
theorem assignAll_append (c : ClassView) (es fs : List (String × Value)) :
    assignAll c (es ++ fs) = assignAll c es >>= fun _ => assignAll c fs := by
  induction es with
  | nil => rfl
  | cons e es ih => rw [List.cons_append, assignAll, assignAll, ih, bind_assoc]

section Making

variable {c c' : ClassView} {b : Builder} (h : c.Extends b c')

include h

/-- The attribute itself takes one label in either class, whatever it stores. -/
theorem AlikeBut.assign_own {conversion : Option Conversion}
    (hmember : c.member? b.name = some (.attribute conversion))
    {v v' : Value} {s t s' t' : Search} (hst : AlikeBut b False s t) (hs : assign c b.name v s = .ok () s')
    (ht : assign c' b.name v' t = .ok () t') : AlikeBut b False s' t' := by
  obtain ⟨w, -, rfl⟩ := (assign_attribute_eq_ok_iff hmember).mp hs
  obtain ⟨w', -, rfl⟩ := (assign_attribute_eq_ok_iff h.member?_name).mp ht
  rw [withValue, withValue, hst.labels]
  exact (hst.putOwn _ _).setLabels _

/-- Attributes that are given the same values but for the new one are alike but for it. -/
theorem AlikeBut.assignAll {names : List String} {f f' : String → Value}
    (hf : ∀ name ∈ names, name ≠ b.name → f name = f' name)
    (hnames : ∀ name ∈ names, name ≠ b.name → b.LeavesAlone name)
    (hshown : b.name ∈ names → ∃ conversion, c.member? b.name = some (.attribute conversion))
    {s t s' t' : Search} (hst : AlikeBut b False s t)
    (hs : assignAll c (names.map fun name => (name, f name)) s = .ok () s')
    (ht : Search.assignAll c' (names.map fun name => (name, f' name)) t = .ok () t') :
    AlikeBut b False s' t' := by
  induction names generalizing s t with
  | nil =>
    cases hs
    cases ht
    exact hst
  | cons name names ih =>
    rw [List.forall_mem_cons] at hf hnames
    obtain ⟨_, s₁, hfirst, hrest⟩ := estate_bind_eq_ok.mp hs
    obtain ⟨_, t₁, hfirst', hrest'⟩ := estate_bind_eq_ok.mp ht
    refine ih hf.2 hnames.2 (fun hmem => hshown (List.mem_cons_of_mem _ hmem)) ?_ hrest hrest'
    by_cases hname : name = b.name
    · subst hname
      obtain ⟨conversion, hmember⟩ := hshown List.mem_cons_self
      exact AlikeBut.assign_own h hmember hst hfirst hfirst'
    · have hwrites : (Permit.avoiding b False).writes name (f name) := ⟨hnames.1 hname, False.elim⟩
      have hagree := Alongside.assign h hwrites s t hst
      rw [hfirst, hf.1 hname, hfirst'] at hagree
      cases hagree with
      | ok hst => exact hst

/-- An attribute of another name starts with the same value. -/
theorem initial_eq {supplied supplied' : List (String × Value)} {name : String} (hname : name ≠ b.name)
    (hagree : supplied.lookup name = supplied'.lookup name) :
    initial c supplied name = initial c' supplied' name := by
  rw [initial, initial, hagree, h.defaults_eq hname]

/-- A search of the second class is given what one of the first class is, and then the new attribute. -/
theorem entries_eq (hnew : b.name ∉ c.schema.names) {supplied supplied' : List (String × Value)}
    (hagree : ∀ name, name ≠ b.name → supplied.lookup name = supplied'.lookup name) :
    (c'.schema.uniqueNames.map fun name => (name, initial c' supplied' name)) =
      (c.schema.uniqueNames.map fun name => (name, initial c supplied name)) ++
        [(b.name, initial c' supplied' b.name)] := by
  rw [h.uniqueNames_eq, if_neg hnew, List.map_append]
  congr 1
  refine List.map_congr_left fun name hname => ?_
  have hne : name ≠ b.name := by
    rintro rfl
    exact hnew (List.mem_eraseDups.mp hname)
  rw [initial_eq h hne (hagree name hne)]

end Making

end Search

end SearchQuery
