import SearchQuery.Proofs.Search.Change
import SearchQuery.Search.Composition

/-!
# Searches beside one another

Code of one class, or of two classes, is run on two searches beside one another. If the searches are related
before, and the code does nothing that it is not permitted to do (`Permit`), the results are the same and the
searches are related after, or both runs fail alike. This is so for every relation that a few basic operations
keep (`Simulation`): all that a search does when it composes options is made of these.

## Shape of the argument

`Relates` is what is shown of two computations. It follows a computation part by part (`Relates.bind`), so
there is one lemma for each operation, and one case for each kind of code. Three relations are of interest:
that a search has a property, that two searches hold the same values, and that they hold the same values but
for one attribute. Each of them is shown to be a simulation in a module of its own.
-/

namespace SearchQuery

/-! ## What code may do -/

/-- What code may do with a search: the names that it may read, the values that it may assign to names, the
attributes that it may ask about, and the names that it may call; and whether it may ignore all attributes at
once, make NaNs, and ask for what bears on all attributes. -/
structure Permit where
  reads : String → Prop
  writes : String → Value → Prop
  asks : String → Prop
  calls : String → Prop
  ignoresAll : Prop
  labels : Prop
  whole : Prop

/-- The operations that bear on all attributes. -/
def wholeOperations : List String :=
  ["attributes", "search_attributes", "find_options", "find_options_list"]

/-- Everything is permitted. -/
def Permit.all : Permit where
  reads _ := True
  writes _ _ := True
  asks _ := True
  calls _ := True
  ignoresAll := True
  labels := True
  whole := True

/-- A call is permitted. A text among its arguments may be the name of an attribute, and a mapping may be
assigned to several attributes at once. -/
structure Permit.Calls (p : Permit) (method : String) (arguments : List Value) : Prop where
  called : p.calls method
  whole : method ∈ wholeOperations → p.whole
  names : ∀ name, .text name ∈ arguments → p.asks name
  entries : ∀ entries, .dict entries ∈ arguments → ∀ e ∈ entries, ∀ name, e.1.written = .ok name →
    p.asks name ∧ p.writes name e.2

theorem Permit.calls_all (method : String) (arguments : List Value) : all.Calls method arguments :=
  ⟨trivial, fun _ => trivial, fun _ _ => trivial, fun _ _ _ _ _ _ => ⟨trivial, trivial⟩⟩

/-- The code does only what is permitted, whatever it is answered. -/
def Hook.Obeys (p : Permit) : Hook → Prop
  | done _ => True
  | fail _ => True
  | read name next => p.reads name ∧ ∀ v, (next v).Obeys p
  | write name v next => p.writes name v ∧ next.Obeys p
  | ignore name next => p.asks name ∧ next.Obeys p
  | note _ next => next.Obeys p
  | ignoreAll next => p.ignoresAll ∧ next.Obeys p
  | label next => p.labels ∧ ∀ n, (next n).Obeys p

/-- The code, and all code that it runs, does only what is permitted. -/
def Script.Obeys (p : Permit) : Script → Prop
  | done _ => True
  | hook code next => code.Obeys p ∧ ∀ v, (next v).Obeys p
  | look name next => p.reads name ∧ ∀ found, (next found).Obeys p
  | call method arguments next => p.Calls method arguments ∧ ∀ v, (next v).Obeys p

/-- The callback does only what is permitted. A text may be called, if it names something. -/
def Callback.Obeys (p : Permit) : Callback → Prop
  | .expression text script => p.Calls text [] ∧ script.Obeys p
  | .code script => script.Obeys p
  | .value _ => True

/-- The code of the member does only what is permitted. A contribution asks whether its attribute is
ignored. -/
def Member.Obeys (p : Permit) : Member → Prop
  | .attribute _ => True
  | .contribution name block => p.asks name ∧ block.Obeys p
  | .method hook => hook.Obeys p

/-- All code that a search of the class can run does only what is permitted. Whoever may ask about an
attribute may have its contribution called. -/
structure ClassView.Obeys (c : ClassView) (p : Permit) : Prop where
  members : ∀ key m, p.calls key → c.member? key = some m → m.Obeys p
  contributions : ∀ name, p.asks name → c.schema.declares name = true → p.calls (contributionName name)
  callbacks : ∀ callback ∈ c.schema.callbacks, callback.Obeys p

theorem Hook.obeys_all (hook : Hook) : hook.Obeys .all := by
  induction hook with
  | done v => trivial
  | fail e => trivial
  | read name next ih => exact ⟨trivial, ih⟩
  | write name v next ih => exact ⟨trivial, ih⟩
  | ignore name next ih => exact ⟨trivial, ih⟩
  | note line next ih => exact ih
  | ignoreAll next ih => exact ⟨trivial, ih⟩
  | label next ih => exact ⟨trivial, ih⟩

theorem Script.obeys_all (script : Script) : script.Obeys .all := by
  induction script with
  | done v => trivial
  | hook code next ih => exact ⟨code.obeys_all, ih⟩
  | look name next ih => exact ⟨trivial, ih⟩
  | call method arguments next ih => exact ⟨Permit.calls_all _ _, ih⟩

theorem Member.obeys_all (m : Member) : m.Obeys .all := by
  rcases m with f | ⟨name, block⟩ | hook
  · trivial
  · exact ⟨trivial, block.obeys_all⟩
  · exact hook.obeys_all

theorem Callback.obeys_all (callback : Callback) : callback.Obeys .all := by
  cases callback with
  | expression text code => exact ⟨Permit.calls_all _ _, code.obeys_all⟩
  | code script => exact script.obeys_all
  | value v => trivial

/-- Whatever the code of a class does, it is permitted to do everything. -/
theorem ClassView.obeys_all (c : ClassView) : c.Obeys .all :=
  ⟨fun _ m _ _ => m.obeys_all, fun _ _ _ => trivial, fun callback _ => callback.obeys_all⟩

/-- What is called is a value, or a member of the class. -/
theorem Search.member?_of_callee? {c : ClassView} {s : Search} {name : String} {m : Member}
    (h : callee? c s name = some (.member m)) : c.member? name = some m := by
  unfold callee? at h
  split at h
  next =>
    obtain ⟨v, -, hv⟩ := Option.map_eq_some_iff.mp h
    cases hv
  next =>
    split at h
    next => cases h
    next =>
      obtain ⟨m', hm', hm⟩ := Option.map_eq_some_iff.mp h
      cases hm
      exact hm'

namespace Search

/-! ## Computations beside one another -/

variable {R : Search → Search → Prop} {E : Failure → Failure → Prop} {α β : Type}

/-- The same result and searches that are related, or failures that count as the same. -/
inductive Matches (R : Search → Search → Prop) (E : Failure → Failure → Prop) {α : Type} :
    EStateM.Result Failure Search α → EStateM.Result Failure Search α → Prop
  | ok {a : α} {s t : Search} : R s t → Matches R E (.ok a s) (.ok a t)
  | error {e e' : Failure} {s t : Search} : E e e' → R s t → Matches R E (.error e s) (.error e' t)

/-- Run on searches that are related, the computations do the same. -/
def Relates (R : Search → Search → Prop) (E : Failure → Failure → Prop) {α : Type}
    (act act' : Searching α) : Prop :=
  ∀ s t, R s t → Matches R E (act s) (act' t)

namespace Relates

theorem pure (a : α) : Relates R E (Pure.pure a) (Pure.pure a) := fun _ _ h => .ok h

theorem throw {e e' : Failure} (h : E e e') :
    Relates R E (MonadExcept.throw e : Searching α) (MonadExcept.throw e') := fun _ _ hst => .error h hst

/-- Computations one after the other do the same if each of them does. -/
theorem bind {act act' : Searching α} {f f' : α → Searching β} (h : Relates R E act act')
    (hf : ∀ a, Relates R E (f a) (f' a)) : Relates R E (act >>= f) (act' >>= f') := by
  intro s t hst
  rw [estate_bind_eq, estate_bind_eq]
  have hact := h s t hst
  generalize act s = x at hact ⊢
  generalize act' t = y at hact ⊢
  cases hact with
  | ok hst => exact hf _ _ _ hst
  | error he hst => exact .error he hst

/-- What is looked up in the searches may differ, as long as it is used alike. -/
theorem get_bind {f f' : Search → Searching β} (h : ∀ s t, R s t → Relates R E (f s) (f' t)) :
    Relates R E (get >>= f) (get >>= f') := by
  intro s t hst
  rw [estate_get_bind, estate_get_bind]
  exact h s t hst s t hst

theorem modify {f f' : Search → Search} (h : ∀ s t, R s t → R (f s) (f' t)) :
    Relates R E (modify f) (modify f') := fun s t hst => .ok (h s t hst)

theorem ite {q : Prop} [Decidable q] {x x' y y' : Searching α} (hx : Relates R E x x')
    (hy : Relates R E y y') : Relates R E (if q then x else y) (if q then x' else y') := by
  split
  · exact hx
  · exact hy

/-- The same is done for each member of a list. -/
theorem mapM {f f' : α → Searching β} (h : ∀ a, Relates R E (f a) (f' a)) (as : List α) :
    Relates R E (as.mapM f) (as.mapM f') := by
  induction as with
  | nil => exact pure []
  | cons a as ih =>
    rw [List.mapM_cons, List.mapM_cons]
    exact bind (h a) fun b => bind ih fun bs => pure (b :: bs)

/-- An operation of which the search must not hide the original. -/
theorem ownOnly {c c' : ClassView} {operation : String}
    (h : ∀ s t, R s t → callee? c s operation = callee? c' t operation) (hE : ∀ e, E e e) :
    Relates R E (ownOnly c operation) (ownOnly c' operation) := by
  refine get_bind fun s t hst => ?_
  rw [h s t hst]
  exact ite (throw (hE _)) (pure ())

/-- The classes declare the same of the names. -/
theorem checkNames {c c' : ClassView} {names : List String}
    (h : ∀ name ∈ names, c'.schema.declares name = c.schema.declares name)
    (hE : ∀ names, E (.unknownAttributes c.name names) (.unknownAttributes c'.name names)) :
    Relates R E (checkNames c names) (checkNames c' names) := by
  have hunknown : names.filter (!c'.schema.declares ·) = names.filter (!c.schema.declares ·) :=
    List.filter_congr fun name hname => by rw [h name hname]
  unfold Search.checkNames
  rw [hunknown]
  exact ite (pure ()) (throw (hE _))

/-- What is ignored name by name. -/
theorem ignoreEach {c c' : ClassView} {names : List String}
    (h : ∀ name ∈ names, Relates R E (ignore c name) (ignore c' name)) :
    Relates R E (ignoreEach c names) (ignoreEach c' names) := by
  induction names with
  | nil => exact pure ()
  | cons name names ih =>
    rw [List.forall_mem_cons] at h
    exact bind h.1 fun _ => ih h.2

/-- What is assigned name by name. -/
theorem assignAll {c c' : ClassView} {entries : List (String × Value)}
    (h : ∀ e ∈ entries, Relates R E (assign c e.1 e.2) (assign c' e.1 e.2)) :
    Relates R E (assignAll c entries) (assignAll c' entries) := by
  induction entries with
  | nil => exact pure ()
  | cons e entries ih =>
    rw [List.forall_mem_cons] at h
    exact bind h.1 fun _ => ih h.2

end Relates

/-- The entries by name are entries that were given, under their written names. -/
theorem exists_of_mem_byName {entries : List (Value × Value)} {named : List (String × Value)}
    (h : byName entries = .ok named) {p : String × Value} (hp : p ∈ named) :
    ∃ e ∈ entries, e.1.written = .ok p.1 ∧ e.2 = p.2 := by
  suffices hall : ∀ es ⊆ entries, ∀ start named : List (String × Value),
      (∀ p ∈ start, ∃ e ∈ entries, e.1.written = .ok p.1 ∧ e.2 = p.2) →
      es.foldlM (fun named e => e.1.written.map (putEntry named · e.2)) start = .ok named →
      ∀ p ∈ named, ∃ e ∈ entries, e.1.written = .ok p.1 ∧ e.2 = p.2 from
    hall entries (List.Subset.refl _) [] named (List.forall_mem_nil _) h p hp
  intro es hes
  induction es with
  | nil =>
    rintro start _ hstart ⟨⟩
    exact hstart
  | cons e es ih =>
    rw [List.cons_subset] at hes
    intro start named hstart hfold
    rw [List.foldlM_cons] at hfold
    obtain ⟨next, hnext, hrest⟩ := bind_eq_ok_iff.mp hfold
    cases hwritten : e.1.written with
    | error _ =>
      rw [hwritten] at hnext
      cases hnext
    | ok name =>
      rw [hwritten] at hnext
      obtain rfl := Except.ok.inj hnext
      refine ih hes.2 _ named (fun p hp => ?_) hrest
      rcases mem_putEntry hp with hp | rfl
      · exact hstart p hp
      · exact ⟨e, hes.1, hwritten, rfl⟩

end Search

/-! ## Relations that the basic operations keep -/

open Search in
/-- The basic operations of the two classes do the same on searches that are related, as far as they are
permitted. -/
structure Simulation (p : Permit) (c c' : ClassView) (R : Search → Search → Prop)
    (E : Failure → Failure → Prop) : Prop where
  refl : ∀ e, E e e
  missing : ∀ {e e'}, E e e' → e.isMissing = e'.isMissing
  unknown : ∀ names, E (.unknownAttributes c.name names) (.unknownAttributes c'.name names)
  bound : ∀ m, E (.modelAlreadySet c.name m) (.modelAlreadySet c'.name m)
  model : c'.schema.model = c.schema.model
  listed : p.whole → c'.schema.names = c.schema.names
  reserved : ∀ key ∈ reservedNames, p.calls key
  callee : ∀ {s t key}, R s t → p.calls key → callee? c s key = callee? c' t key
  member : ∀ {key}, p.calls key → c'.member? key = c.member? key
  declares : ∀ {name}, p.asks name → c'.schema.declares name = c.schema.declares name
  stored : ∀ {s t name}, R s t → p.asks name → s.values.lookup name = t.values.lookup name
  read : ∀ {name}, p.reads name → Relates R E (Search.read c name) (Search.read c' name)
  all : p.whole → Relates R E (allAttributes c) (allAttributes c')
  assign : ∀ {name v}, p.writes name v → Relates R E (Search.assign c name v) (Search.assign c' name v)
  marked : ∀ {s t name}, R s t → p.asks name → R { s with values := putEntry s.values name .ignored }
    { t with values := putEntry t.values name .ignored }
  ignoreAll : p.ignoresAll → Relates R E (Search.ignoreAll c) (Search.ignoreAll c')
  noted : ∀ {s t} line, R s t → R { s with journal := s.journal ++ [line] }
    { t with journal := t.journal ++ [line] }
  label : p.labels → Relates R E freshLabel freshLabel

namespace Simulation

open Search

variable {p : Permit} {c c' : ClassView} {R : Search → Search → Prop} {E : Failure → Failure → Prop}
  {α : Type} (k : Simulation p c c' R E)

include k

/-! ## Operations on one attribute -/

theorem fail (e : Failure) : Relates R E (throw e : Searching α) (throw e) :=
  .throw (k.refl e)

theorem lift (x : Except Failure α) : Relates R E (Search.lift x) (Search.lift x) := by
  intro s t hst
  cases x with
  | ok a => exact .ok hst
  | error e => exact .error (k.refl e) hst

/-- A value that is given may be used where it is one. -/
theorem lift_bind {β : Type} {x : Except Failure α} {f f' : α → Searching β}
    (hf : ∀ a, x = .ok a → Relates R E (f a) (f' a)) :
    Relates R E (Search.lift x >>= f) (Search.lift x >>= f') := by
  intro s t hst
  cases x with
  | ok a => exact hf a rfl s t hst
  | error e => exact .error (k.refl e) hst

theorem ownOnly {operation : String} (hoperation : operation ∈ reservedNames) :
    Relates R E (ownOnly c operation) (ownOnly c' operation) :=
  .ownOnly (fun _ _ hst => k.callee hst (k.reserved _ hoperation)) k.refl

theorem checkNames {names : List String} (hnames : ∀ name ∈ names, p.asks name) :
    Relates R E (checkNames c names) (checkNames c' names) :=
  .checkNames (fun name hname => k.declares (hnames name hname)) k.unknown

theorem checkName {name : String} (hname : p.asks name) :
    Relates R E (Search.checkNames c [name]) (Search.checkNames c' [name]) :=
  k.checkNames (List.forall_mem_singleton.mpr hname)

/-- The value of an attribute is the same in both searches. -/
theorem storedValue {name : String} (hname : p.asks name) :
    Relates R E (storedValue c name) (storedValue c' name) := by
  refine (k.checkName hname).bind fun _ => .get_bind fun s t hst => ?_
  rw [k.stored hst hname]
  split
  · exact .pure _
  · exact k.fail _

theorem ignored {name : String} (hname : p.asks name) : Relates R E (ignored c name) (ignored c' name) :=
  (k.ownOnly (by decide)).bind fun _ => (k.storedValue hname).bind fun _ => .pure _

theorem truthy {name : String} (hname : p.asks name) : Relates R E (truthy c name) (truthy c' name) :=
  (k.ownOnly (by decide)).bind fun _ => (k.storedValue hname).bind fun _ => .pure _

/-- An attribute that is ignored is marked in both searches. -/
theorem ignore {name : String} (hname : p.asks name) : Relates R E (ignore c name) (ignore c' name) :=
  (k.ownOnly (by decide)).bind fun _ => (k.checkName hname).bind fun _ =>
    .modify fun _ _ hst => k.marked hst hname

/-! ## Code -/

/-- Code that does only what is permitted does the same beside itself. -/
theorem run {hook : Hook} (hhook : hook.Obeys p) : Relates R E (hook.run c) (hook.run c') := by
  induction hook with
  | done v => exact .pure v
  | fail e => exact k.fail e
  | read name next ih => exact (k.read hhook.1).bind fun v => ih v (hhook.2 v)
  | write name v next ih => exact (k.assign hhook.1).bind fun _ => ih hhook.2
  | ignore name next ih => exact (k.ignore hhook.1).bind fun _ => ih hhook.2
  | note line next ih => exact .bind (.modify fun _ _ hst => k.noted line hst) fun _ => ih hhook
  | ignoreAll next ih => exact (k.ignoreAll hhook.1).bind fun _ => ih hhook.2
  | label next ih => exact (k.label hhook.1).bind fun n => ih n (hhook.2 n)

/-- A value is called alike, wherever it is found. -/
theorem callValue (v : Value) : Relates R E (callValue v) (callValue v) := by
  cases v <;> first | exact .pure _ | exact k.fail _

/-- What runs for a member is its own code, and a contribution that is ignored runs none. -/
theorem runMember {m : Member} (hm : m.Obeys p) : Relates R E (runMember c m) (runMember c' m) := by
  rcases m with f | ⟨name, block⟩ | hook
  · exact k.fail _
  · exact (k.ignored hm.1).bind fun _ => .ite (.pure _) (k.run hm.2)
  · exact k.run hm

/-- What is called by a name is a value or a member. -/
theorem runCallee {key : String} (hcode : ∀ m, c.member? key = some m → m.Obeys p) {s : Search}
    {callee : Callee} (hcallee : callee? c s key = some callee) :
    Relates R E (callee.run c) (callee.run c') := by
  cases callee with
  | value v => exact k.callValue v
  | member m => exact k.runMember (hcode m (member?_of_callee? hcallee))

/-- An operation that may be hidden does the same, hidden or not. -/
theorem orHiding {operation : String} (hoperation : operation ∈ reservedNames)
    (hcode : ∀ m, c.member? operation = some m → m.Obeys p) {own own' : Searching Value}
    (hown : Relates R E own own') : Relates R E (orHiding c operation own) (orHiding c' operation own') := by
  refine .get_bind fun s t hst => ?_
  rw [← k.callee hst (k.reserved _ hoperation)]
  split
  next hcallee => exact k.runCallee hcode hcallee
  next => exact hown

/-- What an attribute contributes is the same if the code for it is permitted. -/
theorem findOptionsFor {name : String} (hname : p.asks name)
    (hcalls : c.schema.declares name = true → p.calls (contributionName name))
    (hcode : ∀ m, p.calls (contributionName name) → c.member? (contributionName name) = some m →
      m.Obeys p) :
    Relates R E (findOptionsFor c name) (findOptionsFor c' name) := by
  refine (k.ownOnly (by decide)).bind fun _ => ?_
  cases hdeclared : c.schema.declares name with
  | false =>
    -- The name is no attribute of either class.
    have hunknown : ∀ c : ClassView, c.schema.declares name = false →
        Search.checkNames c [name] = throw (.unknownAttributes c.name [name]) := by
      intro c hc
      simp only [Search.checkNames, List.filter_cons, hc]
      rfl
    rw [hunknown c hdeclared, hunknown c' ((k.declares hname).trans hdeclared)]
    exact fun s t hst => .error (k.unknown _) hst
  | true =>
    refine (k.checkName hname).bind fun _ => .get_bind fun s t hst => ?_
    rw [← k.callee hst (hcalls hdeclared)]
    split
    next => exact k.fail _
    next => exact k.fail _
    next hcallee => exact k.runCallee (fun m => hcode m (hcalls hdeclared)) hcallee

/-! ## Operations on several attributes -/

/-- An assignment to several attributes writes the entries of a mapping, one by one. -/
theorem setAttributes {v : Value} (hv : ∀ entries, v = .dict entries → ∀ e ∈ entries, ∀ name,
      e.1.written = .ok name → p.asks name ∧ p.writes name e.2) :
    Relates R E (setAttributes c v) (setAttributes c' v) := by
  refine (k.ownOnly (by decide)).bind fun _ => ?_
  cases v with
  | dict entries =>
    refine k.lift_bind fun named hnamed => ?_
    have hpermitted : ∀ e ∈ named, p.asks e.1 ∧ p.writes e.1 e.2 := by
      intro e he
      obtain ⟨given, hmem, hwritten, hvalue⟩ := exists_of_mem_byName hnamed he
      rw [← hvalue]
      exact hv entries rfl given hmem e.1 hwritten
    refine (k.checkNames ?_).bind fun _ => .assignAll fun e he => k.assign (hpermitted e he).2
    rintro name hname
    obtain ⟨e, he, rfl⟩ := List.mem_map.mp hname
    exact (hpermitted e he).1
  | _ => exact k.fail _

/-! ## Calls -/

/-- The name that an argument gives is one that may be asked about. -/
theorem name_bind {v : Value} (hv : ∀ name, v = .text name → p.asks name) {f f' : String → Searching α}
    (hf : ∀ name, p.asks name → Relates R E (f name) (f' name)) :
    Relates R E (Search.lift (nameOf v) >>= f) (Search.lift (nameOf v) >>= f') := by
  refine k.lift_bind fun name hname => hf name (hv name ?_)
  cases v with
  | text s => rw [Except.ok.inj hname]
  | _ => cases hname

/-- An attribute that is missing is missing in both searches. -/
theorem look {name : String} (hname : p.reads name) : Relates R E (look c name) (look c' name) := by
  intro s t hst
  have hread := k.read hname s t hst
  unfold Search.look
  generalize Search.read c name s = x at hread ⊢
  generalize Search.read c' name t = y at hread ⊢
  cases hread with
  | ok hst => exact .ok hst
  | error he hst =>
    dsimp only
    rw [k.missing he]
    split
    · exact .ok hst
    · exact .error he hst

section

variable {again again' : Again}
  (hagain : p.whole → ∀ operation, Relates R E (again operation) (again' operation))
  (hc : c.Obeys p)

include hagain hc

/-- An operation that every search has does the same as far as its arguments are permitted. -/
theorem callCommon {operation : String} {arguments : List Value} (h : p.Calls operation arguments) :
    Relates R E (callCommon c again operation arguments) (callCommon c' again' operation arguments) := by
  have hname : ∀ v, arguments = [v] → ∀ name, v = .text name → p.asks name := by
    rintro v rfl name rfl
    exact h.names name List.mem_cons_self
  unfold Search.callCommon
  -- One case for every operation that a search has, in the order of the definition.
  split
  · exact k.name_bind (hname _ rfl) fun _ hasks => (k.ignore hasks).bind fun _ => .pure _
  · exact k.name_bind (hname _ rfl) fun _ hasks => (k.ignored hasks).bind fun _ => .pure _
  · exact k.name_bind (hname _ rfl) fun _ hasks => (k.truthy hasks).bind fun _ => .pure _
  · exact k.name_bind (hname _ rfl) fun _ hasks =>
      k.findOptionsFor hasks (hc.contributions _ hasks) (hc.members _)
  · refine (k.setAttributes ?_).bind fun _ => .pure _
    rintro entries rfl
    exact h.entries entries List.mem_cons_self
  · exact .pure _
  · exact k.fail _
  · rw [k.model]
    cases c.schema.model with
    | none => exact k.fail _
    | some m => exact .throw (k.bound _)
  · rw [k.listed (h.whole (by decide))]
    exact .pure _
  · exact .pure _
  · exact .pure _
  · exact .pure _
  · exact hagain (h.whole (by decide)) _
  · exact hagain (h.whole (by decide)) _
  · exact (k.all (h.whole (by decide))).bind fun _ => k.fail _
  · exact k.fail _

/-- What is called under a name does the same. -/
theorem call {method : String} {arguments : List Value} (h : p.Calls method arguments) :
    Relates R E (call c again method arguments) (call c' again' method arguments) := by
  refine .get_bind fun s t hst => ?_
  rw [← k.callee hst h.called, k.member h.called]
  split
  next hcallee => exact .ite (k.runCallee (fun m => hc.members method m h.called) hcallee) (k.fail _)
  next =>
    split
    next => exact k.fail _
    next => exact k.callCommon hagain hc h

/-- Code that may call operations does the same beside itself. -/
theorem runScript {script : Script} (h : script.Obeys p) :
    Relates R E (script.run c again) (script.run c' again') := by
  induction script with
  | done v => exact .pure v
  | hook code next ih => exact (k.run h.1).bind fun v => ih v (h.2 v)
  | look name next ih => exact (k.look h.1).bind fun found => ih found (h.2 found)
  | call method arguments next ih => exact (k.call hagain hc h.1).bind fun v => ih v (h.2 v)

/-! ## Callbacks -/

/-- A callback does what its code does, or calls what its text names. -/
theorem runCallback {callback : Callback} (h : callback.Obeys p) :
    Relates R E (runCallback c again callback) (runCallback c' again' callback) := by
  cases callback with
  | code script => exact k.runScript hagain hc h
  | value v => exact k.fail _
  | expression text script =>
    refine .get_bind fun s t hst => ?_
    have hcallable : isCallable c s text = isCallable c' t text := by
      unfold isCallable
      rw [k.callee hst h.1.called, k.member h.1.called]
    rw [hcallable]
    exact .ite (k.call hagain hc h.1) (k.runScript hagain hc h.2)

/-- Callbacks run alike, so the same one ends the chain. -/
theorem runCallbacks {callbacks : List Callback} (h : ∀ callback ∈ callbacks, callback.Obeys p) :
    Relates R E (runCallbacks c again callbacks) (runCallbacks c' again' callbacks) := by
  induction callbacks with
  | nil => exact .pure false
  | cons callback callbacks ih =>
    rw [List.forall_mem_cons] at h
    exact (k.runCallback hagain hc h.1).bind fun v => .ite (.pure true) (ih h.2)

/-- The chain of callbacks does the same beside itself, the hook of the search included. -/
theorem runChain (hcallbacks : c'.schema.callbacks = c.schema.callbacks) :
    Relates R E (runChain c again) (runChain c' again') := by
  unfold Search.runChain
  rw [hcallbacks]
  refine (k.runCallbacks hagain hc hc.callbacks).bind fun stopped => .ite ?_ (.pure _)
  exact (k.orHiding (by decide) (fun m => hc.members _ m (k.reserved _ (by decide))) (.pure _)).bind
    fun _ => .pure _

end

/-! ## Composition -/

/-- What attributes contribute is the same for those that may be asked about. -/
theorem contributions (hc : c.Obeys p) (validate : Value → Except Failure Unit) {names : List String}
    (hnames : ∀ name ∈ names, p.asks name) :
    Relates R E (contributions c validate names) (contributions c' validate names) := by
  induction names with
  | nil => exact .pure []
  | cons name names ih =>
    rw [List.forall_mem_cons] at hnames
    refine (k.ignored hnames.1).bind fun _ => .ite (ih hnames.2) ?_
    have hfor := k.findOptionsFor hnames.1 (hc.contributions _ hnames.1) (hc.members _)
    exact hfor.bind fun options => (k.lift _).bind fun _ => (ih hnames.2).bind fun maps => .pure _

end Simulation

/-! ## One class -/

namespace Simulation

open Search

variable {p : Permit} {c c' : ClassView} {R : Search → Search → Prop}

/-- Searches of one class that hold the same values are related by whatever writing keeps, however often
options can be composed by callbacks. -/
theorem ofSame (n : Nat) (hvalues : ∀ s t, R s t → ∀ name, s.values.lookup name = t.values.lookup name)
    (hextras : ∀ s t, R s t → ∀ name, s.extras.lookup name = t.extras.lookup name)
    (hcalls : ∀ key, p.calls key)
    (hassign : ∀ name v, p.writes name v → Relates R (· = ·) (Search.assign c name v) (Search.assign c name v))
    (hmarked : ∀ s t name, R s t → R { s with values := putEntry s.values name .ignored }
      { t with values := putEntry t.values name .ignored })
    (hnoted : ∀ s t line, R s t → R { s with journal := s.journal ++ [line] }
      { t with journal := t.journal ++ [line] })
    (hlabel : p.labels → Relates R (· = ·) freshLabel freshLabel) :
    Simulation p c { c with depth := n } R (· = ·) := by
  -- The class is the same, so what is called differs in nothing but the state.
  have hcallee : ∀ s t, R s t → ∀ key, callee? c s key = callee? c t key := by
    intro s t hst key
    unfold callee?
    rw [hvalues s t hst, hextras s t hst]
  have hvalue : ∀ name, Relates R (· = ·) (valueOf c name) (valueOf c name) := by
    refine fun name => .get_bind fun s t hst => ?_
    rw [hcallee s t hst]
    split
    · exact .pure _
    · exact .pure _
    · exact .ite (.pure _) (.throw rfl)
  have hall : Relates R (· = ·) (allAttributes c) (allAttributes c) :=
    .bind (.mapM (fun name => (hvalue name).bind fun _ => .pure _) _) fun _ => .pure _
  have hown : ∀ operation, Relates R (· = ·) (Search.ownOnly c operation) (Search.ownOnly c operation) :=
    fun operation => .ownOnly (fun s t hst => hcallee s t hst operation) fun _ => rfl
  have hignore : ∀ name, Relates R (· = ·) (Search.ignore c name) (Search.ignore c name) := fun name =>
    (hown _).bind fun _ => .bind (.checkNames (fun _ _ => rfl) fun _ => rfl) fun _ =>
      .modify fun s t hst => hmarked s t name hst
  exact {
    refl := fun _ => rfl
    missing := fun h => by rw [h]
    unknown := fun _ => rfl
    bound := fun _ => rfl
    model := rfl
    listed := fun _ => rfl
    reserved := fun key _ => hcalls key
    callee := fun hst _ => hcallee _ _ hst _
    member := fun _ => rfl
    declares := fun _ => rfl
    stored := fun hst _ => hvalues _ _ hst _
    read := fun _ => .ite hall (hvalue _)
    all := fun _ => hall
    assign := hassign _ _
    marked := fun hst _ => hmarked _ _ _ hst
    ignoreAll := fun _ => (hown _).bind fun _ => .ignoreEach fun name _ => hignore name
    noted := fun line hst => hnoted _ _ line hst
    label := hlabel }

variable {E : Failure → Failure → Prop} (k : Simulation p c c' R E) (hschema : c'.schema = c.schema)
  (hc : c.Obeys p) (hasks : ∀ name, p.asks name)

include k hschema hc hasks

/-- Option-maps are listed alike behind whatever comes first. -/
theorem listBehind {first first' : Searching Unit} (hfirst : Relates R E first first') :
    Relates R E (listBehind c first) (listBehind c' first') := by
  have hcode := fun m => hc.members "find_options_list" m (k.reserved _ (by decide))
  refine k.orHiding (by decide) hcode (.bind (hfirst.bind fun _ => ?_) fun _ => .pure _)
  unfold bridge
  rw [hschema]
  exact k.contributions hc _ fun name _ => hasks name

/-- So they are merged alike. -/
theorem mergedBehind {first first' : Searching Unit} (hfirst : Relates R E first first') :
    Relates R E (mergedBehind c first) (mergedBehind c' first') := by
  have hcode := fun m => hc.members "find_options" m (k.reserved _ (by decide))
  have hmaps : Relates R E (mapsBehind c first) (mapsBehind c' first') := by
    refine (k.listBehind hschema hc hasks hfirst).bind fun v => ?_
    split
    · exact .pure _
    · exact k.fail _
  refine k.orHiding (by decide) hcode (hmaps.bind fun maps => ?_)
  unfold bridge
  rw [hschema]
  exact k.lift _

/-- Callbacks may compose options themselves, however often. -/
theorem again (n : Nat) (operation : String) :
    Relates R E (again c n operation) (again c' n operation) := by
  induction n generalizing operation with
  | zero => exact k.fail _
  | succ n ih =>
    have hfirst := k.runChain (fun _ => ih) hc (by rw [hschema])
    exact .ite (k.mergedBehind hschema hc hasks hfirst) (k.listBehind hschema hc hasks hfirst)

/-- So what they do is the same, as often as options can be composed. -/
theorem chain (n : Nat) :
    Relates R E (Search.runChain c (Search.again c n)) (Search.runChain c' (Search.again c' n)) :=
  k.runChain (fun _ => k.again hschema hc hasks n) hc (by rw [hschema])

end Simulation

end SearchQuery
