import SearchQuery.Proofs.Entries
import SearchQuery.Proofs.Search.Rewriting

/-!
# Changes of search classes

An operation on the search classes adds a class, or changes the one class that it is called on. What it
can do to that class is said once: it declares attributes, appends callbacks, binds the class to a model,
or fails to and gives back the schema (`ClassOperation.Changes`). `ClassOperation.steps` says so of every
operation in every registry, whether it fails or not. What holds of all classes that come about is derived
from this.

## Shape of a declaration

A builder is rewritten by the bridge of the class before it is added. No attribute changes the bridge, so
the builders that a row of declarations adds are those that the bridge makes of the given ones, up to the
first that is rejected.
-/

namespace SearchQuery

/-! ## Registries with one class changed -/

namespace Registry

/-- An update leaves the other classes as they are. -/
theorem find_update_ne (r : Registry) {id i : Nat} (h : i ≠ id) (f : SearchClass → SearchClass) :
    (r.update id f).find i = r.find i := by
  have hclass : (r.update id f).classes[i]? = r.classes[i]? := List.getElem?_modify_ne f _ h.symm
  rw [find, find, hclass]

/-- An update changes the class that it is told. -/
theorem find_update_self {r : Registry} {id : Nat} (h : id < r.classes.length)
    (f : SearchClass → SearchClass) : (r.update id f).find id = f (r.find id) := by
  have hclass : (r.update id f).classes[id]? = f <$> r.classes[id]? := List.getElem?_modify_eq f id _
  rw [find, find, hclass, List.getElem?_eq_getElem h]
  rfl

/-- There is no such class to change. -/
theorem update_of_le {r : Registry} {id : Nat} (h : r.classes.length ≤ id)
    (f : SearchClass → SearchClass) : r.update id f = r := by
  rw [update, List.modify_eq_self h]

/-- So every class is as it was or has been changed. -/
theorem find_update (r : Registry) (id : Nat) (f : SearchClass → SearchClass) (i : Nat) :
    (r.update id f).find i = r.find i ∨ (r.update id f).find i = f (r.find i) := by
  by_cases h : i = id
  · subst h
    rcases lt_or_ge i r.classes.length with hid | hid
    · exact Or.inr (find_update_self hid f)
    · exact Or.inl (by rw [update_of_le hid])
  · exact Or.inl (find_update_ne r h f)

/-- Two updates of a class are one. -/
theorem update_update (r : Registry) (id : Nat) (f g : SearchClass → SearchClass) :
    (r.update id f).update id g = r.update id (g ∘ f) := by
  rw [update, update, update, List.modify_modify_eq]

/-- An update only looks at the class that it changes. -/
theorem update_eq (r : Registry) (id : Nat) (f : SearchClass → SearchClass) :
    r.update id f = r.update id fun _ => f (r.find id) := by
  have hclasses : r.classes.modify id f = r.classes.modify id fun _ => f (r.find id) := by
    apply List.ext_getElem?
    intro i
    rw [List.getElem?_modify, List.getElem?_modify]
    by_cases h : id = i
    · subst h
      rw [find]
      cases r.classes[id]? with
      | none => rfl
      | some c => simp
    · simp only [if_neg h]
  rw [update, update, hclasses]

/-- To put back what is there changes nothing. -/
theorem update_find (r : Registry) (id : Nat) : (r.update id fun _ => r.find id) = r := by
  calc (r.update id fun _ => r.find id)
    _ = r.update id fun c => c := (update_eq r id fun c => c).symm
    _ = r := congrArg Registry.mk (List.modify_id id r.classes)

/-- A class that comes last. -/
def append (r : Registry) (c : SearchClass) : Registry :=
  { r with classes := r.classes ++ [c] }

/-- No class is added or lost by an update. -/
theorem length_update (r : Registry) (id : Nat) (f : SearchClass → SearchClass) :
    (r.update id f).classes.length = r.classes.length :=
  List.length_modify f _ _

/-- The classes that were there stay as they are. -/
theorem find_append_ne (r : Registry) (c : SearchClass) {i : Nat} (h : i ≠ r.classes.length) :
    (r.append c).find i = r.find i := by
  have hclass : (r.append c).classes[i]? = r.classes[i]? := by
    rw [append, List.getElem?_append]
    split
    next => rfl
    next hi =>
      rw [List.getElem?_eq_none (not_lt.mp hi)]
      exact List.getElem?_eq_none (by simp only [List.length_singleton]; omega)
  rw [find, find, hclass]

/-- The class that is appended comes last. -/
theorem find_append_self (r : Registry) (c : SearchClass) :
    (r.append c).find r.classes.length = c := by
  rw [find, append, List.getElem?_concat_length]
  rfl

end Registry

/-- The class that was appended last can be put in anew. -/
theorem Registry.update_append (r : Registry) (c c' : SearchClass) :
    ((r.append c).update r.classes.length fun _ => c') = r.append c' := by
  have hclasses : ∀ front : List SearchClass,
      (front ++ [c]).modify front.length (fun _ => c') = front ++ [c'] := by
    intro front
    induction front with
    | nil => rfl
    | cons d front ih => exact congrArg (d :: ·) ih
  exact congrArg Registry.mk (hclasses r.classes)

/-! ## Changes of a class -/

namespace SearchClass

/-- The class with more attributes, declared one after the other. -/
def withAttributes (c : SearchClass) (bs : List Builder) : SearchClass :=
  bs.foldl withAttribute c

/-- The class bound to a model. -/
def bound (c : SearchClass) (m : Model) (bridge : Bridge) : SearchClass :=
  { c with schema := { c.schema with model := some m, bridge := some bridge } }

/-- The class with more callbacks. -/
def withCallbacks (c : SearchClass) (callbacks : List Callback) : SearchClass :=
  { c with schema := { c.schema with callbacks := c.schema.callbacks ++ callbacks } }

/-- A subclass as it is made, before it is bound. -/
def made (p : SearchClass) (parent : Nat) (name : String) (methods : List (String × Hook)) :
    SearchClass :=
  { name, ancestors := parent :: p.ancestors, schema := p.schema
    members := methods.map fun m => (m.1, .method m.2) }

section Kept

variable (c : SearchClass) (b : Builder) (bs : List Builder)

@[simp] theorem withAttribute_name : (c.withAttribute b).name = c.name := rfl

@[simp] theorem withAttribute_ancestors : (c.withAttribute b).ancestors = c.ancestors := rfl

@[simp] theorem withAttribute_model : (c.withAttribute b).schema.model = c.schema.model := rfl

@[simp] theorem withAttribute_bridge : (c.withAttribute b).schema.bridge = c.schema.bridge := rfl

@[simp] theorem withAttribute_callbacks :
    (c.withAttribute b).schema.callbacks = c.schema.callbacks := rfl

/-- What no attribute changes, any number of them leaves. -/
theorem withAttributes_keeps {β : Type} (f : SearchClass → β)
    (h : ∀ c b, f (SearchClass.withAttribute c b) = f c) : f (c.withAttributes bs) = f c := by
  induction bs generalizing c with
  | nil => rfl
  | cons b bs ih => exact (ih (c.withAttribute b)).trans (h c b)

@[simp] theorem withAttributes_name : (c.withAttributes bs).name = c.name :=
  withAttributes_keeps c bs (·.name) withAttribute_name

@[simp] theorem withAttributes_ancestors : (c.withAttributes bs).ancestors = c.ancestors :=
  withAttributes_keeps c bs (·.ancestors) withAttribute_ancestors

@[simp] theorem withAttributes_model : (c.withAttributes bs).schema.model = c.schema.model :=
  withAttributes_keeps c bs (·.schema.model) withAttribute_model

@[simp] theorem withAttributes_bridge : (c.withAttributes bs).schema.bridge = c.schema.bridge :=
  withAttributes_keeps c bs (·.schema.bridge) withAttribute_bridge

@[simp] theorem withAttributes_callbacks :
    (c.withAttributes bs).schema.callbacks = c.schema.callbacks :=
  withAttributes_keeps c bs (·.schema.callbacks) withAttribute_callbacks

end Kept

/-- What the bridge of the class makes of builders, without those that it rejects. -/
def rewrittenAll (c : SearchClass) (bs : List Builder) : List Builder :=
  bs.filterMap fun b => (Registry.rewritten c b).toOption

/-- What is declared was given, and rewritten by the bridge. -/
theorem mem_rewrittenAll {c : SearchClass} {bs : List Builder} {b : Builder} :
    b ∈ c.rewrittenAll bs ↔ ∃ given ∈ bs, Registry.rewritten c given = .ok b := by
  simp only [rewrittenAll, List.mem_filterMap]
  refine exists_congr fun given => and_congr_right fun _ => ?_
  cases Registry.rewritten c given <;> simp [Except.toOption]

/-- Rewriting knows of the class no more than its bridge. -/
theorem rewritten_congr {c c' : SearchClass} (h : c.schema.bridge = c'.schema.bridge) (b : Builder) :
    Registry.rewritten c b = Registry.rewritten c' b := by
  rw [Registry.rewritten, Registry.rewritten, h]

/-- What the bridge of the class makes of a builder is what is declared. -/
theorem rewritten_eq_ok_iff {c : SearchClass} {bridge : Bridge} (hbridge : c.schema.bridge = some bridge)
    {b b' : Builder} : Registry.rewritten c b = .ok b' ↔ bridge.rewrite b = .ok () b' := by
  rw [Registry.rewritten, hbridge]
  dsimp only [EStateM.run]
  cases bridge.rewrite b <;> simp

/-- Only the bridge of the class takes part in that. -/
theorem rewrittenAll_congr {c c' : SearchClass} (h : c.schema.bridge = c'.schema.bridge)
    (bs : List Builder) : c.rewrittenAll bs = c'.rewrittenAll bs := by
  unfold rewrittenAll
  congr 1
  funext b
  rw [rewritten_congr h]

/-- The builders that are added when the class is bound to a model. -/
def predefined (c : SearchClass) (current : Config) (m : Model) (options : Options) : List Builder :=
  match bridgeFor current m with
  | .error _ => []
  | .ok bridge =>
    match bridge.automatic options with
    | .error _ => []
    | .ok bs => (c.bound m bridge).rewrittenAll bs

end SearchClass

/-- An attribute can have the name, and no option is left over. -/
structure Builder.IsStrict (b : Builder) : Prop where
  options : b.options.unknown attributeOptions = []
  name : isAttributeName b.name = true

/-- The name of a declaration that is accepted is free. -/
theorem Builder.IsStrict.not_reserved {b : Builder} (h : b.IsStrict) : b.name ∉ reservedNames := by
  have hname := h.name
  simp only [isAttributeName, Bool.and_eq_true, Bool.not_eq_true', List.contains_eq_mem,
    decide_eq_false_iff_not] at hname
  exact hname.2

namespace Registry

variable {r r' : Registry} {id : Nat}

/-- A declaration that keeps the rules is accepted. -/
theorem addAttribute_of_strict {b : Builder} (hb : b.IsStrict) :
    addAttribute id b r = .ok () (r.update id (·.withAttribute b)) := by
  rw [addAttribute]
  simp only [hb.options, hb.name]
  rfl

/-- A declaration adds its attribute, or is rejected. -/
theorem addAttribute_cases (id : Nat) (b : Builder) (r : Registry) :
    b.IsStrict ∧ addAttribute id b r = .ok () (r.update id (·.withAttribute b)) ∨
      ∃ e, addAttribute id b r = .error e r := by
  by_cases hoptions : b.options.unknown attributeOptions = []
  · by_cases hname : isAttributeName b.name = true
    · exact Or.inl ⟨⟨hoptions, hname⟩, addAttribute_of_strict ⟨hoptions, hname⟩⟩
    · refine Or.inr ⟨.invalidAttributeName b.name, ?_⟩
      rw [addAttribute]
      simp only [hoptions, Bool.not_eq_true] at hname ⊢
      simp only [hname]
      rfl
  · refine Or.inr ⟨.ofOptions (b.options.unknown attributeOptions), ?_⟩
    rw [addAttribute, if_pos (by simpa using hoptions)]
    rfl

/-- So is one that is rewritten to one that does. -/
theorem declare_of_strict {given b : Builder} (hgiven : rewritten (r.find id) given = .ok b)
    (hb : b.IsStrict) : declare id given r = .ok () (r.update id (·.withAttribute b)) := by
  rw [declare, estate_get_bind, hgiven]
  exact addAttribute_of_strict hb

/-- A declaration either succeeds, with what the bridge makes of it, or changes nothing. -/
theorem declare_cases (id : Nat) (b : Builder) (r : Registry) :
    (∃ b', rewritten (r.find id) b = .ok b' ∧ b'.IsStrict ∧
        declare id b r = .ok () (r.update id (·.withAttribute b'))) ∨
      ∃ e, declare id b r = .error e r := by
  change _ ∨ ∃ e, (lift (rewritten (r.find id) b) >>= addAttribute id) r = .error e r
  cases hrewritten : rewritten (r.find id) b with
  | error e => exact Or.inr ⟨e, rfl⟩
  | ok b' =>
    have hrun : declare id b r = addAttribute id b' r := by
      change (lift (rewritten (r.find id) b) >>= addAttribute id) r = _
      rw [hrewritten]
      rfl
    rw [hrun]
    obtain ⟨hstrict, hadd⟩ | ⟨e, hadd⟩ := addAttribute_cases id b' r
    · exact Or.inl ⟨b', rfl, hstrict, hadd⟩
    · exact Or.inr ⟨e, hadd⟩

/-- To declare nothing changes nothing. -/
theorem update_withAttributes_nil (r : Registry) (id : Nat) : r.update id (·.withAttributes []) = r :=
  congrArg Registry.mk (List.modify_id id r.classes)

/-- The class with a new attribute has the same bridge. -/
theorem find_update_withAttribute_bridge (r : Registry) (id : Nat) (b : Builder) :
    ((r.update id (·.withAttribute b)).find id).schema.bridge = (r.find id).schema.bridge := by
  rcases find_update r id (·.withAttribute b) id with h | h
  · rw [h]
  · rw [h]
    rfl

/-- **A row of declarations.** What is given is added up to the first that is rejected. -/
theorem declareAll_front (id : Nat) (bs : List Builder) (r : Registry) :
    ∃ front, front <+: bs ∧ (∀ b ∈ (r.find id).rewrittenAll front, b.IsStrict) ∧
      after (declareAll id bs) r = r.update id (·.withAttributes ((r.find id).rewrittenAll front)) ∧
      ∀ r', declareAll id bs r = .ok () r' → front = bs := by
  induction bs generalizing r with
  | nil =>
    refine ⟨[], List.nil_prefix, by simp [SearchClass.rewrittenAll], ?_, fun _ _ => rfl⟩
    exact (update_withAttributes_nil r id).symm
  | cons b bs ih =>
    rw [declareAll]
    obtain ⟨b', hrewritten, hstrict, hdeclare⟩ | ⟨e, hdeclare⟩ := declare_cases id b r
    · obtain ⟨front, hfront, hall, hafter, hok⟩ := ih (r.update id (·.withAttribute b'))
      -- The rest is rewritten by the class with the new attribute.
      have hbridge := find_update_withAttribute_bridge r id b'
      rw [SearchClass.rewrittenAll_congr hbridge] at hall hafter
      have hcons : (r.find id).rewrittenAll (b :: front) = b' :: (r.find id).rewrittenAll front := by
        rw [SearchClass.rewrittenAll, List.filterMap_cons, hrewritten]
        rfl
      refine ⟨b :: front, List.cons_prefix_cons.mpr ⟨rfl, hfront⟩, ?_, ?_, fun r' h => ?_⟩
      · rw [hcons, List.forall_mem_cons]
        exact ⟨hstrict, hall⟩
      · rw [after_bind, hdeclare, hcons]
        dsimp only
        rw [hafter, update_update]
        rfl
      · obtain ⟨_, r₁, h₁, hrest⟩ := estate_bind_eq_ok.mp h
        rw [hdeclare] at h₁
        cases h₁
        rw [hok r' hrest]
    · refine ⟨[], List.nil_prefix, by simp [SearchClass.rewrittenAll], ?_, fun r' h => ?_⟩
      · rw [after_bind, hdeclare]
        exact (update_withAttributes_nil r id).symm
      · obtain ⟨_, r₁, h₁, -⟩ := estate_bind_eq_ok.mp h
        rw [hdeclare] at h₁
        cases h₁

/-- A row of declarations succeeds where each of them does. -/
theorem declareAll_of_strict {given bs : List Builder}
    (h : List.Forall₂ (fun g b => rewritten (r.find id) g = .ok b ∧ b.IsStrict) given bs) :
    declareAll id given r = .ok () (r.update id (·.withAttributes bs)) := by
  induction given generalizing r bs with
  | nil =>
    cases h
    rw [update_withAttributes_nil]
    rfl
  | cons g given ih =>
    obtain ⟨b, bs, ⟨hg, hb⟩, hrest, rfl⟩ := List.forall₂_cons_left_iff.mp h
    have hbridge := find_update_withAttribute_bridge r id b
    rw [declareAll, estate_bind_eq, declare_of_strict hg hb]
    dsimp only
    rw [ih (hrest.imp fun g b h => ⟨by rw [SearchClass.rewritten_congr hbridge]; exact h.1, h.2⟩),
      update_update]
    rfl

theorem declareAll_singleton (id : Nat) (b : Builder) : declareAll id [b] = declare id b := by
  funext r
  rw [declareAll, estate_bind_eq]
  cases declare id b r <;> rfl

/-- If declarations succeed, all of them keep the rules once they are rewritten. -/
theorem declareAll_eq_ok {bs : List Builder} (h : declareAll id bs r = .ok () r') :
    (∀ b ∈ (r.find id).rewrittenAll bs, b.IsStrict) ∧
      r' = r.update id (·.withAttributes ((r.find id).rewrittenAll bs)) := by
  obtain ⟨front, -, hstrict, hafter, hok⟩ := declareAll_front id bs r
  obtain rfl := hok r' h
  rw [after, h] at hafter
  exact ⟨hstrict, hafter⟩

end Registry

/-! ## Operations -/

/-- An operation on the search classes. -/
inductive ClassOperation where
  | subclass (current : Config) (name : String) (parent : Nat) (methods : List (String × Hook))
    (model : Option Model) (options : Options)
  | setModel (current : Config) (id : Nat) (model : Model) (options : Options)
  | accessor (id : Nat) (names : List Value) (options : Options) (block : Option Hook)
  | accessorOf (id : Nat) (name : Value) (options : Options) (block : Option Hook)
  | accessorBuilder (id : Nat) (builder : Builder) (options : Options) (block : Option Hook)
  | addAttribute (id : Nat) (builder : Builder)
  | addCallbacks (id : Nat) (callbacks : List Callback)

namespace ClassOperation

/-- Run the operation. -/
def run : ClassOperation → Declaring Unit
  | subclass current name parent methods model options => do
    let _ ← Registry.subclass current name parent methods model options
  | setModel current id model options => Registry.setModel current id model options
  | accessor id names options block => Registry.accessor id names options block
  | accessorOf id name options block => Registry.accessorOf id name options block
  | accessorBuilder id builder options block => Registry.accessorBuilder id builder options block
  | addAttribute id builder => Registry.addAttribute id builder
  | addCallbacks id callbacks => Registry.addCallbacks id callbacks

/-- The class that the operation is given: that of a new subclass is its parent. -/
def named : ClassOperation → Nat
  | subclass _ _ parent _ _ _ => parent
  | setModel _ id _ _ => id
  | accessor id _ _ _ => id
  | accessorOf id _ _ _ => id
  | accessorBuilder id _ _ _ => id
  | addAttribute id _ => id
  | addCallbacks id _ => id

/-- The class that the operation is about: a new subclass itself, or else the one given. -/
def target (r : Registry) : ClassOperation → Nat
  | subclass .. => r.classes.length
  | op => op.named

/-- The class that the operation is given is there. -/
def IsOn (r : Registry) (op : ClassOperation) : Prop :=
  op.named < r.classes.length

instance (r : Registry) (op : ClassOperation) : Decidable (op.IsOn r) :=
  inferInstanceAs (Decidable (op.named < r.classes.length))

/-- The builders that the operation declares, before they are rewritten. -/
def given : ClassOperation → List Builder
  | accessor _ names options block =>
    names.filterMap fun n =>
      match n with
      | .text name => some { name, options, block }
      | _ => none
  | accessorOf _ (.text name) options block => [{ name, options, block }]
  | accessorBuilder _ builder _ _ => [builder]
  | _ => []

/-- Declaring one attribute is a row of one. -/
theorem given_accessorOf (id : Nat) (name : Value) (options : Options) (block : Option Hook) :
    (accessorOf id name options block).given = (accessor id [name] options block).given := by
  cases name <;> rfl

/-- What the operation may make of the class that it is called on. -/
inductive Changes (c : SearchClass) : ClassOperation → SearchClass → Prop
  | declared {op : ClassOperation} {front : List Builder} : front <+: op.given →
    (∀ b ∈ c.rewrittenAll front, b.IsStrict) → Changes c op (c.withAttributes (c.rewrittenAll front))
  | added {id : Nat} {b : Builder} : b.IsStrict → Changes c (addAttribute id b) (c.withAttribute b)
  | callbacks {id : Nat} {callbacks : List Callback} :
    Changes c (addCallbacks id callbacks) (c.withCallbacks callbacks)
  | bound {current : Config} {id : Nat} {m : Model} {options : Options} {bridge : Bridge}
    {bs : List Builder} : c.schema.model = none → bridgeFor current m = .ok bridge →
    bridge.automatic options = .ok bs →
    (∀ b ∈ (c.bound m bridge).rewrittenAll bs, b.IsStrict) →
    Changes c (setModel current id m options)
      ((c.bound m bridge).withAttributes ((c.bound m bridge).rewrittenAll bs))
  | restored {current : Config} {id : Nat} {m : Model} {options : Options} {bridge : Bridge}
    {front : List Builder} : c.schema.model = none → bridgeFor current m = .ok bridge →
    (∀ b ∈ front, ∃ bs, bridge.automatic options = .ok bs ∧ b ∈ bs) →
    (∀ b ∈ (c.bound m bridge).rewrittenAll front, b.IsStrict) →
    Changes c (setModel current id m options)
      (((c.bound m bridge).withAttributes ((c.bound m bridge).rewrittenAll front)).restored c.schema)

/-- An operation may always change nothing. -/
theorem Changes.refl (c : SearchClass) (op : ClassOperation) : Changes c op c :=
  .declared (List.nil_prefix : [] <+: op.given) (by simp [SearchClass.rewrittenAll])

end ClassOperation

/-- The new class of an operation is a subclass as it is made, bound to a model if there is one. -/
inductive ClassOperation.Makes (r : Registry) : ClassOperation → SearchClass → Prop
  | unbound {current : Config} {name : String} {parent : Nat} {methods : List (String × Hook)}
    {m : Option Model} {options : Options} :
    Makes r (subclass current name parent methods m options)
      ((r.find parent).made parent name methods)
  | bound {current : Config} {name : String} {parent : Nat} {methods : List (String × Hook)}
    {m : Option Model} {options : Options} {m' : Model} {c : SearchClass} :
    Registry.modelFor m options = some m' →
    Changes ((r.find parent).made parent name methods)
      (setModel current r.classes.length m' (options.erase "model")) c →
    Makes r (subclass current name parent methods m options) c

/-- The class that is made is the target of the operation. -/
theorem ClassOperation.Makes.target_eq {r : Registry} {op : ClassOperation} {c : SearchClass}
    (h : op.Makes r c) : op.target r = r.classes.length := by
  cases h <;> rfl

/-- How a registry changes when an operation runs. -/
inductive Registry.Steps (r : Registry) : ClassOperation → Registry → Prop
  | changed {op : ClassOperation} {c : SearchClass} : ClassOperation.Changes (r.find (op.target r)) op c →
    Steps r op (r.update (op.target r) fun _ => c)
  | made {op : ClassOperation} {c : SearchClass} : op.Makes r c → Steps r op (r.append c)

namespace Registry

variable {r r' : Registry} {id : Nat}

/-- Nothing has changed. -/
theorem Steps.refl (r : Registry) (op : ClassOperation) : Steps r op r := by
  have h := Steps.changed (ClassOperation.Changes.refl (r.find (op.target r)) op)
  rwa [update_find] at h

/-- The option that names the model cannot be given twice. -/
theorem setModel_of_uses {current : Config} {m : Model} {options : Options}
    (h : options.uses ["cls", "model"] = true) :
    setModel current id m options r = .error .wrongType r := by
  rw [setModel, if_pos h]
  rfl

/-- A model is bound once. -/
theorem setModel_of_model {current : Config} {m bound : Model} {options : Options}
    (h : options.uses ["cls", "model"] = false) (hmodel : (r.find id).schema.model = some bound) :
    setModel current id m options r =
      .error (.modelAlreadySet (r.find id).name bound.toValue) r := by
  rw [setModel, if_neg (by simp [h])]
  dsimp only
  rw [estate_get_bind]
  simp only [hmodel]
  rfl

/-- The attributes that the bridge predefines are declared once it is there; a failure gives the schema
back. -/
theorem setModel_of_none {current : Config} {m : Model} {options : Options}
    (h : options.uses ["cls", "model"] = false) (hmodel : (r.find id).schema.model = none) :
    setModel current id m options r =
      match bridgeFor current m with
      | .error e => .error e r
      | .ok bridge =>
        match (lift (bridge.automatic options) >>= declareAll id) (r.update id (·.bound m bridge)) with
        | .ok _ r' => .ok () r'
        | .error e r' => .error e (r'.update id (·.restored (r.find id).schema)) := by
  rw [setModel, if_neg (by simp [h])]
  dsimp only
  rw [estate_get_bind]
  simp only [hmodel]
  cases hbridge : bridgeFor current m with
  | error e => rfl
  | ok bridge =>
    change (tryCatch (lift (bridge.automatic options) >>= declareAll id) _ : Declaring Unit)
      (r.update id (·.bound m bridge)) = _
    rw [estate_tryCatch_eq]
    dsimp only
    cases (lift (bridge.automatic options) >>= declareAll id) (r.update id (·.bound m bridge)) <;> rfl

/-- The attributes that a bridge predefines are declared up to the first that is rejected. -/
theorem predefine_front (id : Nat) (bridge : Bridge) (options : Options) (r : Registry) :
    ∃ front, (∀ b ∈ front, ∃ bs, bridge.automatic options = .ok bs ∧ b ∈ bs) ∧
      (∀ b ∈ (r.find id).rewrittenAll front, b.IsStrict) ∧
      after (lift (bridge.automatic options) >>= declareAll id) r =
        r.update id (·.withAttributes ((r.find id).rewrittenAll front)) := by
  cases bridge.automatic options with
  | error e =>
    refine ⟨[], List.forall_mem_nil _, by simp [SearchClass.rewrittenAll], ?_⟩
    exact (update_withAttributes_nil r id).symm
  | ok bs =>
    obtain ⟨front, hfront, hstrict, hafter, -⟩ := declareAll_front id bs r
    exact ⟨front, fun b hb => ⟨bs, rfl, hfront.subset hb⟩, hstrict, hafter⟩

/-- If attributes are predefined, they are those of the bridge. -/
theorem predefine_eq_ok {bridge : Bridge} {options : Options} {u : Unit}
    (h : (lift (bridge.automatic options) >>= declareAll id) r = .ok u r') :
    ∃ bs, bridge.automatic options = .ok bs ∧ (∀ b ∈ (r.find id).rewrittenAll bs, b.IsStrict) ∧
      r' = r.update id (·.withAttributes ((r.find id).rewrittenAll bs)) := by
  obtain ⟨bs, r₁, hlift, hall⟩ := estate_bind_eq_ok.mp h
  obtain ⟨hautomatic, rfl⟩ := Bridge.lift_eq_ok hlift
  exact ⟨bs, hautomatic, declareAll_eq_ok hall⟩

/-- **What a binding does.** It is rejected at once, declares all attributes that the bridge predefines,
or gives back the schema after some of them. -/
theorem setModel_cases (current : Config) (hid : id < r.classes.length) (m : Model)
    (options : Options) :
    (∃ e, setModel current id m options r = .error e r) ∨
      ∃ c, ClassOperation.Changes (r.find id) (.setModel current id m options) c ∧
        (setModel current id m options r = .ok () (r.update id fun _ => c) ∧
            (∀ b ∈ (r.find id).predefined current m options, b.IsStrict) ∧
            (∃ bridge, c = ((r.find id).bound m bridge).withAttributes
              ((r.find id).predefined current m options)) ∨
          ∃ e, setModel current id m options r = .error e (r.update id fun _ => c)) := by
  by_cases huses : options.uses ["cls", "model"] = true
  · exact Or.inl ⟨_, setModel_of_uses huses⟩
  rw [Bool.not_eq_true] at huses
  cases hmodel : (r.find id).schema.model with
  | some bound => exact Or.inl ⟨_, setModel_of_model huses hmodel⟩
  | none =>
    rw [setModel_of_none huses hmodel]
    cases hbridge : bridgeFor current m with
    | error e => exact Or.inl ⟨e, rfl⟩
    | ok bridge =>
      right
      dsimp only
      have hfind : (r.update id (·.bound m bridge)).find id = (r.find id).bound m bridge :=
        find_update_self hid _
      cases hall : (lift (bridge.automatic options) >>= declareAll id)
        (r.update id (·.bound m bridge)) with
      | ok u r' =>
        obtain ⟨bs, hautomatic, hstrict, rfl⟩ := predefine_eq_ok hall
        rw [hfind] at hstrict ⊢
        have hpredefined : (r.find id).predefined current m options =
            ((r.find id).bound m bridge).rewrittenAll bs := by
          rw [SearchClass.predefined, hbridge]
          dsimp only
          rw [hautomatic]
        rw [hpredefined]
        refine ⟨_, .bound hmodel hbridge hautomatic hstrict, Or.inl ⟨?_, hstrict, bridge, rfl⟩⟩
        rw [update_update, update_eq]
        rfl
      | error e r' =>
        -- The attributes in front of the rejected one keep their members.
        obtain ⟨front, hfront, hstrict, hafter⟩ :=
          predefine_front id bridge options (r.update id (·.bound m bridge))
        rw [hfind] at hstrict hafter
        rw [after, hall] at hafter
        subst hafter
        refine ⟨_, .restored hmodel hbridge hfront hstrict, Or.inr ⟨e, ?_⟩⟩
        dsimp only
        rw [update_update, update_update, update_eq]
        rfl

/-- Nothing changes where there is no such class. -/
theorem after_setModel_of_le (current : Config) (hid : r.classes.length ≤ id) (m : Model)
    (options : Options) : after (setModel current id m options) r = r := by
  by_cases huses : options.uses ["cls", "model"] = true
  · exact after_eq_error (setModel_of_uses huses)
  rw [Bool.not_eq_true] at huses
  have hmodel : (r.find id).schema.model = none := by
    rw [find, List.getElem?_eq_none hid]
    rfl
  rw [after, setModel_of_none huses hmodel]
  cases bridgeFor current m with
  | error e => rfl
  | ok bridge =>
    dsimp only
    rw [update_of_le hid]
    have hall : after (lift (bridge.automatic options) >>= declareAll id) r = r := by
      obtain ⟨front, -, -, hafter⟩ := predefine_front id bridge options r
      exact hafter.trans (update_of_le hid _)
    rw [after] at hall
    cases hres : (lift (bridge.automatic options) >>= declareAll id) r with
    | ok u r' =>
      rw [hres] at hall
      exact hall
    | error e r' =>
      rw [hres] at hall
      obtain rfl : r' = r := hall
      exact update_of_le hid _

/-- Binding a model is a step. -/
theorem steps_setModel (current : Config) (id : Nat) (m : Model) (options : Options) (r : Registry) :
    Steps r (.setModel current id m options) (after (setModel current id m options) r) := by
  rcases lt_or_ge id r.classes.length with hid | hid
  · obtain ⟨e, h⟩ | ⟨c, hc, ⟨h, -⟩ | ⟨e, h⟩⟩ := setModel_cases current hid m options
    · rw [after_eq_error h]
      exact .refl r _
    · rw [after, h]
      exact .changed hc
    · rw [after, h]
      exact .changed hc
  · rw [after_setModel_of_le current hid]
    exact .refl r _

/-- A row of declarations of the builders that an operation gives. -/
theorem steps_declareAll {op : ClassOperation} {bs : List Builder} (h : bs <+: op.given)
    (r : Registry) : Steps r op (after (declareAll (op.target r) bs) r) := by
  obtain ⟨front, hfront, hstrict, hafter, -⟩ := declareAll_front (op.target r) bs r
  rw [hafter, update_eq]
  exact .changed (.declared (hfront.trans h) hstrict)

/-- Attributes are declared one by one, unless their names are no texts. -/
theorem accessor_cases (id : Nat) (names : List Value) (options : Options) (block : Option Hook)
    (r : Registry) :
    (∃ e, accessor id names options block r = .error e r) ∨
      accessor id names options block r =
        declareAll id (ClassOperation.accessor id names options block).given r := by
  rw [accessor]
  split
  next => exact Or.inl ⟨.wrongType, rfl⟩
  next =>
    dsimp only
    cases htexts : names.mapM fun n =>
      match n with
      | .text s => Except.ok s
      | v => .error (Failure.attributeNameNotText v) with
    | error e => exact Or.inl ⟨e, rfl⟩
    | ok texts =>
      -- The names are texts, and each of them is declared by a builder of its own.
      right
      change declareAll id (texts.map fun name => { name, options, block }) r = _
      congr 2
      rw [mapM_eq_ok_iff] at htexts
      rw [ClassOperation.given]
      induction htexts with
      | nil => rfl
      | @cons n text names texts hn _ ih =>
        rw [List.map_cons, ih]
        split at hn
        next =>
          cases hn
          rfl
        next => cases hn

/-- A subclass is added before it is bound, and a failure takes it away again. -/
theorem subclass_eq {methods : List (String × Hook)} {options : Options}
    (hmethods : (methods.any fun m => m.1 == "schema") = false) (huses : options.uses ["cls"] = false)
    (current : Config) (name : String) (parent : Nat) (m : Option Model) (r : Registry) :
    subclass current name parent methods m options r =
      match modelFor m options with
      | some m' =>
        match setModel current r.classes.length m' (options.erase "model")
          (r.append ((r.find parent).made parent name methods)) with
        | .ok _ r' => .ok r.classes.length r'
        | .error e _ => .error e r
      | none =>
        if (options.erase "model").isEmpty then
          .ok r.classes.length (r.append ((r.find parent).made parent name methods))
        else .error (.optionsWithoutModel (Failure.sortNames ((options.erase "model").map (·.1)))) r := by
  rw [subclass, if_neg (by simp [hmethods]), if_neg (by simp [huses])]
  dsimp only
  rw [estate_get_bind, estate_set_bind, estate_bind_eq, estate_tryCatch_eq]
  cases hmodel : modelFor m options with
  | none => cases (options.erase "model").isEmpty <;> rfl
  | some m' =>
    dsimp only
    rw [estate_bind_eq, append, SearchClass.made]
    cases setModel current r.classes.length m' (options.erase "model") _ <;> rfl

/-- What making a subclass does. A failure leaves no class behind. -/
theorem subclass_cases (current : Config) (name : String) (parent : Nat)
    (methods : List (String × Hook)) (m : Option Model) (options : Options) (r : Registry) :
    (∃ e, subclass current name parent methods m options r = .error e r) ∨
      ∃ c, subclass current name parent methods m options r = .ok r.classes.length (r.append c) ∧
        (modelFor m options = none ∧ c = (r.find parent).made parent name methods ∨
          ∃ m', modelFor m options = some m' ∧
            ClassOperation.Changes ((r.find parent).made parent name methods)
              (.setModel current r.classes.length m' (options.erase "model")) c ∧
            (∀ b ∈ ((r.find parent).made parent name methods).predefined current m'
              (options.erase "model"), b.IsStrict) ∧
            ∃ bridge, c = (((r.find parent).made parent name methods).bound m' bridge).withAttributes
              (((r.find parent).made parent name methods).predefined current m'
                (options.erase "model"))) := by
  by_cases hmethods : (methods.any fun m => m.1 == "schema") = true
  · exact Or.inl ⟨.noAttribute, by rw [subclass, if_pos hmethods]; rfl⟩
  by_cases huses : options.uses ["cls"] = true
  · exact Or.inl ⟨.wrongType, by rw [subclass, if_neg hmethods, if_pos huses]; rfl⟩
  rw [subclass_eq (Bool.eq_false_iff.mpr hmethods) (Bool.eq_false_iff.mpr huses)]
  cases hmodel : modelFor m options with
  | none =>
    dsimp only
    split
    next => exact Or.inr ⟨_, rfl, Or.inl ⟨rfl, rfl⟩⟩
    next => exact Or.inl ⟨_, rfl⟩
  | some m' =>
    dsimp only
    -- The class that is bound is the one that was appended, and it is put in anew with its model.
    have hlast : r.classes.length < (r.append ((r.find parent).made parent name methods)).classes.length := by
      simp [append]
    obtain ⟨e, h⟩ | ⟨c, hc, ⟨h, hbound⟩ | ⟨e, h⟩⟩ :=
      setModel_cases current hlast m' (options.erase "model")
    · exact Or.inl ⟨e, by rw [h]⟩
    · rw [find_append_self] at hc hbound
      refine Or.inr ⟨c, ?_, Or.inr ⟨m', rfl, hc, hbound⟩⟩
      rw [h, update_append]
    · exact Or.inl ⟨e, by rw [h]⟩

end Registry

/-- A subclass that is made has no other trace than the class. -/
theorem ClassOperation.after_run_subclass {current : Config} {name : String} {parent : Nat}
    {methods : List (String × Hook)} {m : Option Model} {options : Options} {r : Registry} :
    after (subclass current name parent methods m options).run r =
      after (Registry.subclass current name parent methods m options) r := by
  rw [run, after_bind, after]
  cases Registry.subclass current name parent methods m options r <;> rfl

/-- **What an operation does.** It changes the class that it is called on, or adds one, and no more. -/
theorem ClassOperation.steps (op : ClassOperation) (r : Registry) : r.Steps op (after op.run r) := by
  cases op with
  | subclass current name parent methods m options =>
    rw [after_run_subclass, after]
    obtain ⟨e, h⟩ | ⟨c, h, ⟨-, rfl⟩ | ⟨m', hm', hc, -⟩⟩ :=
      Registry.subclass_cases current name parent methods m options r
    · rw [h]
      exact .refl r _
    · rw [h]
      exact .made .unbound
    · rw [h]
      exact .made (.bound hm' hc)
  | setModel current id m options => exact Registry.steps_setModel current id m options r
  | accessor id names options block =>
    rw [run]
    obtain ⟨e, h⟩ | h := Registry.accessor_cases id names options block r
    · rw [after_eq_error h]
      exact .refl r _
    · rw [after, h]
      exact Registry.steps_declareAll (List.prefix_refl _) r
  -- The other accessors come down to the declarations of the first one once their parameters are read.
  | accessorOf id name options block =>
    rw [run, Registry.accessorOf]
    split
    next => exact .refl r _
    next =>
      obtain ⟨e, h⟩ | h := Registry.accessor_cases id [name] options block r
      · dsimp only
        rw [after_eq_error h]
        exact .refl r _
      · dsimp only
        rw [after, h]
        rw [← given_accessorOf]
        exact Registry.steps_declareAll
          (List.prefix_refl (ClassOperation.accessorOf id name options block).given) r
  | accessorBuilder id b options block =>
    rw [run, Registry.accessorBuilder]
    split
    next => exact .refl r _
    next =>
      split
      next => exact .refl r _
      next =>
        dsimp only
        rw [← Registry.declareAll_singleton]
        exact Registry.steps_declareAll
          (List.prefix_refl (ClassOperation.accessorBuilder id b options block).given) r
  | addAttribute id b =>
    rw [run]
    obtain ⟨hstrict, h⟩ | ⟨e, h⟩ := Registry.addAttribute_cases id b r
    · rw [after, h]
      dsimp only
      rw [Registry.update_eq]
      exact .changed (.added hstrict)
    · rw [after_eq_error h]
      exact .refl r _
  | addCallbacks id callbacks =>
    change r.Steps _ (r.update id (·.withCallbacks callbacks))
    rw [Registry.update_eq]
    exact .changed .callbacks

/-- No step loses a class. -/
theorem Registry.Steps.length_le {r r' : Registry} {op : ClassOperation} (h : r.Steps op r') :
    r.classes.length ≤ r'.classes.length := by
  cases h with
  | changed _ => rw [length_update]
  | made _ => simp [append]

/-- **What becomes of a class.** It stays as it is, is changed by the operation, or is the new one. -/
theorem Registry.Steps.find_cases {r r' : Registry} {op : ClassOperation} (h : r.Steps op r')
    (i : Nat) :
    r'.find i = r.find i ∨
      i = op.target r ∧ i < r.classes.length ∧ ClassOperation.Changes (r.find i) op (r'.find i) ∨
      i = op.target r ∧ i = r.classes.length ∧ ClassOperation.Makes r op (r'.find i) := by
  cases h with
  | changed hc =>
    by_cases hi : i = op.target r
    · subst hi
      rcases lt_or_ge (op.target r) r.classes.length with hid | hid
      · refine Or.inr (Or.inl ⟨rfl, hid, ?_⟩)
        rw [find_update_self hid]
        exact hc
      · exact Or.inl (by rw [update_of_le hid])
    · exact Or.inl (find_update_ne r hi _)
  | made hc =>
    by_cases hi : i = r.classes.length
    · refine Or.inr (Or.inr ⟨by rw [hc.target_eq, hi], hi, ?_⟩)
      rw [hi, find_append_self]
      exact hc
    · exact Or.inl (find_append_ne r _ hi)

/-- What no change breaks, and no new class, holds of all classes. -/
theorem Registry.Steps.forall_find {I : SearchClass → Prop}
    (hchange : ∀ c op c', ClassOperation.Changes c op c' → I c → I c')
    (hmade : ∀ p parent name methods, I p → I (p.made parent name methods)) {r r' : Registry}
    {op : ClassOperation} (h : r.Steps op r') (hr : ∀ i, I (r.find i)) : ∀ i, I (r'.find i) := by
  intro i
  obtain hfind | ⟨-, -, hc⟩ | ⟨-, -, hc⟩ := h.find_cases i
  · rw [hfind]
    exact hr i
  · exact hchange _ _ _ hc (hr i)
  · generalize r'.find i = c at hc ⊢
    cases hc with
    | unbound => exact hmade _ _ _ _ (hr _)
    | bound _ hc => exact hchange _ _ _ hc (hmade _ _ _ _ (hr _))

/-! ## Runs -/

/-- Operations run one after the other, each on a class that is there. Those that fail count too, with
what they leave behind. -/
inductive Registry.Runs (r : Registry) : List ClassOperation → Registry → Prop
  | nil : Runs r [] r
  | snoc {ops : List ClassOperation} {r' : Registry} {op : ClassOperation} :
    Runs r ops r' → op.IsOn r' → Runs r (ops ++ [op]) (after op.run r')

/-- What no step breaks holds after every run. -/
theorem Registry.Runs.keeps {I : Registry → Prop}
    (hstep : ∀ r op r', I r → ClassOperation.IsOn r op → r.Steps op r' → I r') {r r' : Registry}
    {ops : List ClassOperation} (h : r.Runs ops r') (hr : I r) : I r' := by
  induction h with
  | nil => exact hr
  | snoc _ hop ih => exact hstep _ _ _ ih hop (ClassOperation.steps _ _)

/-- What all changes keep holds of every class, once it holds of those that are made. -/
theorem Registry.Runs.forall_find {I : SearchClass → Prop}
    (hchange : ∀ c op c', ClassOperation.Changes c op c' → I c → I c')
    (hmade : ∀ p parent name methods, I p → I (p.made parent name methods))
    (hempty : I { name := "Search" }) {r : Registry} {ops : List ClassOperation}
    (h : Registry.Runs {} ops r) : ∀ i, I (r.find i) := by
  refine h.keeps (I := fun r => ∀ i, I (r.find i))
    (fun _ _ _ hr _ hstep => hstep.forall_find hchange hmade hr) fun i => ?_
  cases i <;> exact hempty

/-! ## Names with defaults -/

/-- The names that have a default are those that are listed. -/
def Schema.IsListed (s : Schema) : Prop :=
  ∀ name, s.declares name = true ↔ name ∈ s.names

/-- The attributes that have a default are those that are listed, one more included. -/
theorem Schema.IsListed.register {s : Schema} (h : s.IsListed) (name : String) (default : Value) :
    (s.register name default).IsListed := by
  intro n
  rw [Schema.declares]
  refine (any_putEntry s.defaults name n default).trans ?_
  change _ ↔ n ∈ s.names ++ [name]
  rw [List.mem_append, List.mem_singleton]
  exact or_congr (h n) eq_comm

theorem SearchClass.isListed_withAttributes {c : SearchClass} (h : c.schema.IsListed)
    (bs : List Builder) : (c.withAttributes bs).schema.IsListed := by
  induction bs generalizing c with
  | nil => exact h
  | cons b bs ih => exact ih (h.register b.name _)

theorem ClassOperation.Changes.isListed {c c' : SearchClass} {op : ClassOperation}
    (h : Changes c op c') (hc : c.schema.IsListed) : c'.schema.IsListed := by
  cases h with
  | declared _ _ => exact SearchClass.isListed_withAttributes hc _
  | added _ => exact hc.register _ _
  | callbacks => exact hc
  | bound _ _ _ _ => exact SearchClass.isListed_withAttributes (c := c.bound _ _) hc _
  | restored _ _ _ _ => exact hc

/-- In every registry the attributes that have a default are those that are listed. -/
theorem Registry.Runs.isListed {r : Registry} {ops : List ClassOperation} (h : Registry.Runs {} ops r)
    (i : Nat) : (r.find i).schema.IsListed :=
  h.forall_find (I := fun c => c.schema.IsListed) (fun _ _ _ hc => hc.isListed)
    (fun _ _ _ _ hp => hp) (by intro name; simp [Schema.declares]) i

/-- No attribute that is declared is named like what every search has. -/
theorem SearchClass.not_reserved_withAttributes {c : SearchClass}
    (h : ∀ name ∈ c.schema.names, name ∉ reservedNames) {bs : List Builder}
    (hbs : ∀ b ∈ bs, b.IsStrict) :
    ∀ name ∈ (c.withAttributes bs).schema.names, name ∉ reservedNames := by
  induction bs generalizing c with
  | nil => exact h
  | cons b bs ih =>
    rw [List.forall_mem_cons] at hbs
    refine ih (fun name hname => ?_) hbs.2
    rcases List.mem_append.mp hname with hname | hname
    · exact h name hname
    · rw [List.mem_singleton.mp hname]
      exact hbs.1.not_reserved

/-- No attribute is named like what every search has. -/
theorem Registry.Runs.not_reserved {r : Registry} {ops : List ClassOperation}
    (h : Registry.Runs {} ops r) (i : Nat) : ∀ name ∈ (r.find i).schema.names, name ∉ reservedNames := by
  refine h.forall_find (I := fun c => ∀ name ∈ c.schema.names, name ∉ reservedNames)
    (fun c op c' hchange hc => ?_) (fun _ _ _ _ hp => hp) (fun name hname => by cases hname) i
  cases hchange with
  | declared _ hstrict => exact SearchClass.not_reserved_withAttributes hc hstrict
  | @added id b hstrict =>
    have hall : ∀ b' ∈ [b], b'.IsStrict := List.forall_mem_singleton.mpr hstrict
    exact SearchClass.not_reserved_withAttributes hc hall
  | callbacks => exact hc
  | bound _ _ _ hstrict =>
    exact SearchClass.not_reserved_withAttributes (c := c.bound _ _) hc hstrict
  | restored _ _ _ _ => exact hc

end SearchQuery
