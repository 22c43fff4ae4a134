import Mathlib.Logic.Relation
import SearchQuery.Proofs.Search.Change
import SearchQuery.Search.Composition

/-!
# Declarations stay where they are made

Search classes form a tree, in which a class has a copy of what its parent had declared and looks up the
members of all its ancestors. An operation on a class is seen by that class and, through its members, by
its descendants. No other class sees any of it, and no other class, descendant or not, declares anything
that it did not declare before. A model that a class is bound to outlasts every later operation
(`declarations_isolated`).
-/

namespace SearchQuery

namespace Registry

variable {r r' : Registry} {op : ClassOperation} {i : Nat}

/-! ## Classes that are not touched -/

/-- A step changes its target only. -/
theorem Steps.find_ne (h : r.Steps op r') (hi : i ≠ op.target r) : r'.find i = r.find i := by
  obtain hfind | ⟨htarget, -⟩ | ⟨htarget, -⟩ := h.find_cases i
  · exact hfind
  · exact absurd htarget hi
  · exact absurd htarget hi

/-- Classes that have not changed have the same members. -/
theorem findSome?_members_congr {ids : List Nat} (h : ∀ j ∈ ids, r'.find j = r.find j) (key : String) :
    ids.findSome? (fun i => (r'.find i).members.lookup key) =
      ids.findSome? (fun i => (r.find i).members.lookup key) := by
  induction ids with
  | nil => rfl
  | cons j ids ih =>
    rw [List.forall_mem_cons] at h
    rw [List.findSome?_cons, List.findSome?_cons, h.1, ih h.2]

/-- A class is seen as its own members and those of its ancestors tell. -/
theorem view_eq_of_find (h : ∀ j ∈ i :: (r.find i).ancestors, r'.find j = r.find j) :
    r'.view i = r.view i := by
  have hself : r'.find i = r.find i := h i List.mem_cons_self
  have hmember : r'.member? i = r.member? i := by
    funext name
    unfold member?
    rw [hself]
    exact findSome?_members_congr h name
  rw [view, view, hself, hmember]

/-- Nothing has changed in a class and its ancestors where the operation is about none of them. -/
theorem Steps.find_chain (h : r.Steps op r') (hi : i ≠ op.target r)
    (hancestor : op.target r ∉ (r.find i).ancestors) :
    ∀ j ∈ i :: (r.find i).ancestors, r'.find j = r.find j := by
  intro j hj
  refine h.find_ne ?_
  rintro rfl
  rcases List.mem_cons.mp hj with rfl | hj
  · exact hi rfl
  · exact hancestor hj

/-- So a class sees the same, unless the target is one of its ancestors. -/
theorem Steps.view_eq (h : r.Steps op r') (hi : i ≠ op.target r)
    (hancestor : op.target r ∉ (r.find i).ancestors) : r'.view i = r.view i :=
  view_eq_of_find (h.find_chain hi hancestor)

/-! ## The tree of classes -/

/-- The class was made as a subclass of the other one, or of one of its descendants. -/
def Descends (r : Registry) : Nat → Nat → Prop :=
  Relation.TransGen fun i p => (r.find i).ancestors.head? = some p

/-- Every class lists its parent and the ancestors of its parent, which was there before. -/
def IsTree (r : Registry) : Prop :=
  ∀ i, (r.find i).ancestors = [] ∨ ∃ p < i, (r.find i).ancestors = p :: (r.find p).ancestors

/-- Where there is no class there is an empty one. -/
theorem find_of_le (h : r.classes.length ≤ i) : r.find i = { name := "Search" } := by
  rw [find, List.getElem?_eq_none h]
  rfl

theorem isTree_initial : IsTree {} := by
  intro i
  cases i with
  | zero => exact Or.inl rfl
  | succ i => exact Or.inl rfl

/-- Ancestors come before their descendants. -/
theorem IsTree.lt_of_mem (h : r.IsTree) {i j : Nat} (hj : j ∈ (r.find i).ancestors) : j < i := by
  -- A parent was there before, so the induction is on the number of the class.
  induction i using Nat.strong_induction_on with
  | _ i ih =>
    obtain hnil | ⟨p, hp, hancestors⟩ := h i
    · rw [hnil] at hj
      cases hj
    · rw [hancestors] at hj
      rcases List.mem_cons.mp hj with rfl | hj
      · exact hp
      · exact (ih p hp hj).trans hp

/-- The ancestors of a class are the classes that it descends from. -/
theorem IsTree.mem_ancestors_iff (h : r.IsTree) (i j : Nat) :
    j ∈ (r.find i).ancestors ↔ r.Descends i j := by
  constructor
  · intro hj
    induction i using Nat.strong_induction_on with
    | _ i ih =>
      obtain hnil | ⟨p, hp, hancestors⟩ := h i
      · rw [hnil] at hj
        cases hj
      · have hparent : (r.find i).ancestors.head? = some p := by rw [hancestors]; rfl
        rw [hancestors] at hj
        rcases List.mem_cons.mp hj with rfl | hj
        · exact .single hparent
        · exact .head hparent (ih p hp hj)
  · intro hj
    induction hj using Relation.TransGen.head_induction_on with
    | single hparent => exact List.mem_of_mem_head? hparent
    | head hparent _ ih =>
      rename_i i p _
      obtain hnil | ⟨q, -, hancestors⟩ := h i
      · rw [hnil] at hparent
        cases hparent
      · rw [hancestors] at hparent ⊢
        cases hparent
        exact List.mem_cons_of_mem _ ih

end Registry

theorem ClassOperation.Changes.ancestors_eq {c c' : SearchClass} {op : ClassOperation}
    (h : Changes c op c') : c'.ancestors = c.ancestors := by
  cases h <;> simp [SearchClass.withCallbacks, SearchClass.bound, SearchClass.restored]

/-- A bound class stays bound to its model, by the same bridge. -/
theorem ClassOperation.Changes.model_eq {c c' : SearchClass} {op : ClassOperation}
    (h : Changes c op c') {m : Model} (hmodel : c.schema.model = some m) :
    c'.schema.model = some m ∧ c'.schema.bridge = c.schema.bridge := by
  cases h with
  | declared _ _ => exact ⟨by simpa using hmodel, by simp⟩
  | added _ => exact ⟨hmodel, rfl⟩
  | callbacks => exact ⟨hmodel, rfl⟩
  | bound hnone _ _ _ =>
    rw [hmodel] at hnone
    cases hnone
  | restored hnone _ _ _ => exact ⟨hmodel, rfl⟩

/-- A class is bound to a model if it has a bridge, and only then. -/
theorem ClassOperation.Changes.bridge_isSome {c c' : SearchClass} {op : ClassOperation}
    (h : Changes c op c') (hc : c.schema.model.isSome = c.schema.bridge.isSome) :
    c'.schema.model.isSome = c'.schema.bridge.isSome := by
  cases h with
  | declared _ _ => simpa using hc
  | added _ => exact hc
  | callbacks => exact hc
  | bound _ _ _ _ => simp [SearchClass.bound]
  | restored _ _ _ _ => exact hc

namespace Registry

variable {r r' : Registry} {op : ClassOperation} {i : Nat}

/-- Ancestors stay what they are. -/
theorem Steps.ancestors_eq (h : r.Steps op r') (hi : i < r.classes.length) :
    (r'.find i).ancestors = (r.find i).ancestors := by
  obtain hfind | ⟨-, -, hc⟩ | ⟨-, hlast, -⟩ := h.find_cases i
  · rw [hfind]
  · exact hc.ancestors_eq
  · omega

/-- A step leaves a tree. -/
theorem IsTree.steps (hr : r.IsTree) (hop : op.IsOn r) (h : r.Steps op r') : r'.IsTree := by
  intro i
  rcases lt_or_ge i r.classes.length with hi | hi
  · rw [h.ancestors_eq hi]
    obtain hnil | ⟨p, hp, hancestors⟩ := hr i
    · exact Or.inl hnil
    · exact Or.inr ⟨p, hp, by rw [h.ancestors_eq (hp.trans hi), hancestors]⟩
  · obtain hfind | ⟨-, hlt, -⟩ | ⟨-, hlast, hc⟩ := h.find_cases i
    · rw [hfind, find_of_le hi]
      exact Or.inl rfl
    · omega
    · -- A new class comes after its parent, which is there.
      obtain ⟨parent, hparent, hancestors⟩ : ∃ parent < r.classes.length,
          (r'.find i).ancestors = parent :: (r.find parent).ancestors := by
        generalize r'.find i = c at hc ⊢
        cases hc with
        | unbound => exact ⟨_, hop, rfl⟩
        | bound _ hc => exact ⟨_, hop, hc.ancestors_eq⟩
      refine Or.inr ⟨parent, by omega, ?_⟩
      rw [hancestors, h.ancestors_eq hparent]

/-- Every registry that operations make is a tree. -/
theorem Runs.isTree {ops : List ClassOperation} (h : Runs {} ops r) : r.IsTree :=
  h.keeps (fun _ _ _ hr hop hstep => hr.steps hop hstep) isTree_initial

/-! ## Models that are bound -/

/-- A model that is set stays, and its bridge with it. -/
theorem Steps.model_eq (h : r.Steps op r') {m : Model} (hmodel : (r.find i).schema.model = some m) :
    (r'.find i).schema.model = some m ∧ (r'.find i).schema.bridge = (r.find i).schema.bridge := by
  obtain hfind | ⟨-, -, hc⟩ | ⟨-, hlast, -⟩ := h.find_cases i
  · rw [hfind]
    exact ⟨hmodel, rfl⟩
  · exact hc.model_eq hmodel
  · rw [find_of_le (by omega)] at hmodel
    cases hmodel

theorem Runs.model_eq {ops : List ClassOperation} (h : r.Runs ops r') {m : Model}
    (hmodel : (r.find i).schema.model = some m) :
    (r'.find i).schema.model = some m ∧ (r'.find i).schema.bridge = (r.find i).schema.bridge :=
  h.keeps (I := fun r' => (r'.find i).schema.model = some m ∧
      (r'.find i).schema.bridge = (r.find i).schema.bridge)
    (fun _ _ _ hr _ hstep => ⟨(hstep.model_eq hr.1).1, (hstep.model_eq hr.1).2.trans hr.2⟩)
    ⟨hmodel, rfl⟩

/-- A class has a bridge if it has a model. -/
theorem Runs.bridge_isSome {ops : List ClassOperation} (h : Runs {} ops r) (i : Nat) :
    (r.find i).schema.model.isSome = (r.find i).schema.bridge.isSome :=
  h.forall_find (I := fun c => c.schema.model.isSome = c.schema.bridge.isSome)
    (fun _ _ _ hc => hc.bridge_isSome) (fun _ _ _ _ hp => hp) rfl i

/-- A subclass of a bound class cannot be given a model. -/
theorem subclass_of_model {current : Config} {name : String} {parent : Nat}
    {methods : List (String × Hook)} {bound m' : Model} {m : Option Model} {options : Options}
    (hmethods : (methods.any fun m => m.1 == "schema") = false) (huses : options.uses ["cls"] = false)
    (hgiven : modelFor m options = some m') (hmodel : (r.find parent).schema.model = some bound) :
    subclass current name parent methods m options r = .error (.modelAlreadySet name bound.toValue) r := by
  have hleft : Options.uses (options.erase "model") ["cls", "model"] = false := by
    rw [Options.uses, List.any_eq_false] at huses ⊢
    intro p hp
    obtain ⟨hp, hne⟩ := List.mem_filter.mp hp
    have hcls := huses p hp
    simp_all
  have hfind : ((r.append ((r.find parent).made parent name methods)).find r.classes.length) =
      (r.find parent).made parent name methods := find_append_self r _
  rw [subclass_eq hmethods huses, hgiven]
  dsimp only
  rw [setModel_of_model hleft (by rw [hfind]; exact hmodel), hfind]
  rfl

/-! ## Isolation -/

/-- **Declarations stay where they are made.** An operation leaves every class that is neither its own nor
a descendant of it as it is, in all that its searches see, and it leaves what every other class declares.
A model stays bound in every later run, and then no other model is bound. -/
theorem declarations_isolated {ops : List ClassOperation} (hrun : Runs {} ops r)
    (op : ClassOperation) :
    (∀ i, i ≠ op.target r → ¬ r.Descends i (op.target r) →
      (after op.run r).view i = r.view i ∧
      ∀ s, Search.findOptions ((after op.run r).view i) s = Search.findOptions (r.view i) s) ∧
    (∀ i, i ≠ op.target r → ((after op.run r).find i).schema = (r.find i).schema) ∧
    ∀ i m, (r.find i).schema.model = some m → ∀ more r', r.Runs more r' →
      (r'.find i).schema.model = some m ∧
      (∀ current m' options, options.uses ["cls", "model"] = false →
        setModel current i m' options r' = .error (.modelAlreadySet (r'.find i).name m.toValue) r') ∧
      ∀ current name methods given m' options, (methods.any fun m => m.1 == "schema") = false →
        options.uses ["cls"] = false → modelFor given options = some m' →
        subclass current name i methods given options r' =
          .error (.modelAlreadySet name m.toValue) r' := by
  have hstep : r.Steps op (after op.run r) := op.steps r
  refine ⟨fun i hi hdescends => ?_, fun i hi => ?_, fun i m hmodel more r' hmore => ?_⟩
  · have hancestor : op.target r ∉ (r.find i).ancestors := by
      rwa [hrun.isTree.mem_ancestors_iff]
    have hview : (after op.run r).view i = r.view i := hstep.view_eq hi hancestor
    exact ⟨hview, fun s => by rw [hview]⟩
  · rw [hstep.find_ne hi]
  · have hkept : (r'.find i).schema.model = some m := (hmore.model_eq hmodel).1
    refine ⟨hkept, fun current m' options huses => setModel_of_model huses hkept, ?_⟩
    intro current name methods given m' options hmethods huses hgiven
    exact subclass_of_model hmethods huses hgiven hkept

/-- Two subclasses of the first class, the second of which is bound, and a subclass of the first one. -/
def cousins : List ClassOperation := [
  .subclass {} "Left" root [] none [],
  .subclass {} "Right" root [] (some (.custom "Plain" {})) [],
  .subclass {} "Inner" 1 [] none []]

/-- The registry that operations leave. -/
def afterAll (ops : List ClassOperation) (r : Registry) : Registry :=
  ops.foldl (fun r op => after op.run r) r

theorem runs_cousins : Runs {} cousins (afterAll cousins {}) := by
  have hroot : Runs {} ([] ++ [cousins[0]] ++ [cousins[1]] ++ [cousins[2]]) (afterAll cousins {}) :=
    .snoc (.snoc (.snoc .nil (by decide)) (by decide)) (by decide)
  exact hroot

/-- An attribute of one class is not seen by a class beside it, and not declared by its own subclass; the
class beside it stays bound. -/
theorem declarations_isolated_cousins :
    let r := afterAll cousins {}
    let op := ClassOperation.accessor 1 [.text "a"] [] none
    Runs {} cousins r ∧ ((after op.run r).find 1).schema.names = ["a"] ∧
      (after op.run r).view 2 = r.view 2 ∧ ((after op.run r).find 3).schema.names = [] ∧
      setModel {} 2 (.bare "Other") [] (after op.run r) =
        .error (.modelAlreadySet "Right" (.model "Plain")) (after op.run r) := by
  intro r op
  have hisolated := declarations_isolated runs_cousins op
  refine ⟨runs_cousins, rfl, ?_, ?_, ?_⟩
  · refine (hisolated.1 2 (by decide) ?_).1
    rw [← runs_cousins.isTree.mem_ancestors_iff]
    decide
  · rw [hisolated.2.1 3 (by decide)]
    rfl
  · have hmodel : (r.find 2).schema.model = some (.custom "Plain" {}) := rfl
    exact (hisolated.2.2 2 _ hmodel [op] _ (.snoc .nil (by decide))).2.1 {} _ [] rfl

end Registry

end SearchQuery
