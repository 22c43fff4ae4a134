import SearchQuery.Proofs.Merge.Kept
import SearchQuery.Proofs.Search.Offered
import SearchQuery.Search.Workspace

/-!
# Options behind a scope

Options of an ordinary query can be merged behind the scope that values for search attributes describe. What
comes out is what a search of a class gives that has one attribute more than the implicit class of the
model, which is given by default and contributes the options (`scoped_as_last_attribute`).

## Shape of a workspace

The implicit class of a model is made when it is first asked for, and takes declarations from then on. It
has no class body, so nothing takes the place of the operations of its searches. `Workspace.Reached` tells
the workspaces that operations leave, and `Workspace.IsSound` what all of them keep.
-/

namespace SearchQuery

/-! ## Classes without methods -/

/-- All members of the class come from declarations. -/
def SearchClass.HasNoMethods (c : SearchClass) : Prop :=
  ∀ e ∈ c.members, e.1 ∉ reservedNames ∧ ∀ hook, e.2 ≠ .method hook

/-- A declaration gives no method, and nothing under a name that every search has. -/
theorem ChainEvent.member?_declared {b : Builder} (hb : b.IsStrict) {key : String} {m : Member}
    (h : (ChainEvent.declared b).member? key = some m) :
    key ∉ reservedNames ∧ ∀ hook, m ≠ .method hook := by
  rw [ChainEvent.member?] at h
  split at h
  next hkey =>
    cases h
    exact ⟨hkey ▸ hb.not_reserved, by simp⟩
  next =>
    split at h
    next hkey =>
      obtain ⟨block, -, rfl⟩ := Option.map_eq_some_iff.mp h
      exact ⟨hkey ▸ contributionName_not_reserved b.name, by simp⟩
    next => cases h

/-- A class without methods gets none by a change. -/
theorem ClassOperation.Changes.hasNoMethods {c c' : SearchClass} {op : ClassOperation}
    (h : Changes c op c') (hc : c.HasNoMethods) : c'.HasNoMethods :=
  h.forall_members (P := fun key m => key ∉ reservedNames ∧ ∀ hook, m ≠ .method hook)
    (fun _ hb _ _ => ChainEvent.member?_declared hb) hc

namespace Registry

variable {r r' : Registry} {op : ClassOperation} {id : Nat}

/-- Nor does any class by a step. -/
theorem Steps.hasNoMethods (h : r.Steps op r') (hid : id < r.classes.length)
    (hm : (r.find id).HasNoMethods) : (r'.find id).HasNoMethods := by
  obtain hfind | ⟨-, -, hc⟩ | ⟨-, hlast, -⟩ := h.find_cases id
  · rwa [hfind]
  · exact hc.hasNoMethods hm
  · omega

/-- The class was made as the implicit class of a model. -/
structure IsImplicit (r : Registry) (id : Nat) : Prop where
  mem : id < r.classes.length
  ancestors : (r.find id).ancestors = [root]
  own : (r.find id).HasNoMethods
  base : (r.find root).HasNoMethods
  model : (r.find id).schema.model.isSome = true

/-- An implicit class stays one. -/
theorem IsImplicit.steps (h : r.IsImplicit id) (hstep : r.Steps op r') : r'.IsImplicit id where
  mem := h.mem.trans_le hstep.length_le
  ancestors := (hstep.ancestors_eq h.mem).trans h.ancestors
  own := hstep.hasNoMethods h.mem h.own
  base := hstep.hasNoMethods (Nat.zero_le _ |>.trans_lt h.mem) h.base
  model := by
    obtain ⟨m, hm⟩ := Option.isSome_iff_exists.mp h.model
    rw [(hstep.model_eq hm).1]
    rfl

/-- Nothing takes the place of what every search has. -/
theorem IsImplicit.member?_eq_none (h : r.IsImplicit id) {key : String} (hkey : key ∈ reservedNames) :
    (r.view id).member? key = none := by
  rw [← Option.not_isSome_iff_eq_none, Option.isSome_iff_exists]
  rintro ⟨m, hm⟩
  obtain ⟨i, hi, hmem⟩ := mem_of_member? hm
  rw [h.ancestors] at hi
  rcases List.mem_cons.mp hi with rfl | hi
  · exact (h.own _ hmem).1 hkey
  · rw [List.mem_singleton.mp hi] at hmem
    exact (h.base _ hmem).1 hkey

/-- An implicit class that is made is bound to its model, and has no class body. -/
theorem isImplicit_of_subclass {ops : List ClassOperation} (hruns : Runs {} ops r)
    (hnonempty : root < r.classes.length) (hbase : (r.find root).HasNoMethods)
    {current : Config} {name : String} {m : Model} (hclass : m.className?.isSome = true) {c : SearchClass}
    (h : subclass current name root [] (some m) [] r =
      .ok r.classes.length (r.append c)) : (r.append c).IsImplicit r.classes.length := by
  have hgiven : modelFor (some m) [] = some m := by
    rw [modelFor]
    split
    next heq =>
      cases heq
      cases hclass
    next => rfl
  obtain ⟨e, hfailed⟩ | ⟨c', hsub, ⟨hnone, -⟩ | ⟨m', hm', hchanges, -, bridge, hbound⟩⟩ :=
    subclass_cases current name root [] (some m) [] r
  · rw [h] at hfailed
    cases hfailed
  · rw [hgiven] at hnone
    cases hnone
  · have hc : r.append c = r.append c' := by
      have hsame := h.symm.trans hsub
      exact (EStateM.Result.ok.inj hsame).2
    have hself : (r.append c).find r.classes.length = c' := by rw [hc, find_append_self]
    have hroot : (r.append c).find root = r.find root :=
      find_append_ne r c hnonempty.ne
    -- The root has no ancestors, for they would have been made before it.
    have hnone : (r.find root).ancestors = [] := by
      obtain hnil | ⟨p, hp, -⟩ := hruns.isTree root
      · exact hnil
      · exact absurd hp (Nat.not_lt_zero p)
    refine ⟨by simp [append], ?_, ?_, by rwa [hroot], ?_⟩
    · rw [hself, hchanges.ancestors_eq]
      exact congrArg (root :: ·) hnone
    · rw [hself]
      exact hchanges.hasNoMethods fun e he => by cases he
    · rw [hself, hbound, SearchClass.withAttributes_model]
      rfl

end Registry

/-! ## Workspaces that operations leave -/

namespace Workspace

/-- The workspace is left by operations: those on the search classes, those that ask for implicit classes,
and any that change neither. -/
inductive Reached : Workspace → Prop
  | initial : Reached {}
  | declared {w : Workspace} {op : ClassOperation} : Reached w → op.IsOn w.registry →
    Reached { w with registry := after op.run w.registry }
  | asked {w : Workspace} (m : Model) : Reached w → Reached (after (searchClass m) w)
  | beside {w w' : Workspace} : Reached w → w'.registry = w.registry → w'.implicit = w.implicit → Reached w'

/-- What every workspace keeps: its classes come from operations, the first one has no methods, and the
implicit classes are those of models. -/
structure IsSound (w : Workspace) : Prop where
  runs : ∃ ops, Registry.Runs {} ops w.registry
  nonempty : Registry.root < w.registry.classes.length
  base : (w.registry.find Registry.root).HasNoMethods
  implicit : ∀ model id, w.implicit.lookup model = some id → w.registry.IsImplicit id

/-- A workspace stays sound when something is declared in it. -/
theorem IsSound.declared {w : Workspace} (h : w.IsSound) {op : ClassOperation} (hop : op.IsOn w.registry) :
    IsSound { w with registry := after op.run w.registry } := by
  obtain ⟨ops, hruns⟩ := h.runs
  have hstep := op.steps w.registry
  exact ⟨⟨_, hruns.snoc hop⟩, h.nonempty.trans_le hstep.length_le, hstep.hasNoMethods h.nonempty h.base,
    fun model id hid => (h.implicit model id hid).steps hstep⟩

/-- How the implicit class of a model is found: it is there, or is made, or the model has none. -/
theorem searchClass_cases (m : Model) (w : Workspace) :
    (∃ e, searchClass m w = .error e w) ∨
      ∃ model, m.className? = some model ∧
        ((∃ id, w.implicit.lookup model = some id ∧ searchClass m w = .ok id w) ∨
          ∃ c, Registry.subclass w.config (model ++ "Search") Registry.root [] (some m) [] w.registry =
              .ok w.registry.classes.length (w.registry.append c) ∧
            searchClass m w = .ok w.registry.classes.length
              { w with
                registry := w.registry.append c
                implicit := putEntry w.implicit model w.registry.classes.length }) := by
  unfold searchClass
  cases hname : m.className? with
  | none => exact Or.inl ⟨_, rfl⟩
  | some model =>
    dsimp only
    rw [estate_get_bind]
    cases hfound : w.implicit.lookup model with
    | some id => exact Or.inr ⟨model, rfl, Or.inl ⟨id, hfound, rfl⟩⟩
    | none =>
      dsimp only
      rw [estate_get_bind, estate_bind_eq, declaring]
      obtain ⟨e, hsub⟩ | ⟨c, hsub, -⟩ :=
        Registry.subclass_cases w.config (model ++ "Search") Registry.root [] (some m) [] w.registry
      · rw [hsub]
        exact Or.inl ⟨e, rfl⟩
      · rw [hsub]
        exact Or.inr ⟨model, rfl, Or.inr ⟨c, hsub, rfl⟩⟩

/-- It stays so when it is asked for a class. -/
theorem IsSound.asked {w : Workspace} (h : w.IsSound) (m : Model) : (after (searchClass m) w).IsSound := by
  obtain ⟨e, hfailed⟩ | ⟨model, hname, ⟨id, -, hfound⟩ | ⟨c, hsub, hmade⟩⟩ := searchClass_cases m w
  · rwa [after, hfailed]
  · rwa [after, hfound]
  · obtain ⟨ops, hruns⟩ := h.runs
    have hop : (ClassOperation.subclass w.config (model ++ "Search") Registry.root [] (some m) []).IsOn
        w.registry := h.nonempty
    have hafter : after (ClassOperation.subclass w.config (model ++ "Search") Registry.root [] (some m) []).run
        w.registry = w.registry.append c := by
      rw [ClassOperation.after_run_subclass, after, hsub]
    have hnew := Registry.isImplicit_of_subclass hruns h.nonempty h.base (by rw [hname]; rfl) hsub
    have hdeclared := h.declared hop
    rw [hafter] at hdeclared
    rw [after, hmade]
    refine ⟨hdeclared.runs, hdeclared.nonempty, hdeclared.base, fun other id hid => ?_⟩
    by_cases hother : other = model
    · rw [hother, lookup_putEntry] at hid
      cases hid
      exact hnew
    · rw [lookup_putEntry_ne _ _ hother] at hid
      exact hdeclared.implicit other id hid

/-- All workspaces that operations leave are sound. -/
theorem Reached.isSound {w : Workspace} (h : w.Reached) : w.IsSound := by
  induction h with
  | initial =>
    refine ⟨⟨[], .nil⟩, by decide, fun e he => ?_, fun model id hid => ?_⟩
    · cases he
    · cases hid
  | declared _ hop ih => exact ih.declared hop
  | asked m _ ih => exact ih.asked m
  | beside _ hregistry himplicit ih =>
    exact ⟨hregistry ▸ ih.runs, hregistry ▸ ih.nonempty, hregistry ▸ ih.base,
      himplicit ▸ hregistry ▸ ih.implicit⟩

/-- The class that a model is answered with is its implicit class. -/
theorem Reached.isImplicit {w w₁ : Workspace} (hw : w.Reached) {m : Model} {id : Nat}
    (h : searchClass m w = .ok id w₁) :
    (∃ ops, Registry.Runs {} ops w₁.registry) ∧ w₁.registry.IsImplicit id ∧ w₁.labels = w.labels := by
  have hsound := hw.isSound.asked m
  rw [after, h] at hsound
  obtain ⟨e, hfailed⟩ | ⟨model, hname, ⟨id', hlookup, hfound⟩ | ⟨c, hsub, hmade⟩⟩ := searchClass_cases m w
  · rw [h] at hfailed
    cases hfailed
  · rw [h] at hfound
    cases hfound
    exact ⟨hsound.runs, hsound.implicit model id hlookup, rfl⟩
  · rw [h] at hmade
    cases hmade
    exact ⟨hsound.runs, hsound.implicit model _ (lookup_putEntry _ _ _), rfl⟩

end Workspace

/-! ## Subclasses with one attribute more -/

/-- What is extended is told by members and schema alone. -/
theorem ClassView.Extends.congr {c₁ c c' : ClassView} {b : Builder} (h : c₁.Extends b c')
    (hmember : c₁.member? = c.member?) (hschema : c₁.schema = c.schema) : c.Extends b c' where
  member := hmember ▸ h.member
  names := hschema ▸ h.names
  defaults := hschema ▸ h.defaults
  strict := h.strict
  model := hschema ▸ h.model
  bridge := hschema ▸ h.bridge
  callbacks := hschema ▸ h.callbacks

namespace Registry

/-- A subclass without a body sees what its parent does. -/
theorem view_append_made {r : Registry} (hr : r.IsTree) {id : Nat} (hid : id < r.classes.length)
    (name : String) :
    let r' := r.append ((r.find id).made id name [])
    (r'.view r.classes.length).member? = (r.view id).member? ∧
      (r'.view r.classes.length).schema = (r.view id).schema := by
  intro r'
  have hself : r'.find r.classes.length = (r.find id).made id name [] := find_append_self r _
  refine ⟨funext fun key => ?_, congrArg (·.schema) hself⟩
  change r'.member? r.classes.length key = r.member? id key
  rw [member?, member?, hself, List.findSome?_cons, hself]
  change (id :: (r.find id).ancestors).findSome? _ = _
  refine findSome?_members_congr (fun i hi => ?_) key
  refine find_append_ne r _ ?_
  rcases List.mem_cons.mp hi with rfl | hi
  · exact hid.ne
  · exact ((hr.lt_of_mem hi).trans hid).ne

/-- A subclass that declares one attribute has it in addition to what its parent has. -/
theorem extends_of_subclass {r r₁ r₂ : Registry} {ops : List ClassOperation} (hruns : Runs {} ops r)
    {id id' : Nat} (hid : id < r.classes.length) {current : Config} {name : String}
    (hsub : subclass current name id [] none [] r = .ok id' r₁) {b : Builder}
    (hadd : addAttribute id' b r₁ = .ok () r₂) : (r.view id).Extends b (r₂.view id') := by
  have hmade : r₁ = r.append ((r.find id).made id name []) ∧ id' = r.classes.length := by
    rw [subclass_eq rfl rfl] at hsub
    cases hsub
    exact ⟨rfl, rfl⟩
  obtain ⟨rfl, rfl⟩ := hmade
  have hop : (ClassOperation.subclass current name id [] none []).IsOn r := hid
  have htree : IsTree (r.append ((r.find id).made id name [])) := by
    have hsnoc := (hruns.snoc hop).isTree
    rwa [ClassOperation.after_run_subclass, after, hsub] at hsnoc
  obtain ⟨hmember, hschema⟩ := view_append_made hruns.isTree hid name
  exact (extends_of_addAttribute htree (by simp [append]) hadd).congr hmember hschema

end Registry

/-! ## Empty option-maps -/

/-- The bridge accepts an option-map without entries, and merges it as nothing. -/
structure Bridge.TakesEmpty (bridge : Bridge) : Prop where
  validate : bridge.validate (.dict []) = .ok ()
  merge : ∀ maps, bridge.merge (maps ++ [.dict []]) = bridge.merge maps

/-- An option-map without entries adds nothing to a merge. -/
theorem FindOptions.merge_append_empty (base : Base) (maps : List Value) :
    merge base (maps ++ [.dict []]) = merge base maps := by
  have hentries : (maps ++ [Value.dict []]).mapM entriesOf = (maps.mapM entriesOf).map (· ++ [[]]) := by
    rw [List.mapM_append]
    cases maps.mapM entriesOf <;> rfl
  rw [merge, merge, hentries]
  cases maps.mapM entriesOf with
  | error e => rfl
  | ok lists =>
    have hflatten : (lists ++ [[]]).flatten = lists.flatten := by simp
    simp only [Except.map, ok_bind, hflatten]

/-- The library's own bridges do so: those of tables, and those that check and merge like the default. -/
theorem Bridge.takesEmpty_of_library {bridge : Bridge}
    (h : (∃ t config, bridge = .relational t config) ∨
      ∃ contract : Contract, bridge = .custom contract ∧ contract.validate = FindOptions.validate ∧
        contract.merge = ({} : Contract).merge) : bridge.TakesEmpty := by
  obtain ⟨t, config, rfl⟩ | ⟨contract, rfl, hvalidate, hmerge⟩ := h
  · refine ⟨rfl, fun maps => ?_⟩
    exact congrArg (Except.map FindOptions.toValue) (FindOptions.merge_append_empty _ maps)
  · refine ⟨?_, fun maps => ?_⟩
    · change contract.validate _ = _
      rw [hvalidate]
      rfl
    · change contract.merge _ = contract.merge _
      rw [hmerge]
      exact congrArg (Except.map FindOptions.toValue) (FindOptions.merge_append_empty _ maps)

/-! ## Options behind a scope -/

/-- The value is that of a mapping, or none. -/
def Value.IsScope (v : Value) : Prop :=
  v = .null ∨ ∃ entries, v = .dict entries

namespace Workspace

variable {w w₁ : Workspace} {m : Model} {id : Nat} {conditions : Value} {options : List (Value × Value)}

/-- No scope is an empty one. -/
theorem scopedOptions_null (m : Model) (options : List (Value × Value)) :
    scopedOptions m .null options = scopedOptions m (.dict []) options := rfl

/-- An operation on a search that is made for it alone gives its answer. -/
theorem answer_onFreshSearch {α : Type} (id : Nat) (act : ClassView → Searching α) (w : Workspace) :
    answer (onFreshSearch id act) w = answer (act (w.registry.view id)) { labels := w.labels } := by
  have hfirst : ({ ({} : Search) with labels := w.labels } : Search) = { labels := w.labels } := rfl
  rw [answer, answer, onFreshSearch, estate_bind_eq, searching, hfirst]
  cases act (w.registry.view id) { labels := w.labels } <;> rfl

/-- Options are checked, and merged once behind all that the scope collects. -/
theorem answer_scopedOptions (hclass : searchClass m w = .ok id w₁) {bridge : Bridge}
    (hbridge : (w₁.registry.view id).schema.bridge = some bridge) (hscope : conditions.IsScope) :
    answer (scopedOptions m conditions options) w =
      answer (Search.make (w₁.registry.view id) conditions [] >>= fun _ =>
          Search.optionMaps (w₁.registry.view id)) { labels := w₁.labels } >>= fun maps =>
        bridge.validate (.dict options) >>= fun _ => bridge.merge (maps ++ [.dict options]) := by
  have hfound : Search.bridge (w₁.registry.view id) = .ok bridge := by
    rw [Search.bridge, hbridge]
  have hrun : answer (scopedOptions m conditions options) w =
      answer (do
        let scope ← onFreshSearch id fun c => do
          Search.make c conditions []
          Search.optionMaps c
        Bridge.lift (bridge.validate (.dict options))
        Bridge.lift (bridge.merge (scope ++ [.dict options])) : Working Value) w₁ := by
    rw [answer, scopedOptions, estate_bind_eq, hclass]
    dsimp only
    rw [estate_get_bind, estate_bind_eq, hfound]
    obtain rfl | ⟨entries, rfl⟩ := hscope
    · rfl
    · rfl
  rw [hrun, answer_bind (fun maps w' => ?_), answer_onFreshSearch]
  rw [answer_bind (fun _ w'' => Bridge.answer_lift _ w''), Bridge.answer_lift]

/-- **A scope merged with options.** Options behind a scope give what a search for its values gives, or fail
as it does, of a class that extends the model's implicit class by one last attribute which offers the options.
No scope is an empty one. Everything that the scope collects is checked and merged with the options at once;
without options, this is a search of the implicit class itself if the bridge takes an option-map without
entries for nothing. -/
theorem scoped_as_last_attribute (hw : w.Reached) (hclass : searchClass m w = .ok id w₁) {current : Config}
    {name : String} {id' : Nat} {r₁ r₂ : Registry}
    (hsub : Registry.subclass current name id [] none [] w₁.registry = .ok id' r₁) {b : Builder}
    (hadd : Registry.addAttribute id' b r₁ = .ok () r₂)
    (hoffers : b.Offers (w₁.registry.view id) (r₂.view id') (.dict options)) (hscope : conditions.IsScope)
    (hother : ∀ supplied, Search.suppliedBy conditions [] = .ok supplied → supplied.lookup b.name = none) :
    let c := w₁.registry.view id
    let c' := r₂.view id'
    let s₀ : Search := { labels := w.labels }
    Search.SameAnswer c.name c'.name (answer (scopedOptions m conditions options) w)
        (answer (Search.optionsOf c' conditions 1) s₀) ∧
      scopedOptions m .null options = scopedOptions m (.dict []) options ∧
      ∃ bridge, c.schema.bridge = some bridge ∧
        (∀ result, answer (scopedOptions m conditions options) w = .ok result →
          ∃ maps, answer (Search.make c conditions [] >>= fun _ => Search.optionMaps c) s₀ = .ok maps ∧
            bridge.validate (.dict options) = .ok () ∧ bridge.merge (maps ++ [.dict options]) = .ok result) ∧
        (bridge.TakesEmpty →
          answer (scopedOptions m conditions []) w = answer (Search.optionsOf c conditions 0) s₀) := by
  intro c c' s₀
  obtain ⟨⟨ops, hruns⟩, himplicit, hlabels⟩ := hw.isImplicit hclass
  have hoperations : ∀ key ∈ composingOperations, c.member? key = none := fun key hkey =>
    himplicit.member?_eq_none (isReserved_of_composing hkey)
  obtain ⟨bridge, hbridge⟩ : ∃ bridge, c.schema.bridge = some bridge :=
    Option.isSome_iff_exists.mp ((hruns.bridge_isSome id).symm.trans himplicit.model)
  -- The attribute is declared on a class like the implicit one, and composing is left alone on both.
  have hlast : c.OffersLast b c' (.dict options) :=
    { toOffers := hoffers
      extends_ := Registry.extends_of_subclass hruns himplicit.mem hsub hadd
      orderly := hruns.isOrderly id
      operations := hoperations }
  have hscoped : ∀ options, answer (scopedOptions m conditions options) w = _ := fun _ =>
    answer_scopedOptions hclass hbridge hscope
  rw [hlabels] at hscoped
  refine ⟨?_, scopedOptions_null m options, bridge, hbridge, fun result hresult => ?_, fun hempty => ?_⟩
  · rw [hscoped]
    exact Search.sameAnswer_optionsOf hlast hbridge hother rfl rfl
  · rw [hscoped] at hresult
    obtain ⟨maps, hmaps, hmerged⟩ := bind_eq_ok_iff.mp hresult
    obtain ⟨_, hvalid, hmerged⟩ := bind_eq_ok_iff.mp hmerged
    exact ⟨maps, hmaps, hvalid, hmerged⟩
  · rw [hscoped, Search.answer_optionsOf hlast.orderly hoperations hbridge rfl rfl]
    refine congrArg _ (funext fun maps => ?_)
    rw [hempty.validate, hempty.merge]
    rfl

/-! ## A scope that is grouped -/

/-- A model with a bridge of its own, which does as the default. -/
def scopedModel : Model := .custom "M" {}

/-- A workspace where the implicit class of a model declares these attributes and callbacks. -/
def scopedBy (m : Model) (bs : List Builder) (callbacks : List Callback) : Workspace :=
  let w := after (searchClass m) {}
  { w with registry := Registry.afterAll (.addCallbacks 1 callbacks :: bs.map (.addAttribute 1)) w.registry }

/-- A subclass of that implicit class, which declares one attribute more. -/
def extendedBy (m : Model) (bs : List Builder) (callbacks : List Callback) (b : Builder) : Registry :=
  Registry.afterAll [.subclass {} "Last" 1 [] none [], .addAttribute 2 b] (scopedBy m bs callbacks).registry

/-- An attribute that asks for groups. -/
def havingBuilder : Builder :=
  { name := "a", block := some (.done (.dict [(.text "having", .text "x > 1")])) }

/-- An attribute that is given, and offers an option-map. -/
def offeringBuilder (options : List (Value × Value)) : Builder :=
  { name := "last", options := [("default", .value (.int 1))], block := some (.done (.dict options)) }

/-- A callback that asks for an attribute and sets it. -/
def settingCallback : Callback :=
  let e : Expression := .both (.call "truthy" [.constant (.text "a")]) (.assign "a" (.constant (.int 2)))
  .expression "self.truthy('a') and setattr(self, 'a', 2)" (e.scriptThen .done)

/-- The callback leaves an attribute of another name alone. -/
theorem settingCallback_avoids (options : List (Value × Value)) :
    settingCallback.Avoids (offeringBuilder options) := by
  have halone : ∀ key ∈ ["self.truthy('a') and setattr(self, 'a', 2)", "truthy", "a"],
      (offeringBuilder options).LeavesAlone key := by
    intro key hkey
    refine .of_ne ?_ ?_
    · rintro rfl
      exact absurd hkey (by decide : "last" ∉ _)
    · rintro rfl
      exact absurd hkey (by decide : contributionName "last" ∉ _)
  refine ⟨⟨halone _ (by decide), (absurd · (by decide)), by simp, by simp⟩,
    ⟨halone _ (by decide), by decide⟩, ?_⟩
  rintro (- | found)
  · exact ⟨trivial, fun _ => trivial⟩
  · refine ⟨⟨halone _ (by decide), (absurd · (by decide)), fun name hname => ?_, by simp⟩, fun v => ?_⟩
    · cases List.mem_singleton.mp hname
      exact (by decide : "a" ≠ "last")
    · -- What the search answers decides whether the attribute is set.
      change Script.Obeys _ (if v.truthy then _ else _)
      split
      · exact ⟨⟨⟨halone _ (by decide), by decide⟩, trivial⟩, fun _ => trivial⟩
      · trivial

/-- A scope that asks for groups, behind which the options group, is merged with them at once. A callback
sets the attribute that the scope is made of. -/
theorem scoped_as_last_attribute_grouped :
    let values : Value := .dict [(.text "a", .int 1)]
    let options : List (Value × Value) := [(.text "group", .text "y")]
    let w := scopedBy scopedModel [havingBuilder] [settingCallback]
    let c := w.registry.view 1
    let c' := (extendedBy scopedModel [havingBuilder] [settingCallback] (offeringBuilder options)).view 2
    answer (Search.optionsOf c' values 1) {} =
        .ok (.dict [(.text "group", .fragment { sql := "y HAVING (x > 1)" })]) ∧
      answer (scopedOptions scopedModel values []) w = answer (Search.optionsOf c values 0) {} := by
  intro values options w c c'
  have hcallback : (ClassOperation.addCallbacks 1 [settingCallback]).IsOn
      (after (searchClass scopedModel) {}).registry := by decide
  have hattribute : (ClassOperation.addAttribute 1 havingBuilder).IsOn
      (after (ClassOperation.addCallbacks 1 [settingCallback]).run
        (after (searchClass scopedModel) {}).registry) := by
    decide
  have hreached : w.Reached := .declared (.declared (.asked scopedModel .initial) hcallback) hattribute
  have hclass : searchClass scopedModel w = .ok 1 w := rfl
  have hsub : Registry.subclass {} "Last" 1 [] none [] w.registry =
      .ok 2 (Registry.afterAll [.subclass {} "Last" 1 [] none []] w.registry) := rfl
  have hadd : Registry.addAttribute 2 (offeringBuilder options)
      (Registry.afterAll [.subclass {} "Last" 1 [] none []] w.registry) =
        .ok () (extendedBy scopedModel [havingBuilder] [settingCallback] (offeringBuilder options)) :=
    eq_ok_of_succeeds (by decide +kernel)
  have hoffers : (offeringBuilder options).Offers c c' (.dict options) :=
    { new := by decide +kernel
      free := by decide +kernel
      apart := by decide +kernel
      given := ⟨.int 1, rfl, rfl⟩
      answers := ⟨_, rfl, fun t => ⟨t, rfl⟩⟩
      members := by
        intro key m hm hook hhook
        obtain ⟨i, hi, hmem⟩ := Registry.mem_of_member? hm
        have hown : (key, m) ∈ [("a", Member.attribute none), ("find_options_for_a", .contribution "a"
            (.done (.dict [(.text "having", .text "x > 1")])))] := by
          rcases List.mem_cons.mp hi with rfl | hi
          · exact hmem
          · rw [List.mem_singleton.mp hi] at hmem
            cases hmem
        simp only [List.mem_cons, Prod.mk.injEq, List.not_mem_nil, or_false] at hown
        obtain ⟨-, rfl⟩ | ⟨-, rfl⟩ := hown
        · cases hhook
        · cases hhook
          trivial
      callbacks := fun callback h => by
        rw [List.mem_singleton.mp h]
        exact settingCallback_avoids options }
  have hother : ∀ supplied, Search.suppliedBy values [] = .ok supplied → supplied.lookup "last" = none := by
    rintro supplied ⟨⟩
    rfl
  obtain ⟨hsame, -, bridge, hbridge, -, hempty⟩ := scoped_as_last_attribute hreached hclass hsub hadd hoffers
    (Or.inr ⟨_, rfl⟩) hother
  have hscoped : answer (scopedOptions scopedModel values options) w =
      .ok (.dict [(.text "group", .fragment { sql := "y HAVING (x > 1)" })]) := rfl
  refine ⟨?_, ?_⟩
  · rw [hscoped] at hsame
    change Search.SameAnswer _ _ _ (answer (Search.optionsOf c' values 1) {}) at hsame
    generalize answer (Search.optionsOf c' values 1) {} = x at hsame ⊢
    cases hsame
    rfl
  · cases hbridge
    exact hempty (Bridge.takesEmpty_of_library (Or.inr ⟨_, rfl, rfl, rfl⟩))

/-- An attribute whose block ignores all attributes at once. -/
def ignoringBuilder : Builder :=
  { name := "a", block := some (.ignoreAll (.done someCondition)) }

/-- A model whose bridge counts the option-maps that it merges. -/
def countingModel : Model :=
  .custom "N" { merge := fun maps => .ok (.int maps.length) }

/-- Options stay behind a scope that ignores all attributes, but a last attribute is ignored; and a bridge can
tell an option-map without entries from none. -/
theorem scoped_unlike_last_attribute :
    let values : Value := .dict [(.text "a", .int 1)]
    let options : List (Value × Value) := [(.text "order", .text "y")]
    let condition : Value × Value := (.text "conditions", .fragment { sql := "(x)" })
    let c' := (extendedBy scopedModel [ignoringBuilder] [] (offeringBuilder options)).view 2
    let n := (scopedBy countingModel [plainBuilder] []).registry.view 1
    answer (scopedOptions scopedModel values options) (scopedBy scopedModel [ignoringBuilder] []) =
        .ok (.dict [condition, (.text "order", .fragment { sql := "y" })]) ∧
      answer (Search.optionsOf c' values 1) {} = .ok (.dict [condition]) ∧
      answer (scopedOptions countingModel values []) (scopedBy countingModel [plainBuilder] []) =
        .ok (.int 2) ∧
      answer (Search.optionsOf n values 0) {} = .ok (.int 1) :=
  ⟨rfl, rfl, rfl, rfl⟩

end Workspace

end SearchQuery
