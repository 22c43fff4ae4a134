import Mathlib.Data.List.ReduceOption
import SearchQuery.Proofs.Merge.Alignment
import SearchQuery.Proofs.Search.Contributed
import SearchQuery.Proofs.Search.Ledger

/-!
# What a search selects

The conditions that the attributes of a search contribute are joined by `AND`. Read as SQL, what is
merged holds of a row exactly if the row is what the declaration of every attribute that takes part asks
for, by the operator and the columns that it names (`Search.findOptions_selects`).

## Shape of the argument

Each attribute that takes part contributes a fragment that asks for what its operator means, or none
(`Contributes.asks`). A merge drops what is blank and keeps one of several equal fragments. Neither
changes what is asked for: a blank fragment asks for nothing, and equal fragments have the same truth,
because rows do not tell equal parameters apart (`joined_asks`).
-/

namespace SearchQuery

open Sql

variable {α : Type} {row : Row α}

/-! ## Merging conditions -/

namespace FindOptions

/-- The entries of option-maps with conditions only. -/
def conditionEntries (fs : List (Option (Fragment Value))) : List (Value × Value) :=
  fs.reduceOption.map fun f => (.text "conditions", .fragment f)

/-- The entries of option-maps of conditions are those conditions. -/
theorem mapM_entriesOf_contribution (fs : List (Option (Fragment Value))) :
    ((fs.map contribution).mapM entriesOf).map List.flatten = .ok (conditionEntries fs) := by
  induction fs with
  | nil => rfl
  | cons f fs ih =>
    rw [List.map_cons, List.mapM_cons]
    cases hlists : (fs.map contribution).mapM entriesOf with
    | error e =>
      rw [hlists] at ih
      cases ih
    | ok lists =>
      rw [hlists] at ih
      have hflat : lists.flatten = conditionEntries fs := Except.ok.inj ih
      cases f with
      | none =>
        change Except.ok (List.flatten ([] :: lists)) = _
        rw [List.flatten_cons, hflat]
        rfl
      | some f =>
        change Except.ok (List.flatten ([(.text "conditions", .fragment f)] :: lists)) = _
        rw [List.flatten_cons, hflat]
        rfl

/-- What they contribute are the conditions that are not blank. -/
theorem contributions_conditionEntries (fs : List (Option (Fragment Value))) (key : String) :
    contributions (conditionEntries fs) key =
      if key = "conditions" then
        (fs.reduceOption.filter fun f => !Text.isBlank f.sql).map .fragment
      else [] := by
  rw [contributions, conditionEntries]
  split
  next hkey =>
    subst hkey
    rw [List.filter_map, List.map_map]
    rfl
  next hkey =>
    rw [List.map_eq_nil_iff, List.filter_eq_nil_iff]
    intro e he
    obtain ⟨f, -, rfl⟩ := List.mem_map.mp he
    simp [Value.text?, Ne.symm hkey]

/-- The conditions that are not blank. -/
def writtenConditions (fs : List (Option (Fragment Value))) : List (Fragment Value) :=
  fs.reduceOption.filter fun f => !Text.isBlank f.sql

/-- A condition is written if it is given and not blank. -/
theorem mem_writtenConditions {fs : List (Option (Fragment Value))} {f : Fragment Value} :
    f ∈ writtenConditions fs ↔ some f ∈ fs ∧ Text.isBlank f.sql = false := by
  rw [writtenConditions, List.mem_filter, List.reduceOption_mem_iff, Bool.not_eq_true']

theorem fragments_conditionEntries (fs : List (Option (Fragment Value))) (key : String) :
    fragments (conditionEntries fs) key =
      .ok (if key = "conditions" then writtenConditions fs else []) := by
  have hread : ∀ gs : List (Fragment Value),
      (gs.map Value.fragment).mapM Fragment.ofValue = .ok gs := fun gs =>
    mapM_eq_ok_iff.mpr (List.forall₂_map_left_iff.mpr (List.forall₂_same.mpr fun _ _ => rfl))
  refine bind_eq_ok_iff.mpr ?_
  rw [contributions_conditionEntries]
  split
  next =>
    refine ⟨_, hread _, ?_⟩
    rw [List.filter_eq_self.mpr fun f hf => by
      rw [Fragment.isEmpty_of_not_isBlank (mem_writtenConditions.mp hf).2]
      rfl]
    rfl
  next => exact ⟨[], rfl, rfl⟩

/-- Only conditions are contributed to a merge. -/
theorem distinctFragments_conditionEntries (fs : List (Option (Fragment Value))) (key : String) :
    distinctFragments (conditionEntries fs) key =
      Fragment.distinct (if key = "conditions" then writtenConditions fs else []) := by
  rw [distinctFragments, fragments_conditionEntries]
  rfl

/-- A merge of conditions joins them by `AND`, equal ones once. -/
theorem merge_contribution_eq_ok_iff {base : Base} {fs : List (Option (Fragment Value))}
    {o : FindOptions} :
    merge base (fs.map contribution) = .ok o ↔
      ∃ kept, Fragment.distinct (writtenConditions fs) = .ok kept ∧
        o = { conditions := joinSome " AND " true kept } := by
  have hselect : selectClause base [] [] = none := by
    rw [selectClause]
    cases base.table <;> rfl
  rw [merge_eq_ok_iff]
  constructor
  · rintro ⟨⟨entries, conditions, includes, joins, having, contributed, groups, order, select⟩, hc, rfl⟩
    obtain ⟨hentries, hconditions, hincludes, hjoins, hhaving, hcontributed, hgroups, horder,
      hselected⟩ := hc
    rw [mapM_entriesOf_contribution] at hentries
    obtain rfl := Except.ok.inj hentries
    -- There is nothing but conditions, so all other clauses are empty.
    rw [contributions_conditionEntries] at hincludes
    rw [distinctFragments_conditionEntries] at hconditions hjoins hhaving hcontributed hselected
    rw [fragments_conditionEntries] at horder
    cases hincludes
    cases hjoins
    cases hhaving
    cases hcontributed
    cases hselected
    cases hgroups
    cases horder
    refine ⟨conditions, hconditions, ?_⟩
    rw [Clauses.options, hselect]
    rfl
  · rintro ⟨kept, hkept, rfl⟩
    refine ⟨⟨conditionEntries fs, kept, none, [], [], [], [], [], []⟩, ?_, ?_⟩
    · exact
        { entries_eq := mapM_entriesOf_contribution fs
          conditions_eq := by rw [distinctFragments_conditionEntries]; exact hkept
          includes_eq := by rw [contributions_conditionEntries]; rfl
          joins_eq := by rw [distinctFragments_conditionEntries]; rfl
          having_eq := by rw [distinctFragments_conditionEntries]; rfl
          contributed_eq := by rw [distinctFragments_conditionEntries]; rfl
          groups_eq := rfl
          order_eq := by rw [fragments_conditionEntries]; rfl
          select_eq := by rw [distinctFragments_conditionEntries]; rfl }
    · rw [Clauses.options, hselect]
      rfl

end FindOptions

/-! ## The condition of a merge -/

/-- Conditions that are joined ask for all that each of them asks for, although only one of several
equal ones is kept. -/
theorem joined_asks {β : Type} {P : β → Prop} {xs : List β} {fs : List (Option (Fragment Value))}
    (h : List.Forall₂ (fun x f => (f.getD .empty).Asks row (P x) ∧ ∀ g ∈ f, g.IsStable row) xs fs)
    {kept : List (Fragment Value)}
    (hkept : Fragment.distinct (FindOptions.writtenConditions fs) = .ok kept) :
    ((FindOptions.joinSome " AND " true kept).getD .empty).Asks row (∀ x ∈ xs, P x) := by
  have hdistinct := FindOptions.distinct_eq_ok_iff.mp hkept
  have hwritten : ∀ f ∈ kept, f.isEmpty = false ∧ ∃ x ∈ xs, f.Asks row (P x) ∧ f.IsStable row := by
    intro f hf
    obtain ⟨hmem, hblank⟩ := FindOptions.mem_writtenConditions.mp
      (Value.mem_of_mem_distinctBy hdistinct hf)
    obtain ⟨x, hx, hasks, hstable⟩ := exists_left_of_forall₂ h hmem
    exact ⟨Fragment.isEmpty_of_not_isBlank hblank, x, hx, hasks, hstable f rfl⟩
  -- A condition that is not kept has the truth of one that is.
  have hfound : ∀ f t, some f ∈ fs → f.truth? row = some t → ∃ g ∈ kept, g.truth? row = some t := by
    intro f t hf ht
    obtain ⟨φ, hφ, -⟩ := Option.map_eq_some_iff.mp ht
    have hmem := FindOptions.mem_writtenConditions.mpr ⟨hf, Fragment.isBlank_of_condition? hφ⟩
    rcases Value.exists_mem_distinctBy hdistinct hmem with hmem | ⟨g, hg, hsame⟩
    · exact ⟨f, hmem, ht⟩
    · obtain ⟨-, x, -, -, hstable⟩ := hwritten g hg
      exact ⟨g, hg, by rw [← ht, hstable f hsame]⟩
  -- What is kept has text, so it is read as a condition.
  have hread : ∀ f ∈ kept, ∃ t, f.truth? row = some t ∧ ((∀ x ∈ xs, P x) → t = .holds) := by
    intro f hf
    obtain ⟨hfull, x, hx, hasks, -⟩ := hwritten f hf
    rcases hasks with ⟨hempty, -⟩ | ⟨t, ht, hP⟩
    · rw [hfull] at hempty
      cases hempty
    · exact ⟨t, ht, fun hall => hP.mpr (hall x hx)⟩
  have hall : (∀ f ∈ kept, f.truth? row = some .holds) ↔ ∀ x ∈ xs, P x := by
    constructor
    · intro hholds x hx
      obtain ⟨f, hf, hasks, -⟩ := exists_right_of_forall₂ h hx
      rcases hasks with ⟨-, hP⟩ | ⟨t, ht, hP⟩
      · exact hP
      · cases f with
        | none => exact absurd (Fragment.isEmpty_of_truth? ht) (by decide)
        | some f =>
          obtain ⟨g, hg, htruth⟩ := hfound f t hf ht
          rw [hholds g hg] at htruth
          exact hP.mp (Option.some.inj htruth).symm
    · intro hP f hf
      obtain ⟨t, ht, hholds⟩ := hread f hf
      rw [ht, hholds hP]
  rw [FindOptions.joinSome]
  cases kept with
  | nil => exact Or.inl ⟨rfl, hall.mp (List.forall_mem_nil _)⟩
  | cons f kept =>
    have htruths : ∀ g ∈ f :: kept, ∃ t, g.truth? row = some t := fun g hg => by
      obtain ⟨t, ht, -⟩ := hread g hg
      exact ⟨t, ht⟩
    obtain ⟨t, ht, hholds⟩ := Fragment.truth?_join_and (List.cons_ne_nil f kept) htruths
    exact Or.inr ⟨t, ht, hholds.trans hall⟩

/-! ## The run of a search -/

namespace Search

variable {c : ClassView} {s s' s₁ : Search}

/-- The row is what the declaration of every attribute that takes part in the search asks for, with the
value that the attribute has. -/
def SelectedBy (entries : String → Option Declaration) (c : ClassView) (s : Search) (row : Row α) :
    Prop :=
  ∀ name ∈ givenNames c s, ∃ d v, entries name = some d ∧ Search.read c name s = .ok v s ∧ d.Asks row v

/-- The attributes that take part are asked with single values. -/
def AsksScalars (c : ClassView) (s : Search) : Prop :=
  ∀ name ∈ givenNames c s, ∀ op v, Asked c s name op v → v.collection? = none

/-- Every attribute that takes part contributes, and the values that are read can be compared. -/
structure Answers (c : ClassView) (s : Search) : Prop where
  hidesNothing : s.HidesNothing
  values : ∀ name ∈ c.schema.uniqueNames, (s.values.lookup name).isSome = true
  contributes : ∀ name ∈ givenNames c s, ∃ f, Contributes c s name f
  comparable : ∀ name ∈ givenNames c s, ∀ other ∈ givenNames c s, ∀ op v op' w,
    Asked c s name op v → Asked c s other op' w → Value.same? v w ≠ none

/-- The option-maps of a search are those that its attributes contribute. The callbacks run first, and
the attributes are asked in the state that they leave. -/
theorem optionMaps_eq_ok_iff (hlist : callee? c s "find_options_list" = none) {t : Table}
    {config : Config} (hbridge : c.schema.bridge = some (.relational t config)) {maps : List Value} :
    optionMaps c s = .ok maps s' ↔ ∃ s₁, runBeforeFindOptions c s = .ok () s₁ ∧
      Search.contributions c FindOptions.validate c.schema.uniqueNames s₁ = .ok maps s' := by
  have hvalidate : (fun v => (bridge c).bind fun b => b.validate v) = FindOptions.validate := by
    funext v
    rw [bridge, hbridge]
    rfl
  rw [optionMaps_eq hlist, ownFindOptionsList_def, hvalidate, estate_bind_eq_ok]
  constructor
  · rintro ⟨_, s₁, hran, hcontributed⟩
    exact ⟨s₁, hran, hcontributed⟩
  · rintro ⟨s₁, hran, hcontributed⟩
    exact ⟨(), s₁, hran, hcontributed⟩

/-- The options of a search on a table are what the merge makes of these. -/
theorem findOptions_of_table_eq_ok_iff (hown : callee? c s "find_options" = none)
    (hlist : callee? c s "find_options_list" = none) {t : Table} {config : Config}
    (hbridge : c.schema.bridge = some (.relational t config)) {merged : Value} :
    findOptions c s = .ok merged s' ↔
      ∃ s₁ maps o, runBeforeFindOptions c s = .ok () s₁ ∧
        Search.contributions c FindOptions.validate c.schema.uniqueNames s₁ = .ok maps s' ∧
        FindOptions.merge ⟨some t.sqlTable, t.primaryKey⟩ maps = .ok o ∧ merged = o.toValue := by
  have hrun : findOptions c s = ownFindOptions c s := orHiding_eq hown _
  have hmerge : ∀ maps, (bridge c).bind (fun b => b.merge maps) =
      (FindOptions.merge ⟨some t.sqlTable, t.primaryKey⟩ maps).map FindOptions.toValue := by
    intro maps
    rw [bridge, hbridge]
    rfl
  rw [hrun]
  constructor
  · intro h
    obtain ⟨maps, s₂, hmaps, hlift⟩ := estate_bind_eq_ok.mp h
    obtain ⟨hmerged, rfl⟩ := Bridge.lift_eq_ok hlift
    obtain ⟨s₁, hbefore, hmaps⟩ := (optionMaps_eq_ok_iff hlist hbridge).mp hmaps
    change (bridge c).bind (fun b => b.merge maps) = _ at hmerged
    rw [hmerge] at hmerged
    cases ho : FindOptions.merge ⟨some t.sqlTable, t.primaryKey⟩ maps with
    | error e =>
      rw [ho] at hmerged
      cases hmerged
    | ok o =>
      rw [ho] at hmerged
      cases hmerged
      exact ⟨s₁, maps, o, hbefore, hmaps, ho, rfl⟩
  · rintro ⟨s₁, maps, o, hbefore, hmaps, ho, rfl⟩
    refine estate_bind_eq_ok.mpr
      ⟨maps, s', (optionMaps_eq_ok_iff hlist hbridge).mpr ⟨s₁, hbefore, hmaps⟩, ?_⟩
    rw [hmerge, ho]
    rfl

/-- A search that composes options is on a model. -/
theorem bridge_isSome_of_findOptions (hown : callee? c s "find_options" = none) {merged : Value}
    (h : findOptions c s = .ok merged s') : c.schema.bridge.isSome = true := by
  rw [findOptions_def, orHiding_eq hown] at h
  obtain ⟨maps, s₂, -, hlift⟩ := estate_bind_eq_ok.mp h
  obtain ⟨hmerged, -⟩ := Bridge.lift_eq_ok hlift
  cases hb : c.schema.bridge with
  | some b => rfl
  | none =>
    rw [bridge, hb] at hmerged
    cases hmerged

/-- The options are a merge of what each attribute answers, and there are none without a table. -/
theorem findOptions_eq_ok_iff (hc : c.ByOperators) (hown : s.HidesNothing)
    (hbefore : runBeforeFindOptions c s = .ok () s₁) {merged : Value} :
    findOptions c s = .ok merged s' ↔
      ∃ t config maps o, c.schema.bridge = some (.relational t config) ∧
        Search.contributions c FindOptions.validate c.schema.uniqueNames s₁ = .ok maps s' ∧
        FindOptions.merge ⟨some t.sqlTable, t.primaryKey⟩ maps = .ok o ∧ merged = o.toValue := by
  have hrun : callee? c s "find_options" = none := hown.callee?_eq_none hc (by decide) (by decide)
  have hlist : callee? c s "find_options_list" = none :=
    hown.callee?_eq_none hc (by decide) (by decide)
  constructor
  · intro h
    obtain ⟨b, hb⟩ := Option.isSome_iff_exists.mp (bridge_isSome_of_findOptions hrun h)
    obtain ⟨t, config, rfl, -⟩ := hc.schema.bridge b hb
    obtain ⟨s₂, maps, o, hran, hmaps, ho, rfl⟩ :=
      (findOptions_of_table_eq_ok_iff hrun hlist hb).mp h
    rw [hbefore] at hran
    cases hran
    exact ⟨t, config, maps, o, hb, hmaps, ho, rfl⟩
  · rintro ⟨t, config, maps, o, hb, hmaps, ho, rfl⟩
    exact (findOptions_of_table_eq_ok_iff hrun hlist hb).mpr ⟨s₁, maps, o, hbefore, hmaps, ho, rfl⟩

/-- What an attribute contributes asks for what its declaration does. -/
theorem Contributes.asks {r : Registry} {L : Ledger} (hr : Declared r L) {id : Nat} {name : String}
    {f : Option (Fragment Value)} (hf : Contributes (r.view id) s name f)
    (hscalar : ∀ op v, Asked (r.view id) s name op v → v.collection? = none) (row : Row α) :
    (f.getD .empty).Asks row (∃ d v, L.of r id name = some d ∧
      Search.read (r.view id) name s = .ok v s ∧ d.Asks row v) := by
  obtain ⟨op, v, hasked, hcondition⟩ := hf
  obtain ⟨d, declared, hd, hplain, hnamed, hblock⟩ := hr.exists_named hasked.member
  rw [Operator.conditionFor_congr hblock] at hcondition
  have hasks := Operator.conditionFor_asks (hnamed.isPlain hplain) (hscalar op v hasked) hcondition row
  refine hasks.congr ⟨fun h => ⟨d, v, hd, hasked.read, hnamed.asks_iff.mpr h⟩, ?_⟩
  rintro ⟨d', v', hd', hread, h⟩
  cases hd.symm.trans hd'
  cases hasked.read.symm.trans hread
  exact hnamed.asks_iff.mp h

/-- The condition of an attribute is stable if what it is asked for is no collection. -/
theorem Contributes.isStable {name : String} {f : Fragment Value} (hf : Contributes c s name (some f))
    (hscalar : ∀ op v, Asked c s name op v → v.collection? = none) (hrow : row.Respects) :
    f.IsStable row := by
  obtain ⟨op, v, hasked, hcondition⟩ := hf
  exact Operator.conditionFor_stable hasked.isPlain (hscalar op v hasked) hcondition hrow

/-- The conditions of values that can be compared are told apart. -/
theorem Answers.exists_distinct (hs : Answers c s) (hscalars : AsksScalars c s)
    {fs : List (Option (Fragment Value))}
    (hfs : List.Forall₂ (Contributes c s) (givenNames c s) fs) :
    ∃ kept, Fragment.distinct (FindOptions.writtenConditions fs) = .ok kept := by
  have hasked : ∀ f ∈ FindOptions.writtenConditions fs, ∃ name ∈ givenNames c s, ∃ op v,
      Asked c s name op v ∧ op.conditionFor v = .ok (some f) := fun f hf =>
    exists_left_of_forall₂ hfs (FindOptions.mem_writtenConditions.mp hf).1
  refine FindOptions.exists_distinct fun f hf g hg => ?_
  obtain ⟨name, hname, op, v, hv, hcondition⟩ := hasked f hf
  obtain ⟨other, hother, op', w, hw, hcondition'⟩ := hasked g hg
  exact Operator.conditionFor_comparable (hscalars name hname op v hv)
    (hscalars other hother op' w hw)
    (hs.comparable name hname other hother op v op' w hv hw) hcondition hcondition'

/-- **What a search selects.** Whatever classes come of operations that name operators, there is a ledger of
their declarations. By such a ledger, the merged conditions of a search, read as SQL, hold of a row exactly
if the row is what the declarations of all attributes that take part ask for; without conditions every row
is. A search on a table gives merged conditions if all its attributes can be asked. -/
theorem findOptions_selects {r : Registry} :
    (∀ {ops : List ClassOperation}, Registry.Runs {} ops r → (∀ op ∈ ops, op.NamesOperators) →
      ∃ L, Declared r L) ∧
    ∀ {L : Ledger}, Declared r L → ∀ {id : Nat} {s s₁ : Search}, s.HidesNothing →
      runBeforeFindOptions (r.view id) s = .ok () s₁ → AsksScalars (r.view id) s₁ →
      ∀ {α : Type} {row : Row α}, row.Respects →
        (∀ merged s', findOptions (r.view id) s = .ok merged s' →
          ∃ f, Statement.clause merged "conditions" = .ok f ∧
            f.Asks row (SelectedBy (L.of r id) (r.view id) s₁ row)) ∧
        ((r.find id).schema.bridge.isSome = true → Answers (r.view id) s₁ →
          ∃ merged, findOptions (r.view id) s = .ok merged s₁) := by
  refine ⟨fun hrun hops => Declared.exists_of_runs hrun hops, ?_⟩
  intro L hr id s s₁ hown hbefore hscalars α row hrow
  have hc := hr.byOperators.view id
  constructor
  · intro merged s' h
    obtain ⟨t, config, maps, o, -, hmaps, ho, rfl⟩ := (findOptions_eq_ok_iff hc hown hbefore).mp h
    -- Each attribute answers for what it was declared with, so the joined conditions ask for all of it.
    obtain ⟨-, fs, hby, rfl⟩ := contributions_eq_ok hc.writtenBy hmaps
    have hfs := hby.imp fun _ _ => contributesBy_isPlain.mp
    obtain ⟨kept, hkept, rfl⟩ := FindOptions.merge_contribution_eq_ok_iff.mp ho
    refine ⟨_, (FindOptions.clause_toValue _).1, joined_asks ?_ hkept⟩
    refine ((List.forall₂_and_left _ _).mpr ⟨hscalars, hfs⟩).imp fun name f ⟨hscalar, hf⟩ => ?_
    refine ⟨hf.asks hr hscalar row, fun g hg => ?_⟩
    cases hg
    exact hf.isStable hscalar hrow
  · intro hmapped hanswers
    obtain ⟨b, hb⟩ := Option.isSome_iff_exists.mp hmapped
    obtain ⟨t, config, rfl, -⟩ := hc.schema.bridge b hb
    have hdeclared : ∀ name ∈ (r.view id).schema.uniqueNames,
        (r.view id).schema.declares name = true := fun name hname =>
      hc.schema.declares name (List.mem_eraseDups.mp hname)
    obtain ⟨maps, hmaps⟩ := hanswers.hidesNothing.contributions_eq hc hdeclared hanswers.values
      fun name hname hgives => hanswers.contributes name (List.mem_filter.mpr ⟨hname, hgives⟩)
    obtain ⟨-, fs, hby, rfl⟩ := contributions_eq_ok hc.writtenBy hmaps
    have hfs := hby.imp fun _ _ => contributesBy_isPlain.mp
    obtain ⟨kept, hkept⟩ := hanswers.exists_distinct hscalars hfs
    exact ⟨_, (findOptions_eq_ok_iff hc hown hbefore).mpr ⟨t, config, _, _, hb, hmaps,
      FindOptions.merge_contribution_eq_ok_iff.mpr ⟨kept, hkept, rfl⟩, rfl⟩⟩

/-- A table of plants with one column. -/
def plantTable : Table where
  model := "Plant"
  table := "plants"
  columns := [{ key := "name", name := "name", kind := none }]

/-- The options that ask for an operator on the names of plants. -/
def plantOptions (operator : String) : Options :=
  [("operator", .value (.text operator)), ("column", .value (.text "name"))]

/-- A class that searches plants for names that differ from one text and hold another one. -/
def plantClasses : Registry :=
  after (Registry.accessor 0 [.text "like"] (plantOptions "contains") none)
    (after (Registry.accessor 0 [.text "other"] (plantOptions "neq") none)
      (after (Registry.setModel {} 0 (.table plantTable) []) {}))

theorem hasPlainNames_plantTable : plantTable.HasPlainNames where
  table := ⟨by decide +kernel, by decide +kernel⟩
  schema := fun name h => by cases h
  columns := fun c hc => by
    rw [List.mem_singleton.mp hc]
    exact ⟨by decide +kernel, by decide +kernel⟩

/-- The declarations that make this class: that of the table's column, and the two that follow. -/
def plantBuilders : List Builder :=
  Bridge.columnBuilders false { key := "name", name := "name", kind := none } ++
    [{ name := "other", options := plantOptions "neq" },
      { name := "like", options := plantOptions "contains" }]

/-- The ledger of these declarations. -/
def plantLedger : Ledger :=
  plantBuilders.foldl (fun L b => L.note 0 b.name ⟨plantTable, {}, b.options⟩) fun _ _ => none

/-- A search for what is no fig and has `lu` in its name. -/
def plantSearch : Search where
  values := [("name", .ignored), ("other", .text "fig"), ("like", .text "lu")]

/-- A plum. -/
def plumRow : Row String where
  column := fun _ => some "plum"
  equal := fun _ _ => false
  compare := fun _ _ _ => false
  like := fun _ v => v.text? == some "%lu%"

/-- The operations that make this class. -/
def plantOperations : List ClassOperation :=
  [.setModel {} 0 (.table plantTable) [],
    .accessor 0 [.text "other"] (plantOptions "neq") none,
    .accessor 0 [.text "like"] (plantOptions "contains") none]

/-- The classes come of operations that name operators. -/
theorem runs_plantOperations :
    Registry.Runs {} plantOperations plantClasses ∧ ∀ op ∈ plantOperations, op.NamesOperators := by
  have hruns : Registry.Runs {} ([] ++ [plantOperations[0]] ++ [plantOperations[1]] ++
      [plantOperations[2]]) plantClasses :=
    .snoc (.snoc (.snoc .nil (by decide)) (by decide)) (by decide)
  refine ⟨hruns, fun op hop => ?_⟩
  simp only [plantOperations, List.mem_cons, List.not_mem_nil, or_false] at hop
  rcases hop with rfl | rfl | rfl
  · exact ⟨hasPlainNames_plantTable, fun _ _ h => by cases h⟩
  · exact ⟨⟨_, rfl, by simp⟩, fun _ _ h => by cases h⟩
  · exact ⟨⟨_, rfl, by simp⟩, fun _ _ h => by cases h⟩

/-- The classes were declared as their ledger says. -/
theorem declared_plantClasses : Declared plantClasses plantLedger := by
  have hnamed : ∀ b ∈ plantBuilders, b.options.NameOperator := by
    intro b hb
    simp only [plantBuilders, Bridge.columnBuilders, Option.any_none, Bool.false_eq_true, if_false,
      List.cons_append, List.nil_append, List.mem_cons, List.not_mem_nil, or_false] at hb
    rcases hb with rfl | rfl | rfl <;> exact ⟨_, rfl, by simp⟩
  exact (Declared.initial.bound 0 {} hasPlainNames_plantTable).declareAll rfl hnamed rfl

/-- The alternatives of the first attribute are kept in parentheses, and a plum is selected. -/
theorem findOptions_selects_plum :
    let c := plantClasses.view 0
    (∃ L, Declared plantClasses L) ∧ Declared plantClasses plantLedger ∧ plantSearch.HidesNothing ∧
      runBeforeFindOptions c plantSearch = .ok () plantSearch ∧ AsksScalars c plantSearch ∧
      plumRow.Respects ∧ Answers c plantSearch ∧
      ∃ merged f, findOptions c plantSearch = .ok merged plantSearch ∧
        Statement.clause merged "conditions" = .ok f ∧
        f.sql = "(plants.name <> ? OR plants.name IS NULL) AND (plants.name LIKE ?)" ∧
        f.truth? plumRow = some .holds := by
  intro c
  have hown : plantSearch.HidesNothing := ⟨fun _ _ => rfl, fun _ => rfl⟩
  have hbefore : runBeforeFindOptions c plantSearch = .ok () plantSearch := by rfl
  have hnames : givenNames c plantSearch = ["other", "like"] := by decide +kernel
  have hcolumn : IsName "plants.name" := by decide +kernel
  have hother : Asked c plantSearch "other" (.single .notEqual "plants.name") (.text "fig") :=
    { member := rfl
      isPlain := hcolumn
      read := rfl }
  have hlike : Asked c plantSearch "like" (.single (.hold .anywhere) "plants.name") (.text "lu") :=
    { member := rfl
      isPlain := hcolumn
      read := rfl }
  have htexts : ∀ name ∈ givenNames c plantSearch, ∀ op v, Asked c plantSearch name op v →
      ∃ text, v = .text text := by
    intro name hname op v h
    rw [hnames, List.mem_pair] at hname
    rcases hname with rfl | rfl
    · exact ⟨"fig", by cases h.read.symm.trans hother.read; rfl⟩
    · exact ⟨"lu", by cases h.read.symm.trans hlike.read; rfl⟩
  have hscalars : AsksScalars c plantSearch := by
    intro name hname op v h
    obtain ⟨text, rfl⟩ := htexts name hname op v h
    rfl
  have hrow : plumRow.Respects := ⟨fun _ _ _ _ => rfl, fun _ _ _ _ _ => rfl⟩
  have hanswers : Answers c plantSearch :=
    { hidesNothing := hown
      values := by decide +kernel
      contributes := by
        intro name hname
        rw [hnames, List.mem_pair] at hname
        rcases hname with rfl | rfl
        · exact ⟨_, _, _, hother, rfl⟩
        · exact ⟨_, _, _, hlike, rfl⟩
      comparable := by
        intro name hname other _ op v op' w h _
        obtain ⟨text, rfl⟩ := htexts name hname op v h
        exact Value.same?_text_left text w }
  have hledger : ∃ L, Declared plantClasses L :=
    findOptions_selects.1 runs_plantOperations.1 runs_plantOperations.2
  obtain ⟨hselects, hruns⟩ :=
    findOptions_selects.2 declared_plantClasses hown hbefore hscalars hrow
  obtain ⟨merged, hmerged⟩ := hruns rfl hanswers
  obtain ⟨f, hf, hasks⟩ := hselects merged plantSearch hmerged
  have hsql : f.sql = "(plants.name <> ? OR plants.name IS NULL) AND (plants.name LIKE ?)" := by
    have hrun : (answer (findOptions c) plantSearch >>= (Statement.clause · "conditions")).toOption.map
        (·.sql) = some "(plants.name <> ? OR plants.name IS NULL) AND (plants.name LIKE ?)" := by
      decide +kernel
    rw [answer, hmerged] at hrun
    change (Statement.clause merged "conditions").toOption.map (·.sql) = _ at hrun
    rw [hf] at hrun
    exact Option.some.inj hrun
  have hselected : SelectedBy (plantLedger.of plantClasses 0) c plantSearch plumRow := by
    intro name hname
    rw [hnames, List.mem_pair] at hname
    rcases hname with rfl | rfl
    · refine ⟨⟨plantTable, {}, plantOptions "neq"⟩, _, rfl, hother.read, Or.inl ?_⟩
      refine ⟨"neq", "name", _, ⟨_, rfl, rfl⟩, rfl, rfl, ?_⟩
      simp [columnDemand, Operator.EqualTo, plumRow]
    · refine ⟨⟨plantTable, {}, plantOptions "contains"⟩, _, rfl, hlike.read, Or.inl ?_⟩
      exact ⟨"contains", "name", _, ⟨_, rfl, rfl⟩, rfl, rfl, Or.inr ⟨"plum", rfl, by decide +kernel⟩⟩
  have hholds : f.truth? plumRow = some .holds := by
    rcases hasks with ⟨hempty, -⟩ | ⟨t, ht, hiff⟩
    · rw [Fragment.isEmpty, hsql] at hempty
      cases hempty
    · rw [ht, hiff.mpr hselected]
  exact ⟨hledger, declared_plantClasses, hown, hbefore, hscalars, hrow, hanswers, merged, f, hmerged, hf,
    hsql, hholds⟩

end Search

end SearchQuery
