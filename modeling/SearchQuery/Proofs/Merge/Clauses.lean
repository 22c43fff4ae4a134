import Mathlib.Data.List.Basic
import Mathlib.Data.List.Forall2
import SearchQuery.FindOptions.Merge

/-!
# The clauses of a merge

`FindOptions.merge` reads the fragments of each clause out of all option-maps, keeps equal ones once,
and writes each clause out of what is left. `Clauses` names these lists, and `merge_eq_ok_iff` says
that a merge succeeds exactly with clauses that are gathered from the maps (`Gathers`); what holds of
the merged option-map is then shown of the lists.

## Shape of what is kept

`distinctBy` keeps the first of equal members. Equality may have no answer, and it need not be the
equality of Lean, so two facts are all that is known of the members kept: they are members of the
list, and every member of the list is kept or equal to one that is (`exists_mem_distinctBy`).
-/

namespace SearchQuery

/-! ## Results that may fail -/

/-- What comes after a result comes from it. -/
theorem bind_eq_ok_iff {ε α β : Type} {x : Except ε α} {f : α → Except ε β} {b : β} :
    (x >>= f) = .ok b ↔ ∃ a, x = .ok a ∧ f a = .ok b := by
  cases x with
  | error e =>
    refine iff_of_false (fun h => ?_) (fun ⟨a, h, _⟩ => ?_)
    · cases h
    · cases h
  | ok a =>
    refine ⟨fun h => ⟨a, rfl, h⟩, ?_⟩
    rintro ⟨_, ⟨⟩, h⟩
    exact h

/-- A traversal succeeds with the results of its members, in order. -/
theorem mapM_eq_ok_iff {ε α β : Type} {f : α → Except ε β} {as : List α} {bs : List β} :
    as.mapM f = .ok bs ↔ List.Forall₂ (fun a b => f a = .ok b) as bs := by
  induction as generalizing bs with
  | nil =>
    rw [List.mapM_nil, List.forall₂_nil_left_iff]
    refine ⟨fun h => ?_, fun h => h ▸ rfl⟩
    cases h
    rfl
  | cons a as ih =>
    rw [List.mapM_cons, List.forall₂_cons_left_iff, bind_eq_ok_iff]
    constructor
    · rintro ⟨b, hb, h⟩
      obtain ⟨bs', hbs, h⟩ := bind_eq_ok_iff.mp h
      cases h
      exact ⟨b, bs', hb, ih.mp hbs, rfl⟩
    · rintro ⟨b, bs', hb, hbs, rfl⟩
      exact ⟨b, hb, bind_eq_ok_iff.mpr ⟨bs', ih.mpr hbs, rfl⟩⟩

theorem exists_left_of_forall₂ {α β : Type} {R : α → β → Prop} {as : List α} {bs : List β}
    (h : List.Forall₂ R as bs) {b : β} (hb : b ∈ bs) : ∃ a ∈ as, R a b := by
  induction h with
  | nil => cases hb
  | cons hab _ ih =>
    rcases List.mem_cons.mp hb with rfl | hb
    · exact ⟨_, List.mem_cons_self, hab⟩
    · obtain ⟨a, ha, hab⟩ := ih hb
      exact ⟨a, List.mem_cons_of_mem _ ha, hab⟩

theorem exists_right_of_forall₂ {α β : Type} {R : α → β → Prop} {as : List α} {bs : List β}
    (h : List.Forall₂ R as bs) {a : α} (ha : a ∈ as) : ∃ b ∈ bs, R a b :=
  exists_left_of_forall₂ (List.Forall₂.flip (R := flip R) h) ha

/-- Every result is that of a member. -/
theorem exists_mem_of_mapM_eq_ok {ε α β : Type} {f : α → Except ε β} {as : List α} {bs : List β}
    (h : as.mapM f = .ok bs) {b : β} (hb : b ∈ bs) : ∃ a ∈ as, f a = .ok b :=
  exists_left_of_forall₂ (mapM_eq_ok_iff.mp h) hb

/-- Every member has its result. -/
theorem exists_image_of_mapM_eq_ok {ε α β : Type} {f : α → Except ε β} {as : List α} {bs : List β}
    (h : as.mapM f = .ok bs) {a : α} (ha : a ∈ as) : ∃ b ∈ bs, f a = .ok b :=
  exists_right_of_forall₂ (mapM_eq_ok_iff.mp h) ha

/-! ## Equal members -/

namespace Value

theorem exists_of_anyPasses {α : Type} {test : α → Option Bool} {as : List α}
    (h : anyPasses test as = some true) : ∃ a ∈ as, test a = some true := by
  induction as with
  | nil => cases h
  | cons a as ih =>
    rw [anyPasses] at h
    split at h
    next =>
      obtain ⟨b, hb, htest⟩ := ih h
      exact ⟨b, List.mem_cons_of_mem _ hb, htest⟩
    next => exact ⟨a, List.mem_cons_self, h⟩

/-- The members kept are those kept before and members of the list, in order. -/
theorem distinctBy_eq_some {α : Type} {same? : α → α → Option Bool} {kept as all : List α}
    (h : distinctBy same? kept as = some all) :
    ∃ more, more.Sublist as ∧ all = kept ++ more := by
  induction as generalizing kept with
  | nil =>
    cases h
    exact ⟨[], List.Sublist.refl _, (List.append_nil _).symm⟩
  | cons a as ih =>
    rw [distinctBy] at h
    split at h
    · obtain ⟨more, hmore, rfl⟩ := ih h
      exact ⟨more, hmore.cons a, rfl⟩
    · obtain ⟨more, hmore, rfl⟩ := ih h
      exact ⟨a :: more, hmore.cons_cons a, by simp⟩
    · cases h

/-- What is kept was given. -/
theorem mem_of_mem_distinctBy {α : Type} {same? : α → α → Option Bool} {as all : List α}
    (h : distinctBy same? [] as = some all) {a : α} (ha : a ∈ all) : a ∈ as := by
  obtain ⟨more, hmore, rfl⟩ := distinctBy_eq_some h
  exact hmore.subset ha

/-- Every member is kept or equal to one that is. -/
theorem exists_mem_distinctBy {α : Type} {same? : α → α → Option Bool} {kept as all : List α}
    (h : distinctBy same? kept as = some all) {a : α} (ha : a ∈ as) :
    a ∈ all ∨ ∃ b ∈ all, same? b a = some true := by
  induction as generalizing kept with
  | nil => cases ha
  | cons c as ih =>
    rw [distinctBy] at h
    split at h
    next hsame =>
      rcases List.mem_cons.mp ha with rfl | ha
      · obtain ⟨b, hb, hba⟩ := exists_of_anyPasses hsame
        obtain ⟨more, -, rfl⟩ := distinctBy_eq_some h
        exact Or.inr ⟨b, List.mem_append_left _ hb, hba⟩
      · exact ih h ha
    next =>
      rcases List.mem_cons.mp ha with rfl | ha
      · obtain ⟨more, -, rfl⟩ := distinctBy_eq_some h
        exact Or.inl (List.mem_append_left _ (List.mem_append_right _ List.mem_cons_self))
      · exact ih h ha
    next => cases h

/-- Tests that all have an answer answer together. -/
theorem anyPasses_ne_none {α : Type} {test : α → Option Bool} {as : List α}
    (h : ∀ a ∈ as, test a ≠ none) : anyPasses test as ≠ none := by
  induction as with
  | nil => simp [anyPasses]
  | cons a as ih =>
    rw [List.forall_mem_cons] at h
    rw [anyPasses]
    split
    next => exact ih h.2
    next => exact h.1

/-- Members that can all be compared can be told apart. -/
theorem distinctBy_ne_none {α : Type} {same? : α → α → Option Bool} {kept as : List α}
    (h : ∀ a ∈ kept ++ as, ∀ b ∈ as, same? a b ≠ none) : distinctBy same? kept as ≠ none := by
  induction as generalizing kept with
  | nil => simp [distinctBy]
  | cons a as ih =>
    rw [distinctBy]
    split
    next =>
      refine ih fun b hb d hd => h b ?_ d (List.mem_cons_of_mem _ hd)
      rcases List.mem_append.mp hb with hb | hb
      · exact List.mem_append_left _ hb
      · exact List.mem_append_right _ (List.mem_cons_of_mem _ hb)
    next => exact ih fun b hb d hd => h b (by simpa using hb) d (List.mem_cons_of_mem _ hd)
    next hnone =>
      exact absurd hnone (anyPasses_ne_none fun b hb =>
        h b (List.mem_append_left _ hb) a List.mem_cons_self)

end Value

/-! ## Clauses -/

namespace FindOptions

/-- The fragments of one clause, equal ones once. -/
def distinctFragments (entries : List (Value × Value)) (key : String) :
    Except Failure (List (Fragment Value)) :=
  fragments entries key >>= Fragment.distinct

/-- The fragments that option-maps contribute, clause by clause, and the names to load. -/
structure Clauses where
  entries : List (Value × Value)
  conditions : List (Fragment Value)
  includes : Option (List Value)
  joins : List (Fragment Value)
  having : List (Fragment Value)
  contributed : List (Fragment Value)
  groups : List (Fragment Value)
  order : List (Fragment Value)
  select : List (Fragment Value)

/-- The clauses are those that the option-maps contribute. -/
structure Gathers (base : Base) (maps : List Value) (c : Clauses) : Prop where
  entries_eq : (maps.mapM entriesOf).map List.flatten = .ok c.entries
  conditions_eq : distinctFragments c.entries "conditions" = .ok c.conditions
  includes_eq : includedNames (contributions c.entries "include") = .ok c.includes
  joins_eq : distinctFragments c.entries "joins" = .ok c.joins
  having_eq : distinctFragments c.entries "having" = .ok c.having
  contributed_eq : distinctFragments c.entries "group" = .ok c.contributed
  groups_eq : groupsFor base c.contributed c.having = .ok c.groups
  order_eq : fragments c.entries "order" = .ok c.order
  select_eq : distinctFragments c.entries "select" = .ok c.select

/-- The option-map that is written out of the clauses. -/
def Clauses.options (c : Clauses) (base : Base) : FindOptions where
  conditions := joinSome " AND " true c.conditions
  includes := c.includes
  joins := joinSome " " false c.joins
  group := groupClause c.groups c.having
  order := joinSome ", " false c.order
  select := selectClause base c.select c.joins

/-- A merge succeeds exactly with the clauses that the option-maps contribute. -/
theorem merge_eq_ok_iff {base : Base} {maps : List Value} {o : FindOptions} :
    merge base maps = .ok o ↔ ∃ c, Gathers base maps c ∧ o = c.options base := by
  constructor
  · intro h
    -- Every step of the merge gives one part of what is gathered.
    obtain ⟨lists, hlists, h⟩ := bind_eq_ok_iff.mp h
    obtain ⟨allConditions, hallConditions, h⟩ := bind_eq_ok_iff.mp h
    obtain ⟨conditions, hconditions, h⟩ := bind_eq_ok_iff.mp h
    obtain ⟨includes, hincludes, h⟩ := bind_eq_ok_iff.mp h
    obtain ⟨allJoins, hallJoins, h⟩ := bind_eq_ok_iff.mp h
    obtain ⟨joins, hjoins, h⟩ := bind_eq_ok_iff.mp h
    obtain ⟨allHaving, hallHaving, h⟩ := bind_eq_ok_iff.mp h
    obtain ⟨having, hhaving, h⟩ := bind_eq_ok_iff.mp h
    obtain ⟨allGroups, hallGroups, h⟩ := bind_eq_ok_iff.mp h
    obtain ⟨contributed, hcontributed, h⟩ := bind_eq_ok_iff.mp h
    obtain ⟨groups, hgroups, h⟩ := bind_eq_ok_iff.mp h
    obtain ⟨order, horder, h⟩ := bind_eq_ok_iff.mp h
    obtain ⟨allSelect, hallSelect, h⟩ := bind_eq_ok_iff.mp h
    obtain ⟨select, hselect, h⟩ := bind_eq_ok_iff.mp h
    cases h
    refine ⟨⟨lists.flatten, conditions, includes, joins, having, contributed, groups, order,
      select⟩, ?_, rfl⟩
    exact
      { entries_eq := by rw [hlists]; rfl
        conditions_eq := bind_eq_ok_iff.mpr ⟨_, hallConditions, hconditions⟩
        includes_eq := hincludes
        joins_eq := bind_eq_ok_iff.mpr ⟨_, hallJoins, hjoins⟩
        having_eq := bind_eq_ok_iff.mpr ⟨_, hallHaving, hhaving⟩
        contributed_eq := bind_eq_ok_iff.mpr ⟨_, hallGroups, hcontributed⟩
        groups_eq := hgroups
        order_eq := horder
        select_eq := bind_eq_ok_iff.mpr ⟨_, hallSelect, hselect⟩ }
  · rintro ⟨c, hc, rfl⟩
    obtain ⟨allConditions, hallConditions, hconditions⟩ := bind_eq_ok_iff.mp hc.conditions_eq
    obtain ⟨allJoins, hallJoins, hjoins⟩ := bind_eq_ok_iff.mp hc.joins_eq
    obtain ⟨allHaving, hallHaving, hhaving⟩ := bind_eq_ok_iff.mp hc.having_eq
    obtain ⟨allGroups, hallGroups, hcontributed⟩ := bind_eq_ok_iff.mp hc.contributed_eq
    obtain ⟨allSelect, hallSelect, hselect⟩ := bind_eq_ok_iff.mp hc.select_eq
    have hentries := hc.entries_eq
    rw [merge]
    cases hlists : maps.mapM entriesOf with
    | error e =>
      rw [hlists] at hentries
      cases hentries
    | ok lists =>
      rw [hlists] at hentries
      have hflat : lists.flatten = c.entries := Except.ok.inj hentries
      -- The parts are those of the steps, in their order.
      refine bind_eq_ok_iff.mpr ⟨lists, rfl, ?_⟩
      simp only [hflat]
      refine bind_eq_ok_iff.mpr ⟨_, hallConditions, bind_eq_ok_iff.mpr ⟨_, hconditions, ?_⟩⟩
      refine bind_eq_ok_iff.mpr ⟨_, hc.includes_eq, ?_⟩
      refine bind_eq_ok_iff.mpr ⟨_, hallJoins, bind_eq_ok_iff.mpr ⟨_, hjoins, ?_⟩⟩
      refine bind_eq_ok_iff.mpr ⟨_, hallHaving, bind_eq_ok_iff.mpr ⟨_, hhaving, ?_⟩⟩
      refine bind_eq_ok_iff.mpr ⟨_, hallGroups, bind_eq_ok_iff.mpr ⟨_, hcontributed, ?_⟩⟩
      refine bind_eq_ok_iff.mpr ⟨_, hc.groups_eq, bind_eq_ok_iff.mpr ⟨_, hc.order_eq, ?_⟩⟩
      refine bind_eq_ok_iff.mpr ⟨_, hallSelect, bind_eq_ok_iff.mpr ⟨_, hselect, ?_⟩⟩
      rfl

/-- The value of a key that is not blank comes from one of the maps. -/
theorem mem_contributions {base : Base} {maps : List Value} {c : Clauses}
    (hc : Gathers base maps c) {key : String} {v : Value} :
    v ∈ contributions c.entries key ↔
      ∃ entries, .dict entries ∈ maps ∧ (.text key, v) ∈ entries ∧ isBlank v = false := by
  have hentries := hc.entries_eq
  cases hlists : maps.mapM entriesOf with
  | error e =>
    rw [hlists] at hentries
    cases hentries
  | ok lists =>
    rw [hlists] at hentries
    have hflat : lists.flatten = c.entries := Except.ok.inj hentries
    have hkey : ∀ k : Value, k.text? = some key ↔ k = .text key := fun k => by
      cases k <;> simp [Value.text?]
    rw [contributions, ← hflat]
    constructor
    · intro hv
      obtain ⟨⟨k, w⟩, he, rfl⟩ := List.mem_map.mp hv
      obtain ⟨he, hpass⟩ := List.mem_filter.mp he
      rw [Bool.and_eq_true, beq_iff_eq, hkey, Bool.not_eq_true'] at hpass
      obtain ⟨entries, hentries, he⟩ := List.mem_flatten.mp he
      obtain ⟨m, hm, hmap⟩ := exists_mem_of_mapM_eq_ok hlists hentries
      obtain ⟨rfl, hblank⟩ := hpass
      cases m with
      | dict es =>
        cases hmap
        exact ⟨entries, hm, he, hblank⟩
      | null =>
        cases hmap
        cases he
      | _ => cases hmap
    · rintro ⟨entries, hm, he, hblank⟩
      obtain ⟨es, hes, hmap⟩ := exists_image_of_mapM_eq_ok hlists hm
      cases hmap
      refine List.mem_map.mpr ⟨(.text key, v), List.mem_filter.mpr
        ⟨List.mem_flatten.mpr ⟨_, hes, he⟩, ?_⟩, rfl⟩
      rw [Bool.and_eq_true, beq_iff_eq, hkey, Bool.not_eq_true']
      exact ⟨rfl, hblank⟩

/-- A fragment of a clause is made of a contributed value, and it has text. -/
theorem exists_of_mem_fragments {entries : List (Value × Value)} {key : String}
    {fs : List (Fragment Value)} (h : fragments entries key = .ok fs) {f : Fragment Value}
    (hf : f ∈ fs) :
    f.isEmpty = false ∧ ∃ v ∈ contributions entries key, Fragment.ofValue v = .ok f := by
  obtain ⟨all, hall, h⟩ := bind_eq_ok_iff.mp h
  cases h
  obtain ⟨hf, hfull⟩ := List.mem_filter.mp hf
  exact ⟨by simpa using hfull, exists_mem_of_mapM_eq_ok hall hf⟩

theorem distinct_eq_ok_iff {fs gs : List (Fragment Value)} :
    Fragment.distinct fs = .ok gs ↔ Value.distinctBy Value.sameFragment? [] fs = some gs := by
  rw [Fragment.distinct]
  cases Value.distinctBy Value.sameFragment? [] fs <;> simp

/-- Fragments that can all be compared are told apart. -/
theorem exists_distinct {fs : List (Fragment Value)}
    (h : ∀ f ∈ fs, ∀ g ∈ fs, Value.sameFragment? f g ≠ none) : ∃ gs, Fragment.distinct fs = .ok gs := by
  have hkept : Value.distinctBy Value.sameFragment? [] fs ≠ none := Value.distinctBy_ne_none h
  obtain ⟨gs, hgs⟩ := Option.ne_none_iff_exists'.mp hkept
  exact ⟨gs, distinct_eq_ok_iff.mpr hgs⟩

/-- A distinct fragment was contributed, and is not empty. -/
theorem exists_of_mem_distinctFragments {entries : List (Value × Value)} {key : String}
    {fs : List (Fragment Value)} (h : distinctFragments entries key = .ok fs) {f : Fragment Value}
    (hf : f ∈ fs) :
    f.isEmpty = false ∧ ∃ v ∈ contributions entries key, Fragment.ofValue v = .ok f := by
  obtain ⟨all, hall, h⟩ := bind_eq_ok_iff.mp h
  exact exists_of_mem_fragments hall (Value.mem_of_mem_distinctBy (distinct_eq_ok_iff.mp h) hf)

end FindOptions

end SearchQuery
