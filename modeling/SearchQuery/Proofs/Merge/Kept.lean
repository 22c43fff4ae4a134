import SearchQuery.Proofs.Fragment.Conjunction
import SearchQuery.Proofs.Merge.Alignment

/-!
# What a merge keeps

A merge loses no clause and adds none. Of the fragments that option-maps give for a clause, each one is
written once, where it first occurs; the merged conditions hold exactly if all conditions that are given
hold, and so does the one `having` clause behind the groups.

## Shape of the outcome

Equality of values has no answer for some values, and a merge that has to compare such values fails.
Otherwise it fails only for want of a group (`NeedsGroup`), or all clauses are kept (`Keeps`). Which
fragments of a list are kept is said by their positions: a position is kept if no kept position in front
of it holds an equal fragment (`KeepsFirsts`).
-/

namespace SearchQuery

open Sql

theorem ok_bind {ε α β : Type} (a : α) (f : α → Except ε β) : ((.ok a : Except ε α) >>= f) = f a :=
  rfl

/-- What follows a failure is not run. -/
theorem bind_eq_error_iff {ε α β : Type} {x : Except ε α} {f : α → Except ε β} {e : ε} :
    (x >>= f) = .error e ↔ x = .error e ∨ ∃ a, x = .ok a ∧ f a = .error e := by
  cases x with
  | error e' =>
    constructor
    · intro h
      cases h
      exact Or.inl rfl
    · rintro (h | ⟨a, h, -⟩)
      · cases h
        rfl
      · cases h
  | ok a =>
    refine ⟨fun h => Or.inr ⟨a, rfl, h⟩, ?_⟩
    rintro (h | ⟨_, ⟨⟩, h⟩)
    · cases h
    · exact h

/-! ## First occurrences -/

/-- The members at some positions are kept: those that are related to no member kept in front of them. -/
def KeepsFirsts {α : Type} (Same : α → α → Prop) (as kept : List α) : Prop :=
  ∃ ps : List ℕ, ps.Pairwise (· < ·) ∧ kept = ps.filterMap (as[·]?) ∧
    ∀ i a, as[i]? = some a → (i ∈ ps ↔ ∀ p ∈ ps, p < i → ∀ b, as[p]? = some b → ¬ Same b a)

namespace KeepsFirsts

variable {α : Type} {Same : α → α → Prop} {as kept : List α}

/-- What is kept was given. -/
theorem mem_of_mem (h : KeepsFirsts Same as kept) {a : α} (ha : a ∈ kept) : a ∈ as := by
  obtain ⟨ps, -, rfl, -⟩ := h
  obtain ⟨p, -, hp⟩ := List.mem_filterMap.mp ha
  exact List.mem_of_getElem? hp

/-- What was given is kept, or the same as something that is. -/
theorem exists_kept (h : KeepsFirsts Same as kept) {a : α} (ha : a ∈ as) :
    a ∈ kept ∨ ∃ b ∈ kept, Same b a := by
  obtain ⟨ps, -, rfl, hmem⟩ := h
  obtain ⟨i, hi⟩ := List.mem_iff_getElem?.mp ha
  by_cases hkept : i ∈ ps
  · exact Or.inl (List.mem_filterMap.mpr ⟨i, hkept, hi⟩)
  · rw [hmem i a hi] at hkept
    push Not at hkept
    obtain ⟨p, hp, -, b, hb, hsame⟩ := hkept
    exact Or.inr ⟨b, List.mem_filterMap.mpr ⟨p, hp, hb⟩, hsame⟩

/-- Nothing is kept of nothing only. -/
theorem eq_nil_iff (h : KeepsFirsts Same as kept) : kept = [] ↔ as = [] := by
  constructor
  · rintro rfl
    refine List.eq_nil_iff_forall_not_mem.mpr fun a ha => ?_
    rcases h.exists_kept ha with hkept | ⟨b, hkept, -⟩
    · cases hkept
    · cases hkept
  · rintro rfl
    exact List.eq_nil_iff_forall_not_mem.mpr fun a ha => List.not_mem_nil (h.mem_of_mem ha)

end KeepsFirsts

namespace Value

/-- If no member passes, each of them fails the test. -/
theorem anyPasses_eq_some_false {α : Type} {test : α → Option Bool} {as : List α}
    (h : anyPasses test as = some false) : ∀ a ∈ as, test a = some false := by
  induction as with
  | nil => exact fun a ha => absurd ha List.not_mem_nil
  | cons a as ih =>
    rw [anyPasses] at h
    split at h
    next hfalse => exact List.forall_mem_cons.mpr ⟨hfalse, ih h⟩
    next hother => exact absurd h hother

theorem mem_map_succ {ps : List ℕ} {i : ℕ} : i + 1 ∈ ps.map (· + 1) ↔ i ∈ ps :=
  List.mem_map_of_injective (add_left_injective 1)

/-- Positions that move on by one show the same members behind a new first one. -/
theorem filterMap_succ {α : Type} (a : α) (as : List α) (ps : List ℕ) :
    (ps.map (· + 1)).filterMap ((a :: as)[·]?) = ps.filterMap (as[·]?) := by
  rw [List.filterMap_map]
  rfl

/-- The positions that are kept behind members that were kept before. -/
theorem exists_positions_of_distinctBy {α : Type} {same? : α → α → Option Bool} {kept as all : List α}
    (h : distinctBy same? kept as = some all) :
    ∃ ps : List ℕ, ps.Pairwise (· < ·) ∧ all = kept ++ ps.filterMap (as[·]?) ∧
      ∀ i a, as[i]? = some a → (i ∈ ps ↔ (∀ k ∈ kept, same? k a ≠ some true) ∧
        ∀ p ∈ ps, p < i → ∀ b, as[p]? = some b → same? b a ≠ some true) := by
  induction as generalizing kept with
  | nil =>
    cases h
    exact ⟨[], List.Pairwise.nil, by simp, fun i a ha => by simp at ha⟩
  | cons a as ih =>
    rw [distinctBy] at h
    split at h
    next hsame =>
      -- The first member is equal to one kept before, so all positions move on by one.
      obtain ⟨k, hk, hka⟩ := exists_of_anyPasses hsame
      obtain ⟨ps, hps, rfl, hmem⟩ := ih h
      refine ⟨ps.map (· + 1), List.pairwise_map.mpr (hps.imp fun h => Nat.succ_lt_succ h),
        by rw [filterMap_succ], fun i b hb => ?_⟩
      cases i with
      | zero =>
        obtain rfl : a = b := by simpa using hb
        exact iff_of_false (by simp) fun hfresh => hfresh.1 k hk hka
      | succ i =>
        rw [mem_map_succ, List.forall_mem_map, hmem i b hb]
        simp only [Nat.add_lt_add_iff_right, List.getElem?_cons_succ]
    next hfresh =>
      have hkept := anyPasses_eq_some_false hfresh
      obtain ⟨ps, hps, rfl, hmem⟩ := ih h
      refine ⟨0 :: ps.map (· + 1), List.Pairwise.cons (List.forall_mem_map.mpr fun p _ => p.succ_pos)
        (List.pairwise_map.mpr (hps.imp fun h => Nat.succ_lt_succ h)), ?_, fun i b hb => ?_⟩
      · rw [List.filterMap_cons, List.getElem?_cons_zero, filterMap_succ, List.append_assoc]
        rfl
      · cases i with
        | zero =>
          obtain rfl : a = b := by simpa using hb
          refine iff_of_true List.mem_cons_self
            ⟨fun k hk htrue => ?_, fun p _ hp => absurd hp p.not_lt_zero⟩
          rw [hkept k hk] at htrue
          cases htrue
        | succ i =>
          rw [List.mem_cons, or_iff_right i.succ_ne_zero, mem_map_succ, hmem i b hb,
            List.forall_mem_append, List.forall_mem_singleton, List.forall_mem_cons,
            List.forall_mem_map, and_assoc]
          simp only [Nat.add_lt_add_iff_right, List.getElem?_cons_succ, List.getElem?_cons_zero,
            Nat.zero_lt_succ, true_imp_iff, Option.some.injEq, forall_eq']
    next => cases h

/-- To keep what is distinct is to keep the first ones. -/
theorem keepsFirsts_of_distinctBy {α : Type} {same? : α → α → Option Bool} {as kept : List α}
    (h : distinctBy same? [] as = some kept) :
    KeepsFirsts (fun a b => same? a b = some true) as kept := by
  obtain ⟨ps, hps, rfl, hmem⟩ := exists_positions_of_distinctBy h
  refine ⟨ps, hps, List.nil_append _, fun i a ha => (hmem i a ha).trans ?_⟩
  exact and_iff_right fun k hk => absurd hk List.not_mem_nil

/-- Members cannot be told apart only if two of them cannot be compared. -/
theorem exists_incomparable {α : Type} {same? : α → α → Option Bool} {as : List α}
    (h : distinctBy same? [] as = none) : ∃ a ∈ as, ∃ b ∈ as, same? a b = none := by
  by_contra hall
  refine distinctBy_ne_none (fun a ha b hb hnone => hall ⟨a, ?_, b, hb, hnone⟩) h
  simpa using ha

end Value

namespace FindOptions

/-! ## What is given -/

/-- The entries of all option-maps, in order. -/
def allEntries (maps : List Value) : List (Value × Value) :=
  maps.flatMap fun m => m.entries?.getD []

/-- The fragment that a value gives for a clause, unless the value is blank or the fragment has no
text. -/
def given? (v : Value) : Option (Fragment Value) :=
  if isBlank v then none
  else
    match Fragment.ofValue v with
    | .ok f => if f.isEmpty then none else some f
    | .error _ => none

/-- The fragments that are given under a key. -/
def givenIn (entries : List (Value × Value)) (key : String) : List (Fragment Value) :=
  entries.filterMap fun e => if e.1.text? = some key then given? e.2 else none

/-- The fragments that option-maps give for a clause, in order. -/
def given (maps : List Value) (key : String) : List (Fragment Value) :=
  givenIn (allEntries maps) key

/-- The names that option-maps give for the associations to load, in order. -/
def givenNames (maps : List Value) : List Value :=
  (contributions (allEntries maps) "include").flatMap includeNames

/-- Option-maps are mappings or `null`, every value for a clause that is not blank builds a fragment,
and the conditions and the `having` clauses among the fragments are closed. -/
structure BuildsClosed (maps : List Value) : Prop where
  mapping : ∀ m ∈ maps, m = .null ∨ ∃ entries, m = .dict entries
  builds : ∀ key ∈ clauseKeys, ∀ e ∈ allEntries maps, e.1.text? = some key → isBlank e.2 = false →
    ∃ f, Fragment.ofValue e.2 = .ok f
  closed : ∀ key ∈ ["conditions", "having"], ∀ f ∈ given maps key, f.Closed

/-- The keys whose fragments are kept once. -/
def distinctKeys : List String :=
  ["conditions", "joins", "having", "group", "select"]

/-- Two fragments of a clause that are to be kept once, or two names of associations, that cannot be
compared. -/
def Incomparable (maps : List Value) : Prop :=
  (∃ key ∈ distinctKeys, ∃ f ∈ given maps key, ∃ g ∈ given maps key,
    Value.sameFragment? f g = none) ∨
  ∃ m ∈ givenNames maps, ∃ n ∈ givenNames maps, Value.same? m n = none

/-- A `having` clause is given, and there is nothing to group by. -/
def NeedsGroup (base : Base) (maps : List Value) : Prop :=
  given maps "having" ≠ [] ∧ given maps "group" = [] ∧ base.primaryKey = none

/-- The entries of maps that are mappings or nothing are theirs, one after the other. -/
theorem mapM_entriesOf {maps : List Value} (h : ∀ m ∈ maps, m = .null ∨ ∃ entries, m = .dict entries) :
    (maps.mapM entriesOf).map List.flatten = .ok (allEntries maps) := by
  have hall : List.Forall₂ (fun m es => entriesOf m = .ok es) maps
      (maps.map fun m => m.entries?.getD []) := by
    refine List.forall₂_map_right_iff.mpr (List.forall₂_same.mpr fun m hm => ?_)
    rcases h m hm with rfl | ⟨entries, rfl⟩
    · rfl
    · rfl
  rw [mapM_eq_ok_iff.mpr hall, allEntries, List.flatMap_def]
  rfl

/-- What is given for a clause is the fragment, if it is not empty. -/
theorem given?_of_ofValue {v : Value} (hblank : isBlank v = false) {f : Fragment Value}
    (hf : Fragment.ofValue v = .ok f) : given? v = if f.isEmpty then none else some f := by
  rw [given?, hblank, hf]
  rfl

/-- The fragments that a merge reads are those that are given. -/
theorem fragments_eq_ok {entries : List (Value × Value)} {key : String}
    (h : ∀ e ∈ entries, e.1.text? = some key → isBlank e.2 = false →
      ∃ f, Fragment.ofValue e.2 = .ok f) :
    fragments entries key = .ok (givenIn entries key) := by
  induction entries with
  | nil => rfl
  | cons e entries ih =>
    rw [List.forall_mem_cons] at h
    obtain ⟨all, hall, hrest⟩ := bind_eq_ok_iff.mp (ih h.2)
    rw [fragments, contributions, givenIn, List.filterMap_cons]
    by_cases hkey : e.1.text? = some key
    · cases hblank : isBlank e.2 with
      | true =>
        rw [List.filter_cons_of_neg (by simp [hblank]), if_pos hkey, given?, if_pos hblank]
        exact ih h.2
      | false =>
        obtain ⟨f, hf⟩ := h.1 hkey hblank
        have hmapM : (contributions (e :: entries) key).mapM Fragment.ofValue = .ok (f :: all) := by
          rw [contributions, List.filter_cons_of_pos (by simp [hkey, hblank]), List.map_cons]
          exact mapM_eq_ok_iff.mpr (.cons hf (mapM_eq_ok_iff.mp hall))
        refine bind_eq_ok_iff.mpr ⟨_, hmapM, ?_⟩
        have hrest : all.filter (!·.isEmpty) = givenIn entries key := Except.ok.inj hrest
        rw [if_pos hkey, given?_of_ofValue hblank hf, List.filter_cons, hrest]
        cases f.isEmpty with
        | true => rfl
        | false => rfl
    · rw [List.filter_cons_of_neg (by simp [hkey]), if_neg hkey]
      exact ih h.2

/-- The fragments of a clause are those that are given for it. -/
theorem BuildsClosed.fragments_eq {maps : List Value} (h : BuildsClosed maps) {key : String}
    (hkey : key ∈ clauseKeys) : fragments (allEntries maps) key = .ok (given maps key) :=
  fragments_eq_ok (h.builds key hkey)

theorem BuildsClosed.distinctFragments_eq {maps : List Value} (h : BuildsClosed maps) {key : String}
    (hkey : key ∈ distinctKeys) :
    distinctFragments (allEntries maps) key = Fragment.distinct (given maps key) := by
  have hclause : ∀ key ∈ distinctKeys, key ∈ clauseKeys := by decide
  rw [distinctFragments, h.fragments_eq (hclause key hkey)]
  rfl

/-- Of these the first ones are kept. -/
theorem BuildsClosed.keepsFirsts {maps : List Value} (h : BuildsClosed maps) {key : String}
    (hkey : key ∈ distinctKeys) {kept : List (Fragment Value)}
    (hkept : distinctFragments (allEntries maps) key = .ok kept) :
    KeepsFirsts Fragment.Equal (given maps key) kept := by
  rw [h.distinctFragments_eq hkey, distinct_eq_ok_iff] at hkept
  exact Value.keepsFirsts_of_distinctBy hkept

/-! ## Failures -/

/-- They can fail to be compared only for a number that has no answer. -/
theorem BuildsClosed.incomparable {maps : List Value} (h : BuildsClosed maps) {key : String}
    (hkey : key ∈ distinctKeys) {e : Failure}
    (hfail : distinctFragments (allEntries maps) key = .error e) :
    e = .badDecimal ∧ Incomparable maps := by
  rw [h.distinctFragments_eq hkey, Fragment.distinct] at hfail
  split at hfail
  next => cases hfail
  next hnone =>
    cases hfail
    exact ⟨rfl, Or.inl ⟨key, hkey, Value.exists_incomparable hnone⟩⟩

/-- So can the names of what is included. -/
theorem incomparable_names {maps : List Value} {e : Failure}
    (hfail : includedNames (contributions (allEntries maps) "include") = .error e) :
    e = .badDecimal ∧ Incomparable maps := by
  rw [includedNames] at hfail
  split at hfail
  next => cases hfail
  next =>
    split at hfail
    next => cases hfail
    next hnone =>
      cases hfail
      exact ⟨rfl, Or.inr (Value.exists_incomparable hnone)⟩

/-- The name of a column of the table that is searched, if that is known. -/
def Base.qualified (base : Base) (column : String) : String :=
  match base.table with
  | some t => if t.isEmpty then column else t ++ "." ++ column
  | none => column

/-- Groups that are given are used. -/
theorem groupsFor_of_group {groups having : List (Fragment Value)} (base : Base)
    (h : having = [] ∨ groups ≠ []) : groupsFor base groups having = .ok groups := by
  rw [groupsFor, if_pos]
  rcases h with rfl | h
  · rfl
  · simp [h]

/-- The groups in front of a `having` clause: those that are given, each one once, and if none is given
the primary key. -/
def GroupsBy (base : Base) (maps : List Value) (groups : List (Fragment Value)) : Prop :=
  given maps "group" ≠ [] ∧ KeepsFirsts Fragment.Equal (given maps "group") groups ∨
  given maps "group" = [] ∧ ∃ key ∈ base.primaryKey, groups = [.ofSql (base.qualified key)]

/-- Where nothing groups, and the groups have to be known, the merge fails. -/
theorem groupsFor_eq_error {base : Base} {maps : List Value} {groups having : List (Fragment Value)}
    (hgroups : KeepsFirsts Fragment.Equal (given maps "group") groups)
    (hhaving : KeepsFirsts Fragment.Equal (given maps "having") having) {e : Failure}
    (h : groupsFor base groups having = .error e) :
    e.kind? = some .findOption ∧ NeedsGroup base maps := by
  rw [NeedsGroup, Ne, ← hgroups.eq_nil_iff, ← hhaving.eq_nil_iff]
  by_cases hkept : having = [] ∨ groups ≠ []
  · rw [groupsFor_of_group base hkept] at h
    cases h
  · obtain ⟨hsome, hnone⟩ := not_or.mp hkept
    obtain rfl := not_not.mp hnone
    rw [groupsFor, if_neg (by simp [hsome])] at h
    split at h
    next hkey =>
      cases h
      exact ⟨rfl, hsome, rfl, hkey⟩
    next => cases h

/-- Groups behind a condition on groups are those that are given, or that of the table. -/
theorem groupsFor_eq_ok_of_having {base : Base} {maps : List Value}
    {groups having used : List (Fragment Value)}
    (hgroups : KeepsFirsts Fragment.Equal (given maps "group") groups) (hhaving : having ≠ [])
    (h : groupsFor base groups having = .ok used) : GroupsBy base maps used := by
  by_cases hnone : groups = []
  · subst hnone
    rw [groupsFor, if_neg (by simp [hhaving])] at h
    split at h
    next => cases h
    next key hkey =>
      cases h
      exact Or.inr ⟨hgroups.eq_nil_iff.mp rfl, key, hkey, rfl⟩
  · rw [groupsFor_of_group base (Or.inr hnone)] at h
    cases h
    exact Or.inl ⟨fun hempty => hnone (hgroups.eq_nil_iff.mpr hempty), hgroups⟩

/-- The merge, where all that is given builds closed fragments. -/
theorem BuildsClosed.merge_eq {maps : List Value} (h : BuildsClosed maps) (base : Base) :
    merge base maps = (do
      let conditions ← distinctFragments (allEntries maps) "conditions"
      let includes ← includedNames (contributions (allEntries maps) "include")
      let joins ← distinctFragments (allEntries maps) "joins"
      let having ← distinctFragments (allEntries maps) "having"
      let contributed ← distinctFragments (allEntries maps) "group"
      let groups ← groupsFor base contributed having
      let select ← distinctFragments (allEntries maps) "select"
      return {
        conditions := joinSome " AND " true conditions
        includes
        joins := joinSome " " false joins
        group := groupClause groups having
        order := joinSome ", " false (given maps "order")
        select := selectClause base select joins }) := by
  have hentries := mapM_entriesOf h.mapping
  cases hlists : maps.mapM entriesOf with
  | error e =>
    rw [hlists] at hentries
    cases hentries
  | ok lists =>
    rw [hlists] at hentries
    have hflat : lists.flatten = allEntries maps := Except.ok.inj hentries
    have horder : fragments (allEntries maps) "order" = .ok (given maps "order") :=
      h.fragments_eq (by decide)
    rw [merge, hlists]
    simp only [distinctFragments, bind_assoc, ok_bind, hflat, horder]

/-- A merge fails because it has to compare what cannot be compared, or for want of a group. -/
theorem BuildsClosed.merge_error {maps : List Value} (h : BuildsClosed maps) {base : Base} {e : Failure}
    (hfail : merge base maps = .error e) :
    e = .badDecimal ∧ Incomparable maps ∨ e.kind? = some .findOption ∧ NeedsGroup base maps := by
  rw [h.merge_eq, bind_eq_error_iff] at hfail
  rcases hfail with hfail | ⟨conditions, -, hfail⟩
  · exact Or.inl (h.incomparable (by decide) hfail)
  rcases bind_eq_error_iff.mp hfail with hfail | ⟨includes, -, hfail⟩
  · exact Or.inl (incomparable_names hfail)
  rcases bind_eq_error_iff.mp hfail with hfail | ⟨joins, -, hfail⟩
  · exact Or.inl (h.incomparable (by decide) hfail)
  rcases bind_eq_error_iff.mp hfail with hfail | ⟨having, hhaving, hfail⟩
  · exact Or.inl (h.incomparable (by decide) hfail)
  rcases bind_eq_error_iff.mp hfail with hfail | ⟨groups, hgroups, hfail⟩
  · exact Or.inl (h.incomparable (by decide) hfail)
  rcases bind_eq_error_iff.mp hfail with hfail | ⟨used, -, hfail⟩
  · exact Or.inr (groupsFor_eq_error (h.keepsFirsts (by decide) hgroups)
      (h.keepsFirsts (by decide) hhaving) hfail)
  rcases bind_eq_error_iff.mp hfail with hfail | ⟨select, -, hfail⟩
  · exact Or.inl (h.incomparable (by decide) hfail)
  · cases hfail

/-! ## Clauses -/

/-- A clause is written out of the fragments that are given for it, each one once. -/
def WrittenOnce (separator : String) (wrap : Bool) (fs : List (Fragment Value))
    (clause : Option (Fragment Value)) : Prop :=
  ∃ kept, KeepsFirsts Fragment.Equal fs kept ∧ clause = joinSome separator wrap kept

/-- Whatever the truths of fragments are, the clause holds if and only if all given fragments hold. -/
def HoldsTogether (clause : Fragment Value) (fs : List (Fragment Value)) : Prop :=
  ∀ v : Valuation, ∃ t, v.conjunction? clause = some t ∧ (t = .holds ↔ ∀ f ∈ fs, v.truth f = .holds)

/-- The merged option-map has all clauses that are given, and nothing else but defaults. -/
structure Keeps (base : Base) (maps : List Value) (o : FindOptions) : Prop where
  conditions : WrittenOnce " AND " true (given maps "conditions") o.conditions
  conditions_present : o.conditions ≠ none ↔ given maps "conditions" ≠ []
  conditions_hold : ∀ f ∈ o.conditions, HoldsTogether f (given maps "conditions")
  includes_present : o.includes ≠ none ↔ contributions (allEntries maps) "include" ≠ []
  includes : ∀ names ∈ o.includes, KeepsFirsts Value.Equal (givenNames maps) names
  joins : WrittenOnce " " false (given maps "joins") o.joins
  group_alone : given maps "having" = [] → WrittenOnce ", " false (given maps "group") o.group
  group_having : given maps "having" ≠ [] → ∃ groups having,
    GroupsBy base maps groups ∧ KeepsFirsts Fragment.Equal (given maps "having") having ∧
      let group := Fragment.join ", " false groups
      let clause := Fragment.join " AND " true having
      o.group = some { sql := group.sql ++ " HAVING " ++ clause.sql
                       params := group.params ++ clause.params } ∧
        HoldsTogether clause (given maps "having")
  order : o.order = joinSome ", " false (given maps "order")
  select : given maps "select" ≠ [] → WrittenOnce ", " false (given maps "select") o.select
  select_default : given maps "select" = [] →
    o.select = (base.table.filter fun t => !t.isEmpty && !(given maps "joins").isEmpty).map
      fun t => .ofSql ("DISTINCT " ++ t ++ ".*")
  no_having : ∀ entries, o.toValue = .dict entries → ∀ e ∈ entries, e.1 ≠ .text "having"

theorem joinSome_of_ne_nil {separator : String} {wrap : Bool} {fs : List (Fragment Value)}
    (h : fs ≠ []) : joinSome separator wrap fs = some (.join separator wrap fs) := by
  rw [joinSome, if_neg (by simpa using h)]

/-- A clause is there if there are fragments for it. -/
theorem joinSome_ne_none {separator : String} {wrap : Bool} {fs : List (Fragment Value)} :
    joinSome separator wrap fs ≠ none ↔ fs ≠ [] := by
  rw [joinSome]
  cases fs <;> simp

/-- What is kept holds if and only if all that is given does. -/
theorem holdsTogether_join {fs kept : List (Fragment Value)} (h : KeepsFirsts Fragment.Equal fs kept)
    (hclosed : ∀ f ∈ fs, f.Closed) (hne : kept ≠ []) :
    HoldsTogether (.join " AND " true kept) fs := by
  intro v
  obtain ⟨t, ht, hholds⟩ := v.conjunction?_join hne fun f hf => hclosed f (h.mem_of_mem hf)
  refine ⟨t, ht, hholds.trans ⟨fun hall f hf => ?_, fun hall f hf => hall f (h.mem_of_mem hf)⟩⟩
  rcases h.exists_kept hf with hkept | ⟨g, hkept, hequal⟩
  · exact hall f hkept
  · rw [← v.congr g f (Fragment.equal_iff.mp hequal).1 (Or.inr hequal)]
    exact hall g hkept

/-- Names of what is included are kept as they come first. -/
theorem includedNames_eq_ok {vs : List Value} {includes : Option (List Value)}
    (h : includedNames vs = .ok includes) :
    (includes ≠ none ↔ vs ≠ []) ∧
      ∀ names ∈ includes, KeepsFirsts Value.Equal (vs.flatMap includeNames) names := by
  rw [includedNames] at h
  split at h
  next hempty =>
    cases h
    exact ⟨iff_of_false (by simp) (by simpa using hempty), fun names hnames => by cases hnames⟩
  next hfull =>
    split at h
    next names hdistinct =>
      cases h
      refine ⟨iff_of_true (by simp) (by simpa using hfull), ?_⟩
      rintro _ ⟨⟩
      exact Value.keepsFirsts_of_distinctBy hdistinct
    next => cases h

/-- Without columns that are asked for, rows of joined tables are told apart. -/
theorem selectClause_of_nil (base : Base) (joins : List (Fragment Value)) :
    selectClause base [] joins = (base.table.filter fun t => !t.isEmpty && !joins.isEmpty).map
      fun t => .ofSql ("DISTINCT " ++ t ++ ".*") := by
  have hnone : joinSome ", " false ([] : List (Fragment Value)) = none := rfl
  rw [selectClause, hnone]
  cases base.table with
  | none => rfl
  | some t =>
    cases ht : t.isEmpty <;> cases hjoins : joins.isEmpty <;>
      simp only [ht, Option.filter_some, Bool.not_true, Bool.not_false, Bool.or_true,
        Bool.or_false, Bool.and_true, Bool.and_false, Bool.false_eq_true, if_true, if_false,
        Option.map_some, Option.map_none]

/-- The condition on groups is no clause of its own. -/
theorem toValue_ne_having {o : FindOptions} {entries : List (Value × Value)}
    (h : o.toValue = .dict entries) : ∀ e ∈ entries, e.1 ≠ .text "having" := by
  cases h
  simp only [List.mem_append, List.mem_map]
  rintro _ (((((⟨f, -, rfl⟩ | ⟨f, -, rfl⟩) | ⟨f, -, rfl⟩) | ⟨f, -, rfl⟩) | ⟨f, -, rfl⟩) | ⟨f, -, rfl⟩)
  all_goals simp

/-- It stands behind the groups. -/
theorem groupClause_of_having {groups having : List (Fragment Value)} (hgroups : groups ≠ [])
    (hhaving : having ≠ []) :
    let group := Fragment.join ", " false groups
    let clause := Fragment.join " AND " true having
    groupClause groups having = some { sql := group.sql ++ " HAVING " ++ clause.sql
                                       params := group.params ++ clause.params } := by
  rw [groupClause, joinSome_of_ne_nil hgroups, joinSome_of_ne_nil hhaving]
  rfl

/-- Without it the groups stand alone. -/
theorem groupClause_nil (groups : List (Fragment Value)) :
    groupClause groups [] = joinSome ", " false groups :=
  Option.map_id_apply

theorem GroupsBy.ne_nil {base : Base} {maps : List Value} {groups : List (Fragment Value)}
    (h : GroupsBy base maps groups) : groups ≠ [] := by
  rcases h with ⟨hgiven, hkept⟩ | ⟨-, key, -, rfl⟩
  · exact fun hnil => hgiven (hkept.eq_nil_iff.mp hnil)
  · exact List.cons_ne_nil _ _

/-- All that is given is kept, clause by clause. -/
theorem BuildsClosed.keeps {maps : List Value} (h : BuildsClosed maps) {base : Base} {c : Clauses}
    (hc : Gathers base maps c) : Keeps base maps (c.options base) := by
  have hentries : allEntries maps = c.entries := by
    have hentries := hc.entries_eq
    rw [mapM_entriesOf h.mapping] at hentries
    exact Except.ok.inj hentries
  -- Every clause keeps the first ones of what is given for it, whatever its key is.
  have hkeeps : ∀ key ∈ distinctKeys, ∀ kept, distinctFragments c.entries key = .ok kept →
      KeepsFirsts Fragment.Equal (given maps key) kept := by
    rw [← hentries]
    exact fun key hkey kept => h.keepsFirsts hkey
  have hconditions := hkeeps _ (by decide) _ hc.conditions_eq
  have hjoins := hkeeps _ (by decide) _ hc.joins_eq
  have hhaving := hkeeps _ (by decide) _ hc.having_eq
  have hcontributed := hkeeps _ (by decide) _ hc.contributed_eq
  have hselect := hkeeps _ (by decide) _ hc.select_eq
  have hincludes := includedNames_eq_ok hc.includes_eq
  rw [← hentries] at hincludes
  -- What is left depends on whether anything is given for the clause at all.
  refine
    { conditions := ⟨c.conditions, hconditions, rfl⟩
      conditions_present := joinSome_ne_none.trans (not_congr hconditions.eq_nil_iff)
      conditions_hold := fun f hf => ?conditions_hold
      includes_present := hincludes.1
      includes := hincludes.2
      joins := ⟨c.joins, hjoins, rfl⟩
      group_alone := fun hnone => ⟨c.contributed, hcontributed, ?group_alone⟩
      group_having := fun hsome => ?group_having
      order := ?order
      select := fun hsome => ⟨c.select, hselect, ?select⟩
      select_default := fun hnone => ?select_default
      no_having := fun entries => toValue_ne_having }
  case conditions_hold =>
    have hne : c.conditions ≠ [] := joinSome_ne_none.mp (Option.ne_none_iff_exists'.mpr ⟨f, hf⟩)
    have hclause : some (.join " AND " true c.conditions) = some f :=
      (joinSome_of_ne_nil hne).symm.trans hf
    cases hclause
    exact holdsTogether_join hconditions (h.closed _ (by decide)) hne
  case group_alone =>
    have hnil : c.having = [] := hhaving.eq_nil_iff.mpr hnone
    have hgroups : groupsFor base c.contributed c.having = .ok c.contributed :=
      groupsFor_of_group base (Or.inl hnil)
    rw [hc.groups_eq, Except.ok.injEq] at hgroups
    rw [Clauses.options, hgroups, hnil, groupClause_nil]
  case group_having =>
    have hne : c.having ≠ [] := fun hnil => hsome (hhaving.eq_nil_iff.mp hnil)
    have hby := groupsFor_eq_ok_of_having hcontributed hne hc.groups_eq
    exact ⟨c.groups, c.having, hby, hhaving, groupClause_of_having hby.ne_nil hne,
      holdsTogether_join hhaving (h.closed _ (by decide)) hne⟩
  case order =>
    have horder : fragments c.entries "order" = .ok (given maps "order") := by
      rw [← hentries]
      exact h.fragments_eq (by decide)
    rw [hc.order_eq, Except.ok.injEq] at horder
    rw [Clauses.options, horder]
  case select =>
    have hne : c.select ≠ [] := fun hnil => hsome (hselect.eq_nil_iff.mp hnil)
    rw [Clauses.options, selectClause, joinSome_of_ne_nil hne]
  case select_default =>
    have hempty : c.joins.isEmpty = (given maps "joins").isEmpty := by
      rw [Bool.eq_iff_iff, List.isEmpty_iff, List.isEmpty_iff]
      exact hjoins.eq_nil_iff
    rw [Clauses.options, hselect.eq_nil_iff.mpr hnone, selectClause_of_nil, hempty]

/-- What was merged needed no group that was not there. -/
theorem Keeps.not_needsGroup {base : Base} {maps : List Value} {o : FindOptions}
    (h : Keeps base maps o) : ¬ NeedsGroup base maps := by
  rintro ⟨hhaving, hgroup, hkey⟩
  obtain ⟨groups, -, hby, -⟩ := h.group_having hhaving
  rcases hby with ⟨hgiven, -⟩ | ⟨-, key, hsome, -⟩
  · exact hgiven hgroup
  · rw [hkey] at hsome
    cases hsome

/-- **Nothing is lost and nothing is added.** Unless it has to compare what cannot be compared, a merge
fails exactly if a `having` clause is given and there is nothing to group by, and otherwise every clause
of its result is written out of all that is given for it. -/
theorem merge_keeps {maps : List Value} (h : BuildsClosed maps) (base : Base) :
    merge base maps = .error .badDecimal ∧ Incomparable maps ∨
    ((∃ e, merge base maps = .error e ∧ e.kind? = some .findOption) ↔ NeedsGroup base maps) ∧
      (¬ NeedsGroup base maps → ∃ o, merge base maps = .ok o ∧ Keeps base maps o) := by
  cases hmerge : merge base maps with
  | error e =>
    rcases h.merge_error hmerge with ⟨rfl, hincomparable⟩ | ⟨hkind, hneeds⟩
    · exact Or.inl ⟨rfl, hincomparable⟩
    · exact Or.inr ⟨iff_of_true ⟨e, rfl, hkind⟩ hneeds, fun hno => absurd hneeds hno⟩
  | ok o =>
    obtain ⟨c, hc, rfl⟩ := merge_eq_ok_iff.mp hmerge
    have hkeeps := h.keeps hc
    exact Or.inr ⟨iff_of_false (by simp) hkeeps.not_needsGroup, fun _ => ⟨_, rfl, hkeeps⟩⟩

/-- A condition is given twice, and once more with another parameter; the groups default to the primary
key. -/
theorem merge_keeps_default_group :
    let maps : List Value := [
      .dict [(.text "conditions", .tuple [.text "x = ?", .int 1]), (.text "having", .text "COUNT(*) > 1")],
      .null, .dict [(.text "conditions", .list [.text "x = ?", .bool true])],
      .dict [(.text "conditions", .tuple [.text "x = ?", .int 2]), (.text "group", .text " ")]]
    let base : Base := ⟨some "t", some "id"⟩
    let merged : FindOptions := {
      conditions := some { sql := "(x = ?) AND (x = ?)", params := [.int 1, .int 2] }
      group := some { sql := "t.id HAVING (COUNT(*) > 1)" } }
    BuildsClosed maps ∧ merge base maps = .ok merged ∧ Keeps base maps merged := by
  intro maps base merged
  have hmaps : BuildsClosed maps := by
    refine ⟨?_, ?_, by decide +kernel⟩
    · simp [maps]
    · simp only [maps, allEntries, List.flatMap_cons, List.flatMap_nil, Value.entries?, Option.getD_some,
        Option.getD_none, List.cons_append, List.nil_append, List.append_nil, List.forall_mem_cons]
      intro key hkey
      refine ⟨?_, ?_, ?_, ?_, ?_, fun e he => absurd he List.not_mem_nil⟩
      all_goals exact fun _ _ => ⟨_, rfl⟩
  let test (v : Value) : Fragment Value := { sql := "x = ?", params := [v] }
  have hsame : Value.sameFragment? (test (.int 1)) (test (.bool true)) = some true := by decide +kernel
  have hother : Value.sameFragment? (test (.int 1)) (test (.int 2)) = some false := by decide +kernel
  have hdistinct : Fragment.distinct [test (.int 1), test (.bool true), test (.int 2)] =
      .ok [test (.int 1), test (.int 2)] := by
    simp [Fragment.distinct, Value.distinctBy, Value.anyPasses, hsame, hother]
  let clauses : Clauses :=
    { entries := allEntries maps
      conditions := [test (.int 1), test (.int 2)]
      includes := none
      joins := []
      having := [{ sql := "COUNT(*) > 1" }]
      contributed := []
      groups := [{ sql := "t.id" }]
      order := []
      select := [] }
  have hgathers : Gathers base maps clauses :=
    { entries_eq := rfl
      conditions_eq := hdistinct
      includes_eq := rfl
      joins_eq := rfl
      having_eq := rfl
      contributed_eq := rfl
      groups_eq := rfl
      order_eq := rfl
      select_eq := rfl }
  have hmerge : merge base maps = .ok merged := merge_eq_ok_iff.mpr ⟨clauses, hgathers, rfl⟩
  have hneeds : ¬ NeedsGroup base maps := fun h => by cases h.2.2
  rcases merge_keeps hmaps base with ⟨hfail, -⟩ | ⟨-, hkeeps⟩
  · rw [hmerge] at hfail
    cases hfail
  · obtain ⟨o, ho, hkeeps⟩ := hkeeps hneeds
    rw [hmerge] at ho
    cases ho
    exact ⟨hmaps, hmerge, hkeeps⟩

/-- Two conditions cannot be compared, and so nothing is said of the `having` clause without groups. -/
theorem merge_signalling :
    let signalling (label : ℕ) : Value := .decimal (.nan false true 0 label)
    let maps : List Value := [
      .dict [(.text "conditions", .list [.text "x = ?", signalling 2])],
      .dict [(.text "conditions", .list [.text "x = ?", signalling 3])],
      .dict [(.text "having", .text "COUNT(*) > 1")]]
    BuildsClosed maps ∧ NeedsGroup {} maps ∧ merge {} maps = .error .badDecimal := by
  intro signalling maps
  let test (label : ℕ) : Fragment Value := { sql := "x = ?", params := [signalling label] }
  have hsame : Value.sameFragment? (test 2) (test 3) = none := by decide +kernel
  have hfails : Fragment.distinct [test 2, test 3] = .error .badDecimal := by
    simp [Fragment.distinct, Value.distinctBy, Value.anyPasses, hsame]
  have hmerge : merge {} maps = .error .badDecimal := by
    change (Fragment.distinct [test 2, test 3] >>= _) = _
    rw [hfails]
    rfl
  refine ⟨⟨?_, ?_, by decide +kernel⟩, ⟨?_, ?_, rfl⟩, hmerge⟩
  · simp [maps]
  · simp only [maps, allEntries, List.flatMap_cons, List.flatMap_nil, Value.entries?, Option.getD_some,
      List.cons_append, List.nil_append, List.append_nil, List.forall_mem_cons]
    intro key hkey
    refine ⟨?_, ?_, ?_, fun e he => absurd he List.not_mem_nil⟩
    all_goals exact fun _ _ => ⟨_, rfl⟩
  · exact List.cons_ne_nil _ _
  · rfl

end FindOptions

end SearchQuery
