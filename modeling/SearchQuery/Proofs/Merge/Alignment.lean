import SearchQuery.Proofs.Merge.Clauses
import SearchQuery.Proofs.Placeholder.Binding
import SearchQuery.Proofs.Placeholder.WellBound
import SearchQuery.Statement.Loading

/-!
# Parameters of merged searches

A merge, and the statement made of it, write many fragments into one text and their parameters into
one list. If the fragments are well bound, so is what is made of them, and every parameter is bound
to the placeholder it came with.

## Shape of the argument

Each step of the way is one fact `Assembles f sources`: the merged clauses are made of the fragments
that the maps contribute, the statement is made of the merged clauses, and the counting statement of
the statement. What the program writes itself is neutral, which is all that the seams need; the facts
compose without a look at the texts (`joinSome_assembles`, `groupClause_assembles`,
`statement_assembles`).
-/

namespace SearchQuery

open Statement

namespace Fragment

/-- Binding the parameters of the fragment does not fail for want of a parameter or a placeholder. -/
def NeverUnbalanced (f : Fragment Value) : Prop :=
  ∀ sql places params, Bound.ofFragment f ≠ .error (.unbalancedFragment sql places params)

/-- A well bound fragment always has a parameter for its placeholder. -/
theorem WellBound.neverUnbalanced {f : Fragment Value} (h : f.WellBound) : f.NeverUnbalanced := by
  intro sql places params hfail
  rw [Bound.ofFragment, placeholderCount_eq, h.length_placeholders] at hfail
  simp only [bne_self_eq_false, Bool.false_eq_true, if_false] at hfail
  split at hfail
  · cases hfail
  · cases hfail

/-- Fragments that are joined are put together. -/
theorem Assembles.joined {α : Type} {separator : String} (hsep : Neutral separator) (wrap : Bool)
    {fs : List (Fragment α)} (hfull : ∀ f ∈ fs, f.isEmpty = false) :
    (Fragment.join separator wrap fs).Assembles fs := by
  have hflat : (fs.map fun f => [f]).flatten = fs := by
    rw [← List.flatMap_def]
    exact List.flatMap_singleton' fs
  have hcopies : List.Forall₂ Assembles fs (fs.map fun f => [f]) :=
    List.forall₂_map_right_iff.mpr (List.forall₂_same.mpr fun f _ => Assembles.copy f)
  have h := Assembles.join hsep wrap hcopies (by rwa [hflat])
  rwa [hflat] at h

end Fragment

namespace FindOptions

/-! ## Contributions -/

/-- The fragments that a statement copies, from left to right. -/
def Clauses.sources (c : Clauses) : List (Fragment Value) :=
  c.select ++ c.joins ++ c.conditions ++ c.contributed ++ c.having ++ c.order

/-- The keys of option-maps whose values are fragments. -/
def clauseKeys : List String :=
  ["conditions", "joins", "having", "group", "order", "select"]

/-- One of the option-maps has a value for a clause that is not blank and builds the fragment. -/
def Contributes (maps : List Value) (key : String) (f : Fragment Value) : Prop :=
  ∃ entries v, .dict entries ∈ maps ∧ (.text key, v) ∈ entries ∧ isBlank v = false ∧
    Fragment.ofValue v = .ok f

/-- Every value for a clause that is not blank builds a well-bound fragment. -/
def BuildsWellBound (maps : List Value) : Prop :=
  ∀ entries, .dict entries ∈ maps → ∀ key ∈ clauseKeys, ∀ v, (.text key, v) ∈ entries →
    isBlank v = false → ∃ f, Fragment.ofValue v = .ok f ∧ f.WellBound

/-- What is contributed for a clause is well bound. -/
theorem Contributes.wellBound {maps : List Value} (hmaps : BuildsWellBound maps) {key : String}
    (hkey : key ∈ clauseKeys) {f : Fragment Value} (h : Contributes maps key f) : f.WellBound := by
  obtain ⟨entries, v, hentries, hv, hblank, hf⟩ := h
  obtain ⟨g, hg, hbound⟩ := hmaps entries hentries key hkey v hv hblank
  rw [hf] at hg
  cases hg
  exact hbound

/-- The fragments that a merge keeps are contributed by the option-maps, and they have text. -/
theorem Gathers.contributes {base : Base} {maps : List Value} {c : Clauses} (hc : Gathers base maps c)
    {s : Fragment Value} (hs : s ∈ c.sources) :
    s.isEmpty = false ∧ ∃ key ∈ clauseKeys, Contributes maps key s := by
  have hvalue : ∀ key ∈ clauseKeys, (∃ v ∈ contributions c.entries key, Fragment.ofValue v = .ok s) →
      ∃ key ∈ clauseKeys, Contributes maps key s := by
    rintro key hkey ⟨v, hv, hs⟩
    obtain ⟨entries, hentries, hv, hblank⟩ := (mem_contributions hc).mp hv
    exact ⟨key, hkey, entries, v, hentries, hv, hblank, hs⟩
  have hdistinct : ∀ key ∈ clauseKeys, ∀ fs, distinctFragments c.entries key = .ok fs → s ∈ fs →
      s.isEmpty = false ∧ ∃ key ∈ clauseKeys, Contributes maps key s := by
    intro key hkey fs hfs hs
    obtain ⟨hfull, hs⟩ := exists_of_mem_distinctFragments hfs hs
    exact ⟨hfull, hvalue key hkey hs⟩
  simp only [Clauses.sources, List.mem_append] at hs
  rcases hs with ((((hs | hs) | hs) | hs) | hs) | hs
  · exact hdistinct "select" (by decide) _ hc.select_eq hs
  · exact hdistinct "joins" (by decide) _ hc.joins_eq hs
  · exact hdistinct "conditions" (by decide) _ hc.conditions_eq hs
  · exact hdistinct "group" (by decide) _ hc.contributed_eq hs
  · exact hdistinct "having" (by decide) _ hc.having_eq hs
  · obtain ⟨hfull, hs⟩ := exists_of_mem_fragments hc.order_eq hs
    exact ⟨hfull, hvalue "order" (by decide) hs⟩

/-! ## Merged clauses -/

/-- So is a clause of them. -/
theorem joinSome_assembles {separator : String} (hsep : Neutral separator) (wrap : Bool)
    {fs : List (Fragment Value)} (hfull : ∀ f ∈ fs, f.isEmpty = false) :
    ((joinSome separator wrap fs).getD .empty).Assembles fs := by
  rw [joinSome]
  split
  next hnil =>
    rw [List.isEmpty_iff.mp hnil]
    exact Fragment.Assembles.empty
  next => exact Fragment.Assembles.joined hsep wrap hfull

/-- The names of the table and of its primary key hold no quotes and question marks. -/
structure Base.IsNeutral (base : Base) : Prop where
  table : ∀ name ∈ base.table, Neutral name
  primaryKey : ∀ name ∈ base.primaryKey, Neutral name

/-- The groups that are used are those contributed, or a text of the merge's own where a `having`
clause would stand without them. -/
theorem groupsFor_eq_ok {base : Base} (hbase : base.IsNeutral)
    {contributed having groups : List (Fragment Value)}
    (h : groupsFor base contributed having = .ok groups) :
    (groups = contributed ∧ (having = [] ∨ contributed ≠ [])) ∨
      contributed = [] ∧ ∃ name, Neutral name ∧ groups = [.ofSql name] := by
  rw [groupsFor] at h
  split at h
  next hkept =>
    cases h
    rw [Bool.or_eq_true, List.isEmpty_iff, Bool.not_eq_true', List.isEmpty_eq_false_iff] at hkept
    exact Or.inl ⟨rfl, hkept⟩
  next hkept =>
    have hnone : contributed = [] := by
      rw [Bool.or_eq_true, not_or, Bool.not_eq_true', Bool.not_eq_false] at hkept
      exact List.isEmpty_iff.mp hkept.2
    split at h
    next => cases h
    next key hkey =>
      cases h
      refine Or.inr ⟨hnone, _, ?_, rfl⟩
      have hneutral := hbase.primaryKey key hkey
      split
      next name hname =>
        split
        · exact hneutral
        · exact ((hbase.table name hname).append (by decide)).append hneutral
      next => exact hneutral

/-- Groups, and a condition on groups behind them, are put together of both. -/
theorem groupClause_assembles {base : Base} (hbase : base.IsNeutral)
    {contributed having groups : List (Fragment Value)}
    (h : groupsFor base contributed having = .ok groups)
    (hcontributed : ∀ f ∈ contributed, f.isEmpty = false) (hhaving : ∀ f ∈ having, f.isEmpty = false) :
    ((groupClause groups having).getD .empty).Assembles (contributed ++ having) := by
  have hgroup : (Fragment.join ", " false groups).Assembles contributed := by
    rcases groupsFor_eq_ok hbase h with ⟨rfl, -⟩ | ⟨rfl, name, hname, rfl⟩
    · exact Fragment.Assembles.joined (by decide) false hcontributed
    · exact Fragment.Assembles.join (by decide) false
        (List.Forall₂.cons (Fragment.Assembles.ofSql hname) List.Forall₂.nil) (by simp)
  cases groups with
  | nil =>
    -- Without groups there is no `having` clause either.
    rcases groupsFor_eq_ok hbase h with ⟨rfl, hnone | hsome⟩ | ⟨-, name, -, hcons⟩
    · rw [hnone]
      exact Fragment.Assembles.empty
    · exact absurd rfl hsome
    · cases hcons
  | cons g groups =>
    cases having with
    | nil =>
      rw [List.append_nil]
      exact hgroup
    | cons f having =>
      have hclause : (Fragment.join " AND " true (f :: having)).Assembles (f :: having) :=
        Fragment.Assembles.joined (by decide) true hhaving
      have hfront : ({ sql := (Fragment.join ", " false (g :: groups)).sql ++ " HAVING "
                       params := (Fragment.join ", " false (g :: groups)).params } :
          Fragment Value).Assembles contributed := hgroup.before (by decide) rfl rfl
      exact hfront.append hclause rfl rfl

/-- Columns are put together, or those of the table stand for them. -/
theorem selectClause_assembles {base : Base} (hbase : base.IsNeutral)
    {select : List (Fragment Value)} (joins : List (Fragment Value))
    (hselect : ∀ f ∈ select, f.isEmpty = false) :
    ((selectClause base select joins).getD .empty).Assembles select := by
  cases select with
  | cons f select => exact Fragment.Assembles.joined (by decide) false hselect
  | nil =>
    have hnone : joinSome ", " false ([] : List (Fragment Value)) = none := rfl
    rw [selectClause, hnone]
    cases hname : base.table with
    | some name =>
      dsimp only
      split
      · exact Fragment.Assembles.empty
      · exact Fragment.Assembles.ofSql
          (Neutral.append (Neutral.append (by decide) (hbase.table name hname)) (by decide))
    | none => exact Fragment.Assembles.empty

/-- Every clause of a merged option-map is made of the fragments kept for it. -/
theorem options_assemble {base : Base} (hbase : base.IsNeutral) {maps : List Value} {c : Clauses}
    (hc : Gathers base maps c) :
    ((c.options base).select.getD .empty).Assembles c.select ∧
      ((c.options base).joins.getD .empty).Assembles c.joins ∧
      ((c.options base).conditions.getD .empty).Assembles c.conditions ∧
      ((c.options base).group.getD .empty).Assembles (c.contributed ++ c.having) ∧
      ((c.options base).order.getD .empty).Assembles c.order := by
  have hfull : ∀ s, s ∈ c.sources → s.isEmpty = false := fun s hs => (hc.contributes hs).1
  refine ⟨?_, ?_, ?_, ?_, ?_⟩
  · exact selectClause_assembles hbase c.joins fun s hs => hfull s (by simp [Clauses.sources, hs])
  · exact joinSome_assembles (by decide) false fun s hs => hfull s (by simp [Clauses.sources, hs])
  · exact joinSome_assembles (by decide) true fun s hs => hfull s (by simp [Clauses.sources, hs])
  · exact groupClause_assembles hbase hc.groups_eq
      (fun s hs => hfull s (by simp [Clauses.sources, hs]))
      fun s hs => hfull s (by simp [Clauses.sources, hs])
  · exact joinSome_assembles (by decide) false fun s hs => hfull s (by simp [Clauses.sources, hs])

/-! ## The statement -/

theorem lookupText_append (es fs : List (Value × Value)) (key : String) :
    Value.lookupText (es ++ fs) key = (Value.lookupText es key).or (Value.lookupText fs key) := by
  rw [Value.lookupText, List.find?_append, Option.map_or]
  rfl

/-- An entry that may be missing is found under its own key only. -/
theorem lookupText_option {α : Type} (a : Option α) (write : α → Value) (own key : String) :
    Value.lookupText (a.toList.map fun x => (.text own, write x)) key =
      if own = key then a.map write else none := by
  cases a with
  | none => simp [Value.lookupText]
  | some x =>
    by_cases hkey : own = key
    · simp [Value.lookupText, Value.text?, hkey]
    · simp [Value.lookupText, Value.text?, hkey]

/-- An option that is missing is read as an empty fragment. -/
theorem ofValue_option (f : Option (Fragment Value)) :
    Fragment.ofValue ((f.map .fragment).getD .null) = .ok (f.getD .empty) := by
  cases f with
  | none => rfl
  | some f => rfl

/-- The clauses of a merged option-map, as a statement reads them. -/
theorem clause_toValue (o : FindOptions) :
    clause o.toValue "conditions" = .ok (o.conditions.getD .empty) ∧
      clause o.toValue "joins" = .ok (o.joins.getD .empty) ∧
      clause o.toValue "group" = .ok (o.group.getD .empty) ∧
      clause o.toValue "order" = .ok (o.order.getD .empty) ∧
      clause o.toValue "select" = .ok (o.select.getD .empty) := by
  simp [clause, toValue, lookupText_append, lookupText_option, ofValue_option]

/-- A selection from a table is put together of what is selected. -/
theorem selection_assembles {table : String} (htable : Neutral table) {f : Fragment Value}
    {sources : List (Fragment Value)} (h : f.Assembles sources)
    (hfull : ∀ s ∈ sources, s.isEmpty = false) : (selection table f).Assembles sources := by
  rw [selection]
  split
  next hempty =>
    rw [h.sources_eq_nil hempty hfull]
    exact Fragment.Assembles.ofSql (htable.append (by decide))
  next => exact h

/-- A keyword in front adds nothing to bind. -/
theorem withKeyword_assembles {keyword : String} (hkeyword : Neutral keyword) {f : Fragment Value}
    {sources : List (Fragment Value)} (h : f.Assembles sources)
    (hfull : ∀ s ∈ sources, s.isEmpty = false) : (withKeyword keyword f).Assembles sources := by
  rw [withKeyword]
  split
  next hempty =>
    rw [h.sources_eq_nil hempty hfull]
    exact Fragment.Assembles.empty
  next => exact h.behind (hkeyword.append (by decide)) rfl rfl

/-- Neither does a statement that counts around it. -/
theorem counting_assembles {f : Fragment Value} {sources : List (Fragment Value)}
    (h : f.Assembles sources) : (counting f).Assembles sources := by
  have hfront : ({ sql := "SELECT COUNT(*) FROM (" ++ f.sql, params := f.params } :
      Fragment Value).Assembles sources := h.behind (by decide) rfl rfl
  have hend : Neutral ") AS search_api_count" := by decide
  exact hfront.before hend rfl rfl

/-- **The statement of a merge.** It is made of the fragments that the merge keeps, in the order of
the statement. -/
theorem statement_assembles {base : Base} (hbase : base.IsNeutral) {maps : List Value} {c : Clauses}
    (hc : Gathers base maps c) {table : String} (htable : Neutral table) :
    ∃ statement, Statement.select table (c.options base).toValue = .ok statement ∧
      statement.Assembles c.sources := by
  obtain ⟨hconditions, hjoins, hgroup, horder, hselect⟩ := clause_toValue (c.options base)
  refine ⟨_, bind_eq_ok_iff.mpr ⟨_, hselect, bind_eq_ok_iff.mpr ⟨_, hjoins,
    bind_eq_ok_iff.mpr ⟨_, hconditions, bind_eq_ok_iff.mpr ⟨_, hgroup,
    bind_eq_ok_iff.mpr ⟨_, horder, rfl⟩⟩⟩⟩⟩, ?_⟩
  clear hselect hjoins hconditions hgroup horder
  obtain ⟨hselect, hjoins, hconditions, hgroup, horder⟩ := options_assemble hbase hc
  have hfull : ∀ s ∈ c.sources, s.isEmpty = false := fun s hs => (hc.contributes hs).1
  have hsources : c.sources =
      [c.select, c.joins, c.conditions, c.contributed ++ c.having, c.order].flatten := by
    simp [Clauses.sources]
  have hpart : ∀ fs ∈ [c.select, c.joins, c.conditions, c.contributed ++ c.having, c.order],
      ∀ f ∈ fs, f.isEmpty = false := fun fs hfs f hf =>
    hfull f (hsources ▸ List.mem_flatten.mpr ⟨fs, hfs, hf⟩)
  have hcolumns := selection_assembles htable hselect (hpart _ (by simp))
  -- The selection stands between two keywords, which have no placeholders of their own.
  have hhead : ({ sql := "SELECT " ++ (selection table ((c.options base).select.getD .empty)).sql
                  params := (selection table ((c.options base).select.getD .empty)).params } :
      Fragment Value).Assembles c.select := hcolumns.behind (by decide) rfl rfl
  have hfrom : Neutral (" FROM " ++ table) := Neutral.append (by decide) htable
  rw [hsources] at hfull ⊢
  refine Fragment.Assembles.join (by decide) false ?_ hfull
  refine .cons (hhead.before hfrom (by rw [String.append_assoc]) rfl) (.cons hjoins (.cons ?_
    (.cons ?_ (.cons ?_ .nil))))
  · exact withKeyword_assembles (by decide) hconditions (hpart _ (by simp))
  · exact withKeyword_assembles (by decide) hgroup (hpart _ (by simp))
  · exact withKeyword_assembles (by decide) horder (hpart _ (by simp))

/-! ## Alignment -/

/-- The fragments of a merged option-map. -/
def clauses (o : FindOptions) : List (Fragment Value) :=
  [o.conditions, o.joins, o.group, o.order, o.select].filterMap id

/-- Every clause is put together of what was contributed. -/
theorem clauses_assemble {base : Base} (hbase : base.IsNeutral) {maps : List Value} {c : Clauses}
    (hc : Gathers base maps c) {f : Fragment Value} (hf : f ∈ (c.options base).clauses) :
    ∃ sources, f.Assembles sources ∧ sources ⊆ c.sources := by
  obtain ⟨hselect, hjoins, hconditions, hgroup, horder⟩ := options_assemble hbase hc
  simp only [clauses, List.mem_filterMap, List.mem_cons, List.not_mem_nil, or_false, id_eq,
    exists_eq_right] at hf
  rcases hf with hf | hf | hf | hf | hf
  · rw [← hf] at hconditions
    exact ⟨_, hconditions, fun s hs => by simp [Clauses.sources, hs]⟩
  · rw [← hf] at hjoins
    exact ⟨_, hjoins, fun s hs => by simp [Clauses.sources, hs]⟩
  · rw [← hf] at hgroup
    exact ⟨_, hgroup, fun s hs => by
      rcases List.mem_append.mp hs with hs | hs <;> simp [Clauses.sources, hs]⟩
  · rw [← hf] at horder
    exact ⟨_, horder, fun s hs => by simp [Clauses.sources, hs]⟩
  · rw [← hf] at hselect
    exact ⟨_, hselect, fun s hs => by simp [Clauses.sources, hs]⟩

/-- The fragment is made of the sources, each placeholder is the copy of one of a source with the
same parameter, and so its parameters can be bound. -/
structure Aligned (f : Fragment Value) (sources : List (Fragment Value)) : Prop where
  wellBound : f.WellBound
  neverUnbalanced : f.NeverUnbalanced
  reading : ∃ parts, f.CutInto parts sources ∧ f.reading = parts.flatMap Fragment.Part.reading
  copied : ∀ k, IsPlaceholder f.sql.toList k →
    ∃ s ∈ sources, ∃ front back j, f.CopiedFrom s k front back j

/-- What is put together of well bound fragments is aligned with them. -/
theorem aligned_of_assembles {f : Fragment Value} {sources : List (Fragment Value)}
    (h : f.Assembles sources) (hsources : ∀ s ∈ sources, s.WellBound) : Aligned f sources := by
  obtain ⟨parts, hcut⟩ := h
  obtain ⟨hbound, hreading⟩ := hcut.wellBound_reading hsources
  exact
    { wellBound := hbound
      neverUnbalanced := hbound.neverUnbalanced
      reading := ⟨parts, hcut, hreading⟩
      copied := fun k hk => hcut.exists_copiedFrom hsources hk }

/-- **Parameters stay with their placeholders.** If the option-maps build well-bound fragments, so
does their merge; the statement made of it and the statement that counts its rows are made of the
fragments that the maps contribute, in the order of the statement, and each of their placeholders is
bound to the parameter of the placeholder that it is a copy of. -/
theorem merge_aligned {base : Base} {t : Table} {maps : List Value} {o : FindOptions}
    (hmerge : merge base maps = .ok o) (hmaps : BuildsWellBound maps) (hbase : base.IsNeutral)
    (htable : Neutral t.sqlTable) :
    (∀ f ∈ o.clauses, f.WellBound ∧ f.NeverUnbalanced) ∧
      ∃ c, Gathers base maps c ∧ (∀ s ∈ c.sources, ∃ key ∈ clauseKeys, Contributes maps key s) ∧
        ∃ statement, Statement.ofOptions t o.toValue = .ok statement ∧
          Aligned statement c.sources ∧ Aligned (counting statement) c.sources := by
  obtain ⟨c, hc, rfl⟩ := merge_eq_ok_iff.mp hmerge
  have hbound : ∀ s ∈ c.sources, s.WellBound := by
    intro s hs
    obtain ⟨-, key, hkey, hcontributes⟩ := hc.contributes hs
    exact hcontributes.wellBound hmaps hkey
  refine ⟨?_, c, hc, fun s hs => (hc.contributes hs).2, ?_⟩
  · intro f hf
    obtain ⟨sources, h, hsources⟩ := clauses_assemble hbase hc hf
    have hf := h.wellBound fun s hs => hbound s (hsources hs)
    exact ⟨hf, hf.neverUnbalanced⟩
  · obtain ⟨statement, hstatement, h⟩ :=
      statement_assembles hbase hc htable
    exact ⟨statement, hstatement, aligned_of_assembles h hbound,
      aligned_of_assembles (counting_assembles h) hbound⟩

/-- A quoted question mark and a `having` clause that is glued behind the default group. -/
theorem merge_aligned_having :
    let base : Base := ⟨some "items", some "id"⟩
    let t : Table := { model := "Item", table := "items", columns := [] }
    let maps : List Value := [
      .dict [(.text "having", .tuple [.text "COUNT(*) > ?", .int 2])], .null,
      .dict [(.text "conditions", .list [.text "name = ? OR note = '?'", .text "x"]),
        (.text "joins", .text "JOIN parts"), (.text "order", .text "  ")]]
    ∃ o statement, merge base maps = .ok o ∧ Statement.ofOptions t o.toValue = .ok statement ∧
      statement.sql = "SELECT DISTINCT items.* FROM items JOIN parts WHERE (name = ? OR note = '?') " ++
        "GROUP BY items.id HAVING (COUNT(*) > ?)" ∧ statement.params = [.text "x", .int 2] ∧
      BuildsWellBound maps ∧ base.IsNeutral ∧ Neutral t.sqlTable ∧
      ∃ c, Gathers base maps c ∧ Aligned statement c.sources ∧
        Aligned (counting statement) c.sources := by
  intro base t maps
  have hmaps : BuildsWellBound maps := by
    intro entries hentries key _ v hv _
    simp only [maps, List.mem_cons, Value.dict.injEq, reduceCtorEq, List.not_mem_nil, or_false,
      false_or] at hentries
    rcases hentries with rfl | rfl
    · simp only [List.mem_cons, Prod.mk.injEq, List.not_mem_nil, or_false] at hv
      rw [hv.2]
      exact ⟨_, rfl, by decide +kernel⟩
    · simp only [List.mem_cons, Prod.mk.injEq, List.not_mem_nil, or_false] at hv
      rcases hv with ⟨-, rfl⟩ | ⟨-, rfl⟩ | ⟨-, rfl⟩
      · exact ⟨_, rfl, by decide +kernel⟩
      · exact ⟨_, rfl, by decide +kernel⟩
      · exact ⟨_, rfl, by decide +kernel⟩
  have hbase : base.IsNeutral := by
    refine ⟨?_, ?_⟩
    · rintro _ ⟨⟩
      decide
    · rintro _ ⟨⟩
      decide
  have htable : Neutral t.sqlTable := by decide +kernel
  obtain ⟨o, hmerge⟩ : ∃ o, merge base maps = .ok o := ⟨_, rfl⟩
  obtain ⟨-, c, hc, -, statement, hstatement, halign, hcount⟩ :=
    merge_aligned hmerge hmaps hbase htable
  refine ⟨o, statement, hmerge, hstatement, ?_, ?_, hmaps, hbase, htable, c, hc, halign, hcount⟩
  · cases hmerge
    cases hstatement
    decide +kernel
  · cases hmerge
    cases hstatement
    rfl

end FindOptions

end SearchQuery
