import SearchQuery.Proofs.Search.Rewriting
import SearchQuery.Proofs.Sql.Delimited

/-!
# Equality is membership

The condition of `eq` for a collection holds of the rows that are equal to one of its members, and for any
other value of the rows that are equal to it, where `null` is equal to `NULL`. The condition of `neq` for a
value that is no collection holds of all other rows (`equality_is_membership`). This is so for every
column, whether its name stands in quotes or not.

A `null` that is a member is bound as a parameter, and nothing is known to be equal to it. A collection that
is compared by `neq` is one parameter.

## Shape of the argument

In parentheses there are placeholders with commas between them, which are no condition and so are read as
values (`closed?_listItems`). A column is one of the values if some comparison with them holds
(`truth_isOneOf`), since one that is unknown does not keep another one from holding.
-/

namespace SearchQuery

open Sql Column

variable {α : Type} {row : Row α}

/-! ## Names of columns -/

/-- A name that is written bare has no line feed at its end, which SQL takes for white space. -/
def NoBareLineFeed (name : String) : Prop :=
  isPlainName name = true → '\n' ∉ name.toList

instance (name : String) : Decidable (NoBareLineFeed name) :=
  inferInstanceAs (Decidable (isPlainName name = true → '\n' ∉ name.toList))

namespace Sql

/-- The name of a column is a part of a name when it is written. -/
theorem isNamePart_sqlName {name : String} (h : NoBareLineFeed name) :
    IsNamePart (sqlName name).toList := by
  rw [sqlName]
  split
  next hplain =>
    have hword : IsPlainWord name := ⟨hplain, h hplain⟩
    exact isNamePart_of_all hword.all_isNameChar
  next =>
    rw [String.toList_ofList]
    exact isNamePart_quoted name.toList

/-- Names with a dot between them. -/
theorem IsNamePart.dot {front back : String} (hfront : IsNamePart front.toList)
    (hback : IsNamePart back.toList) : IsNamePart (front ++ "." ++ back).toList := by
  have hdot : IsNamePart ".".toList := by
    refine isNamePart_of_all (List.forall_mem_singleton.mpr ?_)
    decide +kernel
  rw [String.toList_append, String.toList_append]
  exact (hfront.append hdot).append hback

end Sql

/-- The table can be named in SQL, with its schema. -/
structure Table.IsLegible (t : Table) : Prop where
  table : NoBareLineFeed t.table
  schema : ∀ name ∈ t.schema, NoBareLineFeed name

/-- In a legible table every column can be told by its name. -/
theorem Table.IsLegible.isColumnName {t : Table} (h : t.IsLegible) {c : TableColumn}
    (hc : NoBareLineFeed c.name) : IsColumnName (t.sqlColumn c) := by
  have htable : IsNamePart t.sqlTable.toList := by
    rw [sqlTable]
    cases hschema : t.schema with
    | none => exact isNamePart_sqlName h.table
    | some name =>
      dsimp only [Option.getD_some]
      -- A schema without a name is not written.
      split
      · exact isNamePart_sqlName h.table
      · exact (isNamePart_sqlName (h.schema name hschema)).dot (isNamePart_sqlName h.table)
  have htext : t.sqlColumn c = t.sqlTable ++ "." ++ sqlName c.name := rfl
  have hdot : '.' ∈ (t.sqlColumn c).toList := by
    rw [htext]
    simp [String.toList_append]
  refine ⟨?_, ?_, Keyword.ofWord?_of_dot hdot⟩
  · intro hnil
    rw [hnil] at hdot
    cases hdot
  · rw [htext]
    exact htable.dot (isNamePart_sqlName hc)

/-! ## Lists of values -/

namespace Sql

/-- Values with commas between them. -/
def listItems : List Value → List Element
  | [] => []
  | [v] => [.value v]
  | v :: w :: vs => .value v :: .symbol .comma :: listItems (w :: vs)

/-- Marks with commas between them are a list of values. -/
theorem pushes_marks {vs : List Value} (hne : vs ≠ []) :
    Pushes (symbols (", ".intercalate (vs.map fun _ => "?"))) vs (listItems vs) := by
  induction vs with
  | nil => exact absurd rfl hne
  | cons v vs ih =>
    cases vs with
    | nil =>
      have hmark : symbols "?" = [.mark] := by decide +kernel
      rw [List.map_singleton, String.intercalate_singleton, hmark]
      rfl
    | cons w vs =>
      have hfront : Pushes (symbols "?,") [v] [.value v, .symbol .comma] :=
        Fragment.pushes_of_symbols [.mark, .comma] (by decide +kernel) rfl
      have hback := ih (List.cons_ne_nil w vs)
      have htext : ", ".intercalate ((v :: w :: vs).map fun _ => "?") =
          "?," ++ " " ++ ", ".intercalate ((w :: vs).map fun _ => "?") := by
        rw [List.map_cons, String.intercalate_cons_of_ne_nil (by simp)]
        rfl
      rw [htext, symbols_space]
      exact hfront.append hback

theorem not_mem_quote_marks (vs : List Value) :
    '"' ∉ (", ".intercalate (vs.map fun _ => "?")).toList := by
  induction vs with
  | nil => decide
  | cons v vs ih =>
    cases vs with
    | nil =>
      rw [List.map_singleton, String.intercalate_singleton]
      decide
    | cons w vs =>
      rw [List.map_cons, String.intercalate_cons_of_ne_nil (by simp), String.toList_append,
        String.toList_append, List.mem_append, List.mem_append]
      rintro ((h | h) | h)
      · revert h
        decide
      · revert h
        decide
      · exact ih h

/-- A list of values is read as its values. -/
theorem values?_listItems {vs : List Value} (hne : vs ≠ []) : values? (listItems vs) = some vs := by
  induction vs with
  | nil => exact absurd rfl hne
  | cons v vs ih =>
    cases vs with
    | nil => rfl
    | cons w vs =>
      rw [listItems, values?, ih (List.cons_ne_nil w vs)]
      rfl

/-- A frame that starts with a value and has no connectives is no condition. -/
theorem condition?_listItems {vs : List Value} (hne : vs ≠ []) : condition? (listItems vs) = none := by
  have hplain : ∀ k, ∀ item ∈ listItems vs, item.is k = false := by
    intro k
    clear hne
    induction vs with
    | nil => simp [listItems]
    | cons v vs ih =>
      cases vs with
      | nil => simp [listItems, Element.is]
      | cons w vs => simpa [listItems, Element.is] using ih
  have hfactor : factor? (listItems vs) = none := by
    cases vs with
    | nil => exact absurd rfl hne
    | cons v vs => cases vs <;> rfl
  have hconjunction : conjunction? (listItems vs) = none := by
    rw [conjunction?, List.splitOnP_eq_singleton (hplain .and)]
    simp [hfactor]
  rw [condition?, List.splitOnP_eq_singleton (hplain .or)]
  simp [hconjunction]

theorem closed?_listItems {vs : List Value} (hne : vs ≠ []) :
    closed? (listItems vs) = some (.values vs) := by
  rw [closed?, condition?_listItems hne, values?_listItems hne]
  rfl

end Sql

/-! ## Truth -/

namespace Operator

/-- The row is equal to the value, or for a collection to one of its members; a member is compared, and
`null` is equal to nothing then. -/
def MatchedBy (row : Row α) (column : String) (v : Value) : Prop :=
  match v.collection? with
  | some items => ∃ w ∈ items, w ≠ .null ∧ EqualTo row column w
  | none => EqualTo row column v

/-- A column is one of the values if it is equal to one, whatever is unknown of the others. -/
theorem truth_isOneOf (row : Row α) (column : String) (vs : List Value) :
    (Condition.isOneOf column vs).truth row = .holds ↔ ∃ w ∈ vs, w ≠ .null ∧ EqualTo row column w := by
  rw [Condition.truth, Truth.any_eq_holds, List.mem_map]
  refine exists_congr fun w => and_congr_right fun _ => ?_
  by_cases hw : w = .null
  · -- Nothing is known to be equal to a parameter that is `NULL`.
    subst hw
    have hunknown : row.test row.equal column .null = .unknown := by
      unfold Row.test
      cases row.column column <;> rfl
    simp [hunknown]
  · rw [Row.test_eq_holds row.equal hw, EqualTo]
    simp [hw]

variable {column : String} (h : IsColumnName column)

include h

/-- A collection without members is written as a list of `NULL`. -/
theorem delimitedCondition?_collection {v : Value} {items : List Value} (hv : v.collection? = some items) :
    (equality column v).delimitedCondition? =
      some (.isOneOf column (if items = [] then [.null] else items)) := by
  obtain ⟨hparams, hsql⟩ := equality_of_collection? column hv
  rw [Fragment.delimitedCondition?, hparams, hsql]
  by_cases hitems : items = []
  · have hnull : Pushes (symbols "NULL") [] [.symbol (.keyword .null)] :=
      Fragment.pushes_of_symbols [.keyword .null] (by decide +kernel) rfl
    have htext : column ++ " IN (NULL)" = column ++ " IN (" ++ "NULL" ++ ")" := by
      rw [String.append_assoc, String.append_assoc]
      rfl
    rw [if_pos hitems, if_pos hitems, hitems, htext]
    exact Fragment.delimitedCondition?_isOneOf h (by decide) hnull rfl
  · rw [if_neg hitems, if_neg hitems]
    exact Fragment.delimitedCondition?_isOneOf h (not_mem_quote_marks items) (pushes_marks hitems)
      (closed?_listItems hitems)

/-- An equality matches the rows that have the value, or one of its members. -/
theorem equality_matches (v : Value) (row : Row α) :
    ∃ s, (equality column v).delimitedTruth? row = some s ∧ (s = .holds ↔ MatchedBy row column v) := by
  cases hv : v.collection? with
  | some items =>
    refine ⟨_, congrArg (Option.map _) (delimitedCondition?_collection h hv), ?_⟩
    rw [truth_isOneOf, MatchedBy, hv]
    by_cases hitems : items = []
    · simp [hitems]
    · rw [if_neg hitems]
  | none =>
    rw [MatchedBy, hv]
    by_cases hnull : v = .null
    · subst hnull
      refine ⟨_, congrArg (Option.map _) (Fragment.delimitedCondition?_isNull h), ?_⟩
      simp [Condition.truth, Truth.ofBool_eq_holds, EqualTo]
    · rw [equality_eq_test column hnull hv]
      refine ⟨row.test row.equal column v,
        congrArg (Option.map _) (Fragment.delimitedCondition?_equal h v), ?_⟩
      rw [Row.test_eq_holds row.equal hnull]
      simp [EqualTo, hnull]

/-- An inequality matches the rows that do not have the value. -/
theorem inequality_matches (v : Value) (row : Row α) :
    ∃ s, (inequality column v).delimitedTruth? row = some s ∧ (s = .holds ↔ ¬ EqualTo row column v) := by
  by_cases hnull : v = .null
  · subst hnull
    refine ⟨_, congrArg (Option.map _) (Fragment.delimitedCondition?_isNotNull h), ?_⟩
    simp [Condition.truth, Truth.not_ofBool, Truth.ofBool_eq_holds, EqualTo, Option.isSome_iff_ne_none]
  · rw [inequality_eq_test column hnull]
    exact ⟨_, congrArg (Option.map _) (Fragment.delimitedCondition?_unequal h v),
      unequal_eq_holds hnull row column⟩

end Operator

/-! ## Membership -/

open Operator

/-- **Equality is membership.** For every column, the condition of `eq` can be read and holds of exactly the
rows that the value or one of its members matches. For a value that is no collection, the condition of `neq`
can be read and holds of exactly the other rows. -/
theorem equality_is_membership {t : Table} (ht : t.IsLegible) {c : TableColumn}
    (hc : NoBareLineFeed c.name) (v : Value) (row : Row α) :
    let column := t.sqlColumn c
    ∃ f s, ColumnOperator.equal.condition? column v = some f ∧ f.delimitedTruth? row = some s ∧
      (s = .holds ↔ MatchedBy row column v) ∧
      (v.collection? = none →
        ∃ g u, ColumnOperator.notEqual.condition? column v = some g ∧ g.delimitedTruth? row = some u ∧
          (u = .holds ↔ s ≠ .holds)) := by
  intro column
  have hcolumn : IsColumnName column := ht.isColumnName hc
  obtain ⟨s, hs, hmatched⟩ := equality_matches hcolumn v row
  refine ⟨_, s, rfl, hs, hmatched, ?_⟩
  intro hscalar
  obtain ⟨u, hu, hunequal⟩ := inequality_matches hcolumn v row
  have hequal : s = .holds ↔ EqualTo row column v := by
    rw [hmatched, MatchedBy, hscalar]
  exact ⟨_, u, rfl, hu, hunequal.trans (not_congr hequal.symm)⟩

/-- A row with one number, or `NULL`, in the column and no other values. -/
def numberRow (column : String) (x : Option ℤ) : Row ℤ where
  column name := if name = column then x else none
  equal n v :=
    match v with
    | .int m => n = m
    | _ => false
  compare _ _ _ := false
  like _ _ := false

/-- A column whose name holds quotes and a mark, in a table with a reserved word for a name. -/
theorem equality_is_membership_quoted :
    let c : TableColumn := { key := "what", name := "a \"b\"?", kind := none }
    let t : Table := { model := "T", table := "select", schema := some "s", columns := [c] }
    let row := numberRow (t.sqlColumn c) (some 2)
    t.sqlColumn c = "s.\"select\".\"a \"\"b\"\"?\"" ∧ t.IsLegible ∧ NoBareLineFeed c.name ∧
      (∃ f, ColumnOperator.equal.condition? (t.sqlColumn c) (.set [.null, .int 2]) = some f ∧
        f.delimitedTruth? row = some .holds) ∧
      ∃ g, ColumnOperator.notEqual.condition? (t.sqlColumn c) (.int 3) = some g ∧
        g.delimitedTruth? row = some .holds := by
  intro c t row
  have ht : t.IsLegible := by
    refine ⟨by decide +kernel, ?_⟩
    rintro name ⟨⟩
    decide +kernel
  have hc : NoBareLineFeed c.name := by decide +kernel
  have hx : row.column (t.sqlColumn c) = some 2 := by
    simp [row, numberRow]
  refine ⟨by decide +kernel, ht, hc, ?_, ?_⟩
  · obtain ⟨f, s, hf, hs, hmatched, -⟩ := equality_is_membership ht hc (.set [.null, .int 2]) row
    refine ⟨f, hf, ?_⟩
    rw [hs, hmatched.mpr ⟨.int 2, by simp, by simp, Or.inr ⟨by simp, 2, hx, by decide⟩⟩]
  · obtain ⟨f, s, -, -, hmatched, hscalar⟩ := equality_is_membership ht hc (.int 3) row
    obtain ⟨g, u, hg, hu, hother⟩ := hscalar rfl
    refine ⟨g, hg, ?_⟩
    rw [hu, hother.mpr ?_]
    intro hholds
    rcases hmatched.mp hholds with ⟨hnull, -⟩ | ⟨-, x, hx', hequal⟩
    · cases hnull
    · rw [hx] at hx'
      cases hx'
      revert hequal
      decide

/-- A `null` in a collection does not match `NULL`, a collection of which the column is a member does not
keep it from being unequal, and a line feed at the end of a bare name makes it the name of another column. -/
theorem collection_with_null :
    let read (op : ColumnOperator) (column : String) (v : Value) (row : Row ℤ) :=
      (op.condition? column v).bind (·.delimitedTruth? row)
    read .equal "t.a" (.list [.null]) (numberRow "t.a" none) = some .unknown ∧
      read .equal "t.a" (.list [.int 1]) (numberRow "t.a" (some 1)) = some .holds ∧
      read .notEqual "t.a" (.list [.int 1]) (numberRow "t.a" (some 1)) = some .holds ∧
      read .equal ("t." ++ sqlName "a\n") (.int 1) (numberRow ("t." ++ sqlName "a\n") (some 1)) =
        some .unknown := by
  decide +kernel

end SearchQuery
