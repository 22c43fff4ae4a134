import SearchQuery.Bridge.Relational
import SearchQuery.Proofs.Fragment.Equality
import SearchQuery.Proofs.Fragment.Nesting
import SearchQuery.Proofs.Query.Meaning
import SearchQuery.Proofs.Sql.Columns

/-!
# What operators ask for

An attribute that is declared with an operator contributes a condition on columns. `Operator` is the
operator with its columns, `conditionFor` the condition that its block contributes for a value, and
`Satisfied` what the operator means. The condition, read as SQL, holds of a row exactly if the row
satisfies the operator (`conditionFor_asks`).

## Shape of equal conditions

A merge keeps one of several conditions that are equal, where parameters are equal if they compare as
equal. Rows do not tell equal parameters apart (`Row.Respects`), so each condition of an operator has
the same truth as any fragment that is equal to it (`conditionFor_stable`).
-/

namespace SearchQuery

open Sql Column

variable {α : Type} {row : Row α}

/-! ## Equal parameters -/

/-- The relations of a row do not tell equal parameters apart. -/
structure Sql.Row.Respects (row : Row α) : Prop where
  equal : ∀ v w, Value.same? v w = some true → ∀ x, row.equal x v = row.equal x w
  compare : ∀ v w, Value.same? v w = some true → ∀ c x, row.compare c x v = row.compare c x w

namespace Value

/-- Only nothing is the same as nothing. -/
theorem eq_null_of_same? {v : Value} (h : same? v .null = some true) : v = .null := by
  by_contra hne
  have hnull : infinity? .null = none := rfl
  -- Two values of different kinds are the same as numbers or as infinities, and `null` is neither.
  have hboth : v.infinity?.isSome = true ∧ v.infinity? = none := by
    cases v <;>
      simp [same?, sameLeaf?, sameLeaf, expansion?, hnull, isSignalling, isNumber] at h hne ⊢ <;>
      exact h
  rw [hboth.2] at hboth
  cases hboth.1

/-- Only a text is the same as a text. -/
theorem eq_text_of_same? {s : String} {v : Value} (h : same? (.text s) v = some true) :
    v = .text s := by
  cases v <;> simp_all [same?, sameLeaf?, sameLeaf, expansion?, infinity?]

/-- Texts are equal to themselves only. -/
theorem eq_of_forall₂_equal_texts {ps qs : List Value} (htexts : ∀ v ∈ ps, ∃ s, v = .text s)
    (h : List.Forall₂ Equal ps qs) : ps = qs := by
  induction h with
  | nil => rfl
  | cons hsame _ ih =>
    rw [List.forall_mem_cons] at htexts
    obtain ⟨⟨s, rfl⟩, htexts⟩ := htexts
    rw [eq_text_of_same? hsame, ih htexts]

/-- Texts can be compared with anything. -/
theorem same?_text_left (s : String) (v : Value) : same? (.text s) v ≠ none := by
  have hleaf : sameLeaf? (.text s) v ≠ none := by
    rw [sameLeaf?]
    simp [isSignalling, isNumber]
    split <;> simp
  cases v <;> simpa [same?] using hleaf

theorem same?_text_right (v : Value) (s : String) : same? v (.text s) ≠ none := by
  have hleaf : sameLeaf? v (.text s) ≠ none := by
    rw [sameLeaf?]
    simp [isSignalling, isNumber]
    split <;> simp
  cases v <;> simpa [same?] using hleaf

/-- Lists can be compared if their members can. -/
theorem sameItems?_ne_none {vs ws : List Value} (h : ∀ v ∈ vs, ∀ w ∈ ws, same? v w ≠ none) :
    sameItems? vs ws ≠ none := by
  induction vs generalizing ws with
  | nil => cases ws <;> simp [sameItems?]
  | cons v vs ih =>
    cases ws with
    | nil => simp [sameItems?]
    | cons w ws =>
      rw [sameItems?]
      split
      next =>
        exact ih fun v hv w hw => h v (List.mem_cons_of_mem _ hv) w (List.mem_cons_of_mem _ hw)
      next => exact h v List.mem_cons_self w List.mem_cons_self

end Value

/-- A relation of the row that does not tell equal parameters apart has the same truth for them. -/
theorem Sql.Row.test_same {relation : α → Value → Bool} {v w : Value}
    (hrelation : ∀ x, relation x v = relation x w) (hv : v ≠ .null)
    (hsame : Value.same? v w = some true) (column : String) :
    row.test relation column w = row.test relation column v := by
  have hw : w ≠ .null := by
    rintro rfl
    exact hv (Value.eq_null_of_same? hsame)
  cases hx : row.column column with
  | none => rw [test_of_none hx, test_of_none hx]
  | some x => rw [test_of_some hx relation hw, test_of_some hx relation hv, hrelation]

/-! ## Collections -/

namespace Column

/-- Equality with a collection asks for one of its members, whatever the collection is. -/
theorem equality_of_collection? {v : Value} {items : List Value} (column : String)
    (h : v.collection? = some items) :
    (equality column v).params = items ∧
      (equality column v).sql = if items = [] then column ++ " IN (NULL)"
        else column ++ " IN (" ++ ", ".intercalate (items.map fun _ => "?") ++ ")" := by
  have hnull : v ≠ .null := by
    rintro rfl
    cases h
  rw [equality, h]
  · cases items with
    | nil => exact ⟨rfl, rfl⟩
    | cons item items => exact ⟨rfl, rfl⟩
  · exact hnull

end Column

/-! ## Operators -/

/-- An operator with the columns that it looks at, as its block holds them. -/
inductive Operator where
  | single (op : ColumnOperator) (column : String)
  | fullText (pairing : Bool) (exclude : Value) (columns : List String)

namespace Operator

/-- The block that a declaration with the operator installs. -/
def block : Operator → String → Hook
  | single op column, name => Bridge.columnBlock op name column
  | fullText pairing exclude columns, name => Bridge.fullTextBlock pairing exclude name columns

/-- The columns have plain names. -/
def IsPlain : Operator → Prop
  | single _ column => IsName column
  | fullText _ _ columns => columns ≠ [] ∧ ∀ column ∈ columns, IsName column

/-- The condition that the block contributes for a value, if it contributes one. -/
def conditionFor (v : Value) : Operator → Except Failure (Option (Fragment Value))
  | single op column =>
    if op.usesText && v.display?.isNone then .error .badValue else .ok (op.condition? column v)
  | fullText pairing exclude columns =>
    if v.display?.isNone then .error .badValue
    else if (soughtText v).isEmpty then .ok none
    else (Query.exclusions exclude).map fun patterns => meeting ⟨patterns, pairing⟩ columns v

/-- The column of the row is equal to the value; `null` asks for `NULL`. -/
def EqualTo (row : Row α) (column : String) (v : Value) : Prop :=
  v = .null ∧ row.column column = none ∨
    v ≠ .null ∧ ∃ x, row.column column = some x ∧ row.equal x v = true

/-- The row satisfies the operator for a value. -/
def Satisfied (row : Row α) (v : Value) : Operator → Prop
  | single .equal column => EqualTo row column v
  | single .notEqual column => ¬ EqualTo row column v
  | single (.compare c) column =>
    v = .null ∨ ∃ x, row.column column = some x ∧ row.compare c x v = true
  | single (.hold p) column =>
    soughtText v = "" ∨
      ∃ x, row.column column = some x ∧ row.like x (.text (p.likePattern (soughtText v))) = true
  | fullText pairing exclude columns =>
    soughtText v = "" ∨ ∃ patterns, Query.exclusions exclude = .ok patterns ∧
      (Criterion.read ⟨patterns, pairing⟩ (soughtText v)).Meets row columns

/-- A block reads its attribute and contributes the condition for the value it reads. -/
theorem block_eq (op : Operator) (name : String) :
    op.block name = .read name fun v =>
      match op.conditionFor v with
      | .ok f => .done (contribution f)
      | .error e => .fail e := by
  cases op with
  | single op column =>
    rw [block, Bridge.columnBlock]
    congr 1
    funext v
    rw [conditionFor]
    split <;> rfl
  | fullText pairing exclude columns =>
    rw [block, Bridge.fullTextBlock]
    congr 1
    funext v
    rw [conditionFor]
    split
    · rfl
    · split
      · rfl
      · cases Query.exclusions exclude <;> rfl

/-! ## Conditions on one column -/

/-- A value that is no collection is tested for equality. -/
theorem equality_eq_test (column : String) {v : Value} (hv : v ≠ .null)
    (hscalar : v.collection? = none) : equality column v = test (column ++ " = ?") v := by
  cases v <;> simp_all [equality]

theorem inequality_eq_test (column : String) {v : Value} (hv : v ≠ .null) :
    inequality column v = test (column ++ " <> ? OR " ++ column ++ " IS NULL") v := by
  cases v <;> simp_all [inequality]

theorem compared_eq_test (c : Comparison) (column : String) {v : Value} (hv : v ≠ .null) :
    compared c column v = some (test (column ++ " " ++ c.sign ++ " ?") v) := by
  cases v <;> simp_all [compared]

/-- An equality is as true as the test that it makes. -/
theorem truth?_equal {column : String} (h : IsName column) (v : Value) :
    (test (column ++ " = ?") v).truth? row = some (row.test row.equal column v) := by
  rw [test, Fragment.truth?, Fragment.condition?_equal h]
  rfl

/-- An inequality is true where the equality fails, and where there is nothing. -/
theorem truth?_unequal {column : String} (h : IsName column) (v : Value) :
    (test (column ++ " <> ? OR " ++ column ++ " IS NULL") v).truth? row =
      some ((row.test row.equal column v).not.or (.ofBool (row.column column).isNone)) := by
  rw [test, Fragment.truth?, Fragment.condition?_unequal h]
  rfl

/-- A comparison is as true as the test that it makes. -/
theorem truth?_compared {column : String} (h : IsName column) (c : Comparison) (v : Value) :
    (test (column ++ " " ++ c.sign ++ " ?") v).truth? row =
      some (row.test (row.compare c) column v) := by
  rw [test, Fragment.truth?, Fragment.condition?_compare h]
  rfl

/-- A likeness is as true as the test that it makes. -/
theorem truth?_holding {column : String} (h : IsName column) (v : Value) :
    (test (column ++ " LIKE ?") v).truth? row = some (row.test row.like column v) := by
  rw [test, Fragment.truth?, Fragment.condition?_like h]
  rfl

/-- A test for nothing is true where there is nothing. -/
theorem truth?_isNull {column : String} (h : IsName column) :
    (Fragment.ofSql (column ++ " IS NULL")).truth? row =
      some (.ofBool (row.column column).isNone) := by
  rw [Fragment.truth?, Fragment.condition?_isNull h]
  rfl

theorem truth?_isNotNull {column : String} (h : IsName column) :
    (Fragment.ofSql (column ++ " IS NOT NULL")).truth? row =
      some (.not (.ofBool (row.column column).isNone)) := by
  rw [Fragment.truth?, Fragment.condition?_isNotNull h]
  rfl

/-- An equality asks for rows that have the value. -/
theorem equality_asks {column : String} (h : IsName column) {v : Value}
    (hscalar : v.collection? = none) (row : Row α) :
    (equality column v).Asks row (EqualTo row column v) := by
  by_cases hv : v = .null
  · subst hv
    refine Or.inr ⟨_, truth?_isNull h, ?_⟩
    simp [Truth.ofBool_eq_holds, EqualTo]
  · rw [equality_eq_test column hv hscalar]
    refine Or.inr ⟨_, truth?_equal h v, ?_⟩
    rw [Row.test_eq_holds row.equal hv]
    simp [EqualTo, hv]

/-- A column without a value is told from all values by being `NULL`. -/
theorem unequal_eq_holds {v : Value} (hv : v ≠ .null) (row : Row α) (column : String) :
    (row.test row.equal column v).not.or (.ofBool (row.column column).isNone) = .holds ↔
      ¬ EqualTo row column v := by
  cases hx : row.column column with
  | none => simp [Row.test_of_none hx, EqualTo, hv, hx, Truth.ofBool, Truth.not, Truth.or]
  | some x =>
    rw [Row.test_of_some hx row.equal hv]
    cases hequal : row.equal x v <;>
      simp [EqualTo, hv, hx, hequal, Truth.ofBool, Truth.not, Truth.or]

/-- An inequality asks for rows that do not have it. -/
theorem inequality_asks {column : String} (h : IsName column) (v : Value) (row : Row α) :
    (inequality column v).Asks row (¬ EqualTo row column v) := by
  by_cases hv : v = .null
  · subst hv
    refine Or.inr ⟨_, truth?_isNotNull h, ?_⟩
    rw [Truth.not_ofBool, Truth.ofBool_eq_holds]
    simp [EqualTo, Option.isSome_iff_ne_none]
  · rw [inequality_eq_test column hv]
    exact Or.inr ⟨_, truth?_unequal h v, unequal_eq_holds hv row column⟩

/-- On a single column, the condition is that of the operator. -/
theorem conditionFor_single {op : ColumnOperator} {column : String} {v : Value}
    {f : Option (Fragment Value)} (h : (single op column).conditionFor v = .ok f) :
    f = op.condition? column v := by
  rw [conditionFor] at h
  split at h
  · cases h
  · cases h
    rfl

/-- A full text search has the condition of what is left of the text, if anything is. -/
theorem conditionFor_fullText {pairing : Bool} {exclude : Value} {columns : List String} {v : Value}
    {f : Option (Fragment Value)} (h : (fullText pairing exclude columns).conditionFor v = .ok f) :
    soughtText v = "" ∧ f = none ∨ soughtText v ≠ "" ∧ ∃ patterns,
      Query.exclusions exclude = .ok patterns ∧
      f = some ((Criterion.read ⟨patterns, pairing⟩ (soughtText v)).condition columns) := by
  rw [conditionFor] at h
  split at h
  next => cases h
  next =>
    split at h
    next hempty =>
      cases h
      exact Or.inl ⟨String.isEmpty_iff.mp hempty, rfl⟩
    next hfull =>
      cases hpatterns : Query.exclusions exclude with
      | error e =>
        rw [hpatterns] at h
        cases h
      | ok patterns =>
        rw [hpatterns] at h
        cases h
        refine Or.inr ⟨fun h => hfull (String.isEmpty_iff.mpr h), patterns, rfl, ?_⟩
        simp [meeting, hfull]

/-- **What an operator asks for.** The condition that it contributes holds of a row exactly if the row
satisfies it; where it contributes none, every row does. -/
theorem conditionFor_asks {op : Operator} (hplain : op.IsPlain) {v : Value}
    (hscalar : v.collection? = none) {f : Option (Fragment Value)} (h : op.conditionFor v = .ok f)
    (row : Row α) : (f.getD .empty).Asks row (op.Satisfied row v) := by
  cases op with
  | fullText pairing exclude columns =>
    rcases conditionFor_fullText h with ⟨hempty, rfl⟩ | ⟨hsought, patterns, hpatterns, rfl⟩
    · exact Or.inl ⟨rfl, Or.inl hempty⟩
    · refine (Criterion.condition_asks _ hplain.1 hplain.2 row).congr ?_
      simp [Satisfied, hsought, hpatterns]
  | single op column =>
    -- Each operator writes one test, or none where it asks for nothing.
    rw [conditionFor_single h]
    cases op with
    | equal => exact equality_asks hplain hscalar row
    | notEqual => exact inequality_asks hplain v row
    | compare c =>
      by_cases hv : v = .null
      · subst hv
        exact Or.inl ⟨rfl, Or.inl rfl⟩
      · rw [ColumnOperator.condition?, compared_eq_test c column hv]
        refine Or.inr ⟨_, truth?_compared hplain c v, ?_⟩
        rw [Row.test_eq_holds (row.compare c) hv, Satisfied, or_iff_right hv]
    | hold p =>
      rw [ColumnOperator.condition?, holding]
      split
      next hempty => exact Or.inl ⟨rfl, Or.inl (String.isEmpty_iff.mp hempty)⟩
      next hfull =>
        have hsought : soughtText v ≠ "" := fun h => hfull (String.isEmpty_iff.mpr h)
        refine Or.inr ⟨_, truth?_holding hplain _, ?_⟩
        rw [Row.test_eq_holds row.like (by simp), Satisfied, or_iff_right hsought]

end Operator

/-! ## Equal conditions -/

namespace Fragment

/-- All fragments that are equal to this one have its truth. -/
def IsStable (row : Row α) (f : Fragment Value) : Prop :=
  ∀ g, Value.sameFragment? f g = some true → g.truth? row = f.truth? row

/-- Fragments with texts as parameters have to be equal in all that is read. -/
theorem isStable_of_texts {f : Fragment Value} (htexts : ∀ v ∈ f.params, ∃ s, v = .text s) :
    f.IsStable row := by
  intro g hsame
  obtain ⟨hsql, hparams⟩ := equal_iff.mp hsame
  rw [truth?, truth?, condition?, condition?, hsql, Value.eq_of_forall₂_equal_texts htexts hparams]

/-- A test is stable if values that are the same test the same. -/
theorem isStable_test {sql : String} {v : Value}
    (h : ∀ w, Value.same? v w = some true → (test sql w).truth? row = (test sql v).truth? row) :
    (test sql v).IsStable row := by
  intro g hsame
  obtain ⟨hsql, hparams⟩ := equal_iff.mp hsame
  -- The other fragment has one parameter too, which is equal to `v`.
  obtain ⟨w, ws, hvw, hnil, hw⟩ := List.forall₂_cons_left_iff.mp hparams
  rw [List.forall₂_nil_left_iff.mp hnil] at hw
  rw [← h w hvw, truth?, truth?, condition?, condition?, ← hsql, hw]
  rfl

end Fragment

namespace Operator

/-- A condition has texts as parameters, or it compares a column with the value. -/
theorem conditionFor_eq_some {op : Operator} {v : Value} (hscalar : v.collection? = none)
    {f : Fragment Value} (h : op.conditionFor v = .ok (some f)) :
    (∀ p ∈ f.params, ∃ s, p = .text s) ∨ v ≠ .null ∧ ∃ column,
      (op = .single .equal column ∧ f = test (column ++ " = ?") v ∨
        op = .single .notEqual column ∧ f = test (column ++ " <> ? OR " ++ column ++ " IS NULL") v ∨
        ∃ c, op = .single (.compare c) column ∧ f = test (column ++ " " ++ c.sign ++ " ?") v) := by
  -- A criterion and the operators on texts only bind patterns; the others bind the value itself.
  cases op with
  | fullText pairing exclude columns =>
    rcases conditionFor_fullText h with ⟨-, hnone⟩ | ⟨-, patterns, -, hf⟩
    · cases hnone
    · cases hf
      refine Or.inl fun v hv => ?_
      obtain ⟨w, -, rfl⟩ := Criterion.mem_params_condition hv
      exact ⟨_, rfl⟩
  | single op column =>
    have hf := conditionFor_single h
    by_cases hv : v = .null
    · -- The operators ask for `NULL` without a parameter.
      subst hv
      refine Or.inl fun w hw => ?_
      cases op with
      | equal => cases hf; cases hw
      | notEqual => cases hf; cases hw
      | compare c => cases hf
      | hold p => cases hf
    cases op with
    | equal =>
      rw [ColumnOperator.condition?, equality_eq_test column hv hscalar, Option.some_inj] at hf
      exact Or.inr ⟨hv, column, Or.inl ⟨rfl, hf⟩⟩
    | notEqual =>
      rw [ColumnOperator.condition?, inequality_eq_test column hv, Option.some_inj] at hf
      exact Or.inr ⟨hv, column, Or.inr (Or.inl ⟨rfl, hf⟩)⟩
    | compare c =>
      rw [ColumnOperator.condition?, compared_eq_test c column hv, Option.some_inj] at hf
      exact Or.inr ⟨hv, column, Or.inr (Or.inr ⟨c, rfl, hf⟩)⟩
    | hold p =>
      rw [ColumnOperator.condition?, holding] at hf
      split at hf
      · cases hf
      · cases hf
        exact Or.inl fun w hw => ⟨_, List.mem_singleton.mp hw⟩

/-- A condition of an operator has the truth of all conditions that are equal to it. -/
theorem conditionFor_stable {op : Operator} (hplain : op.IsPlain) {v : Value}
    (hscalar : v.collection? = none) {f : Fragment Value} (h : op.conditionFor v = .ok (some f))
    (hrow : row.Respects) : f.IsStable row := by
  rcases conditionFor_eq_some hscalar h with
    htexts | ⟨hv, column, ⟨rfl, rfl⟩ | ⟨rfl, rfl⟩ | ⟨c, rfl, rfl⟩⟩
  · exact Fragment.isStable_of_texts htexts
  · refine Fragment.isStable_test fun w hsame => ?_
    rw [truth?_equal hplain, truth?_equal hplain,
      Row.test_same (hrow.equal v w hsame) hv hsame]
  · refine Fragment.isStable_test fun w hsame => ?_
    rw [truth?_unequal hplain, truth?_unequal hplain,
      Row.test_same (hrow.equal v w hsame) hv hsame]
  · refine Fragment.isStable_test fun w hsame => ?_
    rw [truth?_compared hplain, truth?_compared hplain,
      Row.test_same (hrow.compare v w hsame c) hv hsame]

/-- The parameters of a condition are the value and texts. -/
theorem params_conditionFor {op : Operator} {v : Value} (hscalar : v.collection? = none)
    {f : Fragment Value} (h : op.conditionFor v = .ok (some f)) :
    ∀ p ∈ f.params, p = v ∨ ∃ s, p = .text s := by
  intro p hp
  rcases conditionFor_eq_some hscalar h with
    htexts | ⟨-, column, ⟨-, rfl⟩ | ⟨-, rfl⟩ | ⟨c, -, rfl⟩⟩
  · exact Or.inr (htexts p hp)
  · exact Or.inl (List.mem_singleton.mp hp)
  · exact Or.inl (List.mem_singleton.mp hp)
  · exact Or.inl (List.mem_singleton.mp hp)

/-- Conditions for values that can be compared can be compared. -/
theorem conditionFor_comparable {op op' : Operator} {v w : Value} (hv : v.collection? = none)
    (hw : w.collection? = none) (hsame : Value.same? v w ≠ none) {f g : Fragment Value}
    (hf : op.conditionFor v = .ok (some f)) (hg : op'.conditionFor w = .ok (some g)) :
    Value.sameFragment? f g ≠ none := by
  obtain ⟨sql, ps, connective⟩ := f
  obtain ⟨sql', qs, connective'⟩ := g
  rw [Value.sameFragment?]
  split
  next =>
    refine Value.sameItems?_ne_none fun p hp q hq => ?_
    rcases params_conditionFor hv hf p hp with rfl | ⟨s, rfl⟩
    · rcases params_conditionFor hw hg q hq with rfl | ⟨s, rfl⟩
      · exact hsame
      · exact Value.same?_text_right p s
    · exact Value.same?_text_left s q
  next => simp

end Operator

end SearchQuery
