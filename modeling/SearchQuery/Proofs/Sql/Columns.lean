import SearchQuery.Proofs.Placeholder.WellBound
import SearchQuery.Proofs.Sql.Delimited
import SearchQuery.Text.Blank

/-!
# Conditions on one column, and conditions joined by AND

What the conditions that operators write are read as where nothing stands in quotes: a column is named by
plain words then, with the table in front. Conditions in parentheses with `AND` between them, as a merge
writes them, hold together exactly if each one holds.
-/

namespace SearchQuery.Fragment

open Sql

/-! ## Behind the name of a column -/

/-- A name in front is a word of its own. -/
theorem symbols_behind_name {name : String} (h : IsName name) (rest : String) :
    symbols (name ++ " " ++ rest) = .word name :: symbols rest := by
  rw [symbols_space, symbols_name h]
  rfl

variable {column : String} (h : IsName column)

include h

/-- A text of this kind is read as a likeness. -/
theorem condition?_like (v : Value) :
    ({ sql := column ++ " LIKE ?", params := [v] } : Fragment Value).condition? =
      some (.like column v) := by
  rw [← delimitedCondition?_eq (by simp [h.not_mem_quote])]
  exact delimitedCondition?_like h.isColumnName v

/-- A test of this kind is read as an equality. -/
theorem condition?_equal (v : Value) :
    ({ sql := column ++ " = ?", params := [v] } : Fragment Value).condition? =
      some (.equal column v) := by
  rw [← delimitedCondition?_eq (by simp [h.not_mem_quote])]
  exact delimitedCondition?_equal h.isColumnName v

/-- A comparison is read by its sign. -/
theorem condition?_compare (c : Column.Comparison) (v : Value) :
    ({ sql := column ++ " " ++ c.sign ++ " ?", params := [v] } : Fragment Value).condition? =
      some (.compare c column v) := by
  have hsign : '"' ∉ c.sign.toList := by
    cases c <;> decide
  rw [← delimitedCondition?_eq (by simp [h.not_mem_quote, hsign])]
  exact delimitedCondition?_compare h.isColumnName c v

/-- A test for nothing is read. -/
theorem condition?_isNull :
    (ofSql (column ++ " IS NULL") : Fragment Value).condition? = some (.isNull column) := by
  rw [← delimitedCondition?_eq (by simp [ofSql, h.not_mem_quote])]
  exact delimitedCondition?_isNull h.isColumnName

theorem condition?_isNotNull :
    (ofSql (column ++ " IS NOT NULL") : Fragment Value).condition? = some (.not (.isNull column)) := by
  rw [← delimitedCondition?_eq (by simp [ofSql, h.not_mem_quote])]
  exact delimitedCondition?_isNotNull h.isColumnName

/-- An inequality is read with its test for nothing. -/
theorem condition?_unequal (v : Value) :
    ({ sql := column ++ " <> ? OR " ++ column ++ " IS NULL", params := [v] } :
        Fragment Value).condition? = some (.or (.not (.equal column v)) (.isNull column)) := by
  rw [← delimitedCondition?_eq (by simp [h.not_mem_quote])]
  exact delimitedCondition?_unequal h.isColumnName v

omit h

/-! ## Conditions with AND between them -/

/-- Conditions in parentheses with `AND` between them. -/
def andItems : List Condition → List Element
  | [] => []
  | [φ] => [.condition φ]
  | φ :: ψ :: φs => .condition φ :: .symbol (.keyword .and) :: andItems (ψ :: φs)

/-- No condition of a list is the word between choices. -/
theorem not_is_or_of_mem_andItems (φs : List Condition) :
    ∀ item ∈ andItems φs, item.is .or = false := by
  induction φs with
  | nil => simp [andItems]
  | cons φ φs ih =>
    cases φs with
    | nil => simp [andItems, Element.is]
    | cons ψ φs => simpa [andItems, Element.is] using ih

/-- Conditions of a list are told apart by the word between them. -/
theorem splitOnP_andItems {φs : List Condition} (hne : φs ≠ []) :
    (andItems φs).splitOnP (·.is .and) = φs.map fun φ => [.condition φ] := by
  induction φs with
  | nil => exact absurd rfl hne
  | cons φ φs ih =>
    cases φs with
    | nil => rfl
    | cons ψ φs =>
      have hsplit : ([Element.condition φ] ++ .symbol (.keyword .and) :: andItems (ψ :: φs)).splitOnP
          (·.is .and) = [.condition φ] :: (andItems (ψ :: φs)).splitOnP (·.is .and) :=
        List.splitOnP_append_cons_of_forall_mem (by simp [Element.is]) _ rfl _
      rw [List.map_cons, ← ih (List.cons_ne_nil ψ φs)]
      exact hsplit

/-- A list of conditions is read as all of them, joined. -/
theorem condition?_andItems {φs : List Condition} (hne : φs ≠ []) :
    Sql.condition? (andItems φs) = joined? .and φs := by
  have hfactors : (φs.map fun φ => [Element.condition φ]).mapM factor? = some φs := by
    clear hne
    induction φs with
    | nil => rfl
    | cons φ φs ih =>
      rw [List.map_cons, List.mapM_cons, ih]
      rfl
  obtain ⟨ψ, hψ⟩ : ∃ ψ, joined? .and φs = some ψ := by
    obtain ⟨φ, φs', rfl⟩ := List.exists_cons_of_ne_nil hne
    exact ⟨_, rfl⟩
  have hconjunction : conjunction? (andItems φs) = some ψ := by
    rw [conjunction?, splitOnP_andItems hne, hfactors]
    exact hψ
  rw [Sql.condition?, List.splitOnP_eq_singleton (not_is_or_of_mem_andItems φs), hψ]
  simp [hconjunction, joined?]

/-- Joined conditions hold if all of them do. -/
theorem truth_joined?_and {α : Type} (row : Row α) {φs : List Condition} {ψ : Condition}
    (h : joined? .and φs = some ψ) : ψ.truth row = .all (φs.map (·.truth row)) := by
  cases φs with
  | nil => cases h
  | cons φ φs =>
    cases h
    rw [List.map_cons, Truth.all, Truth.joined, List.foldl_cons, Truth.unit_joinedBy]
    induction φs generalizing φ with
    | nil => rfl
    | cons χ φs ih => exact ih (.and φ χ)

/-- The conditions of several fragments, joined by `AND`. -/
theorem pushes_join_and {fs : List (Fragment Value)} {φs : List Condition}
    (h : List.Forall₂ (fun f φ => f.condition? = some φ) fs φs) :
    Pushes (symbols (join " AND " true fs).sql) (join " AND " true fs).params (andItems φs) := by
  induction h with
  | nil => exact pushes_of_symbols [] (by decide +kernel) rfl
  | @cons f φ fs φs hf hrest ih =>
    have hnone : Pushes (symbols "") [] [] := pushes_of_symbols [] (by decide +kernel) rfl
    have hfront : Pushes (symbols (parenthesized f.sql)) f.params [.condition φ] := by
      simpa using pushes_parenthesized hf hnone
    rw [join_cons_of_not_isEmpty " AND " true fs (isEmpty_of_condition? hf)]
    -- The last fragment has no connective behind it.
    cases hrest with
    | nil => exact hfront
    | @cons g ψ fs φs hg hrest =>
      have hfull : (g :: fs).filter (!·.isEmpty) ≠ [] := by
        rw [List.filter_cons_of_pos (by simp [isEmpty_of_condition? hg])]
        exact List.cons_ne_nil _ _
      have hand : Pushes (symbols "AND") [] [.symbol (.keyword .and)] :=
        pushes_of_symbols [.keyword .and] (by decide +kernel) rfl
      have htext : parenthesized f.sql ++ " AND " ++ (join " AND " true (g :: fs)).sql =
          parenthesized f.sql ++ " " ++ "AND" ++ " " ++ (join " AND " true (g :: fs)).sql := by
        have hmiddle : " AND " = " " ++ "AND" ++ " " := rfl
        rw [hmiddle]
        simp only [String.append_assoc]
      have hpushes := (hfront.append hand).append ih
      rw [if_neg hfull]
      change Pushes (symbols (parenthesized f.sql ++ " AND " ++ (join " AND " true (g :: fs)).sql))
        (f.params ++ (join " AND " true (g :: fs)).params) _
      rw [htext, symbols_space, symbols_space]
      simpa [andItems] using hpushes

/-- Joined by `AND`, conditions hold exactly if all of them hold. -/
theorem truth?_join_and {α : Type} {row : Row α} {fs : List (Fragment Value)} (hne : fs ≠ [])
    (h : ∀ f ∈ fs, ∃ t, f.truth? row = some t) :
    ∃ t, (join " AND " true fs).truth? row = some t ∧
      (t = .holds ↔ ∀ f ∈ fs, f.truth? row = some .holds) := by
  have hread : ∀ f ∈ fs, f.condition? = some (f.condition?.getD default) := by
    intro f hf
    obtain ⟨t, ht⟩ := h f hf
    obtain ⟨φ, hφ, -⟩ := Option.map_eq_some_iff.mp ht
    rw [hφ, Option.getD_some]
  have hall : List.Forall₂ (fun f φ => f.condition? = some φ) fs
      (fs.map fun f => f.condition?.getD default) :=
    List.forall₂_map_right_iff.mpr (List.forall₂_same.mpr hread)
  have hsome : (fs.map fun f => f.condition?.getD default) ≠ [] := by simpa using hne
  obtain ⟨ψ, hψ⟩ : ∃ ψ, joined? .and (fs.map fun f => f.condition?.getD default) = some ψ := by
    obtain ⟨f, fs', rfl⟩ := List.exists_cons_of_ne_nil hne
    exact ⟨_, rfl⟩
  have hjoin := condition?_of_pushes (pushes_join_and hall) ((condition?_andItems hsome).trans hψ)
  refine ⟨ψ.truth row, by rw [truth?, hjoin, Option.map_some], ?_⟩
  rw [truth_joined?_and row hψ, Truth.all_eq_holds, List.map_map, List.forall_mem_map]
  refine forall₂_congr fun f hf => ?_
  rw [truth?, hread f hf, Option.map_some, Option.some.injEq]
  rfl

end SearchQuery.Fragment
