import SearchQuery.Proofs.Search.Membership
import SearchQuery.Proofs.Sql.Like

/-!
# Texts that are looked for

The operators `contains`, `starts_with` and `ends_with` look for a text in a place of the column, and the
keywords of a text criterion are looked for anywhere in a field. With `LIKE` read as usual their conditions
hold where the text stands in its place. They hold of no other column if the text has neither a percent
sign nor an underscore; one that has is a pattern of its own, which is found in more texts than it stands
in (`text_looked_for`).

## Shape of the argument

Each condition is one test by `LIKE` with the pattern of a place, as far as the column is not `NULL`. What
the pattern finds is known (`isLike_likePattern`), so a condition is settled once it is read.
-/

namespace SearchQuery

open Sql Column

variable {α : Type} {row : Row α}

/-- A row of texts reads patterns as `LIKE` does. -/
def Sql.Row.ReadsPatterns (row : Row String) : Prop :=
  ∀ x s, row.like x (.text s) = isLike s.toList x.toList

/-- The truth of a condition that looks for the text `v` in a place of the text `x`: it holds if a piece in
that place is matched by `v` as a pattern, so if `v` itself stands there, and if `v` has no wildcards it
holds of nothing else. -/
structure Column.Place.Tells (p : Place) (v x : String) (s : Truth) : Prop where
  iff_finds : s = .holds ↔ p.Finds v.toList x.toList
  of_holds : p.Holds v.toList x.toList → s = .holds
  iff_holds : IsLiteral v.toList → (s = .holds ↔ p.Holds v.toList x.toList)

namespace Column.Place

theorem Tells.of_iff_finds {p : Place} {v x : String} {s : Truth}
    (h : s = .holds ↔ p.Finds v.toList x.toList) : p.Tells v x s where
  iff_finds := h
  of_holds hholds := h.mpr hholds.finds
  iff_holds hliteral := h.trans (finds_iff_holds hliteral p x.toList)

/-- A test with the pattern of a place tells of the place. -/
theorem tells_test {row : Row String} (hlike : row.ReadsPatterns) {column x : String}
    (hx : row.column column = some x) (p : Place) (v : String) :
    p.Tells v x (row.test row.like column (.text (p.likePattern v))) := by
  refine Tells.of_iff_finds ?_
  rw [Row.test_of_some hx row.like (by simp), Truth.ofBool_eq_holds, hlike, isLike_likePattern]

end Column.Place

namespace Criterion

/-- The condition of a keyword in a field that is not `NULL`, whose name may stand in quotes. -/
theorem delimitedCondition?_appearsForSure {field : String} (h : IsColumnName field) (keyword : String) :
    (appearsForSure keyword field).delimitedCondition? =
      some (.and (.not (.isNull field)) (.like field (.text (containing keyword)))) := by
  have hopen : Pushes (delimitedSymbols "IS NOT NULL AND") []
      [.symbol (.keyword .is), .symbol (.keyword .not), .symbol (.keyword .null),
        .symbol (.keyword .and)] :=
    Fragment.pushes_of_no_quote (by decide)
      (Fragment.pushes_of_symbols [.keyword .is, .keyword .not, .keyword .null, .keyword .and]
        (by decide +kernel) rfl)
  have hlike : Pushes (delimitedSymbols "LIKE ?") [.text (containing keyword)]
      [.symbol (.keyword .like), .value (.text (containing keyword))] :=
    Fragment.pushes_of_no_quote (by decide)
      (Fragment.pushes_of_symbols [.keyword .like, .mark] (by decide +kernel) rfl)
  have hrest := hopen.append (Fragment.pushes_behind_columnName h hlike)
  rw [← delimitedSymbols_space (by decide)] at hrest
  have htext : (appearsForSure keyword field).sql =
      field ++ (" " ++ ("IS NOT NULL AND" ++ " " ++ (field ++ " " ++ "LIKE ?"))) := by
    have hmiddle : " IS NOT NULL AND " = " " ++ "IS NOT NULL AND" ++ " " := rfl
    have hend : " LIKE ?" = " " ++ "LIKE ?" := rfl
    rw [appearsForSure, hmiddle, hend]
    simp only [String.append_assoc]
  have hread := Fragment.delimitedCondition?_behind_name h rfl hrest
    (φ := .and (.not (.isNull field)) (.like field (.text (containing keyword)))) rfl
  rw [← htext] at hread
  exact hread

variable {field : String} (h : IsColumnName field)

include h

/-- A text that is sought anywhere is tested by a likeness. -/
theorem delimitedTruth?_appears (keyword : String) :
    (appears keyword field).delimitedTruth? row =
      some (row.test row.like field (.text (containing keyword))) :=
  congrArg (Option.map _) (Fragment.delimitedCondition?_like h _)

/-- Where the field is not `NULL`, both conditions of a keyword are the same test. -/
theorem delimitedTruth?_appearsForSure {x : α} (hx : row.column field = some x) (keyword : String) :
    (appearsForSure keyword field).delimitedTruth? row =
      some (row.test row.like field (.text (containing keyword))) := by
  rw [Fragment.delimitedTruth?, delimitedCondition?_appearsForSure h, Option.map_some, Condition.truth,
    Condition.truth, Condition.truth, Condition.truth, hx, Row.test_of_some hx row.like (by simp)]
  cases row.like x (.text (containing keyword)) <;> rfl

end Criterion

/-- **Texts that are looked for.** On a column that is not `NULL` the condition of an operator on text can be
read, and it tells of the place where the operator looks; so do both conditions of a keyword, which is
looked for anywhere. Looking for a text is looking for the text itself, whatever the column holds, exactly
if the text has no wildcards. -/
theorem text_looked_for {row : Row String} (hlike : row.ReadsPatterns) :
    (∀ (t : Table) (c : TableColumn), t.IsLegible → NoBareLineFeed c.name →
      ∀ x, row.column (t.sqlColumn c) = some x → ∀ (p : Place) (v : String), v ≠ "" →
        ∃ f s, (ColumnOperator.hold p).condition? (t.sqlColumn c) (.text v) = some f ∧
          f.delimitedTruth? row = some s ∧ p.Tells v x s) ∧
      (∀ field, IsColumnName field → ∀ x, row.column field = some x → ∀ keyword,
        ∀ atom ∈ [Criterion.appears keyword field, Criterion.appearsForSure keyword field],
          ∃ s, atom.delimitedTruth? row = some s ∧ Place.anywhere.Tells keyword x s) ∧
      ∀ (p : Place) (v : String),
        (∀ cs, p.Finds v.toList cs ↔ p.Holds v.toList cs) ↔ IsLiteral v.toList := by
  refine ⟨?_, ?_, fun p v => p.forall_finds_iff v.toList⟩
  · intro t c ht hc x hx p v hv
    have hfull : v.isEmpty = false := by
      rw [Bool.eq_false_iff]
      exact fun hempty => hv (String.isEmpty_iff.mp hempty)
    have hcondition : (ColumnOperator.hold p).condition? (t.sqlColumn c) (.text v) =
        some (test (t.sqlColumn c ++ " LIKE ?") (.text (p.likePattern v))) := by
      rw [ColumnOperator.condition?, holding, show soughtText (.text v) = v from rfl, hfull]
      rfl
    exact ⟨_, _, hcondition,
      congrArg (Option.map _) (Fragment.delimitedCondition?_like (ht.isColumnName hc) _),
      p.tells_test hlike hx v⟩
  · intro field hfield x hx keyword atom hatom
    refine ⟨row.test row.like field (.text (Criterion.containing keyword)), ?_,
      Place.anywhere.tells_test hlike hx keyword⟩
    rcases List.mem_pair.mp hatom with rfl | rfl
    · exact Criterion.delimitedTruth?_appears hfield keyword
    · exact Criterion.delimitedTruth?_appearsForSure hfield hx keyword

/-! The operators of these names look in the three places. -/

example : ["contains", "starts_with", "ends_with"].map ColumnOperator.ofName? =
    [Place.anywhere, .atStart, .atEnd].map fun p => some (ColumnOperator.hold p) := rfl

/-- A row with one text, or `NULL`, in the column and no other values. -/
def textRow (column : String) (x : Option String) : Row String where
  column name := if name = column then x else none
  equal _ _ := false
  compare _ _ _ := false
  like x v :=
    match v with
    | .text s => isLike s.toList x.toList
    | _ => false

/-- A text without wildcards in a column with a quoted name, and one with a percent sign that stands in the
column. -/
theorem text_looked_for_quoted :
    let c : TableColumn := { key := "note", name := "my note", kind := some .text }
    let t : Table := { model := "T", table := "t", columns := [c] }
    let row := textRow (t.sqlColumn c) (some "save 50% now")
    t.sqlColumn c = "t.\"my note\"" ∧ row.ReadsPatterns ∧ t.IsLegible ∧ NoBareLineFeed c.name ∧
      (∃ f, (ColumnOperator.hold .atStart).condition? (t.sqlColumn c) (.text "save") = some f ∧
        f.delimitedTruth? row = some .holds) ∧
      (∃ f s, (ColumnOperator.hold .atEnd).condition? (t.sqlColumn c) (.text "save") = some f ∧
        f.delimitedTruth? row = some s ∧ s ≠ .holds) ∧
      (Criterion.appearsForSure "50%" (t.sqlColumn c)).delimitedTruth? row = some .holds := by
  intro c t row
  have hlike : row.ReadsPatterns := fun _ _ => rfl
  have ht : t.IsLegible := ⟨by decide +kernel, by rintro name ⟨⟩⟩
  have hc : NoBareLineFeed c.name := by decide +kernel
  have hx : row.column (t.sqlColumn c) = some "save 50% now" := by simp [row, textRow]
  obtain ⟨hoperators, hkeywords, -⟩ := text_looked_for hlike
  refine ⟨by decide +kernel, hlike, ht, hc, ?_, ?_, ?_⟩
  · obtain ⟨f, s, hf, hs, htells⟩ := hoperators t c ht hc _ hx .atStart "save" (by decide)
    exact ⟨f, hf, by rw [hs, htells.of_holds (by decide)]⟩
  · obtain ⟨f, s, hf, hs, htells⟩ := hoperators t c ht hc _ hx .atEnd "save" (by decide)
    refine ⟨f, s, hf, hs, ?_⟩
    rw [ne_eq, htells.iff_holds (by decide)]
    decide
  · obtain ⟨s, hs, htells⟩ := hkeywords _ (ht.isColumnName hc) _ hx "50%" _ (List.mem_pair.mpr (Or.inr rfl))
    rw [hs, htells.of_holds (by decide)]

/-- A percent sign and an underscore of the text that is looked for match other characters; and a line feed
at the end of a bare name makes it the name of another column. -/
theorem wildcard_found_elsewhere :
    let read (p : Place) (v x : String) :=
      ((ColumnOperator.hold p).condition? "t.a" (.text v)).bind
        (·.delimitedTruth? (textRow "t.a" (some x)))
    (read .anywhere "50%" "500" = some .holds ∧ ¬ Place.anywhere.Holds "50%".toList "500".toList) ∧
      (read .atStart "a_" "abc" = some .holds ∧ ¬ Place.atStart.Holds "a_".toList "abc".toList) ∧
      (read .atEnd "_c" "abc" = some .holds ∧ ¬ Place.atEnd.Holds "_c".toList "abc".toList) ∧
      ((Criterion.appears "a_b" "t.a").delimitedTruth? (textRow "t.a" (some "axb")) = some .holds ∧
        ¬ Place.anywhere.Holds "a_b".toList "axb".toList) ∧
      (test ("t." ++ sqlName "a\n" ++ " LIKE ?") (.text "%a%")).delimitedTruth?
        (textRow ("t." ++ sqlName "a\n") (some "a")) = some .unknown := by
  decide +kernel

end SearchQuery
