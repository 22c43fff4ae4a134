import SearchQuery.Proofs.Pattern.Literal
import SearchQuery.Proofs.Query.Sorting

/-!
# Excluded texts

An exclusion that consists of texts leaves out the keywords in which one of the texts occurs, whatever its
case, and no others. The texts are escaped and read as patterns, and no character of a text has a meaning
of its own there.

What is excluded is left out wherever keywords are sorted. The search string as a whole, which is looked
for when no keyword is left at all, is the one text that is not asked.
-/

namespace SearchQuery.Query

/-- An exclusion consists of texts: of none, of one, or of the members of a collection. -/
inductive ConsistsOf : Value → List String → Prop
  | none : ConsistsOf .null []
  | single (s : String) : ConsistsOf (.text s) [s]
  | collection {v : Value} {es : List String} (hv : v.text? = Option.none)
      (hitems : v.items? = some (es.map .text)) : ConsistsOf v es

theorem mapM_exclusionOf_texts (es : List String) :
    (es.map Value.text).mapM exclusionOf = .ok (es.map .literal) := by
  induction es with
  | nil => rfl
  | cons e es ih =>
    have htext : exclusionOf (.text e) = .ok (.literal e) := rfl
    rw [List.map_cons, List.mapM_cons, htext, ih]
    rfl

theorem ConsistsOf.exclusions_eq {v : Value} {es : List String} (h : ConsistsOf v es) :
    exclusions v = .ok (es.map .literal) := by
  cases h with
  | none => rfl
  | single s => rfl
  | collection hv hitems =>
    rw [exclusions, hitems]
    · exact mapM_exclusionOf_texts es
    · rintro rfl
      cases hitems
    · rintro s rfl
      cases hv
    · rintro p rfl
      cases hitems

/-- A keyword is excluded by literals if one of them occurs in it. -/
theorem isExcluded_literals {es : List String} {k : String} :
    isExcluded (es.map .literal) k = true ↔ ∃ e ∈ es, Text.OccursIn e k := by
  rw [isExcluded, List.any_map, List.any_eq_true]
  simp only [Function.comp_apply, Pattern.search_literal]

/-- Keywords that are excluded are in no bucket once the search string is sorted. -/
theorem not_mem_sort {o : QueryOptions} {k : String} (hk : isExcluded o.exclusions k = true)
    (query : String) :
    k ∉ (Criterion.sort o query).mandatory ∧ k ∉ (Criterion.sort o query).negative ∧
      k ∉ (Criterion.sort o query).optional := by
  have hfits := Criterion.fits_sort o query
  refine ⟨fun hmem => ?_, fun hmem => ?_, fun hmem => ?_⟩
  · have hkept := (hfits.signed k (List.mem_append_left _ hmem)).2
    rw [hk] at hkept
    cases hkept
  · have hkept := (hfits.signed k (List.mem_append_right _ hmem)).2
    rw [hk] at hkept
    cases hkept
  · have hkept := (hfits.optional k hmem).2.1
    rw [hk] at hkept
    cases hkept

/-- Nor are they once it is read, unless nothing was left and the search string itself is one. -/
theorem not_mem_read {o : QueryOptions} {k : String} (hk : isExcluded o.exclusions k = true)
    (query : String) :
    k ∉ (Criterion.read o query).keywords.mandatory ∧ k ∉ (Criterion.read o query).keywords.negative ∧
      (k ∈ (Criterion.read o query).keywords.optional →
        k = query ∧ (Criterion.sort o query).isEmpty = true) := by
  by_cases hblank : Text.isBlank query = true
  · rw [Criterion.read, if_pos hblank]
    simp
  · rw [Criterion.read, if_neg hblank]
    by_cases hempty : (Criterion.sort o query).isEmpty = true
    · simp [hempty]
    · obtain ⟨hmandatory, hnegative, hoptional⟩ := not_mem_sort hk query
      simp [hempty, hmandatory, hnegative, hoptional]

/-- **Excluded texts are literal and disregard case.** If an exclusion consists of texts, each of them is
escaped and read as a pattern, and a keyword is excluded exactly if one of the texts occurs in it, which
the empty text does in all keywords. Such a keyword is never sorted in as mandatory, negative or optional,
and it is not asked for either, unless it is the whole search string and nothing else is left of it. -/
theorem excluded_iff_occursIn {v : Value} {es : List String} (hv : ConsistsOf v es) :
    ∃ patterns, exclusions v = .ok patterns ∧
      List.Forall₂ (fun e p => Pattern.compile (String.ofList (escapeChars e.toList)) true = .ok p)
        es patterns ∧
      (∀ k, isExcluded patterns k = true ↔ ∃ e ∈ es, Text.OccursIn e k) ∧
      ("" ∈ es → ∀ k, isExcluded patterns k = true) ∧
      ∀ pairing query k, (∃ e ∈ es, Text.OccursIn e k) →
        let o : QueryOptions := ⟨patterns, pairing⟩
        let sorted := Criterion.sort o query
        let read := (Criterion.read o query).keywords
        (k ∉ sorted.mandatory ∧ k ∉ sorted.negative ∧ k ∉ sorted.optional) ∧
          k ∉ read.mandatory ∧ k ∉ read.negative ∧
            (k ∈ read.optional → k = query ∧ sorted.isEmpty = true) := by
  refine ⟨es.map .literal, hv.exclusions_eq, ?_, fun k => isExcluded_literals, fun hempty k => ?_,
    fun pairing query k hk => ?_⟩
  · exact List.forall₂_map_right_iff.mpr (List.forall₂_same.mpr fun e _ => Pattern.compile_escaped e {})
  · exact isExcluded_literals.mpr ⟨"", hempty, Text.occursIn_empty k⟩
  · exact ⟨not_mem_sort (isExcluded_literals.mpr hk) query, not_mem_read (isExcluded_literals.mpr hk) query⟩

/-- A text of special characters is found in another case, and left out where it would be mandatory; what
it would match as a pattern is kept. -/
theorem excluded_iff_occursIn_special :
    let exclusion : Value := .tuple [.text "a.*[", .text "É"]
    ConsistsOf exclusion ["a.*[", "É"] ∧ ∃ patterns, exclusions exclusion = .ok patterns ∧
      isExcluded patterns "xA.*[y" = true ∧ isExcluded patterns "abc[" = false ∧
      "xA.*[y" ∉ (Criterion.sort ⟨patterns, true⟩ "+xA.*[y +abc[").mandatory := by
  intro exclusion
  have hexclusion : ConsistsOf exclusion ["a.*[", "É"] := .collection rfl rfl
  obtain ⟨patterns, hpatterns, -, hiff, -, hsorted⟩ := excluded_iff_occursIn hexclusion
  have hoccurs : ∃ e ∈ ["a.*[", "É"], Text.OccursIn e "xA.*[y" := by
    refine ⟨"a.*[", List.mem_cons_self, ['x'], ['A', '.', '*', '['], ['y'], rfl, ?_⟩
    exact .cons (by decide) (.cons (by decide) (.cons (by decide) (.cons (by decide) .nil)))
  refine ⟨hexclusion, patterns, hpatterns, (hiff _).mpr hoccurs, ?_, (hsorted true _ _ hoccurs).1.1⟩
  cases hpatterns
  decide +kernel

end SearchQuery.Query
