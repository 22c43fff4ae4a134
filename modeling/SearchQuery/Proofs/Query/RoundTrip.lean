import SearchQuery.Proofs.Query.Illegible

/-!
# Reading a criterion's text

A search string asks for keywords, and the text of its criterion is a search string again. It asks for the
same keywords exactly if these are legible, or if the one keyword is the whole text anyhow, which is what a
search string asks for when all of it is noise (`read_text_iff`).

So a phrase that holds no space is read back only if it is a word: the text has no quotes around it, and it
is read as whatever stands inside (`read_text_colon`).
-/

namespace SearchQuery

open Query Text

namespace Criterion

/-- Keywords are read back from their text just if they are legible. -/
theorem sort_text_iff {o : QueryOptions} {k : Keywords} (hfits : k.Fits o) (query : String) :
    sort o (text ⟨query, k⟩) = k ↔ k.Legible :=
  ⟨Keywords.legible_of_sort_text hfits, fun h => sort_text hfits h query⟩

/-- What a search string asks for can be told from the text of its criterion. If its keywords are all noise,
the search string is the one keyword itself: then it has no space, so that it is not put in quotes, or it is
read as one keyword in quotes. Otherwise the keywords are legible, or there is only one, and the text is
noise. -/
def Restorable (o : QueryOptions) (query : String) : Prop :=
  if (sort o query).isEmpty then
    ' ' ∉ query.toList ∨
      IsClean query ∧ isExcluded o.exclusions query = false ∧ o.IsPlain query
  else
    (sort o query).Legible ∨ ∃ w, sort o query = { optional := [w] } ∧ ' ' ∉ w.toList ∧
      isBlank w = false ∧ (sort o w).isEmpty = true

/-- Of a query that says nothing, the query itself is sought. -/
theorem read_eq {o : QueryOptions} {query : String} (h : isBlank query = false) :
    read o query =
      ⟨query, if (sort o query).isEmpty then { optional := [query] } else sort o query⟩ := by
  rw [read, h]
  rfl

theorem text_single (query w : String) : text ⟨query, { optional := [w] }⟩ = quotedKeyword w := by
  show " ".intercalate [quotedKeyword w] = quotedKeyword w
  exact String.intercalate_singleton

/-- A keyword without a blank is written as it is. -/
theorem quotedKeyword_eq_self {w : String} : quotedKeyword w = w ↔ ' ' ∉ w.toList := by
  rw [← String.toList_inj, toList_quotedKeyword]
  split
  next hspace =>
    refine iff_of_false (fun h => ?_) (not_not.mpr hspace)
    have hlength := congrArg List.length h
    rw [List.length_cons, List.length_append] at hlength
    omega
  next hspace => exact iff_of_true rfl hspace

/-- A text of noise is read back if it has no space, or else as one keyword in quotes. -/
theorem read_text_of_noise {o : QueryOptions} {query : String} (hblank : isBlank query = false)
    (hnone : (sort o query).isEmpty = true) :
    (read o (read o query).text).keywords = (read o query).keywords ↔
      ' ' ∉ query.toList ∨ IsClean query ∧ isExcluded o.exclusions query = false ∧ o.IsPlain query := by
  have hread : read o query = ⟨query, { optional := [query] }⟩ := by
    rw [read_eq hblank, if_pos hnone]
  by_cases hspace : ' ' ∈ query.toList
  · have htextBlank : isBlank (quotedKeyword query) = false := by
      rw [isBlank, toList_quotedKeyword, if_pos hspace]
      rfl
    rw [hread, text_single, read_eq htextBlank]
    dsimp only
    constructor
    · intro h
      split at h
      next =>
        -- The text with its quotes is not the search string.
        obtain ⟨-, -, hsame, -⟩ := Keywords.mk.inj h
        exact absurd hspace (quotedKeyword_eq_self.mp (List.cons.inj hsame).1)
      next =>
        have hfits := fits_sort o (quotedKeyword query)
        rw [h] at hfits
        exact Or.inr (hfits.optional query List.mem_cons_self)
    · intro h
      obtain ⟨hclean, hkept, hplain⟩ := h.resolve_left (not_not.mpr hspace)
      have hfits : Keywords.Fits o { optional := [query] } :=
        ⟨by simp, List.forall_mem_singleton.mpr ⟨hclean, hkept, hplain⟩, List.nodup_nil, by simp⟩
      have hlegible : Keywords.Legible { optional := [query] } :=
        ⟨List.forall_mem_singleton.mpr (Or.inl hspace), by simp, by simp⟩
      have hsort := sort_text hfits hlegible query
      rw [text_single] at hsort
      rw [hsort]
      rfl
  · rw [hread, text_single, quotedKeyword_eq_self.mpr hspace, hread]
    exact iff_of_true rfl (Or.inl hspace)

/-- Sorted keywords are read back if they are legible, or one keyword is all of the text and noise. -/
theorem read_text_of_keywords {o : QueryOptions} {query : String} (hblank : isBlank query = false)
    (hsome : (sort o query).isEmpty = false) :
    (read o (read o query).text).keywords = (read o query).keywords ↔
      (sort o query).Legible ∨ ∃ w, sort o query = { optional := [w] } ∧ ' ' ∉ w.toList ∧
        isBlank w = false ∧ (sort o w).isEmpty = true := by
  have hfits := fits_sort o query
  have hread : read o query = ⟨query, sort o query⟩ := by
    rw [read_eq hblank, if_neg (by simp [hsome])]
  rw [hread]
  generalize sort o query = k at hfits hsome ⊢
  dsimp only
  have hsingle : ∀ w, k = { optional := [w] } → ' ' ∉ w.toList → text ⟨query, k⟩ = w := by
    rintro w rfl hspace
    rw [text_single, quotedKeyword_eq_self.mpr hspace]
  cases htextBlank : isBlank (text ⟨query, k⟩) with
  | true =>
    -- A blank text asks for nothing.
    have hnone : (read o (text ⟨query, k⟩)).keywords = {} := by
      rw [read, if_pos htextBlank]
    rw [hnone]
    refine iff_of_false (fun h => ?_) ?_
    · subst h
      cases hsome
    · rintro (hlegible | ⟨w, hk, hspace, hw, -⟩)
      · have hsort := sort_text hfits hlegible query
        rw [sort_of_isBlank o htextBlank] at hsort
        subst hsort
        cases hsome
      · rw [hsingle w hk hspace, hw] at htextBlank
        cases htextBlank
  | false =>
    rw [read_eq htextBlank]
    dsimp only
    split
    next hnoise =>
      constructor
      · intro h
        have hquoted := text_single query (text ⟨query, k⟩)
        rw [h] at hquoted
        exact Or.inr ⟨_, h.symm, quotedKeyword_eq_self.mp hquoted.symm, htextBlank, hnoise⟩
      · rintro (hlegible | ⟨w, hk, hspace, -, -⟩)
        · rw [sort_text hfits hlegible query, hsome] at hnoise
          cases hnoise
        · rw [hsingle w hk hspace, hk]
    next hkeywords =>
      rw [sort_text_iff hfits]
      refine (or_iff_left ?_).symm
      rintro ⟨w, hk, hspace, -, hnoise⟩
      rw [hsingle w hk hspace] at hkeywords
      exact hkeywords hnoise

/-- **A criterion is read off its text** exactly if its search string is restorable. -/
theorem read_text_iff {o : QueryOptions} {query : String}
    (hsome : (read o query).keywords.isEmpty = false) :
    (read o (read o query).text).keywords = (read o query).keywords ↔ Restorable o query := by
  have hblank : isBlank query = false := by
    by_contra hblank
    rw [read, if_pos (by simpa using hblank)] at hsome
    cases hsome
  rw [Restorable]
  split
  next hnone => exact read_text_of_noise hblank hnone
  next hkeywords => exact read_text_of_keywords hblank (by simpa using hkeywords)

/-- Keywords of every kind, in quotes and without them. -/
theorem read_text_phrases :
    let query := "bonjour +les -\"allons bon\" define:\"salut poulette\" define:-toto"
    (read {} query).keywords.isEmpty = false ∧
      (read {} (read {} query).text).keywords = (read {} query).keywords := by
  intro query
  have hsome : (read {} query).keywords.isEmpty = false := by decide +kernel
  have hsort : sort {} query =
      { mandatory := ["les"], negative := ["allons bon"], optional := ["bonjour"]
        pairs := [("define", ["salut poulette", "-toto"])] } := by decide +kernel
  have h : Restorable {} query := by
    rw [Restorable, hsort, if_neg (by decide)]
    exact Or.inl ⟨by decide +kernel, by decide +kernel, by decide +kernel⟩
  exact ⟨hsome, (read_text_iff hsome).mpr h⟩

/-- A phrase with a colon but no space is written without quotes, and read as a key and its value. -/
theorem read_text_colon :
    (read {} "\"a:b\"").keywords = { optional := ["a:b"] } ∧ (read {} "\"a:b\"").text = "a:b" ∧
      (read {} (read {} "\"a:b\"").text).keywords = { pairs := [("a", ["b"])] } := by
  decide +kernel

end Criterion

end SearchQuery
