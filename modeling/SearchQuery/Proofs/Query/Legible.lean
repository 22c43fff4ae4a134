import SearchQuery.Proofs.Query.Sorting

/-!
# Legible keywords

The text of a criterion is a search string again. It consists of pieces, one for every keyword and every
value of a key, and each piece is read on its own (`isPiece_of_mem_readings`).

A keyword that holds a space is put in quotes, and every other one is written as it is. So the keywords can
be told from the text if those without spaces are words (`Keywords.Legible`): each piece is then read as
what was sorted into its place (`readings`), and the whole text is sorted into the same places again
(`sort_text`).
-/

namespace SearchQuery

open Query Text

namespace Keywords

/-- The keywords can be told from the text of the criterion. Those with a space are written in quotes; of
the others, a keyword is a word, with or without a colon, a key is a word without a colon, and a value may
also have a sign. -/
structure Legible (k : Keywords) : Prop where
  words : ∀ w ∈ k.mandatory ++ k.negative ++ k.optional, ' ' ∈ w.toList ∨ IsKeyword w.toList
  keys : ∀ p ∈ k.pairs, IsWord p.1.toList
  values : ∀ p ∈ k.pairs, ∀ v ∈ p.2, ' ' ∈ v.toList ∨ IsBareToken v.toList

/-- The pieces of the text, each with the keywords that it should be read as. -/
def readings (k : Keywords) : List (String × List String) :=
  k.mandatory.map (fun w => ("+" ++ Criterion.quotedKeyword w, ["+" ++ w])) ++
    k.negative.map (fun w => ("-" ++ Criterion.quotedKeyword w, ["-" ++ w])) ++
    k.optional.map (fun w => (Criterion.quotedKeyword w, [w])) ++
    k.pairs.flatMap fun p => p.2.map fun value =>
      (p.1 ++ ":" ++ Criterion.quotedKeyword value, [p.1 ++ ":", value])

/-- The tokens of keywords are those of their readings. -/
theorem flatMap_readings (k : Keywords) : k.readings.flatMap (·.2) = k.tokens := by
  simp [readings, tokens, pairTokens, List.flatMap_assoc, List.map_eq_flatMap]

/-- What holds of all pieces holds of the pieces of each kind. -/
theorem forall_mem_readings {k : Keywords} {P : String × List String → Prop} :
    (∀ r ∈ k.readings, P r) ↔
      (∀ w ∈ k.mandatory, P ("+" ++ Criterion.quotedKeyword w, ["+" ++ w])) ∧
      (∀ w ∈ k.negative, P ("-" ++ Criterion.quotedKeyword w, ["-" ++ w])) ∧
      (∀ w ∈ k.optional, P (Criterion.quotedKeyword w, [w])) ∧
      ∀ p ∈ k.pairs, ∀ value ∈ p.2,
        P (p.1 ++ ":" ++ Criterion.quotedKeyword value, [p.1 ++ ":", value]) := by
  rw [readings, List.forall_mem_append, List.forall_mem_append, List.forall_mem_append, List.forall_mem_map,
    List.forall_mem_map, List.forall_mem_map, List.forall_mem_flatMap, and_assoc, and_assoc]
  simp only [List.forall_mem_map]

end Keywords

namespace Criterion

/-- A criterion is written as its readings, one behind the other. -/
theorem text_eq (c : Criterion) : c.text = " ".intercalate (c.keywords.readings.map (·.1)) := by
  simp [text, Keywords.readings, List.map_flatMap, Function.comp_def]

/-- A keyword with a blank is written as a phrase. -/
theorem toList_quotedKeyword (w : String) :
    (quotedKeyword w).toList = if ' ' ∈ w.toList then '"' :: (w.toList ++ ['"']) else w.toList := by
  rw [quotedKeyword]
  by_cases hspace : ' ' ∈ w.toList
  · simp [hspace]
  · simp [hspace]

theorem toList_pair (key value : String) :
    (key ++ ":" ++ quotedKeyword value).toList = key.toList ++ ':' :: (quotedKeyword value).toList := by
  simp

/-! ## Pieces -/

/-- A written keyword has its own characters, quotes apart. -/
theorem filter_quotedKeyword {w : String} (h : '"' ∉ w.toList) :
    (quotedKeyword w).toList.filter (· != '"') = w.toList := by
  rw [toList_quotedKeyword]
  split
  next => exact filter_phrase h
  next => exact filter_quotes h

/-- A keyword with single spaces is written with single spaces, and with none at its end. -/
theorem tight_quotedKeyword {w : String} (h : Tidy w.toList) : Tight (quotedKeyword w).toList := by
  rw [toList_quotedKeyword]
  split
  next => exact h.between (by decide) (by decide)
  next hspace =>
    refine tight_of_no_space fun c hc => Bool.eq_false_iff.mpr fun hblank => ?_
    exact hspace (h.spaces c hc hblank ▸ hc)

/-- A keyword is read on its own, with a sign or not, and in quotes or not. -/
theorem isPiece_keyword {front : List Char} (hfront : IsSignPart front) {w : String} (h : IsClean w) :
    IsPiece (front ++ (quotedKeyword w).toList) := by
  have htight := hfront.tight (tight_quotedKeyword h.2)
  rw [toList_quotedKeyword] at htight ⊢
  split at htight
  next hspace =>
    rw [if_pos hspace]
    exact (hfront.reads_phrase h.1).isPiece htight
  next hspace =>
    rw [if_neg hspace]
    exact ⟨reads_of_no_quote (by simpa using ⟨hfront.not_mem_quote, h.1⟩), htight⟩

/-- A pair is one piece. -/
theorem isPiece_pair {key value : String} (hkey : IsClean key) (hvalue : IsClean value) :
    IsPiece (key.toList ++ ':' :: (quotedKeyword value).toList) := by
  have htight : Tight (key.toList ++ ':' :: (quotedKeyword value).toList) :=
    hkey.2.append_tight ((tight_quotedKeyword hvalue.2).cons (by decide)) (by decide)
  rw [toList_quotedKeyword] at htight ⊢
  split at htight
  next hspace =>
    rw [if_pos hspace]
    exact (reads_key_phrase hkey.1 hvalue.1).isPiece htight
  next hspace =>
    rw [if_neg hspace]
    exact ⟨reads_of_no_quote (by simpa using ⟨hkey.1, hvalue.1⟩), htight⟩

end Criterion

namespace Keywords

variable {o : QueryOptions} {k : Keywords}

/-- Keywords that fit are clean. -/
theorem Fits.isClean (h : k.Fits o) :
    (∀ w ∈ k.mandatory, IsClean w) ∧ (∀ w ∈ k.negative, IsClean w) ∧ (∀ w ∈ k.optional, IsClean w) ∧
      ∀ p ∈ k.pairs, IsClean p.1 ∧ ∀ v ∈ p.2, IsClean v := by
  have hsigned := List.forall_mem_append.mp h.signed
  refine ⟨fun w hw => (hsigned.1 w hw).1, fun w hw => (hsigned.2 w hw).1, fun w hw => (h.optional w hw).1,
    fun p hp => ?_⟩
  obtain ⟨hkey, -, hvalues⟩ := h.pairs p hp
  exact ⟨hkey.clean, hvalues⟩

/-- Each piece of the text is read on its own, legible or not. -/
theorem isPiece_of_mem_readings (h : k.Fits o) : ∀ r ∈ k.readings, IsPiece r.1.toList := by
  obtain ⟨hmandatory, hnegative, hoptional, hpairs⟩ := h.isClean
  refine forall_mem_readings.mpr ⟨fun w hw => ?_, fun w hw => ?_, fun w hw => ?_, fun p hp value hvalue => ?_⟩
  · rw [toList_plus]
    exact Criterion.isPiece_keyword isSignPart_plus (hmandatory w hw)
  · rw [toList_minus]
    exact Criterion.isPiece_keyword isSignPart_minus (hnegative w hw)
  · exact Criterion.isPiece_keyword isSignPart_nil (hoptional w hw)
  · rw [Criterion.toList_pair]
    exact Criterion.isPiece_pair (hpairs p hp).1 ((hpairs p hp).2 value hvalue)

/-- But for its quotes, a piece consists of the keywords that it should be read as. -/
theorem filter_of_mem_readings (h : k.Fits o) :
    ∀ r ∈ k.readings, r.1.toList.filter (· != '"') = (r.2.map String.toList).flatten := by
  obtain ⟨hmandatory, hnegative, hoptional, hpairs⟩ := h.isClean
  refine forall_mem_readings.mpr ⟨fun w hw => ?_, fun w hw => ?_, fun w hw => ?_, fun p hp value hvalue => ?_⟩
  · simp [Criterion.filter_quotedKeyword (hmandatory w hw).1]
  · simp [Criterion.filter_quotedKeyword (hnegative w hw).1]
  · simp [Criterion.filter_quotedKeyword (hoptional w hw).1]
  · obtain ⟨hkey, hvalues⟩ := hpairs p hp
    simp [Criterion.filter_quotedKeyword (hvalues value hvalue).1, filter_quotes hkey.1]

/-- The text is read piece by piece. -/
theorem tokenChars_text (h : k.Fits o) (query : String) :
    tokenChars (collapseChars (Criterion.text ⟨query, k⟩).toList) =
      k.readings.flatMap fun r => tokenChars r.1.toList := by
  have hpieces : ∀ u ∈ k.readings.map fun r => r.1.toList, IsPiece u :=
    List.forall_mem_map.mpr (isPiece_of_mem_readings h)
  rw [Criterion.text_eq, String.toList_intercalate, List.map_map]
  exact (tokenChars_intercalate hpieces).trans (List.flatMap_map _ _ _)

/-! ## Reading legible keywords -/

/-- A keyword behind a sign is read back. -/
theorem reads_quotedKeyword {front : List Char} (hfront : IsSignPart front) {w : String}
    (hquote : '"' ∉ w.toList) (h : ' ' ∈ w.toList ∨ IsKeyword w.toList) :
    Reads (front ++ (Criterion.quotedKeyword w).toList) [front ++ w.toList] := by
  rw [Criterion.toList_quotedKeyword]
  split
  next => exact hfront.reads_phrase hquote
  next hspace => exact hfront.reads_keyword (h.resolve_left hspace)

/-- A value behind its key is read back. -/
theorem reads_quotedValue {w : String} (hquote : '"' ∉ w.toList)
    (h : ' ' ∈ w.toList ∨ IsBareToken w.toList) : Reads (Criterion.quotedKeyword w).toList [w.toList] := by
  rw [Criterion.toList_quotedKeyword]
  split
  next => exact reads_phrase hquote
  next hspace => exact reads_bareToken (h.resolve_left hspace)

/-- A piece of the text of legible keywords is read as what it stands for. -/
theorem Legible.tokenChars_readings (h : k.Legible) (hfits : k.Fits o) :
    ∀ r ∈ k.readings, tokenChars r.1.toList = r.2.map String.toList := by
  obtain ⟨hmandatory, hnegative, hoptional, hpairs⟩ := hfits.isClean
  have hwords := List.forall_mem_append.mp h.words
  have hsigned := List.forall_mem_append.mp hwords.1
  refine forall_mem_readings.mpr ⟨fun w hw => ?_, fun w hw => ?_, fun w hw => ?_, fun p hp value hvalue => ?_⟩
  · rw [toList_plus, List.map_singleton, toList_plus]
    exact (reads_quotedKeyword isSignPart_plus (hmandatory w hw).1 (hsigned.1 w hw)).tokenChars_eq
  · rw [toList_minus, List.map_singleton, toList_minus]
    exact (reads_quotedKeyword isSignPart_minus (hnegative w hw).1 (hsigned.2 w hw)).tokenChars_eq
  · exact (reads_quotedKeyword isSignPart_nil (hoptional w hw).1 (hwords.2 w hw)).tokenChars_eq
  · obtain ⟨-, hvalues⟩ := hpairs p hp
    have hvalueReads := reads_quotedValue (hvalues value hvalue).1 (h.values p hp value hvalue)
    rw [Criterion.toList_pair, List.map_cons, toList_colon]
    exact (hvalueReads.behind_key (h.keys p hp)).tokenChars_eq

end Keywords

namespace Criterion

/-- **Legible keywords are read off their text.** -/
theorem sort_text {o : QueryOptions} {k : Keywords} (hfits : k.Fits o) (h : k.Legible) (query : String) :
    sort o (text ⟨query, k⟩) = k := by
  have htokens : (tokenChars (collapseChars (text ⟨query, k⟩).toList)).map String.ofList = k.tokens := by
    rw [Keywords.tokenChars_text hfits, ← Keywords.flatMap_readings, List.map_flatMap]
    refine List.flatMap_congr fun r hr => ?_
    rw [h.tokenChars_readings hfits r hr, List.map_map]
    simp [Function.comp_def]
  rw [sort_eq, htokens, Sorting.foldl_add_tokens hfits]

end Criterion

end SearchQuery
