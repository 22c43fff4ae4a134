import SearchQuery.Proofs.Query.Legible

/-!
# Illegible keywords

Keywords that are read off their text are legible (`legible_of_sort_text`), so a criterion with any other
keyword is not read back.

## Shape of the argument

It is all counting. Sorting invents nothing, so the keywords that the text should be read as are among
those that it is read as, and have no more characters. But each piece is read as parts of itself, so these
have no more characters than the pieces, which consist of the keywords that the text should be read as. So
no piece leaves anything out (`isComplete_of_sort_text`), and then each is read as at least as many keywords
as it should be. As there are not more of them all in all, each piece is read as exactly that many, and
what is read of a piece without leaving anything out is made of words.
-/

namespace SearchQuery

open Query Text

/-! ## Counting -/

/-- The number of characters of all texts. -/
def charCount (ts : List String) : ℕ :=
  (ts.map String.toList).flatten.length

section Lengths

variable {α β γ : Type} {f : α → List β} {g : α → List γ} {l : List α}

theorem length_flatMap_le (hle : ∀ a ∈ l, (f a).length ≤ (g a).length) :
    (l.flatMap f).length ≤ (l.flatMap g).length := by
  induction l with
  | nil => exact Nat.le_refl 0
  | cons a l ih =>
    rw [List.forall_mem_cons] at hle
    rw [List.flatMap_cons, List.flatMap_cons, List.length_append, List.length_append]
    exact Nat.add_le_add hle.1 (ih hle.2)

/-- Where each part is at most as long, and all of them are at least as long, each part is as long. -/
theorem length_eq_of_flatMap_le (hle : ∀ a ∈ l, (f a).length ≤ (g a).length)
    (hall : (l.flatMap g).length ≤ (l.flatMap f).length) : ∀ a ∈ l, (f a).length = (g a).length := by
  induction l with
  | nil => simp
  | cons a l ih =>
    rw [List.forall_mem_cons] at hle ⊢
    rw [List.flatMap_cons, List.flatMap_cons, List.length_append, List.length_append] at hall
    have hrest := length_flatMap_le hle.2
    exact ⟨by omega, ih hle.2 (by omega)⟩

end Lengths

/-- Texts that are among others have no more characters. If they have as many, no other one that is not empty
is left. -/
theorem charCount_le_of_subperm {ts us : List String} (h : ts.Subperm us) :
    charCount ts ≤ charCount us ∧
      ((∀ u ∈ us, u ≠ "") → charCount us ≤ charCount ts → us.length ≤ ts.length) := by
  obtain ⟨vs, hvs, hsub⟩ := h
  obtain ⟨rest, hperm⟩ := hsub.exists_perm_append
  have hus : us.Perm (ts ++ rest) := hperm.trans (hvs.append_right rest)
  have hcount : charCount us = charCount ts + charCount rest := by
    rw [charCount, (hus.map String.toList).flatten.length_eq, List.map_append, List.flatten_append,
      List.length_append]
    rfl
  refine ⟨hcount ▸ Nat.le_add_right _ _, fun hne hle => ?_⟩
  cases rest with
  | nil =>
    rw [List.append_nil] at hus
    exact hus.length_eq.le
  | cons t rest =>
    -- A text that is left over has a character.
    have ht : t ≠ "" := hne t (hus.mem_iff.mpr (by simp))
    have hpos : 0 < t.toList.length := List.length_pos_iff.mpr (by simpa using ht)
    have hrest : charCount (t :: rest) = t.toList.length + charCount rest := by
      rw [charCount, List.map_cons, List.flatten_cons, List.length_append]
      rfl
    omega

/-- Characters are counted token by token. -/
theorem charCount_flatMap {α : Type} (f : α → List String) (l : List α) :
    charCount (l.flatMap f) = (l.flatMap fun a => ((f a).map String.toList).flatten).length := by
  induction l with
  | nil => rfl
  | cons a l ih =>
    rw [List.flatMap_cons, List.flatMap_cons, List.length_append, ← ih, charCount, List.map_append,
      List.flatten_append, List.length_append]
    rfl

theorem charCount_flatMap_ofList {α : Type} (f : α → List (List Char)) (l : List α) :
    charCount (l.flatMap fun a => (f a).map String.ofList) = (l.flatMap fun a => (f a).flatten).length := by
  rw [charCount_flatMap]
  simp [Function.comp_def]

namespace Keywords

variable {o : QueryOptions} {k : Keywords}

/-! ## One piece -/

/-- A keyword is not read as an empty one. -/
theorem ne_nil_of_mem_keyword {front : List Char} (hfront : IsSignPart front) {w : String}
    (hquote : '"' ∉ w.toList) :
    ∀ t ∈ tokenChars (front ++ (Criterion.quotedKeyword w).toList), t ≠ [] := by
  rw [Criterion.toList_quotedKeyword]
  split
  next hspace =>
    rw [(hfront.reads_phrase hquote).tokenChars_eq, List.forall_mem_singleton]
    exact List.append_ne_nil_of_right_ne_nil _ (List.ne_nil_of_mem hspace)
  next => exact fun t => ne_nil_of_mem_tokenChars (by simpa using ⟨hfront.not_mem_quote, hquote⟩)

/-- No token of a pair is empty. -/
theorem ne_nil_of_mem_pair {key value : String} (hkey : '"' ∉ key.toList) (hvalue : '"' ∉ value.toList) :
    ∀ t ∈ tokenChars (key.toList ++ ':' :: (Criterion.quotedKeyword value).toList), t ≠ [] := by
  rw [Criterion.toList_quotedKeyword]
  split
  next hspace =>
    rw [(reads_key_phrase hkey hvalue).tokenChars_eq, List.forall_mem_append, List.forall_mem_singleton]
    exact ⟨fun t => ne_nil_of_mem_tokenChars (by simpa using hkey), List.ne_nil_of_mem hspace⟩
  next => exact fun t => ne_nil_of_mem_tokenChars (by simpa using ⟨hkey, hvalue⟩)

/-- Nothing is left out when the piece is read. -/
def IsComplete (r : String × List String) : Prop :=
  (tokenChars r.1.toList).flatten = (r.2.map String.toList).flatten

/-- If nothing is left out of a keyword, it is read as one keyword at least, and as exactly one only if it is
in quotes or a word. -/
theorem keyword_of_isComplete {front : List Char} (hfront : IsSignPart front) {w text token : String}
    (htext : text.toList = front ++ (Criterion.quotedKeyword w).toList)
    (htoken : token.toList = front ++ w.toList) (hquote : '"' ∉ w.toList) (hne : token ≠ "")
    (h : IsComplete (text, [token])) :
    1 ≤ (tokenChars text.toList).length ∧
      ((tokenChars text.toList).length = 1 → ' ' ∈ w.toList ∨ IsBareToken (front ++ w.toList)) := by
  rw [IsComplete, List.map_singleton, List.flatten_singleton, htext, htoken,
    Criterion.toList_quotedKeyword] at h
  rw [htext, Criterion.toList_quotedKeyword]
  split at h
  next hspace =>
    rw [if_pos hspace, (hfront.reads_phrase hquote).tokenChars_eq]
    exact ⟨Nat.le_refl 1, fun _ => Or.inl hspace⟩
  next hspace =>
    rw [if_neg hspace]
    have hchars : front ++ w.toList ≠ [] := by
      rw [← htoken]
      simpa using hne
    obtain ⟨hlength, hbare⟩ := isBareToken_of_flatten_eq
      (by simpa using ⟨hfront.not_mem_quote, hquote⟩) hchars h
    exact ⟨hlength, fun hone => Or.inr (hbare hone)⟩

/-- If nothing is left out of a pair, it is read as two keywords at least, and as exactly two only if the key
is a word and the value is in quotes or a word. -/
theorem pair_of_isComplete {key value : String} (hkey : '"' ∉ key.toList) (hvalue : '"' ∉ value.toList)
    (hne : value ≠ "")
    (h : IsComplete (key ++ ":" ++ Criterion.quotedKeyword value, [key ++ ":", value])) :
    2 ≤ (tokenChars (key ++ ":" ++ Criterion.quotedKeyword value).toList).length ∧
      ((tokenChars (key ++ ":" ++ Criterion.quotedKeyword value).toList).length = 2 →
        IsBareToken (key ++ ":").toList ∧ (' ' ∈ value.toList ∨ IsBareToken value.toList)) := by
  have hpair : ([key ++ ":", value].map String.toList).flatten = key.toList ++ [':'] ++ value.toList := by
    simp
  rw [IsComplete, hpair, Criterion.toList_pair, Criterion.toList_quotedKeyword] at h
  rw [Criterion.toList_pair, Criterion.toList_quotedKeyword, toList_colon]
  split at h
  next hspace =>
    rw [if_pos hspace]
    rw [(reads_key_phrase hkey hvalue).tokenChars_eq] at h ⊢
    rw [List.flatten_append, List.flatten_singleton] at h
    obtain ⟨hlength, hbare⟩ := isBareToken_of_flatten_eq (by simpa using hkey) (by simp)
      (List.append_cancel_right h)
    rw [List.length_append, List.length_singleton]
    exact ⟨Nat.succ_le_succ hlength, fun htwo => ⟨hbare (by omega), Or.inl hspace⟩⟩
  next hspace =>
    rw [if_neg hspace]
    rw [List.append_assoc] at h
    obtain ⟨hlength, hbare⟩ := isBareToken_pair_of_flatten_eq
      (by simpa using ⟨hkey, hvalue⟩) (by simpa using hne) h
    exact ⟨hlength, fun htwo => (hbare htwo).imp_right Or.inr⟩

/-! ## All pieces -/

/-- The pieces of the text are not read as empty keywords. -/
theorem ne_nil_of_mem_readings (h : k.Fits o) :
    ∀ r ∈ k.readings, ∀ t ∈ tokenChars r.1.toList, t ≠ [] := by
  obtain ⟨hmandatory, hnegative, hoptional, hpairs⟩ := h.isClean
  refine forall_mem_readings.mpr ⟨fun w hw => ?_, fun w hw => ?_, fun w hw => ?_, fun p hp value hvalue => ?_⟩
  · rw [toList_plus]
    exact ne_nil_of_mem_keyword isSignPart_plus (hmandatory w hw).1
  · rw [toList_minus]
    exact ne_nil_of_mem_keyword isSignPart_minus (hnegative w hw).1
  · exact ne_nil_of_mem_keyword isSignPart_nil (hoptional w hw).1
  · obtain ⟨hkey, hvalues⟩ := hpairs p hp
    rw [Criterion.toList_pair]
    exact ne_nil_of_mem_pair hkey.1 (hvalues value hvalue).1

/-- A piece of which nothing is left out is read as at least as many keywords as it should be. -/
theorem length_le_of_isComplete (h : k.Fits o) :
    ∀ r ∈ k.readings, (∀ t ∈ r.2, t ≠ "") → IsComplete r → r.2.length ≤ (tokenChars r.1.toList).length := by
  obtain ⟨hmandatory, hnegative, hoptional, hpairs⟩ := h.isClean
  refine forall_mem_readings.mpr ⟨fun w hw hne hfull => ?_, fun w hw hne hfull => ?_,
    fun w hw hne hfull => ?_, fun p hp value hvalue hne hfull => ?_⟩
  · exact (keyword_of_isComplete isSignPart_plus (toList_plus _) (toList_plus w) (hmandatory w hw).1
      (hne _ (by simp)) hfull).1
  · exact (keyword_of_isComplete isSignPart_minus (toList_minus _) (toList_minus w) (hnegative w hw).1
      (hne _ (by simp)) hfull).1
  · exact (keyword_of_isComplete isSignPart_nil rfl rfl (hoptional w hw).1 (hne _ (by simp)) hfull).1
  · obtain ⟨hkey, hvalues⟩ := hpairs p hp
    exact (pair_of_isComplete hkey.1 (hvalues value hvalue).1 (hne _ (by simp)) hfull).1

/-- All keywords have characters, and nothing is left out of any piece, which is read as so many keywords as
it should be. -/
theorem isComplete_of_sort_text (hfits : k.Fits o) {query : String}
    (h : Criterion.sort o (Criterion.text ⟨query, k⟩) = k) :
    ∀ r ∈ k.readings,
      (∀ t ∈ r.2, t ≠ "") ∧ IsComplete r ∧ (tokenChars r.1.toList).length = r.2.length := by
  have hsub := Criterion.tokens_sort_subperm o (Criterion.text ⟨query, k⟩)
  rw [h, tokenChars_text hfits, ← flatMap_readings, List.map_flatMap] at hsub
  have hread : ∀ u ∈ k.readings.flatMap fun r => (tokenChars r.1.toList).map String.ofList, u ≠ "" := by
    refine List.forall_mem_flatMap.mpr fun r hr => List.forall_mem_map.mpr fun t ht => ?_
    simpa using ne_nil_of_mem_readings hfits r hr t ht
  have hne : ∀ r ∈ k.readings, ∀ t ∈ r.2, t ≠ "" := fun r hr t ht =>
    hread t (hsub.subset (List.mem_flatMap_of_mem hr ht))
  have hparts : ∀ r ∈ k.readings,
      (tokenChars r.1.toList).flatten.Sublist (r.2.map String.toList).flatten := fun r hr => by
    rw [← filter_of_mem_readings hfits r hr]
    exact flatten_tokenChars_sublist r.1.toList
  have hlengths := fun r hr => (hparts r hr).length_le
  -- All in all as many characters are read as should be, and so they are of each piece.
  obtain ⟨hle, hlength⟩ := charCount_le_of_subperm hsub
  have hchars := charCount_flatMap_ofList (fun r : String × List String => tokenChars r.1.toList) k.readings
  have hshould := charCount_flatMap (fun r : String × List String => r.2) k.readings
  rw [hchars, hshould] at hle hlength
  have hsame := length_eq_of_flatMap_le hlengths hle
  have hcomplete : ∀ r ∈ k.readings, IsComplete r := fun r hr => (hparts r hr).eq_of_length (hsame r hr)
  have hcounts : ∀ r ∈ k.readings, r.2.length = ((tokenChars r.1.toList).map String.ofList).length := by
    refine length_eq_of_flatMap_le (fun r hr => ?_) (hlength hread (length_flatMap_le hlengths))
    rw [List.length_map]
    exact length_le_of_isComplete hfits r hr (hne r hr) (hcomplete r hr)
  refine fun r hr => ⟨hne r hr, hcomplete r hr, ?_⟩
  rw [hcounts r hr, List.length_map]

/-- **Keywords that are read off their text are legible.** -/
theorem legible_of_sort_text (hfits : k.Fits o) {query : String}
    (h : Criterion.sort o (Criterion.text ⟨query, k⟩) = k) : k.Legible := by
  obtain ⟨hmandatory, hnegative, hoptional, hpairs⟩ :=
    forall_mem_readings.mp (isComplete_of_sort_text hfits h)
  obtain ⟨hcleanMandatory, hcleanNegative, hcleanOptional, hcleanPairs⟩ := hfits.isClean
  -- A token that was read in one piece is bare, or has a blank inside its quotes.
  have hpair : ∀ p ∈ k.pairs, ∀ value ∈ p.2,
      IsBareToken (p.1 ++ ":").toList ∧ (' ' ∈ value.toList ∨ IsBareToken value.toList) := by
    intro p hp value hvalue
    obtain ⟨hne, hfull, hcount⟩ := hpairs p hp value hvalue
    obtain ⟨hkey, hvalues⟩ := hcleanPairs p hp
    exact (pair_of_isComplete hkey.1 (hvalues value hvalue).1 (hne _ (by simp)) hfull).2 hcount
  refine ⟨List.forall_mem_append.mpr ⟨List.forall_mem_append.mpr ⟨fun w hw => ?_, fun w hw => ?_⟩,
    fun w hw => ?_⟩, fun p hp => ?_, fun p hp value hvalue => (hpair p hp value hvalue).2⟩
  · obtain ⟨hne, hfull, hcount⟩ := hmandatory w hw
    have hbare := (keyword_of_isComplete isSignPart_plus (toList_plus _) (toList_plus w)
      (hcleanMandatory w hw).1 (hne _ (by simp)) hfull).2 hcount
    exact hbare.imp_right fun hbare => isSignPart_plus.isKeyword hbare (by simp)
  · obtain ⟨hne, hfull, hcount⟩ := hnegative w hw
    have hbare := (keyword_of_isComplete isSignPart_minus (toList_minus _) (toList_minus w)
      (hcleanNegative w hw).1 (hne _ (by simp)) hfull).2 hcount
    exact hbare.imp_right fun hbare => isSignPart_minus.isKeyword hbare (by simp)
  · obtain ⟨hne, hfull, hcount⟩ := hoptional w hw
    have hbare := (keyword_of_isComplete isSignPart_nil rfl rfl (hcleanOptional w hw).1 (hne _ (by simp))
      hfull).2 hcount
    exact hbare.imp_right fun hbare => isSignPart_nil.isKeyword hbare fun _ => (hfits.optional w hw).2.2.1
  · obtain ⟨hkey, hvalues, -⟩ := hfits.pairs p hp
    obtain ⟨value, hvalue⟩ := List.exists_mem_of_ne_nil _ hvalues
    have hkeyword : IsKeyword (p.1 ++ ":").toList :=
      isSignPart_nil.isKeyword (hpair p hp value hvalue).1 fun _ => hkey.unsigned
    rw [toList_colon] at hkeyword
    exact hkeyword.isWord_of_colon

end Keywords

end SearchQuery
