import SearchQuery.Proofs.Query.Found

/-!
# No word is lost

The keywords of a text hold the word characters of the text, all of them, each one once and in order
(`tokens_keep_words`). So what the scanner leaves out are quotes, colons, spaces and punctuation only.

## Shape of the argument

Nothing is read as a word inside of a word, so a scanner that stopped there would lose the rest of the
word. `Apart before cs` says that it stands between words. This is kept by every step (`scan_induction`):
behind a keyword, because the word in it is the longest one, and behind a character that is left out,
because this character is of no word.
-/

namespace SearchQuery

namespace Text

/-- Nothing is left of a text if all of it passes. -/
theorem dropEndWhile_eq_nil {p : Char → Bool} {cs : List Char} :
    dropEndWhile p cs = [] ↔ ∀ c ∈ cs, p c = true := by
  induction cs with
  | nil => simp [dropEndWhile]
  | cons c cs ih =>
    rw [dropEndWhile, List.forall_mem_cons, ← ih]
    split
    next hnil => split <;> simp_all
    next rest hne => simp_all

/-- What is dropped are characters that satisfy the test. -/
theorem exists_dropEndWhile_append (p : Char → Bool) (cs : List Char) :
    ∃ dropped, cs = dropEndWhile p cs ++ dropped ∧ ∀ c ∈ dropped, p c = true := by
  induction cs with
  | nil => exact ⟨[], rfl, by simp⟩
  | cons c cs ih =>
    obtain ⟨dropped, hcs, hdropped⟩ := ih
    rw [dropEndWhile]
    split
    next hnil =>
      rw [hnil, List.nil_append] at hcs
      subst hcs
      split
      next hc => exact ⟨c :: cs, rfl, List.forall_mem_cons.mpr ⟨hc, hdropped⟩⟩
      next => exact ⟨cs, rfl, hdropped⟩
    next =>
      refine ⟨dropped, ?_, hdropped⟩
      rw [List.cons_append, ← hcs]

end Text

namespace Query

open Text

theorem isBare_of_isWordChar {c : Char} (h : isWordChar c = true) : isBare c = true := by
  by_contra hbare
  simp only [isBare, Bool.and_eq_true, bne_iff_ne, ne_eq, not_and_or, not_not] at hbare
  rcases hbare with (rfl | rfl) | rfl <;> revert h <;> decide

/-- No word starts where the run of bare characters holds no word character. -/
theorem wordPart_eq_nil {cs : List Char} :
    wordPart cs = [] ↔ ∀ c ∈ cs.takeWhile isBare, isWordChar c = false := by
  rw [wordPart, dropEndWhile_eq_nil]
  simp only [Bool.not_eq_true']

/-- Behind the longest word of a run, the run holds no further word. -/
theorem wordPart_drop (cs : List Char) : wordPart (cs.drop (wordPart cs).length) = [] := by
  obtain ⟨dropped, hrun, hdropped⟩ := exists_dropEndWhile_append (!isWordChar ·) (cs.takeWhile isBare)
  change cs.takeWhile isBare = wordPart cs ++ dropped at hrun
  have hcs : cs = wordPart cs ++ (dropped ++ cs.dropWhile isBare) := by
    rw [← List.append_assoc, ← hrun, List.takeWhile_append_dropWhile]
  have hrest : cs.drop (wordPart cs).length = dropped ++ cs.dropWhile isBare := by
    have hdrop := congrArg (List.drop (wordPart cs).length) hcs
    rwa [List.drop_left] at hdrop
  have hbare : ∀ c ∈ (cs.dropWhile isBare).head?, isBare c = false := by
    intro c hc
    have hhead := List.head?_dropWhile_not isBare cs
    rw [hc] at hhead
    simpa using hhead
  rw [hrest, wordPart_append dropped hbare, wordPart_eq_nil]
  intro c hc
  simpa using hdropped c ((List.takeWhile_prefix isBare).subset hc)

/-! ## Between words -/

/-- The scanner stands inside of no word: the character in front of it is of none, or none starts here. -/
def Apart (before : Option Char) (cs : List Char) : Prop :=
  before.any isWordChar = false ∨ wordPart cs = []

/-- The text is a word that is read to its end, in front of `rest`, or a word with its colon. -/
def IsWholeWord (rest u : List Char) : Prop :=
  ∃ w, (∀ c ∈ w, isBare c = true) ∧ w.getLast?.any isWordChar = true ∧
    (u = w ∧ wordPart rest = [] ∨ u = w ++ [':'])

/-- A word that is read as a whole is one. -/
theorem isWholeWord_of_wordLength? {before : Option Char} {u rest : List Char}
    (h : wordLength? before (u ++ rest) = some u.length) : IsWholeWord rest u := by
  obtain ⟨-, hne, v, tail, happend, hlength, hv⟩ := wordLength?_cases h
  obtain ⟨rfl, -⟩ := List.append_inj happend hlength
  refine ⟨wordPart (u ++ rest), fun c => isBare_of_mem_wordPart, getLast?_wordPart hne, ?_⟩
  refine hv.imp_left fun hword => ⟨hword, ?_⟩
  have hrest := wordPart_drop (u ++ rest)
  rwa [← hword, List.drop_left] at hrest

/-- Behind its sign a token has its body. -/
theorem exists_body_of_signed {length? : Option Char → List Char → Option ℕ} {P : List Char → Prop}
    {before : Option Char} {u rest : List Char}
    (hP : ∀ before u, length? before (u ++ rest) = some u.length → P u)
    (h : signed length? before (u ++ rest) = some u.length) :
    ∃ front body, IsSignPart front ∧ u = front ++ body ∧ P body := by
  rcases signed_eq_some h with hfound | ⟨sign, cs, n, hcs, hsign, hfound, hlength⟩
  · exact ⟨[], u, isSignPart_nil, rfl, hP before u hfound⟩
  · cases u with
    | nil => cases hlength
    | cons c u =>
      obtain ⟨rfl, rfl⟩ := List.cons.inj hcs
      obtain rfl : u.length = n := Nat.succ.inj hlength
      exact ⟨[c], u, Or.inr ⟨c, hsign, rfl⟩, rfl, hP (some c) u hfound⟩

/-- What is found is a whole word or a phrase, behind a sign or none. -/
theorem found_cases {before : Option Char} {u rest : List Char}
    (h : tokenLength? before (u ++ rest) = some u.length) :
    ∃ front body, IsSignPart front ∧ u = front ++ body ∧ (IsWholeWord rest body ∨ IsPhrase body) := by
  rw [tokenLength?] at h
  split at h
  next n hn =>
    rw [h] at hn
    exact exists_body_of_signed (fun _ _ hword => Or.inl (isWholeWord_of_wordLength? hword)) hn
  next =>
    refine exists_body_of_signed (fun _ v hphrase => Or.inr ?_) h
    obtain ⟨w, tail, happend, hlength, hw⟩ := phraseLength?_eq_some hphrase
    obtain ⟨rfl, -⟩ := List.append_inj happend hlength
    exact hw

/-- A whole word ends with a word character or its colon. -/
theorem IsWholeWord.exists_last {rest u : List Char} (h : IsWholeWord rest u) :
    ∃ last, u.getLast? = some last ∧ isSign last = false ∧ Apart (some last) rest := by
  obtain ⟨w, -, hlast, ⟨rfl, hrest⟩ | rfl⟩ := h
  · obtain ⟨last, hu, hword⟩ := (Option.any_eq_true _ _).mp hlast
    refine ⟨last, hu, ?_, Or.inr hrest⟩
    by_contra hsign
    rw [isWordChar_of_isSign (by simpa using hsign)] at hword
    cases hword
  · exact ⟨':', List.getLast?_concat, by decide, Or.inl (by decide)⟩

/-- A phrase ends with its quote. -/
theorem IsPhrase.getLast? {u : List Char} (h : IsPhrase u) : u.getLast? = some '"' := by
  obtain ⟨inside, -, rfl⟩ := h
  rw [← List.cons_append, List.getLast?_concat]

/-- Behind a keyword the scanner is between words, and behind no sign. -/
theorem exists_last_of_tokenLength? {before : Option Char} {u rest : List Char}
    (h : tokenLength? before (u ++ rest) = some u.length) :
    ∃ last, u.getLast? = some last ∧ isSign last = false ∧ Apart (some last) rest := by
  obtain ⟨front, body, -, rfl, hbody⟩ := found_cases h
  have hlast : ∃ last, body.getLast? = some last ∧ isSign last = false ∧ Apart (some last) rest := by
    rcases hbody with hword | hphrase
    · exact hword.exists_last
    · exact ⟨'"', hphrase.getLast?, by decide, Or.inl (by decide)⟩
  obtain ⟨last, hbodyLast, hsign, hapart⟩ := hlast
  refine ⟨last, ?_, hsign, hapart⟩
  rw [List.getLast?_append, hbodyLast]
  rfl

/-- Between words, a character where no keyword is found is of no word. -/
theorem Apart.not_isWordChar {before : Option Char} {c : Char} {cs : List Char}
    (h : Apart before (c :: cs)) (hnone : tokenLength? before (c :: cs) = none) :
    isWordChar c = false := by
  by_contra hword
  rw [Bool.not_eq_false] at hword
  have hmem : c ∈ (c :: cs).takeWhile isBare := by
    rw [List.takeWhile_cons_of_pos (isBare_of_isWordChar hword)]
    exact List.mem_cons_self
  have hne : wordPart (c :: cs) ≠ [] := by
    intro hnil
    have hc := wordPart_eq_nil.mp hnil c hmem
    rw [hword] at hc
    cases hc
  have hbefore : before.any isWordChar = false := h.resolve_right hne
  have hsign : isSign c = false := by
    by_contra hsign
    rw [isWordChar_of_isSign (by simpa using hsign)] at hword
    cases hword
  have hboundary : isBoundary before (some c) = true := by
    rw [isBoundary, hbefore]
    simpa using hword
  rw [tokenLength?, signed, if_neg (by simp [hsign]), wordLength?, List.head?_cons, hboundary,
    Bool.true_and, if_pos (by simpa using hne)] at hnone
  cases hnone

/-! ## Along the scanner -/

/-- Where no token starts, a character is skipped. -/
theorem scan_char {before : Option Char} {c : Char} {cs : List Char}
    (h : tokenLength? before (c :: cs) = none) : scan 0 before (c :: cs) = scan 0 (some c) cs := by
  rw [scan, h]

/-- Induction along the scanner: over characters that are left out, and over keywords, each taken as a
whole. -/
theorem scan_induction {P : Option Char → List Char → Prop} (nil : ∀ before, P before [])
    (char : ∀ before c cs, tokenLength? before (c :: cs) = none → P (some c) cs → P before (c :: cs))
    (token : ∀ before u rest, u ≠ [] → tokenLength? before (u ++ rest) = some u.length →
      P u.getLast? rest → P before (u ++ rest))
    (before : Option Char) (cs : List Char) : P before cs := by
  induction hn : cs.length using Nat.strong_induction_on generalizing before cs with
  | _ n ih =>
    subst hn
    cases cs with
    | nil => exact nil before
    | cons c cs =>
      cases htoken : tokenLength? before (c :: cs) with
      | none => exact char before c cs htoken (ih cs.length (Nat.lt_succ_self _) _ _ rfl)
      | some n =>
        obtain ⟨u, rest, hcs, rfl, hne, -⟩ := tokenLength?_eq_some htoken
        rw [hcs] at htoken ih ⊢
        have hlength : rest.length < (u ++ rest).length := by
          have hpos := List.length_pos_of_ne_nil hne
          rw [List.length_append]
          omega
        exact token before u rest hne htoken (ih rest.length hlength _ _ rfl)

/-! ## All words -/

/-- Quotes are no characters of words. -/
theorem filter_isWordChar_filter_quotes (cs : List Char) :
    (cs.filter (· != '"')).filter isWordChar = cs.filter isWordChar := by
  rw [List.filter_filter]
  refine List.filter_congr fun c _ => ?_
  by_cases hc : c = '"'
  · subst hc
    decide
  · simp [hc]

/-- A scanner that stands between words reads all word characters, in order. -/
theorem Apart.filter_flatten_scan {before : Option Char} {cs : List Char} (h : Apart before cs) :
    (scan 0 before cs).flatten.filter isWordChar = cs.filter isWordChar := by
  induction before, cs using scan_induction with
  | nil => rfl
  | char before c cs htoken ih =>
    have hc := h.not_isWordChar htoken
    rw [scan_char htoken, ih (Or.inl hc), List.filter_cons_of_neg (by simp [hc])]
  | token before u rest hne htoken ih =>
    obtain ⟨last, hlast, -, hapart⟩ := exists_last_of_tokenLength? htoken
    rw [← hlast] at hapart
    rw [scan_token hne htoken, List.flatten_cons, List.filter_append, ih hapart,
      filter_isWordChar_filter_quotes, List.filter_append]

/-- No token has a quote. -/
theorem not_mem_quote_of_mem_scan {cs t : List Char} {skip : ℕ} {before : Option Char}
    (h : t ∈ scan skip before cs) : '"' ∉ t := by
  have hflat := (flatten_scan_sublist skip before cs).subset
  intro hquote
  have hmem := hflat (List.mem_flatten.mpr ⟨t, h, hquote⟩)
  simp at hmem

theorem map_toList_tokens (s : String) : (tokens s).map String.toList = tokenChars s.toList := by
  rw [tokens, List.map_map]
  exact (List.map_congr_left fun t _ => String.toList_ofList).trans (List.map_id _)

/-- **No word is lost.** The keywords of a text have no quotes, and one behind the other they hold its word
characters: none is left out, read twice or moved. -/
theorem tokens_keep_words (s : String) :
    (∀ t ∈ tokens s, '"' ∉ t.toList) ∧
      ((tokens s).flatMap String.toList).filter isWordChar = s.toList.filter isWordChar := by
  constructor
  · intro t ht
    have hmem : t.toList ∈ tokenChars s.toList := by
      rw [← map_toList_tokens]
      exact List.mem_map_of_mem ht
    exact not_mem_quote_of_mem_scan hmem
  · rw [List.flatMap_def, map_toList_tokens]
    exact Apart.filter_flatten_scan (Or.inl rfl)

/-- The words in a phrase are kept, and so are those behind a quote that is never closed. -/
example : tokens "tag:x-- \"(a) b\"+c -\"d, e" = ["tag:", "x", "(a) b", "+c", "d", "e"] := by decide +kernel

end Query

end SearchQuery
