import SearchQuery.Proofs.Query.Scanning

/-!
# Keywords that are found

What the scanner finds is a run of characters with at most one colon, or a phrase, either with or without
a sign (`tokenLength?_eq_some`). So quotes stand at the ends of keywords only, and the keywords of a text
with single spaces have single spaces (`tidy_of_mem_tokenChars`).

The keywords are parts of the text, one behind the other (`flatten_tokenChars_sublist`). Where nothing but
quotes is left out, every keyword starts where the one in front of it ends (`scan_of_flatten_eq`).

A text without quotes is read on its own between spaces (`reads_of_no_quote`), whether it consists of
words or not.
-/

namespace SearchQuery

namespace Text

/-- What is left ends with a character that does not pass. -/
theorem getLast?_dropEndWhile (p : Char → Bool) (cs : List Char) :
    ∀ c ∈ (dropEndWhile p cs).getLast?, p c = false := by
  induction cs with
  | nil => simp [dropEndWhile]
  | cons c cs ih =>
    rw [dropEndWhile]
    split
    next hnil =>
      split
      next => simp
      next hc =>
        rintro _ ⟨⟩
        simpa using hc
    next hne =>
      obtain ⟨d, ds, hrest⟩ := List.exists_cons_of_ne_nil hne
      rw [hrest] at ih ⊢
      exact ih

end Text

namespace Query

open Text

/-- A run of characters that may stand in a word, with or without a colon behind it. -/
def IsRun (u : List Char) : Prop :=
  ∃ run, (∀ c ∈ run, isBare c = true) ∧ (u = run ∨ u = run ++ [':'])

/-- A text in quotes. -/
def IsPhrase (u : List Char) : Prop :=
  ∃ inside, '"' ∉ inside ∧ u = '"' :: (inside ++ ['"'])

/-- A text of some form, with or without a sign in front. -/
def WithSign (P : List Char → Prop) (u : List Char) : Prop :=
  P u ∨ ∃ sign v, isSign sign = true ∧ P v ∧ u = sign :: v

/-- A sign in front of what is read counts for one character. -/
theorem signed_eq_some {length? : Option Char → List Char → Option ℕ} {before : Option Char}
    {cs : List Char} {n : ℕ} (h : signed length? before cs = some n) :
    length? before cs = some n ∨ ∃ sign rest m, cs = sign :: rest ∧ isSign sign = true ∧
      length? (some sign) rest = some m ∧ n = m + 1 := by
  cases cs with
  | nil => exact Or.inl h
  | cons c cs =>
    rw [signed] at h
    split at h
    next hsign =>
      split at h
      next m hm =>
        cases h
        exact Or.inr ⟨c, cs, m, rfl, hsign, hm, rfl⟩
      next => exact Or.inl h
    next => exact Or.inl h

/-! ## Words and phrases -/

theorem wordPart_isPrefix (cs : List Char) : wordPart cs <+: cs :=
  (dropEndWhile_isPrefix _ _).trans (List.takeWhile_prefix _)

/-- The word part has no other characters than those of a word. -/
theorem isBare_of_mem_wordPart {cs : List Char} {c : Char} (h : c ∈ wordPart cs) : isBare c = true :=
  List.mem_takeWhile_imp ((dropEndWhile_isPrefix _ _).subset h)

/-- The word part ends with a character of a word. -/
theorem getLast?_wordPart {cs : List Char} (h : wordPart cs ≠ []) :
    (wordPart cs).getLast?.any isWordChar = true := by
  have hlast := getLast?_dropEndWhile (!isWordChar ·) (cs.takeWhile isBare) _
    (List.getLast?_eq_some_getLast h)
  rw [List.getLast?_eq_some_getLast h]
  simpa using hlast

/-- What is found as a word is a word, unless it is found behind a word character. -/
theorem isWord_wordPart {before : Option Char} {cs : List Char} (hbefore : before.any isWordChar = false)
    (hboundary : isBoundary before cs.head? = true) (hne : wordPart cs ≠ []) : IsWord (wordPart cs) := by
  refine ⟨fun c => isBare_of_mem_wordPart, ?_, getLast?_wordPart hne⟩
  have hhead : (wordPart cs).head? = cs.head? := by
    obtain ⟨rest, hrest⟩ := wordPart_isPrefix cs
    obtain ⟨c, w, hw⟩ := List.exists_cons_of_ne_nil hne
    rw [hw] at hrest ⊢
    rw [← hrest]
    rfl
  rw [isBoundary, hbefore] at hboundary
  rw [hhead]
  simpa using hboundary

/-- A word is found at a boundary only. It is the longest one, with the colon behind it, if there is one. -/
theorem wordLength?_cases {before : Option Char} {cs : List Char} {n : ℕ}
    (h : wordLength? before cs = some n) :
    isBoundary before cs.head? = true ∧ wordPart cs ≠ [] ∧
      ∃ u rest, cs = u ++ rest ∧ n = u.length ∧ (u = wordPart cs ∨ u = wordPart cs ++ [':']) := by
  rw [wordLength?] at h
  split at h
  next hfound =>
    cases h
    rw [Bool.and_eq_true, Bool.not_eq_true', List.isEmpty_eq_false_iff] at hfound
    refine ⟨hfound.1, hfound.2, ?_⟩
    obtain ⟨rest, hrest⟩ := wordPart_isPrefix cs
    generalize wordPart cs = w at hrest
    subst hrest
    rw [List.drop_left]
    split
    next hcolon =>
      obtain ⟨rest, rfl⟩ : ∃ tail, rest = ':' :: tail := by
        cases rest with
        | nil => cases hcolon
        | cons c rest => exact ⟨rest, by simpa using hcolon⟩
      exact ⟨w ++ [':'], rest, by simp, by simp, Or.inr rfl⟩
    next => exact ⟨w, rest, rfl, rfl, Or.inl rfl⟩
  next => cases h

/-- A word that is read is a run, and a keyword where no word goes on. -/
theorem wordLength?_eq_some {before : Option Char} {cs : List Char} {n : ℕ}
    (h : wordLength? before cs = some n) :
    ∃ u rest, cs = u ++ rest ∧ n = u.length ∧ u ≠ [] ∧ IsRun u ∧
      (before.any isWordChar = false → IsKeyword u) := by
  obtain ⟨hboundary, hne, u, rest, hcs, hn, hu⟩ := wordLength?_cases h
  have hbare : ∀ c ∈ wordPart cs, isBare c = true := fun c => isBare_of_mem_wordPart
  refine ⟨u, rest, hcs, hn, ?_, ⟨wordPart cs, hbare, hu⟩, fun hbefore => ?_⟩
  · rcases hu with rfl | rfl
    · exact hne
    · simp
  · have hword := isWord_wordPart hbefore hboundary hne
    rcases hu with rfl | rfl
    · exact Or.inl hword
    · exact Or.inr ⟨List.getLast?_concat, by simpa using hword⟩

/-- A quote that is closed has its second quote behind the text inside. -/
theorem exists_closing {cs : List Char} (h : (cs.drop (cs.takeWhile (· != '"')).length).isEmpty = false) :
    ∃ rest, '"' ∉ cs.takeWhile (· != '"') ∧ cs = cs.takeWhile (· != '"') ++ '"' :: rest := by
  have hinside : '"' ∉ cs.takeWhile (· != '"') := fun hmem => by
    simpa using List.mem_takeWhile_imp hmem
  have hcs : cs.takeWhile (· != '"') ++ cs.dropWhile (· != '"') = cs := List.takeWhile_append_dropWhile
  have hhead := List.head?_dropWhile_not (· != '"') cs
  cases hdrop : cs.dropWhile (· != '"') with
  | nil =>
    rw [hdrop, List.append_nil] at hcs
    rw [hcs] at h
    simp at h
  | cons c rest =>
    rw [hdrop] at hcs hhead
    obtain rfl : c = '"' := by simpa using hhead
    exact ⟨rest, hinside, hcs.symm⟩

/-- A phrase that is read is one. -/
theorem phraseLength?_eq_some {cs : List Char} {n : ℕ} (h : phraseLength? cs = some n) :
    ∃ u rest, cs = u ++ rest ∧ n = u.length ∧ IsPhrase u := by
  rw [phraseLength?.eq_def] at h
  split at h
  next cs =>
    dsimp only at h
    split at h
    next => cases h
    next hclosed =>
      cases h
      obtain ⟨rest, hinside, hcs⟩ := exists_closing (by simpa using hclosed)
      generalize cs.takeWhile (· != '"') = inside at hinside hcs
      subst hcs
      exact ⟨'"' :: (inside ++ ['"']), rest, by simp, by simp, inside, hinside, rfl⟩
  next => cases h

/-- **What is found** is a run or a phrase, with or without a sign in front. If it is a run, and not found
behind a word character, it is a word, with or without a colon. -/
theorem tokenLength?_eq_some {before : Option Char} {cs : List Char} {n : ℕ}
    (h : tokenLength? before cs = some n) :
    ∃ u rest, cs = u ++ rest ∧ n = u.length ∧ u ≠ [] ∧
      (WithSign IsRun u ∧ (before.any isWordChar = false → IsBareToken u) ∨ WithSign IsPhrase u) := by
  rw [tokenLength?] at h
  split at h
  next m hm =>
    cases h
    rcases signed_eq_some hm with hword | ⟨sign, rest, m, rfl, hsign, hword, rfl⟩
    · obtain ⟨u, rest, rfl, rfl, hne, hrun, hkeyword⟩ := wordLength?_eq_some hword
      exact ⟨u, rest, rfl, rfl, hne, Or.inl ⟨Or.inl hrun, fun hbefore => Or.inl (hkeyword hbefore)⟩⟩
    · obtain ⟨u, rest, rfl, rfl, -, hrun, hkeyword⟩ := wordLength?_eq_some hword
      refine ⟨sign :: u, rest, rfl, rfl, List.cons_ne_nil _ _,
        Or.inl ⟨Or.inr ⟨sign, u, hsign, hrun, rfl⟩, fun _ => Or.inr ⟨hsign, hkeyword ?_⟩⟩⟩
      exact isWordChar_of_isSign hsign
  next =>
    rcases signed_eq_some h with hlength | ⟨sign, rest, m, rfl, hsign, hlength, rfl⟩
    · obtain ⟨u, rest, rfl, rfl, hphrase⟩ := phraseLength?_eq_some hlength
      have hne : u ≠ [] := by
        obtain ⟨inside, -, rfl⟩ := hphrase
        exact List.cons_ne_nil _ _
      exact ⟨u, rest, rfl, rfl, hne, Or.inr (Or.inl hphrase)⟩
    · obtain ⟨u, rest, rfl, rfl, hphrase⟩ := phraseLength?_eq_some hlength
      exact ⟨sign :: u, rest, rfl, rfl, List.cons_ne_nil _ _, Or.inr (Or.inr ⟨sign, u, hsign, hphrase, rfl⟩)⟩

/-! ## Spaces in keywords -/

/-- A sign is no blank. -/
theorem isSpace_of_isSign {c : Char} (h : isSign c = true) : isSpace c = false := by
  rw [isSign, Bool.or_eq_true, beq_iff_eq, beq_iff_eq] at h
  rcases h with rfl | rfl <;> decide

/-- A run has no blank. -/
theorem IsRun.not_mem_space {u : List Char} (h : IsRun u) : ' ' ∉ u := by
  obtain ⟨run, hbare, hu⟩ := h
  have hrun : ' ' ∉ run := fun hmem => by
    have hspace := hbare _ hmem
    revert hspace
    decide
  rcases hu with rfl | rfl
  · exact hrun
  · simpa using hrun

/-- Without its quotes, a run or a phrase of a text with single spaces has single spaces. -/
theorem tidy_body {u : List Char} (h : IsRun u ∨ IsPhrase u) (hu : Tidy u) :
    Tidy (u.filter (· != '"')) := by
  rcases h with hrun | ⟨inside, hinside, rfl⟩
  · refine tidy_of_no_space fun c hc => Bool.eq_false_iff.mpr fun hspace => ?_
    have hmem := List.mem_of_mem_filter hc
    exact hrun.not_mem_space (hu.spaces c hmem hspace ▸ hmem)
  · rw [filter_phrase hinside]
    exact hu.of_isInfix ⟨['"'], ['"'], by simp⟩

/-- Without its quotes a token is tidy, if it was so with them. -/
theorem WithSign.tidy {P : List Char → Prop} (hP : ∀ u, P u → IsRun u ∨ IsPhrase u) {u : List Char}
    (h : WithSign P u) (hu : Tidy u) : Tidy (u.filter (· != '"')) := by
  rcases h with hu' | ⟨sign, v, hsign, hv, rfl⟩
  · exact tidy_body (hP u hu') hu
  · rw [List.filter_cons_of_pos (by simpa using not_quote_of_isSign hsign)]
    exact (tidy_body (hP v hv) (hu.of_isInfix (List.suffix_cons _ _).isInfix)).cons
      (isSpace_of_isSign hsign)

/-- What a token of a tidy text is made of is tidy. -/
theorem tidy_token {before : Option Char} {cs : List Char} {n : ℕ}
    (h : tokenLength? before cs = some n) (hcs : Tidy cs) : Tidy ((cs.take n).filter (· != '"')) := by
  obtain ⟨u, rest, rfl, rfl, -, htoken⟩ := tokenLength?_eq_some h
  have hu : Tidy u := hcs.of_isInfix (List.prefix_append u rest).isInfix
  rw [List.take_left]
  rcases htoken with ⟨hrun, -⟩ | hphrase
  · exact hrun.tidy (fun _ => Or.inl) hu
  · exact hphrase.tidy (fun _ => Or.inr) hu

/-- Every token of a tidy text is tidy, and has no quote. -/
theorem of_mem_scan {cs t : List Char} {skip : ℕ} {before : Option Char} (hcs : Tidy cs)
    (h : t ∈ scan skip before cs) : '"' ∉ t ∧ Tidy t := by
  induction cs generalizing skip before with
  | nil => cases h
  | cons c cs ih =>
    have hrest := hcs.of_isInfix (List.suffix_cons c cs).isInfix
    cases skip with
    | succ skip =>
      rw [scan] at h
      exact ih hrest h
    | zero =>
      rw [scan] at h
      split at h
      next n hn =>
        rcases List.mem_cons.mp h with rfl | h
        · exact ⟨by simp, tidy_token hn hcs⟩
        · exact ih hrest h
      next => exact ih hrest h

/-- The keywords of a text with single spaces have single spaces and no quotes. -/
theorem tidy_of_mem_tokenChars {cs t : List Char} (hcs : Tidy cs) (h : t ∈ tokenChars cs) :
    '"' ∉ t ∧ Tidy t :=
  of_mem_scan hcs h

/-! ## What is left out -/

/-- Tokens are made of characters of the text, in their order. -/
theorem flatten_scan_sublist (skip : ℕ) (before : Option Char) (cs : List Char) :
    (scan skip before cs).flatten.Sublist ((cs.drop skip).filter (· != '"')) := by
  induction cs generalizing skip before with
  | nil => simp [scan]
  | cons c cs ih =>
    cases skip with
    | succ skip => exact ih skip (some c)
    | zero =>
      rw [scan]
      split
      next n hn =>
        obtain ⟨u, rest, hcs, rfl, hne, -⟩ := tokenLength?_eq_some hn
        obtain ⟨d, v, rfl⟩ := List.exists_cons_of_ne_nil hne
        rw [List.cons_append] at hcs
        obtain ⟨rfl, rfl⟩ := List.cons.inj hcs
        have hrest := ih v.length (some c)
        rw [List.drop_left] at hrest
        rw [List.flatten_cons, List.drop_zero, ← List.cons_append, List.take_left, List.filter_append]
        exact (List.Sublist.refl _).append hrest
      next =>
        have hskip := ih 0 (some c)
        exact hskip.trans ((List.sublist_cons_self c cs).filter _)

/-- The keywords of a text are parts of it, one behind the other, without quotes. -/
theorem flatten_tokenChars_sublist (cs : List Char) :
    (tokenChars cs).flatten.Sublist (cs.filter (· != '"')) :=
  flatten_scan_sublist 0 none cs

/-- No token is empty where there is no quote. -/
theorem ne_nil_of_mem_scan {cs t : List Char} {skip : ℕ} {before : Option Char} (hquote : '"' ∉ cs)
    (h : t ∈ scan skip before cs) : t ≠ [] := by
  induction cs generalizing skip before with
  | nil => cases h
  | cons c cs ih =>
    have hrest : '"' ∉ cs := fun hmem => hquote (List.mem_cons_of_mem c hmem)
    cases skip with
    | succ skip =>
      rw [scan] at h
      exact ih hrest h
    | zero =>
      rw [scan] at h
      split at h
      next n hn =>
        rcases List.mem_cons.mp h with rfl | h
        · obtain ⟨u, v, hcs, rfl, hne, -⟩ := tokenLength?_eq_some hn
          have hu : '"' ∉ u := fun hmem => hquote (hcs ▸ List.mem_append_left v hmem)
          rw [hcs, List.take_left, filter_quotes hu]
          exact hne
        · exact ih hrest h
      next => exact ih hrest h

/-- Only a phrase can be empty. -/
theorem ne_nil_of_mem_tokenChars {cs t : List Char} (hquote : '"' ∉ cs) (h : t ∈ tokenChars cs) : t ≠ [] :=
  ne_nil_of_mem_scan hquote h

/-- Where nothing is left out of a text without quotes, it starts with a keyword. Its only colon is the last
character, and behind a character of no word it is a word, with or without a sign and a colon. -/
theorem scan_of_flatten_eq {before : Option Char} {cs : List Char} (hquote : '"' ∉ cs) (hne : cs ≠ [])
    (h : (scan 0 before cs).flatten = cs) :
    ∃ t rest, cs = t ++ rest ∧ scan 0 before cs = t :: scan 0 t.getLast? rest ∧ WithSign IsRun t ∧
      (before.any isWordChar = false → IsBareToken t) ∧ (scan 0 t.getLast? rest).flatten = rest := by
  obtain ⟨c, cs, rfl⟩ := List.exists_cons_of_ne_nil hne
  cases hn : tokenLength? before (c :: cs) with
  | none =>
    -- The first character is left out, so there are too few of them.
    have hscan : scan 0 before (c :: cs) = scan 0 (some c) cs := by rw [scan, hn]
    have hlength := (flatten_scan_sublist 0 (some c) cs).length_le.trans (List.length_filter_le _ _)
    rw [← hscan, h, List.drop_zero, List.length_cons] at hlength
    omega
  | some n =>
    obtain ⟨t, rest, hcs, rfl, htne, htoken⟩ := tokenLength?_eq_some hn
    rw [hcs] at hn h hquote ⊢
    have hfilter : t.filter (· != '"') = t := filter_quotes fun hmem => hquote (List.mem_append_left _ hmem)
    have hscan := scan_token htne hn
    rw [hfilter] at hscan
    rw [hscan, List.flatten_cons, List.append_cancel_left_eq] at h
    rcases htoken with ⟨hrun, hbare⟩ | hphrase
    · exact ⟨t, rest, rfl, hscan, hrun, hbare, h⟩
    · -- There are no quotes, so it is no phrase.
      exfalso
      refine hquote (List.mem_append_left _ ?_)
      rcases hphrase with ⟨inside, -, rfl⟩ | ⟨sign, v, -, ⟨inside, -, rfl⟩, rfl⟩
      · simp
      · simp

/-! ## Texts without quotes -/

/-- A word ends where no character follows that could go on with it. -/
theorem wordLength?_append (before : Option Char) (u : List Char) {rest : List Char}
    (hrest : ∀ c ∈ rest.head?, isBare c = false ∧ c ≠ ':') :
    wordLength? before (u ++ rest) = wordLength? before u := by
  have hpart := wordPart_append u fun c hc => (hrest c hc).1
  by_cases hne : wordPart u = []
  · rw [wordLength?_of_wordPart_nil (hpart.trans hne), wordLength?_of_wordPart_nil hne]
  · have hcolon : (((u ++ rest).drop (wordPart u).length).head? == some ':') =
        ((u.drop (wordPart u).length).head? == some ':') := by
      rw [List.drop_append_of_le_length (wordPart_isPrefix u).length_le]
      cases u.drop (wordPart u).length with
      | nil =>
        cases rest with
        | nil => rfl
        | cons c rest => simpa using (hrest c rfl).2
      | cons c v => rfl
    have hhead : (u ++ rest).head? = u.head? := by
      cases u with
      | nil => exact absurd rfl hne
      | cons c u => rfl
    rw [wordLength?, wordLength?, hpart, hhead, hcolon]

/-- No phrase starts without a quote. -/
theorem phraseLength?_of_head {cs : List Char} (h : cs.head? ≠ some '"') : phraseLength? cs = none := by
  rw [phraseLength?.eq_def]
  split
  next => exact absurd rfl h
  next => rfl

/-- A text without quotes may end in front of a space, and in front of a phrase unless there is a sign. -/
def EndsBefore (u rest : List Char) : Prop :=
  ∀ c ∈ rest.head?, c = ' ' ∨ c = '"' ∧ u.getLast?.any isSign = false

/-- What ends there is followed by nothing that could go on with a word. -/
theorem EndsBefore.not_bare {u rest : List Char} (h : EndsBefore u rest) :
    ∀ c ∈ rest.head?, isBare c = false ∧ c ≠ ':' := by
  intro c hc
  rcases h c hc with rfl | ⟨rfl, -⟩ <;> decide

/-- The rest of a text ends where the text does. -/
theorem EndsBefore.tail {c : Char} {u rest : List Char} (h : EndsBefore (c :: u) rest) :
    EndsBefore u rest := by
  intro d hd
  refine (h d hd).imp_right fun ⟨hquote, hsign⟩ => ⟨hquote, ?_⟩
  cases u with
  | nil => rfl
  | cons e u => exact hsign

/-- A token of the front is read as if nothing followed it. -/
theorem tokenLength?_append (before : Option Char) {c : Char} {u rest : List Char} (hquote : '"' ∉ c :: u)
    (h : EndsBefore (c :: u) rest) :
    tokenLength? before (c :: (u ++ rest)) = tokenLength? before (c :: u) := by
  rw [List.mem_cons, not_or] at hquote
  have hword (b : Option Char) : wordLength? b (u ++ rest) = wordLength? b u :=
    wordLength?_append b u h.not_bare
  have hwordAt (b : Option Char) : wordLength? b (c :: (u ++ rest)) = wordLength? b (c :: u) :=
    wordLength?_append b (c :: u) h.not_bare
  have hphraseAt (v : List Char) : phraseLength? (c :: v) = none :=
    phraseLength?_of_head (by simpa using Ne.symm hquote.1)
  have hphrase (hsign : isSign c = true) : phraseLength? (u ++ rest) = phraseLength? u := by
    cases u with
    | nil =>
      refine phraseLength?_of_head fun hhead => ?_
      rcases h '"' hhead with hspace | ⟨-, hlast⟩
      · revert hspace
        decide
      · exact Bool.false_ne_true (hlast.symm.trans hsign)
    | cons d u =>
      have hd : d ≠ '"' := by
        rintro rfl
        exact hquote.2 List.mem_cons_self
      rw [phraseLength?_of_head (by simpa using hd), phraseLength?_of_head (by simpa using hd)]
  rw [tokenLength?, tokenLength?, signed, signed, signed, signed]
  by_cases hsign : isSign c = true
  · simp only [if_pos hsign, hword, hwordAt, hphrase hsign, hphraseAt]
  · simp only [if_neg hsign, hwordAt, hphraseAt]

/-- Tokens of a front are read as if nothing followed it. -/
theorem scan_append {u rest : List Char} (hquote : '"' ∉ u) (h : EndsBefore u rest) (skip : ℕ)
    (hskip : skip ≤ u.length) (before : Option Char) :
    ∃ last, scan skip before (u ++ rest) = scan skip before u ++ scan 0 last rest := by
  -- Characters of a token that was found are skipped, so the induction goes over all counts that are left.
  induction u generalizing skip before with
  | nil =>
    obtain rfl : skip = 0 := Nat.le_zero.mp hskip
    exact ⟨before, rfl⟩
  | cons c u ih =>
    have hu : '"' ∉ u := fun hmem => hquote (List.mem_cons_of_mem c hmem)
    have hrest := fun skip hskip => ih hu h.tail skip hskip (some c)
    rw [List.length_cons] at hskip
    cases skip with
    | succ skip => exact hrest skip (Nat.le_of_succ_le_succ hskip)
    | zero =>
      rw [List.cons_append, scan, scan, tokenLength?_append before hquote h]
      cases hn : tokenLength? before (c :: u) with
      | none => exact hrest 0 (Nat.zero_le _)
      | some n =>
        obtain ⟨t, v, htext, rfl, -, -⟩ := tokenLength?_eq_some hn
        have hlength : t.length ≤ u.length + 1 := by
          rw [← List.length_cons, htext, List.length_append]
          exact Nat.le_add_right _ _
        obtain ⟨last, hlast⟩ := hrest (t.length - 1) (by omega)
        refine ⟨last, ?_⟩
        have htake : (c :: (u ++ rest)).take t.length = (c :: u).take t.length := by
          rw [← List.cons_append, List.take_append_of_le_length (by simpa using hlength)]
        dsimp only
        rw [hlast, htake, List.cons_append]

/-- What stands before a token only counts if a word may go on. -/
theorem tokenLength?_before {before : Option Char} (h : before.any isWordChar = false) (cs : List Char) :
    tokenLength? before cs = tokenLength? none cs := by
  have hword (cs : List Char) : wordLength? before cs = wordLength? none cs := by
    rw [wordLength?, wordLength?, isBoundary, isBoundary, h]
    rfl
  cases cs with
  | nil => rw [tokenLength?, tokenLength?, signed, signed, hword, signed, signed]
  | cons c cs => rw [tokenLength?, tokenLength?, signed, signed, hword, signed, signed]

/-- So a text behind anything else is read as if it came first. -/
theorem scan_before {before : Option Char} (h : before.any isWordChar = false) (cs : List Char) :
    scan 0 before cs = tokenChars cs := by
  cases cs with
  | nil => rfl
  | cons c cs => rw [tokenChars, scan, scan, tokenLength?_before h]

/-- A text without quotes is read on its own. -/
theorem reads_of_no_quote {u : List Char} (h : '"' ∉ u) : Reads u (tokenChars u) := by
  intro before rest hbefore hrest
  obtain ⟨last, hlast⟩ := scan_append h (fun c hc => Or.inl (hrest c hc)) 0 (Nat.zero_le _) before
  exact ⟨last, by rw [hlast, scan_before hbefore]⟩

/-- A phrase is read on its own, whatever stands in front of it, except a sign. -/
theorem reads_behind {front inside : List Char} (hfront : '"' ∉ front) (hinside : '"' ∉ inside)
    (hsign : front.getLast?.any isSign = false) :
    Reads (front ++ '"' :: (inside ++ ['"'])) (tokenChars front ++ [inside]) := by
  intro before rest hbefore hrest
  have hends : EndsBefore front ('"' :: (inside ++ ['"']) ++ rest) := by
    rintro _ ⟨⟩
    exact Or.inr ⟨rfl, hsign⟩
  obtain ⟨last, hlast⟩ := scan_append hfront hends 0 (Nat.zero_le _) before
  have hphrase : tokenLength? last ('"' :: (inside ++ ['"']) ++ rest) =
      some ('"' :: (inside ++ ['"'])).length := by
    simpa using tokenLength?_phrase hinside last rest
  have hscan := scan_token (List.cons_ne_nil _ _) hphrase
  rw [List.append_assoc, hlast, scan_before hbefore, hscan, filter_phrase hinside]
  exact ⟨_, (List.append_assoc (tokenChars front) [inside] _).symm⟩

/-- The same, where a key stands in front of it. -/
theorem reads_key_phrase {key inside : List Char} (hkey : '"' ∉ key) (hinside : '"' ∉ inside) :
    Reads (key ++ ':' :: '"' :: (inside ++ ['"'])) (tokenChars (key ++ [':']) ++ [inside]) := by
  have hquote : '"' ∉ key ++ [':'] := by simpa using hkey
  have hcolon : (key ++ [':']).getLast?.any isSign = false := by
    rw [List.getLast?_concat]
    decide
  have hreads := reads_behind hquote hinside hcolon
  rwa [List.append_assoc] at hreads

/-! ## Signs -/

/-- A sign, or nothing. -/
def IsSignPart (front : List Char) : Prop :=
  front = [] ∨ ∃ sign, isSign sign = true ∧ front = [sign]

theorem isSignPart_nil : IsSignPart [] :=
  Or.inl rfl

theorem isSignPart_plus : IsSignPart ['+'] :=
  Or.inr ⟨'+', by decide, rfl⟩

theorem isSignPart_minus : IsSignPart ['-'] :=
  Or.inr ⟨'-', by decide, rfl⟩

namespace IsSignPart

variable {front : List Char} (h : IsSignPart front)

include h

/-- A sign has no quote. -/
theorem not_mem_quote : '"' ∉ front := by
  rcases h with rfl | ⟨sign, hsign, rfl⟩
  · exact List.not_mem_nil
  · simpa using (not_quote_of_isSign hsign).symm

/-- A tight text is tight behind a sign. -/
theorem tight {cs : List Char} (hcs : Tight cs) : Tight (front ++ cs) := by
  rcases h with rfl | ⟨sign, hsign, rfl⟩
  · exact hcs
  · exact hcs.cons (isSpace_of_isSign hsign)

/-- A phrase is read behind a sign. -/
theorem reads_phrase {inside : List Char} (hinside : '"' ∉ inside) :
    Reads (front ++ '"' :: (inside ++ ['"'])) [front ++ inside] := by
  rcases h with rfl | ⟨sign, hsign, rfl⟩
  · exact Query.reads_phrase hinside
  · exact reads_sign_phrase hsign hinside

/-- A keyword is read behind a sign. -/
theorem reads_keyword {t : List Char} (ht : IsKeyword t) : Reads (front ++ t) [front ++ t] := by
  rcases h with rfl | ⟨sign, hsign, rfl⟩
  · exact Query.reads_keyword ht
  · exact reads_sign_keyword hsign ht

/-- Behind its sign, a word stands without a sign. -/
theorem isKeyword {t : List Char} (ht : IsBareToken (front ++ t))
    (hunsigned : front = [] → t.head?.any isSign = false) : IsKeyword t := by
  rcases h with rfl | ⟨sign, hsign, rfl⟩
  · rcases ht with hword | ⟨hsigned, -⟩
    · exact hword
    · exact absurd (hsigned.symm.trans (hunsigned rfl)) Bool.false_ne_true.symm
  · rcases ht with hword | ⟨-, hword⟩
    · exact absurd hsign (Bool.eq_false_iff.mp hword.not_sign)
    · exact hword

end IsSignPart

/-! ## Nothing left out -/

/-- A run has a colon at its end only. -/
theorem IsRun.colon_last {u front back : List Char} (h : IsRun u) (hu : u = front ++ ':' :: back) :
    back = [] := by
  obtain ⟨run, hbare, hrun⟩ := h
  have hcolon : ':' ∉ run := fun hmem => by
    have hbad := hbare _ hmem
    revert hbad
    decide
  rcases hrun with rfl | rfl
  · exact absurd (by simp [hu]) hcolon
  · by_contra hback
    have hdrop := congrArg List.dropLast hu
    rw [List.dropLast_concat, List.dropLast_append_of_ne_nil (List.cons_ne_nil _ _),
      List.dropLast_cons_of_ne_nil hback] at hdrop
    exact absurd (by simp [hdrop]) hcolon

/-- A run has a colon at its end only. -/
theorem WithSign.colon_last {u front back : List Char} (h : WithSign IsRun u)
    (hu : u = front ++ ':' :: back) : back = [] := by
  rcases h with hrun | ⟨sign, v, hsign, hrun, rfl⟩
  · exact hrun.colon_last hu
  · cases front with
    | nil =>
      obtain ⟨rfl, -⟩ := List.cons.inj hu
      exact absurd hsign (by decide)
    | cons c front =>
      obtain ⟨-, hv⟩ := List.cons.inj hu
      exact hrun.colon_last hv

/-- If nothing is left out of a text and it is read as one keyword, this is a word, with or without a sign
and a colon. -/
theorem isBareToken_of_flatten_eq {u : List Char} (hquote : '"' ∉ u) (hne : u ≠ [])
    (h : (tokenChars u).flatten = u) :
    1 ≤ (tokenChars u).length ∧ ((tokenChars u).length = 1 → IsBareToken u) := by
  obtain ⟨t, rest, rfl, hscan, -, hbare, hrest⟩ := scan_of_flatten_eq hquote hne h
  rw [tokenChars, hscan, List.length_cons]
  refine ⟨Nat.succ_le_succ (Nat.zero_le _), fun hlength => ?_⟩
  have hnil : scan 0 t.getLast? rest = [] := List.length_eq_zero_iff.mp (Nat.succ.inj hlength)
  obtain rfl : [] = rest := by rwa [hnil] at hrest
  rw [List.append_nil]
  exact hbare rfl

/-- If nothing is left out of a pair, it is read as two keywords at least; and if it is read as two, they are
the key and the value. -/
theorem isBareToken_pair_of_flatten_eq {key value : List Char} (hquote : '"' ∉ key ++ ':' :: value)
    (hvalue : value ≠ []) (h : (tokenChars (key ++ ':' :: value)).flatten = key ++ ':' :: value) :
    2 ≤ (tokenChars (key ++ ':' :: value)).length ∧
      ((tokenChars (key ++ ':' :: value)).length = 2 → IsBareToken (key ++ [':']) ∧ IsBareToken value) := by
  obtain ⟨t, rest, hu, hscan, hrun, hbare, hrest⟩ := scan_of_flatten_eq hquote (by simp) h
  have hne : rest ≠ [] := by
    rintro rfl
    rw [List.append_nil] at hu
    exact hvalue (hrun.colon_last hu.symm)
  have hrestQuote : '"' ∉ rest := fun hmem => hquote (hu ▸ List.mem_append_right t hmem)
  obtain ⟨t₂, rest₂, rfl, hscan₂, hrun₂, hbare₂, hrest₂⟩ := scan_of_flatten_eq hrestQuote hne hrest
  rw [tokenChars, hscan, hscan₂, List.length_cons, List.length_cons]
  refine ⟨by omega, fun hlength => ?_⟩
  have hnil : scan 0 t₂.getLast? rest₂ = [] := List.length_eq_zero_iff.mp (by omega)
  obtain rfl : [] = rest₂ := by rwa [hnil] at hrest₂
  rw [List.append_nil] at hu
  -- Each of the two has at most one colon, at its end, and the value is not empty.
  rcases List.append_eq_append_iff.mp hu with ⟨seam, rfl, hback⟩ | ⟨seam, rfl, hback⟩
  · cases seam with
    | nil =>
      have hcolon : t₂ = [] ++ ':' :: value := hback.symm
      exact absurd (hrun₂.colon_last hcolon) hvalue
    | cons c seam =>
      obtain ⟨rfl, rfl⟩ := List.cons.inj hback
      obtain rfl := hrun.colon_last rfl
      refine ⟨hbare rfl, hbare₂ ?_⟩
      rw [List.getLast?_concat]
      decide
  · exact absurd (hrun₂.colon_last hback) hvalue

end Query

end SearchQuery
