import SearchQuery.Proofs.Query.Words

/-!
# Texts without quotes

A text without quotes has bare tokens only, and these are a fixed point: with single spaces between them
they are read as the same keywords (`tokens_unquoted`).

## Shape of the argument

A word may be found behind the end of another one only if the run of characters there holds no further
word (`Apart`), and then none is found without a sign. So what is found is a word with both of its
boundaries, wherever the scanner stands (`Apart.isBareToken`). Between spaces a bare token is read as
itself, whatever its neighbours in the first text were.
-/

namespace SearchQuery.Query

open Text

/-- Where no word starts, it makes no difference what stands in front. -/
theorem tokenLength?_of_wordPart_nil {cs : List Char} (h : wordPart cs = []) (before : Option Char) :
    tokenLength? before cs = tokenLength? none cs := by
  have hword : signed wordLength? before cs = signed wordLength? none cs := by
    cases cs with
    | nil => rw [signed, signed, wordLength?_of_wordPart_nil h, wordLength?_of_wordPart_nil h]
    | cons c cs => rw [signed, signed, wordLength?_of_wordPart_nil h, wordLength?_of_wordPart_nil h]
  have hphrase : signed (fun _ => phraseLength?) before cs = signed (fun _ => phraseLength?) none cs := by
    cases cs <;> rfl
  rw [tokenLength?, tokenLength?, hword, hphrase]

theorem WithSign.mem_quote {u : List Char} (h : WithSign IsPhrase u) : '"' ∈ u := by
  rcases h with ⟨inside, -, rfl⟩ | ⟨sign, -, -, ⟨inside, -, rfl⟩, rfl⟩
  · exact List.mem_cons_self
  · exact List.mem_cons_of_mem _ List.mem_cons_self

/-- Between words, a keyword without quotes is a bare token. -/
theorem Apart.isBareToken {before : Option Char} {u rest : List Char} (h : Apart before (u ++ rest))
    (hquote : '"' ∉ u) (htoken : tokenLength? before (u ++ rest) = some u.length) : IsBareToken u := by
  obtain ⟨before, hbefore, htoken⟩ : ∃ b : Option Char, b.any isWordChar = false ∧
      tokenLength? b (u ++ rest) = some u.length := by
    rcases h with hbefore | hnil
    · exact ⟨before, hbefore, htoken⟩
    · rw [tokenLength?_of_wordPart_nil hnil] at htoken
      exact ⟨none, rfl, htoken⟩
  obtain ⟨v, tail, happend, hlength, -, hform⟩ := tokenLength?_eq_some htoken
  obtain ⟨rfl, -⟩ := List.append_inj happend hlength
  rcases hform with ⟨-, hbare⟩ | hphrase
  · exact hbare hbefore
  · exact absurd hphrase.mem_quote hquote

/-- All keywords that are found from between words on are bare tokens. -/
theorem Apart.forall_isBareToken {before : Option Char} {cs : List Char} (h : Apart before cs)
    (hquote : '"' ∉ cs) : ∀ t ∈ scan 0 before cs, IsBareToken t := by
  induction before, cs using scan_induction with
  | nil => simp [scan]
  | char before c cs htoken ih =>
    rw [scan_char htoken]
    exact ih (Or.inl (h.not_isWordChar htoken)) fun hmem => hquote (List.mem_cons_of_mem c hmem)
  | token before u rest hne htoken ih =>
    rw [List.mem_append, not_or] at hquote
    obtain ⟨last, hlast, -, hapart⟩ := exists_last_of_tokenLength? htoken
    rw [← hlast] at hapart
    rw [scan_token hne htoken, filter_quotes hquote.1, List.forall_mem_cons]
    exact ⟨h.isBareToken hquote.1 htoken, ih hapart hquote.2⟩

/-- Pieces with single spaces between them are read one by one. -/
theorem scan_intercalate_reads {ts : List (List Char)} (h : ∀ t ∈ ts, Reads t [t])
    {before : Option Char} (hbefore : before.any isWordChar = false) :
    scan 0 before ([' '].intercalate ts) = ts := by
  induction ts generalizing before with
  | nil => rfl
  | cons t ts ih =>
    rw [List.forall_mem_cons] at h
    cases ts with
    | nil =>
      obtain ⟨last, hlast⟩ := h.1 before [] hbefore (by simp)
      rw [List.append_nil] at hlast
      rw [List.intercalate_singleton, hlast]
      rfl
    | cons u ts =>
      obtain ⟨last, hlast⟩ := h.1 before (' ' :: [' '].intercalate (u :: ts)) hbefore (by simp)
      rw [List.intercalate_cons_cons, List.append_assoc, List.singleton_append, hlast, scan_space,
        ih h.2 (by decide)]
      rfl

/-- **Bare tokens are a fixed point.** All keywords of a text without quotes are words with both of their
boundaries, with or without a sign in front and a colon behind. With single spaces between them they are
read as the same keywords. -/
theorem tokens_unquoted (s : String) (h : '"' ∉ s.toList) :
    (∀ t ∈ tokens s, IsBareToken t.toList) ∧ tokens (" ".intercalate (tokens s)) = tokens s := by
  have hbare : ∀ t ∈ tokenChars s.toList, IsBareToken t := Apart.forall_isBareToken (Or.inl rfl) h
  constructor
  · intro t ht
    apply hbare
    rw [← map_toList_tokens]
    exact List.mem_map_of_mem ht
  · have htext : (" ".intercalate (tokens s)).toList = [' '].intercalate (tokenChars s.toList) := by
      rw [String.toList_intercalate, map_toList_tokens]
      rfl
    have hread : tokenChars (" ".intercalate (tokens s)).toList = tokenChars s.toList := by
      rw [htext]
      exact scan_intercalate_reads (fun t ht => reads_bareToken (hbare t ht)) rfl
    rw [tokens, hread, ← tokens]

/-- Signs and colons between the words of a text make no difference, nor does a second colon. -/
theorem tokens_unquoted_signs :
    '"' ∉ "a-- -+b::c,-d: e:+f g\n-h".toList ∧
      tokens "a-- -+b::c,-d: e:+f g\n-h" = ["a", "+b:", "c,-d:", "e:", "+f", "g\n-h"] ∧
      (∀ t ∈ ["a", "+b:", "c,-d:", "e:", "+f", "g\n-h"], IsBareToken t.toList) ∧
      tokens "a +b: c,-d: e: +f g\n-h" = ["a", "+b:", "c,-d:", "e:", "+f", "g\n-h"] := by
  have htokens : tokens "a-- -+b::c,-d: e:+f g\n-h" = ["a", "+b:", "c,-d:", "e:", "+f", "g\n-h"] := by
    decide +kernel
  have hquote : '"' ∉ "a-- -+b::c,-d: e:+f g\n-h".toList := by decide
  have hfixed := tokens_unquoted "a-- -+b::c,-d: e:+f g\n-h" hquote
  rw [htokens] at hfixed
  exact ⟨hquote, htokens, hfixed⟩

end SearchQuery.Query
