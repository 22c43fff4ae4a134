import Mathlib.Algebra.Group.Nat.Even
import SearchQuery.Proofs.Query.Meaning
import SearchQuery.Proofs.Query.Parts
import SearchQuery.Proofs.Query.Words

/-!
# A search string asks for something

A search string that is not blank asks for keywords or pairs, and the condition that it writes is empty
only if it asks for pairs alone. No keyword is empty, so that no pattern matches everything, unless the
search string holds a phrase without content: empty quotes, or quotes around a lone sign, which is taken
for the sign of a keyword (`read_asks_for_something`).

## Shape of the argument

An empty keyword is read from no character but a sign. A word has a word character, so this is a phrase.
Where a phrase starts is told by the quotes in front of it, of which there is an even number, since the
scanner takes quotes two by two and leaves one out only where no other follows
(`holdsVoidPhrase_of_mem_scan`).
-/

namespace SearchQuery

open Query Text

namespace Query

/-- The text holds a phrase without content: empty quotes, or quotes around a lone sign that have no sign
in front. Quotes open a phrase behind an even number of quotes. -/
def HoldsVoidPhrase (cs : List Char) : Prop :=
  ∃ front inside back, cs = front ++ '"' :: (inside ++ '"' :: back) ∧ Even (front.count '"') ∧
    (inside = [] ∨ front.getLast?.any isSign = false ∧ ∃ sign, isSign sign = true ∧ inside = [sign])

/-- More text in front, with its quotes in pairs and no sign at its end. -/
theorem HoldsVoidPhrase.append_left {cs : List Char} (h : HoldsVoidPhrase cs) {u : List Char}
    (heven : Even (u.count '"'))
    (hlast : u.getLast?.any isSign = true → cs.head? ≠ some '"') : HoldsVoidPhrase (u ++ cs) := by
  obtain ⟨front, inside, back, rfl, hfront, hinside⟩ := h
  refine ⟨u ++ front, inside, back, (List.append_assoc _ _ _).symm, ?_, ?_⟩
  · rw [List.count_append]
    exact heven.add hfront
  · refine hinside.imp_right fun ⟨hsign, hcontent⟩ => ⟨?_, hcontent⟩
    cases front with
    | nil =>
      rw [List.append_nil, Bool.eq_false_iff]
      exact fun hu => hlast hu rfl
    | cons c front => rwa [List.getLast?_append_cons]

/-! ## Keywords without content -/

/-- A sign is no character of a word. -/
theorem IsSignPart.not_isWordChar {t : List Char} (h : IsSignPart t) : ∀ c ∈ t, isWordChar c = false := by
  rcases h with rfl | ⟨sign, hsign, rfl⟩
  · simp
  · exact List.forall_mem_singleton.mpr (isWordChar_of_isSign hsign)

/-- A phrase that is read as a sign or as nothing has no content. -/
theorem IsPhrase.holdsVoidPhrase {front body : List Char} (h : IsPhrase body) (hfront : IsSignPart front)
    (hvoid : IsSignPart ((front ++ body).filter (· != '"'))) (rest : List Char) :
    HoldsVoidPhrase (front ++ body ++ rest) := by
  obtain ⟨inside, hquote, rfl⟩ := h
  rw [List.filter_append, filter_phrase hquote, filter_quotes hfront.not_mem_quote] at hvoid
  have hcount : Even (front.count '"') := by
    rw [List.count_eq_zero_of_not_mem hfront.not_mem_quote]
    exact Even.zero
  refine ⟨front, inside, rest, by simp, hcount, ?_⟩
  rcases hfront with rfl | ⟨sign, hsign, rfl⟩
  · exact hvoid.imp_right fun hlone => ⟨rfl, hlone⟩
  · rcases hvoid with hnil | ⟨other, -, hother⟩
    · cases hnil
    · exact Or.inl (List.cons.inj hother).2

/-- The quotes in a keyword are two or none. -/
theorem even_count_quotes {before : Option Char} {u rest : List Char}
    (h : tokenLength? before (u ++ rest) = some u.length) : Even (u.count '"') := by
  obtain ⟨front, body, hfront, rfl, hbody⟩ := found_cases h
  rw [List.count_append, List.count_eq_zero_of_not_mem hfront.not_mem_quote, Nat.zero_add]
  rcases hbody with ⟨w, hbare, -, hw⟩ | ⟨inside, hquote, rfl⟩
  · have hnone : '"' ∉ w := fun hmem => by
      have hbad := hbare _ hmem
      revert hbad
      decide
    have hbody : '"' ∉ body := by
      rcases hw with ⟨rfl, -⟩ | rfl
      · exact hnone
      · simpa using hnone
    rw [List.count_eq_zero_of_not_mem hbody]
    exact Even.zero
  · rw [List.count_cons_self, List.count_append, List.count_eq_zero_of_not_mem hquote]
    exact ⟨1, by simp⟩

/-- No keyword is found at a quote only if no other quote follows, with a sign in front or without. -/
theorem not_mem_quote_of_none {before : Option Char} {front cs : List Char} (hfront : IsSignPart front)
    (h : tokenLength? before (front ++ '"' :: cs) = none) : '"' ∉ cs := by
  intro hmem
  obtain ⟨inside, back, rfl, hinside⟩ := List.eq_append_cons_of_mem hmem
  rcases hfront with rfl | ⟨sign, hsign, rfl⟩
  · rw [List.nil_append, tokenLength?_phrase hinside] at h
    cases h
  · rw [List.singleton_append, tokenLength?_sign_phrase hsign hinside] at h
    cases h

/-- A whole word has a character of a word. -/
theorem IsWholeWord.exists_isWordChar {rest u : List Char} (h : IsWholeWord rest u) :
    ∃ c ∈ u, isWordChar c = true := by
  obtain ⟨w, -, hlast, hu⟩ := h
  obtain ⟨c, hc, hword⟩ := (Option.any_eq_true _ _).mp hlast
  have hmem : c ∈ w := List.mem_of_getLast? hc
  refine ⟨c, ?_, hword⟩
  rcases hu with ⟨rfl, -⟩ | rfl
  · exact hmem
  · exact List.mem_append_left _ hmem

/-- A keyword that is a sign or nothing is read from a phrase without content, since a word is neither. -/
theorem holdsVoidPhrase_of_token {before : Option Char} {u rest : List Char}
    (h : tokenLength? before (u ++ rest) = some u.length) (hvoid : IsSignPart (u.filter (· != '"'))) :
    HoldsVoidPhrase (u ++ rest) := by
  obtain ⟨front, body, hfront, rfl, hword | hphrase⟩ := found_cases h
  · -- The word character of a word is kept, and neither a sign nor nothing has one.
    exfalso
    obtain ⟨c, hc, hword⟩ := hword.exists_isWordChar
    have hquote : c ≠ '"' := by
      rintro rfl
      revert hword
      decide
    have hmem : c ∈ (front ++ body).filter (· != '"') :=
      List.mem_filter.mpr ⟨List.mem_append_right front hc, by simpa using hquote⟩
    rw [hvoid.not_isWordChar c hmem] at hword
    cases hword
  · exact hphrase.holdsVoidPhrase hfront hvoid rest

/-! ## Phrases further on -/

namespace HoldsVoidPhrase

theorem mem_quote {cs : List Char} (h : HoldsVoidPhrase cs) : '"' ∈ cs := by
  obtain ⟨front, inside, back, rfl, -⟩ := h
  simp

/-- Behind one quote another one closes the phrase. -/
theorem mem_quote_tail {c : Char} {cs : List Char} (h : HoldsVoidPhrase (c :: cs)) : '"' ∈ cs := by
  obtain ⟨front, inside, back, hcs, -⟩ := h
  cases front with
  | nil =>
    obtain ⟨-, rfl⟩ := List.cons.inj hcs
    simp
  | cons d front =>
    obtain ⟨-, rfl⟩ := List.cons.inj hcs
    simp

/-- A character that is left out is no quote, and no sign of the phrase. -/
theorem behind_char {before : Option Char} {c : Char} {cs : List Char} (h : HoldsVoidPhrase cs)
    (hnone : tokenLength? before (c :: cs) = none) : HoldsVoidPhrase (c :: cs) := by
  have hc : c ≠ '"' := by
    rintro rfl
    exact not_mem_quote_of_none isSignPart_nil hnone h.mem_quote
  have heven : Even ([c].count '"') := by
    rw [List.count_eq_zero_of_not_mem (by simpa using hc.symm)]
    exact Even.zero
  refine h.append_left heven ?_
  intro hsign hhead
  -- A sign in front of a phrase would have been read with it.
  obtain ⟨ds, rfl⟩ := List.head?_eq_some_iff.mp hhead
  exact not_mem_quote_of_none (Or.inr ⟨c, hsign, rfl⟩) hnone h.mem_quote_tail

/-- A keyword takes its quotes two by two and ends with no sign. -/
theorem behind_token {before : Option Char} {u rest : List Char} (h : HoldsVoidPhrase rest)
    (htoken : tokenLength? before (u ++ rest) = some u.length) : HoldsVoidPhrase (u ++ rest) := by
  refine h.append_left (even_count_quotes htoken) ?_
  obtain ⟨last, hlast, hsign, -⟩ := exists_last_of_tokenLength? htoken
  intro h
  rw [hlast, Option.any_some, hsign] at h
  cases h

end HoldsVoidPhrase

/-- A keyword that is a sign or nothing is read from a phrase without content. -/
theorem holdsVoidPhrase_of_mem_scan {before : Option Char} {cs t : List Char}
    (h : t ∈ scan 0 before cs) (hvoid : IsSignPart t) : HoldsVoidPhrase cs := by
  induction before, cs using scan_induction with
  | nil => cases h
  | char before c cs htoken ih =>
    rw [scan_char htoken] at h
    exact (ih h).behind_char htoken
  | token before u rest hne htoken ih =>
    rw [scan_token hne htoken, List.mem_cons] at h
    rcases h with rfl | h
    · exact holdsVoidPhrase_of_token htoken hvoid
    · exact (ih h).behind_token htoken

/-- Runs of white space are in no phrase without content. -/
theorem HoldsVoidPhrase.of_collapseChars {cs : List Char} (h : HoldsVoidPhrase (collapseChars cs)) :
    HoldsVoidPhrase cs := by
  have hquote : isSpace '"' = false := by decide
  obtain ⟨front, inside, back, hcs, heven, hinside⟩ := h
  obtain ⟨u, v, rfl, rfl, hv⟩ := exists_of_collapseChars_eq hquote hcs
  obtain ⟨i, b, rfl, rfl, -⟩ := exists_of_collapseChars_eq hquote hv
  rw [count_collapseChars hquote] at heven
  refine ⟨u, i, b, rfl, heven, ?_⟩
  rcases hinside with hnil | ⟨hlast, sign, hsign, hlone⟩
  · exact Or.inl (collapseChars_eq_nil.mp hnil)
  · refine Or.inr ⟨?_, sign, hsign, ?_⟩
    · -- A sign at the end stays at the end.
      rw [Bool.eq_false_iff]
      intro hu
      obtain ⟨c, hc, hcsign⟩ := (Option.any_eq_true _ _).mp hu
      obtain ⟨u, rfl⟩ := List.getLast?_eq_some_iff.mp hc
      rw [collapseChars_append_cons u (isSpace_of_isSign hcsign), List.getLast?_append_cons] at hlast
      rw [show collapseChars [] = [] from rfl, List.getLast?_singleton, Option.any_some, hcsign] at hlast
      cases hlast
    · obtain ⟨u, v, rfl, hu, hv⟩ := exists_of_collapseChars_eq (isSpace_of_isSign hsign)
        (hlone.trans (List.nil_append [sign]).symm)
      rw [collapseChars_eq_nil.mp hu, collapseChars_eq_nil.mp hv, List.nil_append]

end Query

namespace Criterion

variable {o : QueryOptions}

/-- A keyword that is asked for is read from a keyword of the search string, without its sign. -/
theorem exists_token_of_ofParts {c : Cut} {w : String}
    (h : let k := Keywords.ofParts o c.parts; w ∈ k.mandatory ++ k.negative ++ k.optional) :
    isExcluded o.exclusions w = false ∧
      ∃ t ∈ c.tokens, ∃ front, IsSignPart front ∧ t.toList = front ++ w.toList := by
  have hkind : ∀ kind? : Part → Option String, w ∈ Keywords.ofKind o kind? c.parts →
      isExcluded o.exclusions w = false ∧ ∃ p ∈ c.parts, kind? p = some w := by
    intro kind? hw
    rw [Keywords.ofKind, List.mem_filter, List.mem_filterMap] at hw
    exact ⟨by simpa using hw.2, hw.1⟩
  have htoken : ∀ p ∈ c.parts, ∀ t ∈ p.tokens, t ∈ c.tokens := fun p hp t ht =>
    List.mem_append_left _ (List.mem_flatMap.mpr ⟨p, hp, ht⟩)
  rw [List.mem_append, List.mem_append] at h
  -- Each kind has one form of a token, told by its sign.
  rcases h with (h | h) | h
  · obtain ⟨hnoise, p, hp, hw⟩ := hkind _ h
    cases p with
    | mandatory u =>
      obtain rfl : u = w := Option.some.inj hw
      exact ⟨hnoise, _, htoken _ hp _ List.mem_cons_self, ['+'], isSignPart_plus, toList_plus u⟩
    | pair | negative | optional => cases hw
  · obtain ⟨hnoise, p, hp, hw⟩ := hkind _ h
    cases p with
    | negative u =>
      obtain rfl : u = w := Option.some.inj hw
      exact ⟨hnoise, _, htoken _ hp _ List.mem_cons_self, ['-'], isSignPart_minus, toList_minus u⟩
    | pair | mandatory | optional => cases hw
  · obtain ⟨hnoise, p, hp, hw⟩ := hkind _ h
    cases p with
    | optional u =>
      obtain rfl : u = w := Option.some.inj hw
      exact ⟨hnoise, _, htoken _ hp _ List.mem_cons_self, [], isSignPart_nil, rfl⟩
    | pair | negative | mandatory => cases hw

/-- An empty keyword is read from a phrase without content, and it is no noise. -/
theorem of_empty_mem_sort {query : String}
    (h : let k := sort o query; "" ∈ k.mandatory ++ k.negative ++ k.optional) :
    isExcluded o.exclusions "" = false ∧ HoldsVoidPhrase query.toList := by
  obtain ⟨c, hfits, hc⟩ := exists_cut o (readTokens query)
  rw [sort_of_cut hfits hc] at h
  obtain ⟨hnoise, t, ht, front, hfront, heq⟩ := exists_token_of_ofParts h
  refine ⟨hnoise, HoldsVoidPhrase.of_collapseChars ?_⟩
  rw [hc, readTokens, tokens, String.toList_ofList] at ht
  obtain ⟨cs, hcs, rfl⟩ := List.mem_map.mp ht
  rw [String.toList_ofList, show "".toList = [] from rfl, List.append_nil] at heq
  exact holdsVoidPhrase_of_mem_scan hcs (heq ▸ hfront)

/-- Only the empty word is sought by a pattern that anything is like. -/
theorem containing_eq_any {w : String} (h : containing w = "%%") : w = "" := by
  have hlist := congrArg String.toList h
  rw [containing, String.toList_append, String.toList_append] at hlist
  have hw : w.toList = [] := by simpa using hlist
  exact String.toList_eq_nil_iff.mp hw

/-- **A search string asks for something.** A search string that is not blank asks for keywords or pairs,
and it has a condition unless it asks for pairs alone. Unless it holds a phrase without content, or if
empty keywords are noise, no keyword is empty, and no pattern matches everything. -/
theorem read_asks_for_something (o : QueryOptions) {query : String} (hblank : isBlank query = false)
    {fields : List String} (hfields : fields ≠ []) :
    let c := read o query
    let k := c.keywords
    k.isEmpty = false ∧
      ((c.condition fields).isEmpty = true →
        k.pairs ≠ [] ∧ k.mandatory = [] ∧ k.negative = [] ∧ k.optional = []) ∧
      (¬ HoldsVoidPhrase query.toList ∨ isExcluded o.exclusions "" = true →
        "" ∉ k.mandatory ++ k.negative ++ k.optional ∧
          Value.text "%%" ∉ (c.condition fields).params) := by
  intro c k
  have hk : k = if (sort o query).isEmpty then { optional := [query] } else sort o query := by
    show (read o query).keywords = _
    rw [read, hblank]
    rfl
  have hsome : k.isEmpty = false := by
    rw [hk]
    split
    next => rfl
    next h => simpa using h
  refine ⟨hsome, ?_, ?_⟩
  · intro hempty
    obtain ⟨hmandatory, hnegative, hoptional⟩ := (isEmpty_condition c hfields).mp hempty
    refine ⟨?_, hmandatory, hnegative, hoptional⟩
    intro hpairs
    have hnone : k.isEmpty = true := by
      rw [Keywords.isEmpty, hmandatory, hnegative, hoptional, hpairs]
      rfl
    rw [hsome] at hnone
    cases hnone
  · intro hvoid
    have hwords : "" ∉ k.mandatory ++ k.negative ++ k.optional := by
      rw [hk]
      split
      next =>
        -- The whole search string is not empty, because it is not blank.
        intro hmem
        obtain rfl : "" = query := by simpa using hmem
        cases hblank
      next =>
        intro hmem
        obtain ⟨hnoise, hholds⟩ := of_empty_mem_sort hmem
        rcases hvoid with hnone | hexcluded
        · exact hnone hholds
        · rw [hnoise] at hexcluded
          cases hexcluded
    refine ⟨hwords, ?_⟩
    intro hmem
    obtain ⟨w, hw, heq⟩ := mem_params_condition hmem
    obtain rfl := containing_eq_any (Value.text.inj heq).symm
    exact hwords hw

/-- A sign between quotes that are closed further on, and a key whose value is empty. -/
theorem read_asks_for_something_signed :
    let query := "-\"- b\" k:\"+a\""
    let c := read {} query
    isBlank query = false ∧ ["name", "note"] ≠ [] ∧ ¬ HoldsVoidPhrase query.toList ∧
      c.keywords = { negative := ["- b"], pairs := [("k", ["+a"])] } ∧
      "" ∉ c.keywords.mandatory ++ c.keywords.negative ++ c.keywords.optional ∧
      (c.condition ["name", "note"]).isEmpty = false ∧
      Value.text "%%" ∉ (c.condition ["name", "note"]).params := by
  intro query c
  have hblank : isBlank query = false := by decide +kernel
  have hfields : ["name", "note"] ≠ [] := by decide
  have hc : c.keywords = { negative := ["- b"], pairs := [("k", ["+a"])] } := by decide +kernel
  have hvoid : ¬ HoldsVoidPhrase query.toList := by
    rintro ⟨front, inside, back, hquery, -, rfl | ⟨-, sign, hsign, rfl⟩⟩
    · have hinfix : ['"', '"'] <:+: query.toList := ⟨front, back, by simp [hquery]⟩
      revert hinfix
      decide +kernel
    · have hinfix : ['"', sign, '"'] <:+: query.toList := ⟨front, back, by simp [hquery]⟩
      rw [isSign, Bool.or_eq_true, beq_iff_eq, beq_iff_eq] at hsign
      rcases hsign with rfl | rfl <;> revert hinfix <;> decide +kernel
  obtain ⟨-, hcondition, hwords⟩ := read_asks_for_something {} hblank hfields
  obtain ⟨hnone, hparams⟩ := hwords (Or.inl hvoid)
  refine ⟨hblank, hfields, hvoid, hc, hnone, ?_, hparams⟩
  rw [Bool.eq_false_iff]
  intro hempty
  have hnegative : c.keywords.negative = [] := (hcondition hempty).2.2.1
  rw [hc] at hnegative
  cases hnegative

/-- Empty quotes ask for the empty keyword, which every text holds. -/
theorem read_empty_phrase :
    isBlank "\"\"" = false ∧ (read {} "\"\"").keywords = { optional := [""] } ∧
      ((read {} "\"\"").condition ["name"]).params = [.text "%%"] := by
  have hkeywords : (read {} "\"\"").keywords = { optional := [""] } := by decide +kernel
  refine ⟨by decide +kernel, hkeywords, ?_⟩
  rw [condition, mandatoryPart, negativePart, optionalPart, hkeywords]
  rfl

end Criterion

end SearchQuery
