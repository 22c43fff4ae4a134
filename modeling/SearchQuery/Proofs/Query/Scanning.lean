import Mathlib.Data.List.Chain
import Mathlib.Data.List.Infix
import Mathlib.Data.List.TakeWhile
import SearchQuery.Query.Token

/-!
# Scanning keywords

What the scanner makes of a text is said piece by piece. A piece that stands between spaces is read as
the same keywords whatever stands around it (`Reads`), and so a text that is made of such pieces is read
piece by piece (`tokenChars_intercalate`). How many spaces there are does not matter, as long as no piece
has more than one.

## Shape of the argument

`tokenLength?` is computed for the four kinds of keywords, words and phrases with and without a sign. A
piece that is one keyword is read as this keyword, and a key with its colon is read on its own.
-/

namespace SearchQuery

namespace Text

/-- Nothing is dropped from an end that does not pass. -/
theorem dropEndWhile_of_getLast {p : Char → Bool} {cs : List Char} (h : ∀ c ∈ cs.getLast?, p c = false) :
    dropEndWhile p cs = cs := by
  induction cs with
  | nil => rfl
  | cons c cs ih =>
    rw [dropEndWhile]
    cases cs with
    | nil =>
      rw [dropEndWhile, h c rfl]
      rfl
    | cons d ds => rw [ih h]

/-- What is left is the front of the text. -/
theorem dropEndWhile_isPrefix (p : Char → Bool) (cs : List Char) : dropEndWhile p cs <+: cs := by
  induction cs with
  | nil => exact List.nil_prefix
  | cons c cs ih =>
    rw [dropEndWhile]
    split
    next =>
      split
      · exact List.nil_prefix
      · exact (List.prefix_cons_inj c).mpr List.nil_prefix
    next => exact (List.prefix_cons_inj c).mpr ih

/-! ## Single spaces -/

/-- All white space of the text is single spaces. -/
structure Tidy (cs : List Char) : Prop where
  spaces : ∀ c ∈ cs, isSpace c = true → c = ' '
  single : cs.IsChain fun c d => ¬ (isSpace c = true ∧ isSpace d = true)

/-- Parts of a tidy text are tidy. -/
theorem Tidy.of_isInfix {u cs : List Char} (h : Tidy cs) (hu : u <:+: cs) : Tidy u :=
  ⟨fun c hc => h.spaces c (hu.subset hc), h.single.infix hu⟩

/-- The empty text is tidy. -/
theorem tidy_nil : Tidy [] :=
  ⟨by simp, by simp⟩

/-- A character that is no blank may stand in front of a tidy text. -/
theorem Tidy.cons {c : Char} {cs : List Char} (h : Tidy cs) (hc : isSpace c = false) : Tidy (c :: cs) := by
  refine ⟨List.forall_mem_cons.mpr ⟨fun hspace => ?_, h.spaces⟩,
    List.isChain_cons.mpr ⟨fun d _ hspaces => ?_, h.single⟩⟩
  · rw [hc] at hspace
    cases hspace
  · rw [hc] at hspaces
    cases hspaces.1

/-- So may a blank, unless another one follows. -/
theorem Tidy.space_cons {cs : List Char} (h : Tidy cs) (hcs : ∀ c ∈ cs.head?, isSpace c = false) :
    Tidy (' ' :: cs) := by
  refine ⟨List.forall_mem_cons.mpr ⟨fun _ => rfl, h.spaces⟩,
    List.isChain_cons.mpr ⟨fun c hc hspaces => ?_, h.single⟩⟩
  rw [hcs c hc] at hspaces
  cases hspaces.2

/-- A text without blanks is tidy. -/
theorem tidy_of_no_space {cs : List Char} (h : ∀ c ∈ cs, isSpace c = false) : Tidy cs := by
  induction cs with
  | nil => exact tidy_nil
  | cons c cs ih =>
    rw [List.forall_mem_cons] at h
    exact (ih h.2).cons h.1

/-- Tidy texts can be joined where the second one starts with no blank. -/
theorem Tidy.append_cons {u v : List Char} {c : Char} (hu : Tidy u) (hv : Tidy (c :: v))
    (hc : isSpace c = false) : Tidy (u ++ c :: v) := by
  refine ⟨List.forall_mem_append.mpr ⟨hu.spaces, hv.spaces⟩,
    List.isChain_append.mpr ⟨hu.single, hv.single, ?_⟩⟩
  rintro d hd _ ⟨⟩ ⟨-, hspace⟩
  rw [hc] at hspace
  cases hspace

/-- The text has single spaces, and none at its end. -/
structure Tight (cs : List Char) : Prop where
  tidy : Tidy cs
  ends : ∀ c ∈ cs.getLast?, isSpace c = false

/-- A text without blanks is tight. -/
theorem tight_of_no_space {cs : List Char} (h : ∀ c ∈ cs, isSpace c = false) : Tight cs :=
  ⟨tidy_of_no_space h, fun c hc => h c (List.mem_of_getLast? hc)⟩

/-- A text with single spaces may be put between any characters but white space. -/
theorem Tidy.between {cs : List Char} (h : Tidy cs) {c d : Char} (hc : isSpace c = false)
    (hd : isSpace d = false) : Tight (c :: (cs ++ [d])) := by
  refine ⟨(h.append_cons (tidy_nil.cons hd) hd).cons hc, ?_⟩
  rw [← List.cons_append, List.getLast?_concat]
  rintro _ ⟨⟩
  exact hd

/-- What stands in front of a tight text may have a space at its end, but not at the seam. -/
theorem Tidy.append_tight {u v : List Char} {c : Char} (hu : Tidy u) (hv : Tight (c :: v))
    (hc : isSpace c = false) : Tight (u ++ c :: v) := by
  refine ⟨hu.append_cons hv.tidy hc, ?_⟩
  rw [List.getLast?_append_cons]
  exact hv.ends

/-- A character that is no blank may stand in front of a tight text. -/
theorem Tight.cons {cs : List Char} (h : Tight cs) {c : Char} (hc : isSpace c = false) : Tight (c :: cs) := by
  refine ⟨h.tidy.cons hc, ?_⟩
  cases cs with
  | nil =>
    rintro _ ⟨⟩
    exact hc
  | cons d ds => exact h.ends

/-! ## Runs of spaces -/

/-- A character that is no blank stays as it is. -/
theorem collapseChars_cons {c : Char} (hc : isSpace c = false) (cs : List Char) :
    collapseChars (c :: cs) = c :: collapseChars cs := by
  rw [collapseChars.eq_def]
  simp only [hc, Bool.false_eq_true, if_false]

/-- A single blank becomes a space. -/
theorem collapseChars_space_cons {c : Char} (hc : isSpace c = true) {cs : List Char}
    (hcs : ∀ d ∈ cs.head?, isSpace d = false) : collapseChars (c :: cs) = ' ' :: collapseChars cs := by
  rw [collapseChars.eq_def]
  cases cs with
  | nil =>
    simp only [hc, if_true]
    rfl
  | cons d ds => simp only [hc, hcs d rfl, Bool.false_eq_true, if_true, if_false]

/-- Of two blanks one is left. -/
theorem collapseChars_spaces {c d : Char} (hc : isSpace c = true) (hd : isSpace d = true)
    (cs : List Char) : collapseChars (c :: d :: cs) = collapseChars (d :: cs) := by
  rw [collapseChars.eq_def]
  simp only [hc, hd, if_true]

/-- A text that starts with a blank starts with a space then. -/
theorem exists_collapseChars_space {c : Char} (hc : isSpace c = true) (cs : List Char) :
    ∃ rest, collapseChars (c :: cs) = ' ' :: rest := by
  induction cs generalizing c with
  | nil => exact ⟨_, collapseChars_space_cons hc (by simp)⟩
  | cons d ds ih =>
    cases hd : isSpace d with
    | false => exact ⟨_, collapseChars_space_cons hc (by simpa using hd)⟩
    | true =>
      rw [collapseChars_spaces hc hd]
      exact ih hd

/-- A tight text stays as it is, whatever stands behind it. -/
theorem Tight.collapseChars_append {u : List Char} (h : Tight u) (v : List Char) :
    collapseChars (u ++ v) = u ++ collapseChars v := by
  induction u with
  | nil => rfl
  | cons c u ih =>
    have hu : Tight u := ⟨h.tidy.of_isInfix (List.suffix_cons c u).isInfix, fun d hd => by
      cases u with
      | nil => cases hd
      | cons e u => exact h.ends d hd⟩
    cases hc : isSpace c with
    | false => rw [List.cons_append, collapseChars_cons hc, ih hu, List.cons_append]
    | true =>
      obtain rfl := h.tidy.spaces c List.mem_cons_self hc
      cases u with
      | nil =>
        have hends := h.ends ' ' rfl
        rw [hc] at hends
        cases hends
      | cons d u =>
        have hd : isSpace d = false := by
          simpa [hc] using (List.isChain_cons.mp h.tidy.single).1 d rfl
        rw [List.cons_append, collapseChars_space_cons hc (by simpa using hd), ih hu]
        rfl

/-- What is left is tidy. -/
theorem tidy_collapseChars (cs : List Char) : Tidy (collapseChars cs) := by
  fun_induction collapseChars cs with
  | case1 => exact tidy_nil
  | case2 c hc d ds hd ih => exact ih
  | case3 c hc d ds hd ih =>
    refine ih.space_cons ?_
    have hd : isSpace d = false := by simpa using hd
    rw [collapseChars_cons hd]
    rintro e ⟨⟩
    exact hd
  | case4 c hc => exact tidy_nil.space_cons (by simp)
  | case5 c cs hc ih => exact ih.cons (by simpa using hc)

/-- Single spaces for runs of white space are put on either side of any other character by itself. -/
theorem collapseChars_append_cons (u : List Char) {c : Char} (hc : isSpace c = false) (v : List Char) :
    collapseChars (u ++ c :: v) = collapseChars u ++ c :: collapseChars v := by
  fun_induction collapseChars u with
  | case1 => exact collapseChars_cons hc v
  | case2 d hd e us he ih =>
    rw [List.cons_append, List.cons_append, collapseChars_spaces hd he]
    exact ih
  | case3 d hd e us he ih =>
    rw [List.cons_append, collapseChars_space_cons hd (by simpa using he), ih]
    rfl
  | case4 d hd =>
    rw [List.cons_append, List.nil_append, collapseChars_space_cons hd (by simpa using hc),
      collapseChars_cons hc]
    rfl
  | case5 d us hd ih =>
    rw [List.cons_append, collapseChars_cons (by simpa using hd), ih]
    rfl

/-- A character other than white space was there before. -/
theorem exists_of_collapseChars_eq {cs front tail : List Char} {c : Char} (hc : isSpace c = false)
    (h : collapseChars cs = front ++ c :: tail) :
    ∃ u v, cs = u ++ c :: v ∧ collapseChars u = front ∧ collapseChars v = tail := by
  have hspace : c ≠ ' ' := by
    rintro rfl
    revert hc
    decide
  -- The cases are those of the definition: two blanks, one blank, or none in front.
  induction cs using collapseChars.induct generalizing front with
  | case1 => simp [collapseChars] at h
  | case2 d hd e us he ih =>
    rw [collapseChars_spaces hd he] at h
    obtain ⟨u, v, hcs, rfl, hv⟩ := ih h
    cases u with
    | nil =>
      obtain ⟨rfl, -⟩ := List.cons.inj hcs
      rw [hc] at he
      cases he
    | cons b u =>
      obtain ⟨rfl, rfl⟩ := List.cons.inj hcs
      exact ⟨d :: e :: u, v, rfl, collapseChars_spaces hd he u, hv⟩
  | case3 d hd e us he ih =>
    rw [collapseChars_space_cons hd (by simpa using he)] at h
    cases front with
    | nil => exact absurd (List.cons.inj h).1.symm hspace
    | cons b front =>
      obtain ⟨rfl, hrest⟩ := List.cons.inj h
      obtain ⟨u, v, hcs, rfl, hv⟩ := ih hrest
      refine ⟨d :: u, v, by rw [hcs]; rfl, collapseChars_space_cons hd ?_, hv⟩
      intro b hb
      cases u with
      | nil => cases hb
      | cons b' u =>
        obtain ⟨rfl, -⟩ := List.cons.inj hcs
        obtain rfl : e = b := by simpa using hb
        simpa using he
  | case4 d hd =>
    rw [collapseChars_space_cons hd (by simp)] at h
    cases front with
    | nil => exact absurd (List.cons.inj h).1.symm hspace
    | cons b front => simp [collapseChars] at h
  | case5 d us hd ih =>
    have hd : isSpace d = false := by simpa using hd
    rw [collapseChars_cons hd] at h
    cases front with
    | nil =>
      obtain ⟨rfl, hv⟩ := List.cons.inj h
      exact ⟨[], us, rfl, rfl, hv⟩
    | cons b front =>
      obtain ⟨rfl, hrest⟩ := List.cons.inj h
      obtain ⟨u, v, rfl, rfl, hv⟩ := ih hrest
      exact ⟨d :: u, v, rfl, collapseChars_cons hd u, hv⟩

/-- Nothing is left of nothing only. -/
theorem collapseChars_eq_nil {cs : List Char} : collapseChars cs = [] ↔ cs = [] := by
  refine ⟨?_, by rintro rfl; rfl⟩
  intro h
  cases cs with
  | nil => rfl
  | cons c cs =>
    exfalso
    cases hc : isSpace c with
    | false =>
      rw [collapseChars_cons hc] at h
      cases h
    | true =>
      obtain ⟨rest, hrest⟩ := exists_collapseChars_space hc cs
      rw [hrest] at h
      cases h

/-- No character but blanks is lost. -/
theorem count_collapseChars {c : Char} (hc : isSpace c = false) (cs : List Char) :
    (collapseChars cs).count c = cs.count c := by
  have hspace : ∀ d, isSpace d = true → (d == c) = false := by
    intro d hd
    rw [beq_eq_false_iff_ne]
    rintro rfl
    rw [hc] at hd
    cases hd
  fun_induction collapseChars cs with
  | case1 => rfl
  | case2 d hd e us he ih => rw [ih, List.count_cons (a := c) (b := d), hspace d hd]; rfl
  | case3 d hd e us he ih =>
    rw [List.count_cons, List.count_cons (b := d), ih, hspace d hd, hspace ' ' (by decide)]
  | case4 d hd => simp [List.count_cons, hspace d hd, hspace ' ' (by decide)]
  | case5 d us hd ih => rw [List.count_cons, List.count_cons, ih]

end Text

namespace Query

open Text

/-! ## Words -/

/-- A run of characters that may stand in a word, with a word character at either end. -/
structure IsWord (w : List Char) : Prop where
  bare : ∀ c ∈ w, isBare c = true
  starts : w.head?.any isWordChar = true
  ends : w.getLast?.any isWordChar = true

instance (w : List Char) : Decidable (IsWord w) :=
  decidable_of_iff (w.all isBare = true ∧ w.head?.any isWordChar = true ∧
      w.getLast?.any isWordChar = true)
    ⟨fun h => ⟨List.all_eq_true.mp h.1, h.2.1, h.2.2⟩,
      fun h => ⟨List.all_eq_true.mpr h.bare, h.starts, h.ends⟩⟩

/-- A word, with or without a colon behind it. -/
def IsKeyword (t : List Char) : Prop :=
  IsWord t ∨ t.getLast? = some ':' ∧ IsWord t.dropLast

instance (t : List Char) : Decidable (IsKeyword t) :=
  inferInstanceAs (Decidable (_ ∨ _))

/-- A keyword without quotes, with or without a sign in front. -/
def IsBareToken (t : List Char) : Prop :=
  IsKeyword t ∨ t.head?.any isSign = true ∧ IsKeyword t.tail

instance (t : List Char) : Decidable (IsBareToken t) :=
  inferInstanceAs (Decidable (_ ∨ _))

/-- A sign is no part of a word. -/
theorem isWordChar_of_isSign {c : Char} (h : isSign c = true) : isWordChar c = false := by
  rw [isSign, Bool.or_eq_true, beq_iff_eq, beq_iff_eq] at h
  rcases h with rfl | rfl <;> decide

/-- A word does not go on behind a character that may not stand in it. -/
theorem wordPart_append (u : List Char) {rest : List Char} (hrest : ∀ c ∈ rest.head?, isBare c = false) :
    wordPart (u ++ rest) = wordPart u := by
  have hnone : rest.takeWhile isBare = [] := by
    cases rest with
    | nil => rfl
    | cons c rest => exact List.takeWhile_cons_of_neg (by simp [hrest c rfl])
  rw [wordPart, wordPart, List.takeWhile_append, hnone, List.append_nil]
  split
  next hall => rw [(List.takeWhile_prefix isBare).eq_of_length hall]
  next => rfl

namespace IsWord

variable {w rest : List Char}

/-- A word has a character. -/
theorem ne_nil (h : IsWord w) : w ≠ [] := by
  rintro rfl
  cases h.starts

/-- A word starts with a word character, which is no sign. -/
theorem exists_cons (h : IsWord w) :
    ∃ c cs, w = c :: cs ∧ isWordChar c = true ∧ isSign c = false := by
  cases w with
  | nil => exact absurd rfl h.ne_nil
  | cons c cs =>
    have hc : isWordChar c = true := h.starts
    refine ⟨c, cs, rfl, hc, Bool.eq_false_iff.mpr fun hsign => ?_⟩
    rw [isWordChar_of_isSign hsign] at hc
    cases hc

/-- A word is its own word part. -/
theorem wordPart_eq (h : IsWord w) : wordPart w = w := by
  rw [wordPart, List.takeWhile_eq_self_iff.mpr h.bare]
  refine dropEndWhile_of_getLast fun c hc => ?_
  have hends := h.ends
  rw [hc] at hends
  simpa using hends

/-- The colon behind a word, if there is one, belongs to it. -/
theorem wordLength? (h : IsWord w) {before : Option Char} (hbefore : before.any isWordChar = false)
    (hrest : ∀ c ∈ rest.head?, isBare c = false) :
    Query.wordLength? before (w ++ rest) =
      some (w.length + if rest.head? == some ':' then 1 else 0) := by
  have hboundary : isBoundary before (w ++ rest).head? = true := by
    obtain ⟨c, cs, rfl, hc, -⟩ := h.exists_cons
    rw [isBoundary, hbefore]
    simpa using hc
  have hne : w.isEmpty = false := by simpa using h.ne_nil
  rw [Query.wordLength?, wordPart_append w hrest, h.wordPart_eq, hboundary, hne, List.drop_left]
  rfl

/-- Behind what is no part of a word, a word is read as a whole, with a colon that follows it. -/
theorem tokenLength? (h : IsWord w) {before : Option Char} (hbefore : before.any isWordChar = false)
    (hrest : ∀ c ∈ rest.head?, isBare c = false) :
    Query.tokenLength? before (w ++ rest) =
      some (w.length + if rest.head? == some ':' then 1 else 0) := by
  have hlength := h.wordLength? hbefore hrest
  obtain ⟨c, cs, rfl, -, hsign⟩ := h.exists_cons
  rw [Query.tokenLength?, List.cons_append, signed, if_neg (by simp [hsign]), ← List.cons_append, hlength]

/-- So it is behind a sign, whatever stands before that. -/
theorem tokenLength?_sign (h : IsWord w) {sign : Char} (hsign : isSign sign = true)
    (before : Option Char) (hrest : ∀ c ∈ rest.head?, isBare c = false) :
    Query.tokenLength? before (sign :: (w ++ rest)) =
      some (w.length + (if rest.head? == some ':' then 1 else 0) + 1) := by
  have hbefore : (some sign).any isWordChar = false := isWordChar_of_isSign hsign
  rw [Query.tokenLength?, signed, if_pos hsign, h.wordLength? hbefore hrest]

end IsWord

/-! ## Phrases -/

/-- Where no word starts, none is read. -/
theorem wordLength?_of_wordPart_nil {cs : List Char} (h : wordPart cs = []) (before : Option Char) :
    wordLength? before cs = none := by
  rw [wordLength?, h]
  simp

/-- No word starts with a character that no word has. -/
theorem wordPart_of_not_bare {c : Char} (h : isBare c = false) (cs : List Char) :
    wordPart (c :: cs) = [] := by
  rw [wordPart, List.takeWhile_cons_of_neg (by simp [h])]
  rfl

/-- Nothing is read as a keyword at a space. -/
theorem tokenLength?_space (before : Option Char) (cs : List Char) :
    tokenLength? before (' ' :: cs) = none := by
  have hword := wordLength?_of_wordPart_nil (wordPart_of_not_bare (c := ' ') (by decide) cs) before
  rw [tokenLength?, signed, if_neg (by decide), hword, signed, if_neg (by decide)]
  rfl

/-- A phrase is read up to its second quote. -/
theorem phraseLength?_phrase {inside : List Char} (h : '"' ∉ inside) (rest : List Char) :
    phraseLength? ('"' :: (inside ++ '"' :: rest)) = some (inside.length + 2) := by
  have hinside : (inside ++ '"' :: rest).takeWhile (· != '"') = inside := by
    rw [List.takeWhile_append_of_pos, List.takeWhile_cons_of_neg (by simp), List.append_nil]
    intro c hc
    simpa using ne_of_mem_of_not_mem hc h
  simp only [phraseLength?, hinside]
  rw [List.drop_left]
  rfl

/-- So a phrase is a token, whatever stands before it. -/
theorem tokenLength?_phrase {inside : List Char} (h : '"' ∉ inside) (before : Option Char)
    (rest : List Char) :
    tokenLength? before ('"' :: (inside ++ '"' :: rest)) = some (inside.length + 2) := by
  have hword := wordLength?_of_wordPart_nil
    (wordPart_of_not_bare (c := '"') (by decide) (inside ++ '"' :: rest)) before
  rw [tokenLength?, signed, if_neg (by decide), hword, signed, if_neg (by decide)]
  exact phraseLength?_phrase h rest

/-- A sign in front of a phrase is part of its token. -/
theorem tokenLength?_sign_phrase {sign : Char} (hsign : isSign sign = true) {inside : List Char}
    (h : '"' ∉ inside) (before : Option Char) (rest : List Char) :
    tokenLength? before (sign :: '"' :: (inside ++ '"' :: rest)) = some (inside.length + 3) := by
  have hquote := wordLength?_of_wordPart_nil
    (wordPart_of_not_bare (c := '"') (by decide) (inside ++ '"' :: rest)) (some sign)
  have hpart : wordPart (sign :: '"' :: (inside ++ '"' :: rest)) = [] := by
    rw [isSign, Bool.or_eq_true, beq_iff_eq, beq_iff_eq] at hsign
    rcases hsign with rfl | rfl <;> rfl
  rw [tokenLength?, signed, if_pos hsign, hquote, wordLength?_of_wordPart_nil hpart, signed, if_pos hsign,
    phraseLength?_phrase h]

/-! ## Reading pieces -/

/-- Characters that belong to a token that was read are skipped. -/
theorem scan_skip (u rest : List Char) (before : Option Char) :
    scan u.length before (u ++ rest) = scan 0 (u.getLast?.or before) rest := by
  induction u generalizing before with
  | nil => rfl
  | cons c u ih =>
    rw [List.length_cons, List.cons_append, scan, ih]
    cases u with
    | nil => rfl
    | cons d u => rfl

/-- A keyword that is found is read without its quotes, and the scanner goes on behind it. -/
theorem scan_token {before : Option Char} {u rest : List Char} (hne : u ≠ [])
    (h : tokenLength? before (u ++ rest) = some u.length) :
    scan 0 before (u ++ rest) = u.filter (· != '"') :: scan 0 u.getLast? rest := by
  cases u with
  | nil => exact absurd rfl hne
  | cons c u =>
    rw [List.cons_append] at h ⊢
    rw [scan, h]
    dsimp only
    rw [← List.cons_append, List.take_left, List.length_cons, Nat.add_sub_cancel, scan_skip]
    cases u with
    | nil => rfl
    | cons d u => rfl

/-- A piece of text that stands behind a character of no word, and in front of a space or the end, is
read as the same keywords. -/
def Reads (u : List Char) (ts : List (List Char)) : Prop :=
  ∀ before rest, before.any isWordChar = false → (∀ c ∈ rest.head?, c = ' ') →
    ∃ last, scan 0 before (u ++ rest) = ts ++ scan 0 last rest

/-- A text without quotes loses none. -/
theorem filter_quotes {u : List Char} (h : '"' ∉ u) : u.filter (· != '"') = u :=
  List.filter_eq_self.mpr fun c hc => by simpa using ne_of_mem_of_not_mem hc h

/-- A phrase loses its two quotes. -/
theorem filter_phrase {inside : List Char} (h : '"' ∉ inside) :
    ('"' :: (inside ++ ['"'])).filter (· != '"') = inside := by
  simp [filter_quotes h]

/-- A word has no quote. -/
theorem IsWord.not_mem_quote {w : List Char} (h : IsWord w) : '"' ∉ w := fun hquote => by
  have hbare := h.bare _ hquote
  revert hbare
  decide

namespace IsKeyword

variable {t rest : List Char}

/-- A keyword is a word, or one with a colon behind it. -/
theorem cases (h : IsKeyword t) : ∃ w, IsWord w ∧ (t = w ∨ t = w ++ [':']) := by
  rcases h with hw | ⟨hcolon, hw⟩
  · exact ⟨t, hw, Or.inl rfl⟩
  · exact ⟨t.dropLast, hw, Or.inr (List.dropLast_append_getLast? ':' hcolon).symm⟩

/-- A keyword has a character. -/
theorem ne_nil (h : IsKeyword t) : t ≠ [] := by
  obtain ⟨w, hw, rfl | rfl⟩ := h.cases
  · exact hw.ne_nil
  · simp

/-- A word starts with a character that is no sign. -/
theorem not_sign {c : Char} {cs : List Char} (h : IsKeyword (c :: cs)) : isSign c = false := by
  obtain ⟨w, hw, hcs⟩ := h.cases
  obtain ⟨d, ds, rfl, -, hsign⟩ := hw.exists_cons
  rcases hcs with hcs | hcs
  · obtain ⟨rfl, -⟩ := List.cons.inj hcs
    exact hsign
  · obtain ⟨rfl, -⟩ := List.cons.inj hcs
    exact hsign

/-- A word in front of a colon is a word by itself. -/
theorem isWord_of_colon {w : List Char} (h : IsKeyword (w ++ [':'])) : IsWord w := by
  rcases h with hw | ⟨-, hw⟩
  · exact absurd (hw.bare ':' (by simp)) (by decide)
  · rwa [List.dropLast_concat] at hw

/-- A keyword has no quote. -/
theorem not_mem_quote (h : IsKeyword t) : '"' ∉ t := by
  obtain ⟨w, hw, rfl | rfl⟩ := h.cases
  · exact hw.not_mem_quote
  · simpa using hw.not_mem_quote

/-- In front of a blank, a keyword is read as a whole. -/
theorem tokenLength? (h : IsKeyword t) {before : Option Char} (hbefore : before.any isWordChar = false)
    (hrest : ∀ c ∈ rest.head?, c = ' ') : Query.tokenLength? before (t ++ rest) = some t.length := by
  obtain ⟨w, hw, rfl | rfl⟩ := h.cases
  · rw [hw.tokenLength? hbefore]
    · cases rest with
      | nil => rfl
      | cons c rest =>
        rw [hrest c rfl]
        rfl
    · intro c hc
      rw [hrest c hc]
      decide
  · rw [List.append_assoc, hw.tokenLength? hbefore]
    · simp
    · rintro c ⟨⟩
      decide

/-- So it is behind a sign. -/
theorem tokenLength?_sign (h : IsKeyword t) {sign : Char} (hsign : isSign sign = true)
    (before : Option Char) (hrest : ∀ c ∈ rest.head?, c = ' ') :
    Query.tokenLength? before (sign :: (t ++ rest)) = some (t.length + 1) := by
  obtain ⟨w, hw, rfl | rfl⟩ := h.cases
  · rw [hw.tokenLength?_sign hsign]
    · cases rest with
      | nil => rfl
      | cons c rest =>
        rw [hrest c rfl]
        rfl
    · intro c hc
      rw [hrest c hc]
      decide
  · rw [List.append_assoc, hw.tokenLength?_sign hsign]
    · simp
    · rintro c ⟨⟩
      decide

end IsKeyword

/-- A piece is one keyword if the scanner finds a keyword of its length. -/
theorem reads_single {u : List Char} (hne : u ≠ [])
    (h : ∀ before rest, before.any isWordChar = false → (∀ c ∈ rest.head?, c = ' ') →
      tokenLength? before (u ++ rest) = some u.length) : Reads u [u.filter (· != '"')] := by
  intro before rest hbefore hrest
  rw [scan_token hne (h before rest hbefore hrest)]
  exact ⟨_, rfl⟩

/-- A keyword is read as one token. -/
theorem reads_keyword {t : List Char} (h : IsKeyword t) : Reads t [t] := by
  have hreads := reads_single h.ne_nil fun before rest hbefore hrest => h.tokenLength? hbefore hrest
  rwa [filter_quotes h.not_mem_quote] at hreads

/-- A sign is no quote. -/
theorem not_quote_of_isSign {sign : Char} (h : isSign sign = true) : sign ≠ '"' := by
  rintro rfl
  revert h
  decide

/-- A keyword behind a sign is read as one token. -/
theorem reads_sign_keyword {sign : Char} (hsign : isSign sign = true) {t : List Char} (h : IsKeyword t) :
    Reads (sign :: t) [sign :: t] := by
  have hquote : '"' ∉ sign :: t := by
    simpa using ⟨(not_quote_of_isSign hsign).symm, h.not_mem_quote⟩
  have hreads := reads_single (List.cons_ne_nil sign t) fun before rest _ hrest =>
    h.tokenLength?_sign hsign before hrest
  rwa [filter_quotes hquote] at hreads

/-- A bare token is read as it stands. -/
theorem reads_bareToken {t : List Char} (h : IsBareToken t) : Reads t [t] := by
  rcases h with h | ⟨hsign, h⟩
  · exact reads_keyword h
  · cases t with
    | nil => cases hsign
    | cons sign t => exact reads_sign_keyword hsign h

/-- A phrase is read without its quotes. -/
theorem reads_phrase {inside : List Char} (h : '"' ∉ inside) :
    Reads ('"' :: (inside ++ ['"'])) [inside] := by
  have hreads := reads_single (List.cons_ne_nil '"' (inside ++ ['"'])) fun before rest _ _ => by
    simpa using tokenLength?_phrase h before rest
  simpa [filter_quotes h] using hreads

/-- A phrase behind a sign is read as one token, without its quotes. -/
theorem reads_sign_phrase {sign : Char} (hsign : isSign sign = true) {inside : List Char}
    (h : '"' ∉ inside) : Reads (sign :: '"' :: (inside ++ ['"'])) [sign :: inside] := by
  have hreads := reads_single (List.cons_ne_nil sign ('"' :: (inside ++ ['"']))) fun before rest _ _ => by
    simpa using tokenLength?_sign_phrase hsign h before rest
  simpa [filter_quotes h, not_quote_of_isSign hsign] using hreads

/-- A word with a colon is read on its own, whatever is read behind it. -/
theorem Reads.behind_key {key u : List Char} (hkey : IsWord key) {ts : List (List Char)}
    (h : Reads u ts) : Reads (key ++ ':' :: u) ((key ++ [':']) :: ts) := by
  intro before rest hbefore hrest
  have hlength : tokenLength? before (key ++ [':'] ++ (u ++ rest)) = some (key ++ [':']).length := by
    rw [List.append_assoc, hkey.tokenLength? hbefore]
    · simp
    · rintro c ⟨⟩
      decide
  obtain ⟨last, hlast⟩ := h (some ':') rest (by decide) hrest
  have hquote : '"' ∉ key ++ [':'] := by simpa using hkey.not_mem_quote
  have hscan := scan_token (by simp) hlength
  rw [filter_quotes hquote, List.getLast?_concat, hlast] at hscan
  exact ⟨last, by simpa using hscan⟩

/-- A blank is part of no token. -/
theorem scan_space (before : Option Char) (cs : List Char) :
    scan 0 before (' ' :: cs) = scan 0 (some ' ') cs := by
  rw [scan, tokenLength?_space]

/-- A run of spaces is read like one space. -/
theorem scan_collapseChars_space (before : Option Char) (cs : List Char) :
    scan 0 before (collapseChars (' ' :: cs)) = scan 0 (some ' ') (collapseChars cs) := by
  have hspace : isSpace ' ' = true := by decide
  cases cs with
  | nil => rw [collapseChars_space_cons hspace (by simp), scan_space]
  | cons d ds =>
    cases hd : isSpace d with
    | false => rw [collapseChars_space_cons hspace (by simpa using hd), scan_space]
    | true =>
      obtain ⟨rest, hrest⟩ := exists_collapseChars_space hd ds
      rw [collapseChars_spaces hspace hd, hrest, scan_space, scan_space]

/-- What is read of the text in its place is read of it alone. -/
theorem Reads.tokenChars_eq {u : List Char} {ts : List (List Char)} (h : Reads u ts) :
    tokenChars u = ts := by
  obtain ⟨last, hlast⟩ := h none [] rfl (by simp)
  rw [List.append_nil] at hlast
  rw [tokenChars, hlast]
  exact List.append_nil ts

/-- A piece that is read on its own, with single spaces in it and none at its end. -/
structure IsPiece (u : List Char) : Prop where
  reads : Reads u (tokenChars u)
  tight : Tight u

/-- A text that is read as it stands is a piece, if it is tight. -/
theorem Reads.isPiece {u : List Char} {ts : List (List Char)} (h : Reads u ts) (htight : Tight u) :
    IsPiece u :=
  ⟨h.tokenChars_eq.symm ▸ h, htight⟩

/-- Pieces with blanks between them are read one by one. -/
theorem scan_intercalate {us : List (List Char)} (h : ∀ u ∈ us, IsPiece u) {before : Option Char}
    (hbefore : before.any isWordChar = false) :
    scan 0 before (collapseChars ([' '].intercalate us)) = us.flatMap tokenChars := by
  induction us generalizing before with
  | nil => rfl
  | cons u us ih =>
    rw [List.forall_mem_cons] at h
    cases us with
    | nil =>
      obtain ⟨last, hlast⟩ := h.1.reads before [] hbefore (by simp)
      have htext : collapseChars u = u := by
        simpa [collapseChars] using h.1.tight.collapseChars_append []
      rw [List.append_nil] at hlast
      rw [List.intercalate_singleton, htext, hlast]
      rfl
    | cons v us =>
      rw [List.intercalate_cons_cons, List.append_assoc, List.singleton_append,
        h.1.tight.collapseChars_append]
      obtain ⟨rest, hrest⟩ := exists_collapseChars_space (c := ' ') (by decide) ([' '].intercalate (v :: us))
      obtain ⟨last, hlast⟩ := h.1.reads before (collapseChars (' ' :: [' '].intercalate (v :: us)))
        hbefore (by simp [hrest])
      rw [hlast, scan_collapseChars_space, ih h.2 (by decide)]
      rfl

/-- **A text is read piece by piece.** -/
theorem tokenChars_intercalate {us : List (List Char)} (h : ∀ u ∈ us, IsPiece u) :
    tokenChars (collapseChars ([' '].intercalate us)) = us.flatMap tokenChars :=
  scan_intercalate h rfl

/-- A blank text has no keywords. -/
theorem tokenChars_of_isSpace {cs : List Char} (h : ∀ c ∈ cs, isSpace c = true) :
    tokenChars (collapseChars cs) = [] := by
  cases cs with
  | nil => rfl
  | cons c cs =>
    have hall : collapseChars (c :: cs) = [' '] := by
      induction cs generalizing c with
      | nil => exact collapseChars_space_cons (h c List.mem_cons_self) (by simp)
      | cons d ds ih =>
        rw [collapseChars_spaces (h c List.mem_cons_self) (h d (by simp))]
        exact ih d fun e he => h e (List.mem_cons_of_mem c he)
    rw [hall, tokenChars, scan_space]
    rfl

end Query

end SearchQuery
