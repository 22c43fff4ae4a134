import Mathlib.Data.List.Basic
import SearchQuery.Proofs.Placeholder.Position
import SearchQuery.Statement.Bound

/-!
# The numbered text

`numbered` writes names in the places of placeholders and escapes colons. Its state is the text in
front: whether it is inside quotes, how many placeholders it has passed, and the last character it
wrote. `Trails` ties that last character to the text in front, so that each fact about the rest of
the walk is an induction with two cases, a placeholder and any other character.

## Shape of the proofs

Every function of the numbered text (`names`, `withNames`, `unescape`) is followed along the same
walk: what it makes of `front ++ cs` is what it made of `front`, and then what it makes of the
numbered rest. The one fact about looking ahead is `head?_dropWhile_numbered`: behind a run of word
characters the numbered text goes on with a colon only at a placeholder that is not set apart.
-/

namespace SearchQuery.Statement

open SearchQuery.Text

/-- A character of the numbered text: a colon is escaped. -/
def escaped (c : Char) : List Char :=
  if c = ':' then ['\\', ':'] else [c]

/-- What stands in the place of placeholder `n`. -/
def named (n : ℕ) : List Char :=
  ':' :: placeholderName n

/-! ## Names -/

/-- A digit may be part of a name. -/
theorem isWordChar_of_isDigit {c : Char} (h : c.isDigit = true) : isWordChar c = true := by
  have hsmall : c.toNat < 128 := by
    have hle : c.val ≤ '9'.val := by
      simp only [Char.isDigit, Bool.and_eq_true, decide_eq_true_eq] at h
      exact h.2
    have hnat : c.toNat ≤ '9'.toNat := UInt32.le_iff_toNat_le.mp hle
    have h9 : '9'.toNat = 57 := rfl
    omega
  rw [isWordChar, isAlphanumeric, if_pos hsmall, Char.isAlphanum, h, Bool.or_true, Bool.or_true]

/-- Names are words. -/
theorem isWordChar_of_mem_placeholderName {n : ℕ} {c : Char} (h : c ∈ placeholderName n) :
    isWordChar c = true := by
  rcases List.mem_cons.mp h with rfl | h
  · decide
  · exact isWordChar_of_isDigit (Nat.isDigit_of_mem_toDigits (by decide) (by decide) h)

/-- The name of a placeholder has no other characters. -/
theorem not_mem_placeholderName {n : ℕ} {c : Char} (h : isWordChar c = false) :
    c ∉ placeholderName n := fun hmem => by
  rw [isWordChar_of_mem_placeholderName hmem] at h
  exact Bool.noConfusion h

/-- A name that starts another one is that of an earlier placeholder. -/
theorem le_of_placeholderName_append {i j : ℕ} {s : List Char}
    (h : placeholderName j ++ s = placeholderName i) : j ≤ i := by
  have hdigits : Nat.toDigits 10 j ++ s = Nat.toDigits 10 i := (List.cons.inj h).2
  have hvalue := congrArg (fun cs => Nat.ofDigitChars 10 cs 0) hdigits
  simp only [Nat.ofDigitChars_append, Nat.ofDigitChars_ten_toDigits] at hvalue
  rw [Nat.ofDigitChars_eq_ofDigitChars_zero] at hvalue
  have hpow : 0 < 10 ^ s.length := Nat.pow_pos (by decide)
  have hle : j ≤ 10 ^ s.length * j := Nat.le_mul_of_pos_left j hpow
  omega

/-- Different placeholders have different names. -/
theorem placeholderName_injective : Function.Injective placeholderName := fun i j h =>
  Nat.le_antisymm (le_of_placeholderName_append (s := []) (by rw [List.append_nil, h]))
    (le_of_placeholderName_append (s := []) (by rw [List.append_nil, h]))

/-- The name ends with a character of a word. -/
theorem getLast?_placeholderName (n : ℕ) :
    ∃ c, (placeholderName n).getLast? = some c ∧ isWordChar c = true := by
  have hne : placeholderName n ≠ [] := List.cons_ne_nil _ _
  exact ⟨_, List.getLast?_eq_some_getLast hne,
    isWordChar_of_mem_placeholderName (List.getLast_mem hne)⟩

/-! ## The last character written -/

/-- `last` is the last character that is written for `front`, as far as the walk looks at it: whether
it is a word character, and whether it is a colon or a backslash. -/
structure Trails (front : List Char) (last : Option Char) : Prop where
  word : last.any isWordChar = true ↔ IsSetApart front front.length
  sign : last = some ':' ∨ last = some '\\' ↔
    front.getLast? = some ':' ∨ front.getLast? = some '\\'

theorem Trails.nil : Trails [] none := by
  refine ⟨?_, by simp⟩
  simp [IsSetApart]

/-- A name that follows is set apart from a word and from a placeholder. -/
theorem isSetApart_concat (front : List Char) (c : Char) :
    IsSetApart (front ++ [c]) (front ++ [c]).length ↔
      isWordChar c = true ∨ (c = '?' ∧ Even (front.count apostrophe)) := by
  rw [IsSetApart, List.take_length, List.getLast?_concat, List.length_append,
    List.length_singleton, Nat.add_sub_cancel, isPlaceholder_length]
  simp

/-- A placeholder ends in its name. -/
theorem Trails.placeholder {front : List Char} {c : Char}
    (h : c = '?' ∧ Even (front.count apostrophe)) (n : ℕ) :
    Trails (front ++ [c]) (placeholderName n).getLast? := by
  obtain ⟨d, hd, hword⟩ := getLast?_placeholderName n
  refine ⟨?_, ?_⟩
  · rw [hd, isSetApart_concat]
    simp [hword, h]
  · rw [hd, List.getLast?_concat, h.1]
    refine iff_of_false ?_ (by simp)
    rintro (hd' | hd') <;>
    · rw [Option.some.inj hd'] at hword
      exact absurd hword (by decide)

/-- Any other character ends in itself. -/
theorem Trails.other {front : List Char} {c : Char}
    (h : ¬ (c = '?' ∧ Even (front.count apostrophe))) : Trails (front ++ [c]) (some c) := by
  refine ⟨?_, ?_⟩
  · rw [isSetApart_concat]
    simp [h]
  · rw [List.getLast?_concat]

/-! ## One step of the walk -/

/-- The text `front` goes on with a placeholder. -/
theorem numbered_cons_placeholder {front : List Char} {c : Char} {last : Option Char}
    (ht : Trails front last) (h : c = '?' ∧ Even (front.count apostrophe)) (n : ℕ)
    (cs : List Char) :
    numbered (quotedAfter front) last n (c :: cs) =
      (if IsSetApart front front.length then [' '] else []) ++ (named n ++
        numbered (quotedAfter (front ++ [c])) (placeholderName n).getLast? (n + 1) cs) := by
  obtain ⟨hq, hq'⟩ := quotedAfter_concat_placeholder h
  rw [hq, hq', h.1, numbered, if_neg (by decide), if_pos (by decide)]
  simp only [ht.word, named, List.cons_append, List.append_assoc]

/-- The text `front` goes on with any other character. -/
theorem numbered_cons_other {front : List Char} {c : Char} (last : Option Char)
    (h : ¬ (c = '?' ∧ Even (front.count apostrophe))) (n : ℕ) (cs : List Char) :
    numbered (quotedAfter front) last n (c :: cs) =
      escaped c ++ numbered (quotedAfter (front ++ [c])) (some c) n cs := by
  have hwalk : ¬ (c == '?' && !quotedAfter front) = true := by
    simpa [quotedAfter] using h
  rw [numbered, if_neg hwalk, quotedAfter_concat]
  by_cases hc : c = apostrophe
  · subst hc
    simp [escaped, apostrophe]
  · by_cases hcolon : c = ':'
    · subst hcolon
      simp [escaped, apostrophe]
    · simp [hc, escaped, hcolon]

/-- A placeholder is written as its name, with a blank in front where it has to be set apart. -/
theorem piece_placeholder {plain : Char → List Char} {fill : ℕ → List Char} {front : List Char}
    {c : Char} (h : c = '?' ∧ Even (front.count apostrophe)) :
    piece plain fill (front ++ [c]) front.length =
      (if IsSetApart front front.length then [' '] else []) ++ fill (placeholders front).length := by
  rw [piece, if_pos ((isPlaceholder_length front c []).mpr h), List.take_left]
  simp only [isSetApart_append (Nat.le_refl front.length)]

/-- Any other character is written plainly. -/
theorem piece_other {plain : Char → List Char} {fill : ℕ → List Char} {front : List Char}
    {c : Char} (h : ¬ (c = '?' ∧ Even (front.count apostrophe))) :
    piece plain fill (front ++ [c]) front.length = plain c := by
  rw [piece, if_neg fun hp => h ((isPlaceholder_length front c []).mp hp)]
  simp

/-- The numbered text has escaped colons and names. -/
theorem substituted_append_numbered {front : List Char} {last : Option Char}
    (ht : Trails front last) (cs : List Char) :
    substituted escaped named (front ++ cs) = substituted escaped named front ++
      numbered (quotedAfter front) last (placeholders front).length cs := by
  induction cs generalizing front last with
  | nil => simp [numbered]
  | cons c cs ih =>
    rw [← List.singleton_append, ← List.append_assoc, List.singleton_append]
    by_cases h : c = '?' ∧ Even (front.count apostrophe)
    · rw [ih (Trails.placeholder h (placeholders front).length), substituted_concat,
        piece_placeholder h, numbered_cons_placeholder ht h, placeholders_concat, if_pos h,
        List.length_append, List.length_singleton]
      simp only [List.append_assoc]
    · rw [ih (Trails.other h), substituted_concat, piece_other h, numbered_cons_other last h,
        placeholders_concat, if_neg h, List.append_nil, List.append_assoc]

/-! ## Looking ahead -/

/-- Behind word characters the numbered text goes on with a colon only where there is no word
character and a placeholder that is not set apart comes next. -/
theorem head?_dropWhile_numbered {front : List Char} {last : Option Char} (ht : Trails front last)
    {n : ℕ} {cs : List Char}
    (h : ((numbered (quotedAfter front) last n cs).dropWhile isWordChar).head? = some ':') :
    (cs.head? = some '?' ∧ Even (front.count apostrophe)) ∧ ¬ IsSetApart front front.length := by
  induction cs generalizing front last with
  | nil => simp [numbered] at h
  | cons c cs ih =>
    by_cases hp : c = '?' ∧ Even (front.count apostrophe)
    · refine ⟨⟨by rw [List.head?_cons, hp.1], hp.2⟩, fun hset => ?_⟩
      rw [numbered_cons_placeholder ht hp, if_pos hset, List.singleton_append,
        List.dropWhile_cons_of_neg (by decide), List.head?_cons] at h
      exact absurd (Option.some.inj h) (by decide)
    · exfalso
      rw [numbered_cons_other last hp] at h
      by_cases hword : isWordChar c = true
      · have hcolon : c ≠ ':' := fun hc => absurd (hc ▸ hword) (by decide)
        rw [escaped, if_neg hcolon, List.singleton_append, List.dropWhile_cons_of_pos hword] at h
        exact (ih (Trails.other hp) h).2 ((isSetApart_concat front c).mpr (Or.inl hword))
      · by_cases hcolon : c = ':'
        · rw [escaped, if_pos hcolon, List.cons_append, List.dropWhile_cons_of_neg (by decide),
            List.head?_cons] at h
          exact absurd (Option.some.inj h) (by decide)
        · rw [escaped, if_neg hcolon, List.singleton_append, List.dropWhile_cons_of_neg hword,
            List.head?_cons] at h
          exact hcolon (Option.some.inj h)

/-- Behind a placeholder the numbered text has the same run of word characters as the text. -/
theorem takeWhile_numbered {front : List Char} {last : Option Char} (ht : Trails front last)
    (hset : IsSetApart front front.length) (n : ℕ) (cs : List Char) :
    (numbered (quotedAfter front) last n cs).takeWhile isWordChar = cs.takeWhile isWordChar := by
  induction cs generalizing front last with
  | nil => simp [numbered]
  | cons c cs ih =>
    by_cases hp : c = '?' ∧ Even (front.count apostrophe)
    · rw [numbered_cons_placeholder ht hp, if_pos hset, List.singleton_append,
        List.takeWhile_cons_of_neg (by decide), List.takeWhile_cons_of_neg (by rw [hp.1]; decide)]
    · rw [numbered_cons_other last hp]
      by_cases hword : isWordChar c = true
      · have hcolon : c ≠ ':' := fun hc => absurd (hc ▸ hword) (by decide)
        rw [escaped, if_neg hcolon, List.singleton_append, List.takeWhile_cons_of_pos hword,
          List.takeWhile_cons_of_pos hword,
          ih (Trails.other hp) ((isSetApart_concat front c).mpr (Or.inl hword))]
      · rw [List.takeWhile_cons_of_neg hword]
        by_cases hcolon : c = ':'
        · rw [escaped, if_pos hcolon, List.cons_append, List.takeWhile_cons_of_neg (by decide)]
        · rw [escaped, if_neg hcolon, List.singleton_append, List.takeWhile_cons_of_neg hword]

end SearchQuery.Statement
