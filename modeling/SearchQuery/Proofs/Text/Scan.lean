import Mathlib.Algebra.Group.Nat.Defs
import SearchQuery.Text.Scan

/-!
# Running scanners

A scanner is run on the characters that are left. What is known of the scanners that a document reader is
made of is one equation each, and a sequence of scanners is run one after the other (`run_bind`). So to run
a reader on a text in front of `rest`, the text is taken apart from the front.

A number in hexadecimal digits is read back (`ofHexDigits?_hexDigits`).
-/

namespace SearchQuery.Text

/-! ## Hexadecimal digits -/

/-- A digit in base sixteen is read back. -/
theorem hexValue?_hexDigit {d : Nat} (h : d < 16) : hexValue? (hexDigit d) = some d := by
  have hall : ∀ d < 16, hexValue? (hexDigit d) = some d := by decide
  exact hall d h

/-- As many digits are written as are asked for. -/
theorem length_hexDigits (width n : Nat) : (hexDigits width n).length = width := by
  induction width generalizing n with
  | zero => rfl
  | succ width ih => simp [hexDigits, ih]

/-- A number is read back from enough digits. -/
theorem ofHexDigits?_hexDigits {width n : Nat} (h : n < 16 ^ width) :
    ofHexDigits? (hexDigits width n) = some n := by
  induction width generalizing n with
  | zero =>
    obtain rfl : n = 0 := by simpa using h
    rfl
  | succ width ih =>
    have hfront : ofHexDigits? (hexDigits width (n / 16)) = some (n / 16) :=
      ih (Nat.div_lt_of_lt_mul (by rwa [Nat.pow_succ, Nat.mul_comm] at h))
    rw [ofHexDigits?] at hfront
    rw [hexDigits, ofHexDigits?, List.foldlM_append, hfront]
    have hlast : 16 * (n / 16) + n % 16 = n := Nat.div_add_mod n 16
    simp [hexValue?_hexDigit (Nat.mod_lt n (by decide)), hlast]

namespace Scan

variable {α β : Type} {cs rest : List Char}

/-- What is read first is what the next reader starts behind. -/
theorem run_bind {m : Scan α} {a : α} (h : m.run cs = .ok (a, rest)) (f : α → Scan β) :
    (m >>= f).run cs = (f a).run rest := by
  rw [StateT.run_bind, h]
  rfl

theorem run_bind_error {m : Scan α} {e : Defect} (h : m.run cs = .error e) (f : α → Scan β) :
    (m >>= f).run cs = .error e := by
  rw [StateT.run_bind, h]
  rfl

/-- What is known of the outcome of a run: of a result and what is left, and of why it fails, unless what is
read is malformed. -/
def Tells (outcome : Except Defect (α × List Char)) (P : α → List Char → Prop) (Q : Defect → Prop) : Prop :=
  match outcome with
  | .ok (a, rest) => P a rest
  | .error e => e = .malformed ∨ Q e

/-- What is known of a scanner and of the one after it is known of both. -/
theorem Tells.bind {m : Scan α} {f : α → Scan β} {P : α → List Char → Prop} {P' : β → List Char → Prop}
    {Q Q' : Defect → Prop} (h : Tells (m.run cs) P Q)
    (hf : ∀ a rest, P a rest → Tells ((f a).run rest) P' Q') (hQ : ∀ e, Q e → Q' e) :
    Tells ((m >>= f).run cs) P' Q' := by
  rw [StateT.run_bind]
  cases hm : m.run cs with
  | ok result =>
    rw [hm] at h
    exact hf _ _ h
  | error e =>
    rw [hm] at h
    exact h.imp_right (hQ e)

/-- What is known of a scanner that can fail only where what it reads is malformed, and of the one after it,
is known of both. -/
theorem Tells.then {m : Scan α} {f : α → Scan β} {P : α → List Char → Prop} {P' : β → List Char → Prop}
    {Q : Defect → Prop} (h : Tells (m.run cs) P fun _ => False)
    (hf : ∀ a rest, P a rest → Tells ((f a).run rest) P' Q) : Tells ((m >>= f).run cs) P' Q :=
  h.bind hf fun _ => False.elim

/-- What is known of a scanner can be told more loosely. -/
theorem Tells.mono {outcome : Except Defect (α × List Char)} {P P' : α → List Char → Prop}
    {Q : Defect → Prop} (h : Tells outcome P Q) (hP : ∀ a rest, P a rest → P' a rest) :
    Tells outcome P' Q := by
  match outcome with
  | .ok (a, rest) => exact hP a rest h
  | .error e => exact h

/-- Nothing has to be known of what is malformed. -/
theorem tells_malformed {P : α → List Char → Prop} {Q : Defect → Prop} :
    Tells (.error .malformed) P Q :=
  Or.inl rfl

theorem onText_of_run {m : Scan α} {a : α} (h : m.run cs = .ok (a, rest)) : onText m cs = .ok a := by
  rw [onText, StateT.run'_eq, h]
  rfl

theorem onText_of_error {m : Scan α} {e : Defect} (h : m.run cs = .error e) : onText m cs = .error e := by
  rw [onText, StateT.run'_eq, h]
  rfl

/-- What is told of a run is told of the reader on a text. -/
theorem tells_onText {m : Scan α} {P : α → List Char → Prop} {Q : Defect → Prop}
    (h : Tells (m.run cs) P Q) :
    (∀ a, onText m cs = .ok a → ∃ rest, P a rest) ∧
      ∀ e, onText m cs = .error e → e = .malformed ∨ Q e := by
  cases hm : m.run cs with
  | ok result =>
    rw [hm] at h
    rw [onText_of_run hm]
    refine ⟨?_, (fun e h => nomatch h)⟩
    rintro _ ⟨⟩
    exact ⟨result.2, h⟩
  | error e =>
    rw [hm] at h
    rw [onText_of_error hm]
    refine ⟨(fun a h => nomatch h), ?_⟩
    rintro _ ⟨⟩
    exact h

theorem tells_orMalformed (o : Option α) (cs : List Char) :
    Tells ((orMalformed o).run cs) (fun a rest => o = some a ∧ rest = cs) fun _ => False := by
  cases o with
  | none => exact tells_malformed
  | some a => exact ⟨rfl, rfl⟩

theorem run_orMalformed {o : Option α} {a : α} (h : o = some a) (cs : List Char) :
    (orMalformed o).run cs = .ok (a, cs) := by
  rw [h]
  rfl

/-- Characters that pass are skipped. -/
theorem run_skipWhile (p : Char → Bool) (cs : List Char) :
    (skipWhile p).run cs = .ok ((), cs.dropWhile p) :=
  rfl

/-- Nothing is skipped in front of a character that does not satisfy the test. -/
theorem run_skipWhile_of_head {p : Char → Bool} (h : ∀ c ∈ cs.head?, p c = false) :
    (skipWhile p).run cs = .ok ((), cs) := by
  rw [run_skipWhile]
  cases cs with
  | nil => rfl
  | cons c cs => rw [List.dropWhile_cons_of_neg (by simp [h c rfl])]

/-- A run of characters that satisfy the test is taken as a whole. -/
theorem run_takeWhile_append {p : Char → Bool} {u : List Char} (hu : ∀ c ∈ u, p c = true)
    (hrest : ∀ c ∈ rest.head?, p c = false) :
    (takeWhile p).run (u ++ rest) = .ok (u, rest) := by
  have hnone : rest.takeWhile p = [] ∧ rest.dropWhile p = rest := by
    cases rest with
    | nil => exact ⟨rfl, rfl⟩
    | cons c rest => simp [hrest c rfl]
  change Except.ok ((u ++ rest).takeWhile p, (u ++ rest).dropWhile p) = _
  rw [List.takeWhile_append_of_pos hu, List.dropWhile_append_of_pos hu, hnone.1, hnone.2, List.append_nil]

/-- A word at the front is skipped. -/
theorem run_skip?_append (word rest : List Char) :
    (skip? word).run (word ++ rest) = .ok (true, rest) := by
  have hprefix : word.isPrefixOf (word ++ rest) = true :=
    List.isPrefixOf_iff_prefix.mpr (List.prefix_append word rest)
  change Except.ok (if word.isPrefixOf (word ++ rest) then _ else _) = _
  rw [if_pos hprefix, List.drop_left]

/-- A word that is not at the front is not skipped. -/
theorem run_skip?_of_not {word : List Char} (h : ¬ word <+: cs) :
    (skip? word).run cs = .ok (false, cs) := by
  change Except.ok (if word.isPrefixOf cs then _ else _) = _
  rw [if_neg (by rwa [List.isPrefixOf_iff_prefix])]

/-- One character is not skipped where another one comes. -/
theorem run_skip?_single {d : Char} (h : cs.head? ≠ some d) :
    (skip? [d]).run cs = .ok (false, cs) := by
  refine run_skip?_of_not ?_
  rintro ⟨rest, rfl⟩
  exact h rfl

theorem run_skip_append (word rest : List Char) : (skip word).run (word ++ rest) = .ok ((), rest) := by
  rw [skip, run_bind (run_skip?_append word rest)]
  rfl

theorem run_skip?_cons (c : Char) (rest : List Char) : (skip? [c]).run (c :: rest) = .ok (true, rest) :=
  run_skip?_append [c] rest

theorem run_skip_cons (c : Char) (rest : List Char) : (skip [c]).run (c :: rest) = .ok ((), rest) :=
  run_skip_append [c] rest

/-- One character is skipped or does not come next. -/
theorem tells_skip?_single (c : Char) (cs : List Char) :
    Tells ((skip? [c]).run cs)
      (fun found rest => found = true ∧ cs = c :: rest ∨ found = false ∧ rest = cs ∧ cs.head? ≠ some c)
      fun _ => False := by
  by_cases h : cs.head? = some c
  · obtain ⟨rest, rfl⟩ := List.head?_eq_some_iff.mp h
    rw [run_skip?_cons]
    exact Or.inl ⟨rfl, rfl⟩
  · rw [run_skip?_single h]
    exact Or.inr ⟨rfl, rfl, h⟩

/-- A single character has to stand at the front. -/
theorem tells_skip_single (c : Char) (cs : List Char) :
    Tells ((skip [c]).run cs) (fun _ rest => cs = c :: rest) fun _ => False := by
  rw [skip]
  refine (tells_skip?_single c cs).then ?_
  rintro found rest (⟨rfl, h⟩ | ⟨rfl, -, -⟩)
  · exact h
  · exact tells_malformed

/-- Hexadecimal digits of the given number are read. -/
theorem run_hexNumber_append {width n : Nat} {ds : List Char} (hlength : ds.length = width)
    (h : ofHexDigits? ds = some n) (rest : List Char) :
    (hexNumber width).run (ds ++ rest) = .ok (n, rest) := by
  rw [hexNumber, run_bind (StateT.run_get _), List.take_left' hlength, List.drop_left' hlength,
    run_bind (StateT.run_set _ rest), if_neg (by simp [hlength])]
  exact run_orMalformed h rest

/-- A number in base sixteen is read back, if it has room in its digits. -/
theorem run_hexNumber {width n : Nat} (h : n < 16 ^ width) (rest : List Char) :
    (hexNumber width).run (hexDigits width n ++ rest) = .ok (n, rest) :=
  run_hexNumber_append (length_hexDigits width n) (ofHexDigits?_hexDigits h) rest

/-- It is read of digits only. -/
theorem tells_hexNumber (width : Nat) (cs : List Char) :
    Tells ((hexNumber width).run cs)
      (fun n rest => ∃ ds, ds.length = width ∧ ofHexDigits? ds = some n ∧ cs = ds ++ rest)
      fun _ => False := by
  rw [hexNumber, run_bind (StateT.run_get _), run_bind (StateT.run_set _ _)]
  split
  next => exact tells_malformed
  next hlength =>
    refine (tells_orMalformed _ _).mono ?_
    rintro n rest ⟨h, rfl⟩
    exact ⟨cs.take width, by simpa using hlength, h, (List.take_append_drop width cs).symm⟩

end Scan

end SearchQuery.Text
