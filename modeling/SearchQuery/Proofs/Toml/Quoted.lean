import SearchQuery.Proofs.Text.Scan
import SearchQuery.Toml.Part
import SearchQuery.Toml.Writer

/-!
# Texts that are read back

A text is written between double quotes, with escapes for what must not stand there as it is. Read again,
it is the same text, whatever characters it has (`run_quotedText_written`).

## Shape of the argument

A character is written in one of three ways (`writtenChar_cases`): as an escape of one letter, as an escape
with hexadecimal digits, or as it is, and then it is neither a quote nor a backslash nor a control character.
The reader undoes each of them, so it reads the body of a text character by character.
-/

namespace SearchQuery.Toml

open Text Text.Scan

/-- How a character is written. -/
theorem writtenChar_cases (c : Char) :
    (∃ d, writtenChar c = ['\\', d] ∧ shortEscape? d = some c) ∨
      writtenChar c = '\\' :: 'u' :: hexDigits 4 c.toNat ∧ c.toNat < 128 ∨
      writtenChar c = [c] ∧ c ≠ '"' ∧ c ≠ '\\' ∧ isControl c = false := by
  rw [writtenChar.eq_def]
  split
  next => exact Or.inl ⟨'b', rfl, rfl⟩
  next => exact Or.inl ⟨'n', rfl, rfl⟩
  next => exact Or.inl ⟨'f', rfl, rfl⟩
  next => exact Or.inl ⟨'r', rfl, rfl⟩
  next => exact Or.inl ⟨'"', rfl, rfl⟩
  next => exact Or.inl ⟨'\\', rfl, rfl⟩
  next hquote hbackslash =>
    split
    next hcontrol =>
      refine Or.inr (Or.inl ⟨rfl, ?_⟩)
      simp only [Bool.or_eq_true, Bool.and_eq_true, decide_eq_true_eq, beq_iff_eq] at hcontrol
      omega
    next hcontrol =>
      exact Or.inr (Or.inr ⟨rfl, hquote, hbackslash, by simpa [isControl] using hcontrol⟩)

/-- A short escape is not one of a number. -/
theorem shortEscape?_ne {d c : Char} (h : shortEscape? d = some c) : d ≠ 'u' ∧ d ≠ 'U' := by
  constructor <;>
  · rintro rfl
    cases h

/-- A short escape is read for its character. -/
theorem run_escape_short {d c : Char} (h : shortEscape? d = some c) (rest : List Char) :
    (escape false).run (d :: rest) = .ok ([c], rest) := by
  obtain ⟨hu, hU⟩ := shortEscape?_ne h
  rw [escape, run_bind (StateT.run_get _)]
  dsimp only
  rw [Bool.false_and, if_neg Bool.false_ne_true, run_bind (StateT.run_set _ rest), if_neg (by simpa using hu),
    if_neg (by simpa using hU), run_bind (run_orMalformed h rest)]
  rfl

/-- An escape with four digits is read for its character. -/
theorem run_escape_hex {c : Char} (h : c.toNat < 16 ^ 4) (rest : List Char) :
    (escape false).run ('u' :: (hexDigits 4 c.toNat ++ rest)) = .ok ([c], rest) := by
  have hvalid : c.toNat.isValidChar := c.valid
  have hchar : (hexEscape 4).run (hexDigits 4 c.toNat ++ rest) = .ok (c, rest) := by
    rw [hexEscape, run_bind (run_hexNumber h rest), if_pos hvalid, Char.ofNat_toNat]
    rfl
  rw [escape, run_bind (StateT.run_get _)]
  dsimp only
  rw [Bool.false_and, if_neg Bool.false_ne_true, run_bind (StateT.run_set _ _), if_pos (by decide),
    run_bind hchar]
  rfl

/-! ## Steps through a text -/

variable {n : Nat} {cs rest rest' front body : List Char}

/-- A quote ends a text. -/
theorem run_basicText_quote (n : Nat) (rest : List Char) :
    (basicText false (n + 1)).run ('"' :: rest) = .ok ([], rest) := by
  have hquote : (skip? (closing false '"')).run ('"' :: rest) = .ok (true, rest) :=
    run_skip?_cons '"' rest
  rw [basicText, run_bind hquote, if_pos rfl]
  rfl

/-- An escaped character is read in front of the rest. -/
theorem run_basicText_escape (hescape : (escape false).run cs = .ok (front, rest))
    (hbody : (basicText false n).run rest = .ok (body, rest')) :
    (basicText false (n + 1)).run ('\\' :: cs) = .ok (front ++ body, rest') := by
  have hquote : (skip? (closing false '"')).run ('\\' :: cs) = .ok (false, '\\' :: cs) :=
    run_skip?_single (by simp)
  rw [basicText, run_bind hquote, if_neg Bool.false_ne_true, run_bind (StateT.run_get _)]
  dsimp only
  rw [if_pos (by decide), run_bind (StateT.run_set _ cs), run_bind hescape, run_bind hbody]
  rfl

/-- Any other character is read as it stands. -/
theorem run_basicText_plain {c : Char} (hquote : c ≠ '"') (hbackslash : c ≠ '\\')
    (hcontrol : isControl c = false) (hbody : (basicText false n).run rest = .ok (body, rest')) :
    (basicText false (n + 1)).run (c :: rest) = .ok (c :: body, rest') := by
  have hskip : (skip? (closing false '"')).run (c :: rest) = .ok (false, c :: rest) :=
    run_skip?_single (by simpa using hquote)
  rw [basicText, run_bind hskip, if_neg Bool.false_ne_true, run_bind (StateT.run_get _)]
  dsimp only
  rw [if_neg (by simpa using hbackslash), if_neg Bool.false_ne_true, if_neg (by simp [hcontrol]),
    run_bind (StateT.run_set _ rest), run_bind hbody]
  rfl

/-- The body of a text is read back character by character. -/
theorem run_basicText_written (hn : cs.length < n) (rest : List Char) :
    (basicText false n).run (cs.flatMap writtenChar ++ '"' :: rest) = .ok (cs, rest) := by
  induction cs generalizing n with
  | nil =>
    obtain ⟨n, rfl⟩ := Nat.exists_eq_succ_of_ne_zero (Nat.ne_zero_of_lt hn)
    exact run_basicText_quote n rest
  | cons c cs ih =>
    obtain ⟨n, rfl⟩ := Nat.exists_eq_succ_of_ne_zero (Nat.ne_zero_of_lt hn)
    have hbody := ih (Nat.lt_of_succ_lt_succ hn)
    rw [List.flatMap_cons, List.append_assoc]
    rcases writtenChar_cases c with
      ⟨d, hwritten, hd⟩ | ⟨hwritten, hc⟩ | ⟨hwritten, hquote, hbackslash, hcontrol⟩
    · rw [hwritten]
      exact run_basicText_escape (run_escape_short hd _) hbody
    · rw [hwritten]
      exact run_basicText_escape (run_escape_hex (Nat.lt_trans hc (by decide)) _) hbody
    · rw [hwritten]
      exact run_basicText_plain hquote hbackslash hcontrol hbody

/-! ## Texts -/

/-- A text is written with quotes around it. -/
theorem toList_writtenText (s : String) :
    (writtenText s).toList = '"' :: (s.toList.flatMap writtenChar ++ ['"']) := by
  rw [writtenText, String.toList_ofList]
  rfl

/-- No character is lost when it is written. -/
theorem length_le_length_flatMap_writtenChar (cs : List Char) :
    cs.length ≤ (cs.flatMap writtenChar).length := by
  induction cs with
  | nil => exact Nat.le_refl 0
  | cons c cs ih =>
    have hc : 0 < (writtenChar c).length := by
      rcases writtenChar_cases c with ⟨d, hwritten, -⟩ | ⟨hwritten, -⟩ | ⟨hwritten, -⟩
      all_goals simp [hwritten]
    rw [List.flatMap_cons, List.length_append, List.length_cons]
    omega

/-- No written character starts with a quote. -/
theorem head?_flatMap_writtenChar (cs : List Char) : (cs.flatMap writtenChar).head? ≠ some '"' := by
  cases cs with
  | nil => simp
  | cons c cs =>
    rw [List.flatMap_cons]
    rcases writtenChar_cases c with ⟨d, hwritten, -⟩ | ⟨hwritten, -⟩ | ⟨hwritten, hquote, -⟩
    · simp [hwritten]
    · simp [hwritten]
    · simpa [hwritten] using hquote

/-- **A text is read back**, in front of anything but a quote. -/
theorem run_quotedText_written (s : String) (hrest : rest.head? ≠ some '"') :
    (quotedText '"').run ((writtenText s).toList ++ rest) = .ok (s, rest) := by
  rw [toList_writtenText, List.cons_append, List.append_assoc, List.singleton_append]
  -- The quotes of an empty text are no quotes of a text of several lines.
  have hone : ¬ closing true '"' <+: '"' :: (s.toList.flatMap writtenChar ++ '"' :: rest) := by
    rintro ⟨tail, htail⟩
    obtain ⟨-, htail⟩ := List.cons.inj htail
    cases hbody : s.toList.flatMap writtenChar with
    | nil =>
      rw [hbody] at htail
      obtain ⟨-, htail⟩ := List.cons.inj htail
      rw [← htail] at hrest
      exact hrest rfl
    | cons c body =>
      rw [hbody] at htail
      obtain ⟨rfl, -⟩ := List.cons.inj htail
      exact head?_flatMap_writtenChar s.toList (by rw [hbody]; rfl)
  have hbody : (textBody false '"').run (s.toList.flatMap writtenChar ++ '"' :: rest) =
      .ok (s.toList, rest) := by
    rw [textBody, run_bind (StateT.run_get _)]
    dsimp only
    rw [if_pos (by decide)]
    refine run_basicText_written ?_ rest
    have hlength := length_le_length_flatMap_writtenChar s.toList
    rw [List.length_append]
    omega
  rw [quotedText, run_bind (run_skip?_of_not hone), if_neg Bool.false_ne_true, lineText,
    run_bind (run_skip_cons '"' _), run_bind hbody, String.ofList_toList]
  rfl

end SearchQuery.Toml
