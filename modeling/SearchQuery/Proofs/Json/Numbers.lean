import SearchQuery.Proofs.Json.Texts

/-!
# Reading numbers of JSON

The reader of words and numbers finds what the grammar says (`tells_wordOrNumber`), and all of it. The parts
of a number are told by functions of the characters that are left, one for each relation of the grammar.
-/

namespace SearchQuery.JsonText

open Number Text Text.Scan

variable {cs ds f e rest : List Char}

/-! ## Parts of a number -/

/-- The reader of digits takes what the grammar calls digits. -/
theorem digits?_eq_some_iff : Numeral.digits? cs = some (ds, rest) ↔ Digits cs ds rest := by
  have hsplit := List.takeWhile_append_dropWhile (p := Char.isDigit) (l := cs)
  have hdrop : cs.drop (cs.takeWhile Char.isDigit).length = cs.dropWhile Char.isDigit := by
    calc cs.drop (cs.takeWhile Char.isDigit).length
      _ = (cs.takeWhile Char.isDigit ++ cs.dropWhile Char.isDigit).drop
            (cs.takeWhile Char.isDigit).length := by rw [hsplit]
      _ = cs.dropWhile Char.isDigit := List.drop_left
  rw [Numeral.digits?, hdrop]
  constructor
  · intro h
    split at h
    next => cases h
    next hne =>
      obtain ⟨rfl, rfl⟩ := Prod.mk.inj (Option.some.inj h)
      refine ⟨hsplit.symm, by simpa using hne, List.all_eq_true.mp List.all_takeWhile, fun c hc => ?_⟩
      have hhead := List.head?_dropWhile_not Char.isDigit cs
      rw [Option.mem_def.mp hc] at hhead
      exact hhead
  · rintro ⟨rfl, hne, hdigit, hlast⟩
    have hrest : rest.takeWhile Char.isDigit = [] ∧ rest.dropWhile Char.isDigit = rest := by
      cases rest with
      | nil => exact ⟨rfl, rfl⟩
      | cons c rest => simp [hlast c rfl]
    rw [List.takeWhile_append_of_pos hdigit, List.dropWhile_append_of_pos hdigit, hrest.1, hrest.2,
      List.append_nil, if_neg (by simpa using hne)]

/-- There are no digits to read if the grammar finds none. -/
theorem digits?_eq_none_iff : Numeral.digits? cs = none ↔ ∀ ds rest, ¬ Digits cs ds rest := by
  rw [Option.eq_none_iff_forall_ne_some, Prod.forall]
  exact forall_congr' fun ds => forall_congr' fun rest => not_congr digits?_eq_some_iff

theorem whole?_of_ne {cs : List Char} (h : cs.head? ≠ some '0') :
    Numeral.whole? Numeral.digits? cs = Numeral.digits? cs := by
  rw [Numeral.whole?.eq_def]
  split
  next => exact absurd rfl h
  next => rfl

/-- The digits in front of the point are read as the grammar says. -/
theorem whole?_eq_some_iff : Numeral.whole? Numeral.digits? cs = some (ds, rest) ↔ Whole cs ds rest := by
  constructor
  · intro h
    by_cases hfirst : cs.head? = some '0'
    · obtain ⟨cs', rfl⟩ := List.head?_eq_some_iff.mp hfirst
      cases h
      exact .zero rest
    · rw [whole?_of_ne hfirst] at h
      exact .digits (digits?_eq_some_iff.mp h) hfirst
  · intro h
    cases h with
    | zero => rfl
    | digits h hfirst => rw [whole?_of_ne hfirst, digits?_eq_some_iff.mpr h]

theorem fraction_of_ne (h : cs.head? ≠ some '.') : Numeral.fraction Numeral.digits? cs = ([], cs) := by
  rw [Numeral.fraction.eq_def]
  split
  next => exact absurd rfl h
  next => rfl

/-- A fraction is read as the grammar says. -/
theorem fraction_eq_iff : Numeral.fraction Numeral.digits? cs = (f, rest) ↔ Fraction cs f rest := by
  constructor
  · intro h
    by_cases hfirst : cs.head? = some '.'
    · obtain ⟨cs, rfl⟩ := List.head?_eq_some_iff.mp hfirst
      rw [Numeral.fraction] at h
      split at h
      next ds rest' hdigits =>
        cases h
        exact .point (digits?_eq_some_iff.mp hdigits)
      next hnone =>
        cases h
        refine .none ?_
        rintro _ ds rest ⟨⟩
        exact digits?_eq_none_iff.mp hnone ds rest
    · cases (fraction_of_ne hfirst).symm.trans h
      refine .none ?_
      rintro cs' ds rest rfl
      exact absurd rfl hfirst
  · intro h
    cases h with
    | point h => rw [Numeral.fraction, digits?_eq_some_iff.mpr h]
    | none h =>
      by_cases hfirst : cs.head? = some '.'
      · obtain ⟨cs', rfl⟩ := List.head?_eq_some_iff.mp hfirst
        rw [Numeral.fraction, digits?_eq_none_iff.mpr fun ds rest => h cs' ds rest rfl]
      · exact fraction_of_ne hfirst

/-- An exponent is read as the grammar says. -/
theorem exponent_eq_iff : Numeral.exponent Numeral.digits? cs = (e, rest) ↔ Exponent cs e rest := by
  cases cs with
  | nil =>
    constructor
    · rintro ⟨⟩
      exact .none fun _ _ _ _ h => nomatch h
    · intro h
      cases h
      rfl
  | cons c cs =>
    -- Only a letter with digits behind it is an exponent; otherwise nothing is read.
    simp only [Numeral.exponent, Bool.or_eq_true, beq_iff_eq]
    constructor
    · intro h
      split at h
      next hc =>
        split at h
        next ds rest' hdigits =>
          cases h
          exact .letter hc (digits?_eq_some_iff.mp hdigits)
        next hnone =>
          cases h
          refine .none ?_
          rintro _ _ ds rest ⟨⟩ -
          exact digits?_eq_none_iff.mp hnone ds rest
      next hc =>
        cases h
        refine .none ?_
        rintro _ _ ds rest ⟨⟩ hc'
        exact absurd hc' hc
    · intro h
      cases h with
      | letter hc h => rw [if_pos hc, digits?_eq_some_iff.mpr h]
      | none h =>
        split
        next hc => rw [digits?_eq_none_iff.mpr fun ds rest => h c cs ds rest rfl hc]
        next => rfl

/-! ## Numbers -/

/-- The characters of an optional minus sign. -/
theorem run_skip?_minus (cs : List Char) :
    ∃ negative mid, (skip? ['-']).run cs = .ok (negative, mid) ∧
      cs = (if negative then ['-'] else []) ++ mid := by
  by_cases h : cs.head? = some '-'
  · obtain ⟨mid, rfl⟩ := List.head?_eq_some_iff.mp h
    exact ⟨true, mid, run_skip?_cons '-' mid, rfl⟩
  · exact ⟨false, cs, run_skip?_single h, rfl⟩

/-- What the parts of a numeral write, after an optional minus sign. -/
def numberOf (negative : Bool) (whole tail : List Char) : Except Defect Datum :=
  Numeral.value .int .float (if negative then ['-'] else []) whole tail

/-- The sign tells whether an integer is negative. -/
theorem numberOf_nil (negative : Bool) (whole : List Char) :
    numberOf negative whole [] =
      if maxDigits < whole.length then .error .tooManyDigits
      else .ok (.int (if negative then -(natOfDigits whole : Int) else natOfDigits whole)) := by
  cases negative with
  | true => rfl
  | false => rfl

/-- A number with a fraction or an exponent is one of floating point. -/
theorem numberOf_of_ne {tail : List Char} (h : tail ≠ []) (negative : Bool) (whole : List Char) :
    numberOf negative whole tail =
      match floatOfPlain? 0 ((if negative then ['-'] else []) ++ whole ++ tail) with
      | some x => .ok (.float x)
      | none => .error .malformed := by
  unfold numberOf Numeral.value
  exact if_neg (by simpa using h)

/-- What a numeral writes is an integer of few digits, or a number of floating point. -/
theorem tells_numberOf {room : Nat} {negative : Bool} {whole tail : List Char}
    (h : Written cs negative whole tail rest) :
    Tells ((numberOf negative whole tail : Scan Datum).run rest) (Says room cs)
      (Breaks room · cs) := by
  by_cases htail : tail = []
  · subst htail
    rw [numberOf_nil]
    split
    next hdigits => exact Or.inr (.int h hdigits)
    next hdigits => exact .int h (Nat.le_of_not_lt hdigits)
  · rw [numberOf_of_ne htail]
    cases hx : floatOfPlain? 0 ((if negative then ['-'] else []) ++ whole ++ tail) with
    | none => exact tells_malformed
    | some x => exact .float h htail hx

/-- The reader of numbers reads what the grammar says, and breaks where it breaks. -/
theorem tells_number (room : Nat) (cs : List Char) :
    Tells (number.run cs) (Says room cs) (Breaks room · cs) := by
  obtain ⟨negative, mid, hminus, rfl⟩ := run_skip?_minus cs
  rw [number, run_bind hminus]
  by_cases hword : "Infinity".toList <+: mid
  · obtain ⟨rest, rfl⟩ := hword
    rw [run_bind (run_skip?_append _ rest), ← List.append_assoc]
    exact .infinity negative rest
  · rw [run_bind (run_skip?_of_not hword), if_neg Bool.false_ne_true, run_bind (StateT.run_get mid)]
    refine (tells_orMalformed _ mid).then ?_
    rintro ⟨whole, cs₁⟩ _ ⟨hwhole, rfl⟩
    dsimp only
    rw [run_bind (StateT.run_set _ _)]
    exact tells_numberOf
      (.mk negative (whole?_eq_some_iff.mp hwhole) (fraction_eq_iff.mp rfl) (exponent_eq_iff.mp rfl))

/-- A whole part starts with a digit. -/
theorem Whole.head?_ne (h : Whole cs ds rest) {c : Char} (hc : c.isDigit = false) : cs.head? ≠ some c := by
  rintro hcs
  cases h with
  | zero rest =>
    cases hcs
    exact absurd hc (by decide)
  | digits h _ =>
    obtain ⟨rfl, hne, hdigit, -⟩ := h
    cases ds with
    | nil => exact hne rfl
    | cons d ds =>
      cases hcs
      exact absurd (hdigit c List.mem_cons_self) (by simp [hc])

/-- A number starts with a digit or with its sign. -/
theorem Written.head?_ne {negative : Bool} {whole tail : List Char} (h : Written cs negative whole tail rest)
    {c : Char} (hc : c.isDigit = false) (hminus : c ≠ '-') : cs.head? ≠ some c := by
  obtain ⟨negative, hwhole, -, -⟩ := h
  cases negative with
  | true => exact fun h => hminus (Option.some.inj h).symm
  | false => exact hwhole.head?_ne hc

/-- The sign of a number is skipped. -/
theorem run_skip?_minus_append {negative : Bool} (h : cs.head? ≠ some '-') :
    (skip? ['-']).run ((if negative then ['-'] else []) ++ cs) = .ok (negative, cs) := by
  cases negative with
  | true => exact run_skip?_cons '-' cs
  | false => exact run_skip?_single h

/-- A number is read as far as it goes. -/
theorem run_number {negative : Bool} {whole tail : List Char} (h : Written cs negative whole tail rest) :
    number.run cs = (numberOf negative whole tail : Scan Datum).run rest := by
  obtain @⟨cs, _, _, _, _, _, _, negative, hwhole, hfraction, hexponent⟩ := h
  have hword : ¬ "Infinity".toList <+: cs := by
    rintro ⟨cs', rfl⟩
    exact hwhole.head?_ne (by decide : 'I'.isDigit = false) rfl
  rw [number, run_bind (run_skip?_minus_append (hwhole.head?_ne (by decide))),
    run_bind (run_skip?_of_not hword), if_neg Bool.false_ne_true, run_bind (StateT.run_get _),
    run_bind (run_orMalformed (whole?_eq_some_iff.mpr hwhole) _)]
  dsimp only
  rw [fraction_eq_iff.mpr hfraction]
  dsimp only
  rw [exponent_eq_iff.mpr hexponent]
  rfl

/-! ## Words -/

/-- The reader of words and numbers reads what the grammar says, and breaks where it breaks. -/
theorem tells_wordOrNumber (room : Nat) (cs : List Char) :
    Tells (wordOrNumber.run cs) (Says room cs) (Breaks room · cs) := by
  rw [wordOrNumber, run_bind (StateT.run_get cs)]
  split
  next w v hfind =>
    have hprefix : w.isPrefixOf cs = true := by simpa only using List.find?_some hfind
    obtain ⟨rest, rfl⟩ := List.isPrefixOf_iff_prefix.mp hprefix
    rw [run_bind (run_skip_append w rest)]
    exact .word (List.mem_of_find?_eq_some hfind) rest
  next => exact tells_number room cs

/-- A word is read for its value. -/
theorem run_wordOrNumber_word {w : List Char} {v : Datum} (h : (w, v) ∈ words) (rest : List Char) :
    wordOrNumber.run (w ++ rest) = .ok (v, rest) := by
  simp only [words, List.mem_cons, Prod.mk.injEq, List.not_mem_nil, or_false] at h
  rcases h with ⟨rfl, rfl⟩ | ⟨rfl, rfl⟩ | ⟨rfl, rfl⟩ | ⟨rfl, rfl⟩
  · rfl
  · rfl
  · rfl
  · rfl

/-- The first characters of words. -/
theorem head?_of_mem_words {w : List Char} {v : Datum} (h : (w, v) ∈ words) (rest : List Char) :
    ∃ c ∈ (w ++ rest).head?, c ∈ ['n', 't', 'f', 'N'] := by
  simp only [words, List.mem_cons, Prod.mk.injEq, List.not_mem_nil, or_false] at h
  rcases h with ⟨rfl, -⟩ | ⟨rfl, -⟩ | ⟨rfl, -⟩ | ⟨rfl, -⟩
  · exact ⟨'n', rfl, by decide⟩
  · exact ⟨'t', rfl, by decide⟩
  · exact ⟨'f', rfl, by decide⟩
  · exact ⟨'N', rfl, by decide⟩

/-- What starts with no letter of a word is a number. -/
theorem run_wordOrNumber_of_head (h : ∀ c ∈ cs.head?, c ∉ ['n', 't', 'f', 'N']) :
    wordOrNumber.run cs = number.run cs := by
  have hfind : (words.find? fun w => w.1.isPrefixOf cs) = none := by
    rw [List.find?_eq_none]
    intro w hw hprefix
    obtain ⟨rest, rfl⟩ := List.isPrefixOf_iff_prefix.mp hprefix
    obtain ⟨c, hc, hmem⟩ := head?_of_mem_words hw rest
    exact h c hc hmem
  rw [wordOrNumber, run_bind (StateT.run_get cs), hfind]

end SearchQuery.JsonText
