import Mathlib.Data.List.Basic
import Mathlib.Data.List.Forall2
import SearchQuery.Pattern.Compile
import SearchQuery.Pattern.Search

/-!
# Patterns that mean a text

A text is turned into a pattern by escaping it. Whatever characters it has, reading the escaped text gives
the tree of the text itself (`compile_escaped`), and a search for that tree finds the text, whatever its
case, in every text that has it as a part, and in no other (`search_literal`).

## Shape of the argument

The tokens of an escaped text are its characters, the special ones escaped (`Spells`). The reader has a
meaning of its own for special characters alone, and those are escaped, so it takes one token after the
other and makes a set of one character of it (`run_sequence_spelled`).

A set of one character takes such a character and lets the rest match. So a text is matched character by
character (`step_literal_cons`), which is the induction behind the search.
-/

namespace SearchQuery

namespace Text

/-- Two texts of one length are equal character by character when case is ignored. -/
def SameLetters (cs ds : List Char) : Prop :=
  List.Forall₂ (fun c d => sameLetter c d = true) cs ds

/-- Some part of a text has the length of another text and is equal to it when case is ignored. -/
def OccursIn (s text : String) : Prop :=
  ∃ before part behind, text.toList = before ++ (part ++ behind) ∧ SameLetters s.toList part

/-- The empty text is part of every text. -/
theorem occursIn_empty (text : String) : OccursIn "" text :=
  ⟨[], [], text.toList, rfl, List.Forall₂.nil⟩

end Text

namespace Pattern

/-! ## Reading an escaped text -/

/-- The tokens are the characters, the special ones escaped. -/
def Spells (tokens : List Token) (cs : List Char) : Prop :=
  List.Forall₂ (fun t c => t.char = c ∧ t.escaped = isSpecial c) tokens cs

/-- The set of one character. -/
def single (c : Char) : Node :=
  .set false [.char c.toNat]

/-- The tokens of an escaped text spell it, and no backslash is left over. -/
theorem spells_tokenize (position : ℕ) (cs : List Char) :
    Spells (tokenize position (escapeChars cs)).1 cs ∧ (tokenize position (escapeChars cs)).2 = false := by
  induction cs generalizing position with
  | nil => exact ⟨List.Forall₂.nil, rfl⟩
  | cons c cs ih =>
    by_cases hc : isSpecial c = true
    · have hescaped : escapeChars (c :: cs) = '\\' :: c :: escapeChars cs := by
        simp [escapeChars, hc]
      rw [hescaped, tokenize]
      exact ⟨List.Forall₂.cons ⟨rfl, hc.symm⟩ (ih _).1, (ih _).2⟩
    · have hescaped : escapeChars (c :: cs) = c :: escapeChars cs := by
        simp [escapeChars, hc]
      have hbackslash : c ≠ '\\' := by
        rintro rfl
        exact hc rfl
      have htokenize : tokenize position (c :: escapeChars cs) =
          (⟨position, false, c⟩ :: (tokenize (position + 1) (escapeChars cs)).1,
            (tokenize (position + 1) (escapeChars cs)).2) := by
        rw [tokenize]
        · exact fun d ds hd => absurd hd hbackslash
        · exact fun hd => absurd hd hbackslash
      rw [Bool.not_eq_true] at hc
      rw [hescaped, htokenize]
      exact ⟨List.Forall₂.cons ⟨rfl, hc.symm⟩ (ih _).1, (ih _).2⟩

/-- Whether an escaped character has no meaning of its own. -/
def standsForItself (c : Char) : Bool :=
  (anchorEscape? c).isNone && (classEscape? c).isNone && (controlEscape? c).isNone &&
    (hexWidth? c).isNone && c != 'N' && c != '0' && !c.isDigit && !c.isAlpha

/-- No special character is a letter or a digit. -/
theorem standsForItself_of_isSpecial {c : Char} (h : isSpecial c = true) : standsForItself c = true := by
  have hmem := List.contains_iff_mem.mp h
  exact List.all_eq_true.mp (by decide +kernel) c hmem

/-- An escaped special character is read as itself. -/
theorem escape_special {t : Token} (h : isSpecial t.char = true) (m : Machine) :
    escape m t = pure (single t.char) := by
  have hself := standsForItself_of_isSpecial h
  simp only [standsForItself, Bool.and_eq_true, Option.isNone_iff_eq_none, bne_iff_ne,
    Bool.not_eq_true'] at hself
  obtain ⟨⟨⟨⟨⟨⟨⟨hanchor, hclass⟩, hcontrol⟩, hhex⟩, hname⟩, hzero⟩, hdigit⟩, halpha⟩ := hself
  rw [escape, hanchor, hclass, hcontrol, hhex]
  simp only [beq_eq_false_iff_ne.mpr hname, beq_eq_false_iff_ne.mpr hzero, hdigit, literalEscape, halpha]
  rfl

/-- What the reader asks of a character that is not escaped is whether it is one of the special ones. -/
theorem ne_of_not_special {c : Char} (h : isSpecial c = false) {d : Char} (hd : isSpecial d = true) :
    (c == d) = false := by
  rw [beq_eq_false_iff_ne]
  rintro rfl
  rw [h] at hd
  cases hd

/-! ## Steps of the reader -/

variable {α β : Type} {m : Machine} {n : ℕ} {p q : Progress} {t : Token} {tokens : List Token}
  {cs : List Char} {s : Scope}

/-- What is read first is what the next reader starts from. -/
theorem run_bind {x : Reading α} {a : α} (h : x.run p = .ok (a, q)) (f : α → Reading β) :
    (x >>= f).run p = (f a).run q := by
  rw [StateT.run_bind, h]
  rfl

/-- What has been read when only some tokens are left. -/
def Progress.upTo (p : Progress) (tokens : List Token) : Progress :=
  { p with input := { p.input with tokens } }

theorem run_peek? (p : Progress) : Reading.peek?.run p = .ok (p.input.tokens.head?, p) :=
  rfl

/-- The first token is taken, if no backslash ends the text. -/
theorem run_advance (hdangling : p.input.dangling = false) (t : Token) (tokens : List Token) :
    Reading.advance.run (p.upTo (t :: tokens)) = .ok ((), p.upTo tokens) := by
  obtain ⟨⟨_, length, dangling⟩, _⟩ := p
  obtain rfl : dangling = false := hdangling
  have hrest : Input.rest ⟨t :: tokens, length, false⟩ = .ok ⟨tokens, length, false⟩ := by
    rw [Input.rest, Input.checked, Bool.and_false, if_neg Bool.false_ne_true]
    rfl
  rw [Reading.advance, run_bind (StateT.run_get _), Progress.upTo]
  dsimp only
  rw [hrest]
  rfl

/-- Nothing comes next where no token is left. -/
theorem run_skip?_nil (p : Progress) (c : Char) :
    (Reading.skip? c).run (p.upTo []) = .ok (false, p.upTo []) :=
  rfl

/-- One token of an escaped text is read as the set of its character. -/
theorem run_sequence_token (hdangling : p.input.dangling = false) (hverbose : s.verbose = false)
    (h : t.escaped = isSpecial t.char) (items : List Node) :
    (sequence m (n + 1) s items).run (p.upTo (t :: tokens)) =
      (sequence m n s (single t.char :: items)).run (p.upTo tokens) := by
  rw [sequence, run_bind (run_peek? _)]
  change StateT.run (if (t.isPlain '|' || t.isPlain ')') = true then _ else _) _ = _
  cases hc : isSpecial t.char with
  | true =>
    rw [hc] at h
    have hplain : ∀ c, t.isPlain c = false := fun c => by rw [Token.isPlain, h]; rfl
    simp only [hplain, Bool.or_self, Bool.false_eq_true, if_false]
    rw [run_bind (run_advance hdangling t tokens)]
    simp only [hverbose, Bool.false_and, Bool.false_eq_true, if_false, h, if_true, escape_special hc]
    rfl
  | false =>
    rw [hc] at h
    have hne : ∀ d, isSpecial d = true → (t.char == d) = false := fun d => ne_of_not_special hc
    have hplain : ∀ d, isSpecial d = true → t.isPlain d = false := fun d hd => by
      rw [Token.isPlain, hne d hd, Bool.and_false]
    simp only [hplain '|' rfl, hplain ')' rfl, Bool.or_self, Bool.false_eq_true, if_false]
    rw [run_bind (run_advance hdangling t tokens)]
    simp only [hverbose, h, isRepeat, hne '.' rfl, hne '^' rfl, hne '$' rfl, hne '[' rfl, hne '*' rfl,
      hne '+' rfl, hne '?' rfl, hne '\x7b' rfl, hne '(' rfl, Bool.false_and, Bool.or_self,
      Bool.false_eq_true, if_false]
    rfl

/-- An escaped text is read token by token, whatever was read before. -/
theorem run_sequence_spelled (hdangling : p.input.dangling = false) (hverbose : s.verbose = false)
    (h : Spells tokens cs) (hn : tokens.length < n) (items : List Node) :
    (sequence m n s items).run (p.upTo tokens) =
      .ok (unpacked (items.reverse ++ cs.map single), p.upTo []) := by
  induction h generalizing n items with
  | nil =>
    obtain ⟨n, rfl⟩ := Nat.exists_eq_add_of_lt hn
    rw [sequence, run_bind (run_peek? _)]
    simp
    rfl
  | @cons t c tokens cs htoken _ ih =>
    obtain ⟨rfl, hescaped⟩ := htoken
    obtain ⟨n, rfl⟩ : ∃ m, n = m + 1 := Nat.exists_eq_add_one.mpr (by omega)
    rw [run_sequence_token hdangling hverbose hescaped, ih (by simpa using hn)]
    simp

theorem unpacked_singles (cs : List Char) : unpacked (cs.map single) = cs.map single := by
  induction cs with
  | nil => rfl
  | cons c cs ih => exact congrArg (single c :: ·) ih

/-- Single characters are joined to one literal. -/
theorem joinItems_singles (cs : List Char) : joinItems (cs.map single) = .literal cs := by
  induction cs with
  | nil => rfl
  | cons c cs ih =>
    cases cs with
    | nil => rfl
    | cons d cs => exact congrArg (Node.seq (single c)) ih

/-- An escaped text is one alternative. -/
theorem run_alternatives_spelled (hdangling : p.input.dangling = false) (hverbose : s.verbose = false)
    (h : Spells tokens cs) (hn : tokens.length + 1 < n) :
    (alternatives m n s).run (p.upTo tokens) = .ok ([cs.map single], p.upTo []) := by
  obtain ⟨n, rfl⟩ : ∃ m, n = m + 1 := Nat.exists_eq_add_one.mpr (by omega)
  have hsequence := run_sequence_spelled (m := m) hdangling hverbose h (by omega : tokens.length < n) []
  rw [List.reverse_nil, List.nil_append, unpacked_singles] at hsequence
  rw [alternatives, run_bind hsequence, run_bind (run_skip?_nil p '|')]
  rfl

/-- The tree of a text needs no calls to be checked, and repeats nothing. -/
theorem check_literal (template : Bool) (room : ℕ) (cs : List Char) :
    (Node.literal cs).check template room = .ok () := by
  induction cs with
  | nil => rfl
  | cons c cs ih =>
    cases cs with
    | nil => rfl
    | cons d cs =>
      have hseq : Node.literal (c :: d :: cs) = .seq (single c) (.literal (d :: cs)) := rfl
      rw [hseq, Node.check, ih]
      rfl

/-- **Escaping a text and reading it as a pattern gives the pattern of the text**, on every machine. -/
theorem compile_escaped (s : String) (m : Machine) :
    compile (String.ofList (escapeChars s.toList)) true m = .ok (literal s) := by
  obtain ⟨hspells, hdangling⟩ := spells_tokenize 0 s.toList
  cases htokens : tokenize 0 (escapeChars s.toList) with
  | mk tokens dangling =>
    rw [htokens] at hspells hdangling
    cases hdangling
    change Spells tokens s.toList at hspells
    have hchecked : ∀ length, Input.checked ⟨tokens, length, false⟩ = .ok ⟨tokens, length, false⟩ :=
      fun length => by rw [Input.checked, Bool.and_false, if_neg Bool.false_ne_true]
    have hread : ∃ p, wholeOf m (String.ofList (escapeChars s.toList)) true = .ok (.literal s.toList, p) ∧
        p.flags = { ignoreCase := true } ∧ p.input.tokens = [] ∧ p.references = [] := by
      rw [wholeOf, String.toList_ofList, htokens]
      simp only [hchecked, bind, Except.bind]
      have hfound := run_alternatives_spelled (m := m) (n := 3 * tokens.length + 3)
        (s := { room := m.frames, whole := true, leading := true })
        (p := { input := ⟨tokens, (String.ofList (escapeChars s.toList)).length, false⟩,
                flags := { ignoreCase := true } }) rfl rfl hspells (by omega)
      rw [Progress.upTo] at hfound
      rw [hfound]
      simp only [joinAlternatives, joinItems_singles]
      exact ⟨_, rfl, rfl, rfl, rfl⟩
    obtain ⟨p, hwhole, hflags, htokens, hreferences⟩ := hread
    rw [compile, hwhole]
    simp only [bind, Except.bind, flagsOf, checkEnd, check_literal, hflags, htokens, hreferences]
    rfl

/-! ## Searching for a text -/

/-- A set of one character has the characters that are equal to it when case is ignored. -/
theorem containsAny_single (c d : Char) {f : Flags} (hcase : f.ignoreCase = true) (hascii : f.ascii = false) :
    containsAny f [.char c.toNat] d = Text.sameLetter c d := by
  have hvalid : c.toNat.isValidChar := c.valid
  rw [containsAny, SetItem.contains, Flags.sameChar, hcase, hascii, Char.ofNat_toNat]
  simp [hvalid]

/-- A match of a text starts with its first character. -/
theorem step_literal_cons (c : Char) (cs : List Char) (text : Array Char) (f : Flags) :
    (Node.literal (c :: cs)).step text f = fun a k =>
      Step.char text (fun d => containsAny f [.char c.toNat] d != false) a fun b =>
        (Node.literal cs).step text f b k := by
  cases cs with
  | nil => rfl
  | cons d cs => rfl

/-- A text is matched where it stands, and then the rest is tried behind it. -/
theorem isSome_step_literal {f : Flags} (hcase : f.ignoreCase = true) (hascii : f.ascii = false)
    (cs text : List Char) (a : Attempt) (k : Attempt → Option Attempt) :
    ((Node.literal cs).step text.toArray f a k).isSome = true ↔
      (∃ part behind, text.drop a.position = part ++ behind ∧ Text.SameLetters cs part) ∧
        (k { a with position := a.position + cs.length }).isSome = true := by
  induction cs generalizing a with
  | nil =>
    have hhere : ∃ part behind, text.drop a.position = part ++ behind ∧ Text.SameLetters [] part :=
      ⟨[], text.drop a.position, rfl, List.Forall₂.nil⟩
    exact (and_iff_right hhere).symm
  | cons c cs ih =>
    have hlength : a.position + (c :: cs).length = a.position + 1 + cs.length := by
      rw [List.length_cons]
      omega
    have hchar : ∀ d, (containsAny f [.char c.toNat] d != false) = Text.sameLetter c d := fun d => by
      rw [containsAny_single c d hcase hascii, Bool.bne_false]
    rw [step_literal_cons, hlength]
    simp only [hchar, Step.char, List.getElem?_toArray]
    -- Either the text goes on with the first letter, or the step fails at once.
    by_cases hfirst : ∃ d, text[a.position]? = some d ∧ Text.sameLetter c d = true
    · obtain ⟨d, hd, hletter⟩ := hfirst
      obtain ⟨hlt, rfl⟩ := List.getElem?_eq_some_iff.mp hd
      rw [hd, Option.any_some, if_pos hletter, ih]
      refine and_congr_left fun _ => ?_
      rw [List.drop_eq_getElem_cons hlt]
      constructor
      · rintro ⟨part, behind, hdrop, hpart⟩
        exact ⟨text[a.position] :: part, behind, by rw [hdrop, List.cons_append], hpart.cons hletter⟩
      · rintro ⟨_, behind, hdrop, hpart⟩
        obtain ⟨d, part, -, hrest, rfl⟩ := List.forall₂_cons_left_iff.mp hpart
        exact ⟨part, behind, (List.cons.inj hdrop).2, hrest⟩
    · have hnot : ¬ text[a.position]?.any (Text.sameLetter c) = true := by
        intro hany
        cases hd : text[a.position]? with
        | none =>
          rw [hd] at hany
          cases hany
        | some d =>
          rw [hd] at hany
          exact hfirst ⟨d, hd, hany⟩
      rw [if_neg hnot]
      refine iff_of_false (by simp) ?_
      rintro ⟨⟨_, behind, hdrop, hpart⟩, -⟩
      obtain ⟨d, part, hletter, -, rfl⟩ := List.forall₂_cons_left_iff.mp hpart
      refine hfirst ⟨d, ?_, hletter⟩
      rw [← Nat.add_zero a.position, ← List.getElem?_drop, hdrop]
      rfl

/-- **A search for the pattern of a text finds it exactly where the text occurs.** -/
theorem search_literal (s text : String) :
    (literal s).search text = true ↔ Text.OccursIn s text := by
  rw [search, List.any_eq_true]
  constructor
  · rintro ⟨i, -, hi⟩
    obtain ⟨⟨part, behind, hdrop, hpart⟩, -⟩ := (isSome_step_literal rfl rfl _ _ _ _).mp hi
    refine ⟨text.toList.take i, part, behind, ?_, hpart⟩
    rw [← hdrop, List.take_append_drop]
  · rintro ⟨before, part, behind, htext, hpart⟩
    refine ⟨before.length, ?_, (isSome_step_literal rfl rfl _ _ _ _).mpr ⟨⟨part, behind, ?_, hpart⟩, rfl⟩⟩
    · rw [List.mem_range, List.size_toArray, htext, List.length_append]
      omega
    · rw [htext, List.drop_left]

end Pattern

end SearchQuery
