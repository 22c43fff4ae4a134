import SearchQuery.Json.Reader

/-!
# The grammar of JSON

What a text says in JSON, told by relations instead of readers. `Says room cs v rest` means that `cs` starts
with a text of the value `v`, in which arrays and objects are nested no deeper than there is room, and goes on
with `rest`. An integer with too many digits has no value, nor has a bracket for which there is no room:
`Breaks room e cs` means that `cs` starts with something that could be a value, but has the one or the other,
as the defect `e` tells, where the first value that is not there would stand.

## Shape of the relations

A part ends where the rest starts, so each relation tells the rest, and the relations of the parts are put
together by their rests. A number is as long as it can be, and so are digits and blanks. So what comes next
is settled by the first characters that are left, and there is one rest at most.
-/

namespace SearchQuery.JsonText

open Number Text

/-! ## Texts -/

/-- Four hexadecimal digits. -/
def Hex (cs : List Char) (n : Nat) (rest : List Char) : Prop :=
  ∃ ds, ds.length = 4 ∧ ofHexDigits? ds = some n ∧ cs = ds ++ rest

/-- An escape, after its backslash. A first half of a character and a second half that comes next make one
character. -/
inductive Escapes : List Char → Piece → List Char → Prop
  | short {e c : Char} {rest : List Char} (h : shortEscape? e = some c) : Escapes (e :: rest) (.char c) rest
  | single {cs rest : List Char} {n : Nat} (hex : Hex cs n rest)
      (alone : isHighHalf n = true → ∀ cs', rest = '\\' :: 'u' :: cs' →
        ∃ m rest', Hex cs' m rest' ∧ isLowHalf m = false) :
      Escapes ('u' :: cs) (.ofNat n) rest
  | pair {cs cs' rest : List Char} {n m : Nat} (first : Hex cs n ('\\' :: 'u' :: cs'))
      (high : isHighHalf n = true) (second : Hex cs' m rest) (low : isLowHalf m = true) :
      Escapes ('u' :: cs) (.ofNat (0x10000 + (n - 0xd800) * 0x400 + (m - 0xdc00))) rest

/-- The pieces of a text up to its closing quote. -/
inductive Spells : List Char → List Piece → List Char → Prop
  | close (rest : List Char) : Spells ('"' :: rest) [] rest
  | plain {c : Char} {cs rest : List Char} {u : List Piece} (quote : c ≠ '"') (backslash : c ≠ '\\')
      (printed : 32 ≤ c.toNat) (tail : Spells cs u rest) :
      Spells (c :: cs) (.char c :: u) rest
  | escaped {p : Piece} {cs cs' rest : List Char} {u : List Piece} (head : Escapes cs p cs')
      (tail : Spells cs' u rest) : Spells ('\\' :: cs) (p :: u) rest

/-! ## Numbers -/

/-- Digits, as many as there are and at least one. -/
structure Digits (cs ds rest : List Char) : Prop where
  text : cs = ds ++ rest
  ne_nil : ds ≠ []
  digit : ∀ d ∈ ds, d.isDigit = true
  last : ∀ c ∈ rest.head?, c.isDigit = false

/-- The digits in front of the point, which start with `0` only if that is all. -/
inductive Whole : List Char → List Char → List Char → Prop
  | zero (rest : List Char) : Whole ('0' :: rest) ['0'] rest
  | digits {cs ds rest : List Char} (h : Digits cs ds rest) (first : cs.head? ≠ some '0') : Whole cs ds rest

/-- A fraction with its point, or none where there is none. -/
inductive Fraction : List Char → List Char → List Char → Prop
  | point {cs ds rest : List Char} (h : Digits cs ds rest) : Fraction ('.' :: cs) ('.' :: ds) rest
  | none {cs : List Char} (h : ∀ cs' ds rest, cs = '.' :: cs' → ¬ Digits cs' ds rest) : Fraction cs [] cs

/-- An exponent with its letter, or none where there is none. -/
inductive Exponent : List Char → List Char → List Char → Prop
  | letter {c : Char} {cs ds rest : List Char} (hc : c = 'e' ∨ c = 'E')
      (h : Digits (Numeral.sign cs).2 ds rest) :
      Exponent (c :: cs) ('e' :: ((Numeral.sign cs).1 ++ ds)) rest
  | none {cs : List Char}
      (h : ∀ c cs' ds rest, cs = c :: cs' → c = 'e' ∨ c = 'E' → ¬ Digits (Numeral.sign cs').2 ds rest) :
      Exponent cs [] cs

/-- A number: whether it has a minus sign, its digits in front of the point, and what comes behind them. -/
inductive Written : List Char → Bool → List Char → List Char → List Char → Prop
  | mk {cs cs₁ cs₂ whole f e rest : List Char} (negative : Bool) (hwhole : Whole cs whole cs₁)
      (hfraction : Fraction cs₁ f cs₂) (hexponent : Exponent cs₂ e rest) :
      Written ((if negative then ['-'] else []) ++ cs) negative whole (f ++ e) rest

/-! ## Values -/

mutual

/-- A value of any kind. -/
inductive Says : Nat → List Char → Datum → List Char → Prop
  | text {room : Nat} {cs rest : List Char} {u : List Piece} (h : Spells cs u rest) :
      Says room ('"' :: cs) (.text u) rest
  | word {room : Nat} {w : List Char} {v : Datum} (h : (w, v) ∈ words) (rest : List Char) :
      Says room (w ++ rest) v rest
  | infinity {room : Nat} (negative : Bool) (rest : List Char) :
      Says room ((if negative then ['-'] else []) ++ "Infinity".toList ++ rest)
        (.float (.infinity negative)) rest
  | int {room : Nat} {cs whole rest : List Char} {negative : Bool} (h : Written cs negative whole [] rest)
      (hdigits : whole.length ≤ maxDigits) :
      Says room cs (.int (if negative then -(natOfDigits whole : Int) else natOfDigits whole)) rest
  | float {room : Nat} {cs whole tail rest : List Char} {negative : Bool} {x : Binary64}
      (h : Written cs negative whole tail rest) (htail : tail ≠ [])
      (hx : floatOfPlain? 0 ((if negative then ['-'] else []) ++ whole ++ tail) = some x) :
      Says room cs (.float x) rest
  | emptyList {room : Nat} {cs rest : List Char} (h : cs.dropWhile isGap = ']' :: rest) :
      Says (room + 1) ('[' :: cs) (.list []) rest
  | list {room : Nat} {cs rest : List Char} {vs : List Datum}
      (h : Elements room (cs.dropWhile isGap) vs rest) :
      Says (room + 1) ('[' :: cs) (.list vs) rest
  | emptyDict {room : Nat} {cs rest : List Char} (h : cs.dropWhile isGap = '\x7d' :: rest) :
      Says (room + 1) ('\x7b' :: cs) (.dict []) rest
  | dict {room : Nat} {cs rest : List Char} {es : List (List Piece × Datum)}
      (h : Members room (cs.dropWhile isGap) es rest) :
      Says (room + 1) ('\x7b' :: cs) (.dictOf es) rest

/-- The elements of an array, with its closing bracket. -/
inductive Elements : Nat → List Char → List Datum → List Char → Prop
  | last {room : Nat} {cs cs' rest : List Char} {v : Datum} (h : Says room cs v cs')
      (close : cs'.dropWhile isGap = ']' :: rest) : Elements room cs [v] rest
  | cons {room : Nat} {cs cs₁ cs₂ rest : List Char} {v : Datum} {vs : List Datum} (h : Says room cs v cs₁)
      (comma : cs₁.dropWhile isGap = ',' :: cs₂) (tail : Elements room (cs₂.dropWhile isGap) vs rest) :
      Elements room cs (v :: vs) rest

/-- The members of an object, with its closing brace. -/
inductive Members : Nat → List Char → List (List Piece × Datum) → List Char → Prop
  | last {room : Nat} {cs cs₁ cs₂ cs₃ rest : List Char} {u : List Piece} {v : Datum} (name : Spells cs u cs₁)
      (colon : cs₁.dropWhile isGap = ':' :: cs₂) (h : Says room (cs₂.dropWhile isGap) v cs₃)
      (close : cs₃.dropWhile isGap = '\x7d' :: rest) : Members room ('"' :: cs) [(u, v)] rest
  | cons {room : Nat} {cs cs₁ cs₂ cs₃ cs₄ rest : List Char} {u : List Piece} {v : Datum}
      {es : List (List Piece × Datum)} (name : Spells cs u cs₁) (colon : cs₁.dropWhile isGap = ':' :: cs₂)
      (h : Says room (cs₂.dropWhile isGap) v cs₃) (comma : cs₃.dropWhile isGap = ',' :: cs₄)
      (tail : Members room (cs₄.dropWhile isGap) es rest) : Members room ('"' :: cs) ((u, v) :: es) rest

end

mutual

/-- Reading a value comes to an integer with too many digits, or to a bracket for which there is no room. -/
inductive Breaks : Nat → Defect → List Char → Prop
  | int {room : Nat} {cs whole rest : List Char} {negative : Bool} (h : Written cs negative whole [] rest)
      (hdigits : maxDigits < whole.length) : Breaks room .tooManyDigits cs
  | deepList (cs : List Char) : Breaks 0 .tooDeep ('[' :: cs)
  | list {room : Nat} {e : Defect} {cs : List Char} (h : ElementsBreak room e (cs.dropWhile isGap)) :
      Breaks (room + 1) e ('[' :: cs)
  | deepDict (cs : List Char) : Breaks 0 .tooDeep ('\x7b' :: cs)
  | dict {room : Nat} {e : Defect} {cs : List Char} (h : MembersBreak room e (cs.dropWhile isGap)) :
      Breaks (room + 1) e ('\x7b' :: cs)

/-- Reading the elements of an array comes to something that has no value. -/
inductive ElementsBreak : Nat → Defect → List Char → Prop
  | here {room : Nat} {e : Defect} {cs : List Char} (h : Breaks room e cs) : ElementsBreak room e cs
  | later {room : Nat} {e : Defect} {cs cs₁ cs₂ : List Char} {v : Datum} (h : Says room cs v cs₁)
      (comma : cs₁.dropWhile isGap = ',' :: cs₂) (tail : ElementsBreak room e (cs₂.dropWhile isGap)) :
      ElementsBreak room e cs

/-- Reading the members of an object comes to something that has no value. -/
inductive MembersBreak : Nat → Defect → List Char → Prop
  | here {room : Nat} {e : Defect} {cs cs₁ cs₂ : List Char} {u : List Piece} (name : Spells cs u cs₁)
      (colon : cs₁.dropWhile isGap = ':' :: cs₂) (h : Breaks room e (cs₂.dropWhile isGap)) :
      MembersBreak room e ('"' :: cs)
  | later {room : Nat} {e : Defect} {cs cs₁ cs₂ cs₃ cs₄ : List Char} {u : List Piece} {v : Datum}
      (name : Spells cs u cs₁) (colon : cs₁.dropWhile isGap = ':' :: cs₂)
      (h : Says room (cs₂.dropWhile isGap) v cs₃) (comma : cs₃.dropWhile isGap = ',' :: cs₄)
      (tail : MembersBreak room e (cs₄.dropWhile isGap)) : MembersBreak room e ('"' :: cs)

end

/-- A text says a value, with blanks around it. -/
def IsJson (m : Machine) (s : String) (v : Datum) : Prop :=
  ∃ rest, Says m.frames (s.toList.dropWhile isGap) v rest ∧ rest.dropWhile isGap = []

/-- Reading a text comes to an integer with too many digits, before it comes to anything else that has no
value. -/
def IsOverlong (m : Machine) (s : String) : Prop :=
  Breaks m.frames .tooManyDigits (s.toList.dropWhile isGap)

/-- Reading a text comes to an array or an object that is nested too deep, before it comes to anything else
that has no value. -/
def IsTooDeep (m : Machine) (s : String) : Prop :=
  Breaks m.frames .tooDeep (s.toList.dropWhile isGap)

/-! ## What is left stands behind what was told -/

/-- `rest` is an end of `cs`, and at least one character stands before it. -/
structure Before (cs rest : List Char) : Prop where
  suffix : rest <:+ cs
  length_lt : rest.length < cs.length

namespace Before

variable {cs mid rest : List Char} {p : Char → Bool} {c : Char}

/-- What stands before a part of a text stands before what is behind that part. -/
theorem suffix_trans (h : Before mid rest) (hmid : mid <:+ cs) : Before cs rest :=
  ⟨h.suffix.trans hmid, Nat.lt_of_lt_of_le h.length_lt hmid.length_le⟩

theorem trans_suffix (h : Before cs mid) (hrest : rest <:+ mid) : Before cs rest :=
  ⟨hrest.trans h.suffix, Nat.lt_of_le_of_lt hrest.length_le h.length_lt⟩

theorem trans (h : Before cs mid) (h' : Before mid rest) : Before cs rest :=
  h.trans_suffix h'.suffix

theorem cons (c : Char) (rest : List Char) : Before (c :: rest) rest :=
  ⟨List.suffix_cons c rest, Nat.lt_succ_self _⟩

theorem append {front : List Char} (h : front ≠ []) (rest : List Char) : Before (front ++ rest) rest :=
  ⟨List.suffix_append front rest, by simpa using List.length_pos_iff.mpr h⟩

/-- What stands behind blanks stands behind all that comes before them. -/
theorem of_dropWhile (h : Before (cs.dropWhile p) rest) : Before cs rest :=
  h.suffix_trans (List.dropWhile_suffix p)

theorem of_dropWhile_eq (h : cs.dropWhile p = c :: rest) : Before cs rest :=
  of_dropWhile (h ▸ cons c rest)

end Before

variable {cs rest : List Char}

/-- Digits in base sixteen are read from the front. -/
theorem Hex.suffix {n : Nat} (h : Hex cs n rest) : rest <:+ cs := by
  obtain ⟨ds, -, -, rfl⟩ := h
  exact List.suffix_append ds rest

/-- An escape has a character. -/
theorem Escapes.before {p : Piece} (h : Escapes cs p rest) : Before cs rest := by
  cases h with
  | short h => exact .cons _ rest
  | single hex alone => exact (Before.cons _ _).trans_suffix hex.suffix
  | pair first high second low =>
    have hsecond : Before _ _ := (Before.cons '\\' _).trans ((Before.cons 'u' _).trans_suffix second.suffix)
    exact (Before.cons _ _).trans (hsecond.suffix_trans first.suffix)

/-- What is spelled has a character, if only its closing quote. -/
theorem Spells.before {u : List Piece} (h : Spells cs u rest) : Before cs rest := by
  induction h with
  | close rest => exact .cons '"' rest
  | plain quote backslash printed tail ih => exact (Before.cons _ _).trans ih
  | escaped head tail ih => exact (Before.cons _ _).trans (head.before.trans ih)

/-- There is a digit. -/
theorem Digits.before {ds : List Char} (h : Digits cs ds rest) : Before cs rest := by
  obtain ⟨rfl, hne, -, -⟩ := h
  exact .append hne rest

theorem Whole.before {ds : List Char} (h : Whole cs ds rest) : Before cs rest := by
  cases h with
  | zero => exact .cons '0' rest
  | digits h _ => exact h.before

/-- A fraction may be missing. -/
theorem Fraction.suffix {f : List Char} (h : Fraction cs f rest) : rest <:+ cs := by
  cases h with
  | point h => exact ((Before.cons _ _).trans h.before).suffix
  | none => exact List.suffix_refl cs

theorem suffix_sign (cs : List Char) : (Numeral.sign cs).2 <:+ cs := by
  rw [Numeral.sign.eq_def]
  split
  next => exact List.suffix_cons _ _
  next => exact List.suffix_cons _ _
  next => exact List.suffix_refl _

/-- An exponent may be missing. -/
theorem Exponent.suffix {e : List Char} (h : Exponent cs e rest) : rest <:+ cs := by
  cases h with
  | letter hc h => exact ((Before.cons _ _).trans (h.before.suffix_trans (suffix_sign _))).suffix
  | none => exact List.suffix_refl cs

/-- A number has a digit. -/
theorem Written.before {negative : Bool} {whole tail : List Char} (h : Written cs negative whole tail rest) :
    Before cs rest := by
  obtain ⟨negative, hwhole, hfraction, hexponent⟩ := h
  exact (hwhole.before.trans_suffix (hexponent.suffix.trans hfraction.suffix)).suffix_trans
    (List.suffix_append _ _)

mutual

/-- A value has a character. -/
theorem Says.before : ∀ {room cs v rest}, Says room cs v rest → Before cs rest
  | _, _, _, _, .text h => (Before.cons _ _).trans h.before
  | _, _, _, _, @Says.word _ w v h rest => by
    have hne : ∀ w ∈ words, w.1 ≠ [] := by decide
    exact .append (hne (w, v) h) rest
  | _, _, _, _, .infinity negative rest => .append (by simp) rest
  | _, _, _, _, .int h _ => h.before
  | _, _, _, _, .float h _ _ => h.before
  | _, _, _, _, .emptyList h => (Before.cons _ _).trans (.of_dropWhile_eq h)
  | _, _, _, _, .list h => (Before.cons _ _).trans (Elements.before h).of_dropWhile
  | _, _, _, _, .emptyDict h => (Before.cons _ _).trans (.of_dropWhile_eq h)
  | _, _, _, _, .dict h => (Before.cons _ _).trans (Members.before h).of_dropWhile

/-- So have elements. -/
theorem Elements.before : ∀ {room cs vs rest}, Elements room cs vs rest → Before cs rest
  | _, _, _, _, .last h close => (Says.before h).trans (.of_dropWhile_eq close)
  | _, _, _, _, .cons h comma tail =>
    (Says.before h).trans ((Before.of_dropWhile_eq comma).trans (Elements.before tail).of_dropWhile)

/-- So have members. -/
theorem Members.before : ∀ {room cs es rest}, Members room cs es rest → Before cs rest
  | _, _, _, _, .last name colon h close =>
    (Before.cons _ _).trans <| name.before.trans <| (Before.of_dropWhile_eq colon).trans <|
      (Says.before h).of_dropWhile.trans (.of_dropWhile_eq close)
  | _, _, _, _, .cons name colon h comma tail =>
    (Before.cons _ _).trans <| name.before.trans <| (Before.of_dropWhile_eq colon).trans <|
      (Says.before h).of_dropWhile.trans <| (Before.of_dropWhile_eq comma).trans
        (Members.before tail).of_dropWhile

end

/-! ## Texts that are too much for the reader -/

/-- A digit is no blank. -/
theorem isGap_of_isDigit {c : Char} (h : c.isDigit = true) : isGap c = false := by
  have hgaps : ∀ c ∈ [' ', '\t', '\n', '\r'], c.isDigit = false := by simp
  refine Bool.eq_false_iff.mpr fun hgap => ?_
  have hmem : c ∈ [' ', '\t', '\n', '\r'] := by simpa [isGap, or_assoc] using hgap
  simp [hgaps c hmem] at h

/-- Nothing but digits, and more than an integer may have. -/
theorem isOverlong_of_digits {ds : List Char} (hdigit : ∀ d ∈ ds, d.isDigit = true)
    (hfirst : ds.head? ≠ some '0') (hlength : maxDigits < ds.length) (m : Machine) :
    IsOverlong m (String.ofList ds) := by
  have hne : ds ≠ [] := List.ne_nil_of_length_pos (Nat.lt_of_le_of_lt (Nat.zero_le _) hlength)
  have hdigits : Digits ds ds [] := ⟨(List.append_nil ds).symm, hne, hdigit, by simp⟩
  have hwritten : Written ds false ds [] [] :=
    .mk false (.digits hdigits hfirst) (.none (by simp)) (.none (by simp))
  have hgap : ds.dropWhile isGap = ds := by
    cases ds with
    | nil => rfl
    | cons d ds =>
      have hgap : isGap d = false := isGap_of_isDigit (hdigit d List.mem_cons_self)
      rw [List.dropWhile_cons, hgap, if_neg Bool.false_ne_true]
  rw [IsOverlong, String.toList_ofList, hgap]
  exact .int hwritten hlength

/-- Brackets are no blanks. -/
theorem dropWhile_isGap_brackets (n : Nat) :
    (List.replicate n '[').dropWhile isGap = List.replicate n '[' := by
  cases n with
  | zero => rfl
  | succ n => rw [List.replicate_succ, List.dropWhile_cons_of_neg (by decide)]

/-- Too many brackets break, for there is no room for the last ones. -/
theorem breaks_of_brackets {room n : Nat} (h : room < n) : Breaks room .tooDeep (List.replicate n '[') := by
  induction room generalizing n with
  | zero =>
    obtain ⟨n, rfl⟩ := Nat.exists_eq_add_one.mpr h
    exact .deepList _
  | succ room ih =>
    obtain ⟨n, rfl⟩ := Nat.exists_eq_add_one.mpr (Nat.zero_lt_of_lt h)
    refine .list (.here ?_)
    rw [dropWhile_isGap_brackets]
    exact ih (Nat.lt_of_succ_lt_succ h)

/-- Nothing but opening brackets, and more than there is room for. -/
theorem isTooDeep_of_brackets {m : Machine} {n : Nat} (h : m.frames < n) :
    IsTooDeep m (String.ofList (List.replicate n '[')) := by
  rw [IsTooDeep, String.toList_ofList, dropWhile_isGap_brackets]
  exact breaks_of_brackets h

end SearchQuery.JsonText
