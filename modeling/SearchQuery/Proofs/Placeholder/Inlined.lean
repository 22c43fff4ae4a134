import SearchQuery.Proofs.Placeholder.Binding
import SearchQuery.Statement.Rendered

/-!
# Statements with their parameters in place

A statement for display is the text of the fragment with literals in the places of its placeholders. The
escapes of colons are restored at the end, when the literals are in the text already, so a backslash of a
parameter is lost where it looks like an escape (`HoldsEscape`). This is the only thing that restoring
does to a literal, and it does nothing else to the text of the fragment (`render_inlines`).

## Shape of the argument

`unescape` looks ahead past one word. The text that follows a colon or a backslash of the fragment goes on
with a colon at a placeholder that clashes only (`head?_dropWhile_filled`), so the fragment comes back as it
was. A literal ends in a quote or holds no backslash, so what is restored in it does not depend on what
stands behind it (`unescape_literal_append`).
-/

namespace SearchQuery

open Text

namespace Statement

/-! ## Texts that look like escapes -/

/-- A backslash and a colon stand in the text, and no other colon behind the word that follows. -/
def HoldsEscape (cs : List Char) : Prop :=
  ∃ front back, cs = front ++ '\\' :: ':' :: back ∧ (back.dropWhile isWordChar).head? ≠ some ':'

theorem not_holdsEscape_nil : ¬ HoldsEscape [] := by
  rintro ⟨front, back, h, -⟩
  simp at h

/-- An escape stands at the front or behind it. -/
theorem holdsEscape_cons {c : Char} {cs : List Char} :
    HoldsEscape (c :: cs) ↔
      (c = '\\' ∧ ∃ back, cs = ':' :: back ∧ (back.dropWhile isWordChar).head? ≠ some ':') ∨
        HoldsEscape cs := by
  constructor
  · rintro ⟨front, back, h, hback⟩
    cases front with
    | nil =>
      obtain ⟨rfl, rfl⟩ := List.cons.inj h
      exact Or.inl ⟨rfl, back, rfl, hback⟩
    | cons d front => exact Or.inr ⟨front, back, (List.cons.inj h).2, hback⟩
  · rintro (⟨rfl, back, rfl, hback⟩ | ⟨front, back, rfl, hback⟩)
    · exact ⟨[], back, rfl, hback⟩
    · exact ⟨c :: front, back, rfl, hback⟩

/-- Restoring leaves a text as it is exactly if nothing in it looks like an escape. -/
theorem unescape_eq_self_iff (cs : List Char) : unescape cs = cs ↔ ¬ HoldsEscape cs := by
  fun_induction unescape cs with
  | case1 cs hcolon ih =>
    have hhead : (cs.dropWhile isWordChar).head? = some ':' := by simpa using hcolon
    have hkept : HoldsEscape ('\\' :: ':' :: cs) ↔ HoldsEscape cs := by
      rw [holdsEscape_cons, holdsEscape_cons]
      simp [hhead]
    simp [hkept, ih]
  | case2 cs hcolon ih =>
    have hhead : (cs.dropWhile isWordChar).head? ≠ some ':' := by simpa using hcolon
    refine iff_of_false ?_ (not_not_intro ⟨[], cs, rfl, hhead⟩)
    intro h
    exact absurd (List.cons.inj h).1 (by decide)
  | case3 c cs hnone ih =>
    have hkept : HoldsEscape (c :: cs) ↔ HoldsEscape cs := by
      rw [holdsEscape_cons]
      refine or_iff_right ?_
      rintro ⟨rfl, back, rfl, -⟩
      exact hnone back rfl rfl
    simp [hkept, ih]
  | case4 => simp [not_holdsEscape_nil]

/-- Restoring only takes characters out. -/
theorem unescape_sublist (cs : List Char) : (unescape cs).Sublist cs := by
  fun_induction unescape cs with
  | case1 cs _ ih => exact (ih.cons_cons ':').cons_cons '\\'
  | case2 cs _ ih => exact (ih.cons_cons ':').cons '\\'
  | case3 c cs _ ih => exact ih.cons_cons c
  | case4 => exact List.Sublist.refl []

/-- What is restored in front of a character that is no part of an escape does not depend on what follows. -/
theorem unescape_append_cons {c : Char} (hword : isWordChar c = false) (hsign : c ≠ ':' ∧ c ≠ '\\')
    (front back : List Char) :
    unescape (front ++ c :: back) = unescape front ++ c :: unescape back := by
  -- Whether a colon follows a word is told before the sign.
  have hahead : ∀ ds : List Char, ((ds ++ c :: back).dropWhile isWordChar).head? = some ':' ↔
      (ds.dropWhile isWordChar).head? = some ':' := by
    intro ds
    induction ds with
    | nil => simp [hword, hsign.1]
    | cons d ds ih => by_cases hd : isWordChar d <;> simp [hd, ih]
  fun_induction unescape front with
  | case1 cs hcolon ih =>
    have hhead : (cs.dropWhile isWordChar).head? = some ':' := by simpa using hcolon
    rw [List.cons_append, List.cons_append, unescape, if_pos (by simpa using (hahead cs).mpr hhead), ih]
    rfl
  | case2 cs hcolon ih =>
    have hhead : (cs.dropWhile isWordChar).head? ≠ some ':' := by simpa using hcolon
    rw [List.cons_append, List.cons_append, unescape,
      if_neg (by simpa using fun h => hhead ((hahead cs).mp h)), ih]
    rfl
  | case3 d cs hnone ih =>
    rw [List.cons_append, unescape_cons, ih, List.cons_append]
    rintro ⟨rfl, hhead⟩
    cases cs with
    | nil => exact hsign.1 (by simpa using hhead)
    | cons e es =>
      obtain rfl : e = ':' := by simpa using hhead
      exact hnone es rfl rfl
  | case4 =>
    rw [List.nil_append, unescape_cons fun h => hsign.2 h.1]
    rfl

/-! ## Literals -/

/-- The text that the literal of a value shows between quotes, if it shows one. -/
def literalText? : Value → Option String
  | .text s => some s
  | .bytes bs => String.fromUTF8? ⟨bs.toArray⟩
  | .date d => some d.text
  | .moment m => some (m.text " ")
  | .time t => some t.text
  | _ => none

/-- The value has a literal, and the literal can be written. -/
def IsRenderable (v : Value) : Prop :=
  v.isTooLong = false ∧ (sqlLiteral? v).isSome = true

instance (v : Value) : Decidable (IsRenderable v) :=
  inferInstanceAs (Decidable (_ ∧ _))

/-- The literal of a value. -/
def literalOf (v : Value) : List Char :=
  ((sqlLiteral? v).getD "").toList

/-- The literal of a value as it is shown. -/
def shownLiteral (v : Value) : List Char :=
  unescape (literalOf v)

/-- The text of a fragment with the parameters in the places of its placeholders. -/
def inlined (literal : Value → List Char) (f : Fragment Value) : String :=
  String.ofList
    (substituted (fun c => [c]) (fun i => f.params[i]?.elim [] literal) f.sql.toList)

/-- A literal shows a text between quotes, or it is a constant or a number. -/
theorem sqlLiteral?_of_literalText? {v : Value} {s : String} (h : literalText? v = some s) :
    sqlLiteral? v = some (sqlQuoted s) := by
  cases v <;> simp_all [literalText?, sqlLiteral?]

/-! Numbers are written without a backslash. -/

/-- A natural number is written without a backslash. -/
theorem not_mem_toDigits (n : ℕ) : '\\' ∉ Nat.toDigits 10 n := fun h =>
  absurd (Nat.isDigit_of_mem_toDigits (by decide) (by decide) h) (by decide)

theorem not_mem_toString_nat (n : ℕ) : '\\' ∉ (toString n).toList := by
  rw [Nat.toString_eq_repr, Nat.repr, String.toList_ofList]
  exact not_mem_toDigits n

/-- So is an integer. -/
theorem not_mem_toString_int (n : ℤ) : '\\' ∉ (toString n).toList := by
  cases n with
  | ofNat n => exact not_mem_toString_nat n
  | negSucc n =>
    have h : toString (Int.negSucc n) = "-" ++ toString (n + 1) := rfl
    rw [h, String.toList_append, List.mem_append, not_or]
    exact ⟨by decide, not_mem_toString_nat _⟩

theorem not_mem_take_toDigits (k n : ℕ) : '\\' ∉ (Nat.toDigits 10 n).take k := fun h =>
  not_mem_toDigits n (List.mem_of_mem_take h)

theorem not_mem_drop_toDigits (k n : ℕ) : '\\' ∉ (Nat.toDigits 10 n).drop k := fun h =>
  not_mem_toDigits n (List.mem_of_mem_drop h)

theorem not_mem_tail_toDigits (n : ℕ) : '\\' ∉ (Nat.toDigits 10 n).tail := fun h =>
  not_mem_toDigits n (List.mem_of_mem_tail h)

/-- So is a number of floating point. -/
theorem not_mem_digits_text (style : Binary64.PointStyle) (d : Binary64.Digits) :
    '\\' ∉ d.text style := by
  simp only [Binary64.Digits.text]
  split_ifs <;> simp [not_mem_toDigits, not_mem_take_toDigits, not_mem_drop_toDigits,
    not_mem_tail_toDigits]

theorem not_mem_binary64_text (x : Binary64) : '\\' ∉ x.text.toList := by
  cases x with
  | nan label => exact (by decide : '\\' ∉ "nan".toList)
  | infinity negative => cases negative <;> decide
  | finite negative m e =>
    have hbody := not_mem_digits_text Binary64.positional (Binary64.RoundingInterval.ofParts m e).shortest
    simp only [Binary64.text, String.toList_ofList]
    split_ifs <;> simp [hbody]

/-- So is a decimal. -/
theorem not_mem_decimal_text (d : Decimal) : '\\' ∉ d.text.toList := by
  cases d with
  | infinity negative => cases negative <;> decide
  | nan negative signalling payload label =>
    simp only [Decimal.text, String.toList_append]
    split_ifs <;> simp [not_mem_toDigits]
  | finite negative c e =>
    simp only [Decimal.text, String.toList_ofList]
    split_ifs <;> simp [not_mem_toDigits, not_mem_take_toDigits, not_mem_drop_toDigits,
      not_mem_tail_toDigits]

/-- A literal that shows no text between quotes holds no backslash. -/
theorem not_mem_literalOf {v : Value} (h : literalText? v = none) : '\\' ∉ literalOf v := by
  rw [literalOf]
  cases v with
  | null => decide
  | bool b => cases b <;> decide
  | int n => exact not_mem_toString_int n
  | float x => exact not_mem_binary64_text x
  | decimal d => exact not_mem_decimal_text d
  | bytes bs =>
    rw [literalText?] at h
    rw [sqlLiteral?, h]
    decide
  | text s => cases h
  | date d => cases h
  | moment m => cases h
  | time t => cases h
  | _ => exact (by decide : '\\' ∉ "".toList)

/-! ## Texts between quotes -/

/-- A text with its single quotes written twice. -/
def doubled (cs : List Char) : List Char :=
  cs.flatMap fun c => if c = apostrophe then [c, c] else [c]

/-- An apostrophe is doubled. -/
theorem doubled_cons_quote (cs : List Char) :
    doubled (apostrophe :: cs) = apostrophe :: apostrophe :: doubled cs := by
  simp [doubled]

/-- Any other character stays single. -/
theorem doubled_cons {c : Char} (hc : c ≠ apostrophe) (cs : List Char) :
    doubled (c :: cs) = c :: doubled cs := by
  simp [doubled, hc]

/-- A text is quoted by apostrophes. -/
theorem toList_sqlQuoted (s : String) :
    (sqlQuoted s).toList = apostrophe :: (doubled s.toList ++ [apostrophe]) := by
  simp [sqlQuoted, doubled]

/-- The text between single quotes, and the end of the literal behind it. -/
def readQuoted? : List Char → Option (List Char)
  | [] => none
  | [c] => if c = apostrophe then some [] else none
  | c :: d :: cs =>
    if c = apostrophe then
      if d = apostrophe then (readQuoted? cs).map (apostrophe :: ·) else none
    else (readQuoted? (d :: cs)).map (c :: ·)

/-- The text that a literal shows between single quotes, where two quotes stand for one. -/
def readLiteral? : List Char → Option (List Char)
  | [] => none
  | c :: cs => if c = apostrophe then readQuoted? cs else none

/-- A doubled text is read back. -/
theorem readQuoted?_doubled (cs : List Char) : readQuoted? (doubled cs ++ [apostrophe]) = some cs := by
  induction cs with
  | nil => rfl
  | cons c cs ih =>
    by_cases hc : c = apostrophe
    · subst hc
      rw [doubled_cons_quote, List.cons_append, List.cons_append, readQuoted?, if_pos rfl, if_pos rfl, ih]
      rfl
    · obtain ⟨d, ds, hds⟩ := List.exists_cons_of_ne_nil
        (List.append_ne_nil_of_right_ne_nil (doubled cs) (List.cons_ne_nil apostrophe []))
      rw [doubled_cons hc, List.cons_append, hds, readQuoted?, if_neg hc, ← hds, ih]
      rfl

/-- A quoted text is read back as a literal. -/
theorem readLiteral?_sqlQuoted (s : String) : readLiteral? (sqlQuoted s).toList = some s.toList := by
  rw [toList_sqlQuoted, readLiteral?, if_pos rfl, readQuoted?_doubled]

/-- Quotes change nothing of the word behind a colon. -/
theorem head?_dropWhile_doubled (cs : List Char) :
    ((doubled cs).dropWhile isWordChar).head? = (cs.dropWhile isWordChar).head? := by
  induction cs with
  | nil => rfl
  | cons c cs ih =>
    by_cases hc : c = apostrophe
    · subst hc
      rw [doubled_cons_quote, List.dropWhile_cons_of_neg (by decide),
        List.dropWhile_cons_of_neg (by decide)]
      rfl
    · rw [doubled_cons hc]
      by_cases hword : isWordChar c = true
      · rw [List.dropWhile_cons_of_pos hword, List.dropWhile_cons_of_pos hword, ih]
      · rw [List.dropWhile_cons_of_neg hword, List.dropWhile_cons_of_neg hword]
        rfl

/-- Restoring does the same to a text with its quotes written twice. -/
theorem unescape_doubled (cs : List Char) : unescape (doubled cs) = doubled (unescape cs) := by
  have hslash : '\\' ≠ apostrophe := by decide
  have hcolon : ':' ≠ apostrophe := by decide
  fun_induction unescape cs with
  | case1 cs h ih =>
    rw [doubled_cons hslash, doubled_cons hcolon, unescape, head?_dropWhile_doubled, if_pos h, ih,
      doubled_cons hslash, doubled_cons hcolon]
  | case2 cs h ih =>
    rw [doubled_cons hslash, doubled_cons hcolon, unescape, head?_dropWhile_doubled, if_neg h, ih,
      doubled_cons hcolon]
  | case3 c cs hnone ih =>
    by_cases hc : c = apostrophe
    · subst hc
      rw [doubled_cons_quote, doubled_cons_quote, unescape_cons (by simp [apostrophe]),
        unescape_cons (by simp [apostrophe]), ih]
    · rw [doubled_cons hc, doubled_cons hc, unescape_cons, ih]
      rintro ⟨rfl, hhead⟩
      cases cs with
      | nil => simp [doubled] at hhead
      | cons d ds =>
        by_cases hd : d = apostrophe
        · subst hd
          rw [doubled_cons_quote] at hhead
          exact absurd (Option.some.inj hhead) (by decide)
        · rw [doubled_cons hd] at hhead
          exact hnone ds rfl (by simpa using hhead)
  | case4 => rfl

/-- What is shown of a text is the restored text between quotes. -/
theorem shownLiteral_of_literalText? {v : Value} {s : String} (h : literalText? v = some s) :
    shownLiteral v = (sqlQuoted (String.ofList (unescape s.toList))).toList := by
  have hword : isWordChar apostrophe = false := by decide
  have hsign : apostrophe ≠ ':' ∧ apostrophe ≠ '\\' := by decide
  rw [shownLiteral, literalOf, sqlLiteral?_of_literalText? h, Option.getD_some, toList_sqlQuoted,
    toList_sqlQuoted, String.toList_ofList, unescape_cons (by simp [apostrophe]),
    unescape_append_cons hword hsign, unescape_doubled]
  rfl

/-- What is restored in a literal does not depend on what stands behind it. -/
theorem unescape_literalOf_append (v : Value) (cs : List Char) :
    unescape (literalOf v ++ cs) = shownLiteral v ++ unescape cs := by
  cases h : literalText? v with
  | none =>
    have hplain := not_mem_literalOf h
    have hself := unescape_append hplain []
    rw [List.append_nil, unescape, List.append_nil] at hself
    rw [unescape_append hplain, shownLiteral, hself]
  | some s =>
    have hword : isWordChar apostrophe = false := by decide
    have hsign : apostrophe ≠ ':' ∧ apostrophe ≠ '\\' := by decide
    have hquoted : literalOf v = apostrophe :: doubled s.toList ++ [apostrophe] := by
      rw [literalOf, sqlLiteral?_of_literalText? h, Option.getD_some, toList_sqlQuoted,
        List.cons_append]
    rw [shownLiteral, hquoted, List.append_assoc, List.singleton_append,
      unescape_append_cons hword hsign, unescape_append_cons hword hsign, List.append_assoc]
    rfl

/-! ## Filling in and restoring -/

section Filled

variable {fill : List Char → List Char} {front : List Char} {last : Option Char} {cs : List Char}
  (ht : Trails front last)

include ht

/-- What is filled in for a placeholder that does not clash stands in its place. -/
theorem withNames_numbered_placeholder {c : Char} (h : c = '?' ∧ Even (front.count apostrophe))
    (hclean : ¬ Clashes (front ++ c :: cs) front.length) (n : ℕ) :
    withNames fill 0 last (numbered (quotedAfter front) last n (c :: cs)) =
      (if IsSetApart front front.length then [' '] else []) ++ (fill (placeholderName n) ++
        withNames fill 0 (placeholderName n).getLast?
          (numbered (quotedAfter (front ++ [c])) (placeholderName n).getLast? (n + 1) cs)) := by
  rw [Clashes, IsSigned, List.take_left, List.drop_length_add_append, List.drop_one, List.tail_cons,
    not_or] at hclean
  have hname := nameAt?_numbered ht h n cs
  rw [if_neg hclean.1, takeWhile_eq_nil_iff.mpr hclean.2, List.append_nil] at hname
  rw [numbered_cons_placeholder ht h, withNames_spaced fill _ hname]

/-- Behind word characters the filled text goes on with a colon only where a placeholder comes next that
is not set apart. -/
theorem head?_dropWhile_filled
    (hclean : ∀ k, IsPlaceholder (front ++ cs) k → ¬ Clashes (front ++ cs) k) {n : ℕ}
    (h : ((withNames fill 0 last (numbered (quotedAfter front) last n cs)).dropWhile
      isWordChar).head? = some ':') :
    IsPlaceholder (front ++ cs) front.length ∧ ¬ IsSetApart front front.length := by
  induction cs generalizing front last with
  | nil => simp [numbered, withNames] at h
  | cons c cs ih =>
    by_cases hp : c = '?' ∧ Even (front.count apostrophe)
    · have hhere := (isPlaceholder_length front c cs).mpr hp
      refine ⟨hhere, fun hset => ?_⟩
      rw [withNames_numbered_placeholder ht hp (hclean _ hhere), if_pos hset, List.singleton_append,
        List.dropWhile_cons_of_neg (by decide), List.head?_cons] at h
      exact absurd (Option.some.inj h) (by decide)
    · exfalso
      rw [numbered_cons_other last hp, withNames_escaped] at h
      by_cases hword : isWordChar c = true
      · have hcolon : c ≠ ':' := fun hc => absurd (hc ▸ hword) (by decide)
        rw [escaped, if_neg hcolon, List.singleton_append, List.dropWhile_cons_of_pos hword] at h
        exact (ih (Trails.other hp) (by simpa using hclean) h).2
          ((isSetApart_concat front c).mpr (Or.inl hword))
      · by_cases hcolon : c = ':'
        · rw [escaped, if_pos hcolon, List.cons_append, List.dropWhile_cons_of_neg (by decide),
            List.head?_cons] at h
          exact absurd (Option.some.inj h) (by decide)
        · rw [escaped, if_neg hcolon, List.singleton_append, List.dropWhile_cons_of_neg hword,
            List.head?_cons] at h
          exact hcolon (Option.some.inj h)

omit ht in
/-- A character of the text is restored, whatever is filled in behind it. -/
theorem unescape_escaped_filled {c : Char} (h : ¬ (c = '?' ∧ Even (front.count apostrophe)))
    (hclean : ∀ k, IsPlaceholder (front ++ c :: cs) k → ¬ Clashes (front ++ c :: cs) k) (n : ℕ) :
    unescape (escaped c ++ withNames fill 0 (some c)
        (numbered (quotedAfter (front ++ [c])) (some c) n cs)) =
      c :: unescape (withNames fill 0 (some c)
        (numbered (quotedAfter (front ++ [c])) (some c) n cs)) := by
  have hclean' : ∀ k, IsPlaceholder (front ++ [c] ++ cs) k → ¬ Clashes (front ++ [c] ++ cs) k := by
    simpa using hclean
  -- A placeholder right behind a colon or a backslash clashes.
  have hnext : c = ':' ∨ c = '\\' → ((withNames fill 0 (some c)
      (numbered (quotedAfter (front ++ [c])) (some c) n cs)).dropWhile isWordChar).head? ≠
        some ':' := by
    intro hsign hhead
    obtain ⟨hplace, -⟩ := head?_dropWhile_filled (Trails.other h) hclean' hhead
    refine hclean' _ hplace (Or.inl ?_)
    rw [IsSigned, List.take_left, List.getLast?_concat]
    exact hsign.imp (congrArg some) (congrArg some)
  by_cases hcolon : c = ':'
  · subst hcolon
    rw [escaped, if_pos rfl, List.cons_append, List.singleton_append, unescape, if_neg]
    simpa using hnext (Or.inl rfl)
  · rw [escaped, if_neg hcolon, List.singleton_append, unescape_cons]
    rintro ⟨rfl, hhead⟩
    refine hnext (Or.inr rfl) ?_
    obtain ⟨rest, hrest⟩ := List.head?_eq_some_iff.mp hhead
    rw [hrest, List.dropWhile_cons_of_neg (by decide), List.head?_cons]

/-- Where what is filled in can be restored by itself, the filled text is restored to the text with the
restored pieces in the places of its placeholders. -/
theorem substituted_append_filled
    (hfill : ∀ i rest, unescape (fill (placeholderName i) ++ rest) =
      unescape (fill (placeholderName i)) ++ unescape rest)
    (hclean : ∀ k, IsPlaceholder (front ++ cs) k → ¬ Clashes (front ++ cs) k) :
    substituted (fun c => [c]) (fun i => unescape (fill (placeholderName i))) (front ++ cs) =
      substituted (fun c => [c]) (fun i => unescape (fill (placeholderName i))) front ++
        unescape (withNames fill 0 last
          (numbered (quotedAfter front) last (placeholders front).length cs)) := by
  induction cs generalizing front last with
  | nil => simp [numbered, withNames, unescape]
  | cons c cs ih =>
    have hsplit : front ++ c :: cs = front ++ [c] ++ cs := by simp
    by_cases h : c = '?' ∧ Even (front.count apostrophe)
    · have hspace : '\\' ∉ (if IsSetApart front front.length then [' '] else []) := by
        split <;> simp
      have hhere := hclean _ ((isPlaceholder_length front c cs).mpr h)
      rw [withNames_numbered_placeholder ht h hhere, unescape_append hspace, hfill, hsplit,
        ih (Trails.placeholder h (placeholders front).length) (hsplit ▸ hclean),
        substituted_concat, piece_placeholder h, placeholders_concat, if_pos h, List.length_append,
        List.length_singleton]
      simp only [List.append_assoc]
    · rw [numbered_cons_other last h, withNames_escaped, unescape_escaped_filled h hclean, hsplit,
        ih (Trails.other h) (hsplit ▸ hclean), substituted_concat, piece_other h,
        placeholders_concat, if_neg h, List.append_nil, List.append_assoc, List.singleton_append]

end Filled

/-- Texts that are the same with pieces and with longer ones in their places have pieces of the same
lengths. -/
theorem length_eq_of_substituted_eq {plain : Char → List Char} {fill fill' : ℕ → List Char}
    (hle : ∀ i, (fill i).length ≤ (fill' i).length) {cs : List Char}
    (h : substituted plain fill cs = substituted plain fill' cs) :
    ∀ i < (placeholders cs).length, (fill i).length = (fill' i).length := by
  -- The induction compares lengths only, since the texts in front may end at different places.
  suffices hlengths : (substituted plain fill cs).length ≤ (substituted plain fill' cs).length ∧
      ((substituted plain fill cs).length = (substituted plain fill' cs).length →
        ∀ i < (placeholders cs).length, (fill i).length = (fill' i).length) from
    hlengths.2 (congrArg List.length h)
  clear h
  induction cs using List.reverseRecOn with
  | nil => exact ⟨Nat.le_refl _, fun _ i hi => absurd hi (Nat.not_lt_zero i)⟩
  | append_singleton front c ih =>
    obtain ⟨hfront, hsame⟩ := ih
    rw [substituted_concat, substituted_concat, List.length_append, List.length_append]
    by_cases hc : c = '?' ∧ Even (front.count apostrophe)
    · rw [piece_placeholder hc, piece_placeholder hc, placeholders_concat, if_pos hc]
      simp only [List.length_append, List.length_singleton]
      have hpiece := hle (placeholders front).length
      refine ⟨by omega, fun heq i hi => ?_⟩
      rcases Nat.lt_succ_iff_lt_or_eq.mp hi with hi | rfl
      · exact hsame (by omega) i hi
      · omega
    · rw [piece_other hc, piece_other hc, placeholders_concat, if_neg hc, List.append_nil]
      exact ⟨by omega, fun heq => hsame (by omega)⟩

/-! ## The statement for display -/

/-- None of the values is too long if not one of them is. -/
theorem anyTooLong_eq_false_iff (vs : List Value) :
    Value.anyTooLong vs = false ↔ ∀ v ∈ vs, v.isTooLong = false := by
  induction vs with
  | nil => simp [Value.anyTooLong]
  | cons v vs ih => rw [Value.anyTooLong, Bool.or_eq_false_iff, ih, List.forall_mem_cons]

/-- A name that is not bound stays as it is. -/
theorem Bound.filled_eq (b : Bound) (fill : String → Value → List Char) :
    b.filled fill = String.ofList (unescape (withNames
      (fun name => (b.binds.lookup (String.ofList name)).elim (':' :: name) (fill (String.ofList name)))
      0 none b.text.toList)) := by
  rw [filled]
  congr 3
  funext name
  cases b.binds.lookup (String.ofList name) <;> rfl

/-- A bound statement of a fragment whose placeholders do not clash, filled in with literals. -/
theorem filled_literalOf {f : Fragment Value} {b : Bound} (hbound : BindsExactly f b)
    (htext : b.text = String.ofList (numbered false none 0 f.sql.toList))
    (hcount : (placeholders f.sql.toList).length = f.params.length)
    (hclean : ∀ k, IsPlaceholder f.sql.toList k → ¬ Clashes f.sql.toList k) :
    b.filled (fun _ v => literalOf v) = inlined shownLiteral f := by
  let put (name : List Char) : List Char :=
    (b.binds.lookup (String.ofList name)).elim (':' :: name) literalOf
  have hput : ∀ i, put (placeholderName i) =
      f.params[i]?.elim (named i) literalOf := fun i => by
    simp only [put, hbound.lookup_eq i]
    cases f.params[i]? <;> rfl
  -- What is put in for a name does not run into what follows it.
  have hrestored : ∀ i rest, unescape (put (placeholderName i) ++ rest) =
      unescape (put (placeholderName i)) ++ unescape rest := by
    intro i rest
    rw [hput]
    cases f.params[i]? with
    | some v => exact unescape_literalOf_append v rest
    | none =>
      have hplain : '\\' ∉ named i := by
        rw [named, List.mem_cons, not_or]
        exact ⟨by decide, not_mem_placeholderName (by decide)⟩
      have hself := unescape_append hplain []
      rw [List.append_nil, unescape, List.append_nil] at hself
      rw [Option.elim_none, unescape_append hplain, hself]
  have hfilled := substituted_append_filled Trails.nil hrestored hclean
  rw [List.nil_append] at hfilled
  calc b.filled (fun _ v => literalOf v)
      = String.ofList (unescape (withNames put 0 none b.text.toList)) := b.filled_eq _
    _ = String.ofList (unescape (withNames put 0 none (numbered false none 0 f.sql.toList))) := by
        rw [htext, String.toList_ofList]
    _ = String.ofList (substituted (fun c => [c]) (fun i => unescape (put (placeholderName i)))
          f.sql.toList) := congrArg String.ofList hfilled.symm
    _ = inlined shownLiteral f := by
        rw [inlined]
        congr 1
        refine substituted_congr fun i hi => ?_
        obtain ⟨v, hv⟩ : ∃ v, f.params[i]? = some v :=
          ⟨_, List.getElem?_eq_getElem (hcount ▸ hi)⟩
        rw [hput, hv]
        rfl

/-- A fragment that can be bound, and whose parameters have literals, is shown with the restored literals
in the places of its placeholders. -/
theorem render_eq {f : Fragment Value} {b : Bound} (hb : Bound.ofFragment f = .ok b)
    (hlit : ∀ v ∈ f.params, IsRenderable v) : render f = .ok (inlined shownLiteral f) := by
  have hshort : Value.anyTooLong f.params = false :=
    (anyTooLong_eq_false_iff f.params).mpr fun v hv => (hlit v hv).1
  have hall : (f.params.all fun v => (sqlLiteral? v).isSome) = true :=
    List.all_eq_true.mpr fun v hv => (hlit v hv).2
  have hfilled : render f = .ok (b.filled fun _ v => literalOf v) := by
    rw [render, hb, Except.bind, hshort, hall]
    rfl
  rw [ofFragment_eq] at hb
  split at hb
  case isTrue => cases hb
  case isFalse hcount =>
    split at hb
    case isFalse => cases hb
    case isTrue hclean =>
      have hcount := not_not.mp hcount
      cases hb
      rw [hfilled, filled_literalOf (bindsExactly_of_not_clashes hcount hclean) rfl hcount]
      intro k hk
      have hlt := (List.getElem?_eq_some_iff.mp hk.1).1
      exact hclean k (List.mem_filter.mpr ⟨List.mem_range.mpr hlt, by simpa using hk⟩)

/-- **What is shown.** A fragment that can be bound, and whose parameters have literals, is shown as its text
with the restored literals in the places of its placeholders, so the literals themselves are shown exactly
if none of them looks like an escape. The literal of a number or a constant never does. That of a text is
read back as the restored text, so as the text itself exactly if nothing in it looks like an escape. -/
theorem render_inlines {f : Fragment Value} {b : Bound} (hb : Bound.ofFragment f = .ok b)
    (hlit : ∀ v ∈ f.params, IsRenderable v) :
    render f = .ok (inlined shownLiteral f) ∧
      (render f = .ok (inlined literalOf f) ↔ ∀ v ∈ f.params, ¬ HoldsEscape (literalOf v)) ∧
      ∀ v ∈ f.params,
        (literalText? v = none → shownLiteral v = literalOf v) ∧
        ∀ s, literalText? v = some s →
          readLiteral? (shownLiteral v) = some (unescape s.toList) ∧
            (readLiteral? (shownLiteral v) = some s.toList ↔ ¬ HoldsEscape s.toList) := by
  have hrender := render_eq hb hlit
  have hcount : (placeholders f.sql.toList).length = f.params.length := by
    by_contra hcount
    rw [ofFragment_eq, if_pos hcount] at hb
    cases hb
  refine ⟨hrender, ?_, fun v hv => ⟨fun h => ?_, fun s hs => ?_⟩⟩
  · have hself : ∀ v, shownLiteral v = literalOf v ↔ ¬ HoldsEscape (literalOf v) := fun v =>
      unescape_eq_self_iff (literalOf v)
    rw [hrender, Except.ok.injEq]
    -- To take escapes out only shortens literals, so equal lengths mean that none was taken out.
    constructor
    · intro h v hv
      obtain ⟨i, hi, rfl⟩ := List.getElem_of_mem hv
      have hle : ∀ i : ℕ, (f.params[i]?.elim [] shownLiteral).length ≤
          (f.params[i]?.elim [] literalOf).length := fun i => by
        cases f.params[i]? with
        | none => exact Nat.le_refl _
        | some v => exact (unescape_sublist (literalOf v)).length_le
      have hlength := length_eq_of_substituted_eq hle (String.ofList_injective h) i (hcount ▸ hi)
      rw [List.getElem?_eq_getElem hi] at hlength
      exact (hself _).mp ((unescape_sublist _).eq_of_length hlength)
    · intro h
      rw [inlined, inlined]
      congr 1
      refine substituted_congr fun i hi => ?_
      have hi' : i < f.params.length := hcount ▸ hi
      rw [List.getElem?_eq_getElem hi']
      exact (hself _).mpr (h _ (List.getElem_mem hi'))
  · have hplain := unescape_append (not_mem_literalOf h) []
    rwa [List.append_nil, unescape, List.append_nil] at hplain
  · have hread : readLiteral? (shownLiteral v) = some (unescape s.toList) := by
      rw [shownLiteral_of_literalText? hs, readLiteral?_sqlQuoted, String.toList_ofList]
    refine ⟨hread, ?_⟩
    rw [hread, Option.some.injEq, unescape_eq_self_iff]

/-- Texts with quotes, a mark, a name and a colon, and a backslash that is no escape. -/
theorem render_inlines_texts :
    let f : Fragment Value := {
      sql := "t = '1:?' AND a IN (?, ?) AND b = ?"
      params := [.text "it's :p1?", .int (-7), .text "C\\dir\\:x:"] }
    (∃ b, Bound.ofFragment f = .ok b) ∧ (∀ v ∈ f.params, IsRenderable v) ∧
      render f = .ok "t = '1:?' AND a IN ('it''s :p1?', -7) AND b = 'C\\dir\\:x:'" := by
  intro f
  have hcount : (placeholders f.sql.toList).length = f.params.length := by decide +kernel
  have hclean : ∀ k ∈ placeholders f.sql.toList, ¬ Clashes f.sql.toList k := by decide +kernel
  obtain ⟨b, hb, -⟩ := (ofFragment_exact f).2.2 hcount hclean
  have hlit : ∀ v ∈ f.params, IsRenderable v := by decide +kernel
  have hshown : inlined shownLiteral f =
      "t = '1:?' AND a IN ('it''s :p1?', -7) AND b = 'C\\dir\\:x:'" := by decide +kernel
  exact ⟨⟨b, hb⟩, hlit, hshown ▸ (render_inlines hb hlit).1⟩

/-- A backslash of a parameter is lost in front of a colon. -/
theorem render_loses_backslash :
    let f : Fragment Value := { sql := "a = ?", params := [.text "x\\:y"] }
    render f = .ok "a = 'x:y'" ∧ inlined literalOf f = "a = 'x\\:y'" ∧
      readLiteral? "'x:y'".toList ≠ some "x\\:y".toList := by
  refine ⟨?_, by decide +kernel, by decide +kernel⟩
  rfl

end Statement

end SearchQuery
