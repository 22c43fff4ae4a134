import SearchQuery.Proofs.Json.Numbers

/-!
# Reading JSON

A text is read as the value that it says in JSON (`read_eq_ok_iff`), unless reading it comes to an integer
with too many digits (`read_eq_tooManyDigits_iff`) or to values that are nested too deep
(`read_eq_tooDeep_iff`). These are the outcomes that are told apart: any other text is malformed.

## Shape of the argument

What a reader finds is what the grammar says, with any fuel (`sound`): the readers call each other with
less fuel, so this goes by induction on it. What the grammar says is found with enough fuel (`run_value`):
this follows the derivation, and each part of a value is shorter than the value.
-/

namespace SearchQuery.JsonText

open Number Text Text.Scan

variable {cs cs₁ cs₂ cs₃ cs₄ rest : List Char} {u : List Piece} {v : Datum} {e : Defect} {n room : Nat}

/-! ## Steps of the readers -/

/-- Blanks are skipped as far as they go. -/
theorem run_skipGap (cs : List Char) : skipGap.run cs = .ok ((), cs.dropWhile isGap) :=
  rfl

/-- A quote starts a text. -/
theorem run_value_quote (n room : Nat) (cs : List Char) :
    (value (n + 1) room).run ('"' :: cs) =
      (quotedText >>= fun s => pure (Datum.text s) : Scan Datum).run ('"' :: cs) :=
  rfl

/-- A bracket starts a list, within the room that is left. -/
theorem run_value_bracket (n room : Nat) (cs : List Char) :
    (value (n + 1) (room + 1)).run ('[' :: cs) =
      (do
        if ← skip? [']'] then return Datum.list []
        return Datum.list (← elements n room) : Scan Datum).run (cs.dropWhile isGap) :=
  rfl

/-- A brace starts a mapping, within the room that is left. -/
theorem run_value_brace (n room : Nat) (cs : List Char) :
    (value (n + 1) (room + 1)).run ('\x7b' :: cs) =
      (do
        if ← skip? ['\x7d'] then return Datum.dict []
        return Datum.dictOf (← members n room) : Scan Datum).run (cs.dropWhile isGap) :=
  rfl

/-- Anything else is a word or a number. -/
theorem run_value_of_head (n room : Nat) (h : ∀ c ∈ cs.head?, c ∉ ['"', '[', '\x7b']) :
    (value (n + 1) room).run cs = wordOrNumber.run cs := by
  rw [value, run_bind (StateT.run_get _)]
  split
  next hc => exact absurd List.mem_cons_self (h '"' hc)
  next hc => exact absurd (by decide) (h '[' hc)
  next hc => exact absurd (by decide) (h '\x7b' hc)
  next => rfl

/-- A list that is not empty is read element by element. -/
theorem run_value_list (n room : Nat) (h : (cs.dropWhile isGap).head? ≠ some ']') :
    (value (n + 1) (room + 1)).run ('[' :: cs) =
      (elements n room >>= fun vs => pure (Datum.list vs) : Scan Datum).run (cs.dropWhile isGap) := by
  rw [run_value_bracket, run_bind (run_skip?_single h)]
  rfl

/-- A mapping that is not empty is read member by member. -/
theorem run_value_dict (n room : Nat) (h : (cs.dropWhile isGap).head? ≠ some '\x7d') :
    (value (n + 1) (room + 1)).run ('\x7b' :: cs) =
      (members n room >>= fun es => pure (Datum.dictOf es) : Scan Datum).run (cs.dropWhile isGap) := by
  rw [run_value_brace, run_bind (run_skip?_single h)]
  rfl

/-- The last element stands in front of the closing bracket. -/
theorem run_elements_close (h : (value n room).run cs = .ok (v, cs₁))
    (close : cs₁.dropWhile isGap = ']' :: rest) :
    (elements (n + 1) room).run cs = .ok ([v], rest) := by
  rw [elements, run_bind h, run_bind (run_skipGap cs₁), close, run_bind (run_skip?_single (by simp)),
    if_neg Bool.false_ne_true, run_bind (run_skip_cons ']' rest)]
  rfl

/-- An element in front of a comma is followed by others. -/
theorem run_elements_comma (h : (value n room).run cs = .ok (v, cs₁))
    (comma : cs₁.dropWhile isGap = ',' :: cs₂) :
    (elements (n + 1) room).run cs =
      (elements n room >>= fun vs => pure (v :: vs)).run (cs₂.dropWhile isGap) := by
  rw [elements, run_bind h, run_bind (run_skipGap cs₁), comma, run_bind (run_skip?_cons ',' cs₂), if_pos rfl,
    run_bind (run_skipGap cs₂)]

/-- The value of a member is read after its name and the colon. -/
theorem run_members_colon (n room : Nat) (name : Spells cs u cs₁) (colon : cs₁.dropWhile isGap = ':' :: cs₂) :
    (members (n + 1) room).run ('"' :: cs) =
      (do
        let v ← value n room
        skipGap
        if ← skip? [','] then
          skipGap
          return (u, v) :: (← members n room)
        else
          skip ['\x7d']
          return [(u, v)] : Scan _).run (cs₂.dropWhile isGap) := by
  rw [members, run_bind (run_quotedText name), run_bind (run_skipGap cs₁), colon,
    run_bind (run_skip_cons ':' cs₂), run_bind (run_skipGap cs₂)]

/-- The last member stands in front of the closing brace. -/
theorem run_members_close (name : Spells cs u cs₁) (colon : cs₁.dropWhile isGap = ':' :: cs₂)
    (h : (value n room).run (cs₂.dropWhile isGap) = .ok (v, cs₃))
    (close : cs₃.dropWhile isGap = '\x7d' :: rest) :
    (members (n + 1) room).run ('"' :: cs) = .ok ([(u, v)], rest) := by
  rw [run_members_colon n room name colon, run_bind h, run_bind (run_skipGap cs₃), close,
    run_bind (run_skip?_single (by simp)), if_neg Bool.false_ne_true, run_bind (run_skip_cons '\x7d' rest)]
  rfl

/-- A member in front of a comma is followed by others. -/
theorem run_members_comma (name : Spells cs u cs₁) (colon : cs₁.dropWhile isGap = ':' :: cs₂)
    (h : (value n room).run (cs₂.dropWhile isGap) = .ok (v, cs₃)) (comma : cs₃.dropWhile isGap = ',' :: cs₄) :
    (members (n + 1) room).run ('"' :: cs) =
      (members n room >>= fun es => pure ((u, v) :: es)).run (cs₄.dropWhile isGap) := by
  rw [run_members_colon n room name colon, run_bind h, run_bind (run_skipGap cs₃), comma,
    run_bind (run_skip?_cons ',' cs₄), if_pos rfl, run_bind (run_skipGap cs₄)]

/-! ## What a reader finds -/

/-- What is known of the readers of values, of elements and of members. -/
structure Sound (n : Nat) : Prop where
  value : ∀ room cs, Tells ((value n room).run cs) (Says room cs) (Breaks room · cs)
  elements : ∀ room cs, Tells ((elements n room).run cs) (Elements room cs) (ElementsBreak room · cs)
  members : ∀ room cs, Tells ((members n room).run cs) (Members room cs) (MembersBreak room · cs)

/-- A value is read, or fails, as its parts do. -/
theorem Sound.value_succ (h : Sound n) (room : Nat) (cs : List Char) :
    Tells ((JsonText.value (n + 1) room).run cs) (Says room cs) (Breaks room · cs) := by
  by_cases hhead : ∃ c ∈ cs.head?, c ∈ ['"', '[', '\x7b']
  · obtain ⟨c, hc, hmem⟩ := hhead
    obtain ⟨cs, rfl⟩ := List.head?_eq_some_iff.mp hc
    simp only [List.mem_cons, List.not_mem_nil, or_false] at hmem
    rcases hmem with rfl | rfl | rfl
    · rw [run_value_quote]
      refine (tells_quotedText _).then ?_
      rintro u rest ⟨_, ⟨⟩, hspells⟩
      exact .text hspells
    · cases room with
      | zero => exact Or.inr (.deepList cs)
      | succ room =>
        rw [run_value_bracket]
        refine (tells_skip?_single ']' _).then ?_
        rintro _ mid (⟨rfl, hclose⟩ | ⟨rfl, rfl, -⟩)
        · exact .emptyList hclose
        · exact (h.elements room _).bind (fun vs rest helements => .list helements) fun _ => .list
    · cases room with
      | zero => exact Or.inr (.deepDict cs)
      | succ room =>
        rw [run_value_brace]
        refine (tells_skip?_single '\x7d' _).then ?_
        rintro _ mid (⟨rfl, hclose⟩ | ⟨rfl, rfl, -⟩)
        · exact .emptyDict hclose
        · exact (h.members room _).bind (fun es rest hmembers => .dict hmembers) fun _ => .dict
  · rw [run_value_of_head n room fun c hc hmem => hhead ⟨c, hc, hmem⟩]
    exact tells_wordOrNumber room cs

/-- Elements are read, or fail, as the value and the elements behind it do. -/
theorem Sound.elements_succ (h : Sound n) (room : Nat) (cs : List Char) :
    Tells ((JsonText.elements (n + 1) room).run cs) (Elements room cs) (ElementsBreak room · cs) := by
  rw [JsonText.elements]
  refine (h.value room cs).bind (fun v cs₁ hv => ?_) fun _ => .here
  rw [run_bind (run_skipGap cs₁)]
  refine (tells_skip?_single ',' _).then ?_
  rintro _ mid (⟨rfl, hcomma⟩ | ⟨rfl, rfl, -⟩)
  · rw [if_pos rfl, run_bind (run_skipGap mid)]
    exact (h.elements room _).bind (fun vs rest htail => .cons hv hcomma htail) fun _ => .later hv hcomma
  · exact (tells_skip_single ']' _).then fun _ rest hclose => .last hv hclose

/-- Members are read, or fail, as the value and the members behind it do. -/
theorem Sound.members_succ (h : Sound n) (room : Nat) (cs : List Char) :
    Tells ((JsonText.members (n + 1) room).run cs) (Members room cs) (MembersBreak room · cs) := by
  rw [JsonText.members]
  refine (tells_quotedText cs).then ?_
  rintro u cs₁ ⟨cs', rfl, hname⟩
  rw [run_bind (run_skipGap cs₁)]
  refine (tells_skip_single ':' _).then fun _ cs₂ hcolon => ?_
  rw [run_bind (run_skipGap cs₂)]
  refine (h.value room _).bind (fun v cs₃ hv => ?_) fun _ => .here hname hcolon
  rw [run_bind (run_skipGap cs₃)]
  refine (tells_skip?_single ',' _).then ?_
  rintro _ mid (⟨rfl, hcomma⟩ | ⟨rfl, rfl, -⟩)
  · rw [if_pos rfl, run_bind (run_skipGap mid)]
    exact (h.members room _).bind (fun es rest htail => .cons hname hcolon hv hcomma htail)
      fun _ => .later hname hcolon hv hcomma
  · exact (tells_skip_single '\x7d' _).then fun _ rest hclose => .last hname hcolon hv hclose

/-- The reader is sound, whatever its fuel. -/
theorem sound (n : Nat) : Sound n := by
  induction n with
  | zero => exact ⟨fun _ _ => tells_malformed, fun _ _ => tells_malformed, fun _ _ => tells_malformed⟩
  | succ n ih => exact ⟨ih.value_succ, ih.elements_succ, ih.members_succ⟩

/-! ## What is found -/

theorem length_skipped_le (cs : List Char) : (cs.dropWhile isGap).length ≤ cs.length :=
  (List.dropWhile_suffix isGap).length_le

/-- Behind a character that is read there is less to read. -/
theorem length_skipped_lt {c : Char} (h : cs.dropWhile isGap = c :: rest) :
    (rest.dropWhile isGap).length < cs.length :=
  Nat.lt_of_le_of_lt (length_skipped_le rest) (Before.of_dropWhile_eq h).length_lt

/-- A number is no text, no array, no object and no word. -/
theorem run_value_written {negative : Bool} {whole tail : List Char}
    (h : Written cs negative whole tail rest) (n room : Nat) :
    (value (n + 1) room).run cs = (numberOf negative whole tail : Scan Datum).run rest := by
  have hhead {c : Char} (hc : c.isDigit = false ∧ c ≠ '-') : cs.head? ≠ some c := h.head?_ne hc.1 hc.2
  have hopening : ∀ c ∈ ['"', '[', '\x7b'], c.isDigit = false ∧ c ≠ '-' := by simp
  have hword : ∀ c ∈ ['n', 't', 'f', 'N'], c.isDigit = false ∧ c ≠ '-' := by simp
  rw [run_value_of_head n room fun c hc hmem => hhead (hopening c hmem) hc,
    run_wordOrNumber_of_head fun c hc hmem => hhead (hword c hmem) hc, run_number h]

/-- A word is read for its value. -/
theorem run_value_word {w : List Char} (h : (w, v) ∈ words) (n room : Nat) (rest : List Char) :
    (value (n + 1) room).run (w ++ rest) = .ok (v, rest) := by
  have hopening : ∀ c ∈ ['n', 't', 'f', 'N'], c ∉ ['"', '[', '\x7b'] := by simp
  obtain ⟨c, hc, hmem⟩ := head?_of_mem_words h rest
  rw [run_value_of_head n room fun d hd => Option.some.inj (hc.symm.trans hd) ▸ hopening c hmem,
    run_wordOrNumber_word h]

/-- The sign of an infinity is read with it. -/
theorem run_value_infinity (negative : Bool) (n room : Nat) (rest : List Char) :
    (value (n + 1) room).run ((if negative then ['-'] else []) ++ "Infinity".toList ++ rest) =
      .ok (.float (.infinity negative), rest) := by
  cases negative with
  | true => rfl
  | false => rfl

/-- No value starts with a closing bracket. -/
theorem Says.head?_ne (h : Says room cs v rest) : cs.head? ≠ some ']' := by
  cases h with
  | text h => simp
  | word h rest =>
    obtain ⟨c, hc, hmem⟩ := head?_of_mem_words h rest
    rintro hbracket
    cases hc.symm.trans hbracket
    exact absurd hmem (by decide)
  | infinity negative rest =>
    cases negative with
    | true => exact fun h => nomatch h
    | false => exact fun h => absurd (Option.some.inj h) (by decide)
  | int h _ => exact h.head?_ne (by decide) (by decide)
  | float h _ _ => exact h.head?_ne (by decide) (by decide)
  | emptyList h => simp
  | list h => simp
  | emptyDict h => simp
  | dict h => simp

/-- Elements do not start with the bracket that closes them. -/
theorem Elements.head?_ne {vs : List Datum} (h : Elements room cs vs rest) : cs.head? ≠ some ']' := by
  cases h with
  | last h close => exact h.head?_ne
  | cons h comma tail => exact h.head?_ne

/-- Members do not start with the brace that closes them. -/
theorem Members.head?_ne {es : List (List Piece × Datum)} (h : Members room cs es rest) :
    cs.head? ≠ some '\x7d' := by
  cases h <;> simp

mutual

/-- A value that is said is read, with fuel for all characters. -/
theorem run_value : ∀ {room cs v rest}, Says room cs v rest → ∀ {n : Nat}, 2 * cs.length ≤ n + 1 →
    (value (n + 1) room).run cs = .ok (v, rest)
  | _, _, _, _, .text h, n, _ => by
    rw [run_value_quote, run_bind (run_quotedText h)]
    rfl
  | _, _, _, _, .word h rest, n, _ => run_value_word h n _ rest
  | _, _, _, _, .infinity negative rest, n, _ => run_value_infinity negative n _ rest
  | _, _, _, _, .int h hdigits, n, _ => by
    rw [run_value_written h, numberOf_nil, if_neg (Nat.not_lt.mpr hdigits)]
    rfl
  | _, _, _, _, .float h htail hx, n, _ => by
    rw [run_value_written h, numberOf_of_ne htail, hx]
    rfl
  | _, _, _, _, .emptyList h, n, _ => by
    rw [run_value_bracket, h, run_bind (run_skip?_cons ']' _)]
    rfl
  -- What is inside is read with the fuel that the bracket leaves.
  | _, _, _, _, @Says.list _ cs rest vs h, n, hn => by
    have hlength := length_skipped_le cs
    rw [List.length_cons] at hn
    obtain ⟨n, rfl⟩ := Nat.exists_eq_add_one.mpr (by omega : 0 < n)
    rw [run_value_list _ _ h.head?_ne, run_bind (run_elements h (by omega))]
    rfl
  | _, _, _, _, .emptyDict h, n, _ => by
    rw [run_value_brace, h, run_bind (run_skip?_cons '\x7d' _)]
    rfl
  | _, _, _, _, @Says.dict _ cs rest es h, n, hn => by
    have hlength := length_skipped_le cs
    rw [List.length_cons] at hn
    obtain ⟨n, rfl⟩ := Nat.exists_eq_add_one.mpr (by omega : 0 < n)
    rw [run_value_dict _ _ h.head?_ne, run_bind (run_members h (by omega))]
    rfl

/-- So are elements. -/
theorem run_elements : ∀ {room cs vs rest}, Elements room cs vs rest → ∀ {n : Nat}, 2 * cs.length ≤ n →
    (elements (n + 1) room).run cs = .ok (vs, rest)
  | _, _, _, _, .last h close, n, hn => by
    have hvalue := h.before.length_lt
    obtain ⟨n, rfl⟩ := Nat.exists_eq_add_one.mpr (by omega : 0 < n)
    exact run_elements_close (run_value h hn) close
  | _, _, _, _, @Elements.cons _ cs cs₁ cs₂ _ _ _ h comma tail, n, hn => by
    have hvalue := h.before.length_lt
    have hcomma := length_skipped_lt comma
    obtain ⟨n, rfl⟩ := Nat.exists_eq_add_one.mpr (by omega : 0 < n)
    rw [run_elements_comma (run_value h hn) comma, run_bind (run_elements tail (by omega))]
    rfl

/-- So are members. -/
theorem run_members : ∀ {room cs es rest}, Members room cs es rest → ∀ {n : Nat}, 2 * cs.length ≤ n →
    (members (n + 1) room).run cs = .ok (es, rest)
  | _, _, _, _, @Members.last _ cs cs₁ cs₂ _ _ _ _ name colon h close, n, hn => by
    have hname := name.before.length_lt
    have hcolon := length_skipped_lt colon
    rw [List.length_cons] at hn
    obtain ⟨n, rfl⟩ := Nat.exists_eq_add_one.mpr (by omega : 0 < n)
    exact run_members_close name colon (run_value h (by omega)) close
  | _, _, _, _, @Members.cons _ cs cs₁ cs₂ cs₃ cs₄ _ _ _ _ name colon h comma tail, n, hn => by
    have hname := name.before.length_lt
    have hcolon := length_skipped_lt colon
    have hvalue := h.before.length_lt
    have hcomma := length_skipped_lt comma
    rw [List.length_cons] at hn
    obtain ⟨n, rfl⟩ := Nat.exists_eq_add_one.mpr (by omega : 0 < n)
    rw [run_members_comma name colon (run_value h (by omega)) comma, run_bind (run_members tail (by omega))]
    rfl

end

/-! ## Where reading breaks -/

/-- A value that breaks does not start with a closing bracket. -/
theorem Breaks.head?_ne (h : Breaks room e cs) : cs.head? ≠ some ']' := by
  cases h with
  | int h _ => exact h.head?_ne (by decide) (by decide)
  | deepList => simp
  | list h => simp
  | deepDict => simp
  | dict h => simp

/-- A value that breaks has a character. -/
theorem Breaks.length_pos (h : Breaks room e cs) : 0 < cs.length := by
  cases h with
  | int h _ => exact Nat.lt_of_le_of_lt (Nat.zero_le _) h.before.length_lt
  | deepList => simp
  | list h => simp
  | deepDict => simp
  | dict h => simp

/-- Elements that break do not start with a closing bracket. -/
theorem ElementsBreak.head?_ne (h : ElementsBreak room e cs) : cs.head? ≠ some ']' := by
  cases h with
  | here h => exact h.head?_ne
  | later h comma tail => exact h.head?_ne

/-- Members that break do not start with a closing brace. -/
theorem MembersBreak.head?_ne (h : MembersBreak room e cs) : cs.head? ≠ some '\x7d' := by
  cases h <;> simp

mutual

/-- A value that breaks fails, with fuel for all characters. -/
theorem run_value_of_breaks : ∀ {room e cs}, Breaks room e cs → ∀ {n : Nat}, 2 * cs.length ≤ n + 1 →
    (value (n + 1) room).run cs = .error e
  | _, _, _, .int h hdigits, n, _ => by
    rw [run_value_written h, numberOf_nil, if_pos hdigits]
    rfl
  | _, _, _, .deepList cs, n, _ => rfl
  | _, _, _, .deepDict cs, n, _ => rfl
  | _, _, _, @Breaks.list _ _ cs h, n, hn => by
    have hlength := length_skipped_le cs
    rw [List.length_cons] at hn
    obtain ⟨n, rfl⟩ := Nat.exists_eq_add_one.mpr (by omega : 0 < n)
    rw [run_value_list _ _ h.head?_ne, run_bind_error (run_elements_of_break h (by omega))]
  | _, _, _, @Breaks.dict _ _ cs h, n, hn => by
    have hlength := length_skipped_le cs
    rw [List.length_cons] at hn
    obtain ⟨n, rfl⟩ := Nat.exists_eq_add_one.mpr (by omega : 0 < n)
    rw [run_value_dict _ _ h.head?_ne, run_bind_error (run_members_of_break h (by omega))]

/-- So do elements. -/
theorem run_elements_of_break : ∀ {room e cs}, ElementsBreak room e cs → ∀ {n : Nat}, 2 * cs.length ≤ n →
    (elements (n + 1) room).run cs = .error e
  | _, _, _, .here h, n, hn => by
    have hlength := h.length_pos
    obtain ⟨n, rfl⟩ := Nat.exists_eq_add_one.mpr (by omega : 0 < n)
    rw [elements, run_bind_error (run_value_of_breaks h hn)]
  | _, _, _, @ElementsBreak.later _ _ cs cs₁ cs₂ _ h comma tail, n, hn => by
    have hvalue := h.before.length_lt
    have hcomma := length_skipped_lt comma
    obtain ⟨n, rfl⟩ := Nat.exists_eq_add_one.mpr (by omega : 0 < n)
    rw [run_elements_comma (run_value h hn) comma, run_bind_error (run_elements_of_break tail (by omega))]

/-- So do members. -/
theorem run_members_of_break : ∀ {room e cs}, MembersBreak room e cs → ∀ {n : Nat}, 2 * cs.length ≤ n →
    (members (n + 1) room).run cs = .error e
  | _, _, _, @MembersBreak.here _ _ cs cs₁ cs₂ _ name colon h, n, hn => by
    have hname := name.before.length_lt
    have hcolon := length_skipped_lt colon
    rw [List.length_cons] at hn
    obtain ⟨n, rfl⟩ := Nat.exists_eq_add_one.mpr (by omega : 0 < n)
    rw [run_members_colon _ _ name colon, run_bind_error (run_value_of_breaks h (by omega))]
  | _, _, _, @MembersBreak.later _ _ cs cs₁ cs₂ cs₃ cs₄ _ _ name colon h comma tail, n, hn => by
    have hname := name.before.length_lt
    have hcolon := length_skipped_lt colon
    have hvalue := h.before.length_lt
    have hcomma := length_skipped_lt comma
    rw [List.length_cons] at hn
    obtain ⟨n, rfl⟩ := Nat.exists_eq_add_one.mpr (by omega : 0 < n)
    rw [run_members_comma name colon (run_value h (by omega)) comma,
      run_bind_error (run_members_of_break tail (by omega))]

end

/-! ## Documents -/

/-- A document is a value and nothing behind it. -/
theorem tells_document (n room : Nat) (cs : List Char) :
    Tells ((document n room).run cs)
      (fun v _ => ∃ rest, Says room (cs.dropWhile isGap) v rest ∧ rest.dropWhile isGap = [])
      (Breaks room · (cs.dropWhile isGap)) := by
  rw [document, run_bind (run_skipGap cs)]
  refine ((sound n).value room _).bind (fun v rest hv => ?_) fun _ => id
  rw [run_bind (run_skipGap rest), run_bind (StateT.run_get _)]
  split
  next hempty => exact ⟨rest, hv, List.isEmpty_iff.mp hempty⟩
  next => exact tells_malformed

/-- There is fuel enough for a text. -/
theorem length_toList_le (s : String) : 2 * (s.toList.dropWhile isGap).length ≤ 2 * s.length + 1 + 1 := by
  have hlength := length_skipped_le s.toList
  rw [String.length_toList] at hlength
  omega

variable {m : Machine} {s : String}

/-- **A text is read as the value that it says in JSON.** -/
theorem read_eq_ok_iff : read m s = .ok v ↔ IsJson m s v := by
  constructor
  · intro h
    obtain ⟨_, hv⟩ := (tells_onText (tells_document _ _ s.toList)).1 v h
    exact hv
  · rintro ⟨rest, hv, hrest⟩
    have hrun : (document (2 * s.length + 2) m.frames).run s.toList = .ok (v, []) := by
      rw [document, run_bind (run_skipGap _), run_bind (run_value hv (length_toList_le s)),
        run_bind (run_skipGap rest), hrest]
      rfl
    exact onText_of_run hrun

/-- Reading fails for a cause that is told apart if and only if it comes to what has no value for it. -/
theorem read_eq_error_iff (he : e ≠ .malformed) :
    read m s = .error e ↔ Breaks m.frames e (s.toList.dropWhile isGap) := by
  constructor
  · intro h
    exact ((tells_onText (tells_document _ _ s.toList)).2 e h).resolve_left he
  · intro h
    refine onText_of_error ?_
    rw [document, run_bind (run_skipGap _), run_bind_error (run_value_of_breaks h (length_toList_le s))]

/-- **Reading fails for the number of digits** if and only if it comes to an integer that has too many. -/
theorem read_eq_tooManyDigits_iff : read m s = .error .tooManyDigits ↔ IsOverlong m s :=
  read_eq_error_iff (by decide)

/-- **Reading fails for the depth** if and only if it comes to values that are nested too deep. -/
theorem read_eq_tooDeep_iff : read m s = .error .tooDeep ↔ IsTooDeep m s :=
  read_eq_error_iff (by decide)

end SearchQuery.JsonText
