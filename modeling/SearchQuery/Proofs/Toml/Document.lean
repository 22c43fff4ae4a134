import SearchQuery.Proofs.Toml.Draft
import SearchQuery.Proofs.Toml.Quoted
import SearchQuery.Toml.Document

/-!
# Documents that are read back

A document that is written as a list of tables is read as these tables with their settings, whatever texts
the settings hold (`read_written`). The names of tables and the keys in a table have to be plain, so that
they need no quotes, and none may come twice.

## Shape of the argument

Every line that is written does one thing to the draft: it opens a table, assigns a setting or does nothing.
`Advances d u d'` says that the lines `u` do so to `d`, whatever stands behind them and however much fuel is
left, as long as there is enough for the characters that are left. So lines are put one behind the other
(`Advances.append`), and the tables are read by an induction on their settings within one on the tables.
-/

namespace SearchQuery.Toml

open Text Text.Scan

/-! ## Names without quotes -/

/-- A name that may stand without quotes. -/
structure IsPlain (name : String) : Prop where
  ne_nil : name.toList ≠ []
  bare : ∀ c ∈ name.toList, isBareKeyChar c = true

instance (name : String) : Decidable (IsPlain name) :=
  decidable_of_iff (name.toList ≠ [] ∧ name.toList.all isBareKeyChar = true)
    ⟨fun h => ⟨h.1, List.all_eq_true.mp h.2⟩, fun h => ⟨h.ne_nil, List.all_eq_true.mpr h.bare⟩⟩

/-- A character of a bare key is no blank. -/
theorem not_gap_of_bare {c : Char} (h : isBareKeyChar c = true) : isGap c = false := by
  rw [Bool.eq_false_iff]
  intro hgap
  simp only [isGap, Bool.or_eq_true, beq_iff_eq] at hgap
  rcases hgap with rfl | rfl <;> revert h <;> decide

/-- Blanks are skipped as far as they go. -/
theorem run_skipGap (cs : List Char) : skipGap.run cs = .ok ((), cs.dropWhile isGap) :=
  rfl

variable {name : String} {rest : List Char}

/-- A plain name starts with a character of a bare key. -/
theorem IsPlain.exists_cons (h : IsPlain name) :
    ∃ c cs, name.toList = c :: cs ∧ isBareKeyChar c = true := by
  obtain ⟨c, cs, hcs⟩ := List.exists_cons_of_ne_nil h.ne_nil
  exact ⟨c, cs, hcs, h.bare c (hcs ▸ List.mem_cons_self)⟩

/-- Nothing is skipped in front of a name. -/
theorem IsPlain.run_skipGap (h : IsPlain name) (rest : List Char) :
    skipGap.run (name.toList ++ rest) = .ok ((), name.toList ++ rest) := by
  obtain ⟨c, cs, hcs, hbare⟩ := h.exists_cons
  refine run_skipWhile_of_head ?_
  rw [hcs]
  rintro _ ⟨⟩
  exact not_gap_of_bare hbare

/-- A plain name is read as a part of a key. -/
theorem IsPlain.run_keyPart (h : IsPlain name) (hrest : ∀ c ∈ rest.head?, isBareKeyChar c = false) :
    keyPart.run (name.toList ++ rest) = .ok (name, rest) := by
  have htake := run_takeWhile_append h.bare hrest
  obtain ⟨c, cs, hcs, hbare⟩ := h.exists_cons
  rw [keyPart, run_bind (StateT.run_get _), hcs, List.cons_append, List.head?_cons, ← List.cons_append, ← hcs]
  dsimp only
  rw [if_pos hbare, run_bind htake, String.ofList_toList]
  rfl

/-- A name alone is a key, and the blanks behind it are skipped. -/
theorem IsPlain.run_key (h : IsPlain name) (hrest : ∀ c ∈ rest.head?, isBareKeyChar c = false)
    (hpoint : (rest.dropWhile isGap).head? ≠ some '.') :
    key.run (name.toList ++ rest) = .ok ([name], rest.dropWhile isGap) := by
  have hparts : (keyParts (rest.length + 1)).run rest = .ok ([], rest.dropWhile isGap) := by
    rw [keyParts, run_bind (Toml.run_skipGap rest), run_bind (run_skip?_single hpoint),
      if_neg Bool.false_ne_true]
    rfl
  rw [key, run_bind (h.run_keyPart hrest), run_bind (StateT.run_get _), run_bind hparts]
  rfl

/-! ## Values -/

/-- The value that a setting is read as. -/
def Setting.value : Setting → Value
  | flag b => .bool b
  | texts items => .list (items.map .text)

/-- A text as it is written among others, on a line of its own. -/
def itemLine (s : String) : List Char :=
  "    ".toList ++ (writtenText s).toList ++ [',', '\n']

/-- Blanks and line ends are skipped, if no comment stands behind them. -/
theorem run_skipBlanks {cs : List Char} (h : (cs.dropWhile isGapOrEnd).head? ≠ some '#') :
    skipBlanks.run cs = .ok ((), cs.dropWhile isGapOrEnd) := by
  rw [skipBlanks, run_bind (StateT.run_get _)]
  cases cs.length with
  | zero => exact run_skipWhile _ _
  | succ n =>
    rw [skipLines, run_bind (run_skipWhile _ _), run_bind (StateT.run_get _), if_neg (by simpa using h)]
    rfl

/-- What stands in front of the next text or of the closing bracket is skipped. -/
theorem dropWhile_itemLines (items : List String) (rest : List Char) :
    (items.flatMap itemLine ++ ']' :: rest).dropWhile isGapOrEnd =
      match items with
      | [] => ']' :: rest
      | s :: items => (writtenText s).toList ++ ',' :: '\n' :: (items.flatMap itemLine ++ ']' :: rest) := by
  cases items with
  | nil => rfl
  | cons s items =>
    simp [itemLine, toList_writtenText, isGapOrEnd, isGap]

/-- No comment stands behind the lines of items. -/
theorem head?_dropWhile_itemLines (items : List String) (rest : List Char) :
    ((items.flatMap itemLine ++ ']' :: rest).dropWhile isGapOrEnd).head? ≠ some '#' := by
  rw [dropWhile_itemLines]
  cases items with
  | nil => simp
  | cons s items => simp [toList_writtenText]

/-- A quote starts a text. -/
theorem run_value_quote (n : Nat) (cs : List Char) :
    (value (n + 1)).run ('"' :: cs) = (quotedText '"' >>= fun s => pure (.text s)).run ('"' :: cs) :=
  rfl

/-- A bracket starts an array. -/
theorem run_value_bracket (n : Nat) (cs : List Char) :
    (value (n + 1)).run ('[' :: cs) =
      (skipBlanks >>= fun _ => elements n >>= fun vs => pure (.list vs)).run cs :=
  rfl

theorem run_value_true (n : Nat) (rest : List Char) :
    (value (n + 1)).run ("true".toList ++ rest) = .ok (.bool true, rest) :=
  rfl

theorem run_value_false (n : Nat) (rest : List Char) :
    (value (n + 1)).run ("false".toList ++ rest) = .ok (.bool false, rest) :=
  rfl

/-- A written text is read back, if no quote follows it. -/
theorem run_value_text (n : Nat) (s : String) (hrest : rest.head? ≠ some '"') :
    (value (n + 1)).run ((writtenText s).toList ++ rest) = .ok (.text s, rest) := by
  have htext := run_quotedText_written s hrest
  rw [toList_writtenText, List.cons_append] at htext ⊢
  rw [run_value_quote, run_bind htext]
  rfl

/-- The texts of a list are read one by one. -/
theorem run_elements {items : List String} {n : Nat} (hn : items.length < n) (rest : List Char) :
    (elements n).run ((items.flatMap itemLine ++ ']' :: rest).dropWhile isGapOrEnd) =
      .ok (items.map .text, rest) := by
  induction items generalizing n with
  | nil =>
    obtain ⟨n, rfl⟩ := Nat.exists_eq_succ_of_ne_zero (Nat.ne_zero_of_lt hn)
    rw [dropWhile_itemLines, elements, run_bind (run_skip?_cons ']' rest), if_pos rfl]
    rfl
  | cons s items ih =>
    obtain ⟨n, rfl⟩ := Nat.exists_eq_succ_of_ne_zero (Nat.ne_zero_of_lt hn)
    obtain ⟨m, rfl⟩ := Nat.exists_eq_succ_of_ne_zero (Nat.ne_zero_of_lt (Nat.lt_of_succ_lt_succ hn))
    have hclosed : ((writtenText s).toList ++ ',' :: '\n' :: (items.flatMap itemLine ++ ']' :: rest)).head? ≠
        some ']' := by simp [toList_writtenText]
    have hcomma : skipBlanks.run (',' :: '\n' :: (items.flatMap itemLine ++ ']' :: rest)) =
        .ok ((), ',' :: '\n' :: (items.flatMap itemLine ++ ']' :: rest)) := by
      refine run_skipBlanks ?_
      rw [List.dropWhile_cons_of_neg (by decide)]
      simp
    have hnext : skipBlanks.run ('\n' :: (items.flatMap itemLine ++ ']' :: rest)) =
        .ok ((), (items.flatMap itemLine ++ ']' :: rest).dropWhile isGapOrEnd) :=
      run_skipBlanks (head?_dropWhile_itemLines items rest)
    rw [dropWhile_itemLines, elements, run_bind (run_skip?_single hclosed), if_neg Bool.false_ne_true,
      run_bind (run_value_text m s (by simp)), run_bind hcomma, run_bind (run_skip?_cons ',' _), if_pos rfl,
      run_bind hnext, run_bind (ih (Nat.lt_of_succ_lt_succ hn))]
    rfl

/-- An array is written with one item on each line. -/
theorem toList_text_texts (s : String) (items : List String) :
    (Setting.texts (s :: items)).text.toList = '[' :: '\n' :: ((s :: items).flatMap itemLine ++ [']']) := by
  have hline (s : String) : ("    " ++ writtenText s ++ ",\n").toList = itemLine s := by
    rw [String.toList_append, String.toList_append]
    rfl
  rw [Setting.text, String.toList_append, String.toList_append, String.toList_join, List.flatMap_map]
  simp only [hline]
  · rfl
  · simp

/-- A setting is written without a blank in front. -/
theorem exists_cons_text (x : Setting) : ∃ c cs, x.text.toList = c :: cs ∧ isGap c = false := by
  cases x with
  | flag b => cases b <;> exact ⟨_, _, rfl, rfl⟩
  | texts items =>
    cases items with
    | nil => exact ⟨_, _, rfl, rfl⟩
    | cons s items => exact ⟨_, _, toList_text_texts s items, rfl⟩

/-- Each item takes up a line. -/
theorem length_le_length_itemLines (items : List String) :
    items.length ≤ (items.flatMap itemLine).length := by
  induction items with
  | nil => exact Nat.le_refl 0
  | cons s items ih =>
    rw [List.flatMap_cons, List.length_append, itemLine, List.length_append, List.length_cons]
    simp only [List.length_cons]
    omega

/-- **A setting is read back** with enough fuel. -/
theorem run_value_setting (x : Setting) {n : Nat} (hn : (x.text.toList ++ rest).length < n) :
    (value n).run (x.text.toList ++ rest) = .ok (x.value, rest) := by
  obtain ⟨n, rfl⟩ := Nat.exists_eq_succ_of_ne_zero (Nat.ne_zero_of_lt hn)
  cases x with
  | flag b =>
    cases b with
    | true => exact run_value_true n rest
    | false => exact run_value_false n rest
  | texts items =>
    -- The list is written with a line for each text, or as two brackets.
    have hlist (blanks : List Char) (hlines : items.length < n)
        (hblanks : (blanks ++ (items.flatMap itemLine ++ ']' :: rest)).dropWhile isGapOrEnd =
          (items.flatMap itemLine ++ ']' :: rest).dropWhile isGapOrEnd) :
        (value (n + 1)).run ('[' :: (blanks ++ (items.flatMap itemLine ++ ']' :: rest))) =
          .ok (.list (items.map .text), rest) := by
      have hskip : skipBlanks.run (blanks ++ (items.flatMap itemLine ++ ']' :: rest)) =
          .ok ((), (items.flatMap itemLine ++ ']' :: rest).dropWhile isGapOrEnd) := by
        rw [run_skipBlanks (by rw [hblanks]; exact head?_dropWhile_itemLines items rest), hblanks]
      rw [run_value_bracket, run_bind hskip, run_bind (run_elements hlines rest)]
      rfl
    cases items with
    | nil =>
      have hlength : (Setting.texts []).text.toList.length = 2 := by decide
      rw [List.length_append, hlength] at hn
      exact hlist [] (by rw [List.length_nil]; omega) rfl
    | cons s items =>
      have hlines := length_le_length_itemLines (s :: items)
      rw [toList_text_texts] at hn ⊢
      rw [List.cons_append, List.cons_append, List.append_assoc, List.singleton_append]
      refine hlist ['\n'] ?_ (by rw [List.singleton_append, List.dropWhile_cons_of_pos (by decide)])
      simp only [List.length_append, List.length_cons] at hn hlines ⊢
      omega

/-! ## Lines -/

/-- Lines change a draft, whatever stands behind them. -/
def Advances (d : Draft) (u : List Char) (d' : Draft) : Prop :=
  ∀ n rest, (u ++ rest).length < n →
    ∃ m, rest.length < m ∧ (lines n d).run (u ++ rest) = (lines m d').run rest

namespace Advances

variable {d d' d'' : Draft} {u v : List Char}

theorem nil (d : Draft) : Advances d [] d :=
  fun n _ hn => ⟨n, hn, rfl⟩

/-- Lines that take a draft on may be read one after the other. -/
theorem append (h : Advances d u d') (h' : Advances d' v d'') : Advances d (u ++ v) d'' := by
  intro n rest hn
  rw [List.append_assoc] at hn ⊢
  obtain ⟨m, hm, hrun⟩ := h n (v ++ rest) hn
  obtain ⟨k, hk, hrun'⟩ := h' m rest hm
  exact ⟨k, hk, hrun.trans hrun'⟩

/-- A line is a statement and its end. -/
theorem line (hhead : ∀ c ∈ (u ++ ['\n']).head?, isGap c = false)
    (hstatement : ∀ rest, (statement d).run (u ++ '\n' :: rest) = .ok (d', '\n' :: rest)) :
    Advances d (u ++ ['\n']) d' := by
  intro n rest hn
  obtain ⟨n, rfl⟩ := Nat.exists_eq_succ_of_ne_zero (Nat.ne_zero_of_lt hn)
  have hstart : skipGap.run (u ++ '\n' :: rest) = .ok ((), u ++ '\n' :: rest) := by
    refine run_skipWhile_of_head ?_
    cases u with
    | nil => exact hhead
    | cons c u => exact hhead
  have hend : skipGap.run ('\n' :: rest) = .ok ((), '\n' :: rest) :=
    run_skipWhile_of_head (by rintro _ ⟨⟩; rfl)
  have hcomment : skipComment.run ('\n' :: rest) = .ok ((), '\n' :: rest) := by
    rw [skipComment, run_bind (run_skip?_single (by simp)), if_neg Bool.false_ne_true]
    rfl
  refine ⟨n, ?_, ?_⟩
  · simp only [List.length_append, List.length_cons] at hn
    omega
  · rw [List.append_assoc, List.singleton_append, lines, run_bind hstart, run_bind (hstatement rest),
      run_bind hend, run_bind hcomment, run_bind (StateT.run_get _), List.isEmpty_cons,
      if_neg Bool.false_ne_true, run_bind (run_skip_cons '\n' rest)]

/-- An empty line does nothing. -/
theorem blank (d : Draft) : Advances d ['\n'] d :=
  line (u := []) (by rintro _ ⟨⟩; rfl) fun _ => rfl

/-- The header of a section opens its table. -/
theorem header {name : String} (hname : IsPlain name) (hopen : d.openTable [name] = some d') :
    Advances d ('[' :: name.toList ++ [']'] ++ ['\n']) d' := by
  refine line (by rintro _ ⟨⟩; rfl) fun rest => ?_
  have hrest : ∀ c ∈ (']' :: '\n' :: rest).head?, isBareKeyChar c = false := by rintro _ ⟨⟩; rfl
  have hkey := hname.run_key hrest (by rw [List.dropWhile_cons_of_neg (by decide)]; simp)
  rw [List.dropWhile_cons_of_neg (by decide)] at hkey
  -- A header of one bracket is no header of an element of an array.
  have hone : ¬ ['[', '['] <+: '[' :: (name.toList ++ ']' :: '\n' :: rest) := by
    obtain ⟨c, cs, hcs, hbare⟩ := hname.exists_cons
    rw [hcs]
    rintro ⟨tail, htail⟩
    obtain ⟨-, htail⟩ := List.cons.inj htail
    obtain ⟨rfl, -⟩ := List.cons.inj htail
    revert hbare
    decide
  have hheader : (Toml.header d).run ('[' :: (name.toList ++ ']' :: '\n' :: rest)) =
      .ok (d', '\n' :: rest) := by
    rw [Toml.header, run_bind (run_skip?_of_not hone), if_neg Bool.false_ne_true,
      run_bind (run_skip_cons '[' _), run_bind (hname.run_skipGap _), run_bind hkey,
      run_bind (run_skip_cons ']' _)]
    exact run_orMalformed hopen _
  have htext : '[' :: name.toList ++ [']'] ++ '\n' :: rest =
      '[' :: (name.toList ++ ']' :: '\n' :: rest) := by simp
  rw [htext]
  exact hheader

/-- A setting is assigned in the table that is open. -/
theorem setting {name : String} (hname : IsPlain name) (x : Setting)
    (hassign : d.assign [name] x.value = some d') :
    Advances d (name.toList ++ ' ' :: '=' :: ' ' :: x.text.toList ++ ['\n']) d' := by
  obtain ⟨c, cs, hcs, hbare⟩ := hname.exists_cons
  refine line ?_ fun rest => ?_
  · rw [hcs]
    rintro _ ⟨⟩
    exact not_gap_of_bare hbare
  -- The readers of the line follow one another: key, sign, blank, value.
  have htext : name.toList ++ ' ' :: '=' :: ' ' :: x.text.toList ++ '\n' :: rest =
      name.toList ++ ' ' :: '=' :: ' ' :: (x.text.toList ++ '\n' :: rest) := by simp
  have hkey : key.run (name.toList ++ ' ' :: '=' :: ' ' :: (x.text.toList ++ '\n' :: rest)) =
      .ok ([name], '=' :: ' ' :: (x.text.toList ++ '\n' :: rest)) :=
    hname.run_key (by rintro _ ⟨⟩; rfl) (by simp [isGap])
  have hblank : skipGap.run (' ' :: (x.text.toList ++ '\n' :: rest)) =
      .ok ((), x.text.toList ++ '\n' :: rest) := by
    obtain ⟨d, ds, hds, hgap⟩ := exists_cons_text x
    have hhead : ∀ c ∈ (x.text.toList ++ '\n' :: rest).head?, isGap c = false := by
      rw [hds]
      rintro _ ⟨⟩
      exact hgap
    exact run_skipWhile_of_head hhead
  have hvalue : (value (2 * (x.text.toList ++ '\n' :: rest).length + 2)).run
      (x.text.toList ++ '\n' :: rest) = .ok (x.value, '\n' :: rest) :=
    run_value_setting x (by omega)
  have hassignment : (assignment d).run
      (name.toList ++ ' ' :: '=' :: ' ' :: (x.text.toList ++ '\n' :: rest)) = .ok (d', '\n' :: rest) := by
    rw [assignment, run_bind hkey, run_bind (run_skip_cons '=' _), run_bind hblank,
      run_bind (StateT.run_get _), run_bind hvalue]
    exact run_orMalformed hassign _
  have hline : (c == '\n' || c == '#') = false := by
    rw [Bool.eq_false_iff]
    intro hc
    rw [Bool.or_eq_true, beq_iff_eq, beq_iff_eq] at hc
    rcases hc with rfl | rfl <;> revert hbare <;> decide
  have hstarts : startsKey c = true := by rw [startsKey, hbare]; rfl
  rw [htext, statement, run_bind (StateT.run_get _), hcs, List.cons_append, List.head?_cons]
  dsimp only
  rw [if_neg (by simp [hline]), if_pos hstarts, ← List.cons_append, ← hcs]
  exact hassignment

end Advances

/-! ## Tables -/

/-- The values of the settings of a table. -/
def Section.values (t : Section) : List (String × Value) :=
  t.settings.map fun p => (p.1, p.2.value)

/-- A table as an entry of the document. -/
def Section.entry (t : Section) : String × Value :=
  (t.name, .dict (named t.values))

/-- The name and the keys of a table are plain, and no key comes twice. -/
structure Section.IsPlain (t : Section) : Prop where
  name : Toml.IsPlain t.name
  keys : ∀ p ∈ t.settings, Toml.IsPlain p.1
  once : (t.settings.map (·.1)).Nodup

/-- A setting as it is written, with the end of its line. -/
def settingLine (p : String × Setting) : List Char :=
  p.1.toList ++ ' ' :: '=' :: ' ' :: p.2.text.toList ++ ['\n']

/-- A section is written as its header and its settings. -/
theorem toList_text_section (t : Section) :
    t.text.toList = '[' :: t.name.toList ++ [']'] ++ ['\n'] ++ t.settings.flatMap settingLine := by
  have hline (p : String × Setting) : (p.1 ++ " = " ++ p.2.text ++ "\n").toList = settingLine p := by
    simp [settingLine]
  rw [Section.text, String.toList_append, String.toList_append, String.toList_append, String.toList_join,
    List.flatMap_map]
  simp only [hline]
  simp

variable {d : Draft} {tables : List (String × Value)}

/-- All settings of a section are taken in, if none of their names is there already. -/
theorem exists_advances_settings {settings : List (String × Setting)} {inner : List (String × Value)}
    (hplain : ∀ p ∈ settings, IsPlain p.1) (honce : (inner.map (·.1) ++ settings.map (·.1)).Nodup)
    (hname : name ∉ tables.map (·.1)) (h : Holds d (tables ++ [(name, .dict (named inner))]))
    (hheader : d.header = [name]) :
    ∃ d', Advances d (settings.flatMap settingLine) d' ∧
      Holds d' (tables ++ [(name, .dict (named (inner ++ settings.map fun p => (p.1, p.2.value))))]) := by
  induction settings generalizing d inner with
  | nil => exact ⟨d, .nil d, by simpa using h⟩
  | cons p settings ih =>
    rw [List.forall_mem_cons] at hplain
    have hkey : p.1 ∉ inner.map (·.1) := fun hmem =>
      (List.nodup_append.mp honce).2.2 _ hmem _ List.mem_cons_self rfl
    obtain ⟨d', hassign, hholds, hheader'⟩ := h.assign p.2.value hheader hname hkey
    obtain ⟨d'', hadvances, hholds'⟩ :=
      ih hplain.2 (by simpa using honce) hholds hheader'
    refine ⟨d'', ?_, by simpa using hholds'⟩
    rw [List.flatMap_cons]
    exact (Advances.setting hplain.1 p.2 hassign).append hadvances

/-- A section is taken in with all its settings. -/
theorem exists_advances_section {t : Section} (ht : t.IsPlain) (hname : t.name ∉ tables.map (·.1))
    (h : Holds d tables) :
    ∃ d', Advances d t.text.toList d' ∧ Holds d' (tables ++ [t.entry]) := by
  obtain ⟨d', hopen, hholds, hheader⟩ := h.openTable hname
  obtain ⟨d'', hadvances, hholds'⟩ :=
    exists_advances_settings ht.keys (by simpa using ht.once) hname hholds hheader
  refine ⟨d'', ?_, by simpa [Section.entry, Section.values] using hholds'⟩
  rw [toList_text_section]
  exact (Advances.header ht.name hopen).append hadvances

/-- Sections are taken in one after the other. -/
theorem exists_advances_written {ts : List Section} (hplain : ∀ t ∈ ts, t.IsPlain)
    (honce : (tables.map (·.1) ++ ts.map (·.name)).Nodup) (h : Holds d tables) :
    ∃ d', Advances d (written ts).toList d' ∧ Holds d' (tables ++ ts.map Section.entry) := by
  induction ts generalizing d tables with
  | nil => exact ⟨d, .nil d, by simpa using h⟩
  | cons t ts ih =>
    rw [List.forall_mem_cons] at hplain
    have hname : t.name ∉ tables.map (·.1) := fun hmem =>
      (List.nodup_append.mp honce).2.2 _ hmem _ List.mem_cons_self rfl
    obtain ⟨d', hadvances, hholds⟩ := exists_advances_section hplain.1 hname h
    obtain ⟨d'', hadvances', hholds'⟩ :=
      ih hplain.2 (by simpa [Section.entry] using honce) hholds
    refine ⟨d'', ?_, by simpa using hholds'⟩
    cases ts with
    | nil => simpa [written] using hadvances.append hadvances'
    | cons t' ts =>
      have hwritten : (written (t :: t' :: ts)).toList =
          t.text.toList ++ (['\n'] ++ (written (t' :: ts)).toList) := by
        simp [written, String.toList_intercalate]
      rw [hwritten]
      exact hadvances.append ((Advances.blank d').append hadvances')

/-! ## Documents -/

/-- Where there is no carriage return, no line end is changed. -/
theorem plainEnds_eq_self {cs : List Char} (h : '\r' ∉ cs) : plainEnds cs = cs := by
  fun_induction plainEnds cs with
  | case1 cs ih => simp at h
  | case2 c cs hc ih => rw [ih fun hmem => h (List.mem_cons_of_mem c hmem)]
  | case3 => rfl

theorem not_mem_return_hexDigits (width n : Nat) : '\r' ∉ hexDigits width n := by
  have hdigit : ∀ d < 16, hexDigit d ≠ '\r' := by decide
  induction width generalizing n with
  | zero => simp [hexDigits]
  | succ width ih =>
    rw [hexDigits, List.mem_append, List.mem_singleton, not_or]
    exact ⟨ih (n / 16), (hdigit _ (Nat.mod_lt n (by decide))).symm⟩

theorem not_mem_return_writtenChar (c : Char) : '\r' ∉ writtenChar c := by
  rcases writtenChar_cases c with ⟨d, hwritten, hd⟩ | ⟨hwritten, -⟩ | ⟨hwritten, -, -, hcontrol⟩
  · have hne : d ≠ '\r' := by
      rintro rfl
      cases hd
    simpa [hwritten] using hne.symm
  · simpa [hwritten] using not_mem_return_hexDigits 4 c.toNat
  · have hne : c ≠ '\r' := by
      rintro rfl
      cases hcontrol
    simpa [hwritten] using hne.symm

theorem not_mem_return_writtenText (s : String) : '\r' ∉ (writtenText s).toList := by
  simp [toList_writtenText, not_mem_return_writtenChar]

/-- A setting is written without a carriage return. -/
theorem not_mem_return_setting (x : Setting) : '\r' ∉ x.text.toList := by
  cases x with
  | flag b => cases b <;> decide
  | texts items =>
    cases items with
    | nil => decide
    | cons s items => simp [toList_text_texts, itemLine, not_mem_return_writtenText]

/-- A plain name has no carriage return. -/
theorem IsPlain.not_mem_return (h : IsPlain name) : '\r' ∉ name.toList := fun hmem => by
  have hbare := h.bare _ hmem
  revert hbare
  decide

/-- A section is written without a carriage return. -/
theorem Section.IsPlain.not_mem_return {t : Section} (h : t.IsPlain) : '\r' ∉ t.text.toList := by
  have hsettings : ∀ p ∈ t.settings, '\r' ∉ settingLine p := fun p hp => by
    simp [settingLine, (h.keys p hp).not_mem_return, not_mem_return_setting]
  simpa [toList_text_section, h.name.not_mem_return] using hsettings

theorem not_mem_intercalate {α : Type} {a : α} {between : List α} {parts : List (List α)}
    (hbetween : a ∉ between) (h : ∀ part ∈ parts, a ∉ part) : a ∉ between.intercalate parts := by
  induction parts with
  | nil => exact List.not_mem_nil
  | cons part parts ih =>
    rw [List.forall_mem_cons] at h
    cases parts with
    | nil =>
      rw [List.intercalate_singleton]
      exact h.1
    | cons part' parts =>
      rw [List.intercalate_cons_cons, List.mem_append, List.mem_append, not_or, not_or]
      exact ⟨⟨h.1, hbetween⟩, ih h.2⟩

/-- So is a whole document. -/
theorem not_mem_return_written {ts : List Section} (hplain : ∀ t ∈ ts, t.IsPlain) :
    '\r' ∉ (written ts).toList := by
  rw [written, String.toList_intercalate, List.map_map]
  exact not_mem_intercalate (by decide) (List.forall_mem_map.mpr fun t ht => (hplain t ht).not_mem_return)

/-- **A document is read back.** -/
theorem read_written {ts : List Section} (hplain : ∀ t ∈ ts, t.IsPlain) (honce : (ts.map (·.name)).Nodup) :
    read (written ts) = .ok (.dict (named (ts.map Section.entry))) := by
  obtain ⟨d, hadvances, hholds⟩ := exists_advances_written hplain (by simpa using honce) holds_empty
  obtain ⟨m, hm, hrun⟩ := hadvances ((written ts).toList.length + 1) [] (by simp)
  obtain ⟨m, rfl⟩ := Nat.exists_eq_succ_of_ne_zero (Nat.ne_zero_of_lt hm)
  have hend : (lines (m + 1) d).run [] = .ok (d, []) := rfl
  rw [List.append_nil, hend] at hrun
  have hlines : onText (lines ((written ts).toList.length + 1) {}) (written ts).toList = .ok d :=
    onText_of_run hrun
  rw [read, plainEnds_eq_self (not_mem_return_written hplain), hlines]
  change Except.ok (Value.dict d.root) = _
  rw [hholds.root, List.nil_append]

end SearchQuery.Toml
