import SearchQuery.Proofs.Sql.Reading

/-!
# Names in double quotes

The name of a column may stand in double quotes, with any characters in it, and so may those of its table
and schema. `Fragment.delimitedCondition?` reads a condition with such names, and this module says what it
reads the conditions that operators write as. Without quotes it is what `Fragment.condition?` reads
(`delimitedCondition?_eq`).

## Shape of the reader

Each character is marked with whether it stands in quotes (`marked`). Two quotes inside of a name stand for
one, so the name goes on behind them as if it had been closed and opened again. Characters in quotes join
like those of names, whatever they are; all other characters make the symbols that they made before, so
that what stands behind a name is read by the symbols that are known (`delimitedCondition?_behind_name`).
-/

namespace SearchQuery

namespace Sql

/-! ## Marks -/

/-- A character of a text, and whether it belongs to a name in quotes, as the quotes themselves do. -/
structure Marked where
  quoted : Bool
  char : Char
  deriving DecidableEq, Inhabited

/-- Mark the characters of a text that starts inside of quotes or outside. -/
def marked (inside : Bool) : List Char → List Marked
  | [] => []
  | c :: cs =>
    if c == '"' then ⟨true, c⟩ :: marked (!inside) cs else ⟨inside, c⟩ :: marked inside cs

/-- Whether the text ends inside of quotes. -/
def endsInside (inside : Bool) (cs : List Char) : Bool :=
  cs.foldl (fun inside c => if c == '"' then !inside else inside) inside

namespace Marked

/-- Whether a character may be part of a name; any may inside quotes. -/
def isNameChar (m : Marked) : Bool :=
  m.quoted || Sql.isNameChar m.char

/-- Whether a character may be part of a sign, which none may inside quotes. -/
def isSignChar (m : Marked) : Bool :=
  !m.quoted && Sql.isSignChar m.char

/-- Whether two characters side by side belong to one symbol. -/
def joins (a b : Marked) : Bool :=
  a.isNameChar && b.isNameChar || a.isSignChar && b.isSignChar

/-- Whether a character is a blank outside of quotes. -/
def isWhitespace (m : Marked) : Bool :=
  !m.quoted && m.char.isWhitespace

/-- The symbol of a run of characters, which is a name if it has quotes. -/
def symbolOf (run : List Marked) : Symbol :=
  if run.any (·.quoted) then .word (String.ofList (run.map (·.char)))
  else Sql.symbolOf (run.map (·.char))

/-- The symbols of a marked text. -/
def symbolsOf (ms : List Marked) : List Symbol :=
  ((ms.splitBy joins).filter fun run => !run.all isWhitespace).map symbolOf

end Marked

/-- The symbols of a text that may have names in quotes. -/
def delimitedSymbols (sql : String) : List Symbol :=
  Marked.symbolsOf (marked false sql.toList)

/-- Characters are marked one after the other, as what stands before them has left the quotes. -/
theorem marked_append (inside : Bool) (u v : List Char) :
    marked inside (u ++ v) = marked inside u ++ marked (endsInside inside u) v := by
  induction u generalizing inside with
  | nil => rfl
  | cons c u ih =>
    rw [List.cons_append, marked, marked, ih, ih, endsInside, endsInside, endsInside, List.foldl_cons]
    split <;> rfl

theorem endsInside_append (inside : Bool) (u v : List Char) :
    endsInside inside (u ++ v) = endsInside (endsInside inside u) v :=
  List.foldl_append

/-- The marked characters are those of the text. -/
theorem map_char_marked (inside : Bool) (cs : List Char) : (marked inside cs).map (·.char) = cs := by
  induction cs generalizing inside with
  | nil => rfl
  | cons c cs ih =>
    rw [marked]
    split
    · rw [List.map_cons, ih]
    · rw [List.map_cons, ih]

/-- Without a quote, nothing changes sides. -/
theorem marked_of_no_quote {cs : List Char} (h : '"' ∉ cs) (inside : Bool) :
    marked inside cs = cs.map (⟨inside, ·⟩) ∧ endsInside inside cs = inside := by
  induction cs with
  | nil => exact ⟨rfl, rfl⟩
  | cons c cs ih =>
    rw [List.mem_cons, not_or] at h
    have hc : (c == '"') = false := by simpa using Ne.symm h.1
    obtain ⟨hmarked, hends⟩ := ih h.2
    constructor
    · rw [marked, hc, hmarked]
      rfl
    · rw [endsInside, List.foldl_cons, hc]
      exact hends

/-! ## Texts without quotes -/

/-- What is split by a property of images is split by their sources. -/
theorem splitBy_map {α β : Type} (f : α → β) (r : β → β → Bool) (xs : List α) :
    (xs.map f).splitBy r = (xs.splitBy fun a b => r (f a) (f b)).map (List.map f) := by
  rw [List.splitBy_eq_iff]
  refine ⟨?_, ?_, ?_, ?_⟩
  · rw [← List.map_flatten, List.flatten_splitBy]
  · intro hnil
    obtain ⟨run, hrun, hmap⟩ := List.mem_map.mp hnil
    exact List.ne_nil_of_mem_splitBy hrun (List.map_eq_nil_iff.mp hmap)
  · intro run hmap
    obtain ⟨run, hrun, rfl⟩ := List.mem_map.mp hmap
    exact (List.isChain_map f).mpr (List.isChain_of_mem_splitBy hrun)
  · rw [List.isChain_map]
    refine (List.isChain_getLast_head_splitBy _ xs).imp ?_
    rintro u v ⟨hu, hv, hr⟩
    refine ⟨by simpa using hu, by simpa using hv, ?_⟩
    rw [List.getLast_map, List.head_map]
    exact hr

/-- Outside of quotes marked characters are read as plain ones. -/
theorem Marked.symbolsOf_unquoted (cs : List Char) :
    Marked.symbolsOf (cs.map (⟨false, ·⟩)) = Sql.symbolsOf cs := by
  have hspace : ∀ run : List Char,
      (run.map (Marked.mk false)).all Marked.isWhitespace = run.all Char.isWhitespace := by
    intro run
    rw [List.all_map]
    rfl
  have hsymbol : ∀ run : List Char, Marked.symbolOf (run.map (Marked.mk false)) = Sql.symbolOf run := by
    intro run
    simp [Marked.symbolOf, Function.comp_def]
  rw [Marked.symbolsOf, splitBy_map, List.filter_map, List.map_map, Sql.symbolsOf]
  refine congrArg₂ List.map (funext hsymbol) ?_
  refine List.filter_congr fun run _ => ?_
  rw [Function.comp_apply, hspace]

/-- Without quotes the symbols are those that were read before. -/
theorem delimitedSymbols_eq {sql : String} (h : '"' ∉ sql.toList) : delimitedSymbols sql = symbols sql := by
  rw [delimitedSymbols, (marked_of_no_quote h false).1, Marked.symbolsOf_unquoted, symbols]

/-! ## Names -/

/-- The characters may stand in the name of a column, and all quotes are closed. -/
structure IsNamePart (cs : List Char) : Prop where
  all_nameChar : ∀ m ∈ marked false cs, m.isNameChar = true
  closed : endsInside false cs = false

/-- The name of a column, with or without that of its table, in quotes or not. -/
structure IsColumnName (name : String) : Prop where
  ne_empty : name ≠ ""
  isNamePart : IsNamePart name.toList
  not_keyword : Keyword.ofWord? name.toList = none

/-- Parts of names can be joined. -/
theorem IsNamePart.append {u v : List Char} (hu : IsNamePart u) (hv : IsNamePart v) :
    IsNamePart (u ++ v) := by
  constructor
  · rw [marked_append, hu.closed]
    exact List.forall_mem_append.mpr ⟨hu.all_nameChar, hv.all_nameChar⟩
  · rw [endsInside_append, hu.closed, hv.closed]

/-- Characters of names are no quotes. -/
theorem not_mem_quote_of_all {cs : List Char} (h : ∀ c ∈ cs, isNameChar c = true) : '"' ∉ cs := by
  intro hmem
  have hc := h _ hmem
  revert hc
  decide +kernel

/-- A run of characters of names is part of a name. -/
theorem isNamePart_of_all {cs : List Char} (h : ∀ c ∈ cs, isNameChar c = true) : IsNamePart cs := by
  obtain ⟨hmarked, hends⟩ := marked_of_no_quote (not_mem_quote_of_all h) false
  refine ⟨?_, hends⟩
  rw [hmarked]
  intro m hm
  obtain ⟨c, hc, rfl⟩ := List.mem_map.mp hm
  rw [Marked.isNameChar, h c hc, Bool.or_true]

namespace IsName

variable {name : String} (h : IsName name)

include h

/-- A name has no quote. -/
theorem not_mem_quote : '"' ∉ name.toList :=
  not_mem_quote_of_all (List.all_eq_true.mp h.all_nameChar)

/-- A name may be the name of a column. -/
theorem isColumnName : IsColumnName name :=
  ⟨h.ne_empty, isNamePart_of_all (List.all_eq_true.mp h.all_nameChar), h.not_keyword⟩

end IsName

/-- Inside of quotes every text is part of the name, once its own quotes are doubled. -/
theorem marked_doubled (cs : List Char) :
    (∀ m ∈ marked true (cs.flatMap fun c => if c == '"' then [c, c] else [c]), m.quoted = true) ∧
      endsInside true (cs.flatMap fun c => if c == '"' then [c, c] else [c]) = true := by
  induction cs with
  | nil => exact ⟨by simp [marked], rfl⟩
  | cons c cs ih =>
    -- A quote closes the name and opens it again; any other character leaves it open.
    rw [List.flatMap_cons, marked_append, endsInside_append]
    by_cases hc : c = '"'
    · have hends : endsInside true [c, c] = true := by simp [endsInside, hc]
      have hmarked : marked true [c, c] = [⟨true, c⟩, ⟨true, c⟩] := by simp [marked, hc]
      rw [if_pos (by simpa using hc), hends, hmarked]
      exact ⟨by simpa using ih.1, ih.2⟩
    · have hends : endsInside true [c] = true := by simp [endsInside, hc]
      have hmarked : marked true [c] = [⟨true, c⟩] := by simp [marked, hc]
      rw [if_neg (by simpa using hc), hends, hmarked]
      exact ⟨by simpa using ih.1, ih.2⟩

/-- What stands between quotes is part of a name, with its own quotes doubled. -/
theorem isNamePart_quoted (cs : List Char) :
    IsNamePart ('"' :: cs.flatMap (fun c => if c == '"' then [c, c] else [c]) ++ ['"']) := by
  obtain ⟨hmarked, hends⟩ := marked_doubled cs
  generalize cs.flatMap (fun c => if c == '"' then [c, c] else [c]) = inside at hmarked hends
  have hopen : endsInside false ('"' :: inside) = true := hends
  constructor
  · rw [marked_append, hopen, List.forall_mem_append]
    refine ⟨List.forall_mem_cons.mpr ⟨rfl, ?_⟩, List.forall_mem_singleton.mpr rfl⟩
    intro m hm
    rw [Marked.isNameChar, hmarked m hm, Bool.true_or]
  · rw [endsInside_append, hopen]
    rfl

/-- The name of a column is one word. -/
theorem delimitedSymbols_name {name : String} (h : IsColumnName name) :
    delimitedSymbols name = [.word name] := by
  have hchars := map_char_marked false name.toList
  have hname := h.isNamePart.all_nameChar
  have hne : marked false name.toList ≠ [] := by
    intro hnil
    rw [hnil] at hchars
    exact h.ne_empty (String.toList_eq_nil_iff.mp hchars.symm)
  generalize hms : marked false name.toList = ms at hchars hname hne
  have hrun : ms.splitBy Marked.joins = [ms] :=
    List.splitBy_of_isChain hne (List.Pairwise.isChain
      (List.pairwise_of_forall_mem_list fun a ha b hb => by simp [Marked.joins, hname a ha, hname b hb]))
  -- The one run is not left out as white space, since its first character is none.
  have hfull : ms.all Marked.isWhitespace = false := by
    obtain ⟨m, rest, rfl⟩ := List.exists_cons_of_ne_nil hne
    have hm := hname m List.mem_cons_self
    rw [List.all_cons, Marked.isWhitespace]
    cases hquoted : m.quoted with
    | true => rfl
    | false =>
      rw [Marked.isNameChar, hquoted, Bool.false_or] at hm
      rw [(not_isWhitespace_of_isNameChar hm).1]
      rfl
  have hsymbol : Marked.symbolOf ms = .word name := by
    rw [Marked.symbolOf, hchars]
    split
    next => rw [String.ofList_toList]
    next hbare =>
      rw [Bool.not_eq_true, List.any_eq_false] at hbare
      rw [symbolOf_name ?_ ?_ h.not_keyword, String.ofList_toList]
      · simpa using h.ne_empty
      · rw [← hchars, List.all_map, List.all_eq_true]
        intro m hm
        have hmname := hname m hm
        rwa [Marked.isNameChar, Bool.eq_false_iff.mpr (hbare m hm), Bool.false_or] at hmname
  rw [delimitedSymbols, hms, Marked.symbolsOf, hrun, List.filter_cons_of_pos (by simp [hfull]),
    List.filter_nil, List.map_singleton, hsymbol]

/-- So is a name outside of quotes. -/
theorem symbols_name {name : String} (h : IsName name) : symbols name = [.word name] := by
  rw [← delimitedSymbols_eq h.not_mem_quote, delimitedSymbols_name h.isColumnName]

/-- A blank outside of quotes stands between symbols. -/
theorem Marked.symbolsOf_space (front back : List Marked) :
    symbolsOf (front ++ ⟨false, ' '⟩ :: back) = symbolsOf front ++ symbolsOf back := by
  have halone : ∀ m : Marked, joins ⟨false, ' '⟩ m = false ∧ joins m ⟨false, ' '⟩ = false := by
    intro m
    have hname : Marked.isNameChar ⟨false, ' '⟩ = false := by decide +kernel
    have hsign : Marked.isSignChar ⟨false, ' '⟩ = false := by decide +kernel
    simp [joins, hname, hsign]
  have hback : (Marked.mk false ' ' :: back).splitBy joins =
      [Marked.mk false ' '].splitBy joins ++ back.splitBy joins :=
    List.splitBy_append (l := [Marked.mk false ' ']) fun m hm d _ => by
      cases hm
      exact (halone d).1
  have hfront := List.splitBy_append_cons (r := joins) (l := front) back fun m _ => (halone m).2
  rw [symbolsOf, hfront, hback, List.filter_append, List.filter_append, List.map_append, List.map_append]
  rfl

/-- A text with a space between two others, the first of which has all of its quotes closed. -/
theorem delimitedSymbols_space {front : String} (h : endsInside false front.toList = false)
    (back : String) :
    delimitedSymbols (front ++ " " ++ back) = delimitedSymbols front ++ delimitedSymbols back := by
  have htext : (front ++ " " ++ back).toList = front.toList ++ ' ' :: back.toList := by
    simp [String.toList_append]
  have hspace : marked false (' ' :: back.toList) = ⟨false, ' '⟩ :: marked false back.toList := rfl
  rw [delimitedSymbols, htext, marked_append, h, hspace, Marked.symbolsOf_space]
  rfl

/-- What follows the name of a column is read by itself. -/
theorem delimitedSymbols_behind_name {name : String} (h : IsColumnName name) (rest : String) :
    delimitedSymbols (name ++ " " ++ rest) = .word name :: delimitedSymbols rest := by
  rw [delimitedSymbols_space h.isNamePart.closed, delimitedSymbols_name h]
  rfl

end Sql

namespace Fragment

open Sql

/-- The condition that a fragment writes, where names may stand in quotes. -/
def delimitedCondition? (f : Fragment Value) : Option Condition :=
  (items? (delimitedSymbols f.sql) f.params).bind Sql.condition?

/-- The truth of this condition for a row. -/
def delimitedTruth? {α : Type} (row : Row α) (f : Fragment Value) : Option Truth :=
  f.delimitedCondition?.map (·.truth row)

/-- Where there are no quotes, both readers read the same. -/
theorem delimitedCondition?_eq {f : Fragment Value} (h : '"' ∉ f.sql.toList) :
    f.delimitedCondition? = f.condition? := by
  rw [delimitedCondition?, delimitedSymbols_eq h, condition?]

/-- Text without quotes is read in the same way by both readers. -/
theorem pushes_of_no_quote {text : String} (hquote : '"' ∉ text.toList) {ps : List Value}
    {items : List Element} (h : Pushes (symbols text) ps items) :
    Pushes (delimitedSymbols text) ps items := by
  rwa [delimitedSymbols_eq hquote]

/-! ## Behind the name of a column -/

/-- The texts that operators write behind the name of a column, with their symbols. -/
def operatorTexts : List (String × List Symbol) := [
  ("= ?", [.sign ['='], .mark]),
  ("< ?", [.sign ['<'], .mark]),
  ("<= ?", [.sign ['<', '='], .mark]),
  ("> ?", [.sign ['>'], .mark]),
  (">= ?", [.sign ['>', '='], .mark]),
  ("<> ? OR", [.sign ['<', '>'], .mark, .keyword .or]),
  ("LIKE ?", [.keyword .like, .mark]),
  ("IS NULL", [.keyword .is, .keyword .null]),
  ("IS NOT NULL", [.keyword .is, .keyword .not, .keyword .null])]

/-- The texts behind the operators are symbols without quotes. -/
theorem symbols_operatorTexts : ∀ p ∈ operatorTexts, '"' ∉ p.1.toList ∧ symbols p.1 = p.2 := by
  decide +kernel

/-- So both readers read them. -/
theorem pushes_operatorText {text : String} {ss : List Symbol} (htext : (text, ss) ∈ operatorTexts)
    {ps : List Value} {items : List Element} (h : Pushes ss ps items) :
    Pushes (delimitedSymbols text) ps items := by
  obtain ⟨hquote, hsymbols⟩ := symbols_operatorTexts _ htext
  exact pushes_of_no_quote hquote (pushes_of_symbols ss hsymbols h)

variable {column : String} (h : IsColumnName column)

include h

/-- What follows the name of a column is pushed behind it. -/
theorem pushes_behind_columnName {rest : String} {ps : List Value} {items : List Element}
    (hrest : Pushes (delimitedSymbols rest) ps items) :
    Pushes (delimitedSymbols (column ++ " " ++ rest)) ps (.symbol (.word column) :: items) := by
  have hname : Pushes [.word column] [] [.symbol (.word column)] := rfl
  rw [delimitedSymbols_behind_name h]
  exact hname.append hrest

/-- A condition is read from what stands behind the name of its column. -/
theorem delimitedCondition?_behind_name {text rest : String} (htext : text = " " ++ rest) {ps : List Value}
    {items : List Element} (hrest : Pushes (delimitedSymbols rest) ps items) {φ : Condition}
    (hφ : Sql.condition? (.symbol (.word column) :: items) = some φ) :
    ({ sql := column ++ text, params := ps } : Fragment Value).delimitedCondition? = some φ := by
  have hpushes := pushes_behind_columnName h hrest
  rw [htext, delimitedCondition?, ← String.append_assoc, items?_eq_some_iff.mpr hpushes]
  exact hφ

/-- A text of this kind is read as a likeness. -/
theorem delimitedCondition?_like (v : Value) :
    ({ sql := column ++ " LIKE ?", params := [v] } : Fragment Value).delimitedCondition? =
      some (.like column v) := by
  have hmem : ("LIKE ?", [Symbol.keyword .like, .mark]) ∈ operatorTexts := by simp [operatorTexts]
  have hrest : Pushes (delimitedSymbols "LIKE ?") [v] [.symbol (.keyword .like), .value v] :=
    pushes_operatorText hmem rfl
  exact delimitedCondition?_behind_name h rfl hrest rfl

/-- A test of this kind is read as an equality. -/
theorem delimitedCondition?_equal (v : Value) :
    ({ sql := column ++ " = ?", params := [v] } : Fragment Value).delimitedCondition? =
      some (.equal column v) := by
  have hmem : ("= ?", [Symbol.sign ['='], .mark]) ∈ operatorTexts := by simp [operatorTexts]
  have hrest : Pushes (delimitedSymbols "= ?") [v] [.symbol (.sign ['=']), .value v] :=
    pushes_operatorText hmem rfl
  exact delimitedCondition?_behind_name h rfl hrest rfl

/-- A comparison is read by its sign. -/
theorem delimitedCondition?_compare (c : Column.Comparison) (v : Value) :
    ({ sql := column ++ " " ++ c.sign ++ " ?", params := [v] } : Fragment Value).delimitedCondition? =
      some (.compare c column v) := by
  have hmem : (c.sign ++ " " ++ "?", [Symbol.sign c.sign.toList, .mark]) ∈ operatorTexts := by
    cases c <;> decide
  have hrest : Pushes (delimitedSymbols (c.sign ++ " " ++ "?")) [v]
      [.symbol (.sign c.sign.toList), .value v] := pushes_operatorText hmem rfl
  have hφ : Sql.condition? [.symbol (.word column), .symbol (.sign c.sign.toList), .value v] =
      some (.compare c column v) := by
    cases c <;> rfl
  have htext : column ++ " " ++ c.sign ++ " ?" = column ++ (" " ++ (c.sign ++ " " ++ "?")) := by
    have hend : " ?" = " " ++ "?" := rfl
    rw [hend]
    simp only [String.append_assoc]
  rw [htext]
  exact delimitedCondition?_behind_name h rfl hrest hφ

/-- The test for nothing is read behind the name of the column. -/
theorem pushes_delimited_isNull :
    Pushes (delimitedSymbols (column ++ " IS NULL")) []
      [.symbol (.word column), .symbol (.keyword .is), .symbol (.keyword .null)] := by
  have hmem : ("IS NULL", [Symbol.keyword .is, .keyword .null]) ∈ operatorTexts := by simp [operatorTexts]
  have htext : column ++ " IS NULL" = column ++ " " ++ "IS NULL" := by
    rw [String.append_assoc]
    rfl
  rw [htext]
  exact pushes_behind_columnName h (pushes_operatorText hmem rfl)

theorem delimitedCondition?_isNull :
    (ofSql (column ++ " IS NULL") : Fragment Value).delimitedCondition? = some (.isNull column) := by
  rw [delimitedCondition?, ofSql, items?_eq_some_iff.mpr (pushes_delimited_isNull h)]
  rfl

theorem delimitedCondition?_isNotNull :
    (ofSql (column ++ " IS NOT NULL") : Fragment Value).delimitedCondition? =
      some (.not (.isNull column)) := by
  have hmem : ("IS NOT NULL", [Symbol.keyword .is, .keyword .not, .keyword .null]) ∈ operatorTexts := by
    simp [operatorTexts]
  have hrest : Pushes (delimitedSymbols "IS NOT NULL") []
      [.symbol (.keyword .is), .symbol (.keyword .not), .symbol (.keyword .null)] :=
    pushes_operatorText hmem rfl
  exact delimitedCondition?_behind_name h rfl hrest rfl

/-- An inequality is read with its test for nothing. -/
theorem delimitedCondition?_unequal (v : Value) :
    ({ sql := column ++ " <> ? OR " ++ column ++ " IS NULL", params := [v] } :
        Fragment Value).delimitedCondition? = some (.or (.not (.equal column v)) (.isNull column)) := by
  have hmem : ("<> ? OR", [Symbol.sign ['<', '>'], .mark, .keyword .or]) ∈ operatorTexts := by
    simp [operatorTexts]
  have hopen : Pushes (delimitedSymbols "<> ? OR") [v]
      [.symbol (.sign ['<', '>']), .value v, .symbol (.keyword .or)] := pushes_operatorText hmem rfl
  have hrest : Pushes (delimitedSymbols ("<> ? OR" ++ " " ++ (column ++ " IS NULL"))) [v]
      ([.symbol (.sign ['<', '>']), .value v, .symbol (.keyword .or)] ++
        [.symbol (.word column), .symbol (.keyword .is), .symbol (.keyword .null)]) := by
    rw [delimitedSymbols_space (by decide)]
    exact hopen.append (pushes_delimited_isNull h)
  have htext : column ++ " <> ? OR " ++ column ++ " IS NULL" =
      column ++ (" " ++ ("<> ? OR" ++ " " ++ (column ++ " IS NULL"))) := by
    have hmiddle : " <> ? OR " = " " ++ "<> ? OR" ++ " " := rfl
    rw [hmiddle]
    simp only [String.append_assoc]
  rw [htext]
  exact delimitedCondition?_behind_name h rfl hrest rfl

/-- The values in parentheses are those that the column is one of. -/
theorem delimitedCondition?_isOneOf {inner : String} (hquote : '"' ∉ inner.toList) {ps vs : List Value}
    {items : List Element} (hinner : Pushes (symbols inner) ps items)
    (hvalues : closed? items = some (.values vs)) :
    ({ sql := column ++ " IN (" ++ inner ++ ")", params := ps } : Fragment Value).delimitedCondition? =
      some (.isOneOf column vs) := by
  have hin : Pushes [.keyword .in] [] [.symbol (.keyword .in)] := rfl
  have hword : symbols "IN " = [.keyword .in] := by decide +kernel
  have hrest : Pushes (symbols ("IN " ++ parenthesized inner)) ps
      [.symbol (.keyword .in), .values vs] := by
    rw [symbols_append_parenthesized, hword]
    exact hin.append (hinner.parenthesized hvalues)
  have hbare : '"' ∉ ("IN " ++ parenthesized inner).toList := by
    simpa [parenthesized, String.toList_append] using hquote
  have htext : column ++ " IN (" ++ inner ++ ")" = column ++ (" " ++ ("IN " ++ parenthesized inner)) := by
    have hmiddle : " IN (" = " " ++ ("IN " ++ "(") := rfl
    rw [hmiddle, parenthesized]
    simp only [String.append_assoc]
  rw [htext]
  exact delimitedCondition?_behind_name h rfl (pushes_of_no_quote hbare hrest) rfl

end Fragment

end SearchQuery
