import Mathlib.Data.List.SplitBy
import SearchQuery.Fragment
import SearchQuery.Proofs.Sql.Truth
import SearchQuery.Text.Alphanumeric
import SearchQuery.Text.Blank

/-!
# Reading SQL conditions

A fragment is read as a condition the way a database reads it: its text is cut into symbols, the
placeholders take the parameters in order, and `NOT` binds stronger than `AND`, which binds stronger
than `OR`. Texts in quotes are no part of the conditions that are read.

## Shape of the reader

The reader goes through the symbols once and keeps the items read so far, one frame for every
parenthesis that is open. A closing parenthesis makes one item out of its frame: a condition, or a
list of values. The items of a frame without parentheses are read by splitting them at `OR`, then at
`AND` (`condition?`).

What is read in parentheses does not depend on what stands around them. `Pushes ss ps items` says
that the symbols with their parameters push items onto whatever frame is open, so that it is enough to
know what the parts of a text push (`Pushes.append`, `Pushes.parenthesized`).
-/

namespace SearchQuery

namespace Sql

/-! ## Symbols -/

/-- The words of SQL that conditions are written with. -/
inductive Keyword where
  | and
  | or
  | not
  | like
  | is
  | null
  | in
  deriving DecidableEq, Inhabited

/-- The keyword that a word is, in upper or lower case. -/
def Keyword.ofWord? (word : List Char) : Option Keyword :=
  match word.map Char.toUpper with
  | ['A', 'N', 'D'] => some and
  | ['O', 'R'] => some or
  | ['N', 'O', 'T'] => some not
  | ['L', 'I', 'K', 'E'] => some like
  | ['I', 'S'] => some is
  | ['N', 'U', 'L', 'L'] => some null
  | ['I', 'N'] => some .in
  | _ => none

/-- A symbol of a condition; names of columns are words. -/
inductive Symbol where
  | word (name : String)
  | keyword (k : Keyword)
  | sign (text : List Char)
  | opening
  | closing
  | comma
  | mark
  | other
  deriving DecidableEq, Inhabited

/-- Whether `c` may stand in the name of a column, with that of its table in front. -/
def isNameChar (c : Char) : Bool :=
  Text.isWordChar c || c == '.' || c == '$'

/-- Whether a character may be part of a sign. -/
def isSignChar (c : Char) : Bool :=
  c == '<' || c == '>' || c == '='

/-- Whether two characters side by side belong to one symbol. -/
def joins (a b : Char) : Bool :=
  isNameChar a && isNameChar b || isSignChar a && isSignChar b

/-- The symbol of a run of characters. -/
def symbolOf (run : List Char) : Symbol :=
  match run with
  | ['('] => .opening
  | [')'] => .closing
  | [','] => .comma
  | ['?'] => .mark
  | _ =>
    if run.all isSignChar then .sign run
    else if run.all isNameChar then
      match Keyword.ofWord? run with
      | some k => .keyword k
      | none => .word (String.ofList run)
    else .other

/-- The symbols of a text. -/
def symbolsOf (cs : List Char) : List Symbol :=
  ((cs.splitBy joins).filter fun run => !run.all Char.isWhitespace).map symbolOf

/-- The symbols of a statement. -/
def symbols (sql : String) : List Symbol :=
  symbolsOf sql.toList

/-! ## Items -/

/-- What a frame holds: symbols, parameters, and what was in parentheses. -/
inductive Element where
  | symbol (s : Symbol)
  | value (v : Value)
  | condition (φ : Condition)
  | values (vs : List Value)
  deriving Inhabited

/-- Whether an item is a keyword. -/
def Element.is (k : Keyword) : Element → Bool
  | symbol (.keyword k') => k' = k
  | _ => false

/-- The comparison of a column and a parameter by a sign. -/
def comparison? (sign : List Char) (column : String) (v : Value) : Option Condition :=
  match sign with
  | ['='] => some (.equal column v)
  | ['<', '>'] => some (.not (.equal column v))
  | ['<'] => some (.compare .less column v)
  | ['<', '='] => some (.compare .atMost column v)
  | ['>'] => some (.compare .greater column v)
  | ['>', '='] => some (.compare .atLeast column v)
  | _ => none

/-- A condition without connectives. -/
def atom? : List Element → Option Condition
  | [.condition φ] => some φ
  | [.symbol (.word column), .symbol (.sign sign), .value v] => comparison? sign column v
  | [.symbol (.word column), .symbol (.keyword .like), .value v] => some (.like column v)
  | [.symbol (.word column), .symbol (.keyword .is), .symbol (.keyword .null)] =>
    some (.isNull column)
  | [.symbol (.word column), .symbol (.keyword .is), .symbol (.keyword .not),
      .symbol (.keyword .null)] => some (.not (.isNull column))
  | [.symbol (.word column), .symbol (.keyword .in), .values vs] => some (.isOneOf column vs)
  | _ => none

/-- A condition with any number of `NOT` in front. -/
def factor? : List Element → Option Condition
  | .symbol (.keyword .not) :: items => (factor? items).map .not
  | items => atom? items

/-- Conditions joined from left to right. -/
def joined? (op : Condition → Condition → Condition) : List Condition → Option Condition
  | [] => none
  | φ :: φs => some (φs.foldl op φ)

/-- Factors between `AND`. -/
def conjunction? (items : List Element) : Option Condition :=
  ((items.splitOnP (·.is .and)).mapM factor?).bind (joined? .and)

/-- The condition that a frame holds: conjunctions between `OR`. -/
def condition? (items : List Element) : Option Condition :=
  ((items.splitOnP (·.is .or)).mapM conjunction?).bind (joined? .or)

/-- The values that a frame holds, with commas between them. -/
def values? : List Element → Option (List Value)
  | [.value v] => some [v]
  | [.symbol (.keyword .null)] => some [.null]
  | .value v :: .symbol .comma :: items => (values? items).map (v :: ·)
  | .symbol (.keyword .null) :: .symbol .comma :: items => (values? items).map (.null :: ·)
  | _ => none

/-- The item that a frame in parentheses makes. -/
def closed? (items : List Element) : Option Element :=
  match condition? items with
  | some φ => some (.condition φ)
  | none => (values? items).map .values

/-! ## The reader -/

/-- The innermost frame and those around it, from the inside out, and the parameters that are left. -/
structure Reader where
  top : List Element := []
  around : List (List Element) := []
  params : List Value
  deriving Inhabited

namespace Reader

/-- Put an item at the end of the innermost frame. -/
def push (r : Reader) (item : Element) : Reader :=
  { r with top := r.top ++ [item] }

/-- Read one symbol. -/
def step (r : Reader) : Symbol → Option Reader
  | .opening => some { r with top := [], around := r.top :: r.around }
  | .closing =>
    match r.around with
    | frame :: around =>
      (closed? r.top).map fun item => { r with top := frame, around }.push item
    | [] => none
  | .mark =>
    match r.params with
    | v :: params => some ({ r with params }.push (.value v))
    | [] => none
  | s => some (r.push (.symbol s))

/-- The reader behind symbols, as long as it can read them. -/
def run (r : Reader) (ss : List Symbol) : Option Reader :=
  ss.foldlM step r

end Reader

/-- The items of the symbols and their parameters, if all parentheses are closed. -/
def items? (ss : List Symbol) (params : List Value) : Option (List Element) :=
  match Reader.run { params } ss with
  | some ⟨items, [], []⟩ => some items
  | _ => none

/-! ## Symbols of texts put together -/

/-- A character that is no part of a longer symbol. -/
def standsAlone (c : Char) : Bool :=
  !isNameChar c && !isSignChar c

/-- A character that stands alone is joined with none. -/
theorem joins_standsAlone {c : Char} (h : standsAlone c = true) (d : Char) :
    joins c d = false ∧ joins d c = false := by
  rw [standsAlone, Bool.and_eq_true, Bool.not_eq_true', Bool.not_eq_true'] at h
  simp [joins, h.1, h.2]

/-- What stands alone is a symbol between those of the front and of the back. -/
theorem symbolsOf_append_cons (front back : List Char) {c : Char} (h : standsAlone c = true) :
    symbolsOf (front ++ c :: back) = symbolsOf front ++ (symbolsOf [c] ++ symbolsOf back) := by
  have hback : (c :: back).splitBy joins = [c].splitBy joins ++ back.splitBy joins :=
    List.splitBy_append (l := [c]) fun x hx y _ => by
      cases hx
      exact (joins_standsAlone h y).1
  have hfront := List.splitBy_append_cons (r := joins) (l := front) back fun x _ =>
    (joins_standsAlone h x).2
  rw [symbolsOf, hfront, hback, List.filter_append, List.filter_append, List.map_append,
    List.map_append]
  rfl

/-- A text with a space between two others. -/
theorem symbols_space (front back : String) :
    symbols (front ++ " " ++ back) = symbols front ++ symbols back := by
  have htext : (front ++ " " ++ back).toList = front.toList ++ ' ' :: back.toList := by
    simp [String.toList_append]
  have hspace : symbolsOf [' '] = [] := by decide +kernel
  rw [symbols, htext, symbolsOf_append_cons _ _ (by decide +kernel), hspace]
  rfl

theorem symbols_empty : symbols "" = [] := by
  decide +kernel

/-- A blank at the end gives no symbol. -/
theorem symbols_trailing_space (s : String) : symbols (s ++ " ") = symbols s := by
  have h := symbols_space s ""
  rwa [String.append_empty, symbols_empty, List.append_nil] at h

/-- A text behind another one, in parentheses. -/
theorem symbols_append_parenthesized (front inner : String) :
    symbols (front ++ Fragment.parenthesized inner) =
      symbols front ++ (.opening :: symbols inner ++ [.closing]) := by
  have htext : (front ++ Fragment.parenthesized inner).toList =
      front.toList ++ '(' :: (inner.toList ++ ')' :: []) := by
    simp [Fragment.parenthesized, String.toList_append]
  have hopening : symbolsOf ['('] = [.opening] := by decide +kernel
  have hclosing : symbolsOf [')'] = [.closing] := by decide +kernel
  rw [symbols, htext, symbolsOf_append_cons _ _ (by decide +kernel), hopening,
    symbolsOf_append_cons _ _ (by decide +kernel), hclosing]
  rfl

/-- The name of a column, with or without that of its table: no keyword, and nothing in quotes. -/
structure IsName (name : String) : Prop where
  ne_empty : name ≠ ""
  all_nameChar : name.toList.all isNameChar = true
  not_keyword : Keyword.ofWord? name.toList = none

instance (name : String) : Decidable (IsName name) :=
  decidable_of_iff (name ≠ "" ∧ name.toList.all isNameChar = true ∧
      Keyword.ofWord? name.toList = none)
    ⟨fun h => ⟨h.1, h.2.1, h.2.2⟩, fun h => ⟨h.1, h.2, h.3⟩⟩

/-- Capitals keep a dot, and no keyword has one. -/
theorem Keyword.ofWord?_of_dot {word : List Char} (h : '.' ∈ word) : ofWord? word = none := by
  have hdot : '.' ∈ word.map Char.toUpper := List.mem_map.mpr ⟨'.', h, by decide⟩
  unfold Keyword.ofWord?
  split
  all_goals first
    | rfl
    | next heq =>
      rw [heq] at hdot
      exact absurd hdot (by decide)

/-- A character of a name is neither white space nor part of a sign. -/
theorem not_isWhitespace_of_isNameChar {c : Char} (h : isNameChar c = true) :
    c.isWhitespace = false ∧ isSignChar c = false := by
  refine ⟨?_, ?_⟩
  · by_contra hspace
    simp only [Char.isWhitespace, Bool.not_eq_false, Bool.or_eq_true, decide_eq_true_eq] at hspace
    rcases hspace with ((rfl | rfl) | rfl) | rfl <;> exact absurd h (by decide +kernel)
  · by_contra hsign
    simp only [isSignChar, Bool.not_eq_false, Bool.or_eq_true, beq_iff_eq] at hsign
    rcases hsign with (rfl | rfl) | rfl <;> exact absurd h (by decide +kernel)

/-- A name that is no keyword is a word. -/
theorem symbolOf_name {run : List Char} (hne : run ≠ []) (hall : run.all isNameChar = true)
    (hword : Keyword.ofWord? run = none) : symbolOf run = .word (String.ofList run) := by
  have hsign : run.all isSignChar = false := by
    obtain ⟨c, cs, rfl⟩ := List.exists_cons_of_ne_nil hne
    rw [List.all_cons, Bool.and_eq_true] at hall
    rw [List.all_cons, (not_isWhitespace_of_isNameChar hall.1).2, Bool.false_and]
  unfold symbolOf
  split
  · exact absurd hall (by decide +kernel)
  · exact absurd hall (by decide +kernel)
  · exact absurd hall (by decide +kernel)
  · exact absurd hall (by decide +kernel)
  · rw [hsign, hall, hword]
    rfl

/-- The code points of white space. -/
def spaceCodes : List ℕ :=
  List.range' 9 5 ++ List.range' 28 5 ++ [0x85, 0xa0, 0x1680] ++ List.range' 0x2000 11 ++
    [0x2028, 0x2029, 0x202f, 0x205f, 0x3000]

/-- Blanks have these codes. -/
theorem toNat_mem_spaceCodes {c : Char} (h : Text.isSpace c = true) : c.toNat ∈ spaceCodes := by
  simp only [Text.isSpace, Bool.or_eq_true, Bool.and_eq_true, decide_eq_true_eq, beq_iff_eq] at h
  simp only [spaceCodes, List.mem_append, List.mem_range'_1, List.mem_cons, List.not_mem_nil]
  omega

/-- White space is no part of names and signs, and none of the other symbols. -/
theorem not_isNameChar_of_isSpace {c : Char} (h : Text.isSpace c = true) :
    isNameChar c = false ∧ isSignChar c = false ∧ c ≠ '(' ∧ c ≠ ')' ∧ c ≠ ',' ∧ c ≠ '?' := by
  have hcodes : ∀ n ∈ spaceCodes, isNameChar (Char.ofNat n) = false ∧
      isSignChar (Char.ofNat n) = false ∧ Char.ofNat n ≠ '(' ∧ Char.ofNat n ≠ ')' ∧
      Char.ofNat n ≠ ',' ∧ Char.ofNat n ≠ '?' := by
    decide +kernel
  have hc := hcodes c.toNat (toNat_mem_spaceCodes h)
  rwa [Char.ofNat_toNat] at hc

/-- A run of blanks is a symbol of no meaning. -/
theorem symbolOf_of_isSpace {run : List Char} (hne : run ≠ []) (h : ∀ c ∈ run, Text.isSpace c = true) :
    symbolOf run = .other := by
  obtain ⟨c, cs, rfl⟩ := List.exists_cons_of_ne_nil hne
  obtain ⟨hname, hsign, hopening, hclosing, hcomma, hmark⟩ :=
    not_isNameChar_of_isSpace (h c List.mem_cons_self)
  unfold symbolOf
  split
  next heq => exact absurd (List.cons.inj heq).1 hopening
  next heq => exact absurd (List.cons.inj heq).1 hclosing
  next heq => exact absurd (List.cons.inj heq).1 hcomma
  next heq => exact absurd (List.cons.inj heq).1 hmark
  next => simp [hname, hsign]

/-- So are all symbols of a blank text. -/
theorem symbols_of_isBlank {sql : String} (h : Text.isBlank sql = true) :
    ∀ s ∈ symbols sql, s = .other := by
  intro s hs
  obtain ⟨run, hrun, rfl⟩ := List.mem_map.mp hs
  have hmem := (List.mem_filter.mp hrun).1
  refine symbolOf_of_isSpace (List.ne_nil_of_mem_splitBy hmem) fun c hc => ?_
  have hflat : c ∈ (sql.toList.splitBy joins).flatten := List.mem_flatten.mpr ⟨run, hmem, hc⟩
  rw [List.flatten_splitBy] at hflat
  exact List.all_eq_true.mp h c hflat

/-! ## Frames -/

namespace Reader

/-- A reader inside of what was read before, with parameters for what follows. -/
def under (items : List Element) (frames : List (List Element)) (params : List Value) (r : Reader) :
    Reader :=
  match r.around with
  | [] => ⟨items ++ r.top, frames, r.params ++ params⟩
  | _ => ⟨r.top, framesUnder r.around, r.params ++ params⟩
where
  /-- The outermost frame goes on where the items were, and the frames are around it. -/
  framesUnder : List (List Element) → List (List Element)
    | [] => []
    | [bottom] => (items ++ bottom) :: frames
    | frame :: around => frame :: framesUnder around

variable {items : List Element} {frames : List (List Element)} {params : List Value}

/-- What is pushed inside brackets is pushed on top of what stands before them. -/
theorem under_push (r : Reader) (item : Element) :
    (r.push item).under items frames params = (r.under items frames params).push item := by
  obtain ⟨top, around, ps⟩ := r
  cases around with
  | nil => simp [push, under]
  | cons frame around => rfl

/-- What a symbol does depends neither on what was read before nor on the parameters that follow. -/
theorem step_under {r r' : Reader} {s : Symbol} (h : r.step s = some r') :
    (r.under items frames params).step s = some (r'.under items frames params) := by
  have hpush : ∀ s : Symbol, some (r.push (.symbol s)) = some r' →
      some ((r.under items frames params).push (.symbol s)) =
        some (r'.under items frames params) := by
    intro s h
    rw [← under_push, Option.some.inj h]
  obtain ⟨top, around, ps⟩ := r
  cases s with
  | opening =>
    cases h
    cases around with
    | nil => rfl
    | cons frame around => rfl
  | closing =>
    cases around with
    | nil => cases h
    | cons frame around =>
      obtain ⟨item, hitem, rfl⟩ := Option.map_eq_some_iff.mp h
      -- The last frame to be closed is the one that lies on the items read before.
      cases around with
      | nil => simp [under, under.framesUnder, step, push, hitem]
      | cons outer around => simp [under, under.framesUnder, step, push, hitem]
  | mark =>
    cases ps with
    | nil => cases h
    | cons v ps =>
      cases h
      rw [under_push]
      cases around with
      | nil => rfl
      | cons frame around => rfl
  | word name => exact hpush _ h
  | keyword k => exact hpush _ h
  | sign text => exact hpush _ h
  | comma => exact hpush _ h
  | other => exact hpush _ h

/-- The reader does the same inside brackets. -/
theorem run_under {r r' : Reader} {ss : List Symbol} (h : r.run ss = some r') :
    (r.under items frames params).run ss = some (r'.under items frames params) := by
  induction ss generalizing r with
  | nil =>
    cases h
    rfl
  | cons s ss ih =>
    obtain ⟨next, hnext, h⟩ := Option.bind_eq_some_iff.mp h
    exact Option.bind_eq_some_iff.mpr ⟨_, step_under hnext, ih h⟩

end Reader

/-- The symbols, with their parameters, push the items onto the frame that is open. -/
def Pushes (ss : List Symbol) (params : List Value) (items : List Element) : Prop :=
  Reader.run { params } ss = some ⟨items, [], []⟩

/-- The items of symbols are those that are pushed when they are read. -/
theorem items?_eq_some_iff {ss : List Symbol} {params : List Value} {items : List Element} :
    items? ss params = some items ↔ Pushes ss params items := by
  rw [items?, Pushes]
  split
  next read hrun =>
    rw [hrun]
    simp
  next hother =>
    refine iff_of_false (by simp) fun hrun => ?_
    exact hother items hrun

/-- Symbols that are pushed one after the other give their items one after the other. -/
theorem Pushes.append {ss ss' : List Symbol} {ps ps' : List Value} {items items' : List Element}
    (h : Pushes ss ps items) (h' : Pushes ss' ps' items') :
    Pushes (ss ++ ss') (ps ++ ps') (items ++ items') := by
  -- The first run leaves the parameters of the second one, which goes on behind its items.
  have hfront : (Reader.under [] [] ps' { params := ps }).run ss =
      some (Reader.under [] [] ps' ⟨items, [], []⟩) := Reader.run_under h
  have hback : (Reader.under items [] [] { params := ps' }).run ss' =
      some (Reader.under items [] [] ⟨items', [], []⟩) := Reader.run_under h'
  simp only [Reader.under, List.append_nil, List.nil_append] at hfront hback
  rw [Pushes, Reader.run, List.foldlM_append]
  exact Option.bind_eq_some_iff.mpr ⟨_, hfront, hback⟩

/-- In parentheses a condition is one item. -/
theorem Pushes.parenthesized {ss : List Symbol} {ps : List Value} {items : List Element}
    {item : Element}
    (h : Pushes ss ps items) (hitem : closed? items = some item) :
    Pushes (.opening :: ss ++ [.closing]) ps [item] := by
  have hinner : (Reader.under [] [[]] [] { params := ps }).run ss =
      some (Reader.under [] [[]] [] ⟨items, [], []⟩) := Reader.run_under h
  simp only [Reader.under, List.append_nil, List.nil_append] at hinner
  rw [Pushes, Reader.run, List.foldlM_append]
  refine Option.bind_eq_some_iff.mpr ⟨_, hinner, ?_⟩
  simp [Reader.step, Reader.push, hitem]

/-- Symbols of no meaning are their own items. -/
theorem items_of_others {ss : List Symbol} (hss : ∀ s ∈ ss, s = .other) {ps : List Value}
    {items : List Element} (h : Pushes ss ps items) :
    items = List.replicate ss.length (.symbol .other) := by
  have hrun : ∀ top : List Element, Reader.run ⟨top, [], ps⟩ ss =
      some ⟨top ++ List.replicate ss.length (.symbol .other), [], ps⟩ := by
    clear h
    induction ss with
    | nil => simp [Reader.run]
    | cons s ss ih =>
      intro top
      rw [List.forall_mem_cons] at hss
      have hstep : Reader.step ⟨top, [], ps⟩ s = some ⟨top ++ [.symbol .other], [], ps⟩ := by
        rw [hss.1]
        rfl
      have hrest := ih hss.2 (top ++ [.symbol .other])
      rw [List.append_assoc] at hrest
      exact Option.bind_eq_some_iff.mpr ⟨_, hstep, hrest⟩
  have hread := h.symm.trans (hrun [])
  exact congrArg Reader.top (Option.some.inj hread)

/-- Nothing is said by symbols of no meaning. -/
theorem condition?_others (n : ℕ) : condition? (List.replicate n (.symbol .other)) = none := by
  have hplain : ∀ k, ∀ item ∈ List.replicate n (Element.symbol .other), item.is k = false := by
    intro k item hitem
    rw [List.eq_of_mem_replicate hitem]
    rfl
  have hfactor : factor? (List.replicate n (.symbol .other)) = none := by
    cases n with
    | zero => rfl
    | succ n => cases n <;> rfl
  have hconjunction : conjunction? (List.replicate n (.symbol .other)) = none := by
    rw [conjunction?, List.splitOnP_eq_singleton (hplain .and)]
    simp [hfactor]
  rw [condition?, List.splitOnP_eq_singleton (hplain .or)]
  simp [hconjunction]

/-- A condition in brackets is one. -/
theorem closed?_of_condition? {items : List Element} {φ : Condition} (h : condition? items = some φ) :
    closed? items = some (.condition φ) := by
  rw [closed?, h]

end Sql

namespace Fragment

open Sql

/-- The condition that a fragment writes. -/
def condition? (f : Fragment Value) : Option Condition :=
  (items? (symbols f.sql) f.params).bind Sql.condition?

/-- The truth of the condition that a fragment writes, for a row. -/
def truth? {α : Type} (row : Row α) (f : Fragment Value) : Option Truth :=
  f.condition?.map (·.truth row)

/-- A fragment has the condition that its items say. -/
theorem condition?_of_pushes {f : Fragment Value} {items : List Element} {φ : Condition}
    (h : Pushes (symbols f.sql) f.params items) (hφ : Sql.condition? items = some φ) :
    f.condition? = some φ := by
  rw [condition?, items?_eq_some_iff.mpr h]
  exact hφ

/-- A text of symbols that are known. -/
theorem pushes_of_symbols {text : String} (ss : List Symbol) (htext : symbols text = ss)
    {ps : List Value} {items : List Element} (h : Pushes ss ps items) :
    Pushes (symbols text) ps items := by
  rwa [htext]

/-- A fragment with a condition has items that say it. -/
theorem exists_pushes_of_condition? {f : Fragment Value} {φ : Condition} (h : f.condition? = some φ) :
    ∃ items, Pushes (symbols f.sql) f.params items ∧ Sql.condition? items = some φ := by
  obtain ⟨items, hitems, hφ⟩ := Option.bind_eq_some_iff.mp h
  exact ⟨items, items?_eq_some_iff.mp hitems, hφ⟩

/-- A fragment in parentheses pushes its condition, behind what the text in front pushes. -/
theorem pushes_parenthesized {f : Fragment Value} {φ : Condition} (h : f.condition? = some φ)
    {front : String} {ps : List Value} {items : List Element}
    (hfront : Pushes (symbols front) ps items) :
    Pushes (symbols (front ++ parenthesized f.sql)) (ps ++ f.params) (items ++ [.condition φ]) := by
  obtain ⟨inner, hinner, hφ⟩ := exists_pushes_of_condition? h
  rw [symbols_append_parenthesized]
  exact hfront.append (hinner.parenthesized (closed?_of_condition? hφ))

/-- A text of white space is no condition. -/
theorem isBlank_of_condition? {f : Fragment Value} {φ : Condition} (h : f.condition? = some φ) :
    Text.isBlank f.sql = false := by
  by_contra hblank
  rw [Bool.not_eq_false] at hblank
  obtain ⟨items, hitems, hφ⟩ := exists_pushes_of_condition? h
  have hothers := symbols_of_isBlank hblank
  rw [items_of_others hothers hitems, condition?_others] at hφ
  cases hφ

/-- A fragment that is not blank is not empty. -/
theorem isEmpty_of_not_isBlank {f : Fragment Value} (h : Text.isBlank f.sql = false) :
    f.isEmpty = false := by
  by_contra hempty
  have hsql : f.sql = "" := by simpa [isEmpty] using hempty
  rw [hsql] at h
  cases h

/-- So is one with a condition. -/
theorem isEmpty_of_condition? {f : Fragment Value} {φ : Condition} (h : f.condition? = some φ) :
    f.isEmpty = false :=
  isEmpty_of_not_isBlank (isBlank_of_condition? h)

/-- Joined fragments say what both say, joined. -/
theorem condition?_combine {a b : Fragment Value} {φ ψ : Condition} (ha : a.condition? = some φ)
    (hb : b.condition? = some ψ) (op : Connective) :
    (a.combine b op).condition? = some (.joinedBy op φ ψ) := by
  have hopen : Pushes (symbols (parenthesized a.sql)) a.params [.condition φ] := by
    have hempty : Pushes (symbols "") [] [] := by
      rw [symbols_empty]
      rfl
    simpa using pushes_parenthesized ha hempty
  obtain ⟨k, hk, hφψ⟩ : ∃ k : Keyword, symbols op.word = [.keyword k] ∧
      Sql.condition? [.condition φ, .symbol (.keyword k), .condition ψ] =
        some (Condition.joinedBy op φ ψ) := by
    cases op with
    | and => exact ⟨.and, by decide +kernel, rfl⟩
    | or => exact ⟨.or, by decide +kernel, rfl⟩
  have hfront : Pushes (symbols (parenthesized a.sql ++ " " ++ op.word ++ " ")) a.params
      [.condition φ, .symbol (.keyword k)] := by
    have hword : Pushes [.keyword k] [] [.symbol (.keyword k)] := rfl
    have h := hopen.append hword
    rw [symbols_trailing_space, symbols_space, hk]
    simpa using h
  have hparams : (a.combine b op).params = a.params ++ b.params := by
    rw [combine, isEmpty_of_condition? ha, isEmpty_of_condition? hb]
    rfl
  have hsql : (a.combine b op).sql =
      parenthesized a.sql ++ " " ++ op.word ++ " " ++ parenthesized b.sql := by
    rw [combine, isEmpty_of_condition? ha, isEmpty_of_condition? hb]
    rfl
  -- So the items are those of the two conditions with the word between them.
  refine condition?_of_pushes ?_ hφψ
  rw [hsql, hparams]
  exact pushes_parenthesized hb hfront

/-- A negated fragment says the opposite. -/
theorem condition?_negate {a : Fragment Value} {φ : Condition} (ha : a.condition? = some φ) :
    a.negate.condition? = some (.not φ) := by
  have hnot : Pushes (symbols "NOT") [] [.symbol (.keyword .not)] := by
    have hword : symbols "NOT" = [.keyword .not] := by decide +kernel
    rw [hword]
    rfl
  have h := pushes_parenthesized ha hnot
  rw [negate, isEmpty_of_condition? ha]
  exact condition?_of_pushes h rfl

/-! ## Truth -/

variable {α : Type} {row : Row α}

/-- A fragment that is true, false or unknown is not empty. -/
theorem isEmpty_of_truth? {f : Fragment Value} {t : Truth} (h : f.truth? row = some t) :
    f.isEmpty = false := by
  obtain ⟨φ, hφ, -⟩ := Option.map_eq_some_iff.mp h
  exact isEmpty_of_condition? hφ

/-- Joined fragments are as true as their parts are, joined. -/
theorem truth?_combine {a b : Fragment Value} {s t : Truth} (ha : a.truth? row = some s)
    (hb : b.truth? row = some t) (op : Connective) :
    (a.combine b op).truth? row = some (.joinedBy op s t) := by
  obtain ⟨φ, hφ, rfl⟩ := Option.map_eq_some_iff.mp ha
  obtain ⟨ψ, hψ, rfl⟩ := Option.map_eq_some_iff.mp hb
  exact Option.map_eq_some_iff.mpr ⟨_, condition?_combine hφ hψ op, Condition.truth_joinedBy row op φ ψ⟩

/-- A negated fragment is true where it was false. -/
theorem truth?_negate {a : Fragment Value} {t : Truth} (ha : a.truth? row = some t) :
    a.negate.truth? row = some t.not := by
  obtain ⟨φ, hφ, rfl⟩ := Option.map_eq_some_iff.mp ha
  exact Option.map_eq_some_iff.mpr ⟨_, condition?_negate hφ, rfl⟩

/-- Nothing is joined with a fragment. -/
theorem empty_combine {b : Fragment Value} (h : b.isEmpty = false) (op : Connective) :
    Fragment.empty.combine b op = b := by
  rw [combine, h]
  rfl

/-- Combine the conditions of all members by a connective. -/
def combineAll {β : Type} (op : Connective) (xs : List β) (test : β → Fragment Value) :
    Fragment Value :=
  xs.foldl (fun f x => f.combine (test x) op) .empty

/-- The truth of conditions that are combined one after the other. -/
theorem truth?_combineAll {β : Type} {xs : List β} (hne : xs ≠ []) {test : β → Fragment Value}
    {t : β → Truth} (h : ∀ x ∈ xs, (test x).truth? row = some (t x)) (op : Connective) :
    (combineAll op xs test).truth? row = some (.joined op (xs.map t)) := by
  have hfold : ∀ (ys : List β) (f : Fragment Value) (s : Truth), (∀ y ∈ ys, y ∈ xs) →
      f.truth? row = some s →
      (ys.foldl (fun f x => f.combine (test x) op) f).truth? row =
        some ((ys.map t).foldl (Truth.joinedBy op) s) := by
    intro ys
    induction ys with
    | nil => exact fun f s _ hf => hf
    | cons y ys ih =>
      intro f s hys hf
      rw [List.foldl_cons, List.map_cons, List.foldl_cons]
      rw [List.forall_mem_cons] at hys
      exact ih _ _ hys.2 (truth?_combine hf (h y hys.1) op)
  obtain ⟨x, xs', rfl⟩ := List.exists_cons_of_ne_nil hne
  have hx := h x List.mem_cons_self
  rw [combineAll, List.foldl_cons, empty_combine (isEmpty_of_truth? hx), Truth.joined,
    List.map_cons, List.foldl_cons, Truth.unit_joinedBy]
  exact hfold xs' _ _ (fun y hy => List.mem_cons_of_mem x hy) hx

end Fragment

end SearchQuery
