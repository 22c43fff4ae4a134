import Mathlib.Data.List.Infix
import SearchQuery.Column.Condition

/-!
# The patterns of LIKE

In a pattern of `LIKE` the percent sign stands for any sequence of characters and the underscore for any one
character; all other characters stand for themselves. A text that is put into a pattern is looked for
itself exactly if it holds none of the two (`forall_finds_iff`). Otherwise it is a pattern of
its own, which matches more than the text.

## Shape of the argument

`isLike` follows the pattern, and a percent sign tries all ends of the text. Patterns side by side match
texts side by side (`isLike_append`), so a pattern with percent signs around it looks for a piece of the
text (`isLike_likePattern`).
-/

namespace SearchQuery

namespace Sql

/-- Whether a text is matched by a pattern of `LIKE`. -/
def isLike : List Char → List Char → Bool
  | [], cs => cs.isEmpty
  | c :: p, cs =>
    if c = '%' then cs.tails.any (isLike p)
    else (cs.head?.any fun d => c == '_' || c == d) && isLike p cs.tail

/-- Only nothing is like nothing. -/
theorem isLike_nil {cs : List Char} : isLike [] cs = true ↔ cs = [] := by
  rw [isLike, List.isEmpty_iff]

/-- A percent sign stands for any text. -/
theorem isLike_percent {p cs : List Char} :
    isLike ('%' :: p) cs = true ↔ ∃ skipped rest, skipped ++ rest = cs ∧ isLike p rest = true := by
  rw [isLike, if_pos rfl, List.any_eq_true]
  constructor
  · rintro ⟨rest, hrest, hlike⟩
    obtain ⟨skipped, hskipped⟩ := (List.mem_tails rest cs).mp hrest
    exact ⟨skipped, rest, hskipped, hlike⟩
  · rintro ⟨skipped, rest, hskipped, hlike⟩
    exact ⟨rest, (List.mem_tails rest cs).mpr ⟨skipped, hskipped⟩, hlike⟩

/-- All other characters of a pattern stand for one character. -/
theorem isLike_cons {c : Char} (h : c ≠ '%') {p cs : List Char} :
    isLike (c :: p) cs = true ↔
      ∃ d rest, cs = d :: rest ∧ (c = '_' ∨ c = d) ∧ isLike p rest = true := by
  rw [isLike, if_neg h]
  cases cs with
  | nil => simp
  | cons d cs => simp [and_assoc]

/-- An underscore stands for one character. -/
theorem isLike_underscore {p cs : List Char} :
    isLike ('_' :: p) cs = true ↔ ∃ d rest, cs = d :: rest ∧ isLike p rest = true := by
  rw [isLike_cons (by decide)]
  simp

/-- The characters that stand for others. -/
def wildcards : List Char := ['%', '_']

/-- Any other character stands for itself. -/
theorem isLike_char {c : Char} (h : c ∉ wildcards) {p cs : List Char} :
    isLike (c :: p) cs = true ↔ ∃ rest, cs = c :: rest ∧ isLike p rest = true := by
  simp only [wildcards, List.mem_cons, List.not_mem_nil, or_false, not_or] at h
  rw [isLike_cons h.1]
  constructor
  · rintro ⟨d, rest, rfl, hd, hlike⟩
    obtain rfl := hd.resolve_left h.2
    exact ⟨rest, rfl, hlike⟩
  · rintro ⟨rest, rfl, hlike⟩
    exact ⟨c, rest, rfl, Or.inr rfl, hlike⟩

/-- Patterns side by side match texts side by side. -/
theorem isLike_append {p q cs : List Char} :
    isLike (p ++ q) cs = true ↔
      ∃ front back, front ++ back = cs ∧ isLike p front = true ∧ isLike q back = true := by
  induction p generalizing cs with
  | nil => simp [isLike_nil]
  | cons c p ih =>
    rw [List.cons_append]
    -- The text is cut where the pattern is, and the first character of the pattern says how much it takes.
    by_cases hpercent : c = '%'
    · subst hpercent
      simp only [isLike_percent, ih]
      constructor
      · rintro ⟨skipped, _, rfl, front, back, rfl, hp, hq⟩
        exact ⟨skipped ++ front, back, List.append_assoc _ _ _, ⟨skipped, front, rfl, hp⟩, hq⟩
      · rintro ⟨_, back, rfl, ⟨skipped, front, rfl, hp⟩, hq⟩
        exact ⟨skipped, front ++ back, (List.append_assoc _ _ _).symm, front, back, rfl, hp, hq⟩
    by_cases hunderscore : c = '_'
    · subst hunderscore
      simp only [isLike_underscore, ih]
      constructor
      · rintro ⟨d, _, rfl, front, back, rfl, hp, hq⟩
        exact ⟨d :: front, back, rfl, ⟨d, front, rfl, hp⟩, hq⟩
      · rintro ⟨_, back, rfl, ⟨d, front, rfl, hp⟩, hq⟩
        exact ⟨d, front ++ back, rfl, front, back, rfl, hp, hq⟩
    have hc : c ∉ wildcards := by simp [wildcards, hpercent, hunderscore]
    simp only [isLike_char hc, ih]
    constructor
    · rintro ⟨_, rfl, front, back, rfl, hp, hq⟩
      exact ⟨c :: front, back, rfl, ⟨front, rfl, hp⟩, hq⟩
    · rintro ⟨_, back, rfl, ⟨front, rfl, hp⟩, hq⟩
      exact ⟨front ++ back, rfl, front, back, rfl, hp, hq⟩

theorem isLike_percent_alone (cs : List Char) : isLike ['%'] cs = true :=
  isLike_percent.mpr ⟨cs, [], List.append_nil cs, rfl⟩

/-- The text stands for itself in a pattern. -/
def IsLiteral (cs : List Char) : Prop :=
  ∀ c ∈ cs, c ∉ wildcards

instance (cs : List Char) : Decidable (IsLiteral cs) :=
  List.decidableBAll (· ∉ wildcards) cs

/-- As a pattern, every text matches itself. -/
theorem isLike_self (cs : List Char) : isLike cs cs = true := by
  induction cs with
  | nil => rfl
  | cons c cs ih =>
    by_cases hpercent : c = '%'
    · subst hpercent
      exact isLike_percent.mpr ⟨['%'], cs, rfl, ih⟩
    by_cases hunderscore : c = '_'
    · subst hunderscore
      exact isLike_underscore.mpr ⟨'_', cs, rfl, ih⟩
    have hc : c ∉ wildcards := by simp [wildcards, hpercent, hunderscore]
    exact (isLike_char hc).mpr ⟨cs, rfl, ih⟩

/-- A literal text is like itself only. -/
theorem isLike_of_isLiteral {p : List Char} (h : IsLiteral p) (cs : List Char) :
    isLike p cs = true ↔ cs = p := by
  induction p generalizing cs with
  | nil => exact isLike_nil
  | cons c p ih =>
    obtain ⟨hc, hp⟩ := List.forall_mem_cons.mp h
    rw [isLike_char hc]
    simp [ih hp]

/-- A text without wildcards that the pattern matches: nothing for a percent sign, and a letter for an
underscore. -/
def plainest (p : List Char) : List Char :=
  p.flatMap fun c => if c = '%' then [] else if c = '_' then ['x'] else [c]

/-- Each pattern has a plainest text that is like it. -/
theorem isLike_plainest (p : List Char) : isLike p (plainest p) = true := by
  induction p with
  | nil => rfl
  | cons c p ih =>
    rw [plainest, List.flatMap_cons, ← plainest]
    by_cases hpercent : c = '%'
    · subst hpercent
      exact isLike_percent.mpr ⟨[], plainest p, rfl, ih⟩
    by_cases hunderscore : c = '_'
    · subst hunderscore
      exact isLike_underscore.mpr ⟨'x', plainest p, rfl, ih⟩
    have hc : c ∉ wildcards := by simp [wildcards, hpercent, hunderscore]
    rw [if_neg hpercent, if_neg hunderscore]
    exact (isLike_char hc).mpr ⟨plainest p, rfl, ih⟩

/-- That text is literal. -/
theorem isLiteral_plainest (p : List Char) : IsLiteral (plainest p) := by
  intro d hd
  obtain ⟨c, -, hdc⟩ := List.mem_flatMap.mp hd
  split_ifs at hdc with hpercent hunderscore
  · cases hdc
  · rw [List.mem_singleton.mp hdc]
    decide
  · rw [List.mem_singleton.mp hdc]
    simp [wildcards, hpercent, hunderscore]

end Sql

/-! ## Texts in a place -/

namespace Column.Place

open Sql

/-- The text `piece` stands in the place of the text `cs`. -/
def Holds (p : Place) (piece cs : List Char) : Prop :=
  match p with
  | anywhere => piece <:+: cs
  | atStart => piece <+: cs
  | atEnd => piece <:+ cs

instance (p : Place) (piece cs : List Char) : Decidable (p.Holds piece cs) :=
  match p with
  | anywhere => inferInstanceAs (Decidable (piece <:+: cs))
  | atStart => inferInstanceAs (Decidable (piece <+: cs))
  | atEnd => inferInstanceAs (Decidable (piece <:+ cs))

/-- What is found is made of characters of the text. -/
theorem Holds.subset {p : Place} {piece cs : List Char} (h : p.Holds piece cs) : piece ⊆ cs := by
  cases p with
  | anywhere => exact List.IsInfix.subset h
  | atStart => exact List.IsPrefix.subset h
  | atEnd => exact List.IsSuffix.subset h

/-- In the place of the text stands a piece that `v` matches as a pattern. -/
def Finds (p : Place) (v cs : List Char) : Prop :=
  ∃ piece, p.Holds piece cs ∧ isLike v piece = true

/-- The pattern of a place looks for a piece that the text in it matches. -/
theorem isLike_likePattern (p : Place) (v : String) (cs : List Char) :
    isLike (p.likePattern v).toList cs = true ↔ p.Finds v.toList cs := by
  have hpercent : "%".toList = ['%'] := rfl
  -- A percent sign takes what the place leaves free, in front, behind or on both sides.
  cases p with
  | anywhere =>
    rw [likePattern, String.toList_append, String.toList_append, hpercent, List.singleton_append,
      List.cons_append, isLike_percent]
    constructor
    · rintro ⟨skipped, _, rfl, hlike⟩
      obtain ⟨piece, rest, rfl, hpiece, -⟩ := isLike_append.mp hlike
      exact ⟨piece, ⟨skipped, rest, List.append_assoc _ _ _⟩, hpiece⟩
    · rintro ⟨piece, ⟨skipped, rest, rfl⟩, hpiece⟩
      exact ⟨skipped, piece ++ rest, (List.append_assoc _ _ _).symm,
        isLike_append.mpr ⟨piece, rest, rfl, hpiece, isLike_percent_alone rest⟩⟩
  | atStart =>
    rw [likePattern, String.toList_append, hpercent, isLike_append]
    constructor
    · rintro ⟨piece, rest, hcs, hpiece, -⟩
      exact ⟨piece, ⟨rest, hcs⟩, hpiece⟩
    · rintro ⟨piece, ⟨rest, hcs⟩, hpiece⟩
      exact ⟨piece, rest, hcs, hpiece, isLike_percent_alone rest⟩
  | atEnd =>
    rw [likePattern, String.toList_append, hpercent, List.singleton_append, isLike_percent]
    constructor
    · rintro ⟨skipped, piece, hcs, hpiece⟩
      exact ⟨piece, ⟨skipped, hcs⟩, hpiece⟩
    · rintro ⟨piece, ⟨skipped, hcs⟩, hpiece⟩
      exact ⟨skipped, piece, hcs, hpiece⟩

/-- A text that stands in the place is found there. -/
theorem Holds.finds {p : Place} {v cs : List Char} (h : p.Holds v cs) : p.Finds v cs :=
  ⟨v, h, isLike_self v⟩

/-- A literal text is found where it is. -/
theorem finds_iff_holds {v : List Char} (h : IsLiteral v) (p : Place) (cs : List Char) :
    p.Finds v cs ↔ p.Holds v cs := by
  refine ⟨?_, Holds.finds⟩
  rintro ⟨piece, hpiece, hlike⟩
  rwa [← (isLike_of_isLiteral h piece).mp hlike]

/-- A text is found in itself, at every place. -/
theorem holds_self (p : Place) (cs : List Char) : p.Holds cs cs := by
  cases p with
  | anywhere => exact List.infix_refl cs
  | atStart => exact List.prefix_refl cs
  | atEnd => exact List.suffix_refl cs

/-- What is found in a place is the text itself, whatever text is searched, exactly if the text holds no
wildcard. -/
theorem forall_finds_iff (p : Place) (v : List Char) :
    (∀ cs, p.Finds v cs ↔ p.Holds v cs) ↔ IsLiteral v := by
  refine ⟨fun h c hc => ?_, fun h => finds_iff_holds h p⟩
  -- The plainest text that `v` matches would have to hold its wildcards.
  have hfound : p.Holds v (plainest v) := (h _).mp ⟨plainest v, p.holds_self _, isLike_plainest v⟩
  exact isLiteral_plainest v c (hfound.subset hc)

end Column.Place

end SearchQuery
