import Mathlib.Data.List.Basic
import SearchQuery.Proofs.Placeholder.WellBound

/-!
# Parentheses of fragments

Combining puts fragments into parentheses, so what a combined text means depends on which
parentheses belong together. `Nesting` is the place of a walk through a text: inside single quotes or
not, and inside how many parentheses. A text is balanced when the walk comes back to where it started
and closes nothing that was open before; a fragment is closed when its text is balanced, is not empty,
and has one parameter for every placeholder.

## Shape of the argument

A balanced text can stand inside parentheses without being cut short: the walk refuses a parenthesis
that closes nothing, so the first one that it refuses behind an opening parenthesis is the one that
belongs to it (`Balanced.eq_of_closing`). Whatever is written between, also what looks like the end
of a group, has been walked through by then.
-/

namespace SearchQuery

open Statement

/-- Where a walk through a text stands: inside single quotes or not, and inside how many
parentheses. -/
structure Nesting where
  quoted : Bool := false
  depth : ℕ := 0
  deriving DecidableEq

namespace Nesting

/-- Walk on by one character. Parentheses inside quotes do not count, and one that closes nothing is
refused. -/
def step (n : Nesting) (c : Char) : Option Nesting :=
  if c = apostrophe then some { n with quoted := !n.quoted }
  else if n.quoted then some n
  else if c = '(' then some { n with depth := n.depth + 1 }
  else if c = ')' then
    match n.depth with
    | 0 => none
    | depth + 1 => some { n with depth }
  else some n

/-- Walk through a text. -/
def run (n : Nesting) (cs : List Char) : Option Nesting :=
  cs.foldlM step n

/-- The same place inside further parentheses. -/
def inside (n : Nesting) (k : ℕ) : Nesting :=
  { n with depth := n.depth + k }

/-- Texts one behind the other are read one behind the other. -/
theorem run_append (n : Nesting) (front back : List Char) :
    n.run (front ++ back) = (n.run front).bind fun m => m.run back :=
  List.foldlM_append

/-- What can be read can also be read inside more parentheses. -/
theorem step_inside {n m : Nesting} {c : Char} (h : n.step c = some m) (k : ℕ) :
    (n.inside k).step c = some (m.inside k) := by
  obtain ⟨quoted, depth⟩ := n
  rw [step] at h
  split at h
  next hquote =>
    cases h
    rw [step, if_pos hquote]
    rfl
  next hquote =>
    rw [step, if_neg hquote]
    cases quoted with
    | true =>
      cases h
      rfl
    | false =>
      by_cases hopening : c = '('
      · rw [if_pos hopening] at h ⊢
        cases h
        exact congrArg some (congrArg (Nesting.mk false) (Nat.add_right_comm depth k 1))
      -- Closing needs a parenthesis that is open; with more around it there is one all the more.
      by_cases hclosing : c = ')'
      · rw [if_neg hopening, if_pos hclosing] at h ⊢
        cases depth with
        | zero => cases h
        | succ depth =>
          cases h
          simp [inside, Nat.add_right_comm depth 1 k]
      · rw [if_neg hopening, if_neg hclosing] at h ⊢
        cases h
        rfl

/-- A walk that closes nothing of what is around it is the same inside further parentheses. -/
theorem run_inside {n m : Nesting} {cs : List Char} (h : n.run cs = some m) (k : ℕ) :
    (n.inside k).run cs = some (m.inside k) := by
  induction cs generalizing n with
  | nil =>
    cases h
    rfl
  | cons c cs ih =>
    obtain ⟨next, hnext, h⟩ := Option.bind_eq_some_iff.mp h
    exact Option.bind_eq_some_iff.mpr ⟨_, step_inside hnext k, ih h⟩

end Nesting

/-! ## Balanced texts -/

/-- The parentheses outside quotes belong together in pairs, and the quotes are closed. -/
def Balanced (cs : List Char) : Prop :=
  Nesting.run {} cs = some {}

instance (cs : List Char) : Decidable (Balanced cs) :=
  inferInstanceAs (Decidable (_ = _))

namespace Balanced

variable {u v : List Char}

/-- Balanced texts may follow one another. -/
theorem append (hu : Balanced u) (hv : Balanced v) : Balanced (u ++ v) := by
  rw [Balanced, Nesting.run_append, hu]
  exact hv

/-- A balanced text may stand in parentheses. -/
theorem parenthesized (hu : Balanced u) : Balanced ('(' :: u ++ [')']) := by
  have hinner : Nesting.run ⟨false, 1⟩ u = some ⟨false, 1⟩ := Nesting.run_inside hu 1
  have hopen : Nesting.run {} ('(' :: u) = Nesting.run ⟨false, 1⟩ u := rfl
  rw [Balanced, Nesting.run_append, hopen, hinner]
  rfl

/-- A balanced text does not go on behind a parenthesis that closes nothing. -/
theorem not_append_closing (hu : Balanced u) (v : List Char) : ¬ Balanced (u ++ ')' :: v) := by
  intro h
  rw [Balanced, Nesting.run_append, hu] at h
  cases h

/-- **Matching parentheses.** The parenthesis that closes a group of balanced text is determined by the
text from there on. -/
theorem eq_of_closing (hu : Balanced u) (hv : Balanced v) {r s : List Char}
    (h : u ++ ')' :: r = v ++ ')' :: s) : u = v ∧ r = s := by
  rcases List.append_eq_append_iff.mp h with ⟨w, rfl, hw⟩ | ⟨w, rfl, hw⟩
  · cases w with
    | nil =>
      rw [List.nil_append, List.cons.injEq] at hw
      exact ⟨(List.append_nil u).symm, hw.2⟩
    | cons c w =>
      obtain ⟨rfl, -⟩ := List.cons.inj hw
      exact absurd hv (hu.not_append_closing w)
  · cases w with
    | nil =>
      rw [List.nil_append, List.cons.injEq] at hw
      exact ⟨List.append_nil v, hw.2.symm⟩
    | cons c w =>
      obtain ⟨rfl, -⟩ := List.cons.inj hw
      exact absurd hu (hv.not_append_closing w)

end Balanced

/-! ## Closed fragments -/

namespace Fragment

variable {α : Type}

/-- The fragment has a text, one parameter for every placeholder, and balanced parentheses. -/
structure Closed (f : Fragment α) : Prop where
  full : f.isEmpty = false
  wellBound : f.WellBound
  balanced : Balanced f.sql.toList

instance (f : Fragment α) : Decidable f.Closed :=
  decidable_of_iff (f.isEmpty = false ∧ f.WellBound ∧ Balanced f.sql.toList)
    ⟨fun h => ⟨h.1, h.2.1, h.2.2⟩, fun h => ⟨h.full, h.wellBound, h.balanced⟩⟩

/-- The fragment is closed, or it is nothing at all. -/
def ClosedOrEmpty (f : Fragment α) : Prop :=
  f.Closed ∨ f.isEmpty = true ∧ f.params = []

theorem toList_parenthesized (sql : String) :
    (parenthesized sql).toList = '(' :: sql.toList ++ [')'] := by
  rw [parenthesized, String.toList_append, String.toList_append]
  rfl

/-- So a balanced statement may. -/
theorem balanced_parenthesized {sql : String} (h : Balanced sql.toList) :
    Balanced (parenthesized sql).toList := by
  rw [toList_parenthesized]
  exact h.parenthesized

/-- A fragment that is made of closed ones and has balanced parentheses is closed. -/
theorem Assembles.closed {f : Fragment α} {sources : List (Fragment α)} (h : f.Assembles sources)
    (hsources : ∀ s ∈ sources, s.Closed) (hfull : f.isEmpty = false) (hbalanced : Balanced f.sql.toList) :
    f.Closed :=
  ⟨hfull, h.wellBound fun s hs => (hsources s hs).wellBound, hbalanced⟩

/-! ## Putting closed fragments together -/

/-- Closed fragments are combined in parentheses. -/
theorem combine_of_closed {a b : Fragment α} (ha : a.Closed) (hb : b.Closed) (op : Connective) :
    a.combine b op =
      { sql := parenthesized a.sql ++ " " ++ op.word ++ " " ++ parenthesized b.sql
        params := a.params ++ b.params } := by
  rw [combine, hb.full, ha.full]
  rfl

/-- A closed fragment is closed in parentheses too. -/
theorem Closed.wrapped {a : Fragment α} (ha : a.Closed) : (a.wrapped true).Closed := by
  refine (((Assembles.copy a).wrapped true)).closed (by simpa using ha) ?_
    (balanced_parenthesized ha.balanced)
  simp [Fragment.wrapped, parenthesized, isEmpty]

/-- Combined fragments are closed. -/
theorem Closed.combine {a b : Fragment α} (ha : a.Closed) (hb : b.Closed) (op : Connective) :
    (a.combine b op).Closed := by
  have hword : Neutral (" " ++ op.word ++ " ") ∧ Balanced (" " ++ op.word ++ " ").toList := by
    cases op <;> decide
  have hfront : ({ sql := (a.wrapped true).sql ++ (" " ++ op.word ++ " "), params := a.params } :
      Fragment α).Assembles [a] := ((Assembles.copy a).wrapped true).before hword.1 rfl rfl
  have hwhole : (a.combine b op).Assembles [a, b] := by
    rw [combine_of_closed ha hb]
    exact hfront.append ((Assembles.copy b).wrapped true)
      (by simp [Fragment.wrapped, String.append_assoc]) rfl
  refine hwhole.closed (by simp [ha, hb]) ?_ ?_
  · rw [combine_of_closed ha hb]
    simp [isEmpty, parenthesized]
  · have hsql : (a.combine b op).sql.toList =
        (parenthesized a.sql).toList ++ (" " ++ op.word ++ " ").toList ++
          (parenthesized b.sql).toList := by
      rw [combine_of_closed ha hb]
      simp [String.toList_append]
    rw [hsql]
    exact ((balanced_parenthesized ha.balanced).append hword.2).append
      (balanced_parenthesized hb.balanced)

/-- A closed fragment is negated in parentheses. -/
theorem negate_of_closed {a : Fragment α} (ha : a.Closed) :
    a.negate = { sql := "NOT" ++ parenthesized a.sql, params := a.params } := by
  rw [negate, ha.full]
  rfl

/-- A negated fragment is closed. -/
theorem Closed.negate {a : Fragment α} (ha : a.Closed) : a.negate.Closed := by
  have hword : Neutral "NOT" ∧ Balanced "NOT".toList := by decide
  have hwhole : ({ sql := "NOT" ++ parenthesized a.sql, params := a.params } :
      Fragment α).Assembles [a] := ((Assembles.copy a).wrapped true).behind hword.1 rfl rfl
  rw [negate_of_closed ha]
  refine hwhole.closed (by simpa using ha) (by simp [isEmpty, parenthesized]) ?_
  rw [String.toList_append]
  exact hword.2.append (balanced_parenthesized ha.balanced)

/-- Joining looks only at the fragments that have text. -/
theorem join_filter (separator : String) (wrap : Bool) (fs : List (Fragment α)) :
    join separator wrap (fs.filter (!·.isEmpty)) = join separator wrap fs := by
  simp only [join, List.filter_filter, Bool.and_self]

/-- Closed fragments are joined one in front of the others. -/
theorem join_cons_closed {f g : Fragment α} (hf : f.Closed) (hg : g.Closed)
    (separator : String) (fs : List (Fragment α)) :
    join separator true (f :: g :: fs) =
      { sql := parenthesized f.sql ++ separator ++ (join separator true (g :: fs)).sql
        params := f.params ++ (join separator true (g :: fs)).params } := by
  rw [join_cons_of_not_isEmpty separator true _ hf.full,
    if_neg (by rw [List.filter_cons_of_pos (by simp [hg.full])]; simp)]
  rfl

/-- A single fragment is joined by wrapping it. -/
theorem join_singleton_closed {f : Fragment α} (hf : f.Closed) (separator : String) :
    join separator true [f] = f.wrapped true := by
  rw [join_cons_of_not_isEmpty separator true _ hf.full]
  rfl

/-- Joined fragments are closed, if there is one. -/
theorem closed_join {f : Fragment α} {fs : List (Fragment α)} (h : ∀ g ∈ f :: fs, g.Closed) :
    (join " AND " true (f :: fs)).Closed := by
  have hseparator : Neutral " AND " ∧ Balanced " AND ".toList := by decide
  induction fs generalizing f with
  | nil =>
    rw [join_singleton_closed (h f List.mem_cons_self)]
    exact (h f List.mem_cons_self).wrapped
  | cons g fs ih =>
    rw [List.forall_mem_cons] at h
    have hrest := ih h.2
    have hfront : ({ sql := (f.wrapped true).sql ++ " AND ", params := f.params } :
        Fragment α).Assembles [f] := ((Assembles.copy f).wrapped true).before hseparator.1 rfl rfl
    rw [join_cons_closed h.1 (h.2 g List.mem_cons_self)]
    refine (hfront.append (Assembles.copy _) rfl rfl).closed (by simp [h.1, hrest])
      (by simp [isEmpty, parenthesized]) ?_
    rw [String.toList_append, String.toList_append]
    exact ((balanced_parenthesized h.1.balanced).append hseparator.2).append hrest.balanced

/-! ## Or empty -/

/-- Of fragments that are closed or empty, those that are not empty are closed. -/
theorem ClosedOrEmpty.closed_of_mem_filter {fs : List (Fragment α)} (h : ∀ f ∈ fs, f.ClosedOrEmpty) :
    ∀ f ∈ fs.filter (!·.isEmpty), f.Closed := by
  intro f hf
  obtain ⟨hf, hfull⟩ := List.mem_filter.mp hf
  refine (h f hf).resolve_right fun hempty => ?_
  rw [hempty.1] at hfull
  cases hfull

/-- The parameters of combined fragments are those of both, in order. -/
theorem params_combine {a b : Fragment α} (ha : a.ClosedOrEmpty) (hb : b.ClosedOrEmpty)
    (op : Connective) : (a.combine b op).params = a.params ++ b.params := by
  rw [combine]
  rcases hb with hb | ⟨hempty, hparams⟩
  · rw [hb.full, if_neg Bool.false_ne_true]
    rcases ha with ha | ⟨hempty, hparams⟩
    · rw [ha.full, if_neg Bool.false_ne_true]
    · rw [hempty, if_pos rfl, hparams, List.nil_append]
  · rw [hempty, if_pos rfl, hparams, List.append_nil]

/-- A negated fragment has the same parameters. -/
theorem params_negate (a : Fragment α) : a.negate.params = a.params := by
  rw [negate]
  split <;> rfl

/-- Combined fragments are closed, or both are empty. -/
theorem ClosedOrEmpty.combine {a b : Fragment α} (ha : a.ClosedOrEmpty) (hb : b.ClosedOrEmpty)
    (op : Connective) : (a.combine b op).ClosedOrEmpty := by
  rcases hb with hb | hempty
  · rcases ha with ha | hempty
    · exact Or.inl (ha.combine hb op)
    · rw [Fragment.combine, hb.full, hempty.1]
      exact Or.inl hb
  · rw [Fragment.combine, hempty.1]
    exact ha

theorem ClosedOrEmpty.negate {a : Fragment α} (ha : a.ClosedOrEmpty) : a.negate.ClosedOrEmpty := by
  rcases ha with ha | hempty
  · exact Or.inl ha.negate
  · rw [Fragment.negate, hempty.1]
    exact Or.inr hempty

theorem ClosedOrEmpty.extend {a b : Fragment α} (ha : a.ClosedOrEmpty) (hb : b.ClosedOrEmpty) :
    (a.extend b).ClosedOrEmpty := by
  -- The connective that is remembered is no part of the text.
  rcases ha.combine hb a.connective with ⟨hfull, ⟨heven, hlen⟩, hbalanced⟩ | hempty
  · exact Or.inl ⟨hfull, ⟨heven, hlen⟩, hbalanced⟩
  · exact Or.inr hempty

theorem closedOrEmpty_join {fs : List (Fragment α)} (h : ∀ f ∈ fs, f.ClosedOrEmpty) :
    (join " AND " true fs).ClosedOrEmpty := by
  have hclosed := ClosedOrEmpty.closed_of_mem_filter h
  rw [← join_filter]
  cases hfs : fs.filter (!·.isEmpty) with
  | nil => exact Or.inr ⟨rfl, rfl⟩
  | cons f fs' =>
    rw [hfs] at hclosed
    exact Or.inl (closed_join hclosed)

/-- The parameters of joined fragments are those of all, in order. -/
theorem params_join {fs : List (Fragment α)} (h : ∀ f ∈ fs, f.ClosedOrEmpty) (separator : String)
    (wrap : Bool) : (join separator wrap fs).params = fs.flatMap (·.params) := by
  rw [join]
  induction fs with
  | nil => rfl
  | cons f fs ih =>
    rw [List.forall_mem_cons] at h
    rw [List.flatMap_cons, ← ih h.2]
    rcases h.1 with hf | ⟨hempty, hparams⟩
    · rw [List.filter_cons_of_pos (by simp [hf.full]), List.flatMap_cons]
    · rw [List.filter_cons_of_neg (by simp [hempty]), hparams, List.nil_append]

end Fragment

end SearchQuery
