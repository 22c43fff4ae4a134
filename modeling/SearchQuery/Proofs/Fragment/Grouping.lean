import SearchQuery.Proofs.Fragment.Equality
import SearchQuery.Proofs.Fragment.Nesting

/-!
# Grouping

Fragments are put together by writing each into parentheses, however often they were put together
before. Nothing is lost by that: from a text that was made of closed fragments, and its parameters,
each of the fragments can be read off again.

## Shape of the argument

In front, the texts are cut at the parenthesis that closes the first group (`Balanced.eq_of_closing`),
and the parameters at the number of placeholders in it (`equal_of_append`). What follows is cut in the
same way, so a joined list is recovered by an induction over the list.
-/

namespace SearchQuery

open Statement

/-! ## Expressions -/

/-- An expression written with the operations on fragments. -/
inductive Composition (α : Type) where
  | leaf (f : Fragment α)
  | and (x y : Composition α)
  | or (x y : Composition α)
  | not (x : Composition α)
  | extend (x y : Composition α)
  | combine (op : Connective) (x y : Composition α)
  | join (xs : List (Composition α))

namespace Composition

variable {α : Type}

mutual

/-- The fragment that an expression makes. -/
def fragment : Composition α → Fragment α
  | leaf f => f
  | and x y => x.fragment.and y.fragment
  | or x y => x.fragment.or y.fragment
  | not x => x.fragment.negate
  | extend x y => x.fragment.extend y.fragment
  | combine op x y => x.fragment.combine y.fragment op
  | join xs => .join " AND " true (fragments xs)

/-- The fragments that expressions make. -/
def fragments : List (Composition α) → List (Fragment α)
  | [] => []
  | x :: xs => x.fragment :: fragments xs

end

mutual

/-- The fragments that an expression is made of, from left to right. -/
def leaves : Composition α → List (Fragment α)
  | leaf f => [f]
  | and x y => x.leaves ++ y.leaves
  | or x y => x.leaves ++ y.leaves
  | not x => x.leaves
  | extend x y => x.leaves ++ y.leaves
  | combine _ x y => x.leaves ++ y.leaves
  | join xs => allLeaves xs

/-- The fragments that expressions are made of. -/
def allLeaves : List (Composition α) → List (Fragment α)
  | [] => []
  | x :: xs => x.leaves ++ allLeaves xs

end

/-- The fragment is closed or empty, and has the parameters of the sources one after the other. -/
structure Keeps (f : Fragment α) (sources : List (Fragment α)) : Prop where
  closed : f.ClosedOrEmpty
  params_eq : f.params = sources.flatMap (·.params)

/-- An operation that joins two fragments keeps what its operands are made of. -/
theorem Keeps.joined {f g : Fragment α} {sources more : List (Fragment α)} (hf : Keeps f sources)
    (hg : Keeps g more) (op : Connective) : Keeps (f.combine g op) (sources ++ more) where
  closed := hf.closed.combine hg.closed op
  params_eq := by
    rw [Fragment.params_combine hf.closed hg.closed, hf.params_eq, hg.params_eq, List.flatMap_append]

mutual

/-- An expression of closed or empty fragments makes a closed or empty one. -/
theorem keeps_leaves : ∀ x : Composition α, (∀ f ∈ x.leaves, f.ClosedOrEmpty) →
    Keeps x.fragment x.leaves
  | leaf f, h => by
    rw [fragment, leaves]
    exact ⟨h f (by simp [leaves]), by simp⟩
  | and x y, h => by
    rw [leaves, List.forall_mem_append] at h
    rw [fragment, leaves]
    exact (keeps_leaves x h.1).joined (keeps_leaves y h.2) .and
  | or x y, h => by
    rw [leaves, List.forall_mem_append] at h
    rw [fragment, leaves]
    exact (keeps_leaves x h.1).joined (keeps_leaves y h.2) .or
  | not x, h => by
    rw [leaves] at h
    have hx := keeps_leaves x h
    rw [fragment, leaves]
    refine ⟨hx.closed.negate, ?_⟩
    rw [Fragment.params_negate, hx.params_eq]
  | extend x y, h => by
    rw [leaves, List.forall_mem_append] at h
    have hx := keeps_leaves x h.1
    have hy := keeps_leaves y h.2
    rw [fragment, leaves]
    exact ⟨hx.closed.extend hy.closed, (hx.joined hy _).params_eq⟩
  | combine op x y, h => by
    rw [leaves, List.forall_mem_append] at h
    rw [fragment, leaves]
    exact (keeps_leaves x h.1).joined (keeps_leaves y h.2) op
  | join xs, h => by
    rw [leaves] at h
    obtain ⟨hclosed, hparams⟩ := keeps_allLeaves xs h
    rw [fragment, leaves]
    refine ⟨Fragment.closedOrEmpty_join hclosed, ?_⟩
    rw [Fragment.params_join hclosed, hparams]

/-- What is composed of closed leaves is closed, with the parameters of the leaves. -/
theorem keeps_allLeaves : ∀ xs : List (Composition α), (∀ f ∈ allLeaves xs, f.ClosedOrEmpty) →
    (∀ f ∈ fragments xs, f.ClosedOrEmpty) ∧
      (fragments xs).flatMap (·.params) = (allLeaves xs).flatMap (·.params)
  | [], _ => by
    rw [fragments, allLeaves]
    exact ⟨fun f hf => absurd hf List.not_mem_nil, rfl⟩
  | x :: xs, h => by
    rw [allLeaves, List.forall_mem_append] at h
    have hx := keeps_leaves x h.1
    obtain ⟨hclosed, hparams⟩ := keeps_allLeaves xs h.2
    rw [fragments, allLeaves, List.forall_mem_cons, List.flatMap_cons, List.flatMap_append, hparams,
      hx.params_eq]
    exact ⟨⟨hx.closed, hclosed⟩, rfl⟩

end

end Composition

/-! ## Reading groups off -/

namespace Fragment

/-- Fragments of one text whose placeholders take all their parameters are cut off in front of equal
lists of parameters. -/
theorem equal_of_append {a b : Fragment Value} (ha : a.WellBound) (hb : b.WellBound)
    (hsql : a.sql.toList = b.sql.toList) {ps qs : List Value}
    (h : List.Forall₂ Value.Equal (a.params ++ ps) (b.params ++ qs)) :
    a.Equal b ∧ List.Forall₂ Value.Equal ps qs := by
  have hlen : a.params.length = b.params.length := by
    rw [← ha.length_placeholders, ← hb.length_placeholders, hsql]
  obtain ⟨hparams, hrest⟩ := (forall₂_append_iff hlen).mp h
  exact ⟨equal_iff.mpr ⟨String.toList_inj.mp hsql, hparams⟩, hrest⟩

/-- Combined fragments are written in parentheses. -/
theorem toList_combine {a b : Fragment Value} (ha : a.Closed) (hb : b.Closed) (op : Connective) :
    (a.combine b op).sql.toList = '(' :: (a.sql.toList ++
      ')' :: (' ' :: op.word.toList ++ ' ' :: '(' :: (b.sql.toList ++ [')']))) := by
  rw [combine_of_closed ha hb]
  simp [String.toList_append, toList_parenthesized]

/-- Combined fragments tell what they were combined of. -/
theorem combine_inj {a b a' b' : Fragment Value} (ha : a.Closed) (hb : b.Closed) (ha' : a'.Closed)
    (hb' : b'.Closed) {op op' : Connective} (h : (a.combine b op).Equal (a'.combine b' op')) :
    a.Equal a' ∧ b.Equal b' ∧ op = op' := by
  obtain ⟨hsql, hparams⟩ := equal_iff.mp h
  have htext := congrArg String.toList hsql
  rw [toList_combine ha hb, toList_combine ha' hb', List.cons.injEq] at htext
  obtain ⟨hfirst, hrest⟩ := ha.balanced.eq_of_closing ha'.balanced htext.2
  obtain rfl : op = op' := by
    cases op <;> cases op' <;> first | rfl | simp [Connective.word] at hrest
  have hsecond := List.append_cancel_left hrest
  rw [List.cons.injEq, List.cons.injEq] at hsecond
  obtain ⟨hback, -⟩ := hb.balanced.eq_of_closing hb'.balanced hsecond.2.2
  rw [combine_of_closed ha hb, combine_of_closed ha' hb'] at hparams
  obtain ⟨haa', hparams⟩ := equal_of_append ha.wellBound ha'.wellBound hfirst hparams
  rw [← List.append_nil b.params, ← List.append_nil b'.params] at hparams
  exact ⟨haa', (equal_of_append hb.wellBound hb'.wellBound hback hparams).1, rfl⟩

/-- A negated fragment is written in parentheses. -/
theorem toList_negate {a : Fragment Value} (ha : a.Closed) :
    a.negate.sql.toList = 'N' :: 'O' :: 'T' :: '(' :: (a.sql.toList ++ [')']) := by
  rw [negate_of_closed ha, String.toList_append, toList_parenthesized]
  rfl

/-- A negated fragment tells what was negated. -/
theorem negate_inj {a a' : Fragment Value} (ha : a.Closed) (ha' : a'.Closed)
    (h : a.negate.Equal a'.negate) : a.Equal a' := by
  obtain ⟨hsql, hparams⟩ := equal_iff.mp h
  have htext := congrArg String.toList hsql
  rw [toList_negate ha, toList_negate ha'] at htext
  simp only [List.cons.injEq, true_and] at htext
  rw [negate_of_closed ha, negate_of_closed ha'] at hparams
  exact equal_iff.mpr ⟨String.toList_inj.mp (List.append_cancel_right htext), hparams⟩

/-- What is negated is no combination: it does not open with a parenthesis. -/
theorem negate_ne_combine {a b c : Fragment Value} (ha : a.Closed) (hb : b.Closed) (hc : c.Closed)
    (op : Connective) : Value.sameFragment? a.negate (b.combine c op) = some false := by
  refine sameFragment?_of_sql_ne fun hsql => ?_
  have htext := congrArg String.toList hsql
  rw [toList_negate ha, toList_combine hb hc, List.cons.injEq] at htext
  exact absurd htext.1 (by decide)

/-- What is written behind the first of the fragments that are joined. -/
def behindFirst : List (Fragment Value) → List Char
  | [] => []
  | fs => " AND ".toList ++ (join " AND " true fs).sql.toList

/-- Joined fragments are written one in front of the others. -/
theorem toList_join_cons {f : Fragment Value} {fs : List (Fragment Value)}
    (h : ∀ g ∈ f :: fs, g.Closed) :
    (join " AND " true (f :: fs)).sql.toList = '(' :: (f.sql.toList ++ ')' :: behindFirst fs) := by
  cases fs with
  | nil =>
    rw [join_singleton_closed (h f List.mem_cons_self)]
    exact toList_parenthesized f.sql
  | cons g fs =>
    rw [join_cons_closed (h f List.mem_cons_self) (h g (by simp)), String.toList_append,
      String.toList_append, toList_parenthesized]
    simp [behindFirst]

/-- Joined fragments tell what they were joined of. -/
theorem join_inj {fs gs : List (Fragment Value)} (hfs : ∀ f ∈ fs, f.Closed) (hgs : ∀ g ∈ gs, g.Closed)
    (h : (join " AND " true fs).Equal (join " AND " true gs)) : List.Forall₂ Equal fs gs := by
  obtain ⟨hsql, hparams⟩ := equal_iff.mp h
  have htext := congrArg String.toList hsql
  clear h hsql
  rw [params_join fun f hf => Or.inl (hfs f hf), params_join fun g hg => Or.inl (hgs g hg)] at hparams
  induction fs generalizing gs with
  | nil =>
    cases gs with
    | nil => exact .nil
    | cons g gs =>
      rw [toList_join_cons hgs] at htext
      cases htext
  | cons f fs ih =>
    cases gs with
    | nil =>
      rw [toList_join_cons hfs] at htext
      cases htext
    | cons g gs =>
      rw [toList_join_cons hfs, toList_join_cons hgs, List.cons.injEq] at htext
      rw [List.forall_mem_cons] at hfs hgs
      obtain ⟨hfirst, hrest⟩ := hfs.1.balanced.eq_of_closing hgs.1.balanced htext.2
      rw [List.flatMap_cons, List.flatMap_cons] at hparams
      obtain ⟨hfg, hparams⟩ := equal_of_append hfs.1.wellBound hgs.1.wellBound hfirst hparams
      refine .cons hfg (ih hfs.2 hgs.2 hparams ?_)
      -- Only the empty list writes nothing behind the first group.
      cases fs with
      | nil =>
        cases gs with
        | nil => rfl
        | cons g' gs => cases hrest
      | cons f' fs =>
        cases gs with
        | nil => cases hrest
        | cons g' gs => exact List.append_cancel_left hrest

/-! ## Recovery -/

/-- **Grouping and parameters are recoverable.** An expression of closed or empty fragments makes a
closed or empty one, with the parameters of its leaves from left to right. Combinations, negations and
joined conditions of closed fragments are equal only if what they are made of is. -/
theorem composition_recoverable :
    (∀ x : Composition Value, (∀ f ∈ x.leaves, f.ClosedOrEmpty) →
      x.fragment.ClosedOrEmpty ∧ x.fragment.params = x.leaves.flatMap (·.params)) ∧
    (∀ a b a' b' : Fragment Value, a.Closed → b.Closed → a'.Closed → b'.Closed →
      ∀ op op', (a.combine b op).Equal (a'.combine b' op') → a.Equal a' ∧ b.Equal b' ∧ op = op') ∧
    (∀ a a' : Fragment Value, a.Closed → a'.Closed → a.negate.Equal a'.negate → a.Equal a') ∧
    (∀ a b c : Fragment Value, a.Closed → b.Closed → c.Closed →
      ∀ op, Value.sameFragment? a.negate (b.combine c op) = some false) ∧
    (∀ fs gs : List (Fragment Value), (∀ f ∈ fs, f.Closed) → (∀ g ∈ gs, g.Closed) →
      (join " AND " true fs).Equal (join " AND " true gs) → List.Forall₂ Equal fs gs) := by
  refine ⟨fun x hx => ?_, ?_, ?_, ?_, ?_⟩
  · obtain ⟨hclosed, hparams⟩ := x.keeps_leaves hx
    exact ⟨hclosed, hparams⟩
  · exact fun a b a' b' ha hb ha' hb' op op' h => combine_inj ha hb ha' hb' h
  · exact fun a a' ha ha' h => negate_inj ha ha' h
  · exact fun a b c ha hb hc op => negate_ne_combine ha hb hc op
  · exact fun fs gs hfs hgs h => join_inj hfs hgs h

/-- A quoted parenthesis does not end a group, and neither does one of a group inside. -/
theorem composition_recoverable_quoted :
    let a : Fragment Value := { sql := "note = ')' AND n = ?", params := [.int 1] }
    let b : Fragment Value := { sql := "(x = ?) OR (y)", params := [.null] }
    let same : Fragment Value := { sql := "note = ')' AND n = ?", params := [.bool true] }
    let x : Composition Value := .not (.extend (.leaf a) (.join [.leaf .empty, .leaf b]))
    a.Closed ∧ b.Closed ∧ same.Closed ∧ (∀ f ∈ x.leaves, f.ClosedOrEmpty) ∧
      x.fragment.sql = "NOT((note = ')' AND n = ?) AND (((x = ?) OR (y))))" ∧
      x.fragment.ClosedOrEmpty ∧ x.fragment.params = [.int 1, .null] ∧
      (a.combine b .or).Equal (same.combine b .or) ∧ a.Equal same ∧
      a.negate.Equal same.negate ∧
      Value.sameFragment? a.negate (b.combine same .and) = some false ∧
      (join " AND " true [a, b]).Equal (join " AND " true [same, b]) ∧
      List.Forall₂ Equal [a, b] [same, b] := by
  intro a b same x
  have ha : a.Closed := by decide +kernel
  have hb : b.Closed := by decide +kernel
  have hsame : same.Closed := by decide +kernel
  have hleaves : ∀ f ∈ x.leaves, f.ClosedOrEmpty := by
    intro f hf
    have hf : f ∈ [a, .empty, b] := hf
    simp only [List.mem_cons, List.not_mem_nil, or_false] at hf
    rcases hf with rfl | rfl | rfl
    · exact Or.inl ha
    · exact Or.inr ⟨rfl, rfl⟩
    · exact Or.inl hb
  have hcombined : (a.combine b .or).Equal (same.combine b .or) := by decide +kernel
  have hnegated : a.negate.Equal same.negate := by decide +kernel
  have hjoined : (join " AND " true [a, b]).Equal (join " AND " true [same, b]) := by decide +kernel
  obtain ⟨htree, hcombine, -, hdiffer, hjoin⟩ := composition_recoverable
  obtain ⟨hclosed, hparams⟩ := htree x hleaves
  refine ⟨ha, hb, hsame, hleaves, by decide +kernel, hclosed, hparams, hcombined,
    (hcombine a b same b ha hb hsame hb .or .or hcombined).1, hnegated,
    hdiffer a b same ha hb hsame .and, hjoined, ?_⟩
  exact hjoin [a, b] [same, b] (by simp [ha, hb]) (by simp [hsame, hb]) hjoined

end Fragment

end SearchQuery
