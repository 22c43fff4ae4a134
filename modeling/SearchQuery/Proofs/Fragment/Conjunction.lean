import SearchQuery.Proofs.Fragment.Grouping
import SearchQuery.Proofs.Sql.Truth

/-!
# Conjunctions

Conditions that were joined by `AND` are read off a text again: `conjuncts?` cuts it into its groups,
each up to the parenthesis that closes it, and deals the parameters out by placeholders. So the truth
of a joined text is told by the truths of the conditions in it, whatever these are (`Valuation`).
-/

namespace SearchQuery

open Statement Sql

namespace Nesting

/-- The text in front of the parenthesis that closes what is open around it, and the text behind. -/
def upToClosing? (n : Nesting) : List Char → Option (List Char × List Char)
  | [] => none
  | c :: cs =>
    match n.step c with
    | some m => (m.upToClosing? cs).map fun p => (c :: p.1, p.2)
    | none => some ([], cs)

theorem length_upToClosing? {n : Nesting} {cs u rest : List Char}
    (h : n.upToClosing? cs = some (u, rest)) : rest.length < cs.length := by
  induction cs generalizing n u with
  | nil => cases h
  | cons c cs ih =>
    rw [upToClosing?] at h
    split at h
    next m _ =>
      obtain ⟨p, hp, hrest⟩ := Option.map_eq_some_iff.mp h
      cases hrest
      exact Nat.lt_succ_of_lt (ih hp)
    next =>
      cases h
      exact Nat.lt_succ_self _

/-- What can be walked through is no end. -/
theorem upToClosing?_append {n m : Nesting} {u : List Char} (h : n.run u = some m) (v : List Char) :
    n.upToClosing? (u ++ v) = (m.upToClosing? v).map fun p => (u ++ p.1, p.2) := by
  induction u generalizing n with
  | nil =>
    cases h
    simp
  | cons c u ih =>
    obtain ⟨next, hnext, h⟩ := Option.bind_eq_some_iff.mp h
    rw [List.cons_append, upToClosing?, hnext]
    simp only [ih h, Option.map_map]
    rfl

/-- A balanced text goes up to the parenthesis that closes around it. -/
theorem upToClosing?_balanced {u : List Char} (h : Balanced u) (rest : List Char) :
    upToClosing? {} (u ++ ')' :: rest) = some (u, rest) := by
  have hclosing : upToClosing? {} (')' :: rest) = some ([], rest) := rfl
  rw [upToClosing?_append h, hclosing, Option.map_some, List.append_nil]

end Nesting

/-- The texts of groups in parentheses that stand with a separator between them. -/
def groups? (separator : List Char) : List Char → Option (List (List Char))
  | '(' :: cs =>
    match h : Nesting.upToClosing? {} cs with
    | some (u, rest) =>
      have : rest.length < cs.length := Nesting.length_upToClosing? h
      if rest = [] then some [u]
      else if separator <+: rest then
        (groups? separator (rest.drop separator.length)).map (u :: ·)
      else none
    | none => none
  | _ => none
termination_by cs => cs.length

/-- A group in front is split from the others at the separator. -/
theorem groups?_cons {separator u : List Char} (h : Balanced u) (rest : List Char) :
    groups? separator ('(' :: (u ++ ')' :: rest)) =
      if rest = [] then some [u]
      else if separator <+: rest then
        (groups? separator (rest.drop separator.length)).map (u :: ·)
      else none := by
  rw [groups?]
  split
  next u' rest' heq =>
    rw [Nesting.upToClosing?_balanced h, Option.some.injEq, Prod.mk.injEq] at heq
    obtain ⟨rfl, rfl⟩ := heq
    rfl
  next heq =>
    rw [Nesting.upToClosing?_balanced h] at heq
    cases heq

namespace Fragment

/-- Deal parameters out to texts, one for every placeholder. -/
def dealt : List (List Char) → List Value → List (Fragment Value)
  | [], _ => []
  | u :: us, params =>
    let count := (placeholders u).length
    { sql := String.ofList u, params := params.take count } :: dealt us (params.drop count)

/-- The conditions that are joined by `AND` in a fragment, each in parentheses. -/
def conjuncts? (f : Fragment Value) : Option (List (Fragment Value)) :=
  (groups? " AND ".toList f.sql.toList).map (dealt · f.params)

/-- The fragment that does not remember a connective. -/
def bare (f : Fragment Value) : Fragment Value :=
  { sql := f.sql, params := f.params }

/-- Parameters are dealt to the parts that they belong to. -/
theorem dealt_texts {fs : List (Fragment Value)} (h : ∀ f ∈ fs, f.WellBound) :
    dealt (fs.map (·.sql.toList)) (fs.flatMap (·.params)) = fs.map bare := by
  induction fs with
  | nil => rfl
  | cons f fs ih =>
    rw [List.forall_mem_cons] at h
    rw [List.map_cons, dealt, List.flatMap_cons, h.1.length_placeholders, List.take_left,
      List.drop_left, ih h.2, String.ofList_toList]
    rfl

/-- Joined fragments are split into what was joined. -/
theorem groups?_join {f : Fragment Value} {fs : List (Fragment Value)} (h : ∀ g ∈ f :: fs, g.Closed) :
    groups? " AND ".toList (join " AND " true (f :: fs)).sql.toList =
      some ((f :: fs).map (·.sql.toList)) := by
  induction fs generalizing f with
  | nil =>
    rw [toList_join_cons h, behindFirst, groups?_cons (h f List.mem_cons_self).balanced, if_pos rfl]
    rfl
  | cons g fs ih =>
    have hrest := ih fun g hg => h g (List.mem_cons_of_mem _ hg)
    rw [toList_join_cons h, behindFirst, groups?_cons (h f List.mem_cons_self).balanced,
      if_neg (by simp), if_pos (List.prefix_append _ _), List.drop_left, hrest]
    · rfl
    · simp

/-- **Joined conditions are read off again.** -/
theorem conjuncts?_join {fs : List (Fragment Value)} (hne : fs ≠ []) (h : ∀ f ∈ fs, f.Closed) :
    (join " AND " true fs).conjuncts? = some (fs.map bare) := by
  obtain ⟨f, fs, rfl⟩ := List.exists_cons_of_ne_nil hne
  rw [conjuncts?, groups?_join h, params_join fun f hf => Or.inl (h f hf), Option.map_some,
    dealt_texts fun f hf => (h f hf).wellBound]

end Fragment

/-! ## Truth -/

/-- A truth for every fragment, the same one for fragments that are equal. -/
structure Valuation where
  truth : Fragment Value → Truth
  congr : ∀ f g, f.sql = g.sql → f.params = g.params ∨ f.Equal g → truth f = truth g

namespace Valuation

variable (v : Valuation)

/-- The truth of conditions that are joined by `AND` in a fragment. -/
def conjunction? (f : Fragment Value) : Option Truth :=
  f.conjuncts?.map fun fs => .all (fs.map v.truth)

/-- Joined conditions hold together. -/
theorem conjunction?_join {fs : List (Fragment Value)} (hne : fs ≠ []) (h : ∀ f ∈ fs, f.Closed) :
    ∃ t, v.conjunction? (.join " AND " true fs) = some t ∧
      (t = .holds ↔ ∀ f ∈ fs, v.truth f = .holds) := by
  rw [conjunction?, Fragment.conjuncts?_join hne h]
  refine ⟨_, rfl, ?_⟩
  rw [Truth.all_eq_holds, List.map_map, List.forall_mem_map]
  exact forall₂_congr fun f _ => by
    rw [Function.comp_apply, v.congr f.bare f rfl (Or.inl rfl)]

end Valuation

end SearchQuery
