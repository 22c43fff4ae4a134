import Mathlib.Data.List.Forall2
import SearchQuery.Value.Basic

/-!
# Equal fragments

Fragments are equal when their texts are the same and their parameters are equal as values, one by
one. The connective that a fragment remembers does not count.
-/

namespace SearchQuery

namespace Value

/-- Two values are equal. -/
def Equal (v w : Value) : Prop :=
  same? v w = some true

instance (v w : Value) : Decidable (v.Equal w) :=
  inferInstanceAs (Decidable (_ = _))

/-- Texts are the same character by character. -/
theorem same_text (s t : String) : same (.text s) (.text t) = (s == t) := by
  have hleaf : sameLeaf (.text s) (.text t) = (s == t) := rfl
  have hsame : same? (.text s) (.text t) = sameLeaf? (.text s) (.text t) := by simp [same?]
  rw [same, hsame, sameLeaf?, hleaf]
  cases s == t with
  | true => rfl
  | false => rfl

theorem sameItems?_eq_true_iff {vs ws : List Value} :
    sameItems? vs ws = some true ↔ List.Forall₂ Equal vs ws := by
  induction vs generalizing ws with
  | nil =>
    cases ws with
    | nil => simp [sameItems?]
    | cons w ws => simp [sameItems?]
  | cons v vs ih =>
    cases ws with
    | nil => simp [sameItems?]
    | cons w ws =>
      rw [sameItems?, List.forall₂_cons, Equal]
      split
      next hsame => rw [ih, hsame, eq_self_iff_true, true_and]
      next hdiffer => exact iff_of_false hdiffer fun h => hdiffer h.1

end Value

namespace Fragment

/-- Two fragments are equal. -/
def Equal (f g : Fragment Value) : Prop :=
  Value.sameFragment? f g = some true

instance (f g : Fragment Value) : Decidable (f.Equal g) :=
  inferInstanceAs (Decidable (_ = _))

/-- Equal fragments have one text and equal parameters. -/
theorem equal_iff {f g : Fragment Value} :
    f.Equal g ↔ f.sql = g.sql ∧ List.Forall₂ Value.Equal f.params g.params := by
  obtain ⟨sql, params, op⟩ := f
  obtain ⟨sql', params', op'⟩ := g
  rw [Equal, Value.sameFragment?]
  by_cases hsql : sql = sql'
  · rw [if_pos (beq_iff_eq.mpr hsql), Value.sameItems?_eq_true_iff, and_iff_right hsql]
  · rw [if_neg (by simpa using hsql)]
    exact iff_of_false (by simp) fun h => hsql h.1

/-- Fragments with different texts differ, whatever their parameters are. -/
theorem sameFragment?_of_sql_ne {f g : Fragment Value} (h : f.sql ≠ g.sql) :
    Value.sameFragment? f g = some false := by
  obtain ⟨sql, params, op⟩ := f
  obtain ⟨sql', params', op'⟩ := g
  rw [Value.sameFragment?, if_neg fun hsql => h (beq_iff_eq.mp hsql)]

end Fragment

/-- Equal lists of parameters in two parts each, the first parts of one length, are equal part by
part. -/
theorem forall₂_append_iff {α β : Type} {R : α → β → Prop} {as as' : List α} {bs bs' : List β}
    (hlen : as.length = bs.length) :
    List.Forall₂ R (as ++ as') (bs ++ bs') ↔ List.Forall₂ R as bs ∧ List.Forall₂ R as' bs' := by
  constructor
  · intro h
    have hfront := List.forall₂_take_append _ _ _ h
    have hback := List.forall₂_drop_append _ _ _ h
    rw [List.take_left' hlen] at hfront
    rw [List.drop_left' hlen] at hback
    exact ⟨hfront, hback⟩
  · rintro ⟨hfront, hback⟩
    exact List.rel_append hfront hback

end SearchQuery
