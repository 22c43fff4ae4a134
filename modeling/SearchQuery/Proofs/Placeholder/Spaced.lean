import SearchQuery.Proofs.Placeholder.Binding
import SearchQuery.Proofs.Placeholder.WellBound
import SearchQuery.Proofs.Sql.Reading

/-!
# Placeholders with room around them

A placeholder can be named where its name does not run into what stands around it. It has room where it
follows a space or an opening parenthesis and where nothing, a space, a comma or a closing parenthesis
follows it. Texts whose quotes are closed and whose placeholders all have room can be put together, and
so fragments made of them can be bound (`Fragment.Spaced.exists_bindsExactly`).

## Shape of the texts

`Spaced cs n` says so of a text with `n` placeholders. A seam needs a look at one character only: what
follows a text that ends in a placeholder has to leave it room (`Spaced.append`).
-/

namespace SearchQuery

open Statement

namespace Statement

/-- The characters that a placeholder may follow. -/
def openers : List Char := [' ', '(']

/-- The characters that may follow a placeholder. -/
def closers : List Char := [' ', ',', ')']

/-- What stands around position `k` of a text leaves room for a name. -/
def HasRoom (cs : List Char) (k : ℕ) : Prop :=
  (∃ c ∈ openers, (cs.take k).getLast? = some c) ∧ ∀ c ∈ (cs.drop (k + 1)).head?, c ∈ closers

-- The instances are named: one that goes through all characters applies as well.
instance (cs : List Char) : DecidablePred (HasRoom cs) := fun _ =>
  @instDecidableAnd _ _ (List.decidableBEx _ _) (Option.decidableForallMem _)

/-- The quotes of the text are closed, and it has `n` placeholders, all with room. -/
structure Spaced (cs : List Char) (n : ℕ) : Prop where
  even_quotes : Even (cs.count apostrophe)
  length_placeholders : (placeholders cs).length = n
  hasRoom : ∀ k ∈ placeholders cs, HasRoom cs k

instance (cs : List Char) (n : ℕ) : Decidable (Spaced cs n) :=
  decidable_of_iff (Even (cs.count apostrophe) ∧ (placeholders cs).length = n ∧
      ∀ k ∈ placeholders cs, HasRoom cs k)
    ⟨fun h => ⟨h.1, h.2.1, h.2.2⟩, fun h => ⟨h.1, h.2, h.3⟩⟩

/-- Where there is room nothing clashes. -/
theorem HasRoom.not_clashes {cs : List Char} {k : ℕ} (h : HasRoom cs k) : ¬ Clashes cs k := by
  obtain ⟨⟨c, hc, hlast⟩, hnext⟩ := h
  rw [Clashes, IsSigned, hlast]
  simp only [openers, closers, List.mem_cons, List.not_mem_nil, or_false] at hc hnext
  rintro ((hsign | hsign) | hword)
  · rcases hc with rfl | rfl <;> cases hsign
  · rcases hc with rfl | rfl <;> cases hsign
  · obtain ⟨d, hd, hword⟩ := (Option.any_eq_true _ _).mp hword
    rcases hnext d hd with rfl | rfl | rfl <;> exact absurd hword (by decide)

/-- In front of a text that leaves room, or of any text unless it ends there, a placeholder keeps its
room. -/
theorem HasRoom.append_left {front back : List Char} {k : ℕ} (hk : k < front.length)
    (h : HasRoom front k)
    (hseam : front.getLast? = some '?' → ∀ c ∈ back.head?, c ∈ closers)
    (hplace : front[k]? = some '?') : HasRoom (front ++ back) k := by
  obtain ⟨⟨c, hc, hlast⟩, hnext⟩ := h
  refine ⟨⟨c, hc, by rwa [List.take_append_of_le_length (Nat.le_of_lt hk)]⟩, ?_⟩
  rw [List.drop_append]
  by_cases hend : k + 1 < front.length
  · obtain ⟨d, rest, hrest⟩ := List.exists_cons_of_ne_nil
      (List.ne_nil_of_length_pos (l := front.drop (k + 1)) (by rw [List.length_drop]; omega))
    rw [hrest] at hnext ⊢
    exact hnext
  · -- The placeholder ends the text in front.
    have hlength : front.length = k + 1 := by omega
    rw [List.drop_eq_nil_of_le (by omega), List.nil_append, hlength, Nat.sub_self, List.drop_zero]
    refine hseam ?_
    rw [List.getLast?_eq_getElem?, hlength]
    exact hplace

/-- Room in a text is room in any text that ends with it. -/
theorem HasRoom.append_right (front : List Char) {back : List Char} {k : ℕ} (h : HasRoom back k) :
    HasRoom (front ++ back) (front.length + k) := by
  obtain ⟨⟨c, hc, hlast⟩, hnext⟩ := h
  refine ⟨⟨c, hc, ?_⟩, ?_⟩
  · rw [List.take_length_add_append, List.getLast?_append, hlast]
    rfl
  · rw [Nat.add_assoc, List.drop_length_add_append]
    exact hnext

namespace Spaced

variable {cs front back : List Char} {m n : ℕ}

/-- A placeholder keeps its room in front of a text, as long as this one leaves room at the seam. -/
theorem hasRoom_append (hfront : Spaced front m)
    (hseam : front.getLast? = some '?' → ∀ c ∈ back.head?, c ∈ closers) {k : ℕ}
    (hk : k ∈ placeholders front) : HasRoom (front ++ back) k := by
  have hlt : k < front.length := List.mem_range.mp (List.mem_of_mem_filter hk)
  have hplace : IsPlaceholder front k := by simpa using List.of_mem_filter hk
  exact (hfront.hasRoom k hk).append_left hlt hseam hplace.1

/-- **Texts with room are put together.** What follows leaves room for a placeholder at the seam. -/
theorem append (hfront : Spaced front m) (hback : Spaced back n)
    (hseam : front.getLast? = some '?' → ∀ c ∈ back.head?, c ∈ closers) :
    Spaced (front ++ back) (m + n) := by
  refine ⟨?_, ?_, ?_⟩
  · rw [List.count_append]
    exact hfront.even_quotes.add hback.even_quotes
  · rw [placeholders_append hfront.even_quotes, List.length_append, List.length_map,
      hfront.length_placeholders, hback.length_placeholders]
  · intro k hk
    rw [placeholders_append hfront.even_quotes, List.mem_append] at hk
    rcases hk with hk | hk
    · exact hfront.hasRoom_append hseam hk
    · obtain ⟨j, hj, rfl⟩ := List.mem_map.mp hk
      exact (hback.hasRoom j hj).append_right front

/-- A text that does not end in a placeholder leaves room for whatever follows. -/
theorem append_of_last {c : Char} (hfront : Spaced front m) (hback : Spaced back n)
    (hlast : front.getLast? = some c) (hc : c ≠ '?') : Spaced (front ++ back) (m + n) :=
  hfront.append hback fun h => absurd (Option.some.inj (hlast.symm.trans h)) hc

/-- A text that starts with a space, a comma or a closing parenthesis follows any other one. -/
theorem append_of_head {c : Char} (hfront : Spaced front m) (hback : Spaced back n)
    (hhead : back.head? = some c) (hc : c ∈ closers) : Spaced (front ++ back) (m + n) :=
  hfront.append hback fun _ d hd => by
    rw [hhead] at hd
    cases hd
    exact hc

/-- A text without placeholders and with closed quotes. -/
theorem of_inert (heven : Even (cs.count apostrophe)) (hnone : placeholders cs = []) : Spaced cs 0 :=
  ⟨heven, by rw [hnone]; rfl, fun k hk => by rw [hnone] at hk; cases hk⟩

/-- A placeholder at the end of a text. -/
theorem concat_mark {c : Char} (hfront : Spaced front m) (hlast : front.getLast? = some c)
    (hc : c ∈ openers) : Spaced (front ++ ['?']) (m + 1) := by
  have hplaces : placeholders (front ++ ['?']) = placeholders front ++ [front.length] := by
    rw [placeholders_concat, if_pos ⟨rfl, hfront.even_quotes⟩]
  have hmark : front.getLast? ≠ some '?' := by
    rw [hlast]
    rintro ⟨⟩
    exact absurd hc (by decide)
  refine ⟨?_, ?_, ?_⟩
  · rw [List.count_append]
    exact hfront.even_quotes.add (by decide)
  · rw [hplaces, List.length_append, hfront.length_placeholders]
    rfl
  · intro k hk
    rw [hplaces, List.mem_append, List.mem_singleton] at hk
    rcases hk with hk | rfl
    · exact hfront.hasRoom_append (fun h => absurd h hmark) hk
    · refine ⟨⟨c, hc, by rwa [List.take_left]⟩, ?_⟩
      rw [List.drop_length_add_append]
      simp

/-- Placeholders with commas between them. -/
theorem append_marks {c : Char} (hfront : Spaced front m) (hlast : front.getLast? = some c)
    (hc : c ∈ openers) {β : Type} {items : List β} (hne : items ≠ []) :
    Spaced (front ++ (", ".intercalate (items.map fun _ => "?")).toList) (m + items.length) := by
  induction items generalizing front m c with
  | nil => exact absurd rfl hne
  | cons item items ih =>
    have hmark := hfront.concat_mark hlast hc
    by_cases hrest : items = []
    · subst hrest
      simpa using hmark
    · -- The comma and the space behind it are in front of the marks that are left.
      have hcomma : Spaced (front ++ ['?'] ++ [',', ' ']) (m + 1 + 0) :=
        hmark.append_of_head (by decide) rfl (by decide)
      have hall := ih hcomma (c := ' ') (by simp) (by decide) hrest
      rw [List.map_cons, String.intercalate_cons_of_ne_nil (by simpa using hrest),
        String.toList_append, String.toList_append]
      rw [List.length_cons, Nat.add_comm items.length, ← Nat.add_assoc]
      simpa using hall

end Spaced

/-- A text whose quotes are closed and that has no placeholders. -/
structure Inert (text : String) : Prop where
  even_quotes : Even (text.toList.count apostrophe)
  placeholders_eq : placeholders text.toList = []

instance (text : String) : Decidable (Inert text) :=
  decidable_of_iff (Even (text.toList.count apostrophe) ∧ placeholders text.toList = [])
    ⟨fun h => ⟨h.1, h.2⟩, fun h => ⟨h.1, h.2⟩⟩

/-- An inert text has nothing to bind. -/
theorem Inert.spaced {text : String} (h : Inert text) : Spaced text.toList 0 :=
  .of_inert h.even_quotes h.placeholders_eq

/-- A neutral text is inert. -/
theorem Neutral.inert {text : String} (h : Neutral text) : Inert text where
  even_quotes := by
    rw [List.count_eq_zero_of_not_mem h.1]
    exact Even.zero
  placeholders_eq := List.filter_eq_nil_iff.mpr fun k _ => by simpa using h.not_isPlaceholder k

/-- A text that keeps what stands around it apart. -/
structure IsSeparator (text : String) : Prop where
  neutral : Neutral text
  head : ∃ c ∈ closers, text.toList.head? = some c
  last : text.toList.getLast? = some ' '

instance (text : String) : Decidable (IsSeparator text) :=
  have : Decidable (∃ c ∈ closers, text.toList.head? = some c) := List.decidableBEx _ _
  decidable_of_iff (Neutral text ∧ (∃ c ∈ closers, text.toList.head? = some c) ∧
      text.toList.getLast? = some ' ')
    ⟨fun h => ⟨h.1, h.2.1, h.2.2⟩, fun h => ⟨h.1, h.2, h.3⟩⟩

/-- Texts with room keep it when they are joined by a separator. -/
theorem IsSeparator.spaced {separator : String} (hsep : IsSeparator separator) {s t : String} {m n : ℕ}
    (hs : Spaced s.toList m) (ht : Spaced t.toList n) :
    Spaced (s ++ separator ++ t).toList (m + n) := by
  obtain ⟨c, hc, hhead⟩ := hsep.head
  rw [String.append_assoc, String.toList_append, String.toList_append]
  refine hs.append_of_head (c := c) ?_ ?_ hc
  · have hback := hsep.neutral.inert.spaced.append_of_last ht hsep.last (by decide)
    rwa [Nat.zero_add] at hback
  · rw [List.head?_append, hhead]
    rfl

end Statement

namespace Fragment

variable {α : Type} {f g : Fragment α}

/-- The fragment has a parameter for each of its placeholders, and all of these have room. -/
def Spaced (f : Fragment α) : Prop :=
  Statement.Spaced f.sql.toList f.params.length

instance (f : Fragment α) : Decidable f.Spaced :=
  inferInstanceAs (Decidable (Statement.Spaced _ _))

namespace Spaced

/-- A fragment with room for its placeholders is well bound. -/
theorem wellBound (h : f.Spaced) : f.WellBound :=
  ⟨h.even_quotes, h.length_placeholders⟩

/-- **Room is enough.** The parameters of such a fragment can be bound, each to its placeholder. -/
theorem exists_bindsExactly {f : Fragment Value} (h : f.Spaced) :
    ∃ b, Bound.ofFragment f = .ok b ∧ BindsExactly f b :=
  (ofFragment_exact f).2.2 h.length_placeholders fun k hk => (h.hasRoom k hk).not_clashes

/-- The empty fragment has nothing to bind. -/
theorem empty : (Fragment.empty : Fragment α).Spaced :=
  Statement.Spaced.of_inert Even.zero rfl

end Spaced

/-! ## Fragments put together -/

theorem spaced_parenthesized {sql : String} {n : ℕ} (h : Statement.Spaced sql.toList n) :
    Statement.Spaced (parenthesized sql).toList n := by
  have hopen : Statement.Spaced ("(" ++ sql).toList (0 + n) := by
    rw [String.toList_append]
    exact Statement.Spaced.append_of_last (by decide) h (c := '(') rfl (by decide)
  rw [Nat.zero_add] at hopen
  rw [parenthesized, String.toList_append]
  exact hopen.append_of_head (by decide : Statement.Spaced ")".toList 0) (c := ')') rfl (by decide)

/-- Combined fragments leave room if both do. -/
theorem Spaced.combine (hf : f.Spaced) (hg : g.Spaced) (op : Connective) : (f.combine g op).Spaced := by
  rw [Fragment.combine]
  split
  · exact hf
  split
  · exact hg
  have hword : IsSeparator (" " ++ op.word ++ " ") := by
    cases op <;> decide
  have hboth := hword.spaced (spaced_parenthesized hf) (spaced_parenthesized hg)
  rw [← String.append_assoc, ← String.append_assoc, ← List.length_append] at hboth
  exact hboth

/-- So does a negated one. -/
theorem Spaced.negate (hf : f.Spaced) : f.negate.Spaced := by
  rw [Fragment.negate]
  split
  · exact hf
  · have hnot : Statement.Spaced ("NOT" ++ parenthesized f.sql).toList (0 + f.params.length) := by
      rw [String.toList_append]
      exact Statement.Spaced.append_of_last (by decide) (spaced_parenthesized hf) (c := 'T') rfl (by decide)
    rw [Nat.zero_add] at hnot
    exact hnot

/-- So do many that are combined. -/
theorem Spaced.combineAll {β : Type} (op : Connective) {xs : List β} {test : β → Fragment Value}
    (h : ∀ x ∈ xs, (test x).Spaced) : (Fragment.combineAll op xs test).Spaced := by
  -- The induction needs a fold from any start.
  suffices hfold : ∀ f : Fragment Value, f.Spaced →
      (xs.foldl (fun f x => f.combine (test x) op) f).Spaced from hfold _ .empty
  induction xs with
  | nil => exact fun f hf => hf
  | cons x xs ih =>
    rw [List.forall_mem_cons] at h
    exact fun f hf => ih h.2 _ (hf.combine h.1 op)

theorem Spaced.wrapped (hf : f.Spaced) (wrap : Bool) : (f.wrapped wrap).Spaced := by
  cases wrap
  · exact hf
  · exact spaced_parenthesized hf

/-- Joined fragments leave room if all do. -/
theorem Spaced.join {separator : String} (hsep : IsSeparator separator) (wrap : Bool)
    {fs : List (Fragment α)} (h : ∀ f ∈ fs, f.Spaced) : (Fragment.join separator wrap fs).Spaced := by
  induction fs with
  | nil => exact .empty
  | cons f fs ih =>
    rw [List.forall_mem_cons] at h
    by_cases hempty : f.isEmpty = true
    · rw [join_cons_of_isEmpty separator wrap fs hempty]
      exact ih h.2
    · rw [join_cons_of_not_isEmpty separator wrap fs (by simpa using hempty)]
      split
      · exact h.1.wrapped wrap
      · have hboth := hsep.spaced (h.1.wrapped wrap) (ih h.2)
        rw [← List.length_append] at hboth
        exact hboth

end Fragment

end SearchQuery
