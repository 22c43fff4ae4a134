import SearchQuery.Proofs.Fragment.Equality

/-!
# Values that equal themselves

Every value equals itself, a NaN included, as long as no mapping in it has two entries for one key
(`Value.keysOnce`). Mappings are built entry by entry, so none has (`keysOnce_dictOf`); a list of entries
alone does not say so.

## Shape of the recursion

The comparison of two mappings looks the entries of the first one up in the second one. A mapping is
compared with itself entry by entry, with the entries that were looked up before in front; as their keys
are different ones, the look-up finds the entry itself.
-/

namespace SearchQuery

namespace Value

mutual

/-- Whether every mapping in the value has each of its keys once. -/
def keysOnce : Value → Bool
  | list items | tuple items | set items => allKeysOnce items
  | dict entries => entriesKeysOnce entries
  | fragment f => fragmentKeysOnce f
  | _ => true

/-- Whether every mapping in the parameters has each of its keys once. -/
def fragmentKeysOnce : Fragment Value → Bool
  | ⟨_, params, _⟩ => allKeysOnce params

/-- Whether every mapping in the values has each of its keys once. -/
def allKeysOnce : List Value → Bool
  | [] => true
  | v :: vs => keysOnce v && allKeysOnce vs

/-- Whether no entry has the key of one in front of it, and every mapping in the entries has each of its
keys once. -/
def entriesKeysOnce : List (Value × Value) → Bool
  | [] => true
  | e :: es => entryKeysOnce e && es.all (fun f => !same f.1 e.1) && entriesKeysOnce es

/-- Whether every mapping in the entry has each of its keys once. -/
def entryKeysOnce : Value × Value → Bool
  | (k, v) => keysOnce k && keysOnce v

end

theorem mem_allKeysOnce {vs : List Value} (h : allKeysOnce vs = true) {v : Value} (hv : v ∈ vs) :
    keysOnce v = true := by
  induction vs with
  | nil => cases hv
  | cons w vs ih =>
    rw [allKeysOnce, Bool.and_eq_true] at h
    rcases List.mem_cons.mp hv with rfl | hv
    · exact h.1
    · exact ih h.2 hv

theorem mem_entriesKeysOnce {es : List (Value × Value)} (h : entriesKeysOnce es = true)
    {e : Value × Value} (he : e ∈ es) : keysOnce e.1 = true ∧ keysOnce e.2 = true := by
  induction es with
  | nil => cases he
  | cons f es ih =>
    obtain ⟨k, v⟩ := f
    rw [entriesKeysOnce, entryKeysOnce, Bool.and_eq_true, Bool.and_eq_true, Bool.and_eq_true] at h
    rcases List.mem_cons.mp he with rfl | he
    · exact h.1.1
    · exact ih h.2 he

/-- An entry may be given a new value. -/
theorem entriesKeysOnce_update {es : List (Value × Value)} (h : entriesKeysOnce es = true) (key : Value)
    {value : Value} (hvalue : keysOnce value = true) :
    entriesKeysOnce (es.map fun e => if same key e.1 then (e.1, value) else e) = true := by
  have hkeys : ∀ e : Value × Value, (if same key e.1 then (e.1, value) else e).1 = e.1 := by
    intro e
    split <;> rfl
  induction es with
  | nil => rfl
  | cons e es ih =>
    obtain ⟨k, v⟩ := e
    rw [entriesKeysOnce, entryKeysOnce, Bool.and_eq_true, Bool.and_eq_true, Bool.and_eq_true] at h
    obtain ⟨⟨⟨hk, hv⟩, hfresh⟩, hes⟩ := h
    rw [List.map_cons, entriesKeysOnce, ih hes, List.all_map, hkeys, Bool.and_true, Bool.and_eq_true]
    refine ⟨?_, ?_⟩
    · split
      · rw [entryKeysOnce, hk, hvalue, Bool.true_and]
      · rw [entryKeysOnce, hk, hv, Bool.true_and]
    · simpa only [Function.comp_def, hkeys] using hfresh

/-- An entry of a new key may come last. -/
theorem entriesKeysOnce_concat {es : List (Value × Value)} (h : entriesKeysOnce es = true)
    {key value : Value} (hkey : keysOnce key = true) (hvalue : keysOnce value = true)
    (hfresh : ∀ e ∈ es, same key e.1 = false) : entriesKeysOnce (es ++ [(key, value)]) = true := by
  induction es with
  | nil => simp [entriesKeysOnce, entryKeysOnce, hkey, hvalue]
  | cons e es ih =>
    rw [List.forall_mem_cons] at hfresh
    rw [entriesKeysOnce, Bool.and_eq_true, Bool.and_eq_true] at h
    rw [List.cons_append, entriesKeysOnce, ih h.2 hfresh.2, h.1.1, List.all_append, h.1.2]
    simp [hfresh.1]

/-- A mapping that is built entry by entry has each of its keys once. -/
theorem keysOnce_dictOf {entries : List (Value × Value)}
    (h : ∀ e ∈ entries, keysOnce e.1 = true ∧ keysOnce e.2 = true) : (dictOf entries).keysOnce = true := by
  have hinsert : ∀ es, entriesKeysOnce es = true → ∀ e : Value × Value,
      keysOnce e.1 = true ∧ keysOnce e.2 = true →
      entriesKeysOnce (insertEntry es e.1 e.2) = true := by
    intro es hes e he
    rw [insertEntry]
    split
    next => exact entriesKeysOnce_update hes e.1 he.2
    next hany =>
      rw [Bool.not_eq_true, List.any_eq_false] at hany
      exact entriesKeysOnce_concat hes he.1 he.2 fun f hf => by simpa using hany f hf
  have hall : ∀ es, entriesKeysOnce es = true →
      entriesKeysOnce (entries.foldl (fun es e => insertEntry es e.1 e.2) es) = true := by
    induction entries with
    | nil => exact fun es hes => hes
    | cons e entries ih =>
      rw [List.forall_mem_cons] at h
      exact fun es hes => ih h.2 _ (hinsert es hes e h.1)
  exact hall [] rfl

/-- The keys are different ones, so one of them is found where it stands. -/
theorem find?_key {before behind : List (Value × Value)} {e : Value × Value}
    (hbefore : ∀ f ∈ before, same e.1 f.1 = false) (hself : same? e.1 e.1 = some true) :
    (before ++ e :: behind).find? (fun f => same? e.1 f.1 == some true) = some e := by
  rw [List.find?_append, List.find?_eq_none.mpr, Option.none_or, List.find?_cons_of_pos]
  · simpa using hself
  · intro f hf
    simpa [same] using hbefore f hf

/-- Members are the same if all of them are among the others. -/
theorem sameMembers_of_subset {xs ys : List Value} (hsubset : xs ⊆ ys)
    (hself : ∀ x ∈ xs, same? x x = some true) : sameMembers xs ys = true := by
  induction xs with
  | nil => rw [sameMembers]
  | cons x xs ih =>
    rw [List.forall_mem_cons] at hself
    rw [List.cons_subset] at hsubset
    rw [sameMembers, ih hsubset.2 hself.2, Bool.and_true, List.any_eq_true]
    exact ⟨x, hsubset.1, beq_iff_eq.mpr hself.1⟩

theorem sameLeaf?_of_sameLeaf {v w : Value} (h : sameLeaf v w = true) : sameLeaf? v w = some true := by
  rw [sameLeaf?, if_pos h]

mutual

/-- A value equals itself. -/
theorem same?_self : ∀ v : Value, keysOnce v = true → same? v v = some true
  | list items, h => by
    rw [same?, if_pos (beq_self_eq_true _)]
    exact sameItems?_self items h
  | tuple items, h => by
    rw [same?]
    exact sameItems?_self items h
  | set items, h => by
    rw [same?, sameMembers_of_subset (List.Subset.refl items) (members_self items h)]
    simp
  | dict entries, h => by
    rw [same?, if_pos (beq_self_eq_true _)]
    exact sameEntries?_self [] entries h (by simp)
  | fragment f, h => by
    rw [same?]
    exact sameFragment?_self f h
  -- A leaf is compared by its own equality; only a NaN would not be the same as itself.
  | null, _ | ignored, _ | bool _, _ | int _, _ | text _, _ | date _, _ | duration _, _ | bytes _, _ |
    model _, _ | pattern _, _ | range _ _ _, _ => by
    rw [same?, sameLeaf?_of_sameLeaf]
    all_goals simp [sameLeaf, expansion?]
  | moment m, _ => by
    rw [same?, sameLeaf?_of_sameLeaf]
    all_goals cases hoffset : m.time.offset <;> simp [sameLeaf, Moment.same, hoffset]
  | time t, _ => by
    rw [same?, sameLeaf?_of_sameLeaf]
    all_goals cases hoffset : t.offset <;> simp [sameLeaf, TimeOfDay.same, hoffset]
  | float x, _ => by
    rw [same?, sameLeaf?_of_sameLeaf]
    all_goals cases x <;> simp [sameLeaf, expansion?, Expansion.ofBinary64?, infinity?]
  | decimal d, _ => by
    rw [same?, sameLeaf?_of_sameLeaf]
    all_goals cases d <;> simp [sameLeaf, expansion?, Expansion.ofDecimal?, infinity?]

/-- A fragment equals itself. -/
theorem sameFragment?_self : ∀ f : Fragment Value, fragmentKeysOnce f = true →
    sameFragment? f f = some true
  | ⟨_, params, _⟩, h => by
    rw [sameFragment?, if_pos (beq_self_eq_true _)]
    exact sameItems?_self params h

/-- Lists are the same as themselves, and so are all values in them. -/
theorem sameItems?_self : ∀ vs : List Value, allKeysOnce vs = true → sameItems? vs vs = some true
  | [], _ => by rw [sameItems?]
  | v :: vs, h => by
    rw [allKeysOnce, Bool.and_eq_true] at h
    rw [sameItems?, same?_self v h.1]
    exact sameItems?_self vs h.2

theorem members_self : ∀ vs : List Value, allKeysOnce vs = true → ∀ v ∈ vs, same? v v = some true
  | [], _ => fun _ hv => absurd hv List.not_mem_nil
  | v :: vs, h => by
    rw [allKeysOnce, Bool.and_eq_true] at h
    exact List.forall_mem_cons.mpr ⟨same?_self v h.1, members_self vs h.2⟩

/-- The entries of a mapping are found in it, those behind others too. -/
theorem sameEntries?_self : ∀ (before es : List (Value × Value)), entriesKeysOnce es = true →
    (∀ e ∈ es, ∀ f ∈ before, same e.1 f.1 = false) → sameEntries? es (before ++ es) = some true
  | _, [], _, _ => by rw [sameEntries?]
  | before, (k, v) :: es, h, hbefore => by
    rw [entriesKeysOnce, entryKeysOnce, Bool.and_eq_true, Bool.and_eq_true, Bool.and_eq_true] at h
    obtain ⟨⟨⟨hk, hv⟩, hfresh⟩, hes⟩ := h
    rw [List.forall_mem_cons] at hbefore
    have hrest : sameEntries? es (before ++ [(k, v)] ++ es) = some true := by
      refine sameEntries?_self _ es hes fun e he f hf => ?_
      rcases List.mem_append.mp hf with hf | hf
      · exact hbefore.2 e he f hf
      · rw [List.mem_singleton.mp hf]
        simpa using List.all_eq_true.mp hfresh e he
    rw [List.append_assoc, List.singleton_append] at hrest
    rw [sameEntries?, sameEntry?, find?_key hbefore.1 (same?_self k hk)]
    simp only [same?_self v hv, hrest]

end

end Value

end SearchQuery
