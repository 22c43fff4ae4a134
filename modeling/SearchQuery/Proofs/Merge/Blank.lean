import SearchQuery.Proofs.Merge.Entries

/-!
# Blank contributions

A blank value takes no part in a merge: `null` in its place gives the same outcome, be it a result or a
failure. Blank values are recognised twice, by `isBlank` before a fragment is built and by the text of
the fragment behind it, and one kind of value passes both: a sequence whose template is white space, but
not empty.

## Shape of the argument

An entry is silent if no clause and no name to load is read out of it (`Silent`). Since fragments are
read entry by entry, silent entries can be exchanged for one another (`merge_congr_of_silent`), and a
value is `Unseen` under a key as soon as its entry is silent.
-/

namespace SearchQuery.FindOptions

/-- A template with its parameters, in a list or a tuple, where the template is white space but not
empty. -/
def IsSpaceTemplate (v : Value) : Prop :=
  ∃ s params, s ≠ "" ∧ Text.isBlank s = true ∧
    (v = .list (.text s :: params) ∨ v = .tuple (.text s :: params))

/-- A value under a key is not seen by any merge: `null` in its place gives the same outcome. -/
def Unseen (key v : Value) : Prop :=
  ∀ (base : Base) (front back : List Value) (before behind : List (Value × Value)),
    merge base (front ++ .dict (before ++ (key, v) :: behind) :: back) =
      merge base (front ++ .dict (before ++ (key, .null) :: behind) :: back)

/-- Nothing is read out of an entry. -/
structure Silent (e : Value × Value) : Prop where
  fragments : ∀ key ∈ clauseKeys, fragments [e] key = .ok []
  names : contributions [e] "include" = []

/-! ## Silent entries -/

/-- Between other entries a silent one can be left out. -/
theorem Silent.fragments_eq {e : Value × Value} (he : Silent e) {key : String} (hkey : key ∈ clauseKeys)
    (before behind : List (Value × Value)) :
    FindOptions.fragments (before ++ e :: behind) key = FindOptions.fragments (before ++ behind) key := by
  rw [← List.singleton_append, fragments_append, fragments_append, he.fragments key hkey,
    fragments_append, ok_bind]
  cases FindOptions.fragments behind key <;> rfl

/-- A silent entry contributes nothing. -/
theorem Silent.contributions_eq {e : Value × Value} (he : Silent e)
    (before behind : List (Value × Value)) :
    contributions (before ++ e :: behind) "include" = contributions (before ++ behind) "include" := by
  rw [← List.singleton_append, contributions_append, contributions_append, he.names, List.nil_append,
    contributions_append]

/-- One silent entry is as good as another. -/
theorem merge_congr_of_silent {e e' : Value × Value} (he : Silent e) (he' : Silent e') (base : Base)
    (front back : List Value) (before behind : List (Value × Value)) :
    merge base (front ++ .dict (before ++ e :: behind) :: back) =
      merge base (front ++ .dict (before ++ e' :: behind) :: back) := by
  have hgather : ∀ e, gather (front ++ .dict (before ++ e :: behind) :: back) =
      (do
        let first ← gather front
        let last ← gather back
        return (first ++ before) ++ e :: (behind ++ last)) := by
    intro e
    rw [List.append_cons, gather_append, gather_append, gather_singleton, entriesOf]
    cases gather front with
    | error e => rfl
    | ok first =>
      cases gather back with
      | error e => rfl
      | ok last => exact congrArg Except.ok (by simp)
  -- Both sides gather the same but for the silent entry, and every clause is told without it.
  rw [merge_eq, merge_eq, hgather, hgather]
  cases gather front with
  | error e => rfl
  | ok first =>
    cases gather back with
    | error e => rfl
    | ok last =>
      have hfragments : ∀ key ∈ clauseKeys,
          FindOptions.fragments ((first ++ before) ++ e :: (behind ++ last)) key =
            FindOptions.fragments ((first ++ before) ++ e' :: (behind ++ last)) key :=
        fun key hkey => by rw [he.fragments_eq hkey, he'.fragments_eq hkey]
      have hclause : ∀ key ∈ distinctKeys, key ∈ clauseKeys := by decide
      refine mergeEntries_congr base ?_ (fun key hkey => ?_) (hfragments _ (by decide))
      · rw [he.contributions_eq, he'.contributions_eq]
      · rw [distinctFragments, hfragments key (hclause key hkey), distinctFragments]

theorem contributions_singleton (k v : Value) (key : String) :
    contributions [(k, v)] key = if k.text? = some key ∧ isBlank v = false then [v] else [] := by
  rw [contributions, List.filter_singleton]
  by_cases hkey : k.text? = some key
  · cases hblank : isBlank v <;> simp [hkey]
  · rw [if_neg fun h => hkey h.1, beq_eq_false_iff_ne.mpr hkey]
    rfl

/-- The fragments of one entry: the one that its value builds, unless the value is blank or the fragment
has no text. -/
theorem fragments_singleton {v : Value} {f : Fragment Value} (hf : Fragment.ofValue v = .ok f)
    (k : Value) (key : String) :
    fragments [(k, v)] key =
      .ok (if k.text? = some key ∧ isBlank v = false ∧ f.isEmpty = false then [f] else []) := by
  rw [fragments, contributions_singleton]
  by_cases hread : k.text? = some key ∧ isBlank v = false
  · rw [if_pos hread, List.mapM_cons, hf]
    cases hempty : f.isEmpty <;> simp [hread, hempty, ok_bind, pure, Except.pure]
  · rw [if_neg hread, if_neg fun h => hread ⟨h.1, h.2.1⟩]
    rfl

/-- An entry is silent if its key is not `include` and its value is blank or builds no text. -/
theorem silent_of_not_text {k v : Value} {f : Fragment Value} (hk : k ≠ .text "include")
    (hf : Fragment.ofValue v = .ok f) (h : isBlank v = true ∨ f.isEmpty = true) : Silent (k, v) where
  fragments key _ := by
    rw [fragments_singleton hf, if_neg]
    rintro ⟨-, hblank, hempty⟩
    rcases h with h | h
    · simp [hblank] at h
    · simp [hempty] at h
  names := by
    rw [contributions_singleton, if_neg]
    rintro ⟨htext, -⟩
    cases k <;> simp_all [Value.text?]

/-- A fragment of white space is recognised on its value or on itself, unless its template stands in a
sequence. -/
theorem not_text_of_isBlank {v : Value} {f : Fragment Value} (hf : Fragment.ofValue v = .ok f)
    (hblank : Text.isBlank f.sql = true) (hv : ¬ IsSpaceTemplate v) :
    isBlank v = true ∨ f.isEmpty = true := by
  have hsequence : ∀ s params, Text.isBlank s = true →
      (v = .list (.text s :: params) ∨ v = .tuple (.text s :: params)) → s = "" :=
    fun s params hs hitems => not_not.mp fun hne => hv ⟨s, params, hne, hs, hitems⟩
  cases v
  case null => exact Or.inl rfl
  case text s =>
    cases hf
    exact Or.inl hblank
  case fragment g =>
    cases hf
    exact Or.inl hblank
  case list items =>
    rcases items with _ | ⟨item, params⟩
    · exact Or.inl rfl
    · cases item <;> cases hf
      exact Or.inr (String.isEmpty_iff.mpr (hsequence _ _ hblank (Or.inl rfl)))
  case tuple items =>
    rcases items with _ | ⟨item, params⟩
    · exact Or.inl rfl
    · cases item <;> cases hf
      exact Or.inr (String.isEmpty_iff.mpr (hsequence _ _ hblank (Or.inr rfl)))
  all_goals cases hf

/-! ## Templates of white space -/

/-- The fragment of a single entry counts if it is not empty. -/
theorem distinctFragments_singleton {v : Value} {f : Fragment Value} (hf : Fragment.ofValue v = .ok f)
    (k : Value) (key : String) :
    distinctFragments [(k, v)] key =
      .ok (if k.text? = some key ∧ isBlank v = false ∧ f.isEmpty = false then [f] else []) := by
  rw [distinctFragments, fragments_singleton hf, ok_bind]
  split <;> rfl

/-- A template of blanks is a text that is neither blank nor empty. -/
theorem IsSpaceTemplate.isText {v : Value} (hv : IsSpaceTemplate v) {f : Fragment Value}
    (hf : Fragment.ofValue v = .ok f) : isBlank v = false ∧ f.isEmpty = false := by
  obtain ⟨s, params, hs, -, rfl | rfl⟩ := hv
  all_goals
    cases hf
    exact ⟨rfl, by simpa [Fragment.isEmpty] using hs⟩

/-- A merge of one map that holds nothing else shows the template. -/
theorem IsSpaceTemplate.not_unseen {v : Value} (hv : IsSpaceTemplate v) {f : Fragment Value}
    (hf : Fragment.ofValue v = .ok f) {key : String} (hkey : key ∈ clauseKeys) :
    ¬ Unseen (.text key) v := by
  intro hunseen
  obtain ⟨hread, hfull⟩ := hv.isText hf
  have hnull : Fragment.ofValue .null = .ok .empty := rfl
  have hnone : isBlank .null = true := rfl
  have hsame : mergeEntries {} [(.text key, v)] = mergeEntries {} [(.text key, .null)] := by
    have hmerge : ∀ v, merge {} [.dict [(.text key, v)]] = mergeEntries {} [(.text key, v)] :=
      fun v => by rw [merge_eq]; rfl
    rw [← hmerge, ← hmerge]
    exact hunseen {} [] [] [] []
  simp only [mergeEntries, distinctFragments_singleton hf, distinctFragments_singleton hnull,
    fragments_singleton hf, fragments_singleton hnull, contributions_singleton, hread, hfull, hnone] at hsame
  simp only [clauseKeys, List.mem_cons, List.not_mem_nil, or_false] at hkey
  rcases hkey with rfl | rfl | rfl | rfl | rfl | rfl
  all_goals
    simp [Value.text?, includedNames, joinSome, groupClause, groupsFor, selectClause, pure,
      Except.pure, bind, Except.bind] at hsame

/-- **Blank values are not seen, but for templates of white space in a sequence.** A value whose fragment
is blank can be replaced by `null` under every key but `include`, whatever else is merged with it, unless
its template stands in a sequence and is not empty; under the key of a clause such a template is seen. -/
theorem blank_value_unseen {v : Value} {f : Fragment Value} (hf : Fragment.ofValue v = .ok f)
    (hblank : Text.isBlank f.sql = true) :
    (¬ IsSpaceTemplate v → ∀ key, key ≠ .text "include" → Unseen key v) ∧
      (IsSpaceTemplate v → ∀ key ∈ clauseKeys, ¬ Unseen (.text key) v) := by
  refine ⟨fun hv key hkey => ?_, fun hv key hkey => hv.not_unseen hf hkey⟩
  have hsilent : Silent (key, v) := silent_of_not_text hkey hf (not_text_of_isBlank hf hblank hv)
  have hnull : Silent (key, .null) := silent_of_not_text hkey rfl (Or.inl rfl)
  exact merge_congr_of_silent hsilent hnull

/-- A fragment of white space with a parameter stands for no group, so that the groups behind it default
to the primary key. -/
theorem blank_value_unseen_group :
    let blank : Value := .fragment { sql := "\t ", params := [.int 1] }
    let maps (group : Value) : List Value :=
      [.dict [(.text "having", .text "COUNT(*) > 1")], .dict [(.text "group", group)]]
    Unseen (.text "group") blank ∧
      (merge ⟨some "t", some "id"⟩ (maps blank)).map (·.group) =
        .ok (some { sql := "t.id HAVING (COUNT(*) > 1)" }) := by
  intro blank maps
  have hunseen : Unseen (.text "group") blank := by
    refine (blank_value_unseen (v := blank) rfl (by decide)).1 ?_ _ (by simp)
    rintro ⟨s, params, -, -, h⟩
    simp [blank] at h
  exact ⟨hunseen, rfl⟩

/-- A space as the template of a sequence yields a condition without content, and it takes the places of
the default group and of the default selection. -/
theorem space_template_seen :
    let space : Value := .list [.text " "]
    let base : Base := ⟨some "t", some "id"⟩
    let grouped (group : Value) : List Value :=
      [.dict [(.text "having", .text "COUNT(*) > 1"), (.text "group", group)]]
    let joined (select : Value) : List Value :=
      [.dict [(.text "joins", .text "JOIN u"), (.text "select", select)]]
    (∃ f, Fragment.ofValue space = .ok f ∧ Text.isBlank f.sql = true) ∧
      (merge {} [.dict [(.text "conditions", space)]]).map (·.conditions) =
        .ok (some { sql := "( )" }) ∧
      (merge {} [.dict [(.text "conditions", .null)]]).map (·.conditions) = .ok none ∧
      (merge base (grouped space)).map (·.group) = .ok (some { sql := "  HAVING (COUNT(*) > 1)" }) ∧
      (merge base (grouped .null)).map (·.group) = .ok (some { sql := "t.id HAVING (COUNT(*) > 1)" }) ∧
      (merge base (joined space)).map (·.select) = .ok (some { sql := " " }) ∧
      (merge base (joined .null)).map (·.select) = .ok (some { sql := "DISTINCT t.*" }) := by
  exact ⟨⟨_, rfl, by decide⟩, rfl, rfl, rfl, rfl, rfl, rfl⟩

end SearchQuery.FindOptions
