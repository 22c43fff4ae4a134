import SearchQuery.Proofs.Fragment.Reflexive
import SearchQuery.Proofs.Merge.Entries

/-!
# Option-maps that are given again

An option-map that is given a second time changes nothing but the order of the rows: all other clauses
keep the first of equal fragments, and the names to load are kept once. Failures are the same too.

## Shape of the argument

What a map contributes is a part of what stands in front of its repetition. Members that stand in front
and equal themselves are not kept again (`distinctBy_repeated`), and every fragment and name of the map
equals itself because its mappings have each key once (`Value.keysOnce`). So each clause of the merge is
the same with and without the repetition (`distinctFragments_repeated`, `includedNames_repeated`), and
the one clause that is not made distinct gets the fragment a second time.
-/

namespace SearchQuery

namespace Value

variable {α : Type} {same? : α → α → Option Bool}

/-! ## Members that are repeated -/

/-- To look for a member in two lists is to look in one and then in the other. -/
theorem anyPasses_append {test : α → Option Bool} {as bs : List α} :
    anyPasses test (as ++ bs) =
      match anyPasses test as with
      | some false => anyPasses test bs
      | answer => answer := by
  induction as with
  | nil => rfl
  | cons a as ih =>
    rw [List.cons_append, anyPasses, anyPasses]
    cases test a with
    | none => rfl
    | some passes =>
      cases passes with
      | false => exact ih
      | true => rfl

/-- To keep what is distinct of two lists goes through one and then the other. -/
theorem distinctBy_append {kept as bs : List α} :
    distinctBy same? kept (as ++ bs) = (distinctBy same? kept as).bind (distinctBy same? · bs) := by
  induction as generalizing kept with
  | nil => rfl
  | cons a as ih =>
    rw [List.cons_append, distinctBy, distinctBy]
    split
    next => exact ih
    next => exact ih
    next => rfl

/-- A member that equals itself has an equal among those that are kept, and no comparison in front of it
fails. -/
theorem anyPasses_of_mem {kept as all : List α} (h : distinctBy same? kept as = some all) {a : α}
    (ha : a ∈ as) (hself : same? a a = some true) : anyPasses (same? · a) all = some true := by
  induction as generalizing kept with
  | nil => cases ha
  | cons c as ih =>
    rw [distinctBy] at h
    split at h
    next hsame =>
      rcases List.mem_cons.mp ha with rfl | ha
      · obtain ⟨more, -, rfl⟩ := distinctBy_eq_some h
        rw [anyPasses_append, hsame]
      · exact ih h ha
    next hfresh =>
      rcases List.mem_cons.mp ha with rfl | ha
      · obtain ⟨more, -, rfl⟩ := distinctBy_eq_some h
        rw [anyPasses_append, anyPasses_append, hfresh]
        simp only [anyPasses, hself]
      · exact ih h ha
    next => cases h

/-- What is the same as something that is kept adds nothing. -/
theorem distinctBy_of_anyPasses {all bs : List α}
    (h : ∀ b ∈ bs, anyPasses (same? · b) all = some true) : distinctBy same? all bs = some all := by
  induction bs with
  | nil => rfl
  | cons b bs ih =>
    rw [List.forall_mem_cons] at h
    rw [distinctBy, h.1]
    exact ih h.2

/-- Members that stand in front already are not kept again. -/
theorem distinctBy_repeated {as bs cs : List α} (hbs : bs ⊆ as)
    (hself : ∀ b ∈ bs, same? b b = some true) :
    distinctBy same? [] (as ++ (bs ++ cs)) = distinctBy same? [] (as ++ cs) := by
  rw [distinctBy_append, distinctBy_append]
  cases hall : distinctBy same? [] as with
  | none => rfl
  | some all =>
    have hagain : distinctBy same? all bs = some all :=
      distinctBy_of_anyPasses fun b hb => anyPasses_of_mem hall (hbs hb) (hself b hb)
    rw [Option.bind_some, Option.bind_some, distinctBy_append, hagain, Option.bind_some]

end Value

namespace FindOptions

/-! ## What a map contributes -/

/-- A contribution is the value of an entry. -/
theorem mem_of_mem_contributions {entries : List (Value × Value)} {key : String} {v : Value}
    (h : v ∈ contributions entries key) : ∃ e ∈ entries, e.2 = v := by
  obtain ⟨e, he, hv⟩ := List.mem_map.mp h
  exact ⟨e, List.mem_of_mem_filter he, hv⟩

theorem fragmentKeysOnce_of_ofValue {v : Value} (hv : v.keysOnce = true) {f : Fragment Value}
    (hf : Fragment.ofValue v = .ok f) : Value.fragmentKeysOnce f = true := by
  have hsequence : ∀ items, Value.allKeysOnce items = true →
      (Fragment.ofValue (.list items) = .ok f ∨ Fragment.ofValue (.tuple items) = .ok f) →
      Value.fragmentKeysOnce f = true := by
    rintro (_ | ⟨item, params⟩) hitems hf
    · rcases hf with hf | hf <;> cases hf <;> rfl
    · rw [Value.allKeysOnce, Bool.and_eq_true] at hitems
      cases item <;> rcases hf with hf | hf <;> cases hf <;> exact hitems.2
  cases v
  case fragment g =>
    cases hf
    exact hv
  case list items => exact hsequence items hv (Or.inl hf)
  case tuple items => exact hsequence items hv (Or.inr hf)
  all_goals cases hf <;> rfl

theorem keysOnce_of_mem_includeNames {v n : Value} (hv : v.keysOnce = true) (hn : n ∈ includeNames v) :
    n.keysOnce = true := by
  cases v
  case dict entries =>
    obtain ⟨e, he, rfl⟩ := List.mem_map.mp hn
    exact (Value.mem_entriesKeysOnce hv he).1
  case list | tuple | set => exact Value.mem_allKeysOnce hv hn
  all_goals
    rw [List.mem_singleton.mp hn]
    exact hv

variable {entries : List (Value × Value)}

/-- The fragments of a map equal themselves. -/
theorem fragments_self (h : Value.entriesKeysOnce entries = true) {key : String}
    {fs : List (Fragment Value)} (hfs : fragments entries key = .ok fs) {f : Fragment Value}
    (hf : f ∈ fs) : Value.sameFragment? f f = some true := by
  obtain ⟨-, v, hv, hbuilt⟩ := exists_of_mem_fragments hfs hf
  obtain ⟨e, he, rfl⟩ := mem_of_mem_contributions hv
  exact Value.sameFragment?_self f
    (fragmentKeysOnce_of_ofValue (Value.mem_entriesKeysOnce h he).2 hbuilt)

/-- The names of a map equal themselves. -/
theorem includeNames_self (h : Value.entriesKeysOnce entries = true) {key : String} {n : Value}
    (hn : n ∈ (contributions entries key).flatMap includeNames) : Value.same? n n = some true := by
  obtain ⟨v, hv, hn⟩ := List.mem_flatMap.mp hn
  obtain ⟨e, he, rfl⟩ := mem_of_mem_contributions hv
  exact Value.same?_self n
    (keysOnce_of_mem_includeNames (Value.mem_entriesKeysOnce h he).2 hn)

/-! ## Clauses with a repetition -/

variable {before between behind : List (Value × Value)}

/-- If fragments can be read, then those of a part can, and they are among them. -/
theorem fragments_part {key : String} {fs : List (Fragment Value)}
    (h : fragments (before ++ (entries ++ between)) key = .ok fs) :
    ∃ gs, fragments entries key = .ok gs ∧ gs ⊆ fs := by
  rw [fragments_append, fragments_append] at h
  obtain ⟨first, -, h⟩ := bind_eq_ok_iff.mp h
  obtain ⟨rest, hrest, h⟩ := bind_eq_ok_iff.mp h
  obtain ⟨gs, hgs, hrest⟩ := bind_eq_ok_iff.mp hrest
  obtain ⟨last, -, hrest⟩ := bind_eq_ok_iff.mp hrest
  cases h
  cases hrest
  exact ⟨gs, hgs, fun g hg => List.mem_append_right _ (List.mem_append_left _ hg)⟩

/-- Fragments that are given once more add nothing. -/
theorem distinctFragments_repeated (h : Value.entriesKeysOnce entries = true) (key : String) :
    distinctFragments (before ++ (entries ++ between) ++ (entries ++ behind)) key =
      distinctFragments (before ++ (entries ++ between) ++ behind) key := by
  rw [distinctFragments, distinctFragments, fragments_append _ (entries ++ behind),
    fragments_append entries, fragments_append _ behind]
  cases hfs : fragments (before ++ (entries ++ between)) key with
  | error e => rfl
  | ok fs =>
    obtain ⟨gs, hgs, hsubset⟩ := fragments_part hfs
    rw [hgs, ok_bind, ok_bind, ok_bind]
    cases fragments behind key with
    | error e => rfl
    | ok hs =>
      have hkept : Value.distinctBy Value.sameFragment? [] (fs ++ (gs ++ hs)) =
          Value.distinctBy Value.sameFragment? [] (fs ++ hs) :=
        Value.distinctBy_repeated hsubset fun g hg => fragments_self h hgs hg
      simp only [ok_bind, pure, Except.pure, Fragment.distinct, hkept]

/-- Values that stand in front already bring no names. -/
theorem includedNames_append_part {vs us ws : List Value} (hsubset : us ⊆ vs)
    (hself : ∀ n ∈ us.flatMap includeNames, Value.same? n n = some true) :
    includedNames (vs ++ (us ++ ws)) = includedNames (vs ++ ws) := by
  have hempty : (vs ++ (us ++ ws)).isEmpty = (vs ++ ws).isEmpty := by
    cases vs with
    | nil => rw [List.subset_nil.mp hsubset, List.nil_append]
    | cons v vs => rfl
  have hnames : us.flatMap includeNames ⊆ vs.flatMap includeNames := by
    intro n hn
    obtain ⟨u, hu, hn⟩ := List.mem_flatMap.mp hn
    exact List.mem_flatMap.mpr ⟨u, hsubset hu, hn⟩
  have hkept : Value.distinct? ((vs ++ (us ++ ws)).flatMap includeNames) =
      Value.distinct? ((vs ++ ws).flatMap includeNames) := by
    simp only [Value.distinct?, List.flatMap_append]
    exact Value.distinctBy_repeated hnames hself
  rw [includedNames, hempty, hkept, includedNames]

/-- So do names of what is included. -/
theorem includedNames_repeated (h : Value.entriesKeysOnce entries = true) (key : String) :
    includedNames (contributions (before ++ (entries ++ between) ++ (entries ++ behind)) key) =
      includedNames (contributions (before ++ (entries ++ between) ++ behind) key) := by
  rw [contributions_append _ (entries ++ behind), contributions_append entries,
    contributions_append _ behind]
  refine includedNames_append_part (fun v hv => ?_) fun n hn => includeNames_self h hn
  rw [contributions_append, contributions_append]
  exact List.mem_append_right _ (List.mem_append_left _ hv)

/-! ## The order of the rows -/

/-- Fragments that can be read are those that are given. -/
theorem fragments_eq_given {key : String} {fs : List (Fragment Value)}
    (h : fragments entries key = .ok fs) : fs = givenIn entries key := by
  have hbuilds : ∀ e ∈ entries, e.1.text? = some key → isBlank e.2 = false →
      ∃ f, Fragment.ofValue e.2 = .ok f := by
    intro e he hkey hblank
    obtain ⟨all, hall, -⟩ := bind_eq_ok_iff.mp h
    have hmem : e.2 ∈ contributions entries key :=
      List.mem_map.mpr ⟨e, List.mem_filter.mpr ⟨he, by simp [hkey, hblank]⟩, rfl⟩
    obtain ⟨f, -, hf⟩ := exists_image_of_mapM_eq_ok hall hmem
    exact ⟨f, hf⟩
  rw [fragments_eq_ok hbuilds] at h
  exact (Except.ok.inj h).symm

/-- Entries are those of the mapping. -/
theorem entriesOf_eq_ok {m : Value} (h : entriesOf m = .ok entries) : entries = m.entries?.getD [] := by
  cases m <;> cases h <;> rfl

/-- What is gathered are the entries of all maps. -/
theorem gather_eq_ok {maps : List Value} (h : gather maps = .ok entries) : entries = allEntries maps := by
  induction maps generalizing entries with
  | nil =>
    cases h
    rfl
  | cons m maps ih =>
    rw [← List.singleton_append, gather_append, gather_singleton] at h
    obtain ⟨es, hes, h⟩ := bind_eq_ok_iff.mp h
    obtain ⟨rest, hrest, h⟩ := bind_eq_ok_iff.mp h
    cases h
    rw [allEntries, List.flatMap_cons, ih hrest, entriesOf_eq_ok hes, allEntries]

/-- The same option-map, but for the fragments that order the rows. -/
def orderedBy (o : FindOptions) (fs : List (Fragment Value)) : FindOptions :=
  { o with order := joinSome ", " false fs }

/-- A merge orders its rows by all fragments that are given for it. -/
theorem order_eq {base : Base} {o : FindOptions} (h : mergeEntries base entries = .ok o) :
    fragments entries "order" = .ok (givenIn entries "order") ∧
      o.order = joinSome ", " false (givenIn entries "order") := by
  obtain ⟨_, -, h⟩ := bind_eq_ok_iff.mp h
  obtain ⟨_, -, h⟩ := bind_eq_ok_iff.mp h
  obtain ⟨_, -, h⟩ := bind_eq_ok_iff.mp h
  obtain ⟨_, -, h⟩ := bind_eq_ok_iff.mp h
  obtain ⟨_, -, h⟩ := bind_eq_ok_iff.mp h
  obtain ⟨_, -, h⟩ := bind_eq_ok_iff.mp h
  obtain ⟨order, horder, h⟩ := bind_eq_ok_iff.mp h
  obtain ⟨_, -, h⟩ := bind_eq_ok_iff.mp h
  cases h
  rw [← fragments_eq_given horder]
  exact ⟨horder, rfl⟩

/-- Entries that differ in the order of the rows only are merged alike but for it. -/
theorem mergeEntries_reordered {es fs : List (Value × Value)} (base : Base)
    (hnames : includedNames (contributions es "include") = includedNames (contributions fs "include"))
    (hdistinct : ∀ key ∈ distinctKeys, distinctFragments es key = distinctFragments fs key)
    {first last : List (Fragment Value)} (hfirst : fragments es "order" = .ok first)
    (hlast : fragments fs "order" = .ok last) :
    mergeEntries base es = (mergeEntries base fs).map (·.orderedBy first) := by
  -- The two merges take the same steps, and differ in the fragments of the order only.
  rw [mergeEntries, hnames, hdistinct "conditions" (by decide), hdistinct "joins" (by decide),
    hdistinct "having" (by decide), hdistinct "group" (by decide), hdistinct "select" (by decide),
    hfirst, mergeEntries, hlast]
  cases distinctFragments fs "conditions" with
  | error e => rfl
  | ok conditions =>
  cases includedNames (contributions fs "include") with
  | error e => rfl
  | ok includes =>
  cases distinctFragments fs "joins" with
  | error e => rfl
  | ok joins =>
  cases distinctFragments fs "having" with
  | error e => rfl
  | ok having =>
  cases distinctFragments fs "group" with
  | error e => rfl
  | ok contributed =>
  simp only [ok_bind]
  cases groupsFor base contributed having with
  | error e => rfl
  | ok groups =>
  cases distinctFragments fs "select" with
  | error e => rfl
  | ok select => rfl

theorem eq_text_of_text? {k : Value} {key : String} (h : k.text? = some key) : k = .text key := by
  cases k <;> cases h
  rfl

/-- A clause has at most one fragment from a map with each key once. -/
theorem length_givenIn_le_one (h : Value.entriesKeysOnce entries = true) (key : String) :
    (givenIn entries key).length ≤ 1 := by
  induction entries with
  | nil => exact Nat.zero_le 1
  | cons e entries ih =>
    obtain ⟨k, v⟩ := e
    rw [Value.entriesKeysOnce, Bool.and_eq_true, Bool.and_eq_true] at h
    obtain ⟨⟨-, hfresh⟩, hrest⟩ := h
    rw [givenIn, List.filterMap_cons]
    by_cases hkey : k.text? = some key
    · have hnone : givenIn entries key = [] := by
        refine List.filterMap_eq_nil_iff.mpr fun f hf => if_neg fun htext => ?_
        have hdiffer := List.all_eq_true.mp hfresh f hf
        rw [eq_text_of_text? hkey, eq_text_of_text? htext, Value.same,
          Value.same?_self (.text key) rfl] at hdiffer
        cases hdiffer
      rw [givenIn] at hnone
      rw [hnone]
      split <;> simp
    · rw [if_neg hkey]
      exact ih hrest

/-- What is given in two lists is given in one and then in the other. -/
theorem givenIn_append (es fs : List (Value × Value)) (key : String) :
    givenIn (es ++ fs) key = givenIn es key ++ givenIn fs key :=
  List.filterMap_append

theorem given_append (maps more : List Value) (key : String) :
    given (maps ++ more) key = given maps key ++ given more key := by
  rw [given, allEntries, List.flatMap_append, givenIn_append]
  rfl

/-- The fragments can be read with the repetition if they can be read without it. -/
theorem fragments_repeated (before entries between behind : List (Value × Value)) (key : String) :
    fragments (before ++ (entries ++ between) ++ (entries ++ behind)) key =
      (fragments (before ++ (entries ++ between) ++ behind) key).map fun _ =>
        givenIn (before ++ (entries ++ between) ++ (entries ++ behind)) key := by
  rw [fragments_append _ (entries ++ behind), fragments_append entries, fragments_append _ behind]
  cases hfirst : fragments (before ++ (entries ++ between)) key with
  | error e => rfl
  | ok first =>
    obtain ⟨again, hagain, -⟩ := fragments_part hfirst
    rw [hagain]
    cases hlast : fragments behind key with
    | error e => rfl
    | ok last =>
      rw [givenIn_append, givenIn_append entries behind, ← fragments_eq_given hfirst,
        ← fragments_eq_given hagain, ← fragments_eq_given hlast]
      rfl

/-- Entries that are given once more change nothing but the order of clauses. -/
theorem mergeEntries_repeated (h : Value.entriesKeysOnce entries = true) (base : Base) :
    mergeEntries base (before ++ (entries ++ between) ++ (entries ++ behind)) =
      (mergeEntries base (before ++ (entries ++ between) ++ behind)).map (·.orderedBy
        (givenIn (before ++ (entries ++ between) ++ (entries ++ behind)) "order")) := by
  have horder := fragments_repeated before entries between behind "order"
  cases honce : fragments (before ++ (entries ++ between) ++ behind) "order" with
  | ok last =>
    rw [honce] at horder
    exact mergeEntries_reordered base (includedNames_repeated h _)
      (fun key _ => distinctFragments_repeated h key) horder honce
  | error e =>
    -- Without a fragment that can be read there is no result, and the failures are the same.
    have hsame := mergeEntries_congr base (includedNames_repeated h _)
      (fun key _ => distinctFragments_repeated h key) (by rw [horder, honce]; rfl)
    rw [hsame]
    cases hmerge : mergeEntries base (before ++ (entries ++ between) ++ behind) with
    | error e => rfl
    | ok o =>
      rw [(order_eq hmerge).1] at honce
      cases honce

/-- The entries of a map are a part of all that is gathered. -/
theorem exists_part {front between : List Value} {m : Value} {all : List (Value × Value)}
    (h : gather (front ++ m :: between) = .ok all) :
    ∃ before entries between, gather [m] = .ok entries ∧ all = before ++ (entries ++ between) := by
  change gather (front ++ ([m] ++ between)) = _ at h
  rw [gather_append, gather_append] at h
  obtain ⟨before, -, h⟩ := bind_eq_ok_iff.mp h
  obtain ⟨rest, hrest, h⟩ := bind_eq_ok_iff.mp h
  obtain ⟨entries, hentries, hrest⟩ := bind_eq_ok_iff.mp hrest
  obtain ⟨between, -, hrest⟩ := bind_eq_ok_iff.mp hrest
  cases h
  cases hrest
  exact ⟨before, entries, between, hentries, rfl⟩

/-- **Repeating a map changes nothing but the order of the rows.** A map that is given again behind its
first occurrence leaves every failure of a merge as it is, and every clause of its result but the
orderings. Those get the map's own ordering, if it has one, a second time, at the place of the
repetition. -/
theorem merge_repeated {m : Value} (hm : m.keysOnce = true) (base : Base)
    (front between back : List Value) :
    let once := front ++ m :: between
    merge base (once ++ m :: back) = (merge base (once ++ back)).map
        (·.orderedBy (given once "order" ++ (given [m] "order" ++ given back "order"))) ∧
      (∀ o, merge base (once ++ back) = .ok o →
        o.order = joinSome ", " false (given once "order" ++ given back "order")) ∧
      (given [m] "order").length ≤ 1 := by
  intro once
  have hkeys : Value.entriesKeysOnce (m.entries?.getD []) = true := by
    cases m
    case dict entries => exact hm
    all_goals rfl
  refine ⟨?_, fun o ho => ?_, ?_⟩
  · change merge base (once ++ ([m] ++ back)) = _
    rw [merge_eq, merge_eq, gather_append once back, gather_append once ([m] ++ back),
      gather_append [m]]
    -- What is gathered before the repeated map fails on both sides alike.
    cases honce : gather once with
    | error e => rfl
    | ok first =>
    obtain ⟨before, entries, between, hentries, rfl⟩ := exists_part honce
    rw [hentries]
    cases hback : gather back with
    | error e => rfl
    | ok behind =>
      have hgiven : given once "order" ++ (given [m] "order" ++ given back "order") =
          givenIn (before ++ (entries ++ between) ++ (entries ++ behind)) "order" := by
        rw [givenIn_append, givenIn_append entries behind, gather_eq_ok honce, gather_eq_ok hentries,
          gather_eq_ok hback]
        rfl
      rw [hgiven, gather_eq_ok hentries, allEntries, List.flatMap_singleton]
      exact mergeEntries_repeated hkeys base
  · rw [merge_eq] at ho
    obtain ⟨entries, hentries, ho⟩ := bind_eq_ok_iff.mp ho
    rw [(order_eq ho).2, gather_eq_ok hentries, ← given_append]
    rfl
  · have h := length_givenIn_le_one hkeys "order"
    rwa [given, allEntries, List.flatMap_singleton]

/-- A condition on a NaN, a `having` clause and a name stay as they are; the ordering is written again. -/
theorem merge_repeated_nan :
    let m : Value := .dictOf [(.text "conditions", .tuple [.text "x = ?", .float (.nan 2)]),
      (.text "having", .text "COUNT(*) > 1"), (.text "include", .list [.text "a"]),
      (.text "order", .text "y")]
    let front : List Value := [.null, m, .dict [(.text "order", .list [.text "z"])]]
    let back : List Value := [.dict [(.text "order", .text "w"), (.text "joins", .text "JOIN u")]]
    let base : Base := ⟨some "t", some "id"⟩
    let merged : FindOptions := {
      conditions := some { sql := "(x = ?)", params := [.float (.nan 2)] }
      includes := some [.text "a"]
      joins := some { sql := "JOIN u" }
      group := some { sql := "t.id HAVING (COUNT(*) > 1)" }
      order := some { sql := "y, z, w" }
      select := some { sql := "DISTINCT t.*" } }
    m.keysOnce = true ∧ merge base (front ++ back) = .ok merged ∧
      merge base (front ++ m :: back) = .ok { merged with order := some { sql := "y, z, y, w" } } := by
  intro m front back base merged
  have hkeys : m.keysOnce = true :=
    Value.keysOnce_dictOf (by simp [Value.keysOnce, Value.allKeysOnce])
  -- No two keys are the same, so the mapping has the entries as they are given.
  have hm : m = .dict [(.text "conditions", .tuple [.text "x = ?", .float (.nan 2)]),
      (.text "having", .text "COUNT(*) > 1"), (.text "include", .list [.text "a"]),
      (.text "order", .text "y")] := by
    simp [m, Value.dictOf, Value.mergedEntries, Value.insertEntry, Value.same_text]
  have honce : merge base (front ++ back) = .ok merged := by
    simp only [front, hm]
    rfl
  obtain ⟨hagain, -, -⟩ :=
    merge_repeated hkeys base [.null] [.dict [(.text "order", .list [.text "z"])]] back
  refine ⟨hkeys, honce, hagain.trans ?_⟩
  change (merge base (front ++ back)).map _ = _
  rw [honce, hm]
  rfl

end FindOptions

end SearchQuery
