import SearchQuery.Proofs.Merge.Kept

/-!
# The entries of a merge

A merge looks at its option-maps only through their entries, and at the entries only key by key.
`merge_eq` says so: once the entries are put one behind the other (`gather`), the outcome is a function
of the fragments of each clause and of the names to load, in the order in which their failures count.

## Shape of the splits

What is read out of two lists of maps, or of entries, is read out of the first one and then out of the
second one (`gather_append`, `fragments_append`, `contributions_append`); reading stops at the first part
that fails.
-/

namespace SearchQuery.FindOptions

/-- The merge of the entries of all option-maps. -/
def mergeEntries (base : Base) (entries : List (Value × Value)) : Except Failure FindOptions := do
  let conditions ← distinctFragments entries "conditions"
  let includes ← includedNames (contributions entries "include")
  let joins ← distinctFragments entries "joins"
  let having ← distinctFragments entries "having"
  let contributed ← distinctFragments entries "group"
  let groups ← groupsFor base contributed having
  let order ← fragments entries "order"
  let select ← distinctFragments entries "select"
  return {
    conditions := joinSome " AND " true conditions
    includes
    joins := joinSome " " false joins
    group := groupClause groups having
    order := joinSome ", " false order
    select := selectClause base select joins }

/-- The entries of all option-maps, one behind the other. -/
def gather (maps : List Value) : Except Failure (List (Value × Value)) :=
  (maps.mapM entriesOf).map List.flatten

/-- Options are merged by their entries. -/
theorem merge_eq (base : Base) (maps : List Value) :
    merge base maps = gather maps >>= mergeEntries base := by
  rw [merge, gather]
  cases maps.mapM entriesOf with
  | error e => rfl
  | ok lists =>
    simp only [ok_bind, Except.map, mergeEntries, distinctFragments, bind_assoc]

theorem gather_singleton (m : Value) : gather [m] = entriesOf m := by
  rw [gather, List.mapM_cons]
  cases entriesOf m with
  | error e => rfl
  | ok entries => exact congrArg Except.ok (List.append_nil entries)

theorem gather_append (front back : List Value) :
    gather (front ++ back) =
      (do
        let before ← gather front
        let behind ← gather back
        return before ++ behind) := by
  rw [gather, List.mapM_append]
  unfold gather
  cases front.mapM entriesOf with
  | error e => rfl
  | ok before =>
    cases back.mapM entriesOf with
    | error e => rfl
    | ok behind => exact congrArg Except.ok List.flatten_append

/-! ## Entries in two parts -/

theorem contributions_append (es fs : List (Value × Value)) (key : String) :
    contributions (es ++ fs) key = contributions es key ++ contributions fs key := by
  rw [contributions, List.filter_append, List.map_append]
  rfl

theorem fragments_append (es fs : List (Value × Value)) (key : String) :
    fragments (es ++ fs) key =
      (do
        let front ← fragments es key
        let back ← fragments fs key
        return front ++ back) := by
  rw [fragments, contributions_append, List.mapM_append]
  unfold fragments
  cases (contributions es key).mapM Fragment.ofValue with
  | error e => rfl
  | ok front =>
    cases (contributions fs key).mapM Fragment.ofValue with
    | error e => rfl
    | ok back => exact congrArg Except.ok (List.filter_append _ _)

/-- Entries with the same clauses and the same names to load are merged alike. -/
theorem mergeEntries_congr {es fs : List (Value × Value)} (base : Base)
    (hnames : includedNames (contributions es "include") = includedNames (contributions fs "include"))
    (hdistinct : ∀ key ∈ distinctKeys, distinctFragments es key = distinctFragments fs key)
    (horder : fragments es "order" = fragments fs "order") :
    mergeEntries base es = mergeEntries base fs := by
  rw [mergeEntries, hnames, hdistinct "conditions" (by decide), hdistinct "joins" (by decide),
    hdistinct "having" (by decide), hdistinct "group" (by decide), hdistinct "select" (by decide),
    horder]
  rfl

end SearchQuery.FindOptions
