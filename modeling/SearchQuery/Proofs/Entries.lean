import Mathlib.Data.List.Induction
import SearchQuery.Entries

/-!
# Tables of entries

A table that is written entry by entry has one entry for each key. What is found for a key is what was written
last for it (`lookup_foldl_putEntry`), and the keys stand in the order in which they were written first
(`map_fst_foldl_putEntry`). This tells the table, since its keys are all different (`eq_of_lookup_eq`).
-/

namespace SearchQuery

variable {α : Type}

/-- An entry that is found is there. -/
theorem mem_of_lookup {entries : List (String × α)} {key : String} {value : α}
    (h : entries.lookup key = some value) : (key, value) ∈ entries := by
  obtain ⟨front, back, rfl, -⟩ := List.lookup_eq_some_iff.mp h
  simp

/-- Nothing is in a table but what was there and what is written. -/
theorem mem_putEntry {entries : List (String × α)} {key : String} {value : α}
    {e : String × α} (h : e ∈ putEntry entries key value) : e ∈ entries ∨ e = (key, value) := by
  rw [putEntry] at h
  split at h
  · obtain ⟨e', he', rfl⟩ := List.mem_map.mp h
    split
    · exact Or.inr rfl
    · exact Or.inl he'
  · simpa using h

/-- What is written last is found. -/
theorem lookup_putEntry (entries : List (String × α)) (key : String) (value : α) :
    (putEntry entries key value).lookup key = some value := by
  rw [putEntry]
  split
  next hkey =>
    induction entries with
    | nil => cases hkey
    | cons e entries ih =>
      rw [List.map_cons]
      by_cases he : e.1 = key
      · simp [he]
      · rw [if_neg (by simpa using he), List.lookup_cons, beq_false_of_ne (Ne.symm he)]
        exact ih (by simpa [he] using hkey)
  next hkey =>
    have hnone : entries.lookup key = none := by
      rw [List.lookup_eq_none_iff]
      intro e he
      rw [bne_iff_ne]
      rintro rfl
      exact hkey (List.any_eq_true.mpr ⟨e, he, by simp⟩)
    rw [List.lookup_append, hnone]
    simp

/-- A table has the keys that it had, and the one that is written. -/
theorem any_putEntry (entries : List (String × α)) (key name : String) (value : α) :
    (putEntry entries key value).any (·.1 == name) = true ↔
      entries.any (·.1 == name) = true ∨ key = name := by
  rw [putEntry]
  split
  next hkey =>
    have hnames : ((entries.map fun e => if e.1 == key then (key, value) else e).any (·.1 == name)) =
        entries.any (·.1 == name) := by
      rw [List.any_map]
      congr 1
      funext e
      by_cases he : e.1 = key
      · simp [he]
      · simp [he]
    rw [hnames, iff_self_or]
    rintro rfl
    exact hkey
  next => simp [List.any_append]

/-- An entry of another key is found as before. -/
theorem lookup_putEntry_ne (entries : List (String × α)) {key name : String} (value : α)
    (h : name ≠ key) : (putEntry entries key value).lookup name = entries.lookup name := by
  rw [putEntry]
  split
  next =>
    clear * - h
    induction entries with
    | nil => rfl
    | cons e entries ih =>
      rw [List.map_cons]
      by_cases he : e.1 = key
      · rw [if_pos (by simpa using he), List.lookup_cons, beq_false_of_ne h, List.lookup_cons, he,
          beq_false_of_ne h]
        exact ih
      · rw [if_neg (by simpa using he), List.lookup_cons, List.lookup_cons, ih]
  next =>
    rw [List.lookup_append, List.lookup_cons, beq_false_of_ne h]
    exact Option.or_none

/-- Leaving out entries of other keys changes nothing of what is found. -/
theorem lookup_filter (entries : List (String × α)) {p : String × α → Bool} {key : String}
    (h : ∀ value, p (key, value) = true) : (entries.filter p).lookup key = entries.lookup key := by
  induction entries with
  | nil => rfl
  | cons e entries ih =>
    by_cases he : key = e.1
    · subst he
      rw [List.filter_cons_of_pos (h e.2), List.lookup_cons, List.lookup_cons, beq_self_eq_true]
    · rw [List.lookup_cons, beq_false_of_ne he, List.filter_cons]
      split
      next => rw [List.lookup_cons, beq_false_of_ne he]; exact ih
      next => exact ih

/-! ## Tables that are written entry by entry -/

/-- What was written last for a key is found. -/
theorem lookup_foldl_putEntry (values named : List (String × α)) (key : String) :
    (values.foldl (fun named p => putEntry named p.1 p.2) named).lookup key =
      (values.reverse.lookup key).or (named.lookup key) := by
  induction values generalizing named with
  | nil => rfl
  | cons p values ih =>
    obtain ⟨other, value⟩ := p
    rw [List.foldl_cons, ih, List.reverse_cons, List.lookup_append, Option.or_assoc]
    congr 1
    by_cases hkey : key = other
    · rw [hkey, lookup_putEntry, List.lookup_cons, beq_self_eq_true]
      rfl
    · rw [lookup_putEntry_ne _ _ hkey, List.lookup_cons, beq_false_of_ne hkey]
      rfl

/-- A new key comes last, and any other one keeps its place. -/
theorem map_fst_putEntry (entries : List (String × α)) (key : String) (v : α) :
    (putEntry entries key v).map (·.1) =
      if key ∈ entries.map (·.1) then entries.map (·.1) else entries.map (·.1) ++ [key] := by
  have hany : entries.any (·.1 == key) = true ↔ key ∈ entries.map (·.1) := by
    rw [List.any_eq_true, List.mem_map]
    simp only [beq_iff_eq]
  rw [putEntry]
  split
  next h =>
    rw [if_pos (hany.mp h), List.map_map]
    refine List.map_congr_left fun e _ => ?_
    by_cases he : e.1 = key
    · simp [he]
    · simp [he]
  next h => rw [if_neg (mt hany.mpr h), List.map_append, List.map_cons, List.map_nil]

/-- Each key has one entry, at the place where it was written first. -/
theorem map_fst_foldl_putEntry (values : List (String × α)) :
    (values.foldl (fun named p => putEntry named p.1 p.2) []).map (·.1) = (values.map (·.1)).eraseDups := by
  -- A new entry is written behind the others, so the induction takes the last one off.
  induction values using List.reverseRecOn with
  | nil => rfl
  | append_singleton values p ih =>
    rw [List.foldl_append, List.foldl_cons, List.foldl_nil, map_fst_putEntry, ih, List.map_append,
      List.eraseDups_append]
    by_cases hp : p.1 ∈ values.map (·.1)
    · rw [if_pos (List.mem_eraseDups.mpr hp)]
      simp [List.removeAll, hp]
    · rw [if_neg (mt List.mem_eraseDups.mp hp)]
      simp [List.removeAll, hp, List.eraseDups_cons]

/-- No name is left twice. -/
theorem nodup_eraseDups (names : List String) : names.eraseDups.Nodup := by
  -- What follows the first name is filtered before its duplicates are erased.
  induction hlength : names.length using Nat.strongRecOn generalizing names with
  | _ n ih =>
    cases names with
    | nil => exact List.nodup_nil
    | cons name names =>
      have hshort : (names.filter fun other => !other == name).length < n := by
        rw [← hlength, List.length_cons, Nat.lt_succ_iff]
        exact List.length_filter_le _ _
      rw [List.eraseDups_cons, List.nodup_cons, List.mem_eraseDups, List.mem_filter]
      exact ⟨by simp, ih _ hshort _ rfl⟩

/-- Entries with the same names in the same order and the same values are the same. -/
theorem eq_of_lookup_eq {es fs : List (String × α)} (hnames : es.map (·.1) = fs.map (·.1))
    (honce : (fs.map (·.1)).Nodup) (hlookup : ∀ name, es.lookup name = fs.lookup name) : es = fs := by
  induction fs generalizing es with
  | nil => simpa using hnames
  | cons f fs ih =>
    cases es with
    | nil => cases hnames
    | cons e es =>
      obtain ⟨key, v⟩ := e
      obtain ⟨key', w⟩ := f
      obtain ⟨rfl, htail⟩ : key = key' ∧ es.map (·.1) = fs.map (·.1) := List.cons_eq_cons.mp hnames
      obtain ⟨hkey, htailOnce⟩ := List.nodup_cons.mp honce
      obtain rfl : v = w := by simpa using hlookup key
      congr 1
      refine ih htail htailOnce fun name => ?_
      by_cases hname : name = key
      · have hnone {gs : List (String × α)} (hgs : key ∉ gs.map (·.1)) : gs.lookup key = none := by
          rw [List.lookup_eq_none_iff]
          intro g hg
          rw [bne_iff_ne]
          rintro rfl
          exact hgs (List.mem_map_of_mem hg)
        rw [hname, hnone hkey, hnone (htail ▸ hkey)]
      · have hboth := hlookup name
        rwa [List.lookup_cons, List.lookup_cons, beq_false_of_ne hname] at hboth

end SearchQuery
