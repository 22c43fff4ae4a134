import Mathlib.Data.List.Induction
import Mathlib.Data.List.Nodup
import SearchQuery.Proofs.Placeholder.Numbered

/-!
# Binding parameters

`Bound.ofFragment` binds the `i`-th parameter to the name `pi`. The binding is exact when a database
that reads the numbered text finds these names and no others, each in the place of its placeholder.

## Shape of the names

`names_numbered` reads the names off the numbered text: a placeholder behind a colon or a backslash
has none (`IsSigned`), and any other one has its own name and the run of word characters that
follows. So a longer name may be found where `p1` was meant, `p10` for instance, and the question is
whether it can stand in for the name of another placeholder. It cannot: a name that starts another
one belongs to an earlier placeholder, and the first placeholder without its own name is missed
(`all_named_iff`).
-/

namespace SearchQuery.Statement

open SearchQuery.Text

/-- Position `k` of a text follows a colon or a backslash. -/
def IsSigned (cs : List Char) (k : ℕ) : Prop :=
  (cs.take k).getLast? = some ':' ∨ (cs.take k).getLast? = some '\\'

instance (cs : List Char) : DecidablePred (IsSigned cs) := fun _ =>
  inferInstanceAs (Decidable (_ ∨ _))

/-- A name at position `k` of a text runs into what stands around it. -/
def Clashes (cs : List Char) (k : ℕ) : Prop :=
  IsSigned cs k ∨ (cs.drop (k + 1)).head?.any isWordChar = true

instance (cs : List Char) : DecidablePred (Clashes cs) := fun _ =>
  inferInstanceAs (Decidable (_ ∨ _))

/-- The number of placeholders in front of position `k`. -/
def indexAt (cs : List Char) (k : ℕ) : ℕ :=
  (placeholders (cs.take k)).length

/-- The name that is found for the placeholder at position `k`. -/
def foundAt (cs : List Char) (k : ℕ) : Option (List Char) :=
  if IsSigned cs k then none
  else some (placeholderName (indexAt cs k) ++ (cs.drop (k + 1)).takeWhile isWordChar)

/-! ## Reading past a name -/

theorem drop_length_takeWhile (p : Char → Bool) (cs : List Char) :
    cs.drop (cs.takeWhile p).length = cs.dropWhile p := by
  calc cs.drop (cs.takeWhile p).length
      = (cs.takeWhile p ++ cs.dropWhile p).drop (cs.takeWhile p).length := by
        rw [List.takeWhile_append_dropWhile]
    _ = cs.dropWhile p := List.drop_left

/-- No name starts in text without a colon. -/
theorem names_append {front : List Char} (h : ':' ∉ front) (before : Option Char)
    (cs : List Char) : names before (front ++ cs) = names (front.getLast?.or before) cs := by
  induction front generalizing before with
  | nil => simp
  | cons c front ih =>
    rw [List.mem_cons, not_or] at h
    obtain ⟨hc, hfront⟩ := h
    have hcolon : (c == ':') = false := by simpa using Ne.symm hc
    rw [List.cons_append, names, hcolon, ih hfront, List.getLast?_cons]
    cases front.getLast? <;> simp

theorem withNames_append (fill : List Char → List Char) (front : List Char)
    (before : Option Char) (cs : List Char) :
    withNames fill front.length before (front ++ cs) =
      withNames fill 0 (front.getLast?.or before) cs := by
  induction front generalizing before with
  | nil => simp
  | cons c front ih =>
    rw [List.cons_append, List.length_cons, withNames, ih, List.getLast?_cons]
    cases front.getLast? <;> simp

/-- A backslash only escapes a colon. -/
theorem unescape_cons {c : Char} {cs : List Char} (h : ¬ (c = '\\' ∧ cs.head? = some ':')) :
    unescape (c :: cs) = c :: unescape cs := by
  cases cs with
  | nil => simp [unescape]
  | cons d cs =>
    rw [unescape]
    rintro ds rfl hd
    exact h ⟨rfl, by rw [hd, List.head?_cons]⟩

/-- Text without a backslash stays as it is. -/
theorem unescape_append {front : List Char} (h : '\\' ∉ front) (cs : List Char) :
    unescape (front ++ cs) = front ++ unescape cs := by
  induction front with
  | nil => rfl
  | cons c front ih =>
    rw [List.mem_cons, not_or] at h
    obtain ⟨hc, hfront⟩ := h
    rw [List.cons_append, unescape_cons fun hs => hc hs.1.symm, ih hfront, List.cons_append]

/-- Read past a placeholder, which is set apart or not. -/
theorem names_spaced (spaced : Prop) [Decidable spaced] (last : Option Char) (n : ℕ)
    (cs : List Char) :
    names last ((if spaced then [' '] else []) ++ (named n ++ cs)) =
      (nameAt? (if spaced then some ' ' else last) (placeholderName n ++ cs)).toList ++
        names (placeholderName n).getLast? cs := by
  obtain ⟨c, hc, -⟩ := getLast?_placeholderName n
  have hpast : ∀ before, names before (placeholderName n ++ cs) =
      names (placeholderName n).getLast? cs := fun before => by
    rw [names_append (not_mem_placeholderName (by decide)), hc, Option.some_or]
  by_cases h : spaced
  · rw [if_pos h, if_pos h, List.singleton_append, names, named, List.cons_append, names]
    cases nameAt? (some ' ') (placeholderName n ++ cs) <;> simp [hpast]
  · rw [if_neg h, if_neg h, List.nil_append, named, List.cons_append, names]
    cases nameAt? last (placeholderName n ++ cs) <;> simp [hpast]

/-- Fill a placeholder, which is set apart or not. -/
theorem withNames_spaced (fill : List Char → List Char) (spaced : Prop) [Decidable spaced]
    {last : Option Char} {n : ℕ} {cs : List Char}
    (h : nameAt? (if spaced then some ' ' else last) (placeholderName n ++ cs) =
      some (placeholderName n)) :
    withNames fill 0 last ((if spaced then [' '] else []) ++ (named n ++ cs)) =
      (if spaced then [' '] else []) ++ (fill (placeholderName n) ++
        withNames fill 0 (placeholderName n).getLast? cs) := by
  obtain ⟨c, hc, -⟩ := getLast?_placeholderName n
  have hpast : withNames fill (placeholderName n).length (some ':') (placeholderName n ++ cs) =
      withNames fill 0 (placeholderName n).getLast? cs := by
    rw [withNames_append, hc, Option.some_or]
  by_cases hs : spaced
  · rw [if_pos hs] at h ⊢
    rw [List.singleton_append, withNames, named, List.cons_append, withNames]
    simp [h, hpast]
  · rw [if_neg hs] at h ⊢
    rw [List.nil_append, named, List.cons_append, withNames]
    simp [h, hpast]

/-! ## The names of the numbered text -/

/-- The name that is found at a placeholder behind `front`. -/
theorem nameAt?_numbered {front : List Char} {c : Char} {last : Option Char}
    (ht : Trails front last) (h : c = '?' ∧ Even (front.count apostrophe)) (n : ℕ)
    (cs : List Char) :
    nameAt? (if IsSetApart front front.length then some ' ' else last)
        (placeholderName n ++
          numbered (quotedAfter (front ++ [c])) (placeholderName n).getLast? (n + 1) cs) =
      if front.getLast? = some ':' ∨ front.getLast? = some '\\' then none
      else some (placeholderName n ++ cs.takeWhile isWordChar) := by
  have ht' := Trails.placeholder h n
  have hset := (isSetApart_concat front c).mpr (Or.inr h)
  set rest := numbered (quotedAfter (front ++ [c])) (placeholderName n).getLast? (n + 1) cs
    with hrest
  have hrun : (placeholderName n ++ rest).takeWhile isWordChar =
      placeholderName n ++ cs.takeWhile isWordChar := by
    rw [List.takeWhile_append_of_pos fun c hc => isWordChar_of_mem_placeholderName hc,
      takeWhile_numbered ht' hset]
  -- A colon of the text itself is escaped, and that of a placeholder right behind is set apart.
  have hnext : ((placeholderName n ++ rest).drop
      (placeholderName n ++ cs.takeWhile isWordChar).length).head? ≠ some ':' := fun hcolon => by
    rw [← hrun, drop_length_takeWhile,
      List.dropWhile_append_of_pos fun c hc => isWordChar_of_mem_placeholderName hc] at hcolon
    exact (head?_dropWhile_numbered ht' hcolon).2 hset
  have hne : (placeholderName n ++ cs.takeWhile isWordChar).isEmpty = false := rfl
  -- What is set apart follows a space; anything else follows what its text does, and no word.
  have hbefore : (if IsSetApart front front.length then some ' ' else last).any
      (fun b => b == ':' || b == '\\' || isWordChar b) = true ↔
      (front.getLast? = some ':' ∨ front.getLast? = some '\\') := by
    by_cases hs : IsSetApart front front.length
    · rw [if_pos hs]
      refine iff_of_false (by decide) ?_
      rintro (hlast | hlast) <;>
      · rw [IsSetApart, List.take_length, hlast] at hs
        rcases hs with hs | ⟨-, hs, -⟩
        · exact absurd hs (by decide)
        · rw [List.getLast?_eq_getElem?] at hlast
          rw [hlast] at hs
          exact absurd (Option.some.inj hs) (by decide)
    · rw [if_neg hs, ← ht.sign]
      have hword : ¬ last.any isWordChar = true := fun hw => hs (ht.word.mp hw)
      cases last with
      | none => simp
      | some b =>
        simp only [Option.any_some] at hword
        simp [hword]
  rw [nameAt?]
  simp only [hrun, hne, Bool.or_false]
  by_cases hsign : front.getLast? = some ':' ∨ front.getLast? = some '\\'
  · rw [if_pos hsign, if_pos (by rw [hbefore.mpr hsign, Bool.true_or])]
  · rw [if_neg hsign, if_neg]
    rw [Bool.or_eq_true, not_or]
    exact ⟨fun hb => hsign (hbefore.mp hb), by simpa using hnext⟩

/-- An escaped character starts no name. -/
theorem names_escaped (last : Option Char) (c : Char) (cs : List Char) :
    names last (escaped c ++ cs) = names (some c) cs := by
  by_cases hcolon : c = ':'
  · subst hcolon
    simp [escaped, names, nameAt?]
  · simp [escaped, hcolon, names]

/-- The names that are found in the numbered text, in order. -/
theorem names_numbered {front : List Char} {last : Option Char} (ht : Trails front last)
    (cs : List Char) :
    (placeholders (front ++ cs)).filterMap (foundAt (front ++ cs)) =
      (placeholders front).filterMap (foundAt (front ++ cs)) ++
        names last (numbered (quotedAfter front) last (placeholders front).length cs) := by
  induction cs generalizing front last with
  | nil => simp [numbered, names]
  | cons c cs ih =>
    have hsplit : front ++ c :: cs = front ++ [c] ++ cs := by simp
    by_cases h : c = '?' ∧ Even (front.count apostrophe)
    · have hfound : (foundAt (front ++ c :: cs) front.length).toList =
          (nameAt? (if IsSetApart front front.length then some ' ' else last)
            (placeholderName (placeholders front).length ++ numbered (quotedAfter (front ++ [c]))
              (placeholderName (placeholders front).length).getLast?
              ((placeholders front).length + 1) cs)).toList := by
        rw [nameAt?_numbered ht h]
        simp only [foundAt, IsSigned, indexAt, List.take_left, List.drop_length_add_append]
        rfl
      rw [numbered_cons_placeholder ht h, names_spaced, ← hfound, ← List.append_assoc, hsplit,
        ih (Trails.placeholder h (placeholders front).length), placeholders_concat, if_pos h,
        List.filterMap_append, List.length_append, List.length_singleton]
      congr 2
    · rw [numbered_cons_other last h, names_escaped, hsplit, ih (Trails.other h),
        placeholders_concat, if_neg h, List.append_nil]

/-! ## Each placeholder has its own name -/

/-- The placeholders are numbered from left to right. -/
theorem map_indexAt_placeholders (cs : List Char) :
    (placeholders cs).map (indexAt cs) = List.range (placeholders cs).length := by
  induction cs using List.reverseRecOn with
  | nil => rfl
  | append_singleton front c ih =>
    have hold : (placeholders front).map (indexAt (front ++ [c])) =
        (placeholders front).map (indexAt front) := by
      refine List.map_congr_left fun k hk => ?_
      have hlt : k < front.length := List.mem_range.mp (List.mem_of_mem_filter hk)
      rw [indexAt, indexAt, List.take_append_of_le_length (Nat.le_of_lt hlt)]
    rw [placeholders_concat, List.map_append, hold, ih]
    by_cases h : c = '?' ∧ Even (front.count apostrophe)
    · rw [if_pos h, List.length_append, List.length_singleton, List.range_succ, List.map_singleton,
        indexAt, List.take_left]
    · rw [if_neg h, List.map_nil, List.append_nil, List.append_nil]

/-- The place of a placeholder is one of them. -/
theorem indexAt_lt {cs : List Char} {k : ℕ} (hk : k ∈ placeholders cs) :
    indexAt cs k < (placeholders cs).length :=
  length_placeholders_take_lt (by simpa using List.of_mem_filter hk)

/-- Each placeholder has a place of its own. -/
theorem indexAt_injOn {cs : List Char} {j k : ℕ} (hj : j ∈ placeholders cs)
    (hk : k ∈ placeholders cs) (h : indexAt cs j = indexAt cs k) : j = k := by
  have hnodup : ((placeholders cs).map (indexAt cs)).Nodup := by
    rw [map_indexAt_placeholders]
    exact List.nodup_range
  exact List.inj_on_of_nodup_map hnodup hj hk h

theorem takeWhile_eq_nil_iff {p : Char → Bool} {cs : List Char} :
    cs.takeWhile p = [] ↔ ¬ cs.head?.any p = true := by
  cases cs with
  | nil => simp
  | cons c cs => by_cases h : p c = true <;> simp [h]

/-- Where nothing clashes the name that is found is that of the place. -/
theorem foundAt_of_not_clashes {cs : List Char} {k : ℕ} (h : ¬ Clashes cs k) :
    foundAt cs k = some (placeholderName (indexAt cs k)) := by
  rw [Clashes, not_or] at h
  rw [foundAt, if_neg h.1, takeWhile_eq_nil_iff.mpr h.2, List.append_nil]

/-- Without clashes the names that are found are those of the placeholders, in order. -/
theorem filterMap_foundAt {cs : List Char} (h : ∀ k ∈ placeholders cs, ¬ Clashes cs k) :
    (placeholders cs).filterMap (foundAt cs) =
      (List.range (placeholders cs).length).map placeholderName := by
  rw [List.filterMap_congr fun k hk => foundAt_of_not_clashes (h k hk),
    ← map_indexAt_placeholders, List.map_map]
  exact congrFun List.filterMap_eq_map' _

/-- Every name is found exactly when none clashes: the first placeholder that clashes is missed,
because a name that could be taken for its own starts with that of an earlier one. -/
theorem all_named_iff (cs : List Char) :
    (∀ i < (placeholders cs).length,
      placeholderName i ∈ (placeholders cs).filterMap (foundAt cs)) ↔
      ∀ k ∈ placeholders cs, ¬ Clashes cs k := by
  constructor
  · intro hall k hk
    -- by strong induction on the number of the placeholder
    induction hi : indexAt cs k using Nat.strong_induction_on generalizing k with
    | _ i ih =>
      obtain ⟨j, hj, hfound⟩ := List.mem_filterMap.mp (hall i (hi ▸ indexAt_lt hk))
      rw [foundAt] at hfound
      by_cases hsign : IsSigned cs j
      · rw [if_pos hsign] at hfound
        cases hfound
      rw [if_neg hsign] at hfound
      have hname := Option.some.inj hfound
      have hle : indexAt cs j ≤ i := le_of_placeholderName_append hname
      -- An earlier placeholder does not clash, so its name is no longer than its own.
      rcases Nat.lt_or_eq_of_le hle with hlt | heq
      · have hclean := ih _ hlt j hj rfl
        rw [Clashes, not_or] at hclean
        rw [takeWhile_eq_nil_iff.mpr hclean.2, List.append_nil] at hname
        exact absurd (placeholderName_injective hname) (Nat.ne_of_lt hlt)
      · obtain rfl := indexAt_injOn hj hk (heq.trans hi.symm)
        rw [heq] at hname
        have hrun := List.append_right_eq_self.mp hname
        exact not_or.mpr ⟨hsign, takeWhile_eq_nil_iff.mp hrun⟩
  · intro hclean i hi
    rw [filterMap_foundAt hclean]
    exact List.mem_map_of_mem (List.mem_range.mpr hi)

/-! ## Filling in and restoring -/

/-- What is escaped is not filled in. -/
theorem withNames_escaped (fill : List Char → List Char) (last : Option Char) (c : Char)
    (cs : List Char) :
    withNames fill 0 last (escaped c ++ cs) = escaped c ++ withNames fill 0 (some c) cs := by
  by_cases hcolon : c = ':'
  · subst hcolon
    simp [escaped, withNames, nameAt?]
  · simp [escaped, hcolon, withNames]

/-- Whatever is filled in for a name stands in the place of its placeholder. -/
theorem substituted_append_withNames (fill : List Char → List Char) {front : List Char}
    {last : Option Char} (ht : Trails front last) (cs : List Char)
    (hclean : ∀ k, IsPlaceholder (front ++ cs) k → ¬ Clashes (front ++ cs) k) :
    substituted escaped (fun i => fill (placeholderName i)) (front ++ cs) =
      substituted escaped (fun i => fill (placeholderName i)) front ++
        withNames fill 0 last (numbered (quotedAfter front) last (placeholders front).length cs) := by
  induction cs generalizing front last with
  | nil => simp [numbered, withNames]
  | cons c cs ih =>
    have hsplit : front ++ c :: cs = front ++ [c] ++ cs := by simp
    by_cases h : c = '?' ∧ Even (front.count apostrophe)
    · have hhere := hclean _ ((isPlaceholder_length front c cs).mpr h)
      rw [Clashes, IsSigned, List.take_left, List.drop_length_add_append, List.drop_one,
        List.tail_cons, not_or] at hhere
      have hname := nameAt?_numbered ht h (placeholders front).length cs
      rw [if_neg hhere.1, takeWhile_eq_nil_iff.mpr hhere.2, List.append_nil] at hname
      rw [numbered_cons_placeholder ht h, withNames_spaced fill _ hname, hsplit,
        ih (Trails.placeholder h (placeholders front).length) (hsplit ▸ hclean),
        substituted_concat, piece_placeholder h,
        placeholders_concat, if_pos h, List.length_append, List.length_singleton]
      simp only [List.append_assoc]
    · rw [numbered_cons_other last h, withNames_escaped, hsplit,
        ih (Trails.other h) (hsplit ▸ hclean), substituted_concat, piece_other h,
        placeholders_concat, if_neg h, List.append_nil, List.append_assoc]

/-- A placeholder that does not clash leaves no colon behind a backslash or an escaped colon. -/
theorem head?_dropWhile_numbered_ne {front : List Char} {last : Option Char}
    (ht : Trails front last) (n : ℕ) {cs : List Char}
    (hsign : front.getLast? = some ':' ∨ front.getLast? = some '\\')
    (hclean : ∀ k, IsPlaceholder (front ++ cs) k → ¬ Clashes (front ++ cs) k) :
    ((numbered (quotedAfter front) last n cs).dropWhile isWordChar).head? ≠ some ':' := by
  intro h
  obtain ⟨⟨hhead, heven⟩, -⟩ := head?_dropWhile_numbered ht h
  obtain ⟨cs, rfl⟩ := List.head?_eq_some_iff.mp hhead
  refine hclean _ ((isPlaceholder_length front '?' cs).mpr ⟨rfl, heven⟩) (Or.inl ?_)
  rwa [IsSigned, List.take_left]

/-- What was escaped is found as it was, where nothing clashes. -/
theorem unescape_escaped {front : List Char} {c : Char} {cs : List Char} (n : ℕ)
    (h : ¬ (c = '?' ∧ Even (front.count apostrophe)))
    (hclean : ∀ k, IsPlaceholder (front ++ c :: cs) k → ¬ Clashes (front ++ c :: cs) k) :
    unescape (escaped c ++ numbered (quotedAfter (front ++ [c])) (some c) n cs) =
      c :: unescape (numbered (quotedAfter (front ++ [c])) (some c) n cs) := by
  have hclean' : ∀ k, IsPlaceholder (front ++ [c] ++ cs) k → ¬ Clashes (front ++ [c] ++ cs) k := by
    simpa using hclean
  have hnext := fun hsign => head?_dropWhile_numbered_ne (Trails.other h) n hsign hclean'
  rw [List.getLast?_concat] at hnext
  by_cases hcolon : c = ':'
  · subst hcolon
    have hkeep := hnext (Or.inl rfl)
    rw [escaped, if_pos rfl, List.cons_append, List.singleton_append, unescape, if_neg]
    simpa using hkeep
  · rw [escaped, if_neg hcolon, List.singleton_append, unescape_cons]
    rintro ⟨rfl, hhead⟩
    refine hnext (Or.inr rfl) ?_
    obtain ⟨rest, hrest⟩ := List.head?_eq_some_iff.mp hhead
    rw [hrest, List.dropWhile_cons_of_neg (by decide), List.head?_cons]

/-- The colons of the text come back as they were. -/
theorem substituted_append_unescape {front : List Char} {last : Option Char}
    (ht : Trails front last) (cs : List Char)
    (hclean : ∀ k, IsPlaceholder (front ++ cs) k → ¬ Clashes (front ++ cs) k) :
    substituted (fun c => [c]) named (front ++ cs) = substituted (fun c => [c]) named front ++
      unescape (numbered (quotedAfter front) last (placeholders front).length cs) := by
  induction cs generalizing front last with
  | nil => simp [numbered, unescape]
  | cons c cs ih =>
    have hsplit : front ++ c :: cs = front ++ [c] ++ cs := by simp
    by_cases h : c = '?' ∧ Even (front.count apostrophe)
    · have hplain : '\\' ∉ (if IsSetApart front front.length then [' '] else []) ++
          named (placeholders front).length := by
        rw [List.mem_append, not_or, named, List.mem_cons, not_or]
        refine ⟨?_, by decide, not_mem_placeholderName (by decide)⟩
        split <;> simp
      rw [numbered_cons_placeholder ht h, ← List.append_assoc, unescape_append hplain, hsplit,
        ih (Trails.placeholder h (placeholders front).length) (hsplit ▸ hclean),
        substituted_concat, piece_placeholder h,
        placeholders_concat, if_pos h, List.length_append, List.length_singleton]
      simp only [List.append_assoc]
    · rw [numbered_cons_other last h, unescape_escaped _ h hclean, hsplit,
        ih (Trails.other h) (hsplit ▸ hclean), substituted_concat, piece_other h,
        placeholders_concat, if_neg h, List.append_nil, List.append_assoc, List.singleton_append]

/-! ## The bound statement -/

/-- The names that parameters are bound to, from `s` on. -/
theorem lookup_zipIdx_placeholderName (params : List Value) (s i : ℕ) :
    ((params.zipIdx s).map fun p => (String.ofList (placeholderName p.2), p.1)).lookup
      (String.ofList (placeholderName (s + i))) = params[i]? := by
  induction params generalizing s i with
  | nil => rfl
  | cons v params ih =>
    rw [List.zipIdx_cons, List.map_cons, List.lookup_cons]
    cases i with
    | zero => simp
    | succ i =>
      have hne : (String.ofList (placeholderName (s + (i + 1))) ==
          String.ofList (placeholderName s)) = false := by
        rw [beq_eq_false_iff_ne]
        intro h
        have hname := placeholderName_injective (String.ofList_injective h)
        omega
      have hnext := ih (s + 1) i
      rw [show s + 1 + i = s + (i + 1) from by omega] at hnext
      simp only [hne, hnext, List.getElem?_cons_succ]

/-- Only what is filled in for the placeholders of the text matters. -/
theorem substituted_congr {plain : Char → List Char} {fill fill' : ℕ → List Char}
    {cs : List Char} (h : ∀ i < (placeholders cs).length, fill i = fill' i) :
    substituted plain fill cs = substituted plain fill' cs := by
  refine List.flatMap_congr fun k hk => ?_
  by_cases hp : IsPlaceholder cs k
  · have hmem : k ∈ placeholders cs := List.mem_filter.mpr ⟨hk, by simpa using hp⟩
    have hfill := h _ (indexAt_lt hmem)
    rw [indexAt] at hfill
    rw [piece, piece, if_pos hp, if_pos hp, hfill]
  · rw [piece, piece, if_neg hp, if_neg hp]

/-- A bound statement of a fragment is exact: its text holds the names of the placeholders in order
and no others, these names are bound to the parameters in order, whatever is filled in for a name
stands in the place of its placeholder, and a database sees the text of the fragment with these
names in it. -/
structure BindsExactly (f : Fragment Value) (b : Bound) : Prop where
  names_eq : names none b.text.toList =
    (List.range (placeholders f.sql.toList).length).map placeholderName
  binds_eq : b.binds.map (·.1) =
    (List.range (placeholders f.sql.toList).length).map fun i => String.ofList (placeholderName i)
  lookup_eq : ∀ i, b.binds.lookup (String.ofList (placeholderName i)) = f.params[i]?
  withNames_eq : ∀ fill, withNames fill 0 none b.text.toList =
    substituted escaped (fun i => fill (placeholderName i)) f.sql.toList
  sql_eq : b.sql = String.ofList (substituted (fun c => [c]) named f.sql.toList)

/-- What `Bound.ofFragment` makes of a fragment whose placeholders do not clash. -/
theorem bindsExactly_of_not_clashes {f : Fragment Value}
    (hcount : (placeholders f.sql.toList).length = f.params.length)
    (hclean : ∀ k ∈ placeholders f.sql.toList, ¬ Clashes f.sql.toList k) :
    BindsExactly f
      ⟨String.ofList (numbered false none 0 f.sql.toList),
        f.params.zipIdx.map fun p => (String.ofList (placeholderName p.2), p.1)⟩ := by
  have hclean' : ∀ k, IsPlaceholder f.sql.toList k → ¬ Clashes f.sql.toList k := fun k hk => by
    have hlt := (List.getElem?_eq_some_iff.mp hk.1).1
    exact hclean k (List.mem_filter.mpr ⟨List.mem_range.mpr hlt, by simpa using hk⟩)
  have hlookup : ∀ i, (f.params.zipIdx.map fun p =>
      (String.ofList (placeholderName p.2), p.1)).lookup (String.ofList (placeholderName i)) =
        f.params[i]? := fun i => by
    have h := lookup_zipIdx_placeholderName f.params 0 i
    rwa [Nat.zero_add] at h
  -- The names are found again just where they were put in the place of placeholders.
  have hfill : ∀ fill, withNames fill 0 none (numbered false none 0 f.sql.toList) =
      substituted escaped (fun i => fill (placeholderName i)) f.sql.toList := fun fill =>
    (substituted_append_withNames fill Trails.nil f.sql.toList hclean').symm
  refine ⟨?_, ?_, hlookup, ?_, ?_⟩
  · have h := names_numbered Trails.nil f.sql.toList
    rw [List.nil_append, filterMap_foundAt hclean] at h
    rw [String.toList_ofList]
    exact h.symm
  · rw [hcount, List.map_map]
    have h := List.zipIdx_map_snd 0 f.params
    rw [← List.range_eq_range'] at h
    rw [← h, List.map_map]
    rfl
  · intro fill
    rw [String.toList_ofList, hfill]
  · have htext := substituted_append_numbered Trails.nil f.sql.toList
    have hback := substituted_append_unescape Trails.nil f.sql.toList hclean'
    rw [List.nil_append] at htext hback
    rw [Bound.sql, Bound.filled, String.toList_ofList, hfill]
    congr 1
    calc unescape (substituted escaped _ f.sql.toList)
        = unescape (substituted escaped named f.sql.toList) := by
          congr 1
          refine substituted_congr fun i _ => ?_
          simp only [hlookup, String.toList_ofList]
          cases f.params[i]? <;> rfl
      _ = substituted (fun c => [c]) named f.sql.toList := by
          rw [htext, hback]
          rfl

/-- Binding by cases: numbers that differ, a clash, and an exact bound statement. -/
theorem ofFragment_eq (f : Fragment Value) :
    Bound.ofFragment f =
      if (placeholders f.sql.toList).length ≠ f.params.length then
        .error (.unbalancedFragment f.sql (.int (placeholders f.sql.toList).length)
          (.int f.params.length))
      else if ∀ k ∈ placeholders f.sql.toList, ¬ Clashes f.sql.toList k then
        .ok ⟨String.ofList (numbered false none 0 f.sql.toList),
          f.params.zipIdx.map fun p => (String.ofList (placeholderName p.2), p.1)⟩
      else .error .unrecognizedBinding := by
  have hnames : names none (numbered false none 0 f.sql.toList) =
      (placeholders f.sql.toList).filterMap (foundAt f.sql.toList) :=
    (names_numbered Trails.nil f.sql.toList).symm
  have hall : ((List.range (placeholders f.sql.toList).length).all fun n =>
      (names none (numbered false none 0 f.sql.toList)).contains (placeholderName n)) = true ↔
      ∀ k ∈ placeholders f.sql.toList, ¬ Clashes f.sql.toList k := by
    rw [← all_named_iff, hnames]
    simp
  rw [Bound.ofFragment]
  simp only [placeholderCount_eq, hall, bne_iff_ne]

/-- **Binding is exact.** Binding fails for a number of parameters other than that of placeholders;
else it fails where a name clashes with what stands around its placeholder; and in every other case
it succeeds and is exact. -/
theorem ofFragment_exact (f : Fragment Value) :
    ((∃ sql found given, Bound.ofFragment f = .error (.unbalancedFragment sql found given)) ↔
      (placeholders f.sql.toList).length ≠ f.params.length) ∧
    ((placeholders f.sql.toList).length = f.params.length →
      (Bound.ofFragment f = .error .unrecognizedBinding ↔
        ∃ k ∈ placeholders f.sql.toList, Clashes f.sql.toList k)) ∧
    ((placeholders f.sql.toList).length = f.params.length →
      (∀ k ∈ placeholders f.sql.toList, ¬ Clashes f.sql.toList k) →
        ∃ b, Bound.ofFragment f = .ok b ∧ BindsExactly f b) := by
  rw [ofFragment_eq]
  by_cases hcount : (placeholders f.sql.toList).length = f.params.length
  · rw [if_neg (not_not_intro hcount)]
    by_cases hclean : ∀ k ∈ placeholders f.sql.toList, ¬ Clashes f.sql.toList k
    · rw [if_pos hclean]
      refine ⟨iff_of_false ?_ (not_not_intro hcount), fun _ => iff_of_false ?_ ?_, fun _ _ =>
        ⟨_, rfl, bindsExactly_of_not_clashes hcount hclean⟩⟩
      · rintro ⟨_, _, _, h⟩
        cases h
      · intro h
        cases h
      · rintro ⟨k, hk, hclash⟩
        exact hclean k hk hclash
    · rw [if_neg hclean]
      refine ⟨iff_of_false ?_ (not_not_intro hcount), fun _ => iff_of_true rfl ?_, fun _ h =>
        absurd h hclean⟩
      · rintro ⟨_, _, _, h⟩
        cases h
      · simpa using hclean
  · rw [if_pos hcount]
    exact ⟨iff_of_true ⟨_, _, _, rfl⟩ hcount, fun h => absurd h hcount, fun h => absurd h hcount⟩

/-- A quoted clock time with a question mark, and two placeholders side by side. -/
theorem ofFragment_exact_quoted :
    (placeholders "t = '1:?' AND a IN (??)".toList).length = 2 ∧
      (∀ k ∈ placeholders "t = '1:?' AND a IN (??)".toList,
        ¬ Clashes "t = '1:?' AND a IN (??)".toList k) ∧
      ∃ b, Bound.ofFragment { sql := "t = '1:?' AND a IN (??)", params := [.int 7, .text "x"] } =
          .ok b ∧
        BindsExactly { sql := "t = '1:?' AND a IN (??)", params := [.int 7, .text "x"] } b :=
  have hcount : (placeholders "t = '1:?' AND a IN (??)".toList).length = 2 := by decide +kernel
  have hclean : ∀ k ∈ placeholders "t = '1:?' AND a IN (??)".toList,
      ¬ Clashes "t = '1:?' AND a IN (??)".toList k := by decide +kernel
  ⟨hcount, hclean, (ofFragment_exact _).2.2 hcount hclean⟩

end SearchQuery.Statement
