import Mathlib.Data.List.Nodup
import Mathlib.Data.List.Perm.Subperm
import SearchQuery.Proofs.Query.Found
import SearchQuery.Query.Criterion

/-!
# Sorting keywords

Keywords are sorted one after the other, and each one does one of five things (`add_cases`): it is the
value of the key in front of it, it is negative, mandatory or optional, or it is a key itself. From what
one keyword can do it follows what holds of all sorted keywords (`fits_sort`).

The other way round, sorted keywords that are given out again, kind by kind and each pair as a key and a
value, are sorted into the same places (`foldl_add_tokens`).
-/

namespace SearchQuery

open Query Text

theorem toList_minus (w : String) : ("-" ++ w).toList = '-' :: w.toList :=
  String.toList_append

theorem toList_plus (w : String) : ("+" ++ w).toList = '+' :: w.toList :=
  String.toList_append

theorem toList_colon (key : String) : (key ++ ":").toList = key.toList ++ [':'] :=
  String.toList_append

/-- The keyword has single spaces and no quotes. -/
def IsClean (w : String) : Prop :=
  '"' ∉ w.toList ∧ Tidy w.toList

/-- The keyword is neither signed nor a key. -/
def QueryOptions.IsPlain (o : QueryOptions) (w : String) : Prop :=
  w.toList.head?.any isSign = false ∧ (o.pairing && w.toList.getLast? == some ':') = false

/-- Colons make pairs, and the key is clean and has no sign. -/
structure QueryOptions.IsKey (o : QueryOptions) (key : String) : Prop where
  pairing : o.pairing = true
  clean : IsClean key
  unsigned : (key ++ ":").toList.head?.any isSign = false

/-- Add a keyword to others of its kind unless it is noise. -/
def QueryOptions.kept (o : QueryOptions) (w : String) (words : List String) : List String :=
  if isExcluded o.exclusions w then words else words ++ [w]

namespace Sorting

variable (o : QueryOptions)

/-! ## What one keyword does -/

/-- Behind a key a token is its value. -/
theorem add_value {s : Sorting} {key : String} (h : s.key = some key) (token : String) :
    s.add o token = ⟨none, { s.keywords with pairs := Keywords.addPair s.keywords.pairs key token }⟩ := by
  rw [add, h]

/-- A token behind a minus is to be absent. -/
theorem add_negative (k : Keywords) (w : String) :
    add o ⟨none, k⟩ ("-" ++ w) = ⟨none, { k with negative := o.kept w k.negative }⟩ := by
  simp only [add, toList_minus, String.ofList_toList]
  rfl

/-- A token behind a plus is mandatory. -/
theorem add_mandatory (k : Keywords) (w : String) :
    add o ⟨none, k⟩ ("+" ++ w) = ⟨none, { k with mandatory := o.kept w k.mandatory }⟩ := by
  simp only [add, toList_plus, String.ofList_toList]
  rfl

/-- A token without a sign is a key if a colon is its last character, where pairs are read, and optional
otherwise. -/
theorem add_unsigned (k : Keywords) {token : String} (h : token.toList.head?.any isSign = false) :
    add o ⟨none, k⟩ token =
      if o.pairing && token.toList.getLast? == some ':' then
        ⟨some (String.ofList token.toList.dropLast), k⟩
      else ⟨none, { k with optional := o.kept token k.optional }⟩ := by
  rw [add]
  dsimp only
  split
  next cs htoken =>
    rw [htoken] at h
    cases h
  next cs htoken =>
    rw [htoken] at h
    cases h
  next => rfl

theorem add_optional (k : Keywords) {token : String} (h : o.IsPlain token) :
    add o ⟨none, k⟩ token = ⟨none, { k with optional := o.kept token k.optional }⟩ := by
  rw [add_unsigned o k h.1, h.2, if_neg Bool.false_ne_true]

/-- A word in front of a colon becomes the key of what follows. -/
theorem add_key (k : Keywords) {key : String} (hpairing : o.pairing = true)
    (h : (key ++ ":").toList.head?.any isSign = false) :
    add o ⟨none, k⟩ (key ++ ":") = ⟨some key, k⟩ := by
  rw [add_unsigned o k h, toList_colon, List.getLast?_concat, hpairing, List.dropLast_concat,
    String.ofList_toList]
  rfl

/-- A keyword is a value, negative, mandatory, a key or optional. -/
theorem add_cases (s : Sorting) (token : String) :
    (∃ key, s.key = some key ∧ s.add o token =
      ⟨none, { s.keywords with pairs := Keywords.addPair s.keywords.pairs key token }⟩) ∨
    (∃ w, token = "-" ++ w ∧
      s.add o token = ⟨none, { s.keywords with negative := o.kept w s.keywords.negative }⟩) ∨
    (∃ w, token = "+" ++ w ∧
      s.add o token = ⟨none, { s.keywords with mandatory := o.kept w s.keywords.mandatory }⟩) ∨
    (∃ key, token = key ++ ":" ∧ o.pairing = true ∧ token.toList.head?.any isSign = false ∧
      s.add o token = ⟨some key, s.keywords⟩) ∨
    (o.IsPlain token ∧
      s.add o token = ⟨none, { s.keywords with optional := o.kept token s.keywords.optional }⟩) := by
  obtain ⟨key, k⟩ := s
  cases key with
  | some key => exact Or.inl ⟨key, rfl, add_value o rfl token⟩
  | none =>
    right
    -- A sign decides first, and then a colon at the end.
    cases hsign : token.toList.head?.any isSign with
    | true =>
      obtain ⟨c, cs, htoken⟩ : ∃ c cs, token.toList = c :: cs := by
        cases htoken : token.toList with
        | nil =>
          rw [htoken] at hsign
          cases hsign
        | cons c cs => exact ⟨c, cs, rfl⟩
      have hc : c = '-' ∨ c = '+' := by
        rw [htoken] at hsign
        simpa [isSign] using hsign
      rcases hc with rfl | rfl
      · have hw : token = "-" ++ String.ofList cs :=
          String.toList_inj.mp (by simp [htoken])
        exact Or.inl ⟨_, hw, by rw [hw, add_negative]⟩
      · have hw : token = "+" ++ String.ofList cs :=
          String.toList_inj.mp (by simp [htoken])
        exact Or.inr (Or.inl ⟨_, hw, by rw [hw, add_mandatory]⟩)
    | false =>
      right
      right
      cases hkey : o.pairing && token.toList.getLast? == some ':' with
      | false => exact Or.inr ⟨⟨hsign, hkey⟩, add_optional o k ⟨hsign, hkey⟩⟩
      | true =>
        have hadd := add_unsigned o k hsign
        rw [hkey, if_pos rfl] at hadd
        rw [Bool.and_eq_true, beq_iff_eq] at hkey
        have htoken : token = String.ofList token.toList.dropLast ++ ":" := by
          rw [← String.toList_inj, toList_colon, String.toList_ofList]
          exact (List.dropLast_append_getLast? ':' hkey.2).symm
        exact Or.inl ⟨_, htoken, hkey.1, rfl, hadd⟩

end Sorting

/-! ## What holds of sorted keywords -/

/-- Sorted keywords are clean and no noise, and those of each kind look like keywords of that kind. -/
structure Keywords.Fits (o : QueryOptions) (k : Keywords) : Prop where
  signed : ∀ w ∈ k.mandatory ++ k.negative, IsClean w ∧ isExcluded o.exclusions w = false
  optional : ∀ w ∈ k.optional, IsClean w ∧ isExcluded o.exclusions w = false ∧ o.IsPlain w
  keys : (k.pairs.map (·.1)).Nodup
  pairs : ∀ p ∈ k.pairs, o.IsKey p.1 ∧ p.2 ≠ [] ∧ ∀ v ∈ p.2, IsClean v

/-- What holds of the keywords that are sorted so far, and of a key whose value is still to come. -/
structure Sorting.Fits (o : QueryOptions) (s : Sorting) : Prop where
  keywords : s.keywords.Fits o
  key : ∀ key ∈ s.key, o.IsKey key

/-- Parts of a clean text are clean. -/
theorem IsClean.of_append {u w : String} (h : IsClean (u ++ w)) : IsClean u ∧ IsClean w := by
  have happend : (u ++ w).toList = u.toList ++ w.toList := String.toList_append
  rw [IsClean, happend] at h
  exact ⟨⟨fun hmem => h.1 (List.mem_append_left _ hmem), h.2.of_isInfix (List.prefix_append _ _).isInfix⟩,
    ⟨fun hmem => h.1 (List.mem_append_right _ hmem), h.2.of_isInfix (List.suffix_append _ _).isInfix⟩⟩

/-- What holds of words that are kept and of the new one holds of all. -/
theorem QueryOptions.forall_mem_kept {o : QueryOptions} {P : String → Prop} {w : String}
    {words : List String} (hwords : ∀ u ∈ words, P u) (hw : isExcluded o.exclusions w = false → P w) :
    ∀ u ∈ o.kept w words, P u := by
  rw [kept]
  split
  next => exact hwords
  next hfresh =>
    have hsingle := List.forall_mem_singleton.mpr (hw (by simpa using hfresh))
    exact List.forall_mem_append.mpr ⟨hwords, hsingle⟩

namespace Keywords

/-! ### Pairs -/

theorem any_key {pairs : List (String × List String)} {key : String} :
    pairs.any (·.1 == key) = true ↔ key ∈ pairs.map (·.1) := by
  simp

/-- Pairs of other keys stay what they are. -/
theorem map_of_not_mem {pairs : List (String × List String)} {key : String}
    (h : key ∉ pairs.map (·.1)) (value : String) :
    (pairs.map fun p => if p.1 == key then (p.1, p.2 ++ [value]) else p) = pairs := by
  refine (List.map_congr_left fun p hp => ?_).trans (List.map_id pairs)
  rw [if_neg]
  · rfl
  · rw [beq_iff_eq]
    rintro rfl
    exact h (List.mem_map_of_mem hp)

/-- A value of a new key adds the key behind the others. -/
theorem keys_addPair (pairs : List (String × List String)) (key value : String) :
    (addPair pairs key value).map (·.1) =
      if key ∈ pairs.map (·.1) then pairs.map (·.1) else pairs.map (·.1) ++ [key] := by
  rw [addPair]
  by_cases hkey : key ∈ pairs.map (·.1)
  · rw [if_pos (any_key.mpr hkey), if_pos hkey, List.map_map]
    refine List.map_congr_left fun p _ => ?_
    dsimp only [Function.comp_apply]
    split <;> rfl
  · rw [if_neg (mt any_key.mp hkey), if_neg hkey, List.map_append]
    rfl

/-- No key is there twice. -/
theorem nodup_keys_addPair {pairs : List (String × List String)} (h : (pairs.map (·.1)).Nodup)
    (key value : String) : ((addPair pairs key value).map (·.1)).Nodup := by
  rw [keys_addPair]
  split
  next => exact h
  next hkey =>
    rw [← List.concat_eq_append, List.nodup_concat]
    exact ⟨hkey, h⟩

/-- What holds of all pairs is shown for the one that takes the value. -/
theorem forall_mem_addPair {P : String × List String → Prop} {pairs : List (String × List String)}
    (hpairs : ∀ p ∈ pairs, P p) {key value : String} (hnew : P (key, [value]))
    (hmore : ∀ p ∈ pairs, p.1 = key → P (p.1, p.2 ++ [value])) :
    ∀ p ∈ addPair pairs key value, P p := by
  rw [addPair]
  split
  next =>
    refine List.forall_mem_map.mpr fun p hp => ?_
    split
    next hkey => exact hmore p hp (by simpa using hkey)
    next => exact hpairs p hp
  next => exact List.forall_mem_append.mpr ⟨hpairs, List.forall_mem_singleton.mpr hnew⟩

end Keywords

/-! ### One keyword and all keywords -/

/-- What is sorted stays fit by one token more. -/
theorem Sorting.Fits.add {o : QueryOptions} {s : Sorting} (h : s.Fits o) {token : String}
    (htoken : IsClean token) : (s.add o token).Fits o := by
  obtain ⟨⟨hsigned, hoptional, hkeys, hpairs⟩, hkey⟩ := h
  rw [List.forall_mem_append] at hsigned
  rcases add_cases o s token with ⟨key, hs, hadd⟩ | ⟨w, rfl, hadd⟩ | ⟨w, rfl, hadd⟩ |
    ⟨key, rfl, hpairing, hsign, hadd⟩ | ⟨hplain, hadd⟩
  · -- The value of the key in front of it: the pairs stay grouped.
    rw [hadd]
    refine ⟨⟨List.forall_mem_append.mpr hsigned, hoptional, Keywords.nodup_keys_addPair hkeys _ _,
      Keywords.forall_mem_addPair hpairs ?_ ?_⟩, by simp⟩
    · exact ⟨hkey key hs, List.cons_ne_nil _ _, List.forall_mem_singleton.mpr htoken⟩
    · intro p hp _
      obtain ⟨hpkey, -, hvalues⟩ := hpairs p hp
      exact ⟨hpkey, by simp,
        List.forall_mem_append.mpr ⟨hvalues, List.forall_mem_singleton.mpr htoken⟩⟩
  · rw [hadd]
    refine ⟨⟨List.forall_mem_append.mpr ⟨hsigned.1, ?_⟩, hoptional, hkeys, hpairs⟩, by simp⟩
    exact QueryOptions.forall_mem_kept hsigned.2 fun hkept => ⟨htoken.of_append.2, hkept⟩
  · rw [hadd]
    refine ⟨⟨List.forall_mem_append.mpr ⟨?_, hsigned.2⟩, hoptional, hkeys, hpairs⟩, by simp⟩
    exact QueryOptions.forall_mem_kept hsigned.1 fun hkept => ⟨htoken.of_append.2, hkept⟩
  · rw [hadd]
    refine ⟨⟨List.forall_mem_append.mpr hsigned, hoptional, hkeys, hpairs⟩, ?_⟩
    rintro _ ⟨⟩
    exact ⟨hpairing, htoken.of_append.1, hsign⟩
  · rw [hadd]
    refine ⟨⟨List.forall_mem_append.mpr hsigned, ?_, hkeys, hpairs⟩, by simp⟩
    exact QueryOptions.forall_mem_kept hoptional fun hkept => ⟨htoken, hkept, hplain⟩

/-- So it does by any tokens. -/
theorem Sorting.Fits.foldl_add {o : QueryOptions} {tokens : List String}
    (htokens : ∀ token ∈ tokens, IsClean token) {s : Sorting} (h : s.Fits o) :
    (tokens.foldl (Sorting.add o) s).Fits o := by
  induction tokens generalizing s with
  | nil => exact h
  | cons token tokens ih =>
    rw [List.forall_mem_cons] at htokens
    exact ih htokens.2 (h.add htokens.1)

theorem fits_empty (o : QueryOptions) : Keywords.Fits o {} :=
  ⟨by simp, by simp, List.nodup_nil, by simp⟩

namespace Criterion

/-- Keywords are sorted one after the other. -/
theorem sort_eq (o : QueryOptions) (query : String) :
    sort o query = (((tokenChars (collapseChars query.toList)).map String.ofList).foldl
      (Sorting.add o) {}).keywords := by
  rw [sort, List.foldl_map]

/-- What a query is read as is clean. -/
theorem isClean_of_mem_tokens (query : String) :
    ∀ token ∈ (tokenChars (collapseChars query.toList)).map String.ofList, IsClean token := by
  refine List.forall_mem_map.mpr fun token htoken => ?_
  rw [IsClean, String.toList_ofList]
  exact tidy_of_mem_tokenChars (tidy_collapseChars _) htoken

/-- What is sorted fits the options that it is sorted by. -/
theorem fits_sort (o : QueryOptions) (query : String) : (sort o query).Fits o := by
  rw [sort_eq]
  exact (Sorting.Fits.foldl_add (isClean_of_mem_tokens query) ⟨fits_empty o, by simp⟩).keywords

/-- Nothing is sorted of a blank query. -/
theorem sort_of_isBlank (o : QueryOptions) {query : String} (h : isBlank query = true) :
    sort o query = {} := by
  rw [isBlank, List.all_eq_true] at h
  rw [sort_eq, tokenChars_of_isSpace h]
  rfl

end Criterion

/-! ## What is sorted -/

namespace Keywords

/-- Pairs as they have to be read, each value behind its key. -/
def pairTokens (pairs : List (String × List String)) : List String :=
  pairs.flatMap fun p => p.2.flatMap fun value => [p.1 ++ ":", value]

/-- Sorted keywords as they have to be read to be sorted into the same places. -/
def tokens (k : Keywords) : List String :=
  k.mandatory.map ("+" ++ ·) ++ k.negative.map ("-" ++ ·) ++ k.optional ++ pairTokens k.pairs

/-- One pair more, wherever its value is put. -/
theorem count_pairTokens_addPair {pairs : List (String × List String)} (h : (pairs.map (·.1)).Nodup)
    (key value token : String) :
    (pairTokens (addPair pairs key value)).count token =
      (pairTokens pairs).count token + ([key ++ ":"].count token + [value].count token) := by
  have hnew : [key ++ ":", value].count token = [key ++ ":"].count token + [value].count token := by
    rw [← List.count_append]
    rfl
  rw [addPair]
  split
  next hany =>
    rw [any_key, List.mem_map] at hany
    obtain ⟨⟨name, values⟩, hp, hname⟩ := hany
    obtain rfl : name = key := hname
    obtain ⟨front, back, rfl⟩ := List.append_of_mem hp
    rw [List.map_append, List.map_cons, List.nodup_middle, List.nodup_cons, List.mem_append, not_or] at h
    rw [List.map_append, List.map_cons, map_of_not_mem h.1.1, map_of_not_mem h.1.2,
      if_pos (beq_self_eq_true name)]
    simp only [pairTokens, List.flatMap_append, List.flatMap_cons, List.flatMap_nil, List.append_nil,
      List.count_append, hnew]
    omega
  next =>
    simp only [pairTokens, List.flatMap_append, List.flatMap_cons, List.flatMap_nil, List.append_nil,
      List.count_append, hnew]

end Keywords

namespace Sorting

variable {o : QueryOptions}

/-- The keywords that have been sorted, and the key whose value is still to come. -/
def tokens (s : Sorting) : List String :=
  s.keywords.tokens ++ s.key.toList.map (· ++ ":")

/-- The tokens that were sorted are those of each kind. -/
theorem count_tokens (s : Sorting) (t : String) :
    s.tokens.count t = (s.keywords.mandatory.map ("+" ++ ·)).count t +
      (s.keywords.negative.map ("-" ++ ·)).count t + s.keywords.optional.count t +
      (Keywords.pairTokens s.keywords.pairs).count t + (s.key.toList.map (· ++ ":")).count t := by
  rw [tokens, Keywords.tokens]
  simp only [List.count_append]

/-- A word is kept once at most. -/
theorem count_kept (w : String) (words : List String) (token : String → String) (t : String) :
    ((o.kept w words).map token).count t ≤ (words.map token).count t + [token w].count t := by
  rw [QueryOptions.kept]
  split
  next => exact Nat.le_add_right _ _
  next => rw [List.map_append, List.count_append]; rfl

/-- A keyword is put into one place, or left out. -/
theorem count_tokens_add {s : Sorting} (h : s.Fits o) (token t : String) :
    (s.add o token).tokens.count t ≤ s.tokens.count t + [token].count t := by
  rcases add_cases o s token with ⟨key, hs, hadd⟩ | ⟨w, rfl, hadd⟩ | ⟨w, rfl, hadd⟩ |
    ⟨key, rfl, -, -, hadd⟩ | ⟨-, hadd⟩
  · rw [hadd, count_tokens, count_tokens, hs, Keywords.count_pairTokens_addPair h.keywords.keys]
    simp only [Option.toList, List.map_cons, List.map_nil, List.count_nil]
    omega
  · have hkept := count_kept (o := o) w s.keywords.negative ("-" ++ ·) t
    rw [hadd, count_tokens, count_tokens]
    simp only [Option.toList, List.map_nil, List.count_nil]
    omega
  · have hkept := count_kept (o := o) w s.keywords.mandatory ("+" ++ ·) t
    rw [hadd, count_tokens, count_tokens]
    simp only [Option.toList, List.map_nil, List.count_nil]
    omega
  · rw [hadd, count_tokens, count_tokens]
    simp only [Option.toList, List.map_cons, List.map_nil]
    omega
  · have hkept := count_kept (o := o) token s.keywords.optional id t
    rw [List.map_id, List.map_id, id_eq] at hkept
    rw [hadd, count_tokens, count_tokens]
    simp only [Option.toList, List.map_nil, List.count_nil]
    omega

/-- No token is sorted twice. -/
theorem count_tokens_foldl_add {ts : List String} (hts : ∀ t ∈ ts, IsClean t) {s : Sorting} (h : s.Fits o)
    (t : String) : (ts.foldl (add o) s).tokens.count t ≤ s.tokens.count t + ts.count t := by
  induction ts generalizing s with
  | nil => exact Nat.le_refl _
  | cons token ts ih =>
    rw [List.forall_mem_cons] at hts
    have hstep := count_tokens_add h token t
    have hrest := ih hts.2 (h.add hts.1)
    rw [List.foldl_cons, ← List.singleton_append, List.count_append]
    omega

end Sorting

/-- **Sorting invents nothing.** What was sorted are keywords of the search string, and none of them is used
twice. -/
theorem Criterion.tokens_sort_subperm (o : QueryOptions) (query : String) :
    (sort o query).tokens.Subperm ((tokenChars (collapseChars query.toList)).map String.ofList) := by
  rw [sort_eq, List.subperm_ext_iff]
  generalize hts : (tokenChars (collapseChars query.toList)).map String.ofList = ts
  intro t _
  have hrun := Sorting.count_tokens_foldl_add (hts ▸ isClean_of_mem_tokens query)
    (s := {}) ⟨fits_empty o, by simp⟩ t
  rw [Sorting.tokens, List.count_append] at hrun
  have hnone : (Sorting.tokens {}).count t = 0 := rfl
  omega

/-! ## Sorting sorted keywords again -/

namespace Keywords

/-- Values of a key that no pair has yet are put behind one another. -/
theorem foldl_addPair {pairs : List (String × List String)} {key : String}
    (h : key ∉ pairs.map (·.1)) (values more : List String) :
    more.foldl (addPair · key ·) (pairs ++ [(key, values)]) = pairs ++ [(key, values ++ more)] := by
  induction more generalizing values with
  | nil => rw [List.append_nil]; rfl
  | cons value more ih =>
    have hadd : addPair (pairs ++ [(key, values)]) key value = pairs ++ [(key, values ++ [value])] := by
      rw [addPair, if_pos (any_key.mpr (by simp)), List.map_append, map_of_not_mem h]
      simp
    rw [List.foldl_cons, hadd, ih, List.append_assoc]
    rfl

end Keywords

namespace Sorting

variable {o : QueryOptions}

/-- Keywords of one kind that are no noise are put behind one another. -/
theorem foldl_add_kind (token : String → String) (place : List String → Keywords) {words : List String}
    (h : ∀ w ∈ words, ∀ us, add o ⟨none, place us⟩ (token w) = ⟨none, place (us ++ [w])⟩)
    (us : List String) :
    (words.map token).foldl (add o) ⟨none, place us⟩ = ⟨none, place (us ++ words)⟩ := by
  induction words generalizing us with
  | nil => rw [List.append_nil]; rfl
  | cons w words ih =>
    rw [List.forall_mem_cons] at h
    rw [List.map_cons, List.foldl_cons, h.1, ih h.2, List.append_assoc]
    rfl

/-- What is not excluded is kept behind what is there. -/
theorem kept_of_not_excluded {w : String} (h : isExcluded o.exclusions w = false) (words : List String) :
    o.kept w words = words ++ [w] := by
  rw [QueryOptions.kept, h, if_neg Bool.false_ne_true]

/-- The values of one key, each with the key in front of it. -/
theorem foldl_add_values (hpairing : o.pairing = true) {key : String}
    (hkey : (key ++ ":").toList.head?.any isSign = false) (values : List String) (k : Keywords) :
    (values.flatMap fun value => [key ++ ":", value]).foldl (add o) ⟨none, k⟩ =
      ⟨none, { k with pairs := values.foldl (Keywords.addPair · key ·) k.pairs }⟩ := by
  induction values generalizing k with
  | nil => rfl
  | cons value values ih =>
    rw [List.flatMap_cons, List.foldl_append, List.foldl_cons, add_key o k hpairing hkey, List.foldl_cons,
      add_value o rfl, List.foldl_nil, ih]
    rfl

/-- Pairs of new keys are sorted as they stand. -/
theorem foldl_add_pairs {pairs : List (String × List String)} (k : Keywords)
    (hkeys : ((k.pairs ++ pairs).map (·.1)).Nodup)
    (h : ∀ p ∈ pairs, o.IsKey p.1 ∧ p.2 ≠ []) :
    (Keywords.pairTokens pairs).foldl (add o) ⟨none, k⟩ =
      ⟨none, { k with pairs := k.pairs ++ pairs }⟩ := by
  induction pairs generalizing k with
  | nil => rw [List.append_nil]; rfl
  | cons p pairs ih =>
    obtain ⟨key, values⟩ := p
    rw [List.forall_mem_cons] at h
    obtain ⟨⟨hkey, hne⟩, hrest⟩ := h
    have hfresh : key ∉ k.pairs.map (·.1) := by
      rw [List.map_append, List.map_cons, List.nodup_append'] at hkeys
      exact fun hmem => hkeys.2.2 hmem List.mem_cons_self
    have hvalues : values.foldl (Keywords.addPair · key ·) k.pairs = k.pairs ++ [(key, values)] := by
      obtain ⟨value, more, rfl⟩ := List.exists_cons_of_ne_nil hne
      have hfirst : Keywords.addPair k.pairs key value = k.pairs ++ [(key, [value])] := by
        rw [Keywords.addPair, if_neg (mt Keywords.any_key.mp hfresh)]
      rw [List.foldl_cons, hfirst, Keywords.foldl_addPair hfresh]
      rfl
    rw [Keywords.pairTokens, List.flatMap_cons, List.foldl_append,
      foldl_add_values hkey.pairing hkey.unsigned, hvalues]
    have hrun := ih { k with pairs := k.pairs ++ [(key, values)] }
      (by simpa [List.append_assoc] using hkeys) hrest
    rw [Keywords.pairTokens] at hrun
    rw [hrun, List.append_assoc]
    rfl

/-- **Sorted keywords are sorted into the same places again.** -/
theorem foldl_add_tokens {k : Keywords} (h : k.Fits o) : k.tokens.foldl (add o) {} = ⟨none, k⟩ := by
  have hsigned := List.forall_mem_append.mp h.signed
  have hmandatory : (k.mandatory.map ("+" ++ ·)).foldl (add o) {} = ⟨none, { mandatory := k.mandatory }⟩ :=
    foldl_add_kind ("+" ++ ·) (fun us => { mandatory := us })
      (fun w hw us => by rw [add_mandatory, kept_of_not_excluded (hsigned.1 w hw).2]) []
  have hnegative : (k.negative.map ("-" ++ ·)).foldl (add o) ⟨none, { mandatory := k.mandatory }⟩ =
      ⟨none, { mandatory := k.mandatory, negative := k.negative }⟩ :=
    foldl_add_kind ("-" ++ ·) (fun us => { mandatory := k.mandatory, negative := us })
      (fun w hw us => by rw [add_negative, kept_of_not_excluded (hsigned.2 w hw).2]) []
  have hoptional : (k.optional.map id).foldl (add o)
      ⟨none, { mandatory := k.mandatory, negative := k.negative }⟩ =
      ⟨none, { mandatory := k.mandatory, negative := k.negative, optional := k.optional }⟩ :=
    foldl_add_kind id
      (fun us => { mandatory := k.mandatory, negative := k.negative, optional := us })
      (fun w hw us => by
        obtain ⟨-, hkept, hplain⟩ := h.optional w hw
        rw [id_eq, add_optional o _ hplain, kept_of_not_excluded hkept]) []
  rw [List.map_id] at hoptional
  have hpairs := foldl_add_pairs (o := o)
    { mandatory := k.mandatory, negative := k.negative, optional := k.optional } h.keys fun p hp =>
      ⟨(h.pairs p hp).1, (h.pairs p hp).2.1⟩
  rw [Keywords.tokens, List.foldl_append, List.foldl_append, List.foldl_append, hmandatory, hnegative,
    hoptional, hpairs]
  rfl

end Sorting

end SearchQuery
