import SearchQuery.Proofs.Query.Sorting

/-!
# Every keyword counts once

The keywords of a search string can be cut into parts: pairs of a key and a value, single keywords of a
kind, and at the end perhaps a key without a value (`exists_cut`). Whatever the cut, the search string asks
for what the parts say, kind by kind and in order, and no keyword is left over (`read_by_cut`).

## Shape of the argument

A cut tells nothing of how keywords are sorted. That sorting agrees with it is shown part by part: the
keywords of one more part are put where the part says (`foldl_add_part`), and so are those of all parts,
by induction from the end (`foldl_add_parts`). Only for pairs this takes an argument, since a value is put
behind earlier values of its key, wherever these are (`addPair_grouped`).
-/

namespace SearchQuery

open Query Text

/-- What one keyword asks for, or a key with the keyword behind it. -/
inductive Part where
  | pair (key value : String)
  | negative (w : String)
  | mandatory (w : String)
  | optional (w : String)
  deriving DecidableEq, Inhabited

namespace Part

/-- The keywords that a part is read from. -/
def tokens : Part → List String
  | pair key value => [key ++ ":", value]
  | negative w => ["-" ++ w]
  | mandatory w => ["+" ++ w]
  | optional w => [w]

/-- The key and the value of a pair. -/
def pair? : Part → Option (String × String)
  | pair key value => some (key, value)
  | _ => none

/-- The word that is to be absent. -/
def negative? : Part → Option String
  | negative w => some w
  | _ => none

/-- The word that has to appear. -/
def mandatory? : Part → Option String
  | mandatory w => some w
  | _ => none

/-- The word that may appear. -/
def optional? : Part → Option String
  | optional w => some w
  | _ => none

/-- The keyword of a part that is no pair, without its sign. -/
def single? : Part → Option String
  | pair _ _ => none
  | negative w | mandatory w | optional w => some w

end Part

/-- A keyword that is `key` with a colon behind it opens a pair. -/
def QueryOptions.Opens (o : QueryOptions) (key : String) : Prop :=
  o.pairing = true ∧ (key ++ ":").toList.head?.any isSign = false

/-- The part is what its keywords are read as: keys have no sign, and optional keywords are no keys. -/
def Part.Fits (o : QueryOptions) : Part → Prop
  | pair key _ => o.Opens key
  | optional w => o.IsPlain w
  | _ => True

/-- Parts, and a key at the end that has no value. -/
structure Cut where
  parts : List Part
  last : Option String
  deriving DecidableEq, Inhabited

namespace Cut

/-- The keywords that are cut. -/
def tokens (c : Cut) : List String :=
  c.parts.flatMap Part.tokens ++ c.last.toList.map (· ++ ":")

/-- A cut keeps to the options: its parts do, and so does what is left behind them. -/
structure Fits (o : QueryOptions) (c : Cut) : Prop where
  parts : ∀ p ∈ c.parts, p.Fits o
  last : ∀ key ∈ c.last, o.Opens key

end Cut

/-! ## What parts ask for -/

namespace Keywords

/-- The values of a key, in order. -/
def valuesOf (pairs : List (String × String)) (key : String) : List String :=
  (pairs.filter (·.1 == key)).map (·.2)

/-- Pairs grouped by key, keys in order of first use. -/
def grouped (pairs : List (String × String)) : List (String × List String) :=
  (pairs.map (·.1)).eraseDups.map fun key => (key, valuesOf pairs key)

/-- The keywords of one kind that are no noise. -/
def ofKind (o : QueryOptions) (kind? : Part → Option String) (parts : List Part) : List String :=
  (parts.filterMap kind?).filter (!isExcluded o.exclusions ·)

/-- What parts ask for. -/
def ofParts (o : QueryOptions) (parts : List Part) : Keywords where
  mandatory := ofKind o Part.mandatory? parts
  negative := ofKind o Part.negative? parts
  optional := ofKind o Part.optional? parts
  pairs := grouped (parts.filterMap Part.pair?)

/-- The number of keywords that are left out as noise. -/
def excludedCount (o : QueryOptions) (parts : List Part) : ℕ :=
  (parts.filterMap Part.single?).countP (isExcluded o.exclusions)

/-- The number of values of all pairs. -/
def valueCount (pairs : List (String × List String)) : ℕ :=
  (pairs.flatMap (·.2)).length

variable (o : QueryOptions)

/-! ### Kinds -/

/-- A word of a kind is kept behind those before it. -/
theorem ofKind_concat_some {kind? : Part → Option String} {p : Part} {w : String} (h : kind? p = some w)
    (parts : List Part) : ofKind o kind? (parts ++ [p]) = o.kept w (ofKind o kind? parts) := by
  have hwords : (parts ++ [p]).filterMap kind? = parts.filterMap kind? ++ [w] := by
    simp [h]
  rw [ofKind, hwords, List.filter_append, QueryOptions.kept]
  cases hw : isExcluded o.exclusions w <;> simp [hw, ofKind]

/-- A part of another kind leaves them. -/
theorem ofKind_concat_none {kind? : Part → Option String} {p : Part} (h : kind? p = none)
    (parts : List Part) : ofKind o kind? (parts ++ [p]) = ofKind o kind? parts := by
  have hwords : (parts ++ [p]).filterMap kind? = parts.filterMap kind? := by
    simp [h]
  rw [ofKind, hwords, ofKind]

/-! ### Pairs -/

/-- A value is added to those of its key. -/
theorem valuesOf_concat (pairs : List (String × String)) (key value name : String) :
    valuesOf (pairs ++ [(key, value)]) name =
      if key = name then valuesOf pairs name ++ [value] else valuesOf pairs name := by
  rw [valuesOf, List.filter_append, List.map_append]
  by_cases hname : key = name <;> simp [hname, valuesOf]

/-- The keys are in order of first appearance. -/
theorem keys_grouped (pairs : List (String × String)) :
    (grouped pairs).map (·.1) = (pairs.map (·.1)).eraseDups := by
  rw [grouped, List.map_map]
  exact List.map_id _

/-- A value more is put behind the values of its key, or its key is a new one. -/
theorem addPair_grouped (pairs : List (String × String)) (key value : String) :
    addPair (grouped pairs) key value = grouped (pairs ++ [(key, value)]) := by
  have hkeys : ((pairs ++ [(key, value)]).map (·.1)).eraseDups =
      (pairs.map (·.1)).eraseDups ++ (List.removeAll [key] (pairs.map (·.1))).eraseDups := by
    rw [List.map_append, List.eraseDups_append]
    rfl
  rw [addPair]
  -- A key that is there takes the value, and a new one comes last.
  by_cases hmem : key ∈ pairs.map (·.1)
  · have hnone : List.removeAll [key] (pairs.map (·.1)) = [] := by
      simpa [List.removeAll] using hmem
    have hany : (grouped pairs).any (·.1 == key) = true := by
      rw [any_key, keys_grouped]
      exact List.mem_eraseDups.mpr hmem
    rw [if_pos hany, grouped, grouped, hkeys, hnone, List.eraseDups_nil, List.append_nil, List.map_map]
    apply List.map_congr_left
    intro name _
    rw [Function.comp_apply, valuesOf_concat]
    by_cases hname : name = key
    · subst hname
      simp
    · simp [hname, Ne.symm hname]
  · have hsingle : List.removeAll [key] (pairs.map (·.1)) = [key] := by
      simpa [List.removeAll] using hmem
    have hany : ¬ (grouped pairs).any (·.1 == key) = true := by
      rw [any_key, keys_grouped]
      exact fun h => hmem (List.mem_eraseDups.mp h)
    have hfresh : valuesOf pairs key = [] := by
      have hfilter : pairs.filter (·.1 == key) = [] := by
        rw [List.filter_eq_nil_iff]
        intro p hp hkey
        exact hmem (beq_iff_eq.mp hkey ▸ List.mem_map_of_mem hp)
      rw [valuesOf, hfilter, List.map_nil]
    have hone : [key].eraseDups = [key] := rfl
    rw [if_neg hany, grouped, grouped, hkeys, hsingle, hone, List.map_append, List.map_singleton,
      valuesOf_concat, if_pos rfl, hfresh, List.nil_append]
    congr 1
    apply List.map_congr_left
    intro name hname
    rw [valuesOf_concat, if_neg]
    rintro rfl
    exact hmem (List.mem_eraseDups.mp hname)

/-- No key is there twice. -/
theorem nodup_keys_grouped (pairs : List (String × String)) : ((grouped pairs).map (·.1)).Nodup := by
  induction pairs using List.reverseRecOn with
  | nil => exact List.nodup_nil
  | append_singleton pairs p ih =>
    rw [← addPair_grouped]
    exact nodup_keys_addPair ih p.1 p.2

/-- Grouped pairs are the same pairs in another order. -/
theorem pairTokens_grouped_perm (pairs : List (String × String)) :
    (pairTokens (grouped pairs)).Perm (pairs.flatMap fun p => [p.1 ++ ":", p.2]) := by
  induction pairs using List.reverseRecOn with
  | nil => exact List.Perm.refl _
  | append_singleton pairs p ih =>
    rw [List.perm_iff_count] at ih ⊢
    intro token
    have hstep := count_pairTokens_addPair (nodup_keys_grouped pairs) p.1 p.2 token
    rw [addPair_grouped, ih token] at hstep
    have hpair : [p.1 ++ ":", p.2].count token = [p.1 ++ ":"].count token + [p.2].count token := by
      rw [← List.count_append]
      rfl
    rw [hstep, List.flatMap_append, List.count_append, List.flatMap_singleton, hpair]

/-- Each value has two tokens. -/
theorem length_pairTokens (pairs : List (String × List String)) :
    (pairTokens pairs).length = 2 * valueCount pairs := by
  induction pairs with
  | nil => rfl
  | cons p pairs ih =>
    have hvalues : (p.2.flatMap fun value => [p.1 ++ ":", value]).length = p.2.length * 2 := by
      simp [List.length_flatMap]
    rw [pairTokens] at ih
    rw [pairTokens, List.flatMap_cons, List.length_append, ih, hvalues, valueCount, valueCount,
      List.flatMap_cons, List.length_append]
    omega

/-- No value is lost. -/
theorem valueCount_grouped (pairs : List (String × String)) : valueCount (grouped pairs) = pairs.length := by
  have hlength := (pairTokens_grouped_perm pairs).length_eq
  have hpairs : (pairs.flatMap fun p => [p.1 ++ ":", p.2]).length = pairs.length * 2 := by
    simp [List.length_flatMap]
  rw [length_pairTokens, hpairs] at hlength
  omega

end Keywords

/-! ## Sorting part by part -/

variable {o : QueryOptions}

namespace Sorting

open Keywords

/-- The keywords of one more part are put where the part says. -/
theorem foldl_add_part {p : Part} (h : p.Fits o) (parts : List Part) :
    p.tokens.foldl (add o) ⟨none, ofParts o parts⟩ = ⟨none, ofParts o (parts ++ [p])⟩ := by
  have hpairs (hnone : p.pair? = none) :
      grouped ((parts ++ [p]).filterMap Part.pair?) = grouped (parts.filterMap Part.pair?) := by
    simp [hnone]
  cases p with
  | pair key value =>
    have hadded : (parts ++ [Part.pair key value]).filterMap Part.pair? =
        parts.filterMap Part.pair? ++ [(key, value)] := by
      simp [Part.pair?]
    rw [Part.tokens, List.foldl_cons, List.foldl_cons, List.foldl_nil, add_key o _ h.1 h.2,
      add_value o rfl, ofParts, ofParts, ofKind_concat_none o rfl, ofKind_concat_none o rfl,
      ofKind_concat_none o rfl, hadded, ← addPair_grouped]
  | negative w =>
    rw [Part.tokens, List.foldl_cons, List.foldl_nil, add_negative, ofParts, ofParts,
      ofKind_concat_none o rfl, ofKind_concat_some o rfl, ofKind_concat_none o rfl, hpairs rfl]
  | mandatory w =>
    rw [Part.tokens, List.foldl_cons, List.foldl_nil, add_mandatory, ofParts, ofParts,
      ofKind_concat_some o rfl, ofKind_concat_none o rfl, ofKind_concat_none o rfl, hpairs rfl]
  | optional w =>
    rw [Part.tokens, List.foldl_cons, List.foldl_nil, add_optional o _ h, ofParts, ofParts,
      ofKind_concat_none o rfl, ofKind_concat_none o rfl, ofKind_concat_some o rfl, hpairs rfl]

/-- Parts are sorted by their kinds. -/
theorem foldl_add_parts {parts : List Part} (h : ∀ p ∈ parts, p.Fits o) :
    (parts.flatMap Part.tokens).foldl (add o) {} = ⟨none, ofParts o parts⟩ := by
  induction parts using List.reverseRecOn with
  | nil => rfl
  | append_singleton parts p ih =>
    rw [List.forall_mem_append, List.forall_mem_singleton] at h
    rw [List.flatMap_append, List.foldl_append, ih h.1, List.flatMap_singleton, foldl_add_part h.2]

/-- Sorting leaves what the parts ask for, and the key that waits for a value. -/
theorem foldl_add_cut {c : Cut} (h : c.Fits o) :
    c.tokens.foldl (add o) {} = ⟨c.last, ofParts o c.parts⟩ := by
  rw [Cut.tokens, List.foldl_append, foldl_add_parts h.parts]
  cases hlast : c.last with
  | none => rfl
  | some key =>
    obtain ⟨hpairing, hsign⟩ := h.last key hlast
    show add o ⟨none, ofParts o c.parts⟩ (key ++ ":") = _
    rw [add_key o _ hpairing hsign]

end Sorting

/-! ## Cutting -/

/-- A keyword is a part of its own, or it opens a pair. -/
theorem Part.exists_of_token (o : QueryOptions) (token : String) :
    (∃ p : Part, p.Fits o ∧ p.tokens = [token]) ∨ ∃ key, o.Opens key ∧ token = key ++ ":" := by
  rcases Sorting.add_cases o {} token with ⟨key, hkey, -⟩ | ⟨w, rfl, -⟩ | ⟨w, rfl, -⟩ |
    ⟨key, rfl, hpairing, hsign, -⟩ | ⟨hplain, -⟩
  · cases hkey
  · exact Or.inl ⟨.negative w, trivial, rfl⟩
  · exact Or.inl ⟨.mandatory w, trivial, rfl⟩
  · exact Or.inr ⟨key, ⟨hpairing, hsign⟩, rfl⟩
  · exact Or.inl ⟨.optional token, hplain, rfl⟩

/-- A part in front of a cut. -/
theorem Cut.Fits.cons {c : Cut} (h : c.Fits o) {p : Part} (hp : p.Fits o) :
    Cut.Fits o ⟨p :: c.parts, c.last⟩ :=
  ⟨List.forall_mem_cons.mpr ⟨hp, h.parts⟩, h.last⟩

/-- The tokens of a part stand in front of those behind it. -/
theorem Cut.tokens_cons (p : Part) (c : Cut) :
    Cut.tokens ⟨p :: c.parts, c.last⟩ = p.tokens ++ c.tokens := by
  rw [Cut.tokens, Cut.tokens, List.flatMap_cons, List.append_assoc]

/-- All keywords can be cut: a key takes the keyword behind it along, whatever this looks like. -/
theorem exists_cut (o : QueryOptions) (ts : List String) : ∃ c : Cut, c.Fits o ∧ c.tokens = ts := by
  induction ts using List.twoStepInduction with
  | nil => exact ⟨⟨[], none⟩, ⟨by simp, by simp⟩, rfl⟩
  | singleton token =>
    rcases Part.exists_of_token o token with ⟨p, hp, htoken⟩ | ⟨key, hkey, rfl⟩
    · refine ⟨⟨[p], none⟩, ⟨List.forall_mem_singleton.mpr hp, by simp⟩, ?_⟩
      rw [Cut.tokens, List.flatMap_singleton, htoken]
      rfl
    · refine ⟨⟨[], some key⟩, ⟨by simp, ?_⟩, rfl⟩
      rintro _ ⟨⟩
      exact hkey
  | cons_cons token value ts ih ih' =>
    rcases Part.exists_of_token o token with ⟨p, hp, htoken⟩ | ⟨key, hkey, rfl⟩
    · obtain ⟨c, hc, hts⟩ := ih' value
      refine ⟨_, hc.cons hp, ?_⟩
      rw [Cut.tokens_cons, hts, htoken]
      rfl
    · obtain ⟨c, hc, hts⟩ := ih
      refine ⟨_, hc.cons (p := .pair key value) hkey, ?_⟩
      rw [Cut.tokens_cons, hts]
      rfl

/-! ## Counting -/

/-- A word is kept, or counted among the excluded ones. -/
theorem QueryOptions.length_kept (o : QueryOptions) (w : String) (words : List String) :
    (o.kept w words).length + [w].countP (isExcluded o.exclusions) = words.length + 1 := by
  rw [kept]
  cases hw : isExcluded o.exclusions w <;> simp [hw]

/-- A single keyword is of one kind, or it is noise. -/
theorem Keywords.length_singles (o : QueryOptions) (parts : List Part) :
    (ofKind o Part.mandatory? parts).length + (ofKind o Part.negative? parts).length +
        (ofKind o Part.optional? parts).length + excludedCount o parts =
      (parts.filterMap Part.single?).length := by
  -- The last part adds to one of the three kinds, or is counted as excluded.
  induction parts using List.reverseRecOn with
  | nil => rfl
  | append_singleton parts p ih =>
    have hsingles : (parts ++ [p]).filterMap Part.single? =
        parts.filterMap Part.single? ++ p.single?.toList := by
      rw [List.filterMap_append]
      cases p <;> rfl
    rw [excludedCount] at ih
    rw [excludedCount, hsingles, List.countP_append, List.length_append]
    cases p with
    | pair key value =>
      rw [ofKind_concat_none o rfl, ofKind_concat_none o rfl, ofKind_concat_none o rfl]
      exact ih
    | negative w =>
      have hkept := o.length_kept w (ofKind o Part.negative? parts)
      rw [ofKind_concat_none o rfl, ofKind_concat_some o rfl, ofKind_concat_none o rfl]
      simp only [Part.single?, Option.toList, List.length_singleton]
      omega
    | mandatory w =>
      have hkept := o.length_kept w (ofKind o Part.mandatory? parts)
      rw [ofKind_concat_some o rfl, ofKind_concat_none o rfl, ofKind_concat_none o rfl]
      simp only [Part.single?, Option.toList, List.length_singleton]
      omega
    | optional w =>
      have hkept := o.length_kept w (ofKind o Part.optional? parts)
      rw [ofKind_concat_none o rfl, ofKind_concat_none o rfl, ofKind_concat_some o rfl]
      simp only [Part.single?, Option.toList, List.length_singleton]
      omega

/-- A pair has two tokens, any other part one. -/
theorem Part.length_flatMap_tokens (parts : List Part) :
    (parts.flatMap tokens).length =
      (parts.filterMap single?).length + 2 * (parts.filterMap pair?).length := by
  induction parts with
  | nil => rfl
  | cons p parts ih =>
    rw [List.flatMap_cons, List.length_append, ih]
    cases p <;>
      simp only [tokens, single?, pair?, List.filterMap_cons, List.length_cons, List.length_nil] <;>
      omega

/-- Each keyword is counted at one place. -/
theorem Cut.length_tokens (o : QueryOptions) (c : Cut) :
    let k := Keywords.ofParts o c.parts
    c.tokens.length = k.mandatory.length + k.negative.length + k.optional.length +
      Keywords.excludedCount o c.parts + 2 * Keywords.valueCount k.pairs + c.last.toList.length := by
  intro k
  have hsingles : k.mandatory.length + k.negative.length + k.optional.length +
      Keywords.excludedCount o c.parts = (c.parts.filterMap Part.single?).length :=
    Keywords.length_singles o c.parts
  have hvalues : Keywords.valueCount k.pairs = (c.parts.filterMap Part.pair?).length :=
    Keywords.valueCount_grouped _
  rw [hsingles, hvalues, ← Part.length_flatMap_tokens, Cut.tokens, List.length_append, List.length_map]

namespace Criterion

/-- The keywords of a search string, runs of white space taken as single spaces. -/
def readTokens (query : String) : List String :=
  tokens (String.ofList (collapseChars query.toList))

/-- So a query is sorted as its parts are. -/
theorem sort_of_cut {query : String} {c : Cut} (hfits : c.Fits o) (hc : c.tokens = readTokens query) :
    sort o query = Keywords.ofParts o c.parts := by
  rw [readTokens, tokens, String.toList_ofList] at hc
  rw [sort_eq, ← hc, Sorting.foldl_add_cut hfits]

/-- **Every keyword counts once.** The keywords of a search string can be cut into pairs, single keywords
and perhaps a last key. However they are cut, the search string asks for what the parts say; or, if they
say nothing, for the whole search string. Each keyword is one of a kind, noise, part of a pair, or the
last key. -/
theorem read_by_cut (o : QueryOptions) {query : String} (hblank : isBlank query = false) :
    (∃ c : Cut, c.Fits o ∧ c.tokens = readTokens query) ∧
      ∀ c : Cut, c.Fits o → c.tokens = readTokens query →
        let asked := Keywords.ofParts o c.parts
        let k := (read o query).keywords
        (asked.isEmpty = true → k = { optional := [query] }) ∧
          (asked.isEmpty = false → k = asked ∧
            (readTokens query).length = k.mandatory.length + k.negative.length + k.optional.length +
              Keywords.excludedCount o c.parts + 2 * Keywords.valueCount k.pairs +
              c.last.toList.length) := by
  refine ⟨exists_cut o (readTokens query), ?_⟩
  intro c hfits hc asked k
  have hsort := sort_of_cut hfits hc
  have hk : k = if asked.isEmpty then { optional := [query] } else asked := by
    show (read o query).keywords = _
    rw [read, hblank, hsort]
    rfl
  constructor
  · intro hnone
    rw [hk, if_pos hnone]
  · intro hsome
    have hasked : k = asked := by rw [hk, if_neg (by simp [hsome])]
    refine ⟨hasked, ?_⟩
    rw [hasked, ← hc]
    exact c.length_tokens o

/-- A key that is used twice, a mandatory keyword with a colon, noise, and a key at the end. -/
theorem read_by_cut_repeated_key :
    let o : QueryOptions := { exclusions := [.literal "of"] }
    let query := "tag:-of  Of +k:\ttag:\"b c\" z:"
    let c : Cut := ⟨[.pair "tag" "-of", .optional "Of", .mandatory "k:", .pair "tag" "b c"], some "z"⟩
    isBlank query = false ∧ c.Fits o ∧ c.tokens = readTokens query ∧
      (Keywords.ofParts o c.parts).isEmpty = false ∧
      (read o query).keywords = { mandatory := ["k:"], pairs := [("tag", ["-of", "b c"])] } ∧
      (readTokens query).length = 7 := by
  intro o query c
  have hblank : isBlank query = false := by decide +kernel
  have hfits : c.Fits o := by
    refine ⟨?_, ?_⟩
    · intro p hp
      simp only [c, List.mem_cons, List.not_mem_nil, or_false] at hp
      rcases hp with rfl | rfl | rfl | rfl
      · exact ⟨rfl, by decide +kernel⟩
      · exact ⟨by decide +kernel, by decide +kernel⟩
      · trivial
      · exact ⟨rfl, by decide +kernel⟩
    · rintro _ ⟨⟩
      exact ⟨rfl, by decide +kernel⟩
  have htokens : c.tokens = readTokens query := by decide +kernel
  have hasked : Keywords.ofParts o c.parts =
      { mandatory := ["k:"], pairs := [("tag", ["-of", "b c"])] } := by
    decide +kernel
  have hsome : (Keywords.ofParts o c.parts).isEmpty = false := by
    rw [hasked]
    rfl
  obtain ⟨-, hcut⟩ := read_by_cut o hblank
  obtain ⟨hread, hlength⟩ := (hcut c hfits htokens).2 hsome
  have hcount : Keywords.excludedCount o c.parts = 1 := by decide +kernel
  rw [hread, hasked, hcount] at hlength
  exact ⟨hblank, hfits, htokens, hsome, hread.trans hasked, hlength⟩

end Criterion

end SearchQuery
