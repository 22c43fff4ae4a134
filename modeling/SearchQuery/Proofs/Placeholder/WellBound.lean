import Mathlib.Algebra.Group.Nat.Even
import Mathlib.Data.List.Basic
import Mathlib.Data.List.Forall2
import SearchQuery.Fragment
import SearchQuery.Proofs.Placeholder.Position

/-!
# Well-bound fragments

A fragment is well bound when its single quotes are closed and it has one parameter for every
placeholder. `reading` shows what its parameters are bound to: the text with the parameter of every
placeholder in the placeholder's place.

## Shape of an assembled fragment

Statements are made by writing texts of their own between copies of other fragments.
`Assembles f sources` says so of a fragment: it is cut into parts, each a neutral text without quotes
and placeholders or a copy of a source, and the copies are the sources from left to right. The cuts
fall between closed quotes, so the reading of the whole is the readings of the parts put together
(`CutInto.wellBound_reading`), and every parameter stays with the placeholder it came with.
-/

namespace SearchQuery

open Statement

/-! ## Placeholders of texts put together -/

namespace Statement

/-- Behind text that leaves its quotes, placeholders are those of the rest. -/
theorem isPlaceholder_append_right {front : List Char} (heven : Even (front.count apostrophe))
    (back : List Char) (k : ℕ) :
    IsPlaceholder (front ++ back) (front.length + k) ↔ IsPlaceholder back k := by
  rw [IsPlaceholder, IsPlaceholder, List.getElem?_append_right (Nat.le_add_right _ _),
    Nat.add_sub_cancel_left, List.take_length_add_append, List.count_append, Nat.even_add]
  simp only [heven, true_iff]

/-- Behind closed quotes the placeholders of a text are those it has alone. -/
theorem placeholders_append {front : List Char} (heven : Even (front.count apostrophe))
    (back : List Char) :
    placeholders (front ++ back) =
      placeholders front ++ (placeholders back).map (front.length + ·) := by
  rw [placeholders, List.length_append, List.range_add, List.filter_append, List.filter_map]
  congr 1
  · refine List.filter_congr fun k hk => ?_
    simp only [isPlaceholder_append (List.mem_range.mp hk)]
  · congr 1
    refine List.filter_congr fun k _ => ?_
    simp only [Function.comp_apply, isPlaceholder_append_right heven]

/-- The characters of a text, with the value at its index in the place of every placeholder. -/
def readOff {α : Type} (cs : List Char) (params : List α) : List (Char ⊕ Option α) :=
  cs.zipIdx.map fun p =>
    if IsPlaceholder cs p.2 then .inr params[(placeholders (cs.take p.2)).length]? else .inl p.1

/-- Texts with closed quotes are read one after the other. -/
theorem readOff_append {α : Type} {front : List Char} {params : List α}
    (heven : Even (front.count apostrophe))
    (hlen : (placeholders front).length = params.length) (back : List Char) (more : List α) :
    readOff (front ++ back) (params ++ more) = readOff front params ++ readOff back more := by
  rw [readOff, List.zipIdx_append, List.map_append]
  congr 1
  · refine List.map_congr_left fun p hp => ?_
    have hk : p.2 < front.length := by
      have := List.snd_lt_of_mem_zipIdx hp
      omega
    simp only [isPlaceholder_append hk, List.take_append_of_le_length (Nat.le_of_lt hk)]
    by_cases hplace : IsPlaceholder front p.2
    · have hlt := length_placeholders_take_lt hplace
      rw [if_pos hplace, if_pos hplace, List.getElem?_append_left (by omega)]
    · rw [if_neg hplace, if_neg hplace]
  · rw [readOff, Nat.zero_add, List.zipIdx_eq_map_add, List.map_map]
    refine List.map_congr_left fun p _ => ?_
    have hindex : (placeholders ((front ++ back).take (p.2 + front.length))).length =
        params.length + (placeholders (back.take p.2)).length := by
      rw [Nat.add_comm, List.take_length_add_append, placeholders_append heven,
        List.length_append, List.length_map, hlen]
    simp only [Function.comp_apply, Nat.add_comm p.2 front.length,
      isPlaceholder_append_right heven] at hindex ⊢
    rw [hindex, List.getElem?_append_right (Nat.le_add_right _ _), Nat.add_sub_cancel_left]

/-- A text without single quotes and question marks. -/
def Neutral (text : String) : Prop :=
  apostrophe ∉ text.toList ∧ '?' ∉ text.toList

instance (text : String) : Decidable (Neutral text) :=
  inferInstanceAs (Decidable (_ ∧ _))

/-- Neutral texts may follow one another. -/
theorem Neutral.append {s t : String} (hs : Neutral s) (ht : Neutral t) : Neutral (s ++ t) := by
  rw [Neutral, String.toList_append, List.mem_append, List.mem_append, not_or, not_or]
  exact ⟨⟨hs.1, ht.1⟩, hs.2, ht.2⟩

/-- A neutral text has no placeholder. -/
theorem Neutral.not_isPlaceholder {text : String} (h : Neutral text) (k : ℕ) :
    ¬ IsPlaceholder text.toList k := fun hk =>
  h.2 (List.mem_of_getElem? hk.1)

end Statement

namespace Fragment

variable {α : Type}

/-- The quotes of a fragment are closed, and it has one parameter for every placeholder. -/
structure WellBound (f : Fragment α) : Prop where
  even_quotes : Even (f.sql.toList.count apostrophe)
  length_placeholders : (placeholders f.sql.toList).length = f.params.length

instance (f : Fragment α) : Decidable f.WellBound :=
  decidable_of_iff (Even (f.sql.toList.count apostrophe) ∧
      (placeholders f.sql.toList).length = f.params.length)
    ⟨fun h => ⟨h.1, h.2⟩, fun h => ⟨h.1, h.2⟩⟩

/-- The text of a fragment, with its parameters in the places of its placeholders. -/
def reading (f : Fragment α) : List (Char ⊕ Option α) :=
  readOff f.sql.toList f.params

/-! ## Parts -/

/-- A part of a fragment: a text of its own, or the copy of another fragment. -/
inductive Part (α : Type) where
  | own (text : String)
  | copy (f : Fragment α)

namespace Part

/-- The part as a fragment. -/
def fragment : Part α → Fragment α
  | own text => .ofSql text
  | copy f => f

/-- The fragment that is copied. -/
def source? : Part α → Option (Fragment α)
  | own _ => none
  | copy f => some f

/-- The reading of a part: a text of its own holds characters only. -/
def reading : Part α → List (Char ⊕ Option α)
  | own text => text.toList.map .inl
  | copy f => f.reading

end Part

/-- The fragment is cut into parts: neutral texts and the copies of the sources, in order. -/
structure CutInto (f : Fragment α) (parts : List (Part α)) (sources : List (Fragment α)) : Prop where
  sql_eq : f.sql.toList = parts.flatMap (·.fragment.sql.toList)
  params_eq : f.params = parts.flatMap (·.fragment.params)
  sources_eq : parts.filterMap Part.source? = sources
  neutral : ∀ text, .own text ∈ parts → Neutral text

/-- The fragment is made of the sources, in order, and of neutral texts. -/
def Assembles (f : Fragment α) (sources : List (Fragment α)) : Prop :=
  ∃ parts, f.CutInto parts sources

/-- A neutral text is read as its own characters. -/
theorem reading_ofSql {text : String} (h : Neutral text) :
    (ofSql text : Fragment α).reading = text.toList.map .inl := by
  rw [reading, readOff, ofSql]
  simp only [if_neg (h.not_isPlaceholder _)]
  calc text.toList.zipIdx.map (fun p => Sum.inl p.1)
      = (text.toList.zipIdx.map Prod.fst).map .inl := by rw [List.map_map]; rfl
    _ = text.toList.map .inl := by rw [List.zipIdx_map_fst]

/-- So it is well bound by itself. -/
theorem wellBound_ofSql {text : String} (h : Neutral text) : (ofSql text : Fragment α).WellBound := by
  refine ⟨?_, ?_⟩
  · rw [ofSql, List.count_eq_zero_of_not_mem h.1]
    exact Even.zero
  · rw [ofSql, placeholders, List.filter_eq_nil_iff.mpr fun k _ => by
      simpa using h.not_isPlaceholder k]
    rfl

/-- **Parts keep their parameters.** A fragment made of well-bound sources is well bound, and it is
read part by part. -/
theorem CutInto.wellBound_reading {f : Fragment α} {parts : List (Part α)}
    {sources : List (Fragment α)} (h : f.CutInto parts sources)
    (hsources : ∀ s ∈ sources, s.WellBound) :
    f.WellBound ∧ f.reading = parts.flatMap Part.reading := by
  have hparts : ∀ p ∈ parts, p.fragment.WellBound ∧ p.fragment.reading = p.reading := by
    intro p hp
    cases p with
    | own text => exact ⟨wellBound_ofSql (h.neutral text hp), reading_ofSql (h.neutral text hp)⟩
    | copy s =>
      refine ⟨hsources s ?_, rfl⟩
      rw [← h.sources_eq]
      exact List.mem_filterMap.mpr ⟨_, hp, rfl⟩
  obtain ⟨hsql, hparams, -, -⟩ := h
  suffices hcut : Even ((parts.flatMap (·.fragment.sql.toList)).count apostrophe) ∧
      (placeholders (parts.flatMap (·.fragment.sql.toList))).length =
        (parts.flatMap (·.fragment.params)).length ∧
      readOff (parts.flatMap (·.fragment.sql.toList)) (parts.flatMap (·.fragment.params)) =
        parts.flatMap Part.reading by
    refine ⟨⟨?_, ?_⟩, ?_⟩
    · rw [hsql]
      exact hcut.1
    · rw [hsql, hparams]
      exact hcut.2.1
    · rw [reading, hsql, hparams]
      exact hcut.2.2
  clear hsql hparams
  -- Each part leaves the quotes closed, so the parts behind it are read as if they stood alone.
  induction parts with
  | nil => exact ⟨Even.zero, rfl, rfl⟩
  | cons p parts ih =>
    obtain ⟨heven, hlen, hread⟩ := ih fun q hq => hparts q (List.mem_cons_of_mem _ hq)
    obtain ⟨hbound, hp⟩ := hparts p List.mem_cons_self
    simp only [List.flatMap_cons]
    refine ⟨?_, ?_, ?_⟩
    · rw [List.count_append]
      exact hbound.even_quotes.add heven
    · rw [placeholders_append hbound.even_quotes, List.length_append, List.length_map,
        List.length_append, hbound.length_placeholders, hlen]
    · rw [readOff_append hbound.even_quotes hbound.length_placeholders, hread, ← hp, reading]

/-- The parameter of the placeholder at `k`. -/
def paramAt (f : Fragment α) (k : ℕ) : Option α :=
  f.params[(placeholders (f.sql.toList.take k)).length]?

/-- Every placeholder of a well bound fragment has its parameter. -/
theorem WellBound.exists_paramAt {f : Fragment α} (h : f.WellBound) {k : ℕ}
    (hk : IsPlaceholder f.sql.toList k) : ∃ v, f.paramAt k = some v := by
  have hlt := length_placeholders_take_lt hk
  rw [h.length_placeholders] at hlt
  exact ⟨_, List.getElem?_eq_getElem hlt⟩

/-- The placeholder at `k` is the copy of one that a source has, with the same parameter. -/
structure CopiedFrom (f s : Fragment α) (k : ℕ) (front back : List Char) (j : ℕ) : Prop where
  sql_eq : f.sql.toList = front ++ s.sql.toList ++ back
  index_eq : k = front.length + j
  placeholder : IsPlaceholder s.sql.toList j
  param_eq : ∃ v, s.paramAt j = some v ∧ f.paramAt k = some v

/-- A position in joined texts falls into one of them. -/
theorem exists_part_of_lt {β : Type} {g : β → List Char} {bs : List β} {k : ℕ}
    (hk : k < (bs.flatMap g).length) :
    ∃ front b back j, bs = front ++ b :: back ∧ k = (front.flatMap g).length + j ∧
      j < (g b).length := by
  induction bs generalizing k with
  | nil => cases hk
  | cons b bs ih =>
    rw [List.flatMap_cons, List.length_append] at hk
    by_cases hlt : k < (g b).length
    · exact ⟨[], b, bs, k, rfl, by simp, hlt⟩
    · obtain ⟨front, c, back, j, rfl, hj, hlt'⟩ := ih (k := k - (g b).length) (by omega)
      refine ⟨b :: front, c, back, j, rfl, ?_, hlt'⟩
      rw [List.flatMap_cons, List.length_append]
      omega

/-- **Every placeholder is a copy.** In a fragment made of well-bound sources, each placeholder is
one of a source and is bound to the parameter that it has there. -/
theorem CutInto.exists_copiedFrom {f : Fragment α} {parts : List (Part α)}
    {sources : List (Fragment α)} (h : f.CutInto parts sources)
    (hsources : ∀ s ∈ sources, s.WellBound) {k : ℕ} (hk : IsPlaceholder f.sql.toList k) :
    ∃ s ∈ sources, ∃ front back j, f.CopiedFrom s k front back j := by
  have hlt : k < (parts.flatMap (·.fragment.sql.toList)).length := by
    rw [← h.sql_eq]
    exact (List.getElem?_eq_some_iff.mp hk.1).1
  obtain ⟨before, p, after, j, rfl, rfl, hj⟩ := exists_part_of_lt hlt
  -- The parts in front of that of the placeholder are well bound together, so they take exactly
  -- their own parameters away.
  have hbefore : CutInto { sql := String.ofList (before.flatMap (·.fragment.sql.toList))
                           params := before.flatMap (·.fragment.params) } before
      (before.filterMap Part.source?) :=
    ⟨String.toList_ofList, rfl, rfl, fun t ht => h.neutral t (List.mem_append_left _ ht)⟩
  have hbound := (hbefore.wellBound_reading fun s hs => hsources s (by
    rw [← h.sources_eq, List.filterMap_append]
    exact List.mem_append_left _ hs)).1
  have heven := hbound.even_quotes
  have hlen := hbound.length_placeholders
  rw [String.toList_ofList] at heven hlen
  have hsql := h.sql_eq
  rw [List.flatMap_append, List.flatMap_cons] at hsql
  rw [hsql, isPlaceholder_append_right heven, isPlaceholder_append hj] at hk
  cases p with
  | own text => exact absurd hk ((h.neutral text (by simp)).not_isPlaceholder j)
  | copy s =>
    have hs : s ∈ sources := by
      rw [← h.sources_eq]
      exact List.mem_filterMap.mpr ⟨.copy s, by simp, rfl⟩
    replace hj : j < s.sql.toList.length := hj
    replace hk : IsPlaceholder s.sql.toList j := hk
    obtain ⟨v, hv⟩ := (hsources s hs).exists_paramAt hk
    refine ⟨s, hs, _, _, j, by rw [hsql, List.append_assoc]; rfl, rfl, hk, v, hv, ?_⟩
    have hcount := length_placeholders_take_lt hk
    rw [(hsources s hs).length_placeholders] at hcount
    rw [paramAt, hsql, h.params_eq, List.take_length_add_append, placeholders_append heven,
      List.length_append, List.length_map, hlen, List.flatMap_append, List.flatMap_cons,
      List.getElem?_append_right (Nat.le_add_right _ _), Nat.add_sub_cancel_left]
    change (s.params ++ _)[(placeholders ((s.sql.toList ++ _).take j)).length]? = some v
    rw [List.take_append_of_le_length (Nat.le_of_lt hj), List.getElem?_append_left hcount]
    exact hv

/-- What is put together of well bound fragments is well bound. -/
theorem Assembles.wellBound {f : Fragment α} {sources : List (Fragment α)} (h : f.Assembles sources)
    (hsources : ∀ s ∈ sources, s.WellBound) : f.WellBound := by
  obtain ⟨parts, hcut⟩ := h
  exact (hcut.wellBound_reading hsources).1

/-- What is assembled has the parameters of the sources, in order. -/
theorem Assembles.params_eq {f : Fragment α} {sources : List (Fragment α)} (h : f.Assembles sources) :
    f.params = sources.flatMap (·.params) := by
  obtain ⟨parts, hcut⟩ := h
  rw [hcut.params_eq, ← hcut.sources_eq]
  clear hcut
  induction parts with
  | nil => rfl
  | cons p parts ih =>
    rw [List.flatMap_cons, ih]
    cases p with
    | own text => rfl
    | copy s => rfl

/-! ## Assembling -/

theorem Assembles.ofSql {text : String} (h : Neutral text) :
    (Fragment.ofSql text : Fragment α).Assembles [] := by
  refine ⟨[.own text], by simp [Part.fragment], by simp [Part.fragment], rfl, ?_⟩
  intro t ht
  cases List.mem_singleton.mp ht
  exact h

theorem Assembles.copy (f : Fragment α) : f.Assembles [f] :=
  ⟨[.copy f], by simp [Part.fragment], by simp [Part.fragment], rfl, fun t ht => by simp at ht⟩

theorem Assembles.empty : (Fragment.empty : Fragment α).Assembles [] :=
  ⟨[], rfl, rfl, rfl, fun t ht => by simp at ht⟩

/-- Texts put together, with their parameters, are made of the sources of both. -/
theorem Assembles.append {f g h : Fragment α} {sources more : List (Fragment α)}
    (hf : f.Assembles sources) (hg : g.Assembles more) (hsql : h.sql = f.sql ++ g.sql)
    (hparams : h.params = f.params ++ g.params) : h.Assembles (sources ++ more) := by
  obtain ⟨parts, hf⟩ := hf
  obtain ⟨parts', hg⟩ := hg
  refine ⟨parts ++ parts', ?_, ?_, ?_, ?_⟩
  · rw [hsql, String.toList_append, hf.sql_eq, hg.sql_eq, List.flatMap_append]
  · rw [hparams, hf.params_eq, hg.params_eq, List.flatMap_append]
  · rw [List.filterMap_append, hf.sources_eq, hg.sources_eq]
  · intro text htext
    rcases List.mem_append.mp htext with htext | htext
    · exact hf.neutral text htext
    · exact hg.neutral text htext

/-- A neutral text in front. -/
theorem Assembles.behind {f g : Fragment α} {sources : List (Fragment α)} {text : String}
    (hf : f.Assembles sources) (ht : Neutral text) (hsql : g.sql = text ++ f.sql)
    (hparams : g.params = f.params) : g.Assembles sources :=
  (Assembles.ofSql ht).append hf hsql hparams

/-- A neutral text at the end. -/
theorem Assembles.before {f g : Fragment α} {sources : List (Fragment α)} {text : String}
    (hf : f.Assembles sources) (ht : Neutral text) (hsql : g.sql = f.sql ++ text)
    (hparams : g.params = f.params) : g.Assembles sources := by
  have h := hf.append (Assembles.ofSql ht) hsql (by rw [hparams]; simp [Fragment.ofSql])
  rwa [List.append_nil] at h

/-- A fragment without text is made of no source that has text. -/
theorem Assembles.sources_eq_nil {f : Fragment α} {sources : List (Fragment α)}
    (h : f.Assembles sources) (hempty : f.isEmpty = true)
    (hsources : ∀ s ∈ sources, s.isEmpty = false) : sources = [] := by
  obtain ⟨parts, hcut⟩ := h
  refine List.eq_nil_iff_forall_not_mem.mpr fun s hs => ?_
  have hsource := hs
  rw [← hcut.sources_eq] at hsource
  obtain ⟨p, hp, hps⟩ := List.mem_filterMap.mp hsource
  have hnil : parts.flatMap (·.fragment.sql.toList) = [] := by
    rw [← hcut.sql_eq]
    simpa [isEmpty] using hempty
  have hpart := List.flatMap_eq_nil_iff.mp hnil p hp
  cases p with
  | own text => cases hps
  | copy g =>
    cases hps
    have hblank : s.sql = "" := String.toList_eq_nil_iff.mp hpart
    have hfull := hsources s hs
    rw [isEmpty, hblank] at hfull
    cases hfull

/-! ## Joining -/

/-- A fragment in parentheses, or as it is. -/
def wrapped (wrap : Bool) (f : Fragment α) : Fragment α :=
  { sql := if wrap then parenthesized f.sql else f.sql, params := f.params }

/-- Parentheses are neutral. -/
theorem Assembles.wrapped {f : Fragment α} {sources : List (Fragment α)} (h : f.Assembles sources)
    (wrap : Bool) : (f.wrapped wrap).Assembles sources := by
  cases wrap with
  | false =>
    obtain ⟨parts, hcut⟩ := h
    exact ⟨parts, hcut.sql_eq, hcut.params_eq, hcut.sources_eq, hcut.neutral⟩
  | true =>
    have hopen : ({ sql := "(" ++ f.sql, params := f.params } : Fragment α).Assembles sources :=
      h.behind (by decide) rfl rfl
    exact hopen.before (by decide) rfl rfl

/-- What is empty is left out. -/
theorem join_cons_of_isEmpty (separator : String) (wrap : Bool) {f : Fragment α}
    (fs : List (Fragment α)) (h : f.isEmpty = true) :
    join separator wrap (f :: fs) = join separator wrap fs := by
  rw [join, join, List.filter_cons_of_neg (by simp [h])]

/-- The first fragment that has text stands in front, with a separator behind it if more follow. -/
theorem join_cons_of_not_isEmpty (separator : String) (wrap : Bool) {f : Fragment α}
    (fs : List (Fragment α)) (h : f.isEmpty = false) :
    join separator wrap (f :: fs) =
      if fs.filter (!·.isEmpty) = [] then f.wrapped wrap
      else
        { sql := (f.wrapped wrap).sql ++ separator ++ (join separator wrap fs).sql
          params := f.params ++ (join separator wrap fs).params } := by
  rw [join, List.filter_cons_of_pos (by simp [h])]
  by_cases hrest : fs.filter (!·.isEmpty) = []
  · rw [if_pos hrest, hrest]
    simp [Fragment.wrapped]
  · rw [if_neg hrest, join, List.map_cons, List.flatMap_cons,
      String.intercalate_cons_of_ne_nil (by simpa using hrest)]
    rfl

/-- Joined fragments are made of the sources of each, in order. -/
theorem Assembles.join {separator : String} (hsep : Neutral separator) (wrap : Bool)
    {fs : List (Fragment α)} {sources : List (List (Fragment α))}
    (h : List.Forall₂ Assembles fs sources)
    (hfull : ∀ s ∈ sources.flatten, s.isEmpty = false) :
    (Fragment.join separator wrap fs).Assembles sources.flatten := by
  induction h with
  | nil => exact Assembles.empty
  | @cons f own fs sources hf _ ih =>
    rw [List.flatten_cons] at hfull ⊢
    have hrest := ih fun s hs => hfull s (List.mem_append_right _ hs)
    by_cases hempty : f.isEmpty = true
    · rw [hf.sources_eq_nil hempty fun s hs => hfull s (List.mem_append_left _ hs),
        List.nil_append, join_cons_of_isEmpty separator wrap fs hempty]
      exact hrest
    rw [join_cons_of_not_isEmpty separator wrap fs (by simpa using hempty)]
    split
    next hnone =>
      have hjoin : (Fragment.join separator wrap fs).isEmpty = true := by
        rw [Fragment.join, hnone]
        rfl
      rw [hrest.sources_eq_nil hjoin fun s hs => hfull s (List.mem_append_right _ hs),
        List.append_nil]
      exact hf.wrapped wrap
    next =>
      have hfront : ({ sql := (f.wrapped wrap).sql ++ separator, params := f.params } :
          Fragment α).Assembles own := (hf.wrapped wrap).before hsep rfl rfl
      exact hfront.append hrest rfl rfl

end Fragment

end SearchQuery
