import Mathlib.Data.List.TakeWhile
import SearchQuery.Proofs.Search.LastWrite
import SearchQuery.Proofs.Search.Selection

/-!
# Columns and their attributes

A table that a class is bound to predefines an attribute for every column, which asks for equality with it,
and two bounds for every column whose values are ordered. All of these are names in one name space, and the
last declaration of a name counts.

## Shape of a binding

Each predefined attribute is a builder that is rewritten to the operator on its column, without a
conversion. So a binding is a row of such builders, and what a search finds under a name is told by the last
one of them that gives it (`lookup_withAttributes`).
-/

namespace SearchQuery

/-! ## Names of bounds -/

namespace Text

/-- The intervals of the first table lie in intervals of the second one, in the same order. -/
def covers : List (Nat × Nat) → List (Nat × Nat) → Bool
  | front, [] => front.isEmpty
  | front, q :: back => covers (front.dropWhile fun r => decide (q.1 ≤ r.1) && decide (r.2 ≤ q.2)) back

/-- Ranges that cover others hold all that they do. -/
theorem inRanges_of_covers {front back : List (Nat × Nat)} (h : covers front back = true) {n : Nat}
    (hn : inRanges front n = true) : inRanges back n = true := by
  induction back generalizing front with
  | nil =>
    rw [covers, List.isEmpty_iff] at h
    rw [h] at hn
    cases hn
  | cons q back ih =>
    rw [inRanges, List.any_cons, Bool.or_eq_true]
    rw [inRanges, List.any_eq_true] at hn
    obtain ⟨r, hr, hn⟩ := hn
    rw [← List.takeWhile_append_dropWhile (l := front)
      (p := fun r => decide (q.1 ≤ r.1) && decide (r.2 ≤ q.2)), List.mem_append] at hr
    rcases hr with hr | hr
    · have hinside := List.mem_takeWhile_imp hr
      simp only [Bool.and_eq_true, decide_eq_true_eq] at hn hinside ⊢
      exact Or.inl ⟨by omega, by omega⟩
    · exact Or.inr (ih h (List.any_eq_true.mpr ⟨r, hr, hn⟩))

/-- What may start an identifier may go on in one. -/
theorem isIdentifierPart_of_start {c : Char} (h : isIdentifierStart c = true) :
    isIdentifierPart c = true := by
  rw [isIdentifierStart] at h
  rw [isIdentifierPart]
  split at h
  next hascii =>
    rw [if_pos hascii, Char.isAlphanum]
    rw [Bool.or_eq_true] at h ⊢
    rcases h with h | h
    · exact Or.inl (by rw [h, Bool.true_or])
    · exact Or.inr h
  next hascii =>
    rw [if_neg hascii]
    exact inRanges_of_covers (by decide +kernel) h

end Text

/-- A legal name that no name of every search starts with may stand in front of a legal name. -/
theorem isAttributeName_append {front key : String} (hfront : isAttributeName front = true)
    (hreserved : ∀ name ∈ reservedNames, ¬ front.toList <+: name.toList)
    (hkey : isAttributeName key = true) : isAttributeName (front ++ key) = true := by
  rw [isAttributeName, Bool.and_eq_true, Bool.and_eq_true] at hfront hkey ⊢
  rw [Text.isIdentifier] at hfront hkey ⊢
  have htext : (front ++ key).toList = front.toList ++ key.toList := String.toList_append
  rw [htext]
  -- Behind other characters, those of a name may stand however it starts.
  have hparts : key.toList.all Text.isIdentifierPart = true := by
    generalize key.toList = cs at hkey
    cases cs with
    | nil => rfl
    | cons c cs =>
      have hcs := hkey.1.1
      rw [Text.isIdentifierChars, Bool.and_eq_true] at hcs
      rw [List.all_cons, Text.isIdentifierPart_of_start hcs.1, hcs.2]
      rfl
  refine ⟨⟨?_, ?_⟩, ?_⟩
  · generalize front.toList = cs at hfront
    cases cs with
    | nil => cases hfront.1.1
    | cons c cs =>
      have hcs := hfront.1.1
      rw [Text.isIdentifierChars, Bool.and_eq_true] at hcs
      rw [List.cons_append, Text.isIdentifierChars, hcs.1, List.all_append, hcs.2, hparts]
      rfl
  · generalize front.toList = cs at hfront
    cases cs with
    | nil => cases hfront.1.1
    | cons c cs => exact hfront.1.2
  · rw [Bool.not_eq_true', List.contains_eq_mem, decide_eq_false_iff_not]
    intro hmem
    exact hreserved _ hmem (htext ▸ List.prefix_append _ _)

/-- A bound of an attribute may be named after it. -/
theorem isAttributeName_min {key : String} (h : isAttributeName key = true) :
    isAttributeName ("min_" ++ key) = true :=
  isAttributeName_append (by decide +kernel) (by decide +kernel) h

theorem isAttributeName_max {key : String} (h : isAttributeName key = true) :
    isAttributeName ("max_" ++ key) = true :=
  isAttributeName_append (by decide +kernel) (by decide +kernel) h

/-! ## Predefined attributes -/

namespace Table

/-- The attribute that a column predefines by an operator. -/
def predefined (t : Table) (name : String) (op : ColumnOperator) (c : TableColumn) : Builder :=
  { name, block := some ((Operator.single op (t.sqlColumn c)).block name) }

/-- The bounds of a column whose values are ordered. -/
def bounds (t : Table) (c : TableColumn) : List Builder :=
  if c.kind.any (·.isComparable) then
    [t.predefined ("min_" ++ c.key) (.compare .atLeast) c,
      t.predefined ("max_" ++ c.key) (.compare .atMost) c]
  else []

/-- All attributes of a table, column by column. -/
def attributes (t : Table) : List Builder :=
  t.columns.flatMap fun c => t.predefined c.key .equal c :: t.bounds c

/-- The columns have legal names, each one of its own. -/
structure HasLegalKeys (t : Table) : Prop where
  nodup : (t.columns.map (·.key)).Nodup
  legal : ∀ c ∈ t.columns, isAttributeName c.key = true

variable {t : Table} {c : TableColumn}

/-- The column of a key is found by it. -/
theorem HasLegalKeys.column_eq (ht : t.HasLegalKeys) (hc : c ∈ t.columns) :
    t.column (.text c.key) = .ok c := by
  have hfound : t.columns.find? (·.key == c.key) = some c := by
    cases hfind : t.columns.find? (·.key == c.key) with
    | none => exact absurd (List.find?_eq_none.mp hfind c hc) (by simp)
    | some d =>
      have hkey : d.key = c.key := by simpa using List.find?_some hfind
      rw [List.inj_on_of_nodup_map ht.nodup (List.mem_of_find?_eq_some hfind) hc hkey]
  have hcolumn : (Value.text c.key).text?.bind t.column? = some c := by
    rw [Value.text?, Option.bind_some, column?, hfound]
  rw [column, hcolumn]

/-- No key is empty. -/
theorem HasLegalKeys.key_ne_empty (ht : t.HasLegalKeys) (hc : c ∈ t.columns) :
    c.key.isEmpty = false := by
  rw [← Bool.not_eq_true, String.isEmpty_iff]
  intro hempty
  have hlegal := ht.legal c hc
  rw [hempty] at hlegal
  exact absurd hlegal (by decide)

/-- All attributes of a table may be declared. -/
theorem HasLegalKeys.isStrict (ht : t.HasLegalKeys) : ∀ b ∈ t.attributes, b.IsStrict := by
  intro b hb
  obtain ⟨c, hc, hb⟩ := List.mem_flatMap.mp hb
  have hlegal := ht.legal c hc
  rcases List.mem_cons.mp hb with rfl | hb
  · exact ⟨rfl, hlegal⟩
  · rw [bounds] at hb
    split at hb
    next =>
      rcases List.mem_pair.mp hb with rfl | rfl
      · exact ⟨rfl, isAttributeName_min hlegal⟩
      · exact ⟨rfl, isAttributeName_max hlegal⟩
    next => cases hb

end Table

namespace Bridge

/-- A predefined declaration is rewritten to the operator on its column. -/
theorem rewriteRelational_predefined {t : Table} {config : Config} {c : TableColumn}
    (hc : t.column (.text c.key) = .ok c) (hne : c.key.isEmpty = false) (name : String)
    {operator : String} {op : ColumnOperator} (hop : ColumnOperator.ofName? operator = some op) :
    rewriteRelational t config
      { name
        options := [("type_cast", .value (.bool false)), ("column", .value (.text c.key)),
          ("operator", .value (.text operator))] } = .ok () (t.predefined name op c) := by
  rw [rewriteRelational]
  refine estate_bind_eq_ok.mpr ⟨_, _, rfl, ?_⟩
  refine estate_bind_eq_ok.mpr ⟨operator, _, rfl, ?_⟩
  rw [hop]
  exact rewriteColumn_eq rfl hc hne

end Bridge

/-! ## Bindings that succeed -/

/-- The configuration of a table that is bound. -/
def Table.configIn (t : Table) (current : Config) : Config :=
  (if t.searchable then t.config else none).getD current

/-- A binding to the table by these options casts nothing. -/
structure Table.BindsUncast (t : Table) (current : Config) (options : Options) : Prop where
  known : options.unknown Bridge.automaticOptions = []
  uncast : (match options.get? "type_cast" with
    | some s => s.truthy
    | none => (t.configIn current).typeCast) = false

namespace Table

variable {t : Table} {current : Config} {options : Options}

/-- No option is used that is taken otherwise. -/
theorem BindsUncast.uses_eq_false (h : t.BindsUncast current options) {taken : List String}
    (htaken : "type_cast" ∉ taken) : options.uses taken = false := by
  rw [Options.uses, List.any_eq_false]
  intro p hp
  have hknown := List.filter_eq_nil_iff.mp h.known p.1 (List.mem_map.mpr ⟨p, hp, rfl⟩)
  have hname : p.1 = "type_cast" := by simpa [Bridge.automaticOptions] using hknown
  rw [hname]
  simpa using htaken

/-- The model is not among the options. -/
theorem BindsUncast.erase_eq (h : t.BindsUncast current options) : options.erase "model" = options := by
  rw [Options.erase, List.filter_eq_self]
  intro p hp
  have hknown := List.filter_eq_nil_iff.mp h.known p.1 (List.mem_map.mpr ⟨p, hp, rfl⟩)
  have hname : p.1 = "type_cast" := by simpa [Bridge.automaticOptions] using hknown
  rw [hname]
  rfl

/-- What is predefined is told by the columns alone, where nothing is cast. -/
theorem BindsUncast.automatic_eq (h : t.BindsUncast current options) :
    (Bridge.relational t (t.configIn current)).automatic options =
      .ok (t.columns.flatMap (Bridge.columnBuilders false)) := by
  rw [Bridge.automatic]
  simp only [h.known]
  have huncast := h.uncast
  cases hoption : options.get? "type_cast" with
  | none =>
    rw [hoption] at huncast
    dsimp only at huncast ⊢
    rw [huncast]
    rfl
  | some s =>
    rw [hoption] at huncast
    dsimp only at huncast ⊢
    rw [huncast]
    rfl

/-- The bridge of the table makes its attributes of what it predefines. -/
theorem HasLegalKeys.rewritten_attributes (ht : t.HasLegalKeys) {c : SearchClass} {config : Config}
    (hc : c.schema.bridge = some (.relational t config)) :
    List.Forall₂ (fun g b => Registry.rewritten c g = .ok b ∧ b.IsStrict)
      (t.columns.flatMap (Bridge.columnBuilders false)) t.attributes := by
  have hgiven : ∀ column ∈ t.columns, ∀ name operator op, ColumnOperator.ofName? operator = some op →
      Registry.rewritten c
        { name
          options := [("type_cast", .value (.bool false)), ("column", .value (.text column.key)),
            ("operator", .value (.text operator))] } = .ok (t.predefined name op column) := by
    intro column hcolumn name operator op hop
    exact (SearchClass.rewritten_eq_ok_iff hc).mpr
      (Bridge.rewriteRelational_predefined (ht.column_eq hcolumn) (ht.key_ne_empty hcolumn) name hop)
  have hstrict := ht.isStrict
  rw [attributes] at hstrict ⊢
  -- The induction is on the columns, whose attributes stand one behind the other.
  generalize t.columns = columns at hgiven hstrict
  induction columns with
  | nil => exact .nil
  | cons column columns ih =>
    rw [List.forall_mem_cons] at hgiven
    rw [List.flatMap_cons, List.forall_mem_append, List.forall_mem_cons] at hstrict
    rw [List.flatMap_cons, List.flatMap_cons]
    refine List.rel_append ?_ (ih hgiven.2 hstrict.2)
    refine .cons ⟨hgiven.1 column.key "eq" _ rfl, hstrict.1.1⟩ ?_
    have hbounds := hstrict.1.2
    rw [bounds] at hbounds ⊢
    cases hkind : column.kind.any (·.isComparable) with
    | false => exact .nil
    | true =>
      rw [hkind] at hbounds
      simp only [if_true, List.forall_mem_cons] at hbounds ⊢
      refine .cons ⟨hgiven.1 _ "gte" _ rfl, hbounds.1⟩ (.cons ⟨hgiven.1 _ "lte" _ rfl, hbounds.2.1⟩ .nil)

/-- **A binding that casts nothing.** A class without a model is given all attributes of the table. -/
theorem HasLegalKeys.setModel_eq (ht : t.HasLegalKeys) (hoptions : t.BindsUncast current options)
    {r : Registry} {id : Nat} (hid : id < r.classes.length) (hmodel : (r.find id).schema.model = none) :
    Registry.setModel current id (.table t) options r =
      .ok () (r.update id fun c =>
        (c.bound (.table t) (.relational t (t.configIn current))).withAttributes t.attributes) := by
  have hbridge : ((r.update id
      (·.bound (.table t) (.relational t (t.configIn current)))).find id).schema.bridge =
        some (.relational t (t.configIn current)) := by
    rw [Registry.find_update_self hid]
    rfl
  have hpredefine : (Registry.lift ((Bridge.relational t (t.configIn current)).automatic options) >>=
      Registry.declareAll id) (r.update id (·.bound (.table t) (.relational t (t.configIn current)))) =
        .ok () _ :=
    estate_bind_eq_ok.mpr ⟨_, _, by rw [hoptions.automatic_eq]; rfl,
      Registry.declareAll_of_strict (ht.rewritten_attributes hbridge)⟩
  have hfound : bridgeFor current (.table t) = .ok (.relational t (t.configIn current)) := rfl
  rw [Registry.setModel_of_none (hoptions.uses_eq_false (by decide)) hmodel, hfound]
  dsimp only
  rw [hpredefine, Registry.update_update]
  rfl

end Table

/-! ## Quiet classes -/

/-- A search of the class takes no part by itself: it has no callbacks, its attributes are ignored unless
they are given, and no method takes the place of one of them or of what composes the options. -/
structure ClassView.IsQuiet (c : ClassView) : Prop where
  attributed : ∀ name ∈ c.schema.names, ∃ conversion, c.member? name = some (.attribute conversion)
  ignored : ∀ name, (c.schema.defaults.lookup name).getD .ignored = .ignored
  operations : ∀ key ∈ composingOperations, c.member? key = none
  callbacks : c.schema.callbacks = []

namespace Search

/-- The search has been given a value for one attribute, and nothing else. -/
structure GivenOnly (c : ClassView) (name : String) (v : Value) (s : Search) : Prop where
  value : s.values.lookup name = some v
  others : ∀ other ∈ c.schema.names, other ≠ name → s.values.lookup other = some .ignored
  extras : ∀ key, s.extras.lookup key = none

variable {c : ClassView} {s : Search} {name : String} {v : Value}

/-- A mark is stored as it is. -/
theorem stored_ignored (conversion : Option Conversion) : stored conversion .ignored = .ok .ignored := by
  cases conversion <;> rfl

/-- A quiet class ignores what it is not given. -/
theorem initial_of_isQuiet (hc : c.IsQuiet) (name : String) (v : Value) (other : String) :
    initial c [(name, v)] other = if other = name then v else .ignored := by
  rw [initial, List.lookup_cons]
  by_cases hother : other = name
  · rw [if_pos hother, beq_iff_eq.mpr hother]
  · rw [if_neg hother, beq_false_of_ne hother]
    exact hc.ignored other

/-- A quiet class makes a search from a value for an attribute that stores it as it is. -/
theorem exists_make_of_isQuiet (hc : c.IsQuiet) (hlisted : c.schema.IsListed)
    (hmodel : c.schema.model.isSome = true)
    (hname : name ∈ c.schema.names) (hmember : c.member? name = some (.attribute none))
    {attributes : Value} {values : List (String × Value)}
    (hsupplied : suppliedBy attributes values = .ok [(name, v)]) {s₀ : Search} (hvalues : s₀.values = [])
    (hextras : s₀.extras = []) :
    ∃ s label, make c attributes values s₀ = .ok () s ∧ GivenOnly c name (v.labelled label) s := by
  have hinitial := initial_of_isQuiet hc name v
  -- All other attributes of a quiet class start ignored, so every assignment succeeds.
  have hassigns : ∀ e ∈ c.schema.uniqueNames.map fun name' => (name', initial c [(name, v)] name'),
      ∀ t, ∃ t', assign c e.1 e.2 t = .ok () t' := by
    intro e he t
    obtain ⟨other, hother, rfl⟩ := List.mem_map.mp he
    obtain ⟨conversion, hconversion⟩ := hc.attributed other (List.mem_eraseDups.mp hother)
    rw [exists_assign_attribute_iff hconversion, hinitial]
    split
    next heq =>
      subst heq
      rw [hmember] at hconversion
      cases hconversion
      exact ⟨v, rfl⟩
    next => exact ⟨_, stored_ignored conversion⟩
  obtain ⟨s, hs⟩ := exists_assignAll hassigns s₀
  have hholds := holds_of_make hvalues hextras hs
  obtain ⟨-, w, label, hw, hvalue⟩ :=
    hholds.stored name v none (by rw [if_pos hname, hinitial, if_pos rfl]) hmember
  cases hw
  refine ⟨s, label, make_eq_ok_iff.mpr ⟨hmodel, _, hsupplied, ?_, hs⟩, hvalue, fun other hother hne => ?_,
    fun key => ?_⟩
  · simpa using (hlisted name).mpr hname
  · obtain ⟨conversion, hconversion⟩ := hc.attributed other hother
    obtain ⟨-, w, label, hw, hvalue⟩ := hholds.stored other .ignored conversion
      (by rw [if_pos hother, hinitial, if_neg hne]) hconversion
    rw [stored_ignored] at hw
    cases hw
    exact hvalue
  · by_cases hkey : key ∈ c.schema.names
    · obtain ⟨conversion, hconversion⟩ := hc.attributed key hkey
      exact hholds.extras_eq_none hconversion
    · exact (hholds.absent key (if_neg hkey)).2

namespace GivenOnly

variable (hc : c.IsQuiet) (hs : GivenOnly c name v s)

include hc hs

/-- Nothing hides what is reserved in a quiet class. -/
theorem callee?_eq_none {key : String} (hkey : key ∈ composingOperations) : callee? c s key = none := by
  unfold callee?
  rw [hc.operations key hkey, hs.extras key]
  rfl

/-- So every attribute can be asked. -/
theorem canAsk (name : String) : CanAsk c s name :=
  ⟨hs.callee?_eq_none hc (by decide), hs.callee?_eq_none hc (by decide), hs.extras _⟩

theorem runBeforeFindOptions_eq : runBeforeFindOptions c s = .ok () s := by
  rw [runBeforeFindOptions, runChain, estate_bind_eq, hc.callbacks]
  change ((orHiding c "before_find_options" (return .null)) >>= fun _ => pure ()) s = _
  rw [estate_bind_eq, orHiding_eq (hs.callee?_eq_none hc (by decide))]
  rfl

variable (hlisted : c.schema.IsListed)

include hlisted

/-- Only the attribute that was given is asked. -/
theorem contributions_eq {op : Operator} {conversion : Option Conversion}
    (hasks : c.AsksBy name op conversion) (hgiven : v.isIgnored = false) {f : Option (Fragment Value)}
    (hf : op.conditionFor v = .ok f) {names : List String} (hnodup : names.Nodup)
    (hnames : ∀ other ∈ names, other ∈ c.schema.names) :
    contributions c FindOptions.validate names s =
      .ok (if name ∈ names then [contribution f] else []) s := by
  induction names with
  | nil => rfl
  | cons other names ih =>
    rw [List.forall_mem_cons] at hnames
    rw [List.nodup_cons] at hnodup
    have hrest := ih hnodup.2 hnames.2
    have hdeclared : c.schema.declares other = true := (hlisted other).mpr hnames.1
    rw [contributions, estate_bind_eq]
    -- Only the attribute that is given answers; all others are ignored.
    by_cases hother : other = name
    · subst hother
      have hignored : ignored c other s = .ok false s := ignored_eq_ok_iff.mpr
        ⟨hs.callee?_eq_none hc (by decide), hdeclared, ⟨v, hs.value, hgiven⟩, rfl⟩
      have hvalid : FindOptions.validate (contribution f) = .ok () := by
        cases f <;> rfl
      rw [if_neg hnodup.1] at hrest
      rw [hignored, if_pos List.mem_cons_self]
      dsimp only
      simp only [Bool.false_eq_true, if_false]
      rw [estate_bind_eq, (hs.canAsk hc other).findOptionsFor_eq hasks hs.value hgiven hf]
      dsimp only
      rw [hvalid]
      change ((contributions c FindOptions.validate names) >>= fun maps => return contribution f :: maps) s = _
      rw [estate_bind_eq, hrest]
      rfl
    · have hignored : ignored c other s = .ok true s := ignored_eq_ok_iff.mpr
        ⟨hs.callee?_eq_none hc (by decide), hdeclared, ⟨.ignored, hs.others other hnames.1 hother, rfl⟩, rfl⟩
      rw [hignored]
      dsimp only
      simp only [if_true]
      rw [hrest]
      simp [Ne.symm hother]

/-- So its contribution is all that is collected. -/
theorem contributions_uniqueNames {op : Operator} {conversion : Option Conversion}
    (hasks : c.AsksBy name op conversion) (hgiven : v.isIgnored = false) {f : Option (Fragment Value)}
    (hf : op.conditionFor v = .ok f) :
    contributions c FindOptions.validate c.schema.uniqueNames s = .ok [contribution f] s := by
  have hnames : ∀ other ∈ c.schema.uniqueNames, other ∈ c.schema.names := fun other hother =>
    List.mem_eraseDups.mp hother
  have hnodup : c.schema.uniqueNames.Nodup := nodup_eraseDups c.schema.names
  have hmem : name ∈ c.schema.uniqueNames := List.mem_eraseDups.mpr hasks.listed
  rw [hs.contributions_eq hc hlisted hasks hgiven hf hnodup hnames, if_pos hmem]

/-- With one attribute given, the option-map is that of its condition. -/
theorem findOptionsList_eq {op : Operator} {conversion : Option Conversion}
    (hasks : c.AsksBy name op conversion) (hgiven : v.isIgnored = false) {f : Option (Fragment Value)}
    (hf : op.conditionFor v = .ok f) {t : Table} {config : Config}
    (hbridge : c.schema.bridge = some (.relational t config)) :
    findOptionsList c s = .ok (.list [contribution f]) s := by
  have hvalidate : (fun v => (Search.bridge c).bind fun b => b.validate v) = FindOptions.validate := by
    funext v
    rw [Search.bridge, hbridge]
    rfl
  rw [findOptionsList_def, orHiding_eq (hs.callee?_eq_none hc (by decide))]
  refine estate_bind_eq_ok.mpr ⟨[contribution f], s, ?_, rfl⟩
  refine estate_bind_eq_ok.mpr ⟨(), s, hs.runBeforeFindOptions_eq hc, ?_⟩
  rw [hvalidate]
  exact hs.contributions_uniqueNames hc hlisted hasks hgiven hf

/-- The conditions of such a search are those of its attribute. -/
theorem findOptions_eq {op : Operator} {conversion : Option Conversion}
    (hasks : c.AsksBy name op conversion) (hgiven : v.isIgnored = false) {f : Fragment Value}
    (hf : op.conditionFor v = .ok (some f)) (hblank : Text.isBlank f.sql = false) {t : Table}
    {config : Config} (hbridge : c.schema.bridge = some (.relational t config)) :
    findOptions c s =
      .ok (contribution (some { sql := Fragment.parenthesized f.sql, params := f.params })) s := by
  have hempty : f.isEmpty = false := Fragment.isEmpty_of_not_isBlank hblank
  have hkept : Fragment.distinct (FindOptions.writtenConditions [some f]) = .ok [f] := by
    have hwritten : FindOptions.writtenConditions [some f] = [f] := by
      change [f].filter _ = [f]
      rw [List.filter_cons, hblank]
      rfl
    rw [hwritten]
    rfl
  have hjoined : FindOptions.joinSome " AND " true [f] =
      some { sql := Fragment.parenthesized f.sql, params := f.params } := by
    rw [FindOptions.joinSome, if_neg (by simp), Fragment.join, List.filter_cons, hempty]
    simp
  refine (findOptions_of_table_eq_ok_iff (hs.callee?_eq_none hc (by decide))
    (hs.callee?_eq_none hc (by decide)) hbridge).mpr ⟨s, [some f].map contribution, _,
      hs.runBeforeFindOptions_eq hc, hs.contributions_uniqueNames hc hlisted hasks hgiven hf,
      FindOptions.merge_contribution_eq_ok_iff.mpr ⟨[f], hkept, rfl⟩, ?_⟩
  rw [hjoined]
  rfl

end GivenOnly

end Search

/-! ## Names that stand apart -/

/-- What was predefined last under a name is an attribute. -/
theorem lastMember_of_predefined {bs : List Builder} (hplain : ∀ b ∈ bs, b.conversion = none)
    {name : String} (hname : name ∈ bs.map (·.name))
    (hapart : ∀ b ∈ bs, name ≠ contributionName b.name) :
    lastMember (bs.map .declared) name = some (.attribute none) := by
  induction bs using List.reverseRecOn with
  | nil => cases hname
  | append_singleton bs b ih =>
    rw [List.forall_mem_append, List.forall_mem_singleton] at hplain hapart
    rw [List.map_append, lastMember_append, List.map_singleton, lastMember_singleton, ChainEvent.member?,
      if_neg hapart.2, hplain.2]
    by_cases hb : name = b.name
    · rw [if_pos hb]
      rfl
    · rw [if_neg hb, Option.none_or]
      refine ih hplain.1 ?_ hapart.1
      simpa [hb] using hname

/-- Under other names nothing is predefined. -/
theorem lastMember_eq_none {bs : List Builder} {key : String} (hname : key ∉ bs.map (·.name))
    (hapart : ∀ b ∈ bs, key ≠ contributionName b.name) : lastMember (bs.map .declared) key = none := by
  rw [lastMember, List.findSome?_eq_none_iff]
  intro e he
  obtain ⟨b, hb, rfl⟩ := List.mem_map.mp (List.mem_reverse.mp he)
  rw [ChainEvent.member?, if_neg, if_neg (hapart b hb)]
  rintro rfl
  exact hname (List.mem_map.mpr ⟨b, hb, rfl⟩)

/-- The block of a name is that of its last declaration. -/
theorem lastBlock_of_last {front back : List Builder} {b : Builder} {block : Hook}
    (hblock : b.block = some block) (hback : ∀ d ∈ back, d.name ≠ b.name) :
    lastBlock ((front ++ b :: back).map .declared) b.name = some block := by
  have hnone : lastBlock (back.map .declared) b.name = none := by
    rw [lastBlock, List.findSome?_eq_none_iff]
    intro d hd
    obtain ⟨e, he, hd⟩ := List.mem_filterMap.mp (List.mem_reverse.mp hd)
    obtain ⟨d', hd', rfl⟩ := List.mem_map.mp he
    cases hd
    exact if_neg (hback d hd')
  rw [List.map_append, List.map_cons, lastBlock_append, ← List.singleton_append, lastBlock_append, hnone,
    Option.none_or]
  simp [lastBlock, declarations, ChainEvent.builder?, hblock]

/-- The attribute stores values as they are, and is ignored unless it is given one. -/
structure Builder.IsPlain (b : Builder) : Prop where
  strict : b.IsStrict
  conversion : b.conversion = none
  default : b.default = .ignored

/-- No attribute of the class, be it there or new, is named like what a new one contributes. -/
def ClassView.StandsApart (c : ClassView) (bs : List Builder) : Prop :=
  ∀ name ∈ c.schema.names ++ bs.map (·.name), ∀ b ∈ bs, name ≠ contributionName b.name

instance (c : ClassView) (bs : List Builder) : Decidable (c.StandsApart bs) :=
  inferInstanceAs (Decidable (∀ name ∈ c.schema.names ++ bs.map (·.name), ∀ b ∈ bs, _))

namespace ClassView.Gains

variable {c c' : ClassView} {bs : List Builder}

/-- A quiet class stays quiet with plain attributes. -/
theorem isQuiet (h : c.Gains bs c') (hc : c.IsQuiet) (hbs : ∀ b ∈ bs, b.IsPlain)
    (hapart : c.StandsApart bs) (hcallbacks : c'.schema.callbacks = c.schema.callbacks) : c'.IsQuiet where
  attributed name hname := by
    rw [h.names] at hname
    rw [h.member]
    by_cases hnew : name ∈ bs.map (·.name)
    · rw [lastMember_of_predefined (fun b hb => (hbs b hb).conversion) hnew (hapart name hname)]
      exact ⟨none, rfl⟩
    · rw [lastMember_eq_none hnew (hapart name hname), Option.none_or]
      exact hc.attributed name ((List.mem_append.mp hname).resolve_right hnew)
  ignored name := by
    rw [h.defaults]
    cases hlast : lastDeclaration (bs.map .declared) name with
    | none => exact hc.ignored name
    | some b =>
      obtain ⟨e, he, hb⟩ := List.mem_filterMap.mp (lastDeclaration_mem hlast).1
      obtain ⟨b', hb', rfl⟩ := List.mem_map.mp he
      cases hb
      exact (hbs b hb').default
  operations key hkey := by
    have hreserved := isReserved_of_composing hkey
    rw [h.member, lastMember_eq_none, hc.operations key hkey]
    · rfl
    · intro hname
      obtain ⟨b, hb, rfl⟩ := List.mem_map.mp hname
      exact (hbs b hb).strict.not_reserved hreserved
    · rintro b - rfl
      exact contributionName_not_reserved _ hreserved
  callbacks := hcallbacks.trans hc.callbacks

/-- The last new attribute of a name asks by its own operator. -/
theorem asksBy (h : c.Gains bs c') (hbs : ∀ b ∈ bs, b.IsPlain) (hapart : c.StandsApart bs)
    (hlisted : c'.schema.IsListed) {front back : List Builder} {b : Builder} (heq : bs = front ++ b :: back)
    (hback : ∀ d ∈ back, d.name ≠ b.name) {op : Operator} (hblock : b.block = some (op.block b.name)) :
    c'.AsksBy b.name op none := by
  have hb : b ∈ bs := by
    rw [heq]
    exact List.mem_append_right _ List.mem_cons_self
  have hnew : b.name ∈ bs.map (·.name) := List.mem_map.mpr ⟨b, hb, rfl⟩
  have hmem : b.name ∈ c.schema.names ++ bs.map (·.name) := List.mem_append_right _ hnew
  have hname : b.name ∈ c'.schema.names := by rwa [h.names]
  refine ⟨(hbs b hb).strict.not_reserved, ?_, ?_, hname, (hlisted _).mpr hname⟩
  · rw [h.member, lastMember_of_predefined (fun b hb => (hbs b hb).conversion) hnew (hapart _ hmem)]
    rfl
  · rw [h.member, lastMember_contributionName]
    · rw [heq, lastBlock_of_last hblock hback]
      rfl
    · intro methods hmethods
      obtain ⟨d, -, hd⟩ := List.mem_map.mp hmethods
      cases hd
    · intro d hd
      obtain ⟨d', hd', hd⟩ := List.mem_map.mp hd
      cases hd
      exact hapart _ (List.mem_append_right _ (List.mem_map.mpr ⟨d, hd', rfl⟩)) b hb

end ClassView.Gains

/-- A bound of the column has the name. -/
def TableColumn.BoundsAs (c : TableColumn) (name : String) : Prop :=
  c.kind.any (·.isComparable) = true ∧ (name = "min_" ++ c.key ∨ name = "max_" ++ c.key)

namespace Table

variable {t : Table}

/-- Attributes of a table are declared in the plain way. -/
theorem HasLegalKeys.isPlain (ht : t.HasLegalKeys) : ∀ b ∈ t.attributes, b.IsPlain := by
  intro b hb
  refine ⟨ht.isStrict b hb, ?_, ?_⟩
  all_goals
    obtain ⟨c, -, hb⟩ := List.mem_flatMap.mp hb
    rcases List.mem_cons.mp hb with rfl | hb
    · rfl
    · rw [bounds] at hb
      split at hb
      next => rcases List.mem_pair.mp hb with rfl | rfl <;> rfl
      next => cases hb

/-- The bounds of a column are named after it. -/
theorem mem_bounds {c : TableColumn} {b : Builder} (hb : b ∈ t.bounds c) : c.BoundsAs b.name := by
  rw [bounds] at hb
  split at hb
  next hkind =>
    rcases List.mem_pair.mp hb with rfl | rfl
    · exact ⟨hkind, Or.inl rfl⟩
    · exact ⟨hkind, Or.inr rfl⟩
  next => cases hb

/-- A column does not bound itself by its own name. -/
theorem not_boundsAs_self (c : TableColumn) : ¬ c.BoundsAs c.key := by
  rintro ⟨-, h | h⟩
  all_goals
    have hlength := congrArg String.length h
    rw [String.length_append] at hlength
    change _ = 4 + _ at hlength
    omega

/-- The equality attribute of a column is the last one of its name, unless a later column has a bound of
that name. -/
theorem HasLegalKeys.attributes_eq (ht : t.HasLegalKeys) {front back : List TableColumn} {c : TableColumn}
    (hcolumns : t.columns = front ++ c :: back) (hback : ∀ d ∈ back, ¬ d.BoundsAs c.key) :
    ∃ before behind, t.attributes = before ++ t.predefined c.key .equal c :: behind ∧
      ∀ b ∈ behind, b.name ≠ c.key := by
  refine ⟨front.flatMap fun c => t.predefined c.key .equal c :: t.bounds c,
    t.bounds c ++ back.flatMap fun c => t.predefined c.key .equal c :: t.bounds c, ?_, ?_⟩
  · rw [attributes, hcolumns, List.flatMap_append, List.flatMap_cons, List.cons_append]
  · intro b hb hname
    rcases List.mem_append.mp hb with hb | hb
    · exact not_boundsAs_self c (hname ▸ mem_bounds hb)
    · obtain ⟨d, hd, hb⟩ := List.mem_flatMap.mp hb
      rcases List.mem_cons.mp hb with rfl | hb
      · have hnodup := ht.nodup
        rw [hcolumns, List.map_append, List.map_cons, List.nodup_append, List.nodup_cons] at hnodup
        exact hnodup.2.1.1 (List.mem_map.mpr ⟨d, hd, hname⟩)
      · exact hback d hd (hname ▸ mem_bounds hb)

end Table

/-! ## Equality with every column -/

/-- A text is not blank behind another one. -/
theorem Text.isBlank_append_right (front : String) {back : String} (h : isBlank back = false) :
    isBlank (front ++ back) = false := by
  rw [isBlank] at h ⊢
  rw [String.toList_append, List.all_append, h, Bool.and_false]

/-- An equality is not blank. -/
theorem Column.isBlank_equality (column : String) (v : Value) :
    Text.isBlank (equality column v).sql = false := by
  unfold equality
  split
  next => exact Text.isBlank_append_right _ (by decide +kernel)
  next =>
    split
    next => exact Text.isBlank_append_right _ (by decide +kernel)
    next => exact Text.isBlank_append_right _ (by decide +kernel)
    next => exact Text.isBlank_append_right _ (by decide +kernel)

/-- **Equality with every column.** A quiet class that is bound to a table without casts, by itself or as it
is made, gets an attribute for each column: a search that is given one value, for that attribute, asks for
equality of the column with it and nothing else. This is so of every column that no bound of a later one is
named like, where no attribute is named like what another one contributes. -/
theorem equality_with_column {ops : List ClassOperation} {r : Registry} (hrun : Registry.Runs {} ops r)
    {id : Nat} (hid : id < r.classes.length) (hmodel : (r.find id).schema.model = none)
    (hquiet : (r.view id).IsQuiet) {t : Table} (ht : t.HasLegalKeys) {current : Config} {options : Options}
    (hoptions : t.BindsUncast current options) (hapart : (r.view id).StandsApart t.attributes) :
    ∃ r', Registry.setModel current id (.table t) options r = .ok () r' ∧
      (∀ r₀ parent name methods, (methods.any fun m => m.1 == "schema") = false →
        r = r₀.append ((r₀.find parent).made parent name methods) → id = r₀.classes.length →
        Registry.subclass current name parent methods (some (.table t)) options r₀ = .ok id r') ∧
      ∀ front c back, t.columns = front ++ c :: back → (∀ d ∈ back, ¬ d.BoundsAs c.key) →
        ∀ v attributes values s₀, v.isIgnored = false →
          Search.suppliedBy attributes values = .ok [(c.key, v)] → s₀.values = [] → s₀.extras = [] →
          ∃ s label, Search.make (r'.view id) attributes values s₀ = .ok () s ∧
            let f := Column.equality (t.sqlColumn c) (v.labelled label)
            Search.findOptionsList (r'.view id) s = .ok (.list [contribution (some f)]) s ∧
            Search.findOptions (r'.view id) s =
              .ok (contribution (some { sql := Fragment.parenthesized f.sql, params := f.params })) s := by
  have hset := ht.setModel_eq hoptions hid hmodel
  rw [Registry.update_eq] at hset
  refine ⟨_, hset, ?_, ?_⟩
  · rintro r₀ parent name methods hmethods rfl rfl
    rw [Registry.subclass_eq hmethods (hoptions.uses_eq_false (by decide))]
    have hgiven : Registry.modelFor (some (.table t)) options = some (.table t) := rfl
    rw [hgiven]
    dsimp only
    rw [hoptions.erase_eq, hset]
  · intro front c back hcolumns hback v attributes values s₀ hgiven hsupplied hvalues hextras
    -- What the binding adds is known from the attributes of the table, and all that is asked follows from it.
    set bridge := Bridge.relational t (t.configIn current) with hbridge
    set found := ((r.find id).bound (.table t) bridge).withAttributes t.attributes with hfound
    have hself : ((r.update id fun _ => found).view id).schema = found.schema :=
      congrArg (·.schema) (Registry.find_update_self hid _)
    have hgains := (SearchClass.Adds.bound (r.find id) (.table t) bridge ht.isStrict).gains hrun.isTree hid
    have hlisted : ((r.update id fun _ => found).view id).schema.IsListed := by
      rw [hself]
      exact SearchClass.isListed_withAttributes (c := (r.find id).bound _ _) (hrun.isListed id) _
    have hstays : ((r.update id fun _ => found).view id).IsQuiet := by
      refine hgains.isQuiet hquiet ht.isPlain hapart ?_
      rw [hself, hfound, SearchClass.withAttributes_callbacks]
      rfl
    obtain ⟨before, behind, hattributes, hbehind⟩ := ht.attributes_eq hcolumns hback
    have hasks : ((r.update id fun _ => found).view id).AsksBy c.key (.single .equal (t.sqlColumn c)) none :=
      hgains.asksBy ht.isPlain hapart hlisted hattributes hbehind rfl
    obtain ⟨s, label, hmake, hs⟩ := Search.exists_make_of_isQuiet hstays hlisted
      (by rw [hself, hfound, SearchClass.withAttributes_model]; rfl) hasks.listed hasks.attributed hsupplied
      hvalues hextras
    have hbound : ((r.update id fun _ => found).view id).schema.bridge = some bridge := by
      rw [hself, hfound, SearchClass.withAttributes_bridge]
      rfl
    have hasked : (v.labelled label).isIgnored = false := by rwa [Value.isIgnored_labelled]
    refine ⟨s, label, hmake, hs.findOptionsList_eq hstays hlisted hasks hasked rfl hbound, ?_⟩
    exact hs.findOptions_eq hstays hlisted hasks hasked rfl (Column.isBlank_equality _ _) hbound

/-- A table of people with columns of integers. -/
def people (keys : List String) : Table where
  model := "Person"
  table := "people"
  columns := keys.map fun key => ⟨key, key, some .int, key == "id"⟩

/-- A new search class without a model. -/
def peopleClasses : Registry :=
  Registry.afterAll [.subclass {} "People" Registry.root [] none []] {}

/-- The condition of a search for one value on the table, with the texts of its parameters. -/
def peopleAnswer (keys : List String) (key : String) (v : Value) : Option (String × List String) :=
  let c := (after (Registry.setModel {} 1 (.table (people keys)) []) peopleClasses).view 1
  match (do
    Search.make c (.dict []) [(key, v)]
    Search.findOptions c : Searching Value).run' {} with
  | some (.dict [(_, .fragment f)]) => some (f.sql, f.params.map Value.literal)
  | _ => none

/-- The bound of a later column takes the place of a column's own attribute. -/
theorem bound_takes_name :
    (people ["id", "min_age", "age"]).HasLegalKeys ∧
      peopleAnswer ["id", "min_age", "age"] "min_age" (.int 1) = some ("(people.age >= ?)", ["1"]) :=
  ⟨⟨by decide, by decide +kernel⟩, by decide +kernel⟩

/-- Where the column comes after the bound, its own attribute counts. -/
theorem equality_with_column_behind :
    let t := people ["id", "age", "min_age"]
    ∃ r' s, Registry.setModel {} 1 (.table t) [] peopleClasses = .ok () r' ∧
      Search.make (r'.view 1) (.dict []) [("min_age", .int 1)] {} = .ok () s ∧
      Search.findOptions (r'.view 1) s =
        .ok (contribution (some { sql := "(people.min_age = ?)", params := [.int 1] })) s := by
  intro t
  have hrun : Registry.Runs {} ([] ++ [.subclass {} "People" Registry.root [] none []]) peopleClasses :=
    .snoc .nil (by decide)
  have hquiet : (peopleClasses.view 1).IsQuiet := by
    refine ⟨fun name hname => ?_, fun _ => rfl, by decide +kernel, rfl⟩
    cases hname
  have hlegal : t.HasLegalKeys := ⟨by decide, by decide +kernel⟩
  have hoptions : t.BindsUncast {} [] := ⟨rfl, rfl⟩
  obtain ⟨r', hset, -, hall⟩ :=
    equality_with_column hrun (by decide) rfl hquiet hlegal hoptions (by decide +kernel)
  obtain ⟨s, label, hmake, -, hfind⟩ := hall (t.columns.take 2) ⟨"min_age", "min_age", some .int, false⟩ []
    rfl (List.forall_mem_nil _) (.int 1) (.dict []) [("min_age", .int 1)] {} rfl rfl rfl rfl
  have hcolumn : t.sqlColumn ⟨"min_age", "min_age", some .int, false⟩ = "people.min_age" := by decide +kernel
  rw [hcolumn] at hfind
  exact ⟨r', s, hset, hmake, hfind⟩

end SearchQuery
