import SearchQuery.Proofs.Search.Declared
import SearchQuery.Proofs.Search.History
import SearchQuery.Search.Composition

/-!
# What a search contributes

A search asks every attribute that is not ignored for its option-map. Where the class is declared by
operators, an attribute answers with the condition of its operator for the value that it reads
(`Search.Contributes`), and asking changes nothing in the search.

## Shape of an answer

A name may be hidden by what was assigned to the search, or by an attribute that is called like the
contribution of another one. What hides a contribution is no option-map, so the run fails
(`findOptionsFor_eq_ok`). Nothing else can answer in its place.
-/

namespace SearchQuery

/-! ## Classes as searches see them -/

/-- What a class sees is a member of the class or of one of its ancestors. -/
theorem Registry.mem_of_member? {r : Registry} {id : Nat} {name : String} {m : Member}
    (h : r.member? id name = some m) :
    ∃ i ∈ id :: (r.find id).ancestors, (name, m) ∈ (r.find i).members := by
  obtain ⟨i, hi, hlookup⟩ := List.exists_of_findSome?_eq_some h
  exact ⟨i, hi, mem_of_lookup hlookup⟩

/-- All that instances see of the class is declared by operators. -/
structure ClassView.ByOperators (c : ClassView) : Prop where
  members : ∀ name m, c.member? name = some m → m.ByOperator name
  schema : c.schema.ByOperators

/-- What a class sees is declared by operators if all that its ancestors declare is. -/
theorem Registry.ByOperators.view {r : Registry} (hr : r.ByOperators) (id : Nat) :
    (r.view id).ByOperators where
  members := by
    intro name m hm
    obtain ⟨i, -, hi⟩ := mem_of_member? hm
    exact (hr i).members _ hi
  schema := (hr id).schema

/-- All that instances find by its name is an attribute, what one of the operators contributes for one,
or a method of another name. -/
def ClassView.WrittenBy (Op : Operator → Prop) (c : ClassView) : Prop :=
  ∀ name m, c.member? name = some m → m.WrittenBy Op name

/-- What is declared by operators is written by plain ones. -/
theorem ClassView.ByOperators.writtenBy {c : ClassView} (hc : c.ByOperators) :
    c.WrittenBy Operator.IsPlain := fun name m hm =>
  Member.byOperator_iff.mp (hc.members name m hm)

/-- What is declared in any class of a registry is what its classes see. -/
theorem Registry.writtenBy_view {Op : Operator → Prop} {Tab : Table → Prop} {r : Registry}
    (hr : ∀ i, (r.find i).Written Op Tab) (id : Nat) : (r.view id).WrittenBy Op := by
  intro name m hm
  obtain ⟨i, -, hi⟩ := mem_of_member? hm
  exact (hr i).members _ hi

/-- No contribution is named like what every search has. -/
theorem contributionName_not_reserved (name : String) : contributionName name ∉ reservedNames := by
  intro h
  have hprefix : ∀ n ∈ reservedNames, ¬ "find_options_for_".toList <+: n.toList := by decide +kernel
  exact hprefix _ h ⟨name.toList, (toList_contributionName name).symm⟩

/-- The option-map of a condition tells which one it is. -/
theorem contribution_injective {f g : Option (Fragment Value)} (h : contribution f = contribution g) :
    f = g := by
  cases f <;> cases g <;> simp_all [contribution]

/-- Operators with the same block contribute the same conditions. -/
theorem Operator.conditionFor_congr {op op' : Operator} {name : String}
    (h : op.block name = op'.block name) (v : Value) : op.conditionFor v = op'.conditionFor v := by
  rw [block_eq, block_eq, Hook.read.injEq] at h
  have hv := congrFun h.2 v
  cases hop : op.conditionFor v <;> cases hop' : op'.conditionFor v <;> simp_all
  exact contribution_injective hv

namespace Search

variable {Op : Operator → Prop} {c : ClassView} {s s' : Search} {name : String}

/-- The attribute takes part in the search. -/
def gives (s : Search) (name : String) : Bool :=
  (s.values.lookup name).any fun v => !v.isIgnored

/-- The attributes that take part in the search. -/
def givenNames (c : ClassView) (s : Search) : List String :=
  c.schema.uniqueNames.filter s.gives

/-- The attribute is asked with an operator on plain columns and the value that it reads. -/
structure Asked (c : ClassView) (s : Search) (name : String) (op : Operator) (v : Value) : Prop where
  member : c.member? (contributionName name) = some (.contribution name (op.block name))
  isPlain : op.IsPlain
  read : Search.read c name s = .ok v s

/-- The attribute contributes a condition, or none. -/
def Contributes (c : ClassView) (s : Search) (name : String) (f : Option (Fragment Value)) : Prop :=
  ∃ op v, Asked c s name op v ∧ op.conditionFor v = .ok f

/-- The attribute is asked with one of the operators and contributes a condition, or none. -/
def ContributesBy (Op : Operator → Prop) (c : ClassView) (s : Search) (name : String)
    (f : Option (Fragment Value)) : Prop :=
  ∃ op v, Op op ∧ c.member? (contributionName name) = some (.contribution name (op.block name)) ∧
    Search.read c name s = .ok v s ∧ op.conditionFor v = .ok f

theorem contributesBy_isPlain {f : Option (Fragment Value)} :
    ContributesBy Operator.IsPlain c s name f ↔ Contributes c s name f := by
  constructor
  · rintro ⟨op, v, hplain, hmember, hread, hf⟩
    exact ⟨op, v, ⟨hmember, hplain, hread⟩, hf⟩
  · rintro ⟨op, v, ⟨hmember, hplain, hread⟩, hf⟩
    exact ⟨op, v, hplain, hmember, hread, hf⟩

/-! ## Operations that look -/

/-- Where nothing hides an operation, it runs itself. -/
theorem orHiding_eq {operation : String} (h : callee? c s operation = none)
    (own : Searching Value) : orHiding c operation own s = own s := by
  rw [orHiding, estate_get_bind, h]

/-! The operations that compose options, each behind the callbacks. -/

/-- A search lists what its attributes contribute behind its callbacks. -/
theorem ownFindOptionsList_def (c : ClassView) : ownFindOptionsList c = (do
    runBeforeFindOptions c
    contributions c (fun v => (bridge c).bind fun b => b.validate v) c.schema.uniqueNames) :=
  rfl

theorem findOptionsList_def (c : ClassView) : findOptionsList c =
    orHiding c "find_options_list" (do return .list (← ownFindOptionsList c)) :=
  rfl

/-- It merges the list as its bridge does. -/
theorem ownFindOptions_def (c : ClassView) : ownFindOptions c = (do
    let maps ← optionMaps c
    lift ((bridge c).bind fun b => b.merge maps)) :=
  rfl

theorem findOptions_def (c : ClassView) : findOptions c = orHiding c "find_options" (ownFindOptions c) :=
  rfl

/-- Where nothing hides them, the option-maps are those of the attributes. -/
theorem optionMaps_eq (hlist : callee? c s "find_options_list" = none) :
    optionMaps c s = ownFindOptionsList c s := by
  change (findOptionsList c >>= _) s = _
  rw [estate_bind_eq, findOptionsList_def, orHiding_eq hlist, estate_bind_eq]
  cases ownFindOptionsList c s <;> rfl

/-- An operation that must not be hidden goes on where it is not. -/
theorem ownOnly_eq_ok_iff {operation : String} :
    ownOnly c operation s = .ok () s' ↔ callee? c s operation = none ∧ s' = s := by
  rw [ownOnly, estate_get_bind]
  cases callee? c s operation with
  | none =>
    refine ⟨fun h => ?_, fun h => ?_⟩
    · cases h
      exact ⟨rfl, rfl⟩
    · rw [h.2]
      rfl
  | some callee =>
    refine iff_of_false (fun h => ?_) (fun h => ?_)
    · cases h
    · cases h.1

theorem checkNames_eq_ok_iff :
    checkNames c [name] s = .ok () s' ↔ c.schema.declares name = true ∧ s' = s := by
  rw [checkNames]
  cases hname : c.schema.declares name with
  | true =>
    rw [List.filter_cons, hname]
    refine ⟨fun h => ?_, fun h => ?_⟩
    · cases h
      exact ⟨rfl, rfl⟩
    · rw [h.2]
      rfl
  | false =>
    rw [List.filter_cons, hname]
    refine iff_of_false (fun h => ?_) (fun h => ?_)
    · cases h
    · cases h.1

/-- Whether an attribute is ignored is told by the value that it stores. -/
theorem ignored_eq_ok_iff {b : Bool} :
    ignored c name s = .ok b s' ↔
      callee? c s "ignored" = none ∧ c.schema.declares name = true ∧
        (∃ v, s.values.lookup name = some v ∧ v.isIgnored = b) ∧ s' = s := by
  constructor
  · intro h
    obtain ⟨_, s₁, hfirst, hrest⟩ := estate_bind_eq_ok.mp h
    obtain ⟨hown, rfl⟩ := ownOnly_eq_ok_iff.mp hfirst
    obtain ⟨v, s₂, hstored, hresult⟩ := estate_bind_eq_ok.mp hrest
    obtain ⟨_, s₃, hcheck, hlooked⟩ := estate_bind_eq_ok.mp hstored
    obtain ⟨hdeclared, rfl⟩ := checkNames_eq_ok_iff.mp hcheck
    rw [estate_get_bind] at hlooked
    cases hlookup : s₃.values.lookup name with
    | none =>
      rw [hlookup] at hlooked
      cases hlooked
    | some w =>
      rw [hlookup] at hlooked
      cases hlooked
      cases hresult
      exact ⟨hown, hdeclared, ⟨v, rfl, rfl⟩, rfl⟩
  · rintro ⟨hown, hdeclared, ⟨v, hlookup, rfl⟩, rfl⟩
    refine estate_bind_eq_ok.mpr ⟨(), s', ownOnly_eq_ok_iff.mpr ⟨hown, rfl⟩, ?_⟩
    refine estate_bind_eq_ok.mpr ⟨v, s', ?_, rfl⟩
    refine estate_bind_eq_ok.mpr ⟨(), s', checkNames_eq_ok_iff.mpr ⟨hdeclared, rfl⟩, ?_⟩
    rw [estate_get_bind, hlookup]
    rfl

/-- Reading an attribute changes nothing in the search. -/
theorem read_state {v : Value} (hname : name ∉ reservedNames) (h : read c name s = .ok v s') :
    s' = s := by
  rw [read, if_neg (by rintro h; simp [reservedNames] at hname h; exact hname.1 h.1)] at h
  rw [valueOf, estate_get_bind] at h
  rcases hcallee : callee? c s name with - | (w | m)
  · rw [hcallee] at h
    simp only at h
    split at h
    next =>
      cases h
      rfl
    next => cases h
  · rw [hcallee] at h
    cases h
    rfl
  · rw [hcallee] at h
    cases h
    rfl

/-- The block of an operator reads the attribute and contributes the condition for its value. -/
theorem run_block_eq_ok_iff {op : Operator} (hname : name ∉ reservedNames) {options : Value} :
    (op.block name).run c s = .ok options s' ↔
      ∃ v f, read c name s = .ok v s ∧ op.conditionFor v = .ok f ∧ options = contribution f ∧
        s' = s := by
  rw [Operator.block_eq, Hook.run]
  constructor
  · intro h
    obtain ⟨v, s₁, hread, hrest⟩ := estate_bind_eq_ok.mp h
    obtain rfl := read_state hname hread
    cases hf : op.conditionFor v with
    | error e =>
      rw [hf, Hook.run] at hrest
      cases hrest
    | ok f =>
      rw [hf, Hook.run] at hrest
      cases hrest
      exact ⟨v, f, hread, hf, rfl, rfl⟩
  · rintro ⟨v, f, hread, hf, rfl, rfl⟩
    refine estate_bind_eq_ok.mpr ⟨v, s', hread, ?_⟩
    rw [hf, Hook.run]
    rfl

/-! ## Answers -/

/-- A contribution that is found is that of the attribute. -/
theorem contribution_of_callee? (hc : c.WrittenBy Op) {m : Member}
    (h : callee? c s (contributionName name) = some (.member m)) :
    ∃ op : Operator, m = .contribution name (op.block name) ∧ Op op ∧ name ∉ reservedNames ∧
      c.member? (contributionName name) = some (.contribution name (op.block name)) := by
  -- An attribute is called through its value, so a member that is called is none.
  have hmember : c.member? (contributionName name) = some m ∧ ∀ f, m ≠ .attribute f := by
    unfold callee? at h
    split at h
    next =>
      obtain ⟨v, -, hv⟩ := Option.map_eq_some_iff.mp h
      cases hv
    next hother =>
      split at h
      next => cases h
      next =>
        obtain ⟨m', hm', hm⟩ := Option.map_eq_some_iff.mp h
        cases hm
        exact ⟨hm', fun f hf => hother f (hf ▸ hm')⟩
  have hby := hc _ _ hmember.1
  rcases m with f | ⟨name', block⟩ | hook
  · exact absurd rfl (hmember.2 f)
  · obtain ⟨hname, hreserved, op, hop, rfl⟩ := hby
    obtain rfl := contributionName_injective hname
    exact ⟨op, rfl, hop, hreserved, hmember.1⟩
  · exact absurd rfl (hby.not_contribution name)

/-- An option-map that an attribute answers with is the condition of its operator. -/
theorem findOptionsFor_eq_ok (hc : c.WrittenBy Op) (hgives : s.gives name = true) {options : Value}
    (h : findOptionsFor c name s = .ok options s') (hvalid : FindOptions.validate options = .ok ()) :
    s' = s ∧ ∃ f, ContributesBy Op c s name f ∧ options = contribution f := by
  obtain ⟨_, s₁, hfirst, hrest⟩ := estate_bind_eq_ok.mp h
  obtain ⟨hown, rfl⟩ := ownOnly_eq_ok_iff.mp hfirst
  obtain ⟨_, s₂, hcheck, hfound⟩ := estate_bind_eq_ok.mp hrest
  obtain ⟨hdeclared, rfl⟩ := checkNames_eq_ok_iff.mp hcheck
  rw [estate_get_bind] at hfound
  -- Nothing, a value or a member may stand under the name of the contribution.
  rcases hcallee : callee? c s₂ (contributionName name) with - | (v | m)
  · rw [hcallee] at hfound
    cases hfound
  · -- A value that is called gives no option-map.
    rw [hcallee] at hfound
    have hcalled : options = .bool true := by
      cases v with
      | model =>
        cases hfound
        rfl
      | _ => cases hfound
    rw [hcalled] at hvalid
    cases hvalid
  · rw [hcallee] at hfound
    obtain ⟨op, rfl, hop, hreserved, hmember⟩ := contribution_of_callee? hc hcallee
    obtain ⟨b, s₃, hignored, hrun⟩ := estate_bind_eq_ok.mp hfound
    obtain ⟨-, -, ⟨w, hw, rfl⟩, rfl⟩ := ignored_eq_ok_iff.mp hignored
    have hgiven : w.isIgnored = false := by
      rw [gives, hw] at hgives
      simpa using hgives
    rw [hgiven] at hrun
    obtain ⟨v, f, hread, hf, rfl, rfl⟩ := (run_block_eq_ok_iff hreserved).mp hrun
    exact ⟨rfl, f, ⟨op, v, hop, hmember, hread, hf⟩, rfl⟩

/-- **What a search collects.** The attributes that take part contribute the conditions of their
operators, in order, and nothing else is collected. -/
theorem contributions_eq_ok (hc : c.WrittenBy Op) {names : List String} {maps : List Value}
    (h : contributions c FindOptions.validate names s = .ok maps s') :
    s' = s ∧ ∃ fs, List.Forall₂ (ContributesBy Op c s) (names.filter s.gives) fs ∧
      maps = fs.map contribution := by
  induction names generalizing maps with
  | nil =>
    cases h
    exact ⟨rfl, [], .nil, rfl⟩
  | cons name names ih =>
    obtain ⟨b, s₁, hignored, hrest⟩ := estate_bind_eq_ok.mp h
    obtain ⟨-, -, ⟨v, hv, rfl⟩, rfl⟩ := ignored_eq_ok_iff.mp hignored
    have hgives : s₁.gives name = !v.isIgnored := by
      rw [gives, hv]
      rfl
    cases hb : v.isIgnored with
    | true =>
      -- An attribute that is ignored is passed over, and its name is filtered out.
      rw [hb] at hgives hrest
      rw [List.filter_cons, hgives]
      exact ih hrest
    | false =>
      rw [hb] at hgives hrest
      obtain ⟨options, s₂, hfound, hchecked⟩ := estate_bind_eq_ok.mp hrest
      obtain ⟨_, s₃, hlift, hcollected⟩ := estate_bind_eq_ok.mp hchecked
      obtain ⟨hvalid, rfl⟩ := Bridge.lift_eq_ok hlift
      obtain ⟨rfl, f, hf, rfl⟩ := findOptionsFor_eq_ok hc hgives hfound hvalid
      obtain ⟨more, s₄, hmore, hresult⟩ := estate_bind_eq_ok.mp hcollected
      cases hresult
      obtain ⟨rfl, fs, hfs, rfl⟩ := ih hmore
      rw [List.filter_cons, hgives]
      exact ⟨rfl, f :: fs, .cons hf hfs, rfl⟩

/-! ## Searches that can answer -/

/-- Nothing that was assigned to the search hides an operation or a contribution. -/
structure HidesNothing (s : Search) : Prop where
  operations : ∀ name ∈ reservedNames, s.extras.lookup name = none
  contributions : ∀ name, s.extras.lookup (contributionName name) = none

/-- An operation can be hidden by what was assigned to the search only. -/
theorem callee?_of_reserved (hc : c.WrittenBy Op) (hname : name ∈ reservedNames)
    (hhook : name ≠ "before_find_options") :
    callee? c s name = (s.extras.lookup name).map .value := by
  have hmember : c.member? name = none := by
    rw [Option.eq_none_iff_forall_ne_some]
    intro m hm
    have hby := hc name m hm
    rcases m with f | ⟨name', block⟩ | hook
    · exact hby hname
    · exact contributionName_not_reserved name' (hby.1 ▸ hname)
    · exact hhook (hby.not_reserved hname)
  unfold callee?
  rw [hmember]
  cases s.extras.lookup name <;> rfl

/-- A search that hides nothing is told by its class alone. -/
theorem HidesNothing.callee?_eq_none (hc : c.ByOperators) (hs : s.HidesNothing)
    (hname : name ∈ reservedNames) (hhook : name ≠ "before_find_options") :
    callee? c s name = none := by
  rw [callee?_of_reserved hc.writtenBy hname hhook, hs.operations name hname]
  rfl

/-- A given attribute answers with the condition of its operator. -/
theorem HidesNothing.findOptionsFor_eq (hc : c.ByOperators) (hs : s.HidesNothing)
    (hdeclared : c.schema.declares name = true) (hgives : s.gives name = true)
    {f : Option (Fragment Value)} (hf : Contributes c s name f) :
    findOptionsFor c name s = .ok (contribution f) s := by
  obtain ⟨op, v, ⟨hmember, -, hread⟩, hf⟩ := hf
  have hreserved : name ∉ reservedNames := (hc.members _ _ hmember).2.1
  obtain ⟨w, hw, hgiven⟩ := (Option.any_eq_true _ _).mp hgives
  have hcallee : callee? c s (contributionName name) =
      some (.member (.contribution name (op.block name))) := by
    unfold callee?
    rw [hmember, hs.contributions name]
    rfl
  refine estate_bind_eq_ok.mpr ⟨(), s, ownOnly_eq_ok_iff.mpr
    ⟨hs.callee?_eq_none hc (by decide) (by decide), rfl⟩, ?_⟩
  refine estate_bind_eq_ok.mpr ⟨(), s, checkNames_eq_ok_iff.mpr ⟨hdeclared, rfl⟩, ?_⟩
  rw [estate_get_bind, hcallee]
  refine estate_bind_eq_ok.mpr ⟨false, s, ignored_eq_ok_iff.mpr
    ⟨hs.callee?_eq_none hc (by decide) (by decide), hdeclared, ⟨w, hw, by simpa using hgiven⟩, rfl⟩, ?_⟩
  exact (run_block_eq_ok_iff hreserved).mpr ⟨v, f, hread, hf, rfl, rfl⟩

/-- Where each attribute has a value and can contribute, the search collects all of them. -/
theorem HidesNothing.contributions_eq (hc : c.ByOperators) (hs : s.HidesNothing)
    {names : List String} (hdeclared : ∀ name ∈ names, c.schema.declares name = true)
    (hvalues : ∀ name ∈ names, (s.values.lookup name).isSome = true)
    (hall : ∀ name ∈ names, s.gives name = true → ∃ f, Contributes c s name f) :
    ∃ maps, Search.contributions c FindOptions.validate names s = .ok maps s := by
  induction names with
  | nil => exact ⟨[], rfl⟩
  | cons name names ih =>
    rw [List.forall_mem_cons] at hdeclared hvalues hall
    obtain ⟨maps, hmaps⟩ := ih hdeclared.2 hvalues.2 hall.2
    obtain ⟨v, hv⟩ := Option.isSome_iff_exists.mp hvalues.1
    have hignored := ignored_eq_ok_iff.mpr
      ⟨hs.callee?_eq_none hc (by decide) (by decide), hdeclared.1, ⟨v, hv, rfl⟩, rfl⟩
    cases hb : v.isIgnored with
    | true =>
      rw [hb] at hignored
      exact ⟨maps, estate_bind_eq_ok.mpr ⟨true, s, hignored, hmaps⟩⟩
    | false =>
      rw [hb] at hignored
      have hgives : s.gives name = true := by
        rw [gives, hv, Option.any_some, hb]
        rfl
      obtain ⟨f, hf⟩ := hall.1 hgives
      have hvalid : FindOptions.validate (contribution f) = .ok () := by
        cases f <;> rfl
      refine ⟨contribution f :: maps, estate_bind_eq_ok.mpr ⟨false, s, hignored, ?_⟩⟩
      refine estate_bind_eq_ok.mpr ⟨_, s, hs.findOptionsFor_eq hc hdeclared.1 hgives hf, ?_⟩
      refine estate_bind_eq_ok.mpr ⟨(), s, by rw [hvalid]; rfl, ?_⟩
      exact estate_bind_eq_ok.mpr ⟨maps, s, hmaps, rfl⟩

end Search

/-! ## Attributes that ask by an operator -/

/-- What a class is given last is what it finds. -/
theorem Registry.member?_withAttribute {r : Registry} {id : Nat} (hid : id < r.classes.length)
    {b : Builder} {key : String} {m : Member} (h : (ChainEvent.declared b).member? key = some m) :
    (r.update id (·.withAttribute b)).member? id key = some m := by
  rw [member?_eq, find_update_self hid, SearchClass.lookup_withAttribute, h]
  rfl

/-- The class as its searches see it has this attribute, which asks with this operator. -/
structure ClassView.AsksBy (c : ClassView) (name : String) (op : Operator)
    (conversion : Option Conversion) : Prop where
  unreserved : name ∉ reservedNames
  attributed : c.member? name = some (.attribute conversion)
  contributes : c.member? (contributionName name) = some (.contribution name (op.block name))
  listed : name ∈ c.schema.names
  declares : c.schema.declares name = true

namespace Search

/-- Nothing hides what an attribute contributes, nor what asks for it. -/
structure CanAsk (c : ClassView) (s : Search) (name : String) : Prop where
  own : callee? c s "find_options_for" = none
  ignored : callee? c s "ignored" = none
  shown : s.extras.lookup (contributionName name) = none

variable {c : ClassView} {s : Search} {name : String}

/-- An attribute that can be asked answers with the condition of its operator for what it stores. -/
theorem CanAsk.findOptionsFor_eq (hs : CanAsk c s name) {op : Operator} {conversion : Option Conversion}
    (hc : c.AsksBy name op conversion) {v : Value} (hv : s.values.lookup name = some v)
    (hgiven : v.isIgnored = false) {f : Option (Fragment Value)} (hf : op.conditionFor v = .ok f) :
    findOptionsFor c name s = .ok (contribution f) s := by
  have hcallee : callee? c s (contributionName name) =
      some (.member (.contribution name (op.block name))) := by
    unfold callee?
    rw [hc.contributes, hs.shown]
    rfl
  have hattributes : ¬ (name == "attributes" && !hidesAttributes c) = true := by
    intro h
    rw [Bool.and_eq_true, beq_iff_eq] at h
    exact hc.unreserved (h.1 ▸ by decide)
  have hread : read c name s = .ok v s := by
    rw [read, if_neg hattributes, valueOf, estate_get_bind]
    have hvalue : callee? c s name = some (.value v) := by
      unfold callee?
      rw [hc.attributed, hv]
      rfl
    rw [hvalue]
    rfl
  refine estate_bind_eq_ok.mpr ⟨(), s, ownOnly_eq_ok_iff.mpr ⟨hs.own, rfl⟩, ?_⟩
  refine estate_bind_eq_ok.mpr ⟨(), s, checkNames_eq_ok_iff.mpr ⟨hc.declares, rfl⟩, ?_⟩
  rw [estate_get_bind, hcallee]
  refine estate_bind_eq_ok.mpr ⟨false, s, ignored_eq_ok_iff.mpr
    ⟨hs.ignored, hc.declares, ⟨v, hv, hgiven⟩, rfl⟩, ?_⟩
  exact (run_block_eq_ok_iff hc.unreserved).mpr ⟨v, f, hread, hf, rfl, rfl⟩

end Search

/-- What is declared is declared. -/
theorem SearchClass.declares_withAttribute (c : SearchClass) (b : Builder) :
    (c.withAttribute b).schema.declares b.name = true :=
  (any_putEntry _ _ _ _).mpr (Or.inr rfl)

/-- A declaration that keeps the rules asks by its operator. -/
theorem ClassView.AsksBy.of_withAttribute {r : Registry} {id : Nat} (hid : id < r.classes.length) {b : Builder}
    (hb : b.IsStrict) {op : Operator} (hblock : b.block = some (op.block b.name)) :
    ((r.update id (·.withAttribute b)).view id).AsksBy b.name op b.conversion where
  unreserved := hb.not_reserved
  attributed := Registry.member?_withAttribute hid (if_pos rfl)
  contributes := by
    refine Registry.member?_withAttribute hid ?_
    rw [ChainEvent.member?, if_neg (contributionName_ne b.name), if_pos rfl, hblock]
    rfl
  listed := by
    change b.name ∈ ((r.update id (·.withAttribute b)).find id).schema.names
    rw [Registry.find_update_self hid]
    exact List.mem_append_right _ List.mem_cons_self
  declares := by
    change ((r.update id (·.withAttribute b)).find id).schema.declares b.name = true
    rw [Registry.find_update_self hid]
    exact SearchClass.declares_withAttribute _ b

end SearchQuery
