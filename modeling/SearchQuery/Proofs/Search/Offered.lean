import SearchQuery.Proofs.Search.Frame

/-!
# An attribute that is offered last

A class may be extended by one last attribute which always contributes the same. As long as all code of the
class avoids this attribute, a search of the class that is extended collects what a search of the first
class does, and then that contribution (`Search.sameAnswer_optionsOf`).

## Shape of a search

The two searches run alongside one another from the moment they are made to the last attribute of the first
class. Making one takes a label more in the class that is extended, which is given back.
-/

namespace SearchQuery

/-! ## Attributes that are offered -/

/-- The callback avoids the attribute, be it code, the name of a method or an expression, and does not ask for
what bears on all attributes. -/
def Callback.Avoids (b : Builder) (callback : Callback) : Prop :=
  callback.Obeys (.avoiding b True)

/-- The attribute takes no name of an attribute of the class. Its default is given, it always contributes the
option-map in the second class, and all code of the first one avoids it. -/
structure Builder.Offers (b : Builder) (c c' : ClassView) (o : Value) : Prop where
  new : b.name ∉ c.schema.names
  free : contributionName b.name ∉ c.schema.names
  apart : ∀ name ∈ c.schema.names, contributionName name ≠ b.name
  given : ∃ w, Search.stored b.conversion b.default = .ok w ∧ w.isIgnored = false
  answers : ∃ block, b.block = some block ∧ ∀ t, ∃ t', block.run c' t = .ok o t'
  members : ∀ key m, c.member? key = some m → ∀ hook ∈ m.code?, hook.Avoids b True
  callbacks : ∀ callback ∈ c.schema.callbacks, callback.Avoids b

/-- The second class is the first one with one last attribute, which offers the option-map. Nothing takes the
place of the operations by which options are composed. -/
structure ClassView.OffersLast (c : ClassView) (b : Builder) (c' : ClassView) (o : Value) : Prop
    extends b.Offers c c' o where
  extends_ : c.Extends b c'
  orderly : c.IsOrderly
  operations : ∀ key ∈ composingOperations, c.member? key = none

namespace ClassView.OffersLast

variable {c c' : ClassView} {b : Builder} {o : Value} (h : c.OffersLast b c' o)

include h

/-- The attribute keeps off those of the class. -/
theorem keepsOff : b.KeepsOff c :=
  ⟨fun hmem => absurd hmem h.free, fun hmem => absurd hmem h.new⟩

theorem ne_of_mem {name : String} (hname : name ∈ c.schema.names) : name ≠ b.name := by
  rintro rfl
  exact h.new hname

/-- The attributes of the class are left alone. -/
theorem leavesAlone {name : String} (hname : name ∈ c.schema.names) : b.LeavesAlone name :=
  h.keepsOff.leavesAlone hname (h.ne_of_mem hname)

/-- What is left alone is not the contribution of the attribute. -/
theorem ne_contributionName {key : String} (hkey : b.LeavesAlone key) : key ≠ contributionName b.name := by
  obtain ⟨block, hblock, -⟩ := h.answers
  intro heq
  rw [hkey.2 heq] at hblock
  cases hblock

/-- The attribute comes last. -/
theorem uniqueNames_eq : c'.schema.uniqueNames = c.schema.uniqueNames ++ [b.name] := by
  rw [h.extends_.uniqueNames_eq, if_neg h.new]

/-- All code of the class avoids the attribute, and so do those who ask for contributions. -/
theorem obeys : c.Obeys (.avoiding b True) where
  members key m hkey hm := h.orderly.obeys (h.ne_contributionName hkey) hm (h.members key m hm)
  contributions name hname hdeclared := by
    refine .of_ne (h.apart name ((h.orderly.listed name).mp hdeclared)) fun heq => ?_
    exact hname (contributionName_injective heq)
  callbacks := h.callbacks

/-- What avoids the attribute does the same in both classes. -/
theorem simulation :
    Simulation (.avoiding b True) c c' (Search.AlikeBut b True) (Failure.SameIn c.name c'.name) :=
  Search.Alongside.simulation h.extends_ h.orderly (absurd trivial)

end ClassView.OffersLast

namespace Search

/-! ## The last contribution -/

/-- Contributions are collected one after the other. -/
theorem contributions_append (c : ClassView) (validate : Value → Except Failure Unit)
    (names names' : List String) : contributions c validate (names ++ names') = do
      let maps ← contributions c validate names
      let maps' ← contributions c validate names'
      return maps ++ maps' := by
  induction names with
  | nil => simp [contributions]
  | cons name names ih =>
    rw [List.cons_append, contributions, contributions, ih, bind_assoc]
    refine congrArg _ (funext fun isIgnored => ?_)
    cases isIgnored with
    | true => rfl
    | false => simp

variable {c c' : ClassView} {b : Builder} {o : Value}

/-- A search that offers the attribute collects its option-map if it is accepted. -/
theorem contributions_offered (h : c.OffersLast b c' o) (validate : Value → Except Failure Unit) {t : Search}
    (ht : Offers b t) : answer (contributions c' validate [b.name]) t = (validate o).map fun _ => [o] := by
  obtain ⟨block, hblock, hanswers⟩ := h.answers
  obtain ⟨v, hv, hgiven⟩ := ht.value
  obtain ⟨t', ht'⟩ := hanswers t
  -- None of the operations that ask an attribute is hidden, so its own block answers.
  have hnone : ∀ key ∈ askingOperations, callee? c' t key = none := by
    intro key hkey
    have hoperation : key ∈ composingOperations := by
      revert key
      decide
    unfold callee?
    rw [h.extends_.member?_reserved (isReserved_of_composing hoperation), h.operations key hoperation,
      ht.extras key (Or.inl hkey)]
    rfl
  have hcallee : callee? c' t (contributionName b.name) = some (.member (.contribution b.name block)) := by
    have hextra := ht.extras (contributionName b.name) (Or.inr fun halone => h.ne_contributionName halone rfl)
    unfold callee?
    rw [h.extends_.member?_contributionName hblock, hextra]
    rfl
  have hignored : ignored c' b.name t = .ok false t := ignored_eq_ok_iff.mpr
    ⟨hnone _ (by decide), h.extends_.declares_name, ⟨v, hv, hgiven⟩, rfl⟩
  have hfind : findOptionsFor c' b.name t = .ok o t' := by
    refine estate_bind_eq_ok.mpr ⟨(), t, ownOnly_eq_ok_iff.mpr ⟨hnone _ (by decide), rfl⟩, ?_⟩
    refine estate_bind_eq_ok.mpr ⟨(), t, checkNames_eq_ok_iff.mpr ⟨h.extends_.declares_name, rfl⟩, ?_⟩
    rw [estate_get_bind, hcallee]
    exact estate_bind_eq_ok.mpr ⟨false, t, hignored, ht'⟩
  rw [answer, contributions, estate_bind_eq, hignored]
  simp only [Bool.false_eq_true, if_false]
  rw [estate_bind_eq, hfind]
  cases hvalid : validate o with
  | error e =>
    dsimp only
    rw [estate_bind_eq, hvalid]
    rfl
  | ok _ =>
    dsimp only
    rw [estate_bind_eq, hvalid]
    rfl

/-- What the class contributes is checked by its bridge. -/
theorem ownFindOptionsList_eq {c : ClassView} {br : Bridge} (hbridge : c.schema.bridge = some br) :
    ownFindOptionsList c =
      runBeforeFindOptions c >>= fun _ => contributions c br.validate c.schema.uniqueNames := by
  have hvalidate : (fun v => (bridge c).bind fun b => b.validate v) = br.validate := by
    rw [bridge, hbridge]
    rfl
  rw [ownFindOptionsList_def, hvalidate]

/-- Both searches collect the same, and the one of the class that is extended the last contribution too. -/
theorem agree_ownFindOptionsList (h : c.OffersLast b c' o) {s t : Search} (hst : AlikeBut b True s t)
    {br : Bridge} (hbridge : c.schema.bridge = some br) :
    SameAnswer c.name c'.name
      (answer (ownFindOptionsList c) s >>= fun maps => (br.validate o).map fun _ => maps ++ [o])
      (answer (ownFindOptionsList c') t) := by
  have hnames : ∀ name ∈ c.schema.uniqueNames, name ∈ c.schema.names := fun name hname =>
    List.mem_eraseDups.mp hname
  have k := h.simulation
  have hchain : Alongside b True c.name c'.name (runBeforeFindOptions c) (runBeforeFindOptions c') :=
    k.runChain False.elim h.obeys h.extends_.callbacks
  have hfront := hchain.bind fun _ =>
    k.contributions h.obeys br.validate fun name hname => h.ne_of_mem (hnames name hname)
  have hown' : ownFindOptionsList c' =
      (runBeforeFindOptions c' >>= fun _ => contributions c' br.validate c.schema.uniqueNames) >>= fun maps =>
        contributions c' br.validate [b.name] >>= fun maps' => return maps ++ maps' := by
    rw [ownFindOptionsList_eq (h.extends_.bridge.trans hbridge), h.uniqueNames_eq, contributions_append,
      bind_assoc]
  rw [ownFindOptionsList_eq hbridge, hown', ← answer_bind fun maps s₁ => Bridge.answer_lift _ s₁]
  refine (hfront.agreeBut hst).sameAnswer_bind fun maps s₁ t₁ _ hst₁ => ?_
  rw [Bridge.answer_lift, answer_bind (g := fun maps' => .ok (maps ++ maps')) fun _ _ => rfl,
    contributions_offered h br.validate (hst₁.offers trivial)]
  cases br.validate o with
  | error e => exact .error (.refl e)
  | ok _ => exact .ok _

/-! ## Searches that are made -/

theorem askingOperations_subset : askingOperations ⊆ reservedNames := by
  decide

/-- A search of a bound class is made of what is supplied, once it is known that all of it is declared. -/
theorem make_eq {c : ClassView} (hmodel : c.schema.model.isSome = true) (attributes : Value)
    (values : List (String × Value)) : make c attributes values =
      lift (suppliedBy attributes values) >>= fun supplied =>
        checkNames c (supplied.map (·.1)) >>= fun _ =>
          assignAll c (c.schema.uniqueNames.map fun name => (name, initial c supplied name)) := by
  have hbound : c.schema.model.isNone = false := by
    rw [← Option.not_isSome, hmodel]
    rfl
  rw [make, hbound, suppliedBy]
  simp only [Bool.false_eq_true, if_false]
  cases entriesOf attributes >>= byName <;> rfl

variable {attributes : Value} {values : List (String × Value)} {s₀ t : Search}

/-- A search that is made offers the attribute, if its value is left to the default. -/
theorem offers_of_make (h : c.OffersLast b c' o)
    (hother : ∀ supplied, suppliedBy attributes values = .ok supplied → supplied.lookup b.name = none)
    (hvalues : s₀.values = []) (hextras : s₀.extras = []) (ht : make c' attributes values s₀ = .ok () t) :
    Offers b t := by
  obtain ⟨-, supplied, hsupplied, -, hassign⟩ := make_eq_ok_iff.mp ht
  have hholds := holds_of_make hvalues hextras hassign
  have hmem : b.name ∈ c'.schema.names := by simp [h.extends_.names_eq]
  have habsent : ∀ key, key ∉ c.schema.names → key ≠ b.name → t.extras.lookup key = none := by
    intro key hkey hne
    refine (hholds.absent key (if_neg ?_)).2
    simp [h.extends_.names_eq, hkey, hne]
  refine ⟨?_, fun key hkey => ?_⟩
  · obtain ⟨w, hw, hgiven⟩ := h.given
    obtain ⟨-, w', label, hw', hvalue⟩ := hholds.stored b.name _ _ (if_pos hmem) h.extends_.member?_name
    rw [initial, hother supplied hsupplied, h.extends_.defaults_name] at hw'
    change stored b.conversion b.default = .ok w' at hw'
    rw [hw] at hw'
    cases hw'
    exact ⟨_, hvalue, by rw [Value.isIgnored_labelled, hgiven]⟩
  · by_cases hne : key = b.name
    · rw [hne]
      exact hholds.extras_eq_none h.extends_.member?_name
    · refine habsent key (fun hkey' => ?_) hne
      rcases hkey with hasking | hnot
      · exact h.orderly.unreserved key hkey' (askingOperations_subset hasking)
      · exact hnot (h.leavesAlone hkey')

/-- A search of the second class is made as one of the first class is, and then it stores the default of
the last attribute. -/
theorem exists_make (h : c.OffersLast b c' o)
    (hother : ∀ supplied, suppliedBy attributes values = .ok supplied → supplied.lookup b.name = none) :
    ∃ act, make c' attributes values = (act >>= fun _ => assign c' b.name b.default) ∧
      Alongside b False c.name c'.name (make c attributes values) act := by
  cases hmodel : c.schema.model with
  | none =>
    have hmake : ∀ c₁ : ClassView, c₁.schema.model = none →
        make c₁ attributes values = throw (.modelNotSet c₁.name) := by
      intro c₁ hc₁
      rw [make, hc₁]
      rfl
    rw [hmake c hmodel, hmake c' (h.extends_.model.trans hmodel)]
    exact ⟨throw (.modelNotSet c'.name), rfl, Relates.throw .modelNotSet⟩
  | some m =>
    have hbound : c.schema.model.isSome = true := by rw [hmodel]; rfl
    have hbound' : c'.schema.model.isSome = true := by rw [h.extends_.model, hmodel]; rfl
    rw [make_eq hbound, make_eq hbound']
    cases hsupplied : suppliedBy attributes values with
    | error e => exact ⟨throw e, rfl, Relates.throw (.refl e)⟩
    -- The names that are given are the same, and the new attribute comes last with its default.
    | ok supplied =>
      have hnone := hother supplied hsupplied
      have hknown : ∀ name ∈ supplied.map (·.1), c'.schema.declares name = c.schema.declares name := by
        intro name hname
        refine h.extends_.declares_eq ?_
        rintro rfl
        rw [mem_keys_iff, hnone] at hname
        cases hname
      have halone : ∀ e ∈ c.schema.uniqueNames.map fun name => (name, initial c supplied name),
          b.LeavesAlone e.1 := by
        intro e he
        obtain ⟨name, hname, rfl⟩ := List.mem_map.mp he
        exact h.leavesAlone (List.mem_eraseDups.mp hname)
      have hinitial : initial c' supplied b.name = b.default := by
        rw [initial, hnone, h.extends_.defaults_name]
        rfl
      refine ⟨_, ?_, (Relates.checkNames hknown .unknownAttributes).bind fun _ =>
        Alongside.assignAll h.extends_ halone⟩
      rw [bind_assoc]
      change (checkNames c' _ >>= fun _ => assignAll c' _) = _
      rw [entries_eq h.extends_ h.new fun _ _ => rfl, assignAll_append, hinitial]
      simp [assignAll]

/-- The searches are made alike, and the label that the last attribute takes is given back. -/
theorem agree_make (h : c.OffersLast b c' o)
    (hother : ∀ supplied, suppliedBy attributes values = .ok supplied → supplied.lookup b.name = none)
    (hvalues : s₀.values = []) (hextras : s₀.extras = []) :
    AgreeBut b True c.name c'.name (make c attributes values s₀)
      ((do
        make c' attributes values
        modify fun s => { s with labels := s.labels - 1 } : Searching Unit) s₀) := by
  obtain ⟨act, hmake, hfront⟩ := exists_make h hother
  obtain ⟨w, hw, -⟩ := h.given
  have hagree := hfront.agreeBut (.refl b s₀)
  rw [estate_bind_eq]
  generalize make c attributes values s₀ = x at hagree ⊢
  generalize hy : act s₀ = y at hagree
  cases hagree with
  | error he =>
    rw [hmake, estate_bind_eq, hy]
    exact .error he
  | @ok _ s₁ t₁ hst =>
    have hlast : assign c' b.name b.default t₁ = .ok () (t₁.withValue b.name w) :=
      (assign_attribute_eq_ok_iff h.extends_.member?_name).mpr ⟨w, hw, rfl⟩
    have ht : (act >>= fun _ => assign c' b.name b.default) s₀ = .ok () _ :=
      estate_bind_eq_ok.mpr ⟨(), t₁, hy, hlast⟩
    rw [← hmake] at ht
    have hoffers := offers_of_make h hother hvalues hextras ht
    have hown := hst.putOwn_right id (w.labelled (t₁.labels + 1))
    rw [ht]
    exact .ok ⟨hown.values, hown.extras, hown.journal, hown.labels, fun _ => ⟨hoffers.value, hoffers.extras⟩⟩

/-- Values for attributes hide nothing by which options are composed. -/
theorem callee?_of_make (hc : c.IsOrderly) (hoperations : ∀ key ∈ composingOperations, c.member? key = none)
    (hvalues : s₀.values = []) (hextras : s₀.extras = []) (hs : make c attributes values s₀ = .ok () t)
    {key : String} (hkey : key ∈ composingOperations) : callee? c t key = none := by
  have hextra := lookup_extras_eq_none hc.listed hc.unreserved hvalues hextras hs (List.forall_mem_nil _) rfl
    (isReserved_of_composing hkey)
  unfold callee?
  rw [hoperations key hkey, hextra]
  rfl

/-! ## Options of a new search -/

/-- The options of a new search that is made from values. Each value takes a label, by which NaNs are told
apart; the last labels may be given back, for a search with fewer attributes takes fewer of them. -/
def optionsOf (c : ClassView) (attributes : Value) (spare : Nat) : Searching Value := do
  make c attributes []
  modify fun s => { s with labels := s.labels - spare }
  findOptions c

/-- Where nothing hides the list, it is that of the attributes. -/
theorem answer_optionMaps {s : Search} (hlist : callee? c s "find_options_list" = none) :
    answer (optionMaps c) s = answer (ownFindOptionsList c) s := by
  rw [answer, optionMaps_eq hlist, ← answer]

/-- Where nothing hides it, the option-map of a search is what the bridge merges. -/
theorem answer_findOptions {s : Search} (hmerged : callee? c s "find_options" = none) {br : Bridge}
    (hbridge : c.schema.bridge = some br) :
    answer (findOptions c) s = answer (optionMaps c) s >>= br.merge := by
  have hmerge : ∀ maps s, answer (lift ((bridge c).bind fun b => b.merge maps)) s = br.merge maps := by
    intro maps s
    rw [lift, Bridge.answer_lift, bridge, hbridge]
    rfl
  rw [answer, findOptions_def, orHiding_eq hmerged, ownFindOptions_def, ← answer]
  exact answer_bind hmerge s

/-- The options of a new search are what the bridge merges of its option-maps. -/
theorem answer_optionsOf (hc : c.IsOrderly) (hoperations : ∀ key ∈ composingOperations, c.member? key = none)
    {br : Bridge} (hbridge : c.schema.bridge = some br) (hvalues : s₀.values = [])
    (hextras : s₀.extras = []) :
    answer (optionsOf c attributes 0) s₀ =
      answer (make c attributes [] >>= fun _ => optionMaps c) s₀ >>= br.merge := by
  have hfree : ∀ s, make c attributes [] s₀ = .ok () s → callee? c s "find_options" = none := fun _ hs =>
    callee?_of_make hc hoperations hvalues hextras hs (by decide)
  rw [optionsOf, answer, answer, estate_bind_eq, estate_bind_eq]
  generalize make c attributes [] s₀ = x at hfree ⊢
  cases x with
  | error e s => rfl
  | ok u s => exact answer_findOptions (hfree s rfl) hbridge

/-- **An option-map merged behind a search.** What a search collects, with an option-map behind it that is
checked and merged with the rest at once, is what a search of the class gives that offers this option-map
last. -/
theorem sameAnswer_optionsOf (h : c.OffersLast b c' o) {br : Bridge} (hbridge : c.schema.bridge = some br)
    (hother : ∀ supplied, suppliedBy attributes [] = .ok supplied → supplied.lookup b.name = none)
    (hvalues : s₀.values = []) (hextras : s₀.extras = []) :
    SameAnswer c.name c'.name
      (answer (make c attributes [] >>= fun _ => optionMaps c) s₀ >>= fun maps =>
        br.validate o >>= fun _ => br.merge (maps ++ [o]))
      (answer (optionsOf c' attributes 1) s₀) := by
  rw [optionsOf, ← bind_assoc, ← answer_bind fun maps s => Bridge.answer_lift _ s, bind_assoc]
  refine (agree_make h hother hvalues hextras).sameAnswer_bind fun _ s t hs hst => ?_
  have hnone : ∀ key ∈ composingOperations, callee? c s key = none := fun key =>
    callee?_of_make h.orderly h.operations hvalues hextras hs
  have hnone' : ∀ key ∈ composingOperations, callee? c' t key = none := by
    intro key hkey
    rw [← hst.callee?_eq h.extends_ (h.extends_.strict.leavesAlone (isReserved_of_composing hkey))]
    exact hnone key hkey
  have hlists := (agree_ownFindOptionsList h hst hbridge).bind br.merge
  rw [answer_bind fun maps s => Bridge.answer_lift _ s, answer_optionMaps (hnone _ (by decide)),
    answer_findOptions (hnone' _ (by decide)) (h.extends_.bridge.trans hbridge),
    answer_optionMaps (hnone' _ (by decide))]
  rw [bind_assoc] at hlists
  cases hvalid : br.validate o with
  | error e =>
    rw [hvalid] at hlists
    exact hlists
  | ok _ =>
    rw [hvalid] at hlists
    exact hlists

end Search

end SearchQuery
