import SearchQuery.Proofs.Search.Alongside

/-!
# Attributes beside one another

An attribute that is declared leaves the other attributes of its class alone. A search that is made
afterwards holds the same values for them, and tells the same about them, as one that was made before from
the same values. The attribute itself reads back what it stores.

## What a declaration takes

A declaration writes up to two names: that of the attribute and that of its contribution. What every search
has is kept out of reach by the check of the name. What other attributes have is not: an attribute may be
named like the contribution of another one, and then the later declaration counts
(`declaration_takes_name`).
-/

namespace SearchQuery

/-! ## Code that keeps to attributes -/

/-- The code reads, assigns and ignores no name but these, unless it ignores all attributes at once. -/
def Hook.KeepsTo (names : List String) : Hook → Prop
  | done _ => True
  | fail _ => True
  | read name next => name ∈ names ∧ ∀ v, (next v).KeepsTo names
  | write name _ next => name ∈ names ∧ next.KeepsTo names
  | ignore name next => name ∈ names ∧ next.KeepsTo names
  | note _ next => next.KeepsTo names
  | ignoreAll next => next.KeepsTo names
  | label next => ∀ n, (next n).KeepsTo names

/-- Code that keeps to attributes which were declared before avoids a new one. -/
theorem Hook.KeepsTo.avoids {b : Builder} {names : List String}
    (hnames : ∀ name ∈ names, b.LeavesAlone name ∧ name ∉ reservedNames) {hook : Hook}
    (h : hook.KeepsTo names) : hook.Avoids b False := by
  induction hook with
  | done v => trivial
  | fail e => trivial
  | read name next ih =>
    obtain ⟨halone, hreserved⟩ := hnames name h.1
    refine ⟨⟨halone, ?_⟩, fun v => ih v (h.2 v)⟩
    rintro rfl
    exact hreserved (by decide)
  | write name v next ih => exact ⟨⟨(hnames name h.1).1, False.elim⟩, ih h.2⟩
  | ignore name next ih => exact ⟨(hnames name h.1).1.1, ih h.2⟩
  | note line next ih => exact ih h
  | ignoreAll next ih => exact ⟨id, ih h⟩
  | label next ih => exact ⟨trivial, fun n => ih n (h n)⟩

/-- The declaration takes no name of an attribute of the class for what it contributes, and an attribute
that it declares again is still found as one. -/
structure Builder.KeepsOff (b : Builder) (c : ClassView) : Prop where
  contribution : contributionName b.name ∈ c.schema.names → b.block = none
  shown : b.name ∈ c.schema.names → ∃ conversion, c.member? b.name = some (.attribute conversion)

theorem Builder.KeepsOff.leavesAlone {b : Builder} {c : ClassView} (h : b.KeepsOff c) {name : String}
    (hmem : name ∈ c.schema.names) (hname : name ≠ b.name) : b.LeavesAlone name :=
  ⟨hname, fun heq => h.contribution (heq ▸ hmem)⟩

namespace Search

/-! ## What is made -/

/-- What is supplied under a name is found by it. -/
theorem mem_keys_iff {entries : List (String × Value)} {name : String} :
    name ∈ entries.map (·.1) ↔ (entries.lookup name).isSome = true := by
  rw [List.mem_map, Option.isSome_iff_ne_none, Ne, List.lookup_eq_none_iff]
  simp only [bne_iff_ne, not_forall, Classical.not_not, exists_prop]
  exact ⟨fun ⟨e, he, hname⟩ => ⟨e, he, hname.symm⟩, fun ⟨e, he, hname⟩ => ⟨e, he, hname.symm⟩⟩

variable {c c' : ClassView} {b : Builder} {attributes attributes' : Value}
  {values values' supplied supplied' : List (String × Value)} {s₀ s t : Search}

/-- An attribute reads back what it stores. -/
theorem read_eq_of_lookup {name : String} {conversion : Option Conversion}
    (hmember : c.member? name = some (.attribute conversion)) (hname : name ≠ "attributes") {v : Value}
    (hvalue : s.values.lookup name = some v) : read c name s = .ok v s := by
  have hone : (name == "attributes") = false := beq_false_of_ne hname
  have hcallee : callee? c s name = some (.value v) := by
    unfold callee?
    rw [hmember, hvalue]
    rfl
  unfold read
  rw [hone]
  change valueOf c name s = _
  rw [valueOf, estate_get_bind, hcallee]
  rfl

/-- Searches of the two classes that are made from the same values are alike but for the new attribute,
once they count labels from the same one. -/
theorem alikeBut_of_make (h : c.Extends b c') (hoff : b.KeepsOff c)
    (hsupplied : suppliedBy attributes values = .ok supplied)
    (hsupplied' : suppliedBy attributes' values' = .ok supplied')
    (hagree : ∀ name, name ≠ b.name → supplied.lookup name = supplied'.lookup name)
    (hs : make c attributes values s₀ = .ok () s) (ht : make c' attributes' values' s₀ = .ok () t)
    (labels : Nat) : AlikeBut b False { s with labels } { t with labels } := by
  obtain ⟨-, given, hgiven, -, hs⟩ := make_eq_ok_iff.mp hs
  obtain ⟨-, given', hgiven', -, ht⟩ := make_eq_ok_iff.mp ht
  rw [hsupplied] at hgiven
  rw [hsupplied'] at hgiven'
  cases hgiven
  cases hgiven'
  have hinitial : ∀ name ∈ c.schema.uniqueNames, name ≠ b.name →
      initial c supplied name = initial c' supplied' name := fun name _ hname =>
    initial_eq h hname (hagree name hname)
  have halone : ∀ name ∈ c.schema.uniqueNames, name ≠ b.name → b.LeavesAlone name := fun name hmem hname =>
    hoff.leavesAlone (List.mem_eraseDups.mp hmem) hname
  have hshown : b.name ∈ c.schema.uniqueNames →
      ∃ conversion, c.member? b.name = some (.attribute conversion) := fun hmem =>
    hoff.shown (List.mem_eraseDups.mp hmem)
  have hassign : ∀ t',
      assignAll c' (c.schema.uniqueNames.map fun name => (name, initial c' supplied' name)) s₀ = .ok () t' →
        AlikeBut b False s t' := fun _ =>
    AlikeBut.assignAll h hinitial halone hshown (.refl b s₀) hs
  by_cases hnew : b.name ∈ c.schema.names
  · rw [h.uniqueNames_eq, if_pos hnew] at ht
    exact (hassign t ht).setLabels labels
  · rw [h.uniqueNames_eq, if_neg hnew, List.map_append, assignAll_append] at ht
    obtain ⟨_, t₁, hfront, hback⟩ := estate_bind_eq_ok.mp ht
    obtain ⟨_, t₂, hown, hend⟩ := estate_bind_eq_ok.mp hback
    cases hend
    -- The new attribute is assigned last, so only its own value and the label differ.
    obtain ⟨w, -, rfl⟩ := (assign_attribute_eq_ok_iff h.member?_name).mp hown
    exact ((hassign _ hfront).putOwn_right id _).setLabels labels

/-- What is supplied beside the new attribute is declared in both classes, or in neither. -/
theorem declares_supplied_iff (h : c.Extends b c')
    (hagree : ∀ name, name ≠ b.name → supplied.lookup name = supplied'.lookup name)
    (hnone : supplied.lookup b.name = none) :
    (∀ name ∈ supplied'.map (·.1), c'.schema.declares name = true) ↔
      ∀ name ∈ supplied.map (·.1), c.schema.declares name = true := by
  constructor
  · intro hall name hname
    rw [mem_keys_iff] at hname
    have hne : name ≠ b.name := by
      rintro rfl
      rw [hnone] at hname
      cases hname
    rw [← h.declares_eq hne]
    exact hall name (mem_keys_iff.mpr (by rwa [← hagree name hne]))
  · intro hall name hname
    by_cases hne : name = b.name
    · rw [hne, h.declares_name]
    · rw [h.declares_eq hne]
      refine hall name (mem_keys_iff.mpr ?_)
      rw [hagree name hne]
      exact mem_keys_iff.mp hname

/-- A search of the second class can be made from values just if one of the first class can be made without
that of the new attribute, and the attribute can store its value. -/
theorem make_iff (h : c.Extends b c') (hoff : b.KeepsOff c) (hnew : b.name ∉ c.schema.names)
    (hsupplied : suppliedBy attributes values = .ok supplied)
    (hsupplied' : suppliedBy attributes' values' = .ok supplied')
    (hagree : ∀ name, name ≠ b.name → supplied.lookup name = supplied'.lookup name)
    (hnone : supplied.lookup b.name = none) :
    (∃ t, make c' attributes' values' s₀ = .ok () t) ↔
      (∃ s, make c attributes values s₀ = .ok () s) ∧
        ∃ w, stored b.conversion (initial c' supplied' b.name) = .ok w := by
  have hentries := entries_eq h hnew hagree
  have halone : ∀ e ∈ c.schema.uniqueNames.map fun name => (name, initial c supplied name),
      b.LeavesAlone e.1 := by
    intro e he
    obtain ⟨name, hname, rfl⟩ := List.mem_map.mp he
    have hmem := List.mem_eraseDups.mp hname
    exact hoff.leavesAlone hmem (by rintro rfl; exact hnew hmem)
  have hfront := Alongside.assignAll h halone s₀ s₀ (.refl b s₀)
  simp only [make_eq_ok_iff, hsupplied, hsupplied', h.model, Except.ok.injEq, exists_eq_left',
    declares_supplied_iff h hagree hnone, hentries, assignAll_append]
  generalize (c.schema.uniqueNames.map fun name => (name, initial c supplied name)) = entries at hfront ⊢
  rw [← exists_assign_attribute_iff h.member?_name _ (after (assignAll c' entries) s₀)]
  constructor
  · rintro ⟨t, hmodel, hall, ht⟩
    obtain ⟨_, t₁, ht, hend⟩ := estate_bind_eq_ok.mp ht
    obtain ⟨_, t₂, hown, -⟩ := estate_bind_eq_ok.mp hend
    rw [ht] at hfront
    rw [after, ht]
    generalize assignAll c entries s₀ = x at hfront ⊢
    cases hfront with
    | ok hst => exact ⟨⟨_, hmodel, hall, rfl⟩, t₂, hown⟩
  · rintro ⟨⟨s, hmodel, hall, hs⟩, t₂, hown⟩
    rw [hs] at hfront
    rw [after] at hown
    generalize hx : assignAll c' entries s₀ = x at hfront hown
    cases hfront with
    | ok hst =>
      refine ⟨t₂, hmodel, hall, estate_bind_eq_ok.mpr ⟨(), _, hx, ?_⟩⟩
      exact estate_bind_eq_ok.mpr ⟨(), t₂, hown, rfl⟩

/-- The new attribute of a search that is made holds what it stores. -/
theorem read_own_of_make (h : c.Extends b c') (hsupplied' : suppliedBy attributes' values' = .ok supplied')
    (hvalues : s₀.values = []) (hextras : s₀.extras = [])
    (ht : make c' attributes' values' s₀ = .ok () t) :
    ∃ w label, stored b.conversion (initial c' supplied' b.name) = .ok w ∧
      read c' b.name t = .ok (w.labelled label) t := by
  obtain ⟨-, given, hgiven, -, hassign⟩ := make_eq_ok_iff.mp ht
  rw [hsupplied'] at hgiven
  cases hgiven
  have hmem : b.name ∈ c'.schema.names := by simp [h.names_eq]
  obtain ⟨-, w, label, hw, hvalue⟩ := (holds_of_make hvalues hextras hassign).stored b.name _ _
    (if_pos hmem) h.member?_name
  refine ⟨w, label, hw, read_eq_of_lookup h.member?_name ?_ hvalue⟩
  rintro heq
  exact h.strict.not_reserved (heq ▸ by decide)

/-- It reads back what is assigned to it later on as well. -/
theorem read_own_of_assign (h : c.Extends b c') {v : Value} (ht : assign c' b.name v s = .ok () t) :
    ∃ w label, stored b.conversion v = .ok w ∧ read c' b.name t = .ok (w.labelled label) t := by
  obtain ⟨w, hw, rfl⟩ := (assign_attribute_eq_ok_iff h.member?_name).mp ht
  refine ⟨w, _, hw, read_eq_of_lookup h.member?_name ?_ (lookup_putEntry _ _ _)⟩
  rintro heq
  exact h.strict.not_reserved (heq ▸ by decide)

end Search

/-! ## Attributes that do not interfere -/

/-- **Attributes beside one another.** A declaration that is accepted leaves what every search has, and
its attribute reads back what it stores. Of searches that are made before and after it, from the same values
but for that of the attribute, all other attributes have the same values, are ignored and count as true
alike, and answer the same option-map or failure where their code avoids the new attribute. This is so of
declarations that take no name of an attribute for what they contribute, and for option-maps of attributes
whose contribution is not named like the new attribute. -/
theorem Registry.declaration_frames {ops : List ClassOperation} {r : Registry} (hrun : Registry.Runs {} ops r)
    {id : Nat} (hid : id < r.classes.length) {b : Builder} {r' : Registry}
    (hdeclared : Registry.addAttribute id b r = .ok () r') :
    let c := r.view id
    let c' := r'.view id
    (∀ key ∈ reservedNames, c'.member? key = c.member? key) ∧
    (∀ v s t, Search.assign c' b.name v s = .ok () t →
      ∃ w label, Search.stored b.conversion v = .ok w ∧ Search.read c' b.name t = .ok (w.labelled label) t) ∧
    ∀ attributes values supplied attributes' values' supplied' s₀,
      Search.suppliedBy attributes values = .ok supplied →
      Search.suppliedBy attributes' values' = .ok supplied' →
      (∀ name, name ≠ b.name → supplied.lookup name = supplied'.lookup name) →
      s₀.values = [] → s₀.extras = [] →
      (∀ t, Search.make c' attributes' values' s₀ = .ok () t →
        ∃ w label, Search.stored b.conversion (Search.initial c' supplied' b.name) = .ok w ∧
          Search.read c' b.name t = .ok (w.labelled label) t) ∧
      (b.KeepsOff c →
        (b.name ∉ c.schema.names → supplied.lookup b.name = none →
          ((∃ t, Search.make c' attributes' values' s₀ = .ok () t) ↔
            (∃ s, Search.make c attributes values s₀ = .ok () s) ∧
              ∃ w, Search.stored b.conversion (Search.initial c' supplied' b.name) = .ok w)) ∧
        ∀ s t, Search.make c attributes values s₀ = .ok () s →
          Search.make c' attributes' values' s₀ = .ok () t →
          ∀ a ∈ c.schema.names, a ≠ b.name →
            s.values.lookup a = t.values.lookup a ∧
            ∀ labels, let s := { s with labels }
              let t := { t with labels }
              answer (Search.read c a) s = answer (Search.read c' a) t ∧
              answer (Search.ignored c a) s = answer (Search.ignored c' a) t ∧
              answer (Search.truthy c a) s = answer (Search.truthy c' a) t ∧
              (contributionName a ≠ b.name →
                (∀ m ∈ c.member? (contributionName a), ∀ hook ∈ m.code?, hook.Avoids b False) →
                answer (Search.findOptionsFor c a) s =
                  answer (Search.findOptionsFor c' a) t)) := by
  intro c c'
  have hc : c.IsOrderly := hrun.isOrderly id
  have h : c.Extends b c' := extends_of_addAttribute hrun.isTree hid hdeclared
  have hname : c'.name = c.name := by
    obtain ⟨-, hadd⟩ | ⟨e, hadd⟩ := addAttribute_cases id b r
    · rw [hadd] at hdeclared
      cases hdeclared
      exact congrArg (·.name) (find_update_self hid _)
    · rw [hadd] at hdeclared
      cases hdeclared
  refine ⟨fun key hkey => h.member?_reserved hkey, fun v s t ht => Search.read_own_of_assign h ht, ?_⟩
  intro attributes values supplied attributes' values' supplied' s₀ hsupplied hsupplied' hagree hvalues hextras
  refine ⟨fun t ht => Search.read_own_of_make h hsupplied' hvalues hextras ht, fun hoff => ⟨?_, ?_⟩⟩
  · exact fun hnew hnone => Search.make_iff h hoff hnew hsupplied hsupplied' hagree hnone
  · intro s t hs ht a ha hne
    -- Both searches agree but for the new attribute, and so does all that is asked of another one.
    have halike := Search.alikeBut_of_make h hoff hsupplied hsupplied' hagree hs ht
    have hall : a ≠ "attributes" := fun heq => hc.unreserved a ha (heq ▸ by decide)
    refine ⟨(halike 0).values a hne, fun labels => ?_⟩
    have k := Search.Alongside.simulation h hc fun _ : ¬ False => List.ne_nil_of_mem ha
    have hread := k.read ⟨hoff.leavesAlone ha hne, hall⟩
    have hignored := k.ignored hne
    have htruthy := k.truthy hne
    rw [hname] at hread hignored htruthy
    have hst := halike labels
    refine ⟨Search.Relates.answer_eq hread hst, Search.Relates.answer_eq hignored hst,
      Search.Relates.answer_eq htruthy hst, fun hother hcode => ?_⟩
    have hkey : contributionName a ≠ contributionName b.name := fun heq => hne (contributionName_injective heq)
    have hfind := k.findOptionsFor hne (fun _ => .of_ne hother hkey) fun m _ hm =>
      hc.obeys hkey hm (hcode m hm)
    rw [hname] at hfind
    exact Search.Relates.answer_eq hfind hst

/-! ## Names that are taken -/

/-- The registry with a class that declares these attributes, one after the other. -/
def rowOf (bs : List Builder) : Registry :=
  Registry.afterAll
    (.subclass {} "P" Registry.root [] (some (.custom "M" {})) [] :: bs.map (.addAttribute 1)) {}

/-- A search of the class that is given one for each of these attributes. -/
def rowSearch (bs : List Builder) (names : List String) : Search :=
  after (Search.make ((rowOf bs).view 1) (.dict []) (names.map fun name => (name, .int 1))) {}

/-- What an operation answers on such a search. -/
def rowAnswer {α : Type} (bs : List Builder) (names : List String) (act : ClassView → Searching α) :
    Except Failure α :=
  answer (act ((rowOf bs).view 1)) (rowSearch bs names)

/-- An attribute that is named like the contribution of another one. -/
def takingBuilder : Builder :=
  { name := "find_options_for_a" }

/-- It takes the place of that contribution; declared before that attribute, it is lost itself. -/
theorem declaration_takes_name :
    rowAnswer [plainBuilder] ["a"] (Search.findOptionsFor · "a") = .ok someCondition ∧
      rowAnswer [plainBuilder, takingBuilder] ["a"] (Search.findOptionsFor · "a") = .error .wrongType ∧
      rowAnswer [takingBuilder] ["find_options_for_a"] (Search.ignored · "find_options_for_a") = .ok false ∧
      rowAnswer [takingBuilder, plainBuilder] ["find_options_for_a"] (Search.ignored · "find_options_for_a") =
        .error .noKey :=
  ⟨rfl, rfl, rfl, rfl⟩

/-- An attribute whose block asks for its own value. -/
def askingBuilder : Builder :=
  { name := "a"
    block := some (.read "a" fun v => .done (.dict [(.text "conditions", v)])) }

/-- An attribute with a conversion leaves the one before it alone. -/
theorem declaration_frames_counting :
    let b : Builder := { name := "b", options := [("store_as", .conversion Value.increment)] }
    let c := (rowOf [askingBuilder]).view 1
    let c' := (rowOf [askingBuilder, b]).view 1
    let s := rowSearch [askingBuilder] ["a"]
    let t := rowSearch [askingBuilder, b] ["a", "b"]
    Search.read c' "b" t = .ok (.int 2) t ∧
      ∀ labels, answer (Search.findOptionsFor c "a") { s with labels } =
        answer (Search.findOptionsFor c' "a") { t with labels } := by
  intro b c c' s t
  have hrun : Registry.Runs {} ([] ++ [.subclass {} "P" Registry.root [] (some (.custom "M" {})) []] ++
      [.addAttribute 1 askingBuilder]) (rowOf [askingBuilder]) := .snoc (.snoc .nil (by decide)) (by decide)
  have hdeclared : Registry.addAttribute 1 b (rowOf [askingBuilder]) = .ok () (rowOf [askingBuilder, b]) :=
    eq_ok_of_succeeds (by decide +kernel)
  obtain ⟨-, -, hall⟩ := Registry.declaration_frames hrun (by decide) hdeclared
  have hmake : Search.make c (.dict []) [("a", .int 1)] {} = .ok () s := rfl
  have hmake' : Search.make c' (.dict []) [("a", .int 1), ("b", .int 1)] {} = .ok () t :=
    eq_ok_of_succeeds (by decide +kernel)
  have hagree : ∀ name, name ≠ b.name → [("a", Value.int 1)].lookup name =
      [("a", Value.int 1), ("b", Value.int 1)].lookup name := by
    intro name hname
    have hb : (name == "b") = false := beq_false_of_ne hname
    simp only [List.lookup_cons, hb]
  obtain ⟨hown, hframe⟩ := hall (.dict []) [("a", .int 1)] _ (.dict []) [("a", .int 1), ("b", .int 1)] _ {}
    rfl rfl hagree rfl rfl
  obtain ⟨w, label, hw, hread⟩ := hown t hmake'
  cases hw
  have hoff : b.KeepsOff c := ⟨fun _ => rfl, fun hmem => absurd hmem (by decide)⟩
  have hkeeps : ∀ hook ∈ askingBuilder.block, hook.KeepsTo ["a"] := by
    rintro hook ⟨⟩
    exact ⟨by decide, fun v => trivial⟩
  refine ⟨hread, fun labels => ?_⟩
  refine ((hframe hoff).2 s t hmake hmake' "a" (by decide) (by decide)).2 labels |>.2.2.2 (by decide) ?_
  rintro m ⟨⟩ hook hhook
  refine (hkeeps hook hhook).avoids fun name hname => ?_
  rw [List.mem_singleton.mp hname]
  exact ⟨.of_ne (by decide) (by decide), by decide⟩

end SearchQuery
