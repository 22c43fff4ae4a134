import SearchQuery.Proofs.Search.Isolation

/-!
# Histories of declarations

What a search class declares comes from the classes that it descends from and from its own declarations,
one after the other. `Lineage` follows a class through a run of operations and lists what it was given:
the methods of each class body, and the builders as they were added, be it by a declaration or by a
binding. Operations on other branches of the tree do not show.

## Shape of a history

A history is a list, oldest first. Names are kept as often as they are declared, and a default counts
until the next one. A member counts until the next one of its name, wherever in the chain it was given
(`Lineage.records`).
-/

namespace SearchQuery

namespace Builder

/-- The default that a declaration gives. -/
def default (b : Builder) : Value :=
  ((b.options.get? "default").map Setting.toValue).getD .ignored

/-- The conversion that a declaration gives. -/
def conversion (b : Builder) : Option Conversion :=
  (b.options.get? "store_as").bind Setting.toConversion?

end Builder

/-- What a class is given: the methods of a class body, or a builder that is added. -/
inductive ChainEvent where
  | body (methods : List (String × Hook))
  | declared (b : Builder)

namespace ChainEvent

/-- The member of a name that is given. -/
def member? (key : String) : ChainEvent → Option Member
  | body methods => (methods.lookup key).map .method
  | declared b =>
    if key = b.name then some (.attribute b.conversion)
    else if key = contributionName b.name then b.block.map (.contribution b.name)
    else none

/-- A contribution is given under the name of contributions only. -/
theorem contribution_name {key name : String} {block : Hook} {e : ChainEvent}
    (h : e.member? key = some (.contribution name block)) : key = contributionName name := by
  cases e with
  | body methods =>
    obtain ⟨hook, -, hhook⟩ := Option.map_eq_some_iff.mp h
    cases hhook
  | declared b =>
    rw [member?] at h
    split at h
    next => cases h
    next =>
      split at h
      next hkey =>
        obtain ⟨block', -, hblock⟩ := Option.map_eq_some_iff.mp h
        cases hblock
        exact hkey
      next => cases h

/-- The builder that is added. -/
def builder? : ChainEvent → Option Builder
  | body _ => none
  | declared b => some b

end ChainEvent

/-! ## What a history tells -/

/-- The builders of a history. -/
def declarations (es : List ChainEvent) : List Builder :=
  es.filterMap ChainEvent.builder?

/-- The member of a name that was given last. -/
def lastMember (es : List ChainEvent) (key : String) : Option Member :=
  es.reverse.findSome? (·.member? key)

/-- The last declaration of an attribute. -/
def lastDeclaration (es : List ChainEvent) (name : String) : Option Builder :=
  (declarations es).reverse.find? (·.name == name)

/-- The block of the last declaration of an attribute that gave one. -/
def lastBlock (es : List ChainEvent) (name : String) : Option Hook :=
  (declarations es).reverse.findSome? fun b => if b.name = name then b.block else none

theorem declarations_append (es es' : List ChainEvent) :
    declarations (es ++ es') = declarations es ++ declarations es' :=
  List.filterMap_append

/-- The last member of a name is that of the later events, if they give one. -/
theorem lastMember_append (es es' : List ChainEvent) (key : String) :
    lastMember (es ++ es') key = (lastMember es' key).or (lastMember es key) := by
  rw [lastMember, List.reverse_append, List.findSome?_append]
  rfl

theorem lastMember_singleton (e : ChainEvent) (key : String) : lastMember [e] key = e.member? key := by
  simp [lastMember]

/-- So is its last declaration. -/
theorem lastDeclaration_append (es es' : List ChainEvent) (name : String) :
    lastDeclaration (es ++ es') name = (lastDeclaration es' name).or (lastDeclaration es name) := by
  rw [lastDeclaration, declarations_append, List.reverse_append, List.find?_append]
  rfl

/-- So is its last block. -/
theorem lastBlock_append (es es' : List ChainEvent) (name : String) :
    lastBlock (es ++ es') name = (lastBlock es' name).or (lastBlock es name) := by
  rw [lastBlock, declarations_append, List.reverse_append, List.findSome?_append]
  rfl

/-- What was declared is an event. -/
theorem mem_declarations {es : List ChainEvent} {b : Builder} :
    b ∈ declarations es ↔ .declared b ∈ es := by
  rw [declarations, List.mem_filterMap]
  constructor
  · rintro ⟨e, he, hb⟩
    cases e with
    | body _ => cases hb
    | declared _ =>
      cases hb
      exact he
  · intro h
    exact ⟨_, h, rfl⟩

/-- The name of a contribution starts with what is common to all of them. -/
theorem toList_contributionName (name : String) :
    (contributionName name).toList = "find_options_for_".toList ++ name.toList :=
  String.toList_append

/-- Different attributes have contributions of different names. -/
theorem contributionName_injective {name other : String}
    (h : contributionName name = contributionName other) : name = other := by
  have hlists := congrArg String.toList h
  rw [toList_contributionName, toList_contributionName] at hlists
  exact String.toList_inj.mp (List.append_cancel_left hlists)

/-- No contribution is named like its attribute. -/
theorem contributionName_ne (name : String) : contributionName name ≠ name := by
  intro h
  have hlength := congrArg (fun s => s.toList.length) h
  simp only [contributionName, String.toList_append, List.length_append] at hlength
  have hprefix : "find_options_for_".toList.length = 17 := rfl
  omega

/-- What an attribute contributes is its last block, where nothing else has the name. -/
theorem lastMember_contributionName {es : List ChainEvent} {name : String}
    (hbodies : ∀ methods, .body methods ∈ es → ∀ m ∈ methods, m.1 ≠ contributionName name)
    (hnames : ∀ b, .declared b ∈ es → b.name ≠ contributionName name) :
    lastMember es (contributionName name) = (lastBlock es name).map (.contribution name) := by
  -- What counts is the end of the history, so the induction takes the last event off.
  induction es using List.reverseRecOn with
  | nil => rfl
  | append_singleton es e ih =>
    rw [lastMember_append, lastMember_singleton, lastBlock_append, Option.map_or,
      ih (fun methods hm => hbodies methods (List.mem_append_left _ hm))
        fun b hb => hnames b (List.mem_append_left _ hb)]
    congr 1
    have he : e ∈ es ++ [e] := by simp
    cases e with
    | body methods =>
      change (methods.lookup (contributionName name)).map Member.method = none
      rw [Option.map_eq_none_iff, List.lookup_eq_none_iff]
      intro m hm
      rw [bne_iff_ne]
      exact (hbodies methods he m hm).symm
    | declared b =>
      rw [ChainEvent.member?, if_neg (hnames b he).symm]
      change _ = Option.map _ (([b].reverse).findSome? _)
      by_cases hname : b.name = name
      · subst hname
        simp
      · rw [if_neg fun h => hname (contributionName_injective h).symm]
        simp [hname]

/-- An attribute that is found is that of its last declaration. -/
theorem conversion_of_lastMember {es : List ChainEvent} {name : String} {conversion : Option Conversion}
    (h : lastMember es name = some (.attribute conversion)) :
    ∃ b, lastDeclaration es name = some b ∧ b.conversion = conversion := by
  -- The last event decides, unless it has no member of this name.
  induction es using List.reverseRecOn with
  | nil => cases h
  | append_singleton es e ih =>
    rw [lastMember_append, lastMember_singleton] at h
    rw [lastDeclaration_append]
    cases e with
    | body methods =>
      rw [ChainEvent.member?] at h
      cases hm : methods.lookup name with
      | none =>
        rw [hm] at h
        exact ih h
      | some hook =>
        rw [hm] at h
        cases h
    | declared b =>
      change ∃ b', (([b].reverse).find? (·.name == name)).or _ = some b' ∧ _
      rw [ChainEvent.member?] at h
      by_cases hname : name = b.name
      · subst hname
        rw [if_pos rfl] at h
        cases h
        exact ⟨b, by simp, rfl⟩
      · -- A contribution of this name would be found in the place of the attribute.
        have hnone : lastMember es name = some (.attribute conversion) := by
          rw [if_neg hname] at h
          split at h
          next =>
            cases hblock : b.block with
            | none =>
              rw [hblock] at h
              exact h
            | some block =>
              rw [hblock] at h
              cases h
          next => exact h
        obtain ⟨b', hb', hconversion⟩ := ih hnone
        refine ⟨b', ?_, hconversion⟩
        rw [hb']
        simp [Ne.symm hname]

/-! ## What a class keeps of it -/

namespace SearchClass

variable {c c' p : SearchClass} {es : List ChainEvent} {inherited : String → Option Member}

/-- A declaration writes its two members over those that are there. -/
theorem lookup_withAttribute (c : SearchClass) (b : Builder) (key : String) :
    (c.withAttribute b).members.lookup key =
      ((ChainEvent.declared b).member? key).or (c.members.lookup key) := by
  have hattribute : (putEntry c.members b.name (.attribute b.conversion)).lookup key =
      (if key = b.name then some (.attribute b.conversion) else none).or (c.members.lookup key) := by
    split
    next hkey => rw [hkey, lookup_putEntry]; rfl
    next hkey => exact lookup_putEntry_ne _ _ hkey
  rw [ChainEvent.member?]
  unfold SearchClass.withAttribute
  cases hblock : b.block with
  | none =>
    refine hattribute.trans ?_
    simp
  | some block =>
    change (putEntry (putEntry c.members b.name (.attribute b.conversion)) _ _).lookup key = _
    by_cases hkey : key = contributionName b.name
    · rw [hkey, lookup_putEntry, if_neg (contributionName_ne b.name), if_pos rfl]
      rfl
    · rw [lookup_putEntry_ne _ _ hkey, hattribute, if_neg hkey]

/-- The class declares what the other one does, and these attributes. -/
structure Adds (c : SearchClass) (bs : List Builder) (c' : SearchClass) : Prop where
  ancestors : c'.ancestors = c.ancestors
  members : c'.members = (c.withAttributes bs).members
  names : c'.schema.names = (c.withAttributes bs).schema.names
  defaults : c'.schema.defaults = (c.withAttributes bs).schema.defaults
  strict : ∀ b ∈ bs, b.IsStrict

/-- The class has, with the members that it inherits, what the history tells. -/
structure Records (c : SearchClass) (inherited : String → Option Member) (es : List ChainEvent) :
    Prop where
  members : ∀ key, (c.members.lookup key).or (inherited key) = lastMember es key
  names : c.schema.names = (declarations es).map (·.name)
  defaults : ∀ name, c.schema.defaults.lookup name = (lastDeclaration es name).map (·.default)
  strict : ∀ b ∈ declarations es, b.IsStrict

/-- A declaration that keeps the rules is recorded. -/
theorem Records.withAttribute (h : c.Records inherited es) {b : Builder} (hb : b.IsStrict) :
    (c.withAttribute b).Records inherited (es ++ [.declared b]) where
  members key := by
    rw [lookup_withAttribute, Option.or_assoc, h.members, lastMember_append, lastMember_singleton]
  names := by
    rw [declarations_append, List.map_append, ← h.names]
    rfl
  defaults name := by
    rw [lastDeclaration_append, Option.map_or, ← h.defaults]
    change (putEntry c.schema.defaults b.name b.default).lookup name = _
    by_cases hname : name = b.name
    · subst hname
      rw [lookup_putEntry]
      simp [lastDeclaration, declarations, ChainEvent.builder?]
    · rw [lookup_putEntry_ne _ _ hname]
      simp [lastDeclaration, declarations, ChainEvent.builder?, Ne.symm hname]
  strict := by
    rw [declarations_append, List.forall_mem_append]
    exact ⟨h.strict, fun b' hb' => List.mem_singleton.mp hb' ▸ hb⟩

/-- So are declarations one after the other. -/
theorem Records.withAttributes (h : c.Records inherited es) {bs : List Builder}
    (hbs : ∀ b ∈ bs, b.IsStrict) : (c.withAttributes bs).Records inherited (es ++ bs.map .declared) := by
  induction bs generalizing c es with
  | nil =>
    rw [List.map_nil, List.append_nil]
    exact h
  | cons b bs ih =>
    rw [List.forall_mem_cons] at hbs
    have hmore := ih (h.withAttribute hbs.1) hbs.2
    rwa [List.append_assoc] at hmore

/-- So are those that an operation adds. -/
theorem Records.adds (h : c.Records inherited es) {bs : List Builder} (hadds : c.Adds bs c') :
    c'.Records inherited (es ++ bs.map .declared) where
  members := by
    rw [hadds.members]
    exact (h.withAttributes hadds.strict).members
  names := hadds.names.trans (h.withAttributes hadds.strict).names
  defaults := by
    rw [hadds.defaults]
    exact (h.withAttributes hadds.strict).defaults
  strict := (h.withAttributes hadds.strict).strict

/-- A new class has the methods of its body in front of what it inherits. -/
theorem Records.made (h : p.Records inherited es) (parent : Nat) (name : String)
    (methods : List (String × Hook)) :
    (p.made parent name methods).Records (fun key => (p.members.lookup key).or (inherited key))
      (es ++ [.body methods]) where
  members key := by
    rw [h.members, lastMember_append, lastMember_singleton, ChainEvent.member?]
    congr 1
    change (methods.map fun m => (m.1, Member.method m.2)).lookup key = _
    induction methods with
    | nil => rfl
    | cons m methods ih =>
      rw [List.map_cons, List.lookup_cons, List.lookup_cons, ih]
      split <;> rfl
  names := by
    rw [declarations_append, List.map_append, ← h.names]
    exact (List.append_nil _).symm
  defaults name := by
    rw [lastDeclaration_append]
    exact h.defaults name
  strict := by
    rw [declarations_append, List.forall_mem_append]
    exact ⟨h.strict, fun b hb => by cases hb⟩

/-- Declarations that keep the rules are added to a class. -/
theorem Adds.withAttributes (c : SearchClass) {bs : List Builder} (hbs : ∀ b ∈ bs, b.IsStrict) :
    c.Adds bs (c.withAttributes bs) :=
  ⟨withAttributes_ancestors c bs, rfl, rfl, rfl, hbs⟩

/-- A binding does not show in what attributes add. -/
theorem withAttributes_bound (c : SearchClass) (m : Model) (bridge : Bridge) (bs : List Builder) :
    (c.bound m bridge).withAttributes bs = (c.withAttributes bs).bound m bridge := by
  induction bs generalizing c with
  | nil => rfl
  | cons b bs ih => exact ih (c.withAttribute b)

/-- So are those that follow a binding. -/
theorem Adds.bound (c : SearchClass) (m : Model) (bridge : Bridge) {bs : List Builder}
    (hbs : ∀ b ∈ bs, b.IsStrict) : c.Adds bs ((c.bound m bridge).withAttributes bs) := by
  rw [withAttributes_bound]
  exact ⟨withAttributes_ancestors c bs, rfl, rfl, rfl, hbs⟩

end SearchClass

/-! ## Operations that succeed -/

/-- The builders that an operation adds when it succeeds. -/
def ClassOperation.builders (r : Registry) : ClassOperation → List Builder
  | subclass current name parent methods m options =>
    match Registry.modelFor m options with
    | none => []
    | some m' =>
      ((r.find parent).made parent name methods).predefined current m' (options.erase "model")
  | setModel current id m options => (r.find id).predefined current m options
  | addAttribute _ b => [b]
  | op => (r.find op.named).rewrittenAll op.given

namespace Registry

variable {r r' : Registry} {id : Nat}

/-- A new class adds what its model predefines to what its body gives. -/
theorem subclass_eq_ok {current : Config} {name : String} {parent : Nat}
    {methods : List (String × Hook)} {m : Option Model} {options : Options}
    (h : subclass current name parent methods m options r = .ok id r') :
    id = r.classes.length ∧ ∃ c, r' = r.append c ∧
      ((r.find parent).made parent name methods).Adds
        ((ClassOperation.subclass current name parent methods m options).builders r) c := by
  obtain ⟨e, hrun⟩ | ⟨c, hrun, hc⟩ := subclass_cases current name parent methods m options r
  · rw [hrun] at h
    cases h
  · rw [hrun] at h
    cases h
    refine ⟨rfl, c, rfl, ?_⟩
    rw [ClassOperation.builders]
    obtain ⟨hmodel, rfl⟩ | ⟨m', hmodel, -, hstrict, bridge, rfl⟩ := hc
    · rw [hmodel]
      exact .withAttributes _ (by simp)
    · rw [hmodel]
      exact .bound _ m' bridge hstrict

/-- An operation that declares attributes adds those that the bridge makes of them. -/
theorem declareAll_adds {bs : List Builder} (h : declareAll id bs r = .ok () r') :
    ∃ c, r' = (r.update id fun _ => c) ∧ (r.find id).Adds ((r.find id).rewrittenAll bs) c := by
  obtain ⟨hstrict, rfl⟩ := declareAll_eq_ok h
  exact ⟨_, update_eq r id _, .withAttributes _ hstrict⟩

/-- So does an accessor. -/
theorem accessor_adds {names : List Value} {options : Options} {block : Option Hook}
    (h : accessor id names options block r = .ok () r') :
    ∃ c, r' = (r.update id fun _ => c) ∧ (r.find id).Adds
      ((r.find id).rewrittenAll (ClassOperation.accessor id names options block).given) c := by
  obtain ⟨e, hrun⟩ | hrun := accessor_cases id names options block r
  · rw [hrun] at h
    cases h
  · rw [hrun] at h
    exact declareAll_adds h

end Registry

/-- An operation on a class that succeeds adds its builders. -/
theorem ClassOperation.run_eq_ok {op : ClassOperation} {r r' : Registry}
    (hid : op.target r < r.classes.length) (h : op.run r = .ok () r') :
    ∃ c, r' = (r.update (op.target r) fun _ => c) ∧ (r.find (op.target r)).Adds (op.builders r) c := by
  cases op with
  -- A subclass is appended, so it is no class that was there.
  | subclass => exact absurd hid (lt_irrefl _)
  | setModel current id m options =>
    obtain ⟨e, hrun⟩ | ⟨c, -, ⟨hrun, hstrict, bridge, rfl⟩ | ⟨e, hrun⟩⟩ :=
      Registry.setModel_cases current hid m options
    · cases hrun.symm.trans h
    · cases hrun.symm.trans h
      exact ⟨_, rfl, .bound _ m bridge hstrict⟩
    · cases hrun.symm.trans h
  | accessor id names options block => exact Registry.accessor_adds h
  | accessorOf id name options block =>
    rw [run, Registry.accessorOf] at h
    split at h
    next => cases h
    next =>
      change ∃ c, _ ∧ (r.find id).Adds
        ((r.find id).rewrittenAll (accessorOf id name options block).given) c
      rw [given_accessorOf]
      exact Registry.accessor_adds h
  | accessorBuilder id b options block =>
    rw [run, Registry.accessorBuilder] at h
    split at h
    next => cases h
    next =>
      split at h
      next => cases h
      next =>
        dsimp only at h
        rw [← Registry.declareAll_singleton] at h
        exact Registry.declareAll_adds h
  | addAttribute id b =>
    obtain ⟨hstrict, hrun⟩ | ⟨e, hrun⟩ := Registry.addAttribute_cases id b r
    · cases hrun.symm.trans h
      have hbs : ∀ b' ∈ [b], b'.IsStrict := by simpa using hstrict
      exact ⟨_, Registry.update_eq r id _, .withAttributes _ hbs⟩
    · cases hrun.symm.trans h
  | addCallbacks id callbacks =>
    cases h
    exact ⟨(r.find id).withCallbacks callbacks, Registry.update_eq r id _,
      ⟨rfl, rfl, rfl, rfl, by simp [builders, given, SearchClass.rewrittenAll]⟩⟩

/-! ## Lineages -/

/-- The members that a class inherits from its ancestors, nearest first. -/
def Registry.inherited (r : Registry) (id : Nat) (key : String) : Option Member :=
  (r.find id).ancestors.findSome? fun i => (r.find i).members.lookup key

/-- A class finds a member of its own first, and then what it inherits. -/
theorem Registry.member?_eq (r : Registry) (id : Nat) (key : String) :
    r.member? id key = ((r.find id).members.lookup key).or (r.inherited id key) := by
  rw [member?, List.findSome?_cons, inherited]
  cases (r.find id).members.lookup key <;> rfl

/-- An ancestor has a smaller number, so it is not the class that changes. -/
theorem Registry.inherited_update {r : Registry} (hr : r.IsTree) {id : Nat} (hid : id < r.classes.length)
    {c : SearchClass} (hc : c.ancestors = (r.find id).ancestors) :
    (r.update id fun _ => c).inherited id = r.inherited id := by
  funext key
  rw [inherited, find_update_self hid, hc]
  refine findSome?_members_congr (fun j hj => ?_) key
  exact find_update_ne r (hr.lt_of_mem hj).ne _

/-- A class in a registry, with the history of all that it was given. A class that has subclasses in the
chain declares nothing more; what happens elsewhere in the tree, or fails there, does not count. -/
inductive Lineage : Registry → Nat → List ChainEvent → Prop
  | root : Lineage {} Registry.root []
  | declared {r r' : Registry} {id : Nat} {es : List ChainEvent} (op : ClassOperation) :
    Lineage r id es → op.IsOn r → op.target r = id → op.run r = .ok () r' →
    Lineage r' id (es ++ (op.builders r).map .declared)
  | subclass {r r' : Registry} {parent id : Nat} {es : List ChainEvent} (current : Config)
    (name : String) (methods : List (String × Hook)) (m : Option Model) (options : Options) :
    Lineage r parent es →
    Registry.subclass current name parent methods m options r = .ok id r' →
    Lineage r' id (es ++ [.body methods] ++
      ((ClassOperation.subclass current name parent methods m options).builders r).map .declared)
  | elsewhere {r : Registry} {id : Nat} {es : List ChainEvent} {op : ClassOperation} :
    Lineage r id es → op.IsOn r → op.target r ≠ id → ¬ r.Descends id (op.target r) →
    Lineage (after op.run r) id es

namespace Lineage

variable {r : Registry} {id : Nat} {es : List ChainEvent}

/-- The registry comes about by operations, and the class is there. -/
theorem exists_runs (h : Lineage r id es) : id < r.classes.length ∧ ∃ ops, Registry.Runs {} ops r := by
  induction h with
  | root => exact ⟨by decide, [], .nil⟩
  | @declared r r' id es op h hon htarget hrun ih =>
    obtain ⟨hid, ops, hops⟩ := ih
    have hafter : after op.run r = r' := by rw [after, hrun]
    obtain ⟨c, rfl, -⟩ := op.run_eq_ok (htarget ▸ hid) hrun
    refine ⟨by rwa [Registry.length_update], ops ++ [op], ?_⟩
    rw [← hafter]
    exact .snoc hops hon
  | @subclass r r' parent id es current name methods m options h hrun ih =>
    obtain ⟨hid, ops, hops⟩ := ih
    have hafter : after (ClassOperation.subclass current name parent methods m options).run r = r' := by
      rw [ClassOperation.after_run_subclass, after, hrun]
    obtain ⟨rfl, c, rfl, -⟩ := Registry.subclass_eq_ok hrun
    refine ⟨by simp [Registry.append], ops ++ [.subclass current name parent methods m options], ?_⟩
    rw [← hafter]
    exact .snoc hops hid
  | @elsewhere r id es op h hon htarget hdescends ih =>
    obtain ⟨hid, ops, hops⟩ := ih
    exact ⟨hid.trans_le (op.steps r).length_le, ops ++ [op], .snoc hops hon⟩

/-- The registry of a lineage is a tree. -/
theorem isTree (h : Lineage r id es) : r.IsTree := by
  obtain ⟨-, ops, hops⟩ := h.exists_runs
  exact hops.isTree

/-- **What a history is of.** The class finds the members that were given last, and declares the names
and the last defaults of its history. -/
theorem records (h : Lineage r id es) : (r.find id).Records (r.inherited id) es := by
  induction h with
  | root => exact ⟨fun _ => rfl, rfl, fun _ => rfl, fun b hb => by cases hb⟩
  | @declared r r' id es op h hon htarget hrun ih =>
    have hid := h.exists_runs.1
    obtain ⟨c, rfl, hadds⟩ := op.run_eq_ok (htarget ▸ hid) hrun
    rw [htarget] at hadds ⊢
    rw [Registry.find_update_self hid, Registry.inherited_update h.isTree hid hadds.ancestors]
    exact ih.adds hadds
  | @subclass r r' parent id es current name methods m options h hrun ih =>
    have hparent := h.exists_runs.1
    obtain ⟨rfl, c, rfl, hadds⟩ := Registry.subclass_eq_ok hrun
    have hself : (r.append c).find r.classes.length = c := Registry.find_append_self r c
    have hinherited : (r.append c).inherited r.classes.length =
        fun key => ((r.find parent).members.lookup key).or (r.inherited parent key) := by
      funext key
      rw [Registry.inherited, hself, hadds.ancestors, ← Registry.member?_eq]
      refine Registry.findSome?_members_congr (fun j hj => ?_) key
      refine Registry.find_append_ne r c (ne_of_lt ?_)
      rcases List.mem_cons.mp hj with rfl | hj
      · exact hparent
      · exact (h.isTree.lt_of_mem hj).trans hparent
    rw [hself, hinherited]
    exact (ih.made parent name methods).adds hadds
  | @elsewhere r id es op h hon htarget hdescends ih =>
    -- Neither the class nor an ancestor changes.
    have hancestor : op.target r ∉ (r.find id).ancestors := by
      rwa [h.isTree.mem_ancestors_iff]
    have hchain := (op.steps r).find_chain (Ne.symm htarget) hancestor
    rw [List.forall_mem_cons] at hchain
    have hinherited : (after op.run r).inherited id = r.inherited id := by
      funext key
      rw [Registry.inherited, hchain.1]
      exact Registry.findSome?_members_congr hchain.2 key
    rw [hchain.1, hinherited]
    exact ih

/-! ## The class as its searches see it -/

/-- What a class sees is what came last in its history. -/
theorem member?_eq (h : Lineage r id es) (key : String) :
    (r.view id).member? key = lastMember es key := by
  rw [← h.records.members key]
  exact Registry.member?_eq r id key

theorem names_eq (h : Lineage r id es) : (r.view id).schema.names = (declarations es).map (·.name) :=
  h.records.names

theorem defaults_eq (h : Lineage r id es) (name : String) :
    (r.view id).schema.defaults.lookup name = (lastDeclaration es name).map (·.default) :=
  h.records.defaults name

end Lineage

/-! ## Classes with more attributes -/

namespace SearchClass

/-- Declarations come one after the other. -/
theorem withAttributes_append (c : SearchClass) (bs : List Builder) (b : Builder) :
    c.withAttributes (bs ++ [b]) = (c.withAttributes bs).withAttribute b :=
  List.foldl_append

theorem lookup_withAttributes (c : SearchClass) (bs : List Builder) (key : String) :
    (c.withAttributes bs).members.lookup key =
      (lastMember (bs.map .declared) key).or (c.members.lookup key) := by
  induction bs using List.reverseRecOn with
  | nil => rfl
  | append_singleton bs b ih =>
    rw [withAttributes_append, lookup_withAttribute, ih, List.map_append, lastMember_append,
      List.map_singleton, lastMember_singleton, Option.or_assoc]

theorem names_withAttributes (c : SearchClass) (bs : List Builder) :
    (c.withAttributes bs).schema.names = c.schema.names ++ bs.map (·.name) := by
  induction bs using List.reverseRecOn with
  | nil => exact (List.append_nil _).symm
  | append_singleton bs b ih =>
    rw [withAttributes_append, List.map_append, ← List.append_assoc, ← ih]
    rfl

theorem lookup_defaults_withAttributes (c : SearchClass) (bs : List Builder) (name : String) :
    (c.withAttributes bs).schema.defaults.lookup name =
      ((lastDeclaration (bs.map .declared) name).map (·.default)).or (c.schema.defaults.lookup name) := by
  induction bs using List.reverseRecOn with
  | nil => rfl
  | append_singleton bs b ih =>
    rw [withAttributes_append, List.map_append, lastDeclaration_append, Option.map_or, Option.or_assoc, ← ih]
    change (putEntry (c.withAttributes bs).schema.defaults b.name b.default).lookup name = _
    by_cases hname : name = b.name
    · subst hname
      rw [lookup_putEntry]
      simp [lastDeclaration, declarations, ChainEvent.builder?]
    · rw [lookup_putEntry_ne _ _ hname]
      simp [lastDeclaration, declarations, ChainEvent.builder?, Ne.symm hname]

end SearchClass

/-- What searches see of a class that was given more attributes. -/
structure ClassView.Gains (c : ClassView) (bs : List Builder) (c' : ClassView) : Prop where
  member : ∀ key, c'.member? key = (lastMember (bs.map .declared) key).or (c.member? key)
  names : c'.schema.names = c.schema.names ++ bs.map (·.name)
  defaults : ∀ name, c'.schema.defaults.lookup name =
    ((lastDeclaration (bs.map .declared) name).map (·.default)).or (c.schema.defaults.lookup name)

/-- A class that declarations are added to gains what they give. -/
theorem SearchClass.Adds.gains {r : Registry} (hr : r.IsTree) {id : Nat} (hid : id < r.classes.length)
    {bs : List Builder} {c : SearchClass} (h : (r.find id).Adds bs c) :
    (r.view id).Gains bs ((r.update id fun _ => c).view id) := by
  have hself : (r.update id fun _ => c).find id = c := Registry.find_update_self hid _
  refine ⟨fun key => ?_, ?_, fun name => ?_⟩
  · change (r.update id fun _ => c).member? id key = _
    rw [Registry.member?_eq, hself, Registry.inherited_update hr hid h.ancestors, h.members,
      lookup_withAttributes, Option.or_assoc, ← Registry.member?_eq]
    rfl
  · change ((r.update id fun _ => c).find id).schema.names = _
    rw [hself, h.names, names_withAttributes]
    rfl
  · change ((r.update id fun _ => c).find id).schema.defaults.lookup name = _
    rw [hself, h.defaults, lookup_defaults_withAttributes]
    rfl

end SearchQuery
