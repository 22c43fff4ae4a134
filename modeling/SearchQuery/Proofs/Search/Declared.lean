import SearchQuery.Proofs.Search.Change

/-!
# Classes declared by operators

Search classes are made, bound to tables, and given attributes with operators. Whatever is done in which
order, and whether it fails or not, all that the classes hold are attributes, contributions of operators,
and methods of other names (`Registry.Steps.written`). Where the tables have plain names, the operators
are on plain columns.
-/

namespace SearchQuery

/-! ## What operators leave in a class -/

/-- A method of this name hides no contribution, and of what every search has only its own hook. -/
structure IsMethodName (name : String) : Prop where
  not_reserved : name ∈ reservedNames → name = "before_find_options"
  not_contribution : ∀ other, name ≠ contributionName other

/-- The member is an attribute, what an operator on plain columns contributes for one, or a method of
another name. -/
def Member.ByOperator (key : String) : Member → Prop
  | .attribute _ => key ∉ reservedNames
  | .contribution name block =>
    key = contributionName name ∧ name ∉ reservedNames ∧
      ∃ op : Operator, op.IsPlain ∧ block = op.block name
  | .method _ => IsMethodName key

/-- The bridge is that of a table with plain names. -/
def Bridge.IsPlain (b : Bridge) : Prop :=
  ∃ t config, b = .relational t config ∧ t.HasPlainNames

/-- The names that are listed have defaults, and the bridge is plain if there is one. -/
structure Schema.ByOperators (s : Schema) : Prop where
  declares : ∀ name ∈ s.names, s.declares name = true
  bridge : ∀ b ∈ s.bridge, b.IsPlain

/-- All that the class holds is declared by operators. -/
structure SearchClass.ByOperators (c : SearchClass) : Prop where
  members : ∀ e ∈ c.members, e.2.ByOperator e.1
  schema : c.schema.ByOperators

def Registry.ByOperators (r : Registry) : Prop :=
  ∀ id, (r.find id).ByOperators

/-- A table has plain names, and no model has a bridge of its own. -/
def Model.IsPlain : Model → Prop
  | .table t => t.HasPlainNames
  | .custom _ _ => False
  | _ => True

namespace Bridge

/-- What a column predefines names its operator. -/
theorem nameOperator_columnBuilders {typeCast : Bool} {c : TableColumn} {b : Builder}
    (hb : b ∈ columnBuilders typeCast c) : b.options.NameOperator := by
  rw [columnBuilders, List.mem_cons] at hb
  rcases hb with rfl | hb
  · exact ⟨_, rfl, by simp⟩
  · split at hb
    next =>
      rw [List.mem_pair] at hb
      rcases hb with rfl | rfl
      · exact ⟨_, rfl, by simp⟩
      · exact ⟨_, rfl, by simp⟩
    next => cases hb

end Bridge

/-! ## What operations keep -/

section Written

/-! Which operators a class may hold, and on which tables, is a matter of the theorem: `Op` are the
operators and `Tab` the tables. -/

variable {Op : Operator → Prop} {Tab : Table → Prop}

/-- The member is an attribute, what one of the operators contributes for one, or a method of another
name. -/
def Member.WrittenBy (Op : Operator → Prop) (key : String) : Member → Prop
  | .attribute _ => key ∉ reservedNames
  | .contribution name block =>
    key = contributionName name ∧ name ∉ reservedNames ∧ ∃ op : Operator, Op op ∧ block = op.block name
  | .method _ => IsMethodName key

/-- The builder has the block of one of the operators. -/
def Builder.WrittenBy (Op : Operator → Prop) (b : Builder) : Prop :=
  ∃ op : Operator, Op op ∧ b.block = some (op.block b.name)

/-- The model is none, or one of the tables. -/
def Model.WrittenOn (Tab : Table → Prop) : Model → Prop
  | .table t => Tab t
  | .custom _ _ => False
  | _ => True

/-- All that the class holds is written by the operators, and its bridge is that of one of the tables. -/
structure SearchClass.Written (Op : Operator → Prop) (Tab : Table → Prop) (c : SearchClass) : Prop where
  members : ∀ e ∈ c.members, e.2.WrittenBy Op e.1
  declares : ∀ name ∈ c.schema.names, c.schema.declares name = true
  bridge : ∀ b ∈ c.schema.bridge, ∃ t config, b = .relational t config ∧ Tab t

/-- The operation names an operator wherever it declares an attribute, binds to the tables only, and has
methods of other names. -/
def ClassOperation.Writes (Op : Operator → Prop) (Tab : Table → Prop) : ClassOperation → Prop
  | .subclass _ _ _ methods m _ =>
    (∀ e ∈ methods, IsMethodName e.1) ∧ ∀ m' ∈ m, m'.WrittenOn Tab
  | .setModel _ _ m _ => m.WrittenOn Tab
  | .accessor _ _ options _ => options.NameOperator
  | .accessorOf _ _ options _ => options.NameOperator
  | .accessorBuilder _ b _ _ => b.options.NameOperator
  | .addAttribute _ b => b.WrittenBy Op
  | .addCallbacks _ _ => True

/-- No attribute may keep the option that names an operator. -/
theorem Options.NameOperator.not_isStrict {b : Builder} (h : b.options.NameOperator) : ¬ b.IsStrict := by
  obtain ⟨s, hs, -⟩ := h
  intro hstrict
  refine absurd hstrict.options (List.ne_nil_of_mem (a := "operator") ?_)
  rw [Options.unknown, List.mem_filter, List.mem_map]
  exact ⟨⟨_, mem_of_lookup hs, rfl⟩, by decide⟩

namespace SearchClass.Written

variable {c : SearchClass}

/-- A class that declares nothing. -/
theorem empty {name : String} : Written Op Tab { name } where
  members := fun e he => by cases he
  declares := fun n hn => by cases hn
  bridge := fun b hb => by cases hb

/-- One attribute more. -/
theorem withAttribute (hc : c.Written Op Tab) {b : Builder} (hstrict : b.IsStrict)
    (hb : b.WrittenBy Op) : (c.withAttribute b).Written Op Tab := by
  obtain ⟨op, hop, hblock⟩ := hb
  have hreserved := hstrict.not_reserved
  refine ⟨?_, ?_, hc.bridge⟩
  · -- Two members are written, one over the other: the attribute and its contribution.
    intro e he
    simp only [SearchClass.withAttribute, hblock] at he
    rcases mem_putEntry he with he | rfl
    · rcases mem_putEntry he with he | rfl
      · exact hc.members e he
      · exact hreserved
    · exact ⟨rfl, hreserved, op, hop, rfl⟩
  · intro n hn
    rw [Schema.declares]
    refine (any_putEntry _ _ _ _).mpr ?_
    rcases List.mem_append.mp hn with hn | hn
    · exact Or.inl (hc.declares n hn)
    · exact Or.inr (List.mem_singleton.mp hn).symm

/-- Declarations that are written by operators leave a class so. -/
theorem withAttributes (hc : c.Written Op Tab) {bs : List Builder} (hstrict : ∀ b ∈ bs, b.IsStrict)
    (hbs : ∀ b ∈ bs, b.WrittenBy Op) : (c.withAttributes bs).Written Op Tab := by
  induction bs generalizing c with
  | nil => exact hc
  | cons b bs ih =>
    rw [List.forall_mem_cons] at hstrict hbs
    exact ih (hc.withAttribute hstrict.1 hbs.1) hstrict.2 hbs.2

/-- A subclass of such a class is so too. -/
theorem made (hc : c.Written Op Tab) (parent : Nat) (name : String) {methods : List (String × Hook)}
    (hmethods : ∀ e ∈ methods, IsMethodName e.1) : (c.made parent name methods).Written Op Tab := by
  refine ⟨fun e he => ?_, hc.declares, hc.bridge⟩
  obtain ⟨e', he', rfl⟩ := List.mem_map.mp he
  exact hmethods e' he'

/-- A builder that names an operator is rewritten to one that has its block, unless the option is left
over because there is no bridge to consume it. -/
theorem writtenBy_of_rewritten
    (hnamed : ∀ {t config o op}, Tab t → Operator.Named t config o op → Op op)
    (hc : c.Written Op Tab) {b b' : Builder} (hb : b.options.NameOperator) (hstrict : b'.IsStrict)
    (h : Registry.rewritten c b = .ok b') : b'.WrittenBy Op := by
  cases hbridge : c.schema.bridge with
  | none =>
    rw [Registry.rewritten, hbridge] at h
    cases h
    exact absurd hstrict hb.not_isStrict
  | some bridge =>
    obtain ⟨t, config, rfl, ht⟩ := hc.bridge bridge hbridge
    obtain ⟨op, hop, hname, hblock⟩ :=
      Bridge.rewriteRelational_eq_ok hb ((SearchClass.rewritten_eq_ok_iff hbridge).mp h)
    exact ⟨op, hnamed ht hop, by rw [hblock, hname]⟩

/-- Declarations that a bridge rewrites name their operators, so they are written by them. -/
theorem withRewritten (hnamed : ∀ {t config o op}, Tab t → Operator.Named t config o op → Op op)
    (hc : c.Written Op Tab) {bs : List Builder} (hbs : ∀ b ∈ bs, b.options.NameOperator)
    (hstrict : ∀ b ∈ c.rewrittenAll bs, b.IsStrict) :
    (c.withAttributes (c.rewrittenAll bs)).Written Op Tab := by
  refine hc.withAttributes hstrict fun b' hb' => ?_
  obtain ⟨b, hb, hrewritten⟩ := SearchClass.mem_rewrittenAll.mp hb'
  exact writtenBy_of_rewritten hnamed hc (hbs b hb) (hstrict b' hb') hrewritten

/-- A class that is bound stays so. -/
theorem bound (hc : c.Written Op Tab) {m : Model} (hm : m.WrittenOn Tab) {current : Config}
    {bridge : Bridge} (h : bridgeFor current m = .ok bridge) : (c.bound m bridge).Written Op Tab := by
  refine ⟨hc.members, hc.declares, fun b hb => ?_⟩
  cases hb
  cases m with
  | table t =>
    cases h
    exact ⟨t, _, rfl, hm⟩
  | custom name contract => exact absurd hm id
  | bare name => cases h
  | value v => cases h

/-- The attributes that a bridge predefines name operators. -/
theorem nameOperator_of_automatic (hc : c.Written Op Tab) {bridge : Bridge}
    (hbridge : c.schema.bridge = some bridge) {options : Options} {bs : List Builder}
    (h : bridge.automatic options = .ok bs) : ∀ b ∈ bs, b.options.NameOperator := by
  obtain ⟨t, config, rfl, -⟩ := hc.bridge bridge hbridge
  simp only [Bridge.automatic] at h
  split at h
  next =>
    cases h
    intro b hb
    obtain ⟨c, -, hb⟩ := List.mem_flatMap.mp hb
    exact Bridge.nameOperator_columnBuilders hb
  next => cases h

end SearchClass.Written

namespace ClassOperation

/-- The builders that such an operation gives name operators. -/
theorem Writes.nameOperator {op : ClassOperation} (hop : op.Writes Op Tab) :
    ∀ b ∈ op.given, b.options.NameOperator := by
  intro b hb
  cases op with
  | accessor id names options block =>
    obtain ⟨n, -, hn⟩ := List.mem_filterMap.mp hb
    split at hn
    next =>
      cases hn
      exact hop
    next => cases hn
  | accessorOf id name options block =>
    rw [given.eq_def] at hb
    split at hb
    all_goals simp_all [Writes]
  | accessorBuilder id b' options block =>
    rw [List.mem_singleton.mp hb]
    exact hop
  | _ => cases hb

/-- A change keeps what is written by operators. -/
theorem Changes.written (hnamed : ∀ {t config o op}, Tab t → Operator.Named t config o op → Op op)
    {c c' : SearchClass} {op : ClassOperation} (hop : op.Writes Op Tab) (hc : c.Written Op Tab)
    (h : Changes c op c') : c'.Written Op Tab := by
  cases h with
  | declared hfront hstrict =>
    exact hc.withRewritten hnamed (fun b hb => hop.nameOperator b (hfront.subset hb)) hstrict
  | added hstrict => exact hc.withAttribute hstrict hop
  | callbacks => exact ⟨hc.members, hc.declares, hc.bridge⟩
  | bound _ hbridge hautomatic hstrict =>
    have hbound := hc.bound hop hbridge
    exact hbound.withRewritten hnamed (hbound.nameOperator_of_automatic rfl hautomatic) hstrict
  | restored _ hbridge hfront hstrict =>
    -- The schema that is given back was there before, so its bridge is one of them too.
    have hbound := hc.bound hop hbridge
    have hdeclared := hbound.withRewritten hnamed (fun b hb => by
      obtain ⟨bs, hautomatic, hb⟩ := hfront b hb
      exact hbound.nameOperator_of_automatic rfl hautomatic b hb) hstrict
    exact ⟨fun e he => hdeclared.members e (List.mem_filter.mp he).1, hc.declares, hc.bridge⟩

end ClassOperation

/-- The model that a class gets is one that is given. -/
theorem Model.writtenOn_modelFor {m : Option Model} (hm : ∀ m' ∈ m, m'.WrittenOn Tab) {given : Options}
    {m' : Model} (h : Registry.modelFor m given = some m') : m'.WrittenOn Tab := by
  unfold Registry.modelFor at h
  dsimp only at h
  split at h
  next => cases h
  next =>
    -- An option can name a value only, and no value is a table.
    cases m with
    | some m => exact hm m' h
    | none =>
      obtain ⟨s, -, rfl⟩ := Option.map_eq_some_iff.mp h
      trivial

/-- What such an operation leaves in the classes. -/
theorem Registry.Steps.written (hnamed : ∀ {t config o op}, Tab t → Operator.Named t config o op → Op op)
    {r r' : Registry} {op : ClassOperation} (h : r.Steps op r') (hop : op.Writes Op Tab)
    (hr : ∀ i, (r.find i).Written Op Tab) : ∀ i, (r'.find i).Written Op Tab := by
  intro i
  obtain hfind | ⟨-, -, hc⟩ | ⟨-, -, hc⟩ := h.find_cases i
  · rw [hfind]
    exact hr i
  · exact hc.written hnamed hop (hr i)
  · generalize r'.find i = c at hc ⊢
    cases hc with
    | unbound => exact (hr _).made _ _ hop.1
    | bound hm hc =>
      refine hc.written hnamed ?_ ((hr _).made _ _ hop.1)
      exact Model.writtenOn_modelFor hop.2 hm

end Written

namespace Registry

/-- **What a declaration installs.** Where a class is bound to a table, an attribute that is declared
with an operator is added with the block of that operator. -/
theorem declare_eq_ok {r r' : Registry} {id : Nat} {t : Table} {config : Config} {b : Builder}
    (hbridge : (r.find id).schema.bridge = some (.relational t config))
    (hb : b.options.NameOperator) (h : declare id b r = .ok () r') :
    ∃ b' op, Operator.Named t config b.options op ∧ b'.name = b.name ∧
      b'.block = some (op.block b.name) ∧ b'.IsStrict ∧ r' = r.update id (·.withAttribute b') := by
  obtain ⟨b', hrewritten, hstrict, hdeclare⟩ | ⟨e, hdeclare⟩ := declare_cases id b r
  · cases hdeclare.symm.trans h
    obtain ⟨op, hop, hname, hblock⟩ :=
      Bridge.rewriteRelational_eq_ok hb ((SearchClass.rewritten_eq_ok_iff hbridge).mp hrewritten)
    exact ⟨b', op, hop, hname, hblock, hstrict, rfl⟩
  · cases hdeclare.symm.trans h

end Registry

/-! ## Operators on plain columns -/

/-- A member is declared by an operator if it is written by a plain one. -/
theorem Member.byOperator_iff {key : String} {m : Member} :
    m.ByOperator key ↔ m.WrittenBy Operator.IsPlain key := by
  cases m <;> exact Iff.rfl

theorem Model.IsPlain.writtenOn {m : Model} (hm : m.IsPlain) : m.WrittenOn Table.HasPlainNames := by
  cases m <;> exact hm

/-- So is a class. -/
theorem SearchClass.byOperators_iff {c : SearchClass} :
    c.ByOperators ↔ c.Written Operator.IsPlain Table.HasPlainNames := by
  constructor
  · intro h
    exact ⟨fun e he => Member.byOperator_iff.mp (h.members e he), h.schema.declares, h.schema.bridge⟩
  · intro h
    exact ⟨fun e he => Member.byOperator_iff.mpr (h.members e he), h.declares, h.bridge⟩

end SearchQuery
