import SearchQuery.Proofs.Search.Casting
import SearchQuery.Proofs.Search.Declared

/-!
# Classes that convert by casting only

An attribute converts what is stored in it by a conversion of its declaration, or casts it to the kind of
a column, or both. Where no declaration of a class or of its ancestors gives a conversion, casting is all
that is left (`Registry.Runs.casts`): every attribute that a search of the class can have stores its value
as it is, or casts it.

## Shape of a history

A class finds its members along the chain of its ancestors. Operations on other classes, and those that
fail, are no exception to be made: they may give what they like, as long as they are off the chain.
-/

namespace SearchQuery

/-- What is stored is cast to a kind, or is stored as it is given. -/
def CastsOnly (conversion : Option Conversion) : Prop :=
  conversion = none ∨ ∃ m kind, conversion = some (Column.tryCast m kind)

/-! ## What rewriting makes of a declaration without a conversion -/

/-- To take out another option does not change the conversion. -/
theorem Builder.conversion_erase {name : String} (h : "store_as" ≠ name) (b : Builder) :
    ({ b with options := b.options.erase name } : Builder).conversion = b.conversion := by
  rw [conversion, conversion, Options.get?_erase h]

namespace Bridge

variable {α β : Type}

/-- Whatever the computation does to a builder, its conversion stays. -/
def KeepsConversion (act : EStateM Failure Builder α) : Prop :=
  ∀ b, (after act b).conversion = b.conversion

namespace KeepsConversion

theorem pure (a : α) : KeepsConversion (Pure.pure a) := fun _ => rfl

theorem lift (e : Except Failure α) : KeepsConversion (lift e) := by
  intro b
  cases e <;> rfl

theorem take {name : String} (h : "store_as" ≠ name) : KeepsConversion (take name) :=
  Builder.conversion_erase h

theorem withBlock (f : Builder → Hook) :
    KeepsConversion (modify fun b => { b with block := some (f b) }) := fun _ => rfl

/-- What is done one after the other keeps the conversion, if each part does. -/
theorem bind {x : EStateM Failure Builder α} {f : α → EStateM Failure Builder β}
    (hx : KeepsConversion x) (hf : ∀ a, KeepsConversion (f a)) : KeepsConversion (x >>= f) :=
  fun b => after_bind_keeps (I := fun b' => b'.conversion = b.conversion) (hx b)
    fun a b₁ _ hb₁ => (hf a b₁).trans hb₁

theorem ite {p : Prop} [Decidable p] {x y : EStateM Failure Builder α} (hx : KeepsConversion x)
    (hy : KeepsConversion y) : KeepsConversion (if p then x else y) := by
  split
  · exact hx
  · exact hy

/-- A search string is never cast. -/
theorem rewriteFullText (t : Table) (config : Config) (operator : String) :
    KeepsConversion (rewriteFullText t config operator) := by
  refine (take (by decide)).bind fun several => ?_
  rw [ite_bind_eq]
  refine (ite (pure _) (take (by decide))).bind fun names => ?_
  refine (take (by decide)).bind fun _ => (take (by decide)).bind fun _ => ?_
  refine (lift _).bind fun columns => (take (by decide)).bind fun excluded => ?_
  cases excluded with
  | some s => exact (pure _).bind fun exclude => withBlock _
  | none => exact (lift _).bind fun patterns => (pure _).bind fun exclude => withBlock _

end KeepsConversion

/-- **What rewriting makes.** A declaration without a conversion has none when it is rewritten, but for
the cast to the kind of its column. -/
theorem castsOnly_rewriteRelational {t : Table} {config : Config} {b b' : Builder}
    (hb : b.conversion = none) (h : rewriteRelational t config b = .ok () b') :
    CastsOnly b'.conversion := by
  have hrest : ({ b with options := b.options.erase "operator" } : Builder).conversion = none := by
    rw [Builder.conversion_erase (by decide), hb]
  by_cases hoperator : b.options.NameOperator
  · obtain ⟨s, hs, hne⟩ := hoperator
    obtain ⟨operator, -, ⟨op, -, hrun⟩ | ⟨-, hrun⟩⟩ := rewriteRelational_of_named hs hne h
    · obtain ⟨key, c, hkey, hc, -, -⟩ := rewriteColumn_eq_ok hrun
      rw [rewriteColumn_eq hkey hc (key_ne_empty hkey hrun)] at hrun
      cases hrun
      rw [Builder.conversion_onColumn, hrest]
      split
      next =>
        cases c.kind with
        | none => exact Or.inl rfl
        | some kind => exact Or.inr ⟨_, kind, rfl⟩
      next => exact Or.inl rfl
    · have hkept := KeepsConversion.rewriteFullText t config operator
        { b with options := b.options.erase "operator" }
      rw [after, hrun, hrest] at hkept
      exact Or.inl hkept
  · rw [rewriteRelational_of_not_named hoperator h, hrest]
    exact Or.inl rfl

/-- The attributes that a table predefines are declared without a conversion. -/
theorem conversion_of_columnBuilders {typeCast : Bool} {c : TableColumn} {b : Builder}
    (hb : b ∈ columnBuilders typeCast c) : b.conversion = none := by
  rw [columnBuilders, List.mem_cons] at hb
  rcases hb with rfl | hb
  · rfl
  · split at hb
    next =>
      rw [List.mem_pair] at hb
      rcases hb with rfl | rfl <;> rfl
    next => cases hb

end Bridge

/-! ## Classes -/

/-- The attributes that the class holds convert by casting only, and its bridge is that of a table. -/
structure SearchClass.Casts (c : SearchClass) : Prop where
  members : ∀ e ∈ c.members, ∀ conversion, e.2 = .attribute conversion → CastsOnly conversion
  bridge : ∀ b ∈ c.schema.bridge, ∃ t config, b = .relational t config

/-- The options name no conversion. -/
def Options.Unconverted (o : Options) : Prop :=
  (o.get? "store_as").bind Setting.toConversion? = none

/-- The operation gives no conversion to what it declares, and binds to tables only. -/
def ClassOperation.Unconverted : ClassOperation → Prop
  | .subclass _ _ _ _ m _ => ∀ m' ∈ m, m'.WrittenOn fun _ => True
  | .setModel _ _ m _ => m.WrittenOn fun _ => True
  | .accessor _ _ options _ => options.Unconverted
  | .accessorOf _ _ options _ => options.Unconverted
  | .accessorBuilder _ b _ _ => b.options.Unconverted
  | .addAttribute _ b => b.options.Unconverted
  | .addCallbacks _ _ => True

namespace SearchClass.Casts

variable {c : SearchClass}

/-- A class without members casts. -/
theorem empty {name : String} : Casts { name } where
  members := fun e he => by cases he
  bridge := fun b hb => by cases hb

/-- A class goes on to cast with a declaration whose conversion casts. -/
theorem withAttribute (hc : c.Casts) {b : Builder} (hb : CastsOnly b.conversion) :
    (c.withAttribute b).Casts := by
  refine ⟨fun e he conversion hmember => ?_, hc.bridge⟩
  have hentry : e ∈ putEntry c.members b.name (.attribute b.conversion) ∨
      ∃ block, e = (contributionName b.name, .contribution b.name block) := by
    simp only [SearchClass.withAttribute] at he
    split at he
    next block _ =>
      obtain he | rfl := mem_putEntry he
      · exact Or.inl he
      · exact Or.inr ⟨block, rfl⟩
    next => exact Or.inl he
  obtain he | ⟨block, rfl⟩ := hentry
  · obtain he | rfl := mem_putEntry he
    · exact hc.members e he conversion hmember
    · cases hmember
      exact hb
  · cases hmember

theorem withAttributes (hc : c.Casts) {bs : List Builder} (hbs : ∀ b ∈ bs, CastsOnly b.conversion) :
    (c.withAttributes bs).Casts := by
  induction bs generalizing c with
  | nil => exact hc
  | cons b bs ih =>
    rw [List.forall_mem_cons] at hbs
    exact ih (hc.withAttribute hbs.1) hbs.2

/-- The bridge of the class, if it has one, makes no conversion but casts. -/
theorem withRewritten (hc : c.Casts) {bs : List Builder} (hbs : ∀ b ∈ bs, b.conversion = none) :
    (c.withAttributes (c.rewrittenAll bs)).Casts := by
  refine hc.withAttributes fun b' hb' => ?_
  obtain ⟨b, hb, hrewritten⟩ := SearchClass.mem_rewrittenAll.mp hb'
  cases hbridge : c.schema.bridge with
  | none =>
    rw [Registry.rewritten, hbridge] at hrewritten
    obtain rfl := Except.ok.inj hrewritten
    exact Or.inl (hbs _ hb)
  | some bridge =>
    obtain ⟨t, config, rfl⟩ := hc.bridge bridge hbridge
    exact Bridge.castsOnly_rewriteRelational (hbs b hb)
      ((SearchClass.rewritten_eq_ok_iff hbridge).mp hrewritten)

/-- A subclass casts. -/
theorem made (hc : c.Casts) (parent : Nat) (name : String) (methods : List (String × Hook)) :
    (c.made parent name methods).Casts := by
  refine ⟨fun e he conversion hmember => ?_, hc.bridge⟩
  obtain ⟨e', -, rfl⟩ := List.mem_map.mp he
  cases hmember

/-- So does a class that is bound to a model. -/
theorem bound (hc : c.Casts) {m : Model} (hm : m.WrittenOn fun _ => True) {current : Config}
    {bridge : Bridge} (h : bridgeFor current m = .ok bridge) : (c.bound m bridge).Casts := by
  refine ⟨hc.members, fun b hb => ?_⟩
  cases hb
  cases m with
  | table t =>
    cases h
    exact ⟨t, _, rfl⟩
  | custom name contract => exact absurd hm id
  | bare name => cases h
  | value v => cases h

/-- What is predefined has no conversion. -/
theorem conversion_of_automatic (hc : c.Casts) {bridge : Bridge} (hbridge : c.schema.bridge = some bridge)
    {options : Options} {bs : List Builder} (h : bridge.automatic options = .ok bs) :
    ∀ b ∈ bs, b.conversion = none := by
  obtain ⟨t, config, rfl⟩ := hc.bridge bridge hbridge
  simp only [Bridge.automatic] at h
  split at h
  next =>
    cases h
    intro b hb
    obtain ⟨column, -, hb⟩ := List.mem_flatMap.mp hb
    exact Bridge.conversion_of_columnBuilders hb
  next => cases h

end SearchClass.Casts

namespace ClassOperation

theorem Unconverted.given {op : ClassOperation} (hop : op.Unconverted) :
    ∀ b ∈ op.given, b.conversion = none := by
  intro b hb
  cases op with
  | accessor id names options block =>
    obtain ⟨n, -, hn⟩ := List.mem_filterMap.mp hb
    split at hn
    next =>
      cases hn
      exact hop
    next => cases hn
  | accessorOf id name options block =>
    cases name with
    | text name =>
      rw [List.mem_singleton.mp hb]
      exact hop
    | _ => cases hb
  | accessorBuilder id b' options block =>
    rw [List.mem_singleton.mp hb]
    exact hop
  | _ => cases hb

/-- What an operation without conversions makes of a class. -/
theorem Changes.casts {c c' : SearchClass} {op : ClassOperation} (hop : op.Unconverted)
    (hc : c.Casts) (h : Changes c op c') : c'.Casts := by
  cases h with
  | declared hfront _ => exact hc.withRewritten fun b hb => hop.given b (hfront.subset hb)
  | added _ => exact hc.withAttribute (Or.inl hop)
  | callbacks => exact ⟨hc.members, hc.bridge⟩
  | bound _ hbridge hautomatic _ =>
    have hbound := hc.bound hop hbridge
    exact hbound.withRewritten (hbound.conversion_of_automatic rfl hautomatic)
  | restored _ hbridge hfront _ =>
    -- The schema that is given back was there before, so its bridge is that of a table too.
    have hbound := hc.bound hop hbridge
    have hdeclared := hbound.withRewritten fun b hb => by
      obtain ⟨bs, hautomatic, hb⟩ := hfront b hb
      exact hbound.conversion_of_automatic rfl hautomatic b hb
    exact ⟨fun e he => hdeclared.members e (List.mem_filter.mp he).1, hc.bridge⟩

/-- A new class of such an operation is cast like its parent. -/
theorem Makes.casts {r : Registry} {op : ClassOperation} {c : SearchClass} (hop : op.Unconverted)
    (h : Makes r op c) (hparent : (r.find op.named).Casts) : c.Casts := by
  cases h with
  | unbound => exact hparent.made _ _ _
  | bound hm hc =>
    refine hc.casts ?_ (hparent.made _ _ _)
    exact Model.writtenOn_modelFor hop hm

/-- The ancestors of a new class begin with its parent. -/
theorem Makes.ancestors_eq {r : Registry} {op : ClassOperation} {c : SearchClass} (h : Makes r op c) :
    c.ancestors = op.named :: (r.find op.named).ancestors := by
  cases h with
  | unbound => rfl
  | bound _ hc => exact hc.ancestors_eq

end ClassOperation

/-! ## Runs -/

namespace Registry

variable {ops : List ClassOperation} {r : Registry}

/-- A run is told by its operations. -/
theorem Runs.eq_afterAll {r' : Registry} (h : Runs r ops r') : r' = afterAll ops r := by
  induction h with
  | nil => rfl
  | snoc _ _ ih =>
    rw [afterAll, List.foldl_append, ih]
    rfl

/-- **What operations leave in a chain of classes.** Where the operations on the classes of a chain give no
conversions, the classes convert by casting only. -/
theorem Runs.casts_of_chain {chain : Nat → Prop} (hrun : Runs {} ops r)
    (hchain : ∀ i, chain i → ∀ j ∈ (r.find i).ancestors, chain j)
    (hops : ∀ front op back, ops = front ++ op :: back → chain (op.target (afterAll front {})) →
      op.Unconverted) : ∀ i, chain i → (r.find i).Casts := by
  induction hrun with
  | nil =>
    intro i _
    cases i <;> exact .empty
  | @snoc ops r op hrun hop ih =>
    intro i hi
    have hstep := op.steps r
    have hearlier : ∀ j, chain j → (r.find j).Casts := by
      refine ih (fun j hj k hk => ?_) fun front op' back hsplit htarget => ?_
      · -- An ancestor of a class that was there before is one still.
        refine hchain j hj k ?_
        rcases lt_or_ge j r.classes.length with hlt | hge
        · rwa [hstep.ancestors_eq hlt]
        · rw [find_of_le hge] at hk
          cases hk
      · exact hops front op' (back ++ [op]) (by rw [hsplit]; simp) htarget
    -- The last operation is one of those that are restricted if its target is in the chain.
    have hlast : chain (op.target r) → op.Unconverted := by
      intro htarget
      rw [hrun.eq_afterAll] at htarget
      exact hops ops op [] rfl htarget
    obtain hfind | ⟨rfl, -, hc⟩ | ⟨rfl, -, hc⟩ := hstep.find_cases i
    · rw [hfind]
      exact hearlier i hi
    · exact hc.casts (hlast hi) (hearlier _ hi)
    · refine hc.casts (hlast hi) (hearlier _ (hchain _ hi _ ?_))
      rw [hc.ancestors_eq]
      exact List.mem_cons_self

/-- None of the operations on the class and its ancestors gives a conversion. -/
def Unconverted (r : Registry) (id : Nat) (ops : List ClassOperation) : Prop :=
  ∀ front op back, ops = front ++ op :: back →
    op.target (afterAll front {}) ∈ id :: (r.find id).ancestors → op.Unconverted

/-- **A class without conversions casts.** -/
theorem Runs.casts {id : Nat} (hrun : Runs {} ops r) (hops : r.Unconverted id ops) {name : String}
    {conversion : Option Conversion} (hmember : (r.view id).member? name = some (.attribute conversion)) :
    CastsOnly conversion := by
  have hchain : ∀ i ∈ id :: (r.find id).ancestors, ∀ j ∈ (r.find i).ancestors,
      j ∈ id :: (r.find id).ancestors := by
    intro i hi j hj
    rcases List.mem_cons.mp hi with rfl | hi
    · exact List.mem_cons_of_mem _ hj
    · refine List.mem_cons_of_mem _ ?_
      rw [hrun.isTree.mem_ancestors_iff] at hi hj ⊢
      exact hi.trans hj
  obtain ⟨i, hi, hentry⟩ := List.exists_of_findSome?_eq_some hmember
  exact (hrun.casts_of_chain hchain hops i hi).members _ (mem_of_lookup hentry) conversion rfl

end Registry

end SearchQuery
