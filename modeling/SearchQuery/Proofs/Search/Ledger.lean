import SearchQuery.Proofs.Search.Declared
import SearchQuery.Proofs.Search.History

/-!
# Ledgers of declarations

What an attribute asks for is written in its declaration: the operator and the columns that its options
name, on the table that its class is bound to. `Declared` follows the registries that come about when
classes are made and bound to tables, and attributes are declared with operators, and keeps the last
declaration of every attribute of every class. `Declaration.Asks` says what a declaration asks of a row,
by the name of its operator.

## Shape of the ledger

A run of declarations is told by its steps, each of which declares one attribute at most. Every operation
on the classes is such a run, also one that fails midway (`Declared.after_run`), so there is a ledger for
all that comes about by such operations (`Declared.exists_of_runs`). An entry is made when an attribute is
declared and never taken back: the block that a class holds for an attribute is that of its entry
(`Declared.holds`), and where a class holds none, a search asks the next ancestor (`Ledger.of`).
-/

namespace SearchQuery

open Sql Column

variable {α : Type} {row : Row α}

/-! ## What a declaration asks for -/

/-- A declaration of an attribute: the table that its class is bound to, the configuration of the
binding, and the options. -/
structure Declaration where
  table : Table
  config : Config
  options : Options

/-- What the operator of a name asks of a column, for the value of the attribute. -/
def columnDemand (row : Row α) (column : String) (v : Value) : String → Prop
  | "eq" => Operator.EqualTo row column v
  | "neq" => ¬ Operator.EqualTo row column v
  | "lt" => v = .null ∨ ∃ x, row.column column = some x ∧ row.compare .less x v = true
  | "lte" => v = .null ∨ ∃ x, row.column column = some x ∧ row.compare .atMost x v = true
  | "gt" => v = .null ∨ ∃ x, row.column column = some x ∧ row.compare .greater x v = true
  | "gte" => v = .null ∨ ∃ x, row.column column = some x ∧ row.compare .atLeast x v = true
  | "contains" =>
    soughtText v = "" ∨
      ∃ x, row.column column = some x ∧ row.like x (.text ("%" ++ soughtText v ++ "%")) = true
  | "starts_with" =>
    soughtText v = "" ∨
      ∃ x, row.column column = some x ∧ row.like x (.text (soughtText v ++ "%")) = true
  | "ends_with" =>
    soughtText v = "" ∨
      ∃ x, row.column column = some x ∧ row.like x (.text ("%" ++ soughtText v)) = true
  | _ => False

/-- The options name the operator. -/
def Options.Operates (o : Options) (operator : String) : Prop :=
  ∃ s, o.get? "operator" = some s ∧ s.toValue.written = .ok operator

/-- What a declaration asks of a row, for the value of the attribute: what its operator says of the one
column that it names, or that the row meets the criterion on all of them. -/
def Declaration.Asks (d : Declaration) (row : Row α) (v : Value) : Prop :=
  (∃ operator key c, d.options.Operates operator ∧
      d.options.get? "column" = some (.value (.text key)) ∧ d.table.column (.text key) = .ok c ∧
      columnDemand row (d.table.sqlColumn c) v operator) ∨
    d.options.Operates "full_text" ∧ ∃ columns exclude,
      Bridge.namedColumns d.table "full_text" d.options.columnNames = .ok columns ∧
      d.options.exclusion d.config = .ok exclude ∧
      (soughtText v = "" ∨ ∃ patterns, Query.exclusions exclude = .ok patterns ∧
        (Criterion.read ⟨patterns, d.config.parseMeta⟩ (soughtText v)).Meets row columns)

/-- The options name one operator. -/
theorem Options.Operates.eq {o : Options} {operator other : String} (h : o.Operates operator)
    (h' : o.Operates other) : operator = other := by
  obtain ⟨s, hs, hw⟩ := h
  obtain ⟨s', hs', hw'⟩ := h'
  cases hs.symm.trans hs'
  exact Except.ok.inj (hw.symm.trans hw')

/-- An operator on one column means what its name says. -/
theorem columnDemand_iff {operator column : String} {op : ColumnOperator} {v : Value}
    (h : ColumnOperator.ofName? operator = some op) :
    columnDemand row column v operator ↔ (Operator.single op column).Satisfied row v := by
  unfold ColumnOperator.ofName? at h
  split at h <;> cases h <;> exact Iff.rfl

/-- No operator on one column is called `full_text`. -/
theorem columnDemand_fullText {column : String} {v : Value} :
    ¬ columnDemand row column v "full_text" := by
  simp [columnDemand]

/-- The operator that a declaration names is satisfied where the row is what the declaration asks for. -/
theorem Operator.Named.asks_iff {d : Declaration} {op : Operator} {v : Value}
    (h : Named d.table d.config d.options op) : d.Asks row v ↔ op.Satisfied row v := by
  cases h with
  | @single s operator key op c hs hwritten hop hkey hc =>
    rw [← columnDemand_iff hop]
    constructor
    · rintro (⟨operator', key', c', hoperates, hkey', hc', hdemand⟩ | ⟨hoperates, -⟩)
      · obtain rfl := hoperates.eq ⟨s, hs, hwritten⟩
        cases hkey.symm.trans hkey'
        cases hc.symm.trans hc'
        exact hdemand
      · obtain rfl := hoperates.eq ⟨s, hs, hwritten⟩
        cases hop
    · exact fun hdemand => Or.inl ⟨operator, key, c, ⟨s, hs, hwritten⟩, hkey, hc, hdemand⟩
  | @fullText s columns exclude hs hwritten hcolumns hexclude =>
    constructor
    · rintro (⟨operator, key, c, hoperates, -, -, hdemand⟩ | ⟨-, columns', exclude', hcolumns',
        hexclude', hmeets⟩)
      · obtain rfl := hoperates.eq ⟨s, hs, hwritten⟩
        exact absurd hdemand columnDemand_fullText
      · cases hcolumns.symm.trans hcolumns'
        cases hexclude.symm.trans hexclude'
        exact hmeets
    · exact fun hmeets => Or.inr ⟨⟨s, hs, hwritten⟩, columns, exclude, hcolumns, hexclude, hmeets⟩

/-! ## Ledgers -/

/-- The declaration that each class made last of each attribute. -/
abbrev Ledger := Nat → String → Option Declaration

namespace Ledger

/-- The ledger with one entry more, which takes the place of an earlier one. -/
def note (L : Ledger) (id : Nat) (name : String) (d : Declaration) : Ledger :=
  Function.update L id (Function.update (L id) name (some d))

/-- The ledger with a class that has declared nothing. -/
def blank (L : Ledger) (id : Nat) : Ledger :=
  Function.update L id fun _ => none

/-- The declaration that counts for an attribute: that of the class, or of its nearest ancestor, which
holds something that the attribute contributes. -/
def of (L : Ledger) (r : Registry) (id : Nat) (name : String) : Option Declaration :=
  ((id :: (r.find id).ancestors).find? fun i =>
    ((r.find i).members.lookup (contributionName name)).isSome).bind fun i => L i name

theorem note_self (L : Ledger) (id : Nat) (name : String) (d : Declaration) :
    L.note id name d id name = some d := by
  rw [note, Function.update_self, Function.update_self]

theorem note_ne (L : Ledger) (d : Declaration) {id i : Nat} {name other : String}
    (h : i ≠ id ∨ other ≠ name) : L.note id name d i other = L i other := by
  rw [note]
  by_cases hi : i = id
  · subst hi
    rw [Function.update_self, Function.update_of_ne (h.resolve_left fun h => h rfl)]
  · rw [Function.update_of_ne hi]

theorem blank_ne (L : Ledger) {id i : Nat} (h : i ≠ id) : L.blank id i = L i := by
  rw [blank, Function.update_of_ne h]

end Ledger

/-- What is found first is found in the first place where there is something. -/
theorem exists_find?_of_findSome? {β γ : Type} {f : β → Option γ} {l : List β} {c : γ}
    (h : l.findSome? f = some c) : ∃ b, (l.find? fun b => (f b).isSome) = some b ∧ f b = some c := by
  induction l with
  | nil => cases h
  | cons b l ih =>
    rw [List.findSome?_cons] at h
    rw [List.find?_cons]
    cases hb : f b with
    | some c' =>
      rw [hb] at h
      exact ⟨b, rfl, hb.trans h⟩
    | none =>
      rw [hb] at h
      exact ih h

/-- The registries that come about when classes are made and bound to tables with plain names, attributes
are declared with operators, and schemas are given back, with the ledger of these declarations. -/
inductive Declared : Registry → Ledger → Prop
  | initial : Declared {} fun _ _ => none
  | made {r : Registry} {L : Ledger} (parent : Nat) (name : String) {methods : List (String × Hook)} :
    Declared r L → (∀ e ∈ methods, IsMethodName e.1) →
    Declared (r.append ((r.find parent).made parent name methods)) (L.blank r.classes.length)
  | bound {r : Registry} {L : Ledger} (id : Nat) {t : Table} (config : Config) :
    Declared r L → t.HasPlainNames →
    Declared (r.update id (·.bound (.table t) (.relational t config))) L
  | declared {r r' : Registry} {L : Ledger} {id : Nat} {t : Table} {config : Config} {b : Builder} :
    Declared r L → (r.find id).schema.bridge = some (.relational t config) →
    b.options.NameOperator → Registry.declare id b r = .ok () r' →
    Declared r' (L.note id b.name ⟨t, config, b.options⟩)
  | restored {r : Registry} {L : Ledger} (id : Nat) {schema : Schema} :
    Declared r L → schema.ByOperators → Declared (r.update id (·.restored schema)) L
  | callbacks {r : Registry} {L : Ledger} (id : Nat) (callbacks : List Callback) :
    Declared r L → Declared (r.update id (·.withCallbacks callbacks)) L

/-- The operation declares attributes by naming their operators, and binds to tables with plain names. It
adds no attribute that is made already. -/
def ClassOperation.NamesOperators (op : ClassOperation) : Prop :=
  op.Writes Operator.IsPlain Table.HasPlainNames ∧ ∀ i b, op ≠ .addAttribute i b

namespace Declared

variable {r r' : Registry} {L : Ledger} {id : Nat}

/-! ## What declared classes hold -/

/-- Attributes and contributions of operators on plain columns, and methods of other names. -/
theorem written (h : Declared r L) :
    ∀ i, (r.find i).Written Operator.IsPlain Table.HasPlainNames := by
  -- A step changes one class or none.
  have hupdate : ∀ {r : Registry} (id : Nat) {f : SearchClass → SearchClass},
      (∀ i, (r.find i).Written Operator.IsPlain Table.HasPlainNames) →
      (f (r.find id)).Written Operator.IsPlain Table.HasPlainNames →
      ∀ i, ((r.update id f).find i).Written Operator.IsPlain Table.HasPlainNames := by
    intro r id f hr hf i
    by_cases hi : i = id
    · subst hi
      rcases Registry.find_update r i f i with hfind | hfind <;> rw [hfind]
      exacts [hr i, hf]
    · rw [Registry.find_update_ne r hi]
      exact hr i
  induction h with
  | initial =>
    intro i
    cases i <;> exact .empty
  | @made r L parent name methods _ hmethods ih =>
    intro i
    by_cases hi : i = r.classes.length
    · subst hi
      rw [Registry.find_append_self]
      exact (ih parent).made parent name hmethods
    · rw [Registry.find_append_ne r _ hi]
      exact ih i
  | @bound r L id t config _ ht ih =>
    refine hupdate id ih ⟨(ih id).members, (ih id).declares, fun b hb => ?_⟩
    cases hb
    exact ⟨t, config, rfl, ht⟩
  | @declared r r' L id t config b _ hbridge hb hdeclare ih =>
    obtain ⟨b', op, hop, hname, hblock, hstrict, rfl⟩ := Registry.declare_eq_ok hbridge hb hdeclare
    obtain ⟨t', config', heq, ht⟩ := (ih id).bridge _ hbridge
    cases heq
    exact hupdate id ih ((ih id).withAttribute hstrict ⟨op, hop.isPlain ht, by rw [hblock, hname]⟩)
  | @restored r L id schema _ hschema ih =>
    refine hupdate id ih ⟨fun e he => ?_, hschema.declares, hschema.bridge⟩
    exact (ih id).members e (List.mem_filter.mp he).1
  | @callbacks r L id callbacks _ ih =>
    exact hupdate id ih ⟨(ih id).members, (ih id).declares, (ih id).bridge⟩

/-- What is declared as the ledger says is declared by operators. -/
theorem byOperators (h : Declared r L) : r.ByOperators := fun i =>
  SearchClass.byOperators_iff.mpr (h.written i)

end Declared

/-- The block that the class holds for an attribute is that of the operator which the entry names. -/
def Ledger.Holds (entries : String → Option Declaration) (c : SearchClass) : Prop :=
  ∀ name owner block, c.members.lookup (contributionName name) = some (.contribution owner block) →
    ∃ d op, entries name = some d ∧ d.table.HasPlainNames ∧
      Operator.Named d.table d.config d.options op ∧ block = op.block name

namespace Declared

variable {r r' : Registry} {L : Ledger} {id : Nat}

/-- **What the ledger tells.** The block that a class holds for an attribute is that of the operator
which the last declaration of the attribute names. -/
theorem holds (h : Declared r L) : ∀ i, Ledger.Holds (L i) (r.find i) := by
  have hupdate : ∀ {r : Registry} {L L' : Ledger} (id : Nat) {f : SearchClass → SearchClass},
      (∀ i, Ledger.Holds (L i) (r.find i)) → (∀ i, i ≠ id → L' i = L i) →
      Ledger.Holds (L' id) ((r.update id f).find id) →
      ∀ i, Ledger.Holds (L' i) ((r.update id f).find i) := by
    intro r L L' id f hr hL hf i
    by_cases hi : i = id
    · subst hi
      exact hf
    · rw [Registry.find_update_ne r hi, hL i hi]
      exact hr i
  induction h with
  | initial =>
    intro i name owner block hlookup
    cases i <;> cases hlookup
  | @made r L parent name methods _ _ ih =>
    intro i
    by_cases hi : i = r.classes.length
    · subst hi
      rw [Registry.find_append_self]
      intro name owner block hlookup
      -- A class body gives methods only.
      obtain ⟨e, -, he⟩ := List.mem_map.mp (mem_of_lookup hlookup)
      cases congrArg Prod.snd he
    · rw [Registry.find_append_ne r _ hi, L.blank_ne hi]
      exact ih i
  | @bound r L id t config _ _ ih =>
    refine hupdate id ih (fun _ _ => rfl) ?_
    rcases Registry.find_update r id (·.bound (.table t) (.relational t config)) id with hfind | hfind <;>
      rw [hfind]
    exacts [ih id, ih id]
  | @declared r r' L id t config b h hbridge hb hdeclare ih =>
    obtain ⟨t', config', heq, ht⟩ := (h.written id).bridge _ hbridge
    cases heq
    obtain ⟨b', op, hop, hname, hblock, -, rfl⟩ := Registry.declare_eq_ok hbridge hb hdeclare
    refine hupdate id ih (fun i hi => funext fun name => L.note_ne _ (Or.inl hi)) ?_
    have hid : id < r.classes.length := by
      by_contra hid
      rw [Registry.find, List.getElem?_eq_none (not_lt.mp hid)] at hbridge
      cases hbridge
    rw [Registry.find_update_self hid]
    intro name owner block hlookup
    rw [SearchClass.lookup_withAttribute, ChainEvent.member?, hblock, hname] at hlookup
    -- What is looked up is the new attribute, its contribution, or what was there before.
    split at hlookup
    next => cases hlookup
    next =>
      split at hlookup
      next hkey =>
        obtain rfl := contributionName_injective hkey
        cases hlookup
        exact ⟨_, op, L.note_self _ _ _, ht, hop, rfl⟩
      next hkey =>
        have hne : name ≠ b.name := fun h => hkey (by rw [h])
        rw [L.note_ne _ (Or.inr hne)]
        exact ih id name owner block hlookup
  | @restored r L id schema _ _ ih =>
    refine hupdate id ih (fun _ _ => rfl) ?_
    rcases Registry.find_update r id (·.restored schema) id with hfind | hfind <;> rw [hfind]
    · exact ih id
    · intro name owner block hlookup
      have hkept := (List.mem_filter.mp (mem_of_lookup hlookup)).2
      refine ih id name owner block (Eq.trans ?_ hlookup)
      exact (lookup_filter _ fun _ => hkept).symm
  | @callbacks r L id callbacks _ ih =>
    refine hupdate id ih (fun _ _ => rfl) ?_
    rcases Registry.find_update r id (·.withCallbacks callbacks) id with hfind | hfind <;> rw [hfind]
    exacts [ih id, ih id]

/-- **What a search sees of the ledger.** The block that an attribute is asked with is that of the
operator which its declaration names. -/
theorem exists_named (h : Declared r L) {name owner : String} {block : Hook}
    (hmember : (r.view id).member? (contributionName name) = some (.contribution owner block)) :
    ∃ d op, L.of r id name = some d ∧ d.table.HasPlainNames ∧
      Operator.Named d.table d.config d.options op ∧ block = op.block name := by
  obtain ⟨i, hi, hlookup⟩ := exists_find?_of_findSome? hmember
  obtain ⟨d, op, hd, hplain, hop, hblock⟩ := h.holds i name owner block hlookup
  refine ⟨d, op, ?_, hplain, hop, hblock⟩
  rw [Ledger.of, hi]
  exact hd

/-! ## Operations are steps -/

/-- A row of declarations, as far as it comes. -/
theorem withRewritten {t : Table} {config : Config} {bs : List Builder} (h : Declared r L)
    (hbridge : (r.find id).schema.bridge = some (.relational t config))
    (hbs : ∀ b ∈ bs, b.options.NameOperator) (hstrict : ∀ b ∈ (r.find id).rewrittenAll bs, b.IsStrict) :
    ∃ L', Declared (r.update id (·.withAttributes ((r.find id).rewrittenAll bs))) L' := by
  induction bs generalizing r L with
  | nil => exact ⟨L, by rwa [SearchClass.rewrittenAll, List.filterMap_nil, Registry.update_withAttributes_nil]⟩
  | cons b bs ih =>
    rw [List.forall_mem_cons] at hbs
    cases hrewritten : Registry.rewritten (r.find id) b with
    | error e =>
      have hskip : (r.find id).rewrittenAll (b :: bs) = (r.find id).rewrittenAll bs := by
        rw [SearchClass.rewrittenAll, List.filterMap_cons, hrewritten]
        rfl
      rw [hskip] at hstrict ⊢
      exact ih h hbridge hbs.2 hstrict
    -- The bridge stays as it is, so what follows is rewritten as before.
    | ok b' =>
      have hcons : (r.find id).rewrittenAll (b :: bs) = b' :: (r.find id).rewrittenAll bs := by
        rw [SearchClass.rewrittenAll, List.filterMap_cons, hrewritten]
        rfl
      rw [hcons, List.forall_mem_cons] at hstrict
      have hdeclared := h.declared hbridge hbs.1 (Registry.declare_of_strict hrewritten hstrict.1)
      have hsame := Registry.find_update_withAttribute_bridge r id b'
      have hall := SearchClass.rewrittenAll_congr hsame bs
      obtain ⟨L', hL'⟩ := ih hdeclared (hsame.trans hbridge) hbs.2 (hall ▸ hstrict.2)
      refine ⟨L', ?_⟩
      rw [hall, Registry.update_update] at hL'
      rw [hcons]
      exact hL'

/-- What an operation makes of a class comes about by such steps. -/
theorem changes {op : ClassOperation} {c : SearchClass} (h : Declared r L)
    (hid : id < r.classes.length) (hop : op.Writes Operator.IsPlain Table.HasPlainNames)
    (hadd : ∀ i b, op ≠ .addAttribute i b) (hc : ClassOperation.Changes (r.find id) op c) :
    ∃ L', Declared (r.update id fun _ => c) L' := by
  -- A binding, with the attributes of the table as far as they come.
  have hbinding : ∀ {current : Config} {m : Model} {bridge : Bridge} {options : Options}
      {front : List Builder}, m.WrittenOn Table.HasPlainNames → bridgeFor current m = .ok bridge →
      (∀ b ∈ front, ∃ bs, bridge.automatic options = .ok bs ∧ b ∈ bs) →
      (∀ b ∈ ((r.find id).bound m bridge).rewrittenAll front, b.IsStrict) →
      ∃ L', Declared (r.update id fun _ => ((r.find id).bound m bridge).withAttributes
        (((r.find id).bound m bridge).rewrittenAll front)) L' := by
    intro current m bridge options front hm hbridge hfront hstrict
    have hwritten := (h.written id).bound hm hbridge
    cases m with
    | table t =>
      cases hbridge
      have hbound := h.bound id ((if t.searchable then t.config else none).getD current) hm
      have hfind := Registry.find_update_self hid
        (·.bound (.table t) (.relational t ((if t.searchable then t.config else none).getD current)))
      have hnames : ∀ b ∈ front, b.options.NameOperator := fun b hb => by
        obtain ⟨bs, hautomatic, hb⟩ := hfront b hb
        exact hwritten.nameOperator_of_automatic rfl hautomatic b hb
      obtain ⟨L', hL'⟩ := hbound.withRewritten (congrArg (·.schema.bridge) hfind) hnames
        (by rwa [hfind])
      refine ⟨L', ?_⟩
      rw [hfind, Registry.update_update, Registry.update_eq] at hL'
      exact hL'
    | custom name contract => exact hm.elim
    | bare name => cases hbridge
    | value v => cases hbridge
  cases hc with
  | @declared op front hfront hstrict =>
    have hnames : ∀ b ∈ front, b.options.NameOperator := fun b hb =>
      hop.nameOperator b (hfront.subset hb)
    cases hbridge : (r.find id).schema.bridge with
    | none =>
      -- Without a bridge nothing consumes the operator, so nothing is declared.
      obtain rfl : front = [] := by
        refine List.eq_nil_iff_forall_not_mem.mpr fun b hb => (hnames b hb).not_isStrict ?_
        refine hstrict b (SearchClass.mem_rewrittenAll.mpr ⟨b, hb, ?_⟩)
        rw [Registry.rewritten, hbridge]
      refine ⟨L, ?_⟩
      rw [SearchClass.rewrittenAll, List.filterMap_nil]
      exact (Registry.update_find r id).symm ▸ h
    | some bridge =>
      obtain ⟨t, config, rfl, -⟩ := (h.written id).bridge bridge hbridge
      obtain ⟨L', hL'⟩ := h.withRewritten hbridge hnames hstrict
      exact ⟨L', by rwa [Registry.update_eq] at hL'⟩
  | added => exact absurd rfl (hadd _ _)
  | @callbacks i callbacks =>
    refine ⟨L, ?_⟩
    rw [← Registry.update_eq r id (·.withCallbacks callbacks)]
    exact h.callbacks id callbacks
  | bound _ hbridge hautomatic hstrict =>
    exact hbinding hop hbridge (fun b hb => ⟨_, hautomatic, hb⟩) hstrict
  | restored _ hbridge hfront hstrict =>
    obtain ⟨L', hL'⟩ := hbinding hop hbridge hfront hstrict
    refine ⟨L', ?_⟩
    have hrestored := hL'.restored id (h.byOperators id).schema
    rwa [Registry.update_update] at hrestored

/-- **Operations are steps.** Whatever an operation that names operators leaves in the classes, it fails
or not, there is a ledger for. -/
theorem after_run {op : ClassOperation} (h : Declared r L) (hop : op.NamesOperators) :
    ∃ L', Declared (after op.run r) L' := by
  obtain ⟨hop, hadd⟩ := hop
  have hsteps := op.steps r
  generalize after op.run r = r' at hsteps
  cases hsteps with
  | @changed c hc =>
    rcases lt_or_ge (op.target r) r.classes.length with hid | hid
    · exact h.changes hid hop hadd hc
    · exact ⟨L, by rwa [Registry.update_of_le hid]⟩
  | made hc =>
    cases hc with
    | unbound => exact ⟨_, h.made _ _ hop.1⟩
    | @bound current name parent methods m options m' c hm hc =>
      have hmade := h.made parent name hop.1
      have hlast : r.classes.length <
          (r.append ((r.find parent).made parent name methods)).classes.length := by
        simp [Registry.append]
      rw [← Registry.find_append_self r ((r.find parent).made parent name methods)] at hc
      have hbind : (ClassOperation.setModel current r.classes.length m'
          (options.erase "model")).Writes Operator.IsPlain Table.HasPlainNames :=
        Model.writtenOn_modelFor hop.2 hm
      obtain ⟨L', hL'⟩ := hmade.changes hlast hbind (fun i b h => by cases h) hc
      exact ⟨L', by rwa [Registry.update_append] at hL'⟩

/-- **Runs have ledgers**, if all their operations name operators. -/
theorem exists_of_runs {ops : List ClassOperation} (hrun : Registry.Runs {} ops r)
    (hops : ∀ op ∈ ops, op.NamesOperators) : ∃ L, Declared r L := by
  induction hrun with
  | nil => exact ⟨_, .initial⟩
  | snoc _ _ ih =>
    rw [List.forall_mem_append, List.forall_mem_singleton] at hops
    obtain ⟨L, hL⟩ := ih hops.1
    exact hL.after_run hops.2

/-- Attributes that are declared in a row are noted one after the other. -/
theorem declareAll {t : Table} {config : Config} {bs : List Builder} (h : Declared r L)
    (hbridge : (r.find id).schema.bridge = some (.relational t config))
    (hbs : ∀ b ∈ bs, b.options.NameOperator) (hrun : Registry.declareAll id bs r = .ok () r') :
    Declared r' (bs.foldl (fun L b => L.note id b.name ⟨t, config, b.options⟩) L) := by
  induction bs generalizing r L with
  | nil =>
    cases hrun
    exact h
  | cons b bs ih =>
    rw [List.forall_mem_cons] at hbs
    obtain ⟨_, r₁, hdeclare, hrest⟩ := estate_bind_eq_ok.mp hrun
    refine ih (h.declared hbridge hbs.1 hdeclare) ?_ hbs.2 hrest
    obtain ⟨b', -, -, -, -, -, rfl⟩ := Registry.declare_eq_ok hbridge hbs.1 hdeclare
    exact (Registry.find_update_withAttribute_bridge r id b').trans hbridge

end Declared

end SearchQuery
