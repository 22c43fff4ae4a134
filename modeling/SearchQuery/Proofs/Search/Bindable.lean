import SearchQuery.Proofs.Placeholder.Spaced
import SearchQuery.Proofs.Search.Selection

/-!
# Statements of searches can be bound

The statement of a search is made of the names of a table, as they are written in SQL, and of what the
operators write around them. Placeholders are found by their single quotes only, and a name that needs
quotes is written in double ones, so a name may hold what is taken for a placeholder or for the start of
a literal. Where no name does (`Table.IsInert`), every statement of every search can be bound, and binds
the parameters of the conditions (`Search.findOptions_bindable`).

## Shape of the argument

Each operator writes its placeholders with room around them (`Operator.spaced_conditionFor`), and what
puts conditions together keeps that (`Statement.selecting_spaced`). Which conditions are put together is
told by the classes: all that contributes to a search is an operator on columns of a table.
-/

namespace SearchQuery

open Statement

/-! ## Names as they are written -/

/-- What is written for the names of the table holds no placeholder and leaves no quote open. -/
structure Table.IsInert (t : Table) : Prop where
  head : Inert (t.sqlTable ++ ".* FROM " ++ t.sqlTable)
  columns : ∀ c ∈ t.columns, Inert (t.sqlColumn c)

/-- The name of a column is written with its characters and quotes. -/
theorem mem_toList_sqlName {name : String} {c : Char} (hc : c ∈ (sqlName name).toList) :
    c = '"' ∨ c ∈ name.toList := by
  rw [sqlName] at hc
  split at hc
  · exact Or.inr hc
  simp only [String.toList_ofList, List.mem_append, List.mem_cons, List.mem_flatMap, List.not_mem_nil,
    or_false] at hc
  rcases hc with (hc | ⟨d, hd, hc⟩) | hc
  · exact Or.inl hc
  · -- A double quote is doubled, and all else stays.
    split at hc
    all_goals
      simp only [List.mem_cons, List.not_mem_nil, or_false, or_self] at hc
      exact Or.inr (hc ▸ hd)
  · exact Or.inl hc

/-- A neutral name stays neutral when it is written. -/
theorem neutral_sqlName {name : String} (h : Neutral name) : Neutral (sqlName name) := by
  refine ⟨fun hc => ?_, fun hc => ?_⟩
  · exact (mem_toList_sqlName hc).elim (by decide) h.1
  · exact (mem_toList_sqlName hc).elim (by decide) h.2

/-- Names without single quotes and question marks do no harm, whatever else they hold. -/
theorem Table.isInert_of_neutral {t : Table} (htable : Neutral t.table)
    (hschema : ∀ s ∈ t.schema, Neutral s) (hcolumns : ∀ c ∈ t.columns, Neutral c.name) : t.IsInert := by
  have hname : Neutral t.sqlTable := by
    rw [sqlTable]
    cases hs : t.schema with
    | none => exact neutral_sqlName htable
    | some s =>
      dsimp only [Option.getD_some]
      split
      · exact neutral_sqlName htable
      · exact ((neutral_sqlName (hschema s hs)).append (by decide)).append (neutral_sqlName htable)
  refine ⟨((hname.append (by decide)).append hname).inert, fun c hc => ?_⟩
  exact ((hname.append (by decide)).append (neutral_sqlName (hcolumns c hc))).inert

/-- What is written for the columns of the operator holds no placeholder and leaves no quote open. -/
def Operator.IsInert : Operator → Prop
  | single _ column => Inert column
  | fullText _ _ columns => ∀ column ∈ columns, Inert column

/-- The operators of an inert table are inert. -/
theorem Operator.Named.isInert {t : Table} (ht : t.IsInert) {config : Config} {o : Options}
    {op : Operator} (h : Named t config o op) : op.IsInert := by
  cases h with
  | single _ _ _ _ hc => exact ht.columns _ (Bridge.column_mem hc)
  | fullText _ _ hcolumns _ =>
    intro column hcolumn
    obtain ⟨c, hc, rfl⟩ := (Bridge.namedColumns_eq_ok hcolumns).2 column hcolumn
    exact ht.columns c hc

/-! ## Conditions of operators -/

namespace Statement

variable {column rest : String} {n : ℕ}

/-- A column with an operator behind it. -/
theorem Inert.spaced_append (h : Inert column) (hrest : Spaced rest.toList n)
    (hhead : rest.toList.head? = some ' ') : Spaced (column ++ rest).toList n := by
  have hboth := h.spaced.append_of_head hrest hhead (by decide)
  rwa [Nat.zero_add, ← String.toList_append] at hboth

/-- A column with operators on both of its sides. -/
theorem Inert.spaced_between (h : Inert column) {front : String} {m : ℕ}
    (hfront : Spaced front.toList m) (hlast : front.toList.getLast? = some ' ')
    (hrest : Spaced rest.toList n) (hhead : rest.toList.head? = some ' ') :
    Spaced (front ++ column ++ rest).toList (m + n) := by
  rw [String.append_assoc, String.toList_append]
  exact hfront.append_of_last (h.spaced_append hrest hhead) hlast (by decide)

end Statement

namespace Column

variable {column : String}

/-- A test with one placeholder has room for it. -/
theorem spaced_test (h : Inert column) {rest : String} (hrest : Spaced rest.toList 1)
    (hhead : rest.toList.head? = some ' ') (v : Value) : (test (column ++ rest) v).Spaced :=
  h.spaced_append hrest hhead

/-- A test without one has nothing to bind. -/
theorem spaced_fixed (h : Inert column) {rest : String} (hrest : Spaced rest.toList 0)
    (hhead : rest.toList.head? = some ' ') : (Fragment.ofSql (column ++ rest) : Fragment Value).Spaced :=
  h.spaced_append hrest hhead

/-- A list has room for one placeholder for each of its members. -/
theorem spaced_members (h : Inert column) {items : List Value} (hne : items ≠ []) :
    ({ sql := column ++ " IN (" ++ ", ".intercalate (items.map fun _ => "?") ++ ")"
       params := items } : Fragment Value).Spaced := by
  have hopen : Spaced (column ++ " IN (").toList 0 := h.spaced_append (by decide) rfl
  have hmarks := hopen.append_marks (c := '(') (by simp) (by decide) hne
  have hclosed := hmarks.append_of_head (by decide : Spaced ")".toList 0) (c := ')') rfl (by decide)
  rw [Nat.zero_add, Nat.add_zero, ← String.toList_append, ← String.toList_append] at hclosed
  exact hclosed

theorem spaced_equality (h : Inert column) (v : Value) : (equality column v).Spaced := by
  rw [equality.eq_def]
  split
  · exact spaced_fixed h (by decide) rfl
  split
  next => exact spaced_fixed h (by decide) rfl
  next hempty _ => exact spaced_members h hempty
  next => exact spaced_test h (by decide) rfl v

theorem spaced_inequality (h : Inert column) (v : Value) : (inequality column v).Spaced := by
  rw [inequality.eq_def]
  split
  · exact spaced_fixed h (by decide) rfl
  · have hfront : Spaced (column ++ " <> ? OR ").toList 1 := h.spaced_append (by decide) rfl
    have hlast : (column ++ " <> ? OR ").toList.getLast? = some ' ' := by simp
    have hall := h.spaced_between hfront hlast (by decide : Spaced " IS NULL".toList 0) rfl
    exact hall

/-- Every condition on a column leaves room for its placeholders. -/
theorem spaced_condition? {op : ColumnOperator} (h : Inert column) {v : Value} {f : Fragment Value}
    (hf : op.condition? column v = some f) : f.Spaced := by
  cases op with
  | equal =>
    cases hf
    exact spaced_equality h v
  | notEqual =>
    cases hf
    exact spaced_inequality h v
  | compare c =>
    rw [ColumnOperator.condition?, compared.eq_def] at hf
    split at hf
    · cases hf
    · cases hf
      rw [String.append_assoc, String.append_assoc]
      cases c <;> exact spaced_test h (by decide) rfl v
  | hold p =>
    rw [ColumnOperator.condition?, holding] at hf
    split at hf
    · cases hf
    · cases hf
      exact spaced_test h (by decide) rfl _

end Column

namespace Criterion

variable {fields : List String}

theorem spaced_like : Spaced " LIKE ?".toList 1 := by decide

/-- A test for a keyword leaves room for its placeholder. -/
theorem spaced_appears {field : String} (h : Inert field) (keyword : String) :
    (appears keyword field).Spaced :=
  h.spaced_append spaced_like rfl

theorem spaced_appearsForSure {field : String} (h : Inert field) (keyword : String) :
    (appearsForSure keyword field).Spaced := by
  have hfront : Spaced (field ++ " IS NOT NULL AND ").toList 0 :=
    h.spaced_append (by decide) rfl
  have hlast : (field ++ " IS NOT NULL AND ").toList.getLast? = some ' ' := by simp
  have hall := h.spaced_between hfront hlast spaced_like rfl
  exact hall

/-- So does the condition of a criterion. -/
theorem spaced_condition (c : Criterion) (h : ∀ field ∈ fields, Inert field) :
    (c.condition fields).Spaced := by
  have hpart : ∀ (op : Connective) (words : List String) (atom : String → String → Fragment Value),
      (∀ word field, Inert field → (atom word field).Spaced) →
      (Fragment.combineAll op words fun word => anyField fields (atom word)).Spaced :=
    fun op words atom hatom => .combineAll op fun word _ =>
      .combineAll .or fun field hfield => hatom word field (h field hfield)
  have hpositive := fun word field (hfield : Inert field) => spaced_appears hfield word
  have hnegative := fun word field (hfield : Inert field) => spaced_appearsForSure hfield word
  exact ((hpart .and _ appears hpositive).combine (hpart .and _ appearsForSure hnegative).negate .and).combine
    (hpart .or _ appears hpositive) .and

end Criterion

/-- **Operators leave room.** A condition of an operator has a parameter for each of its placeholders,
and what stands around these keeps their names apart. -/
theorem Operator.spaced_conditionFor {op : Operator} (hop : op.IsInert) {v : Value} {f : Fragment Value}
    (h : op.conditionFor v = .ok (some f)) : f.Spaced := by
  cases op with
  | single op column => exact Column.spaced_condition? hop (conditionFor_single h).symm
  | fullText pairing exclude columns =>
    rcases conditionFor_fullText h with ⟨-, hnone⟩ | ⟨-, patterns, -, hf⟩
    · cases hnone
    · cases hf
      exact Criterion.spaced_condition _ hop

/-! ## Statements of conditions -/

namespace Statement

/-- What stands in front of the conditions: all columns of the table. -/
def front (table : String) : Fragment Value :=
  .ofSql ("SELECT " ++ (table ++ ".*") ++ " FROM " ++ table)

/-- The statement that selects the rows of a table for which all conditions hold. -/
def selecting (table : String) (conditions : List (Fragment Value)) : Fragment Value :=
  .join " " false [front table, .empty,
    withKeyword "WHERE" ((FindOptions.joinSome " AND " true conditions).getD .empty), .empty, .empty]

/-- The conditions of a merged option-map are those that were joined. -/
theorem ofOptions_conditions (t : Table) (conditions : List (Fragment Value)) :
    ofOptions t ({ conditions := FindOptions.joinSome " AND " true conditions } : FindOptions).toValue =
      .ok (selecting t.sqlTable conditions) := by
  obtain ⟨hconditions, hjoins, hgroup, horder, hselect⟩ :=
    FindOptions.clause_toValue { conditions := FindOptions.joinSome " AND " true conditions }
  exact bind_eq_ok_iff.mpr ⟨_, hselect, bind_eq_ok_iff.mpr ⟨_, hjoins, bind_eq_ok_iff.mpr
    ⟨_, hconditions, bind_eq_ok_iff.mpr ⟨_, hgroup, bind_eq_ok_iff.mpr ⟨_, horder, rfl⟩⟩⟩⟩⟩

/-- What a statement starts with has nothing to bind. -/
theorem front_spaced {table : String} (h : Inert (table ++ ".* FROM " ++ table)) :
    (front table).Spaced := by
  have hfront : Spaced ("SELECT ".toList ++ (table ++ ".* FROM " ++ table).toList) (0 + 0) :=
    Spaced.append_of_last (by decide) h.spaced (c := ' ') (by simp) (by decide)
  have hsql : (front table).sql.toList = "SELECT ".toList ++ (table ++ ".* FROM " ++ table).toList := by
    simp [front, Fragment.ofSql]
  rw [Fragment.Spaced, hsql]
  exact hfront

/-- A statement leaves room for its placeholders if all its conditions do. -/
theorem selecting_spaced {t : Table} (ht : t.IsInert) {conditions : List (Fragment Value)}
    (h : ∀ f ∈ conditions, f.Spaced) : (selecting t.sqlTable conditions).Spaced := by
  have hjoined : ((FindOptions.joinSome " AND " true conditions).getD .empty).Spaced := by
    rw [FindOptions.joinSome]
    split
    · exact .empty
    · exact .join (by decide) true h
  have hwhere : (withKeyword "WHERE"
      ((FindOptions.joinSome " AND " true conditions).getD .empty)).Spaced := by
    rw [withKeyword]
    split
    · exact .empty
    · have hkeyword := Spaced.append_of_last (by decide : Spaced "WHERE ".toList 0) hjoined (c := ' ')
        (by simp) (by decide)
      rw [Nat.zero_add, ← String.toList_append] at hkeyword
      exact hkeyword
  refine .join (by decide) false ?_
  simp only [List.forall_mem_cons, List.not_mem_nil, false_implies, implies_true, and_true]
  exact ⟨front_spaced ht.head, .empty, hwhere, .empty, .empty⟩

/-- A statement is put together from its front and its conditions. -/
theorem selecting_assembles (table : String) {conditions : List (Fragment Value)}
    (hfull : ∀ f ∈ conditions, f.isEmpty = false) :
    (selecting table conditions).Assembles (front table :: conditions) := by
  have hfront : (front table).isEmpty = false := by
    simp [front, Fragment.ofSql, Fragment.isEmpty]
  have hconditions := FindOptions.joinSome_assembles (by decide : Neutral " AND ") true hfull
  have hwhere := FindOptions.withKeyword_assembles (by decide : Neutral "WHERE") hconditions hfull
  have hsources : front table :: conditions = [[front table], [], conditions, [], []].flatten := by simp
  rw [hsources]
  refine .join (by decide) false
    (.cons (.copy _) (.cons .empty (.cons hwhere (.cons .empty (.cons .empty .nil))))) ?_
  simpa using ⟨hfront, hfull⟩

end Statement

/-! ## Searches -/

/-- What the classes of a run hold, where all operations declare by operators on such tables. -/
theorem Registry.Runs.written {Op : Operator → Prop} {Tab : Table → Prop}
    (hnamed : ∀ {t config o op}, Tab t → Operator.Named t config o op → Op op) {r : Registry}
    {ops : List ClassOperation} (h : Registry.Runs {} ops r) (hops : ∀ op ∈ ops, op.Writes Op Tab) :
    ∀ i, (r.find i).Written Op Tab := by
  induction h with
  | nil =>
    intro i
    cases i <;> exact .empty
  | @snoc ops r op _ _ ih =>
    rw [List.forall_mem_append, List.forall_mem_singleton] at hops
    exact (op.steps r).written hnamed hops.2 (ih hops.1)

namespace Search

/-- **Statements of searches can be bound.** Where what is written for the names of the tables holds no
placeholder and leaves no quote open, the statement of the options of a search can be bound, exactly. It
is made of its front and of the conditions that the attributes contribute, equal ones once, and each of
its placeholders is a copy of one in such a condition and bound to the same parameter. -/
theorem findOptions_bindable {ops : List ClassOperation} {r : Registry}
    (hrun : Registry.Runs {} ops r)
    (hops : ∀ op ∈ ops, op.Writes Operator.IsInert Table.IsInert) {id : Nat} {t : Table}
    {config : Config} (hbridge : (r.view id).schema.bridge = some (.relational t config))
    {s s' : Search} {merged : Value} (hown : s.extras.lookup "find_options" = none)
    (hlist : s.extras.lookup "find_options_list" = none)
    (h : findOptions (r.view id) s = .ok merged s') :
    ∃ s₁ fs conditions b, runBeforeFindOptions (r.view id) s = .ok () s₁ ∧
      List.Forall₂ (ContributesBy Operator.IsInert (r.view id) s₁) (givenNames (r.view id) s₁) fs ∧
      Fragment.distinct (FindOptions.writtenConditions fs) = .ok conditions ∧
      Statement.ofOptions t merged = .ok (selecting t.sqlTable conditions) ∧
      Bound.ofFragment (selecting t.sqlTable conditions) = .ok b ∧
      BindsExactly (selecting t.sqlTable conditions) b ∧
      (selecting t.sqlTable conditions).params = conditions.flatMap (·.params) ∧
      FindOptions.Aligned (selecting t.sqlTable conditions) (front t.sqlTable :: conditions) := by
  have hwritten := hrun.written (fun ht hnamed => hnamed.isInert ht) hops
  have hc := Registry.writtenBy_view hwritten id
  obtain ⟨t', config', heq, ht⟩ := (hwritten id).bridge _ hbridge
  cases heq
  have hcallee : ∀ name ∈ reservedNames, name ≠ "before_find_options" →
      s.extras.lookup name = none → callee? (r.view id) s name = none := by
    intro name hname hhook hnone
    rw [callee?_of_reserved hc hname hhook, hnone]
    rfl
  obtain ⟨s₁, maps, o, hbefore, hmaps, ho, rfl⟩ := (findOptions_of_table_eq_ok_iff
    (hcallee _ (by decide) (by decide) hown) (hcallee _ (by decide) (by decide) hlist) hbridge).mp h
  obtain ⟨-, fs, hfs, rfl⟩ := contributions_eq_ok hc hmaps
  obtain ⟨conditions, hdistinct, rfl⟩ := FindOptions.merge_contribution_eq_ok_iff.mp ho
  -- Each condition that is kept is that of an operator, and it has text.
  have hconditions : ∀ f ∈ conditions, f.isEmpty = false ∧ f.Spaced := by
    intro f hf
    obtain ⟨hmem, hblank⟩ := FindOptions.mem_writtenConditions.mp
      (Value.mem_of_mem_distinctBy (FindOptions.distinct_eq_ok_iff.mp hdistinct) hf)
    obtain ⟨name, -, op, v, hop, -, -, hcondition⟩ := exists_left_of_forall₂ hfs hmem
    exact ⟨Fragment.isEmpty_of_not_isBlank hblank, op.spaced_conditionFor hop hcondition⟩
  have hspaced := selecting_spaced ht fun f hf => (hconditions f hf).2
  obtain ⟨b, hb, hexact⟩ := hspaced.exists_bindsExactly
  have hassembles := selecting_assembles t.sqlTable fun f hf => (hconditions f hf).1
  refine ⟨s₁, fs, conditions, b, hbefore, hfs, hdistinct, ofOptions_conditions t conditions, hb, hexact,
    hassembles.params_eq, FindOptions.aligned_of_assembles hassembles ?_⟩
  rw [List.forall_mem_cons]
  exact ⟨(front_spaced ht.head).wellBound, fun f hf => (hconditions f hf).2.wellBound⟩

/-! ## Names that are taken for placeholders -/

/-- The statement of a search, if it composes options. -/
def statement? (t : Table) (c : ClassView) (s : Search) : Option (Fragment Value) :=
  match findOptions c s with
  | .ok merged _ => (Statement.ofOptions t merged).toOption
  | .error _ _ => none

/-- A statement that is there was composed by a search. -/
theorem exists_of_statement? {α : Type} {t : Table} {c : ClassView} {s : Search}
    {f : Fragment Value → α} {a : α} (h : (statement? t c s).map f = some a) :
    ∃ merged s' st, findOptions c s = .ok merged s' ∧ Statement.ofOptions t merged = .ok st ∧
      f st = a := by
  obtain ⟨st, hst, ha⟩ := Option.map_eq_some_iff.mp h
  rw [statement?] at hst
  split at hst
  next merged s' hmerged =>
    cases hoptions : Statement.ofOptions t merged with
    | error e =>
      rw [hoptions] at hst
      cases hst
    | ok st' =>
      rw [hoptions] at hst
      cases hst
      exact ⟨merged, s', st, hmerged, hoptions, ha⟩
  next => cases hst

/-- A table of things with one column. -/
def thingTable (column : String) : Table where
  model := "Thing"
  table := "things"
  columns := [{ key := "what", name := column, kind := none }]

/-- A class that searches things, with an attribute that asks for other things. -/
def thingOperations (column : String) : List ClassOperation :=
  [.subclass {} "ThingSearch" Registry.root [] (some (.table (thingTable column))) [],
    .accessor 1 [.text "other"]
      [("operator", .value (.text "neq")), ("column", .value (.text "what"))] none]

/-- The class as its searches see it. -/
def thingView (column : String) : ClassView :=
  (Registry.afterAll (thingOperations column) {}).view 1

/-- A name with a colon, a space and double quotes does no harm. -/
theorem findOptions_bindable_colon :
    let t := thingTable "is:\"it\" so"
    let s : Search := { values := [("what", .list [.int 1, .int 2]), ("other", .text "fig")] }
    ∃ merged s' st b, findOptions (thingView "is:\"it\" so") s = .ok merged s' ∧
      Statement.ofOptions t merged = .ok st ∧
      st.sql = "SELECT things.* FROM things WHERE (things.\"is:\"\"it\"\" so\" IN (?, ?)) AND " ++
        "(things.\"is:\"\"it\"\" so\" <> ? OR things.\"is:\"\"it\"\" so\" IS NULL)" ∧
      st.params.map Value.literal = ["1", "2", "'fig'"] ∧
      Bound.ofFragment st = .ok b ∧ BindsExactly st b := by
  intro t s
  have ht : t.IsInert := by
    refine Table.isInert_of_neutral (by decide) (fun s hs => by cases hs) fun c hc => ?_
    rw [List.mem_singleton.mp hc]
    decide
  have hruns : Registry.Runs {}
      ([] ++ [(thingOperations "is:\"it\" so")[0]] ++ [(thingOperations "is:\"it\" so")[1]])
      (Registry.afterAll (thingOperations "is:\"it\" so") {}) :=
    .snoc (.snoc .nil (by decide)) (by decide)
  have hops : ∀ op ∈ thingOperations "is:\"it\" so", op.Writes Operator.IsInert Table.IsInert := by
    intro op hop
    rcases List.mem_pair.mp hop with rfl | rfl
    · refine ⟨fun e he => (by cases he), fun m hm => ?_⟩
      cases hm
      exact ht
    · exact ⟨.value (.text "neq"), rfl, by simp⟩
  obtain ⟨merged, s', st, hmerged, hst, hwritten⟩ := exists_of_statement? (t := t)
    (c := thingView "is:\"it\" so") (s := s) (f := fun st => (st.sql, st.params.map Value.literal))
    (a := ("SELECT things.* FROM things WHERE (things.\"is:\"\"it\"\" so\" IN (?, ?)) AND " ++
        "(things.\"is:\"\"it\"\" so\" <> ? OR things.\"is:\"\"it\"\" so\" IS NULL)",
      ["1", "2", "'fig'"])) (by decide +kernel)
  obtain ⟨_, _, conditions, b, -, -, -, hoptions, hb, hexact, -⟩ :=
    findOptions_bindable hruns hops rfl rfl rfl hmerged
  rw [hst] at hoptions
  cases hoptions
  obtain ⟨hsql, hparams⟩ := Prod.mk.inj hwritten
  exact ⟨merged, s', _, b, hmerged, hst, hsql, hparams, hb, hexact⟩

/-- A question mark in a name is taken for a placeholder, and a single quote for the start of a literal. -/
theorem findOptions_unbindable :
    let s : Search := { values := [("what", .int 1), ("other", .ignored)] }
    (∃ merged s' st, findOptions (thingView "what?") s = .ok merged s' ∧
      Statement.ofOptions (thingTable "what?") merged = .ok st ∧
      Bound.ofFragment st = .error (.unbalancedFragment
        "SELECT things.* FROM things WHERE (things.\"what?\" = ?)" (.int 2) (.int 1))) ∧
    ∃ merged s' st, findOptions (thingView "what's") s = .ok merged s' ∧
      Statement.ofOptions (thingTable "what's") merged = .ok st ∧
      Bound.ofFragment st = .error (.unbalancedFragment
        "SELECT things.* FROM things WHERE (things.\"what's\" = ?)" (.int 0) (.int 1)) := by
  intro s
  have hfails : ∀ column sql found, (placeholders sql.toList).length = found → found ≠ 1 →
      (statement? (thingTable column) (thingView column) s).map (fun st => (st.sql, st.params.length)) =
        some (sql, 1) →
      ∃ merged s' st, findOptions (thingView column) s = .ok merged s' ∧
        Statement.ofOptions (thingTable column) merged = .ok st ∧
        Bound.ofFragment st = .error (.unbalancedFragment sql (.int found) (.int 1)) := by
    intro column sql found hfound hone hwritten
    obtain ⟨merged, s', st, hmerged, hst, hboth⟩ := exists_of_statement? hwritten
    obtain ⟨rfl, hparams⟩ := Prod.mk.inj hboth
    refine ⟨merged, s', st, hmerged, hst, ?_⟩
    rw [ofFragment_eq, hfound, hparams, if_pos hone]
    rfl
  exact ⟨hfails _ _ 2 (by decide +kernel) (by decide) (by decide +kernel),
    hfails _ _ 0 (by decide +kernel) (by decide) (by decide +kernel)⟩

end Search

end SearchQuery
