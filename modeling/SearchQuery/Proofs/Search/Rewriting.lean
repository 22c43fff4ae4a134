import Mathlib.Data.List.Basic
import SearchQuery.Proofs.Merge.Clauses
import SearchQuery.Proofs.Search.Operators
import SearchQuery.Search.Declaration

/-!
# Rewriting declarations

A declaration that names an operator is rewritten by the bridge of a table: the options of the operator
are consumed, and its block is installed. Where the names of the table and its columns are plain, what
comes out is the block of an operator on plain columns.

## Shape of a failure

A computation that fails keeps what it has done before, or takes it back. `after` is the state that a
computation leaves in either case, so one fact about it covers both.
-/

namespace SearchQuery

/-! ## Computations that keep their state -/

section Effects

variable {ε σ β γ : Type}

/-- The state that a computation leaves, whether it fails or not. -/
def after (act : EStateM ε σ β) (s : σ) : σ :=
  match act s with
  | .ok _ s' => s'
  | .error _ s' => s'

/-- What a computation answers, whatever state it leaves. -/
def answer (act : EStateM ε σ β) (s : σ) : Except ε β :=
  match act s with
  | .ok b _ => .ok b
  | .error e _ => .error e

/-- A result behind another one comes from both. -/
theorem estate_bind_eq_ok {x : EStateM ε σ β} {f : β → EStateM ε σ γ} {s s' : σ} {c : γ} :
    (x >>= f) s = .ok c s' ↔ ∃ b s₁, x s = .ok b s₁ ∧ f b s₁ = .ok c s' := by
  change EStateM.bind x f s = _ ↔ _
  rw [EStateM.bind]
  cases hx : x s with
  | ok b s₁ => simp
  | error e s₁ => simp

/-- A failure comes from the first computation or from the second one. -/
theorem estate_bind_eq_error {x : EStateM ε σ β} {f : β → EStateM ε σ γ} {s s' : σ} {e : ε} :
    (x >>= f) s = .error e s' ↔
      x s = .error e s' ∨ ∃ b s₁, x s = .ok b s₁ ∧ f b s₁ = .error e s' := by
  change EStateM.bind x f s = _ ↔ _
  rw [EStateM.bind]
  cases hx : x s with
  | ok b s₁ => simp
  | error e s₁ => simp

theorem estate_tryCatch_eq (x : EStateM ε σ β) (f : ε → EStateM ε σ β) (s : σ) :
    (tryCatch x f) s =
      match x s with
      | .ok b s' => .ok b s'
      | .error e s' => f e s' := by
  change EStateM.tryCatch x f s = _
  rw [EStateM.tryCatch]
  cases x s <;> rfl

/-- A failure behind a guard is the guard's. -/
theorem estate_tryCatch_eq_error {x : EStateM ε σ β} {f : ε → EStateM ε σ β} {s s' : σ} {e : ε} :
    (tryCatch x f) s = .error e s' ↔
      ∃ e₁ s₁, x s = .error e₁ s₁ ∧ f e₁ s₁ = .error e s' := by
  change EStateM.tryCatch x f s = _ ↔ _
  rw [EStateM.tryCatch]
  cases hx : x s with
  | ok b s₁ => simp
  | error e₁ s₁ =>
    constructor
    · intro h
      exact ⟨e₁, s₁, rfl, h⟩
    · rintro ⟨_, _, h₁, h⟩
      cases h₁
      exact h

theorem estate_bind_eq (x : EStateM ε σ β) (f : β → EStateM ε σ γ) (s : σ) :
    (x >>= f) s =
      match x s with
      | .ok b s₁ => f b s₁
      | .error e s₁ => .error e s₁ := by
  change EStateM.bind x f s = _
  rw [EStateM.bind]
  cases x s <;> rfl

theorem estate_set_bind (s' : σ) (f : PUnit → EStateM ε σ γ) (s : σ) :
    (set s' >>= f) s = f ⟨⟩ s' :=
  rfl

theorem estate_get_bind (f : σ → EStateM ε σ γ) (s : σ) : (get >>= f) s = f s s :=
  rfl

/-- What is computed from an answer alone is answered without the state. -/
theorem answer_bind {x : EStateM ε σ β} {f : β → EStateM ε σ γ} {g : β → Except ε γ}
    (hf : ∀ b s, answer (f b) s = g b) (s : σ) : answer (x >>= f) s = answer x s >>= g := by
  rw [answer, answer, estate_bind_eq]
  cases x s with
  | ok b s₁ => exact hf b s₁
  | error e s₁ => rfl

theorem ite_bind_eq {p : Prop} [Decidable p] (x y : EStateM ε σ β) (f : β → EStateM ε σ γ) :
    (if p then x >>= f else y >>= f) = (if p then x else y) >>= f := by
  split <;> rfl

/-- Whether a computation gives a result. -/
def succeeds (act : EStateM ε σ β) (s : σ) : Bool :=
  match act s with
  | .ok _ _ => true
  | .error _ _ => false

/-- What succeeds leaves what is after it. -/
theorem eq_ok_of_succeeds {act : EStateM ε σ Unit} {s : σ} (h : succeeds act s = true) :
    act s = .ok () (after act s) := by
  rw [succeeds] at h
  rw [after]
  cases hact : act s with
  | ok u s' => rfl
  | error e s' =>
    rw [hact] at h
    cases h

theorem after_eq_error {x : EStateM ε σ β} {s s' : σ} {e : ε} (h : x s = .error e s') :
    after x s = s' := by
  rw [after, h]

/-- What is after two computations is after the second one, if the first one did not fail. -/
theorem after_bind (x : EStateM ε σ β) (f : β → EStateM ε σ γ) (s : σ) :
    after (x >>= f) s =
      match x s with
      | .ok b s₁ => after (f b) s₁
      | .error _ s₁ => s₁ := by
  change after (EStateM.bind x f) s = _
  rw [after, EStateM.bind]
  cases x s <;> rfl

/-- A step that keeps an invariant, followed by steps that do. -/
theorem after_bind_keeps {I : σ → Prop} {x : EStateM ε σ β} {f : β → EStateM ε σ γ} {s : σ}
    (hx : I (after x s)) (hf : ∀ b s₁, x s = .ok b s₁ → I s₁ → I (after (f b) s₁)) :
    I (after (x >>= f) s) := by
  rw [after] at hx
  rw [after_bind]
  cases hres : x s with
  | ok b s₁ =>
    rw [hres] at hx
    exact hf b s₁ hres hx
  | error e s₁ =>
    rw [hres] at hx
    exact hx

end Effects

/-! ## Plain names -/

/-- A word that stands in SQL as it is. -/
structure IsPlainWord (name : String) : Prop where
  plain : isPlainName name = true
  no_lineFeed : '\n' ∉ name.toList

/-- The table and its columns have plain names. -/
structure Table.HasPlainNames (t : Table) : Prop where
  table : IsPlainWord t.table
  schema : ∀ name ∈ t.schema, name = "" ∨ IsPlainWord name
  columns : ∀ c ∈ t.columns, IsPlainWord c.name

/-- A plain character is one of a name. -/
theorem isNameChar_of_isPlainNameChar {c : Char} (h : isPlainNameChar c = true) :
    Sql.isNameChar c = true := by
  -- Below 128, word characters are those that ASCII counts as letters and digits.
  have hascii : c.isLower = true ∨ c.isDigit = true → Text.isWordChar c = true := by
    intro h
    have hlt : c.toNat < 128 := by
      rcases h with h | h
      · have hbounds : (decide (c.val ≥ 'a'.val) && decide (c.val ≤ 'z'.val)) = true := h
        rw [Bool.and_eq_true, decide_eq_true_eq, decide_eq_true_eq, UInt32.le_iff_toNat_le] at hbounds
        exact Nat.lt_of_le_of_lt (UInt32.le_iff_toNat_le.mp hbounds.2) (by decide)
      · have hbounds : (decide (c.val ≥ '0'.val) && decide (c.val ≤ '9'.val)) = true := h
        rw [Bool.and_eq_true, decide_eq_true_eq, decide_eq_true_eq] at hbounds
        exact Nat.lt_of_le_of_lt (UInt32.le_iff_toNat_le.mp hbounds.2) (by decide)
    rw [Text.isWordChar, Text.isAlphanumeric, if_pos hlt]
    change (c == '_' || (c.isUpper || c.isLower || c.isDigit)) = true
    rcases h with h | h <;> simp [h]
  simp only [isPlainNameChar, Bool.or_eq_true, beq_iff_eq] at h
  rw [Sql.isNameChar, Bool.or_eq_true, Bool.or_eq_true]
  rcases h with ((((h | h) | rfl) | rfl) | rfl) | rfl
  · exact Or.inl (Or.inl (hascii (Or.inl h)))
  · exact Or.inl (Or.inl (hascii (Or.inr h)))
  · decide +kernel
  · decide +kernel
  · decide +kernel
  · decide +kernel

namespace IsPlainWord

variable {name : String} (h : IsPlainWord name)

include h

/-- A plain name is written as it is. -/
theorem sqlName_eq : sqlName name = name := by
  rw [sqlName, if_pos h.plain]

theorem all_isNameChar : ∀ c ∈ name.toList, Sql.isNameChar c = true := by
  have hkept : dropFinalLineFeed name.toList = name.toList := by
    rw [dropFinalLineFeed]
    split
    next hlast => exact absurd (List.mem_of_getLast? (beq_iff_eq.mp hlast)) h.no_lineFeed
    next => rfl
  have hplain := h.plain
  rw [isPlainName, hkept] at hplain
  simp only [Bool.and_eq_true, List.all_eq_true] at hplain
  exact fun c hc => isNameChar_of_isPlainNameChar (hplain.1.1.1 c hc)

end IsPlainWord

/-- A name with a dot is no keyword. -/
theorem Sql.isName_of_dot {front back : String} (hfront : ∀ c ∈ front.toList, isNameChar c = true)
    (hback : ∀ c ∈ back.toList, isNameChar c = true) : IsName (front ++ "." ++ back) := by
  have htext : (front ++ "." ++ back).toList = front.toList ++ '.' :: back.toList := by
    simp [String.toList_append]
  refine ⟨?_, ?_, ?_⟩
  · intro hnil
    rw [hnil] at htext
    simp at htext
  · rw [htext, List.all_append, List.all_cons, List.all_eq_true.mpr hfront,
      List.all_eq_true.mpr hback]
    decide +kernel
  · refine Keyword.ofWord?_of_dot ?_
    rw [htext]
    simp

/-- In a table with plain names the columns are written as names. -/
theorem Table.HasPlainNames.isName_sqlColumn {t : Table} (h : t.HasPlainNames) {c : TableColumn}
    (hc : c ∈ t.columns) : Sql.IsName (t.sqlColumn c) := by
  have hcolumn := (h.columns c hc).all_isNameChar
  have htable : ∀ c ∈ t.sqlTable.toList, Sql.isNameChar c = true := by
    rw [sqlTable, h.table.sqlName_eq]
    cases hschema : t.schema with
    | none => exact h.table.all_isNameChar
    | some name =>
      rcases h.schema name hschema with rfl | hname
      · exact h.table.all_isNameChar
      · change ∀ c ∈ (if name.isEmpty then t.table else sqlName name ++ "." ++ t.table).toList,
          Sql.isNameChar c = true
        split
        · exact h.table.all_isNameChar
        · rw [hname.sqlName_eq]
          intro c hc
          simp only [String.toList_append, List.mem_append] at hc
          rcases hc with (hc | hc) | hc
          · exact hname.all_isNameChar c hc
          · rw [List.mem_singleton.mp hc]
            decide +kernel
          · exact h.table.all_isNameChar c hc
  rw [sqlColumn, (h.columns c hc).sqlName_eq]
  exact Sql.isName_of_dot htable hcolumn

/-! ## Rewriting -/

/-- The options name an operator. -/
def Options.NameOperator (o : Options) : Prop :=
  ∃ s, o.get? "operator" = some s ∧ s ≠ .value .null

/-- The setting that names the columns to look a search string up in. -/
def Options.columnNames (o : Options) : Option Setting :=
  if (o.get? "columns").any Setting.truthy then o.get? "columns" else o.get? "column"

/-- What a search string leaves out, which the configuration tells if no option does. -/
def Options.exclusion (o : Options) (config : Config) : Except Failure Value :=
  match o.get? "exclude" with
  | some s => .ok s.toValue
  | none => config.patterns.map fun patterns => .list (patterns.map .pattern)

/-- The operator, with its columns, that the options of a declaration name. -/
inductive Operator.Named (t : Table) (config : Config) (o : Options) : Operator → Prop
  | single {s : Setting} {operator key : String} {op : ColumnOperator} {c : TableColumn} :
    o.get? "operator" = some s → s.toValue.written = .ok operator →
    ColumnOperator.ofName? operator = some op → o.get? "column" = some (.value (.text key)) →
    t.column (.text key) = .ok c → Named t config o (.single op (t.sqlColumn c))
  | fullText {s : Setting} {columns : List String} {exclude : Value} :
    o.get? "operator" = some s → s.toValue.written = .ok "full_text" →
    Bridge.namedColumns t "full_text" o.columnNames = .ok columns →
    o.exclusion config = .ok exclude → Named t config o (.fullText config.parseMeta exclude columns)

/-- To take an option out leaves the others. -/
theorem Options.get?_erase {o : Options} {name other : String} (h : name ≠ other) :
    (o.erase other).get? name = o.get? name := by
  rw [get?, get?, erase]
  induction o with
  | nil => rfl
  | cons p o ih =>
    rw [List.filter_cons, List.lookup_cons]
    by_cases hp : p.1 = other
    · have hname : (name == p.1) = false := beq_false_of_ne (hp ▸ h)
      rw [hname, if_neg (by simp [hp])]
      exact ih
    · rw [if_pos (by simp [hp]), List.lookup_cons, ih]

/-- A value without members counts as false. -/
theorem Value.truthy_of_items?_nil {v : Value} (h : v.items? = some []) : v.truthy = false := by
  cases v <;> simp_all [items?, truthy, rangeItems]

namespace Bridge

/-- What is lifted changes nothing. -/
theorem lift_eq_ok {σ β : Type} {e : Except Failure β} {s s' : σ} {b : β}
    (h : lift e s = .ok b s') : e = .ok b ∧ s' = s := by
  cases e with
  | ok a =>
    cases h
    exact ⟨rfl, rfl⟩
  | error e => cases h

theorem answer_lift {σ β : Type} (e : Except Failure β) (s : σ) :
    answer (lift e : EStateM Failure σ β) s = e := by
  cases e <;> rfl

theorem lift_eq_error {σ β : Type} {e : Except Failure β} {s s' : σ} {cause : Failure}
    (h : lift e s = .error cause s') : e = .error cause ∧ s' = s := by
  cases e with
  | ok b => cases h
  | error e =>
    cases h
    exact ⟨rfl, rfl⟩

/-- An option that is taken is there no more. -/
theorem take_eq_ok {name : String} {b b' : Builder} {s : Option Setting} (h : take name b = .ok s b') :
    s = b.options.get? name ∧ b' = { b with options := b.options.erase name } := by
  cases h
  exact ⟨rfl, rfl⟩

/-- A column that is found is one of the table. -/
theorem column_mem {t : Table} {name : Value} {c : TableColumn} (h : t.column name = .ok c) :
    c ∈ t.columns := by
  rw [Table.column] at h
  split at h
  next c' hfound =>
    cases h
    obtain ⟨s, -, hs⟩ := Option.bind_eq_some_iff.mp hfound
    rw [Table.column?] at hs
    split at hs
    next hkey =>
      cases hs
      exact List.mem_of_find?_eq_some hkey
    next => exact List.mem_of_find?_eq_some hs
  next =>
    split at h
    · cases h
    · cases h

/-- A declaration with an operator on one column gets the block of that operator. -/
theorem rewriteColumn_eq_ok {t : Table} {operator : String} {op : ColumnOperator} {b b' : Builder}
    (h : rewriteColumn t operator op b = .ok () b') :
    ∃ key c, b.options.get? "column" = some (.value (.text key)) ∧ t.column (.text key) = .ok c ∧
      b'.name = b.name ∧ b'.block = some ((Operator.single op (t.sqlColumn c)).block b.name) := by
  obtain ⟨name, b₁, hname, h⟩ := estate_bind_eq_ok.mp h
  obtain ⟨hname, rfl⟩ := take_eq_ok hname
  split at h
  next key hkey =>
    split at h
    next => cases h
    next =>
      obtain ⟨c, b₂, hc, h⟩ := estate_bind_eq_ok.mp h
      obtain ⟨hfound, rfl⟩ := lift_eq_ok hc
      obtain ⟨wanted, b₃, hwanted, h⟩ := estate_bind_eq_ok.mp h
      obtain ⟨-, rfl⟩ := take_eq_ok hwanted
      refine ⟨key, c, hkey.symm, hfound, ?_⟩
      -- A cast changes the options only.
      split at h
      next =>
        obtain ⟨_, b₄, hcast, h⟩ := estate_bind_eq_ok.mp h
        cases hcast
        cases h
        cases c.kind <;> exact ⟨rfl, rfl⟩
      next =>
        cases h
        exact ⟨rfl, rfl⟩
  next => cases h

/-- Columns that are found are columns of the table, and there is one if one was asked for. -/
theorem mapM_column_eq_ok {t : Table} {members : List Value} {columns : List String}
    (hne : members ≠ [])
    (h : members.mapM (fun m => (t.column m).map t.sqlColumn) = .ok columns) :
    columns ≠ [] ∧ ∀ column ∈ columns, ∃ c ∈ t.columns, column = t.sqlColumn c := by
  have hforall := mapM_eq_ok_iff.mp h
  refine ⟨?_, ?_⟩
  · rintro rfl
    exact hne (List.forall₂_nil_right_iff.mp hforall)
  · intro column hcolumn
    obtain ⟨m, -, hm⟩ := exists_mem_of_mapM_eq_ok h hcolumn
    cases hc : t.column m with
    | error e =>
      rw [hc] at hm
      cases hm
    | ok c =>
      rw [hc] at hm
      cases hm
      exact ⟨c, column_mem hc, rfl⟩

/-- The columns that an option names are columns of the table, and there is one at least. -/
theorem namedColumns_eq_ok {t : Table} {operator : String} {names : Option Setting}
    {columns : List String} (h : namedColumns t operator names = .ok columns) :
    columns ≠ [] ∧ ∀ column ∈ columns, ∃ c ∈ t.columns, column = t.sqlColumn c := by
  unfold namedColumns at h
  split at h
  next => cases h
  next => cases h
  next s => exact mapM_column_eq_ok (List.cons_ne_nil _ []) h
  next v _ =>
    cases htruthy : v.truthy with
    | false =>
      rw [htruthy] at h
      cases h
    | true =>
      rw [htruthy] at h
      cases hitems : v.items? with
      | none =>
        rw [hitems] at h
        cases h
      | some items =>
        rw [hitems] at h
        refine mapM_column_eq_ok ?_ h
        rintro rfl
        rw [Value.truthy_of_items?_nil hitems] at htruthy
        cases htruthy

/-- What a full text search is rewritten to: the columns and exclusions that its options name. -/
theorem rewriteFullText_eq_ok {t : Table} {config : Config} {operator : String} {b b' : Builder}
    (h : rewriteFullText t config operator b = .ok () b') :
    ∃ columns exclude, namedColumns t operator b.options.columnNames = .ok columns ∧
      b.options.exclusion config = .ok exclude ∧ b'.name = b.name ∧
      b'.block = some ((Operator.fullText config.parseMeta exclude columns).block b.name) := by
  obtain ⟨several, b₁, hseveral, h⟩ := estate_bind_eq_ok.mp h
  obtain ⟨rfl, rfl⟩ := take_eq_ok hseveral
  rw [ite_bind_eq] at h
  -- The names come from `columns`, or else from `column`; both options are consumed in the end.
  obtain ⟨names, b₂, hnames, h⟩ := estate_bind_eq_ok.mp h
  obtain ⟨rfl, hname, hkept⟩ : names = b.options.columnNames ∧ b₂.name = b.name ∧
      b₂.options.get? "exclude" = b.options.get? "exclude" := by
    rw [Options.columnNames]
    split at hnames
    next hsome =>
      cases hnames
      exact ⟨(if_pos hsome).symm, rfl, Options.get?_erase (by decide)⟩
    next hnone =>
      obtain ⟨rfl, rfl⟩ := take_eq_ok hnames
      rw [if_neg hnone, Options.get?_erase (by decide), Options.get?_erase (by decide),
        Options.get?_erase (by decide)]
      exact ⟨rfl, rfl, rfl⟩
  obtain ⟨_, b₃, htake, h⟩ := estate_bind_eq_ok.mp h
  obtain ⟨-, rfl⟩ := take_eq_ok htake
  obtain ⟨_, b₄, htake, h⟩ := estate_bind_eq_ok.mp h
  obtain ⟨-, rfl⟩ := take_eq_ok htake
  obtain ⟨columns, b₅, hlift, h⟩ := estate_bind_eq_ok.mp h
  obtain ⟨hcolumns, rfl⟩ := lift_eq_ok hlift
  obtain ⟨excluded, b₆, htake, h⟩ := estate_bind_eq_ok.mp h
  obtain ⟨hexcluded, rfl⟩ := take_eq_ok htake
  rw [Options.get?_erase (by decide), Options.get?_erase (by decide), hkept] at hexcluded
  rw [Options.exclusion, ← hexcluded]
  cases excluded with
  | some s =>
    cases h
    exact ⟨columns, s.toValue, hcolumns, rfl, hname, by rw [← hname]; rfl⟩
  | none =>
    obtain ⟨patterns, b₇, hlift, h⟩ := estate_bind_eq_ok.mp h
    obtain ⟨hpatterns, rfl⟩ := lift_eq_ok hlift
    cases h
    refine ⟨columns, .list (patterns.map .pattern), hcolumns, ?_, hname, by rw [← hname]; rfl⟩
    change config.patterns.map _ = _
    rw [hpatterns]
    rfl

/-- A setting that is given names an operator of one column, or `full_text`. -/
theorem rewriteRelational_of_named {t : Table} {config : Config} {b b' : Builder} {s : Setting}
    (hs : b.options.get? "operator" = some s) (hne : s ≠ .value .null)
    (h : rewriteRelational t config b = .ok () b') :
    ∃ operator, s.toValue.written = .ok operator ∧
      ((∃ op, ColumnOperator.ofName? operator = some op ∧
        rewriteColumn t operator op { b with options := b.options.erase "operator" } = .ok () b') ∨
      (operator = "full_text" ∧ rewriteFullText t config operator
        { b with options := b.options.erase "operator" } = .ok () b')) := by
  unfold rewriteRelational at h
  obtain ⟨named, b₁, htake, hrest⟩ := estate_bind_eq_ok.mp h
  obtain ⟨rfl, rfl⟩ := take_eq_ok htake
  rw [hs] at hrest
  rcases s with v | f
  on_goal 1 => cases v
  -- Whatever the setting is, it is written out, unless it is `null`.
  all_goals first
    | exact absurd rfl hne
    | obtain ⟨operator, b₁, hlift, hrun⟩ := estate_bind_eq_ok.mp hrest
      obtain ⟨hwritten, rfl⟩ := lift_eq_ok hlift
      refine ⟨operator, hwritten, ?_⟩
      cases hop : ColumnOperator.ofName? operator with
      | some op =>
        rw [hop] at hrun
        exact Or.inl ⟨op, rfl, hrun⟩
      | none =>
        rw [hop] at hrun
        by_cases hfull : (operator == "full_text") = true
        · rw [if_pos hfull] at hrun
          exact Or.inr ⟨beq_iff_eq.mp hfull, hrun⟩
        · rw [if_neg hfull] at hrun
          cases hrun

/-- Nothing is consumed but the option that names no operator. -/
theorem rewriteRelational_of_not_named {t : Table} {config : Config} {b b' : Builder}
    (hoperator : ¬ b.options.NameOperator) (h : rewriteRelational t config b = .ok () b') :
    b' = { b with options := b.options.erase "operator" } := by
  obtain ⟨named, b₁, htake, hrest⟩ := estate_bind_eq_ok.mp h
  obtain ⟨rfl, rfl⟩ := take_eq_ok htake
  cases hs : b.options.get? "operator" with
  | none =>
    rw [hs] at hrest
    cases hrest
    rfl
  | some s =>
    obtain rfl : s = .value .null := by
      by_contra hnull
      exact hoperator ⟨s, hs, hnull⟩
    rw [hs] at hrest
    cases hrest
    rfl

/-- **What rewriting installs.** A declaration that names an operator gets the block of that operator,
and keeps its name. -/
theorem rewriteRelational_eq_ok {t : Table} {config : Config} {b b' : Builder}
    (hoperator : b.options.NameOperator) (h : rewriteRelational t config b = .ok () b') :
    ∃ op, Operator.Named t config b.options op ∧ b'.name = b.name ∧
      b'.block = some (op.block b.name) := by
  obtain ⟨s, hs, hne⟩ := hoperator
  obtain ⟨operator, hwritten, ⟨op, hop, h⟩ | ⟨rfl, h⟩⟩ := rewriteRelational_of_named hs hne h
  · obtain ⟨key, c, hkey, hc, hname, hblock⟩ := rewriteColumn_eq_ok h
    rw [Options.get?_erase (by decide)] at hkey
    exact ⟨_, .single hs hwritten hop hkey hc, hname, hblock⟩
  · obtain ⟨columns, exclude, hcolumns, hexclude, hname, hblock⟩ := rewriteFullText_eq_ok h
    rw [Options.columnNames, Options.get?_erase (by decide), Options.get?_erase (by decide)] at hcolumns
    rw [Options.exclusion, Options.get?_erase (by decide)] at hexclude
    exact ⟨_, .fullText hs hwritten hcolumns hexclude, hname, hblock⟩

end Bridge

/-- Where the names of the table are plain, the columns of the operator are. -/
theorem Operator.Named.isPlain {t : Table} (ht : t.HasPlainNames) {config : Config} {o : Options}
    {op : Operator} (h : Named t config o op) : op.IsPlain := by
  cases h with
  | single _ _ _ _ hc => exact ht.isName_sqlColumn (Bridge.column_mem hc)
  | fullText _ _ hcolumns _ =>
    obtain ⟨hne, hcolumns⟩ := Bridge.namedColumns_eq_ok hcolumns
    refine ⟨hne, fun column hcolumn => ?_⟩
    obtain ⟨c, hc, rfl⟩ := hcolumns column hcolumn
    exact ht.isName_sqlColumn hc

/-! ## Declarations that name a column -/

/-- A declaration as an operator on one column leaves it. -/
def Builder.onColumn (b : Builder) (t : Table) (op : ColumnOperator) (c : TableColumn) : Builder :=
  let rest : Builder := { b with options := (b.options.erase "column").erase "type_cast" }
  let cast := if (b.options.get? "type_cast").any Setting.truthy then
    c.kind.elim rest (Bridge.castTo t.machine · rest) else rest
  { cast with block := some ((Operator.single op (t.sqlColumn c)).block b.name) }

/-- A declaration that names a column is rewritten to the operator on it. -/
theorem Bridge.rewriteColumn_eq {t : Table} {operator key : String} {op : ColumnOperator} {b : Builder}
    {c : TableColumn} (hkey : b.options.get? "column" = some (.value (.text key)))
    (hc : t.column (.text key) = .ok c) (hne : key.isEmpty = false) :
    rewriteColumn t operator op b = .ok () (b.onColumn t op c) := by
  have hcast : (b.options.erase "column").get? "type_cast" = b.options.get? "type_cast" :=
    Options.get?_erase (by decide)
  refine estate_bind_eq_ok.mpr ⟨_, _, rfl, ?_⟩
  rw [hkey]
  simp only [hne]
  refine estate_bind_eq_ok.mpr ⟨c, _, by rw [hc]; rfl, ?_⟩
  refine estate_bind_eq_ok.mpr ⟨_, _, rfl, ?_⟩
  simp only [hcast]
  rw [Builder.onColumn]
  split
  next => cases c.kind <;> rfl
  next => rfl

/-- A declaration that is rewritten does not name the empty column. -/
theorem Bridge.key_ne_empty {t : Table} {operator key : String} {op : ColumnOperator} {b b' : Builder}
    (hkey : b.options.get? "column" = some (.value (.text key)))
    (h : rewriteColumn t operator op b = .ok () b') : key.isEmpty = false := by
  obtain ⟨name, b₁, hname, hrest⟩ := estate_bind_eq_ok.mp h
  obtain ⟨rfl, rfl⟩ := take_eq_ok hname
  rw [hkey] at hrest
  cases hempty : key.isEmpty with
  | false => rfl
  | true =>
    simp only [hempty] at hrest
    cases hrest

/-- A block on a column is declared under the same name. -/
theorem Builder.onColumn_name (b : Builder) (t : Table) (op : ColumnOperator) (c : TableColumn) :
    (b.onColumn t op c).name = b.name := by
  rw [onColumn]
  dsimp only
  split
  next => cases c.kind <;> rfl
  next => rfl

end SearchQuery
