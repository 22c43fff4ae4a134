import SearchQuery.Proofs.Column.Settled
import SearchQuery.Proofs.Search.LastWrite

/-!
# Casting and collections

An attribute that casts stores what its column's kind makes of a value, before its operator looks at it.
Most kinds pass a collection through as it is, so equality with it asks for one of its members. Two kinds
take some collections whole: a text is made of every collection that can be written, and a decimal number
of a list or tuple that holds its sign, its digits and its exponent. Then equality asks for the one value
that was made (`declare_casting_collection`).

## Shape of the argument

The text of a collection starts with a bracket or a word, so it is read as no date and no time. All other
kinds tell by its sort that a collection is none of their values.
-/

namespace SearchQuery

/-! ## Texts that are no dates -/

namespace Iso

/-- The text starts with a character that starts no date and no time. -/
def StartsAstray (cs : List Char) : Prop :=
  ∃ c rest, cs = c :: rest ∧ c.isDigit = false ∧ c ≠ 'T' ∧ startsOffset c = false

/-- A text that starts astray does so whatever follows. -/
theorem StartsAstray.append {cs : List Char} (h : StartsAstray cs) (more : List Char) :
    StartsAstray (cs ++ more) := by
  obtain ⟨c, rest, rfl, hc⟩ := h
  exact ⟨c, rest ++ more, rfl, hc⟩

/-- No digits are read where there is none. -/
theorem digits?_of_not_isDigit {c : Char} (h : c.isDigit = false) (n acc : Nat) (cs : List Char) :
    digits? (n + 1) acc (c :: cs) = none := by
  rw [digits?, h]
  rfl

/-- No date starts there. -/
theorem dateOf?_of_not_isDigit {c : Char} (h : c.isDigit = false) (cs : List Char) :
    dateOf? (c :: cs) = none := by
  rw [dateOf?, digits?_of_not_isDigit h]

/-- No time of day does. -/
theorem clock?_of_not_isDigit {c : Char} (h : c.isDigit = false) (cs : List Char) :
    clock? (c :: cs) = none := by
  rw [clock?, clockParts?, digits?_of_not_isDigit h]

theorem date?_of_startsAstray {s : String} (h : StartsAstray s.toList) : date? s = none := by
  obtain ⟨c, rest, hs, hdigit, -, -⟩ := h
  rw [date?, hs, dateOf?_of_not_isDigit hdigit]
  exact ite_self none

theorem time?_of_startsAstray {s : String} (h : StartsAstray s.toList) : time? s = none := by
  obtain ⟨c, rest, hs, hdigit, hletter, hoffset⟩ := h
  have htime : timeOf? (c :: rest) = none := by
    rw [timeOf?, splitOffset, List.takeWhile_cons_of_pos (by rw [hoffset]; rfl)]
    dsimp only
    rw [clock?_of_not_isDigit hdigit]
  rw [time?, hs]
  split
  next hT =>
    cases hT
    exact absurd rfl hletter
  next => exact htime

theorem moment?_of_startsAstray {s : String} (h : StartsAstray s.toList) : moment? s = none := by
  obtain ⟨c, rest, hs, hdigit, -, -⟩ := h
  have hdate : ∀ n, dateOf? ((c :: rest).take n) = none := by
    intro n
    cases n with
    | zero => rfl
    | succ n => exact dateOf?_of_not_isDigit hdigit (rest.take n)
  rw [moment?, hs]
  split
  next => rfl
  next =>
    split
    next => rfl
    next n _ => rw [hdate n]

end Iso

/-! ## Collections that are cast -/

namespace Value

/-- An enclosed text starts as its opening does. -/
theorem startsAstray_enclosed {opening : String} (h : Iso.StartsAstray opening.toList)
    (items : List String) (closing : String) :
    Iso.StartsAstray (enclosed opening items closing).toList := by
  rw [enclosed, String.toList_append, String.toList_append]
  exact (h.append _).append _

/-- The text of a collection starts with a bracket, or with a word in lower case. -/
theorem startsAstray_display {v : Value} {items : List Value} (h : v.collection? = some items) :
    Iso.StartsAstray v.display.toList := by
  have hopening : ∀ opening ∈ ["[", "(", "\x7b", "range(", "set("],
      Iso.StartsAstray opening.toList := by
    intro opening h
    simp only [List.mem_cons, List.not_mem_nil, or_false] at h
    rcases h with rfl | rfl | rfl | rfl | rfl <;> exact ⟨_, _, rfl, by decide⟩
  cases v <;> cases h
  case list => exact startsAstray_enclosed (hopening "[" (by simp)) _ _
  case range => exact startsAstray_enclosed (hopening "range(" (by simp)) _ _
  case tuple =>
    change Iso.StartsAstray (tupleText (literals items)).toList
    unfold tupleText
    split
    next item _ => exact startsAstray_enclosed (hopening "(" (by simp)) [item] ",)"
    next => exact startsAstray_enclosed (hopening "(" (by simp)) _ _
  case set =>
    cases items with
    | nil => exact startsAstray_enclosed (hopening "set(" (by simp)) [] ")"
    | cons v vs => exact startsAstray_enclosed (hopening "\x7b" (by simp)) _ _

/-- A collection is no NaN. -/
theorem labelled_of_collection? {v : Value} {items : List Value} (h : v.collection? = some items)
    (label : Nat) : v.labelled label = v := by
  cases v <;> first | rfl | cases h

theorem exists_labelled_decimal (d : Decimal) (label : Nat) :
    ∃ d', (decimal d).labelled label = decimal d' := by
  unfold labelled
  split
  next => rename_i h; cases h
  next => exact ⟨_, rfl⟩
  next => exact ⟨d, rfl⟩

end Value

/-- The kind makes one value of the collection as a whole. -/
def ColumnKind.TakesWhole : ColumnKind → Value → Prop
  | text, v => v.display?.isSome = true
  | decimal, v => ∃ d, v.toDecimal = .ok d
  | _, _ => False

namespace Column

variable {v : Value} {items : List Value}

/-- A collection is no blank text. -/
theorem isBlankText_of_collection? (h : v.collection? = some items) : isBlankText v = false := by
  cases v <;> first | rfl | cases h

/-- A collection that is not of the kind is cast to what it converts to. -/
theorem cast_of_collection? {kind : ColumnKind} (hkind : kind.holds v = false)
    (h : v.collection? = some items) : cast kind v = (convert? kind v).getD v := by
  have hcast : cast kind v = if kind.holds v then v else
      if isBlankText v then .null else (convert? kind v).getD v := by
    cases v <;> first | rfl | cases h
  rw [hcast, hkind, isBlankText_of_collection? h]
  rfl

/-- Nothing but a text or a decimal number is made of a collection. -/
theorem convert?_of_collection? {kind : ColumnKind} (h : v.collection? = some items)
    (hkind : ¬ kind.TakesWhole v) : convert? kind v = none := by
  have hastray := Value.startsAstray_display h
  cases kind with
  | int => cases v <;> first | rfl | cases h
  | float => cases v <;> first | rfl | cases h
  | decimal =>
    cases hd : v.toDecimal with
    | ok d => exact absurd ⟨d, hd⟩ hkind
    | error e => rw [convert?, hd]; rfl
  | text =>
    cases hs : v.display? with
    | some s => exact absurd (Option.isSome_iff_exists.mpr ⟨s, hs⟩) hkind
    | none => rw [convert?, Value.written, hs]; rfl
  | bool => cases v <;> first | rfl | cases h
  | date => rw [convert?, Value.bind_display?_eq_none (Iso.date?_of_startsAstray hastray)]; rfl
  | moment => rw [convert?, Value.bind_display?_eq_none (Iso.moment?_of_startsAstray hastray)]; rfl
  | time => rw [convert?, Value.bind_display?_eq_none (Iso.time?_of_startsAstray hastray)]; rfl
  | duration => rfl
  | bytes => rfl
  | array => rfl
  | identifier => rfl
  | any => rfl

/-- A collection that no value is made of passes through. -/
theorem cast_of_not_takesWhole {kind : ColumnKind} (h : v.collection? = some items)
    (hkind : ¬ kind.TakesWhole v) : cast kind v = v := by
  cases hholds : kind.holds v with
  | true => exact cast_of_holds hholds
  | false =>
    rw [cast_of_collection? hholds h, convert?_of_collection? h hkind]
    rfl

/-- No collection is of a kind that takes it whole. -/
theorem holds_of_takesWhole {kind : ColumnKind} (h : v.collection? = some items)
    (hkind : kind.TakesWhole v) : kind.holds v = false := by
  cases kind with
  | text => cases v <;> first | rfl | cases h
  | decimal => cases v <;> first | rfl | cases h
  | _ => exact absurd hkind id

/-- A collection that is taken whole is cast to a text or to a decimal number. -/
theorem cast_of_takesWhole {kind : ColumnKind} (h : v.collection? = some items)
    (hkind : kind.TakesWhole v) :
    (∃ s, v.display? = some s ∧ cast kind v = .text s) ∨
      ∃ d, v.toDecimal = .ok d ∧ cast kind v = .decimal d := by
  have hholds := holds_of_takesWhole h hkind
  cases kind with
  | text =>
    obtain ⟨s, hs⟩ := Option.isSome_iff_exists.mp hkind
    refine Or.inl ⟨s, hs, ?_⟩
    rw [cast_of_collection? hholds h, convert?, Value.written, hs]
    rfl
  | decimal =>
    obtain ⟨d, hd⟩ := hkind
    refine Or.inr ⟨d, hd, ?_⟩
    rw [cast_of_collection? hholds h, convert?, hd]
    rfl
  | _ => exact absurd hkind id

end Column

/-! ## Declarations that cast -/

namespace Options

/-- To set an option is to put it in its place. -/
theorem set_eq_putEntry (o : Options) (name : String) (s : Setting) : o.set name s = putEntry o name s := by
  have hentry : (fun p : String × Setting => if p.1 == name then (p.1, s) else p) =
      fun p => if p.1 == name then (name, s) else p := by
    funext p
    by_cases hp : p.1 = name
    · rw [hp]
    · rw [if_neg (by simpa using hp), if_neg (by simpa using hp)]
  rw [set, putEntry, hentry]

end Options

/-- A builder that casts converts by its kind first, and then as it did. -/
theorem Builder.conversion_castTo (m : Machine) (kind : ColumnKind) (b : Builder) :
    (Bridge.castTo m kind b).conversion =
      some (Bridge.composed (Column.tryCast m kind) b.conversion) := by
  rw [conversion, Bridge.castTo, Options.set_eq_putEntry, Options.get?, lookup_putEntry]
  rfl

/-- The conversion of a declaration that casts does so before any conversion of its own. -/
theorem Builder.conversion_onColumn (b : Builder) (t : Table) (op : ColumnOperator) (c : TableColumn) :
    (b.onColumn t op c).conversion =
      if (b.options.get? "type_cast").any Setting.truthy then
        c.kind.elim b.conversion fun kind =>
          some (Bridge.composed (Column.tryCast t.machine kind) b.conversion)
      else b.conversion := by
  have hrest : ∀ block, ({ b with
      options := (b.options.erase "column").erase "type_cast", block } : Builder).conversion =
        b.conversion := by
    intro block
    rw [conversion, Options.get?_erase (by decide), Options.get?_erase (by decide)]
    rfl
  rw [onColumn]
  split
  next =>
    cases c.kind with
    | none => exact hrest _
    | some kind =>
      refine (conversion_castTo t.machine kind _).trans ?_
      rw [hrest]
      rfl
  next => exact hrest _

/-- The attribute asks for equality with a column of a known kind, and casts to it. -/
structure Builder.CastsTo (b : Builder) (t : Table) (c : TableColumn) (kind : ColumnKind) : Prop where
  operator : ∃ s, b.options.get? "operator" = some s ∧ s.toValue.written = .ok "eq"
  column : ∃ key, b.options.get? "column" = some (.value (.text key)) ∧ t.column (.text key) = .ok c
  kind : c.kind = some kind
  cast : (b.options.get? "type_cast").any Setting.truthy = true
  plain : b.conversion = none

/-- Such an attribute has equality with the column as its block, and stores what is cast. -/
theorem Builder.CastsTo.rewritten {b b' : Builder} {t : Table} {c : TableColumn} {kind : ColumnKind}
    (hb : b.CastsTo t c kind) {config : Config} (h : Bridge.rewriteRelational t config b = .ok () b') :
    b'.name = b.name ∧ b'.block = some ((Operator.single .equal (t.sqlColumn c)).block b.name) ∧
      b'.conversion = some (Column.tryCast t.machine kind) := by
  obtain ⟨s, hs, hwritten⟩ := hb.operator
  have hne : s ≠ .value .null := by
    rintro rfl
    exact absurd (Except.ok.inj hwritten) (by decide)
  obtain ⟨operator, hoperator, ⟨op, hop, hrun⟩ | ⟨rfl, -⟩⟩ := Bridge.rewriteRelational_of_named hs hne h
  · rw [hwritten] at hoperator
    cases hoperator
    cases hop
    obtain ⟨key, hkey, hc⟩ := hb.column
    have hkey' : (b.options.erase "operator").get? "column" = some (.value (.text key)) := by
      rw [Options.get?_erase (by decide), hkey]
    rw [Bridge.rewriteColumn_eq hkey' hc (Bridge.key_ne_empty hkey' hrun)] at hrun
    cases hrun
    have hconversion : ({ b with options := b.options.erase "operator" } : Builder).conversion = none := by
      rw [conversion, Options.get?_erase (by decide)]
      exact hb.plain
    refine ⟨Builder.onColumn_name _ t .equal c, rfl, ?_⟩
    rw [Builder.conversion_onColumn, Options.get?_erase (by decide), if_pos hb.cast, hb.kind,
      hconversion]
    rfl
  · exact absurd (Except.ok.inj (hwritten.symm.trans hoperator)) (by decide)

/-- An attribute that casts is declared with equality with its column. -/
theorem Builder.CastsTo.asksBy {r r' : Registry} {id : Nat} (hid : id < r.classes.length) {t : Table}
    {config : Config} (hbridge : (r.find id).schema.bridge = some (.relational t config)) {b : Builder}
    {column : TableColumn} {kind : ColumnKind} (hb : b.CastsTo t column kind)
    (hdeclare : Registry.declare id b r = .ok () r') :
    (r'.view id).AsksBy b.name (.single .equal (t.sqlColumn column))
      (some (Column.tryCast t.machine kind)) := by
  obtain ⟨b', hrewritten, hstrict, hrun⟩ | ⟨e, hrun⟩ := Registry.declare_cases id b r
  · rw [hrun] at hdeclare
    cases hdeclare
    have hrewrite : Bridge.rewriteRelational t config b = .ok () b' :=
      (SearchClass.rewritten_eq_ok_iff hbridge).mp hrewritten
    obtain ⟨hname, hblock, hconversion⟩ := hb.rewritten hrewrite
    rw [← hname] at hblock ⊢
    rw [← hconversion]
    exact .of_withAttribute hid hstrict hblock
  · cases hrun.symm.trans hdeclare

/-- A search that was made and written to has been given the value last for the attribute. -/
def Search.GivenLast (c : ClassView) (name : String) (v : Value) (s : Search) : Prop :=
  ∃ attributes values supplied ws s₀ s₁, s₀.values = [] ∧ s₀.extras = [] ∧
    suppliedBy attributes values = .ok supplied ∧ make c attributes values s₀ = .ok () s₁ ∧
    (∀ w ∈ ws, w.Known c) ∧ writeAll c ws s₁ = .ok () s ∧
    overwritten (fun name => some (initial c supplied name)) (ws.flatMap Write.raws) name = some v

/-- What was given last is stored as the conversion makes it. -/
theorem Search.GivenLast.stored {c : ClassView} {name : String} {v : Value} {s : Search}
    (h : GivenLast c name v s) {conversion : Option Conversion} (hname : name ∈ c.schema.names)
    (hmember : c.member? name = some (.attribute conversion)) :
    ∃ w label, Search.stored conversion v = .ok w ∧ s.values.lookup name = some (w.labelled label) := by
  obtain ⟨attributes, values, supplied, ws, s₀, s₁, hvalues, hextras, hsupplied, hmake, hknown, hwrites,
    hlast⟩ := h
  obtain ⟨-, given, hgiven, -, hassign⟩ := make_eq_ok_iff.mp hmake
  cases hsupplied.symm.trans hgiven
  have hs := (holds_of_make hvalues hextras hassign).writeAll hknown hwrites
  refine (hs.stored name v conversion ?_ hmember).2
  rw [overwritten, if_pos hname]
  exact hlast

/-- **Casting and collections.** An attribute that is declared with equality with a column and casts to its
kind can be given any collection that the machine is large enough to cast, in the class itself and in every
class that has the attribute from it. It then asks for one of the members, each of which is a parameter as it
was given, unless the kind takes the collection whole; then, and only then, it asks for the one value that
the kind makes of all of it. -/
theorem declare_casting_collection {r r' : Registry} {id : Nat} (hid : id < r.classes.length)
    {t : Table} {config : Config} (hbridge : (r.find id).schema.bridge = some (.relational t config))
    {b : Builder} {column : TableColumn} {kind : ColumnKind} (hb : b.CastsTo t column kind)
    (hdeclare : Registry.declare id b r = .ok () r') {v : Value} {items : List Value}
    (hv : v.collection? = some items) :
    let cast : Conversion := Column.tryCast t.machine kind
    (r'.view id).AsksBy b.name (.single .equal (t.sqlColumn column)) (some cast) ∧
    ∀ c : ClassView, c.AsksBy b.name (.single .equal (t.sqlColumn column)) (some cast) →
      ((∀ e, ¬ Column.Exhausts t.machine kind v e) →
        ∀ s, ∃ s', Search.assign c b.name v s = .ok () s') ∧
      ∀ s, Search.GivenLast c b.name v s → Search.CanAsk c s b.name →
        ∃ f, Search.findOptionsFor c b.name s = .ok (contribution (some f)) s ∧
          (¬ kind.TakesWhole v → f.params = items ∧
            f.sql = if items = [] then t.sqlColumn column ++ " IN (NULL)"
              else t.sqlColumn column ++ " IN (" ++ ", ".intercalate (items.map fun _ => "?") ++ ")") ∧
          (kind.TakesWhole v → f.sql = t.sqlColumn column ++ " = ?" ∧
            ((∃ text, v.display? = some text ∧ f.params = [.text text]) ∨
              ∃ d label, v.toDecimal = .ok d ∧ f.params = [(Value.decimal d).labelled label])) := by
  intro cast
  have hignored : v.isIgnored = false := by
    cases v <;> first | rfl | cases hv
  have hstored : Search.stored (some cast) v = Column.tryCast t.machine kind v := by
    rw [Search.stored, hignored]
    rfl
  refine ⟨hb.asksBy hid hbridge hdeclare, fun c hc => ⟨fun hfits s => ?_, fun s hgiven hasks => ?_⟩⟩
  · obtain ⟨e, -, hexhausts, -⟩ | hok := Column.tryCast_cases t.machine kind v
    · exact absurd hexhausts (hfits e)
    · exact (Search.exists_assign_attribute_iff hc.attributed v s).mpr ⟨_, hstored.trans hok⟩
  · obtain ⟨w, label, hw, hvalue⟩ := hgiven.stored hc.listed hc.attributed
    rw [hstored] at hw
    obtain rfl := Column.tryCast_eq_ok hw
    -- What is stored decides the form of the condition.
    by_cases hkind : kind.TakesWhole v
    · obtain ⟨text, htext, hcast⟩ | ⟨d, hd, hcast⟩ := Column.cast_of_takesWhole hv hkind
      · rw [hcast] at hvalue
        refine ⟨_, hasks.findOptionsFor_eq hc hvalue rfl rfl, fun h => absurd hkind h, fun _ => ?_⟩
        exact ⟨rfl, Or.inl ⟨text, htext, rfl⟩⟩
      · rw [hcast] at hvalue
        obtain ⟨d', hd'⟩ := Value.exists_labelled_decimal d label
        rw [hd'] at hvalue
        refine ⟨_, hasks.findOptionsFor_eq hc hvalue rfl rfl, fun h => absurd hkind h, fun _ => ?_⟩
        exact ⟨rfl, Or.inr ⟨d, label, hd, by rw [hd']; rfl⟩⟩
    · rw [Column.cast_of_not_takesWhole hv hkind, Value.labelled_of_collection? hv] at hvalue
      refine ⟨_, hasks.findOptionsFor_eq hc hvalue hignored rfl, fun _ => ?_, fun h => absurd h hkind⟩
      exact Column.equality_of_collection? _ hv

/-! ## Collections that are told apart -/

/-- A table with columns of three kinds. -/
def shelf : Table where
  model := "Item"
  table := "items"
  columns := [⟨"id", "id", some .int, true⟩, ⟨"name", "name", some .text, false⟩,
    ⟨"price", "price", some .decimal, false⟩]

/-- A search class on the table. -/
def shelfClasses : Registry :=
  Registry.afterAll [.subclass {} "Items" Registry.root [] (some (.table shelf)) []] {}

/-- An attribute that casts to a column. -/
def castingBuilder (key : String) : Builder :=
  { name := "wanted"
    options := [("operator", .value (.text "eq")), ("column", .value (.text key)),
      ("type_cast", .value (.bool true))] }

/-- The class with an attribute that casts to a column. -/
def castingClass (key : String) : ClassView :=
  (after (Registry.declare 1 (castingBuilder key)) shelfClasses).view 1

/-- The condition that the attribute contributes for a value, with the texts of its parameters. -/
def castingAnswer (key : String) (v : Value) : Option (String × List String) :=
  match (do
    Search.make (castingClass key) (.dict []) [("wanted", v)]
    Search.findOptionsFor (castingClass key) "wanted" : Searching Value).run' {} with
  | some (.dict [(_, .fragment f)]) => some (f.sql, f.params.map Value.literal)
  | _ => none

/-- A text is made of a list, and a decimal number of a tuple. -/
theorem casting_takes_whole :
    castingAnswer "name" (.list [.text "a", .text "b"]) =
        some ("items.name = ?", ["\"['a', 'b']\""]) ∧
      castingAnswer "price" (.tuple [.int 0, .list [.int 1, .int 2], .int (-1)]) =
        some ("items.price = ?", ["Decimal('1.2')"]) := by
  decide +kernel

/-- A list for a column of integers is one of its members. -/
theorem declare_casting_collection_members :
    let c := castingClass "id"
    let v : Value := .list [.int 1, .text "2"]
    ∃ s f, Search.GivenLast c "wanted" v s ∧ Search.CanAsk c s "wanted" ∧
      Search.findOptionsFor c "wanted" s = .ok (contribution (some f)) s ∧
      f.sql = "items.id IN (?, ?)" ∧ f.params = [.int 1, .text "2"] := by
  intro c v
  have hcasts : (castingBuilder "id").CastsTo shelf ⟨"id", "id", some .int, true⟩ .int :=
    ⟨⟨_, rfl, rfl⟩, ⟨"id", rfl, rfl⟩, rfl, rfl, rfl⟩
  have hbridge : (shelfClasses.find 1).schema.bridge = some (.relational shelf {}) := rfl
  have hdeclare : Registry.declare 1 (castingBuilder "id") shelfClasses =
      .ok () (after (Registry.declare 1 (castingBuilder "id")) shelfClasses) := rfl
  have hv : v.collection? = some [.int 1, .text "2"] := rfl
  obtain ⟨hc, hall⟩ := declare_casting_collection (by decide +kernel) hbridge hcasts hdeclare hv
  let s := after (Search.make c (.dict []) [("wanted", v)]) {}
  have hmake : Search.make c (.dict []) [("wanted", v)] {} = .ok () s :=
    eq_ok_of_succeeds (by decide +kernel)
  have hgiven : Search.GivenLast c "wanted" v s :=
    ⟨.dict [], [("wanted", v)], [("wanted", v)], [], {}, s, rfl, rfl, rfl, hmake, by simp, rfl, rfl⟩
  have hasks : Search.CanAsk c s "wanted" :=
    ⟨Option.isNone_iff_eq_none.mp (by decide +kernel), Option.isNone_iff_eq_none.mp (by decide +kernel),
      Option.isNone_iff_eq_none.mp (by decide +kernel)⟩
  obtain ⟨f, hf, hmembers, -⟩ := (hall c hc).2 s hgiven hasks
  obtain ⟨hparams, hsql⟩ := hmembers fun h => h
  exact ⟨s, f, hgiven, hasks, hf, hsql, hparams⟩

end SearchQuery
