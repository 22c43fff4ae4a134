import Mathlib
import SearchQuery.Config.Document

/-!
# Settings of a document

What a configuration document asks for is said by the values of its settings (`valueAt`). A setting may be
at fault (`Fault`): it is of the wrong type, or it lists a pattern that cannot be read. Where all sections
are tables, exactly the documents without a fault are accepted, all others are refused with the name of a
setting that is at fault, and the configuration read holds what is asked for (`ofEntries_error_iff_fault`).

## Shape of the argument

Reading a document is a sequence of steps, each of which may end it. `Ends m entries x P` says of a step `x`
that its result satisfies `P`, and that its failure is one that the document accounts for. It goes through
a sequence step by step (`Ends.bind`), so there is one lemma for each kind of step. Three failures are
accounted for: a fault, a section that is no table, and a pattern with a defect that is not reported. The
last two are no failures of the configuration, so they are left out by hypotheses at the end.

Which patterns can be read depends on the machine: how deep their groups can be nested, and which characters
have a name. Nothing that is shown here assumes anything about the machine.
-/

namespace SearchQuery.Config

/-! ## What a document asks for -/

/-- The value of a setting, if the document has a table with it. -/
def valueAt (entries : List (Value × Value)) (part key : String) : Option Value :=
  ((Value.lookupText entries part).bind Value.entries?).bind (Value.lookupText · key)

/-- The value is a list of texts, or a text that stands for the list of it alone. -/
inductive Lists : Value → List String → Prop
  | one (s : String) : Lists (.text s) [s]
  | all (texts : List String) : Lists (.list (texts.map .text)) texts

/-- The settings that are truth values. -/
def flags : List (String × String) :=
  [("text", "parse_meta"), ("bridge", "type_cast"), ("display", "colored_output")]

/-- A setting is at fault. -/
inductive Fault (m : Machine) (entries : List (Value × Value)) : String → Prop
  | notTexts {v : Value} (found : valueAt entries "text" "exclude" = some v)
      (wrong : ∀ texts, ¬ Lists v texts) : Fault m entries "text.exclude"
  | badPattern {v : Value} {texts : List String} {p : String} {e : PatternError}
      (found : valueAt entries "text" "exclude" = some v) (texts_eq : Lists v texts) (mem : p ∈ texts)
      (bad : Pattern.compile p false m = .error e) : Fault m entries "text.exclude"
  | notFlag {part key : String} {v : Value} (mem : (part, key) ∈ flags)
      (found : valueAt entries part key = some v) (wrong : ∀ b, v ≠ .bool b) :
      Fault m entries (part ++ "." ++ key)

/-- A truth value is the one that a setting asks for, or the default where the setting is missing. -/
def IsFlagAt (entries : List (Value × Value)) (part key : String) (default b : Bool) : Prop :=
  valueAt entries part key = some (.bool b) ∨ valueAt entries part key = none ∧ b = default

/-- Texts are those that the setting of patterns lists, or the default where it is missing. -/
def AreTextsAt (entries : List (Value × Value)) (texts : List String) : Prop :=
  (∃ v, valueAt entries "text" "exclude" = some v ∧ Lists v texts) ∨
    valueAt entries "text" "exclude" = none ∧ texts = ({} : Config).exclude

/-- The configuration holds what the document asks for, and defaults otherwise. -/
structure Reads (entries : List (Value × Value)) (c : Config) : Prop where
  exclude : AreTextsAt entries c.exclude
  parseMeta : IsFlagAt entries "text" "parse_meta" ({} : Config).parseMeta c.parseMeta
  typeCast : IsFlagAt entries "bridge" "type_cast" ({} : Config).typeCast c.typeCast
  coloredOutput : IsFlagAt entries "display" "colored_output" ({} : Config).coloredOutput c.coloredOutput

/-- The sections that the document has are tables. -/
def HasTables (entries : List (Value × Value)) : Prop :=
  ∀ part ∈ ["text", "bridge", "display"], ∀ v ∈ Value.lookupText entries part, v.entries?.isSome = true

/-- The defects that patterns of the document have are errors of these patterns. -/
def HasReportedDefects (m : Machine) (entries : List (Value × Value)) : Prop :=
  ∀ texts, AreTextsAt entries texts → ∀ p ∈ texts, ∀ e, Pattern.compile p false m = .error e →
    e.defect.isReported = true

/-- All patterns can be read. -/
def HasPatterns (m : Machine) (c : Config) : Prop :=
  ∀ p ∈ c.exclude, ∃ q, Pattern.compile p false m = .ok q

/-- What is warned of when the configuration is read. -/
def warnings (c : Config) : List String :=
  if c.exclude.isEmpty then [emptyWarning] else []

/-! ## Steps of reading -/

section

variable {m : Machine} {entries : List (Value × Value)}

/-- A failure that the document accounts for. -/
inductive Explains (m : Machine) (entries : List (Value × Value)) : Failure → Prop
  | fault {key : String} (reason : String) (h : Fault m entries key) :
      Explains m entries (.configInvalid (.text key) reason)
  | noTable (h : ¬ HasTables entries) : Explains m entries .wrongType
  | unreported (e : PatternError) (h : ¬ HasReportedDefects m entries) : Explains m entries (.ofPattern e)

/-- A step ends in a result that satisfies `P`, or in a failure that the document accounts for. -/
def Ends {α : Type} (m : Machine) (entries : List (Value × Value)) (x : Except Failure α)
    (P : α → Prop) : Prop :=
  (∃ a, x = .ok a ∧ P a) ∨ ∃ e, x = .error e ∧ Explains m entries e

theorem Ends.ok {α : Type} {a : α} {P : α → Prop} (h : P a) : Ends m entries (.ok a) P :=
  Or.inl ⟨a, rfl, h⟩

theorem Ends.error {α : Type} {e : Failure} {P : α → Prop} (h : Explains m entries e) :
    Ends m entries (.error e) P :=
  Or.inr ⟨e, rfl, h⟩

/-- What ends well goes on from what it ends with. -/
theorem Ends.bind {α β : Type} {x : Except Failure α} {f : α → Except Failure β} {P : α → Prop}
    {Q : β → Prop} (h : Ends m entries x P) (hf : ∀ a, P a → Ends m entries (f a) Q) :
    Ends m entries (x >>= f) Q := by
  rcases h with ⟨a, rfl, ha⟩ | ⟨e, rfl, he⟩
  · exact hf a ha
  · exact Ends.error he

/-- The setting that is looked up is the one that the document has. -/
theorem ends_setting? {part : String} (hpart : part ∈ ["text", "bridge", "display"]) (key : String) :
    Ends m entries (setting? ((Value.lookupText entries part).getD (.dict [])) key)
      (· = valueAt entries part key) := by
  rw [valueAt]
  cases hv : Value.lookupText entries part with
  | none => exact Ends.ok rfl
  | some v =>
    have hrefused (h : v.entries? = none) : Explains m entries .wrongType :=
      .noTable fun htables => by simpa [h] using htables part hpart v hv
    -- A section that is no table either has no settings or may not be asked for them.
    have habsent (found : Bool) (h : v.entries? = none) :
        Ends m entries (if found then .error .wrongType else .ok none) (· = (none : Option Value)) := by
      cases found with
      | false => exact Ends.ok rfl
      | true => exact Ends.error (hrefused h)
    cases v with
    | dict es => exact Ends.ok rfl
    | text s => exact habsent _ rfl
    | list items => exact habsent _ rfl
    | tuple items => exact habsent _ rfl
    | set items => exact habsent _ rfl
    | range start stop step => exact Ends.ok rfl
    | _ => exact Ends.error (hrefused rfl)

/-- A flag is read, or left at its default, or is no flag. -/
theorem ends_flag {part key : String} (hpart : part ∈ ["text", "bridge", "display"])
    (hflag : (part, key) ∈ flags) (default : Bool) :
    Ends m entries (flag ((Value.lookupText entries part).getD (.dict [])) part key default)
      (IsFlagAt entries part key default) := by
  refine (ends_setting? hpart key).bind fun found hfound => ?_
  have hwrong {v : Value} (hv : found = some v) (h : ∀ b, v ≠ .bool b) :
      Explains m entries (.configInvalid (.text (part ++ "." ++ key)) "must be a boolean") :=
    .fault _ (.notFlag hflag (hfound.symm.trans hv) h)
  cases found with
  | none => exact Ends.ok (Or.inr ⟨hfound.symm, rfl⟩)
  | some v =>
    cases v with
    | bool b => exact Ends.ok (Or.inl hfound.symm)
    | _ => exact Ends.error (hwrong rfl (by simp))

/-- Values that are all texts are these texts. -/
theorem mapM_text?_eq_some {items : List Value} {texts : List String} :
    items.mapM Value.text? = some texts ↔ items = texts.map .text := by
  induction items generalizing texts with
  | nil => cases texts <;> simp
  | cons v items ih =>
    rw [List.mapM_cons]
    cases v with
    | text s =>
      cases texts with
      | nil => simp [Value.text?, Option.bind_eq_some_iff]
      | cons t texts =>
        simp only [Value.text?, Option.bind_eq_bind, Option.bind_some, Option.bind_eq_some_iff,
          Option.pure_def, Option.some.injEq, List.cons.injEq, List.map_cons, Value.text.injEq, ih]
        constructor
        · rintro ⟨_, hitems, rfl, rfl⟩
          exact ⟨rfl, hitems⟩
        · rintro ⟨rfl, hitems⟩
          exact ⟨_, hitems, rfl, rfl⟩
    | _ => cases texts <;> simp [Value.text?]

/-- The texts of a value are read, or the value lists no texts. -/
theorem patternTexts_cases (v : Value) :
    (∃ texts, patternTexts v = .ok texts ∧ Lists v texts) ∨
      patternTexts v = patternTexts.invalid ∧ ∀ texts, ¬ Lists v texts := by
  cases v with
  | text s => exact Or.inl ⟨[s], rfl, .one s⟩
  | list items =>
    cases htexts : items.mapM Value.text? with
    | some texts =>
      obtain rfl := mapM_text?_eq_some.mp htexts
      refine Or.inl ⟨texts, ?_, .all texts⟩
      simp only [patternTexts, htexts]
    | none =>
      refine Or.inr ⟨by simp only [patternTexts, htexts], fun texts h => ?_⟩
      cases h with
      | all =>
        rw [mapM_text?_eq_some.mpr rfl] at htexts
        cases htexts
  | _ => exact Or.inr ⟨rfl, fun texts h => nomatch h⟩

/-- Patterns are read as texts, or are none. -/
theorem ends_patternTexts {v : Value} (hv : valueAt entries "text" "exclude" = some v) :
    Ends m entries (patternTexts v) (AreTextsAt entries) := by
  rcases patternTexts_cases v with ⟨texts, htexts, hlists⟩ | ⟨hinvalid, hwrong⟩
  · rw [htexts]
    exact Ends.ok (Or.inl ⟨v, hv, hlists⟩)
  · rw [hinvalid]
    exact Ends.error (.fault _ (.notTexts hv hwrong))

/-- The truth values are read behind the patterns. -/
theorem ends_flags (path : Option String) {exclude : List String} (hexclude : AreTextsAt entries exclude) :
    Ends m entries
      (do
        let read (part key : String) (default : Bool) : Except Failure Bool :=
          flag ((Value.lookupText entries part).getD (.dict [])) part key default
        let parseMeta ← read "text" "parse_meta" ({} : Config).parseMeta
        let typeCast ← read "bridge" "type_cast" ({} : Config).typeCast
        let coloredOutput ← read "display" "colored_output" ({} : Config).coloredOutput
        return ({ exclude, parseMeta, typeCast, coloredOutput, path } : Config))
      fun c => Reads entries c ∧ c.path = path := by
  refine (ends_flag (by simp) (by simp [flags]) _).bind fun parseMeta hparse => ?_
  refine (ends_flag (by simp) (by simp [flags]) _).bind fun typeCast hcast => ?_
  refine (ends_flag (by simp) (by simp [flags]) _).bind fun coloredOutput hcolored => ?_
  exact Ends.ok ⟨⟨hexclude, hparse, hcast, hcolored⟩, rfl⟩

/-- A document is read, or fails for what is at fault in it. -/
theorem ends_ofDocument (path : Option String) :
    Ends m entries (ofDocument path (.dict entries)) fun c => Reads entries c ∧ c.path = path := by
  refine (ends_setting? (by simp) "exclude").bind fun found hfound => ?_
  cases found with
  | none => exact ends_flags path (Or.inr ⟨hfound.symm, rfl⟩)
  | some v => exact (ends_patternTexts hfound.symm).bind fun exclude => ends_flags path

/-- No pattern is bad if all of them are patterns. -/
theorem badPattern?_eq_none {patterns : List String} :
    badPattern? patterns m = none ↔ ∀ p ∈ patterns, ∃ q, Pattern.compile p false m = .ok q := by
  rw [badPattern?, List.findSome?_eq_none_iff]
  refine forall₂_congr fun p _ => ?_
  cases Pattern.compile p false m with
  | ok q => simp
  | error e => simp

/-- The first bad pattern is told, with its defect. -/
theorem badPattern?_eq_some {patterns : List String} {p : String} {e : PatternError}
    (h : badPattern? patterns m = some (p, e)) : p ∈ patterns ∧ Pattern.compile p false m = .error e := by
  obtain ⟨q, hq, hfound⟩ := List.exists_of_findSome?_eq_some h
  split at hfound
  next => cases hfound
  next herror =>
    cases hfound
    exact ⟨hq, herror⟩

/-- Settings whose patterns are all patterns are valid, with their warnings. -/
theorem validate_of_hasPatterns {c : Config} (h : HasPatterns m c) : c.validate m = .ok (warnings c) := by
  rw [validate, badPattern?_eq_none.mpr h]
  rfl

/-- The default pattern of noise has no groups, but a repetition, which is a call of its own. -/
theorem compile_default (m : Machine) :
    Pattern.compile "^[^0-9].\x7b0,2\x7d$" false m = (Node.inner m.frames).map fun _ =>
      ⟨"^[^0-9].\x7b0,2\x7d$", { unicode := true },
        .seq (.anchor .lineStart) (.seq (.set true [.range 48 57])
          (.seq (.repeated 0 (some 2) .greedy .anyChar) (.anchor .lineEnd)))⟩ := by
  obtain ⟨frames, digits, character?⟩ := m
  cases frames with
  | zero => cbv
  | succ n => cbv

/-- A default pattern that cannot be read is not reported. -/
theorem not_isReported_of_default {p : String} (hp : p ∈ ({} : Config).exclude) {e : PatternError}
    (h : Pattern.compile p false m = .error e) : e.defect.isReported = false := by
  obtain rfl : p = "^[^0-9].\x7b0,2\x7d$" := by simpa using hp
  rw [compile_default] at h
  cases hframes : m.frames with
  | zero =>
    rw [hframes] at h
    obtain rfl := Except.error.inj h
    rfl
  | succ n =>
    rw [hframes] at h
    cases h

/-- Settings that are read are valid, or fail for what is at fault in the document. -/
theorem ends_validate {c : Config} (h : Reads entries c) :
    Ends m entries (c.validate m) fun ws => HasPatterns m c ∧ ws = warnings c := by
  cases hbad : badPattern? c.exclude m with
  | none =>
    have hpatterns : HasPatterns m c := badPattern?_eq_none.mp hbad
    rw [validate_of_hasPatterns hpatterns]
    exact Ends.ok ⟨hpatterns, rfl⟩
  | some found =>
    obtain ⟨p, e⟩ := found
    obtain ⟨hp, herror⟩ := badPattern?_eq_some hbad
    rw [validate, hbad]
    refine Ends.error ?_
    split
    next hreported =>
      rcases h.exclude with ⟨v, hv, hlists⟩ | ⟨-, hdefault⟩
      · exact .fault _ (.badPattern hv hlists hp herror)
      · rw [not_isReported_of_default (hdefault ▸ hp) herror] at hreported
        cases hreported
    next hunreported =>
      exact .unreported e fun hreports => hunreported (hreports c.exclude h.exclude p hp e herror)

/-- The configuration of a document, checked, and what is warned of. -/
def ofEntries (m : Machine) (path : Option String) (entries : List (Value × Value)) :
    Except Failure (Config × List String) :=
  ofDocument path (.dict entries) >>= (checked · m)

/-- A document is read as the configuration that it asks for, or refused with a failure that it accounts
for. -/
theorem ends_ofEntries (path : Option String) :
    Ends m entries (ofEntries m path entries) fun r =>
      Reads entries r.1 ∧ r.1.path = path ∧ HasPatterns m r.1 ∧ r.2 = warnings r.1 := by
  refine (ends_ofDocument path).bind fun c ⟨hreads, hpath⟩ => ?_
  refine (ends_validate hreads).bind fun ws ⟨hpatterns, hws⟩ => ?_
  exact Ends.ok ⟨hreads, hpath, hpatterns, hws⟩

/-! ## What a document asks for is one configuration -/

/-- A list is one of one list of texts. -/
theorem Lists.inj {v : Value} {texts texts' : List String} (h : Lists v texts) (h' : Lists v texts') :
    texts = texts' := by
  cases h with
  | one s =>
    cases h'
    rfl
  | all texts =>
    generalize hv : Value.list (texts.map .text) = v at h'
    cases h' with
    | one => cases hv
    | all => exact (List.map_inj_right fun _ _ h => Value.text.inj h).mp (Value.list.inj hv)

/-- A document that is read has no fault. -/
theorem not_fault_of_reads {c : Config} (h : Reads entries c) (hpatterns : HasPatterns m c) (key : String) :
    ¬ Fault m entries key := by
  have hexclude {v : Value} (hv : valueAt entries "text" "exclude" = some v) : Lists v c.exclude := by
    rcases h.exclude with ⟨w, hw, hlists⟩ | ⟨hnone, -⟩
    · obtain rfl := Option.some.inj (hv.symm.trans hw)
      exact hlists
    · cases hv.symm.trans hnone
  have hflag {part key : String} {default b : Bool} (hb : IsFlagAt entries part key default b) {v : Value}
      (hv : valueAt entries part key = some v) : v = .bool b := by
    rcases hb with hb | ⟨hnone, -⟩
    · exact Option.some.inj (hv.symm.trans hb)
    · cases hv.symm.trans hnone
  rintro (⟨hv, hwrong⟩ | ⟨hv, hlists, hp, hbad⟩ | ⟨hmem, hv, hwrong⟩)
  · exact hwrong _ (hexclude hv)
  · obtain rfl := hlists.inj (hexclude hv)
    obtain ⟨q, hq⟩ := hpatterns _ hp
    cases hbad.symm.trans hq
  · simp only [flags, List.mem_cons, Prod.mk.injEq, List.not_mem_nil, or_false] at hmem
    rcases hmem with ⟨rfl, rfl⟩ | ⟨rfl, rfl⟩ | ⟨rfl, rfl⟩
    · exact hwrong _ (hflag h.parseMeta hv)
    · exact hwrong _ (hflag h.typeCast hv)
    · exact hwrong _ (hflag h.coloredOutput hv)

end

/-- **Documents without a fault are configurations.** On any machine, let the sections of a document be
tables, and let the defects of its patterns be errors of these patterns. Then the document is refused if and
only if a setting is at fault, and the failure names such a setting. What it is read as otherwise holds what
it asks for. -/
theorem ofEntries_error_iff_fault (m : Machine) (path : Option String) (entries : List (Value × Value))
    (htables : HasTables entries) (hreported : HasReportedDefects m entries) :
    ((∃ e, ofEntries m path entries = .error e) ↔ ∃ key, Fault m entries key) ∧
      (∀ e, ofEntries m path entries = .error e →
        ∃ key reason, e = .configInvalid (.text key) reason ∧ Fault m entries key) ∧
      ∀ c ws, ofEntries m path entries = .ok (c, ws) →
        Reads entries c ∧ c.path = path ∧ HasPatterns m c ∧ ws = warnings c := by
  have hends : Ends m entries (ofEntries m path entries) _ := ends_ofEntries path
  rcases hends with
    ⟨⟨c, ws⟩, hread, hreads, hpath, hpatterns, hws⟩ | ⟨e, herror, hexplains⟩
  · rw [hread]
    have hnone : ¬ ∃ key, Fault m entries key := fun ⟨key, hfault⟩ =>
      not_fault_of_reads hreads hpatterns key hfault
    refine ⟨iff_of_false (by simp) hnone, by simp, ?_⟩
    rintro _ _ ⟨⟩
    exact ⟨hreads, hpath, hpatterns, hws⟩
  · obtain ⟨key, reason, rfl, hfault⟩ : ∃ key reason, e = .configInvalid (.text key) reason ∧
        Fault m entries key := by
      cases hexplains with
      | fault reason hfault => exact ⟨_, reason, rfl, hfault⟩
      | noTable h => exact absurd htables h
      | unreported e h => exact absurd hreported h
    rw [herror]
    refine ⟨iff_of_true ⟨_, rfl⟩ ⟨key, hfault⟩, ?_, by simp⟩
    rintro _ ⟨⟩
    exact ⟨key, reason, rfl, hfault⟩

/-- A pattern that cannot be read is a fault, behind one with flags, a look ahead and a group that is
referred to by its name. -/
theorem ofEntries_error_iff_fault_pattern :
    let entries : List (Value × Value) :=
      [(.text "text", .dict [(.text "exclude", .list [.text "(?i)(?=x)(?P<n>a)(?P=n)", .text "(b"])])]
    HasTables entries ∧ HasReportedDefects {} entries ∧ Fault {} entries "text.exclude" ∧
      ∃ e, ofEntries {} none entries = .error e ∧
        ∃ key reason, e = .configInvalid (.text key) reason ∧ Fault {} entries key := by
  intro entries
  have hvalue : valueAt entries "text" "exclude" =
      some (.list [.text "(?i)(?=x)(?P<n>a)(?P=n)", .text "(b"]) := rfl
  have hlists : Lists (.list [.text "(?i)(?=x)(?P<n>a)(?P=n)", .text "(b"])
      ["(?i)(?=x)(?P<n>a)(?P=n)", "(b"] := .all ["(?i)(?=x)(?P<n>a)(?P=n)", "(b"]
  have hgood : (Pattern.compile "(?i)(?=x)(?P<n>a)(?P=n)" false {}).isOk = true := by decide +kernel
  have hbad : Pattern.compile "(b" false {} = .error ⟨.unterminatedGroup, some 0⟩ := by cbv
  have htables : HasTables entries := by
    intro part hpart v hv
    simp only [List.mem_cons, List.not_mem_nil, or_false] at hpart
    rcases hpart with rfl | rfl | rfl
    · obtain rfl : _ = v := Option.some.inj hv
      rfl
    · cases hv
    · cases hv
  have hreported : HasReportedDefects {} entries := by
    rintro texts (⟨v, hv, htexts⟩ | ⟨hnone, -⟩) p hp e he
    · obtain rfl := Option.some.inj (hvalue.symm.trans hv)
      obtain rfl := htexts.inj hlists
      simp only [List.mem_cons, List.not_mem_nil, or_false] at hp
      rcases hp with rfl | rfl
      · rw [he] at hgood
        cases hgood
      · obtain rfl := Except.error.inj (hbad.symm.trans he)
        rfl
    · cases hvalue.symm.trans hnone
  have hfault : Fault {} entries "text.exclude" := .badPattern hvalue hlists (by simp) hbad
  obtain ⟨hiff, hfailure, -⟩ := ofEntries_error_iff_fault {} none entries htables hreported
  obtain ⟨e, he⟩ := hiff.mpr ⟨_, hfault⟩
  exact ⟨htables, hreported, hfault, e, he, hfailure e he⟩

/-- A section that is no table is not reported, nor is a pattern whose repetition has a number that is too
large, whose character has a code that is too large, or whose flags clash. -/
theorem section_not_reported :
    ofEntries {} none [(.text "text", .int 1)] = .error .wrongType ∧
      ofEntries {} none [(.text "text", .list [.text "exclude"])] = .error .wrongType ∧
      ofEntries {} none [(.text "text", .list [])] = .ok ({}, []) ∧
      ofEntries {} none [(.text "text", .dict [(.text "exclude", .text "a\x7b4294967296\x7d")])] =
        .error .tooLarge ∧
      ofEntries {} none [(.text "text", .dict [(.text "exclude", .text "\\UFFFFFFFF")])] =
        .error .tooLarge ∧
      ofEntries {} none [(.text "text", .dict [(.text "exclude", .text "(?a)(?u)x")])] =
        .error .badValue := by
  refine ⟨?_, ?_, ?_, ?_, ?_, ?_⟩
  all_goals cbv

end SearchQuery.Config
