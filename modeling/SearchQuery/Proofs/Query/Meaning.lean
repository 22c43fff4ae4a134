import SearchQuery.Proofs.Fragment.Nesting
import SearchQuery.Proofs.Sql.Columns
import SearchQuery.Query.Criterion

/-!
# What the condition of a criterion means

The condition of a text criterion, read as SQL, holds of a row exactly if the row meets the criterion:
every mandatory keyword appears in some field, one of the negative keywords appears in none, and one
of the optional keywords appears in some field. A field that is `NULL` holds no keyword.

## Shape of the argument

A condition is built by combining, and a part without keywords has no text and drops out.
`Fragment.Asks row f P` covers both: the fragment asks for `P`, or it is empty and `P` holds anyway.
Parts that ask for facts combine to a whole that asks for all of them (`Asks.and`). Inside of a part
there are always texts to combine, because there are fields.
-/

namespace SearchQuery

open Sql

variable {α : Type} {row : Row α}

namespace Fragment

/-- Combined fragments are empty if both are. -/
theorem isEmpty_combine (a b : Fragment Value) (op : Connective) :
    (a.combine b op).isEmpty = (a.isEmpty && b.isEmpty) := by
  rw [combine]
  split
  next hb => rw [hb, Bool.and_true]
  next hb =>
    split
    next ha => rw [ha, Bool.true_and]
    next ha =>
      rw [Bool.not_eq_true] at ha hb
      rw [ha, hb]
      simp [isEmpty, parenthesized]

theorem isEmpty_combineAll {β : Type} (op : Connective) (xs : List β) (test : β → Fragment Value) :
    (combineAll op xs test).isEmpty = true ↔ ∀ x ∈ xs, (test x).isEmpty = true := by
  suffices h : ∀ f : Fragment Value,
      (xs.foldl (fun f x => f.combine (test x) op) f).isEmpty = true ↔
        f.isEmpty = true ∧ ∀ x ∈ xs, (test x).isEmpty = true by
    rw [combineAll, h]
    exact and_iff_right rfl
  induction xs with
  | nil => simp
  | cons x xs ih =>
    intro f
    rw [List.foldl_cons, ih, isEmpty_combine, Bool.and_eq_true, List.forall_mem_cons, and_assoc]

/-- A negated fragment is empty if it was. -/
theorem isEmpty_negate (a : Fragment Value) : a.negate.isEmpty = a.isEmpty := by
  rw [negate]
  split
  next => rfl
  next h =>
    rw [Bool.not_eq_true] at h
    rw [h]
    simp [isEmpty, parenthesized]

theorem mem_params_combine {a b : Fragment Value} {op : Connective} {v : Value}
    (h : v ∈ (a.combine b op).params) : v ∈ a.params ∨ v ∈ b.params := by
  rw [combine] at h
  split at h
  · exact Or.inl h
  · split at h
    · exact Or.inr h
    · exact List.mem_append.mp h

/-- A parameter of many combined tests is one of a test. -/
theorem mem_params_combineAll {β : Type} {op : Connective} {xs : List β} {test : β → Fragment Value}
    {v : Value} (h : v ∈ (combineAll op xs test).params) : ∃ x ∈ xs, v ∈ (test x).params := by
  -- The induction needs a fold from any start.
  have hfold : ∀ f : Fragment Value,
      v ∈ (xs.foldl (fun f x => f.combine (test x) op) f).params →
        v ∈ f.params ∨ ∃ x ∈ xs, v ∈ (test x).params := by
    clear h
    induction xs with
    | nil => exact fun f h => Or.inl h
    | cons x xs ih =>
      intro f h
      rcases ih _ h with h | ⟨y, hy, h⟩
      · rcases mem_params_combine h with h | h
        · exact Or.inl h
        · exact Or.inr ⟨x, List.mem_cons_self, h⟩
      · exact Or.inr ⟨y, List.mem_cons_of_mem x hy, h⟩
  rcases hfold .empty h with h | h
  · cases h
  · exact h

/-- The fragment is a condition that holds of the row exactly if `P` is true, or it is empty and `P` is
true. -/
def Asks (row : Row α) (f : Fragment Value) (P : Prop) : Prop :=
  f.isEmpty = true ∧ P ∨ ∃ t, f.truth? row = some t ∧ (t = .holds ↔ P)

/-- What is asked may be told in other words. -/
theorem Asks.congr {f : Fragment Value} {P Q : Prop} (h : f.Asks row P) (hPQ : P ↔ Q) :
    f.Asks row Q := by
  rwa [Asks, ← hPQ]

/-- Both are asked for where both fragments are joined. -/
theorem Asks.and {a b : Fragment Value} {P Q : Prop} (ha : a.Asks row P) (hb : b.Asks row Q) :
    (a.and b).Asks row (P ∧ Q) := by
  rw [Fragment.and]
  rcases hb with ⟨hempty, hQ⟩ | ⟨t, ht, hQ⟩
  · rw [combine, if_pos hempty, and_iff_left hQ]
    exact ha
  · have hfull := isEmpty_of_truth? ht
    rcases ha with ⟨hempty, hP⟩ | ⟨s, hs, hP⟩
    · rw [combine, hfull, hempty, and_iff_right hP]
      exact Or.inr ⟨t, ht, hQ⟩
    · refine Or.inr ⟨_, truth?_combine hs ht .and, ?_⟩
      rw [Truth.joinedBy, Truth.and_eq_holds, hP, hQ]

end Fragment

namespace Criterion

/-- The parameters of a condition are the patterns of the keywords that are looked for. -/
theorem mem_params_condition {c : Criterion} {fields : List String} {v : Value}
    (h : v ∈ (c.condition fields).params) :
    ∃ w ∈ c.keywords.mandatory ++ c.keywords.negative ++ c.keywords.optional,
      v = .text (containing w) := by
  have hpart : ∀ (op : Connective) (words : List String) (atom : String → String → Fragment Value),
      (∀ keyword field, (atom keyword field).params = [.text (containing keyword)]) →
      v ∈ (Fragment.combineAll op words fun word => anyField fields (atom word)).params →
        ∃ w ∈ words, v = .text (containing w) := by
    intro op words atom hatom hv
    obtain ⟨word, hword, hv⟩ := Fragment.mem_params_combineAll hv
    obtain ⟨field, -, hv⟩ := Fragment.mem_params_combineAll hv
    rw [hatom] at hv
    exact ⟨word, hword, List.mem_singleton.mp hv⟩
  rcases Fragment.mem_params_combine h with hv | hv
  · rcases Fragment.mem_params_combine hv with hv | hv
    · obtain ⟨w, hw, hvw⟩ := hpart .and _ appears (fun _ _ => rfl) hv
      exact ⟨w, List.mem_append_left _ (List.mem_append_left _ hw), hvw⟩
    · rw [Fragment.params_negate] at hv
      obtain ⟨w, hw, hvw⟩ := hpart .and _ appearsForSure (fun _ _ => rfl) hv
      exact ⟨w, List.mem_append_left _ (List.mem_append_right _ hw), hvw⟩
  · obtain ⟨w, hw, hvw⟩ := hpart .or _ appears (fun _ _ => rfl) hv
    exact ⟨w, List.mem_append_right _ hw, hvw⟩

/-- The condition of a keyword in a field that is not `NULL`. -/
theorem condition?_appearsForSure {field : String} (h : IsName field) (keyword : String) :
    (appearsForSure keyword field).condition? =
      some (.and (.not (.isNull field)) (.like field (.text (containing keyword)))) := by
  have hsql : (appearsForSure keyword field).sql =
      field ++ " " ++ ("IS NOT NULL AND" ++ " " ++ (field ++ " " ++ "LIKE ?")) := by
    have hopen : " IS NOT NULL AND " = " " ++ "IS NOT NULL AND" ++ " " := rfl
    have hclose : " LIKE ?" = " " ++ "LIKE ?" := rfl
    rw [appearsForSure, hopen, hclose]
    simp only [String.append_assoc]
  have hmiddle : symbols "IS NOT NULL AND" =
      [.keyword .is, .keyword .not, .keyword .null, .keyword .and] := by decide +kernel
  have hend : symbols "LIKE ?" = [.keyword .like, .mark] := by decide +kernel
  have hitems : Pushes (symbols (appearsForSure keyword field).sql) [.text (containing keyword)]
      [.symbol (.word field), .symbol (.keyword .is), .symbol (.keyword .not),
        .symbol (.keyword .null), .symbol (.keyword .and), .symbol (.word field),
        .symbol (.keyword .like), .value (.text (containing keyword))] := by
    rw [hsql, Fragment.symbols_behind_name h, symbols_space, Fragment.symbols_behind_name h, hmiddle,
      hend]
    rfl
  exact Fragment.condition?_of_pushes hitems rfl

/-- The keyword is found in a field of the row that is not `NULL`. -/
def FoundIn (row : Row α) (fields : List String) (keyword : String) : Prop :=
  ∃ field ∈ fields, ∃ x, row.column field = some x ∧ row.like x (.text (containing keyword)) = true

/-- The row meets the criterion. -/
structure Meets (c : Criterion) (row : Row α) (fields : List String) : Prop where
  mandatory : ∀ keyword ∈ c.keywords.mandatory, FoundIn row fields keyword
  negative : c.keywords.negative = [] ∨ ∃ keyword ∈ c.keywords.negative, ¬ FoundIn row fields keyword
  optional : c.keywords.optional = [] ∨ ∃ keyword ∈ c.keywords.optional, FoundIn row fields keyword

/-- A test for a keyword looks for it anywhere. -/
theorem truth?_appears {field : String} (h : IsName field) (keyword : String) :
    (appears keyword field).truth? row =
      some (row.test row.like field (.text (containing keyword))) := by
  rw [appears, Fragment.truth?, Fragment.condition?_like h]
  rfl

/-- In a field that is `NULL` the keyword fails to appear. -/
theorem truth?_appearsForSure {field : String} (h : IsName field) (keyword : String) :
    (appearsForSure keyword field).truth? row =
      some (.ofBool ((row.column field).any fun x => row.like x (.text (containing keyword)))) := by
  rw [Fragment.truth?, condition?_appearsForSure h, Option.map_some, Condition.truth, Condition.truth,
    Condition.truth, Condition.truth]
  cases hx : row.column field with
  | none => rfl
  | some x =>
    rw [Row.test_of_some hx row.like (by simp), Option.any_some]
    cases row.like x (.text (containing keyword)) <;> rfl

/-- A keyword is found if a field has it. -/
theorem foundIn_iff {fields : List String} {keyword : String} :
    FoundIn row fields keyword ↔
      (fields.any fun field =>
        (row.column field).any fun x => row.like x (.text (containing keyword))) = true := by
  simp [FoundIn, Option.any_eq_true]

section Parts

variable {c : Criterion} {fields : List String} (hne : fields ≠ [])
  (hnames : ∀ field ∈ fields, IsName field)

include hne hnames

/-- Some field has the keyword, or none has. -/
theorem truth?_anyField (keyword : String) :
    ∃ t, (anyField fields (appears keyword)).truth? row = some t ∧
      (t = .holds ↔ FoundIn row fields keyword) := by
  refine ⟨_, Fragment.truth?_combineAll hne (fun field hfield =>
    truth?_appears (hnames field hfield) keyword) .or, ?_⟩
  rw [← Truth.any, Truth.any_eq_holds, List.mem_map, FoundIn]
  refine exists_congr fun field => and_congr_right fun _ => ?_
  exact Row.test_eq_holds row.like (by simp)

/-- The mandatory part asks for every keyword. -/
theorem mandatoryPart_asks :
    (c.mandatoryPart fields).Asks row
      (∀ keyword ∈ c.keywords.mandatory, FoundIn row fields keyword) := by
  by_cases hnone : c.keywords.mandatory = []
  · refine Or.inl ⟨?_, ?_⟩
    · rw [mandatoryPart, hnone]
      rfl
    · rw [hnone]
      exact fun keyword h => by cases h
  have hfound : ∀ keyword, ∃ t, (anyField fields (appears keyword)).truth? row = some t ∧
      (t = .holds ↔ FoundIn row fields keyword) := truth?_anyField hne hnames
  choose t ht using hfound
  refine Or.inr ⟨_, Fragment.truth?_combineAll hnone (fun keyword _ => (ht keyword).1) .and, ?_⟩
  rw [← Truth.all, Truth.all_eq_holds, List.forall_mem_map]
  exact forall₂_congr fun keyword _ => (ht keyword).2

/-- The optional part asks for one of the keywords, if there are any. -/
theorem optionalPart_asks :
    (c.optionalPart fields).Asks row
      (c.keywords.optional = [] ∨ ∃ keyword ∈ c.keywords.optional, FoundIn row fields keyword) := by
  by_cases hnone : c.keywords.optional = []
  · refine Or.inl ⟨?_, Or.inl hnone⟩
    rw [optionalPart, hnone]
    rfl
  have hfound : ∀ keyword, ∃ t, (anyField fields (appears keyword)).truth? row = some t ∧
      (t = .holds ↔ FoundIn row fields keyword) := truth?_anyField hne hnames
  choose t ht using hfound
  refine Or.inr ⟨_, Fragment.truth?_combineAll hnone (fun keyword _ => (ht keyword).1) .or, ?_⟩
  rw [← Truth.any, Truth.any_eq_holds, List.mem_map, or_iff_right hnone]
  exact exists_congr fun keyword => and_congr_right fun _ => (ht keyword).2

/-- Negative keywords are looked for with a definite answer, whatever is `NULL`. -/
theorem truth?_negativePart (hsome : c.keywords.negative ≠ []) :
    (c.negativePart fields).truth? row =
      some (.ofBool (c.keywords.negative.all fun keyword => fields.any fun field =>
        (row.column field).any fun x => row.like x (.text (containing keyword)))) := by
  rw [← Truth.all_ofBool]
  refine Fragment.truth?_combineAll hsome (fun keyword _ => ?_) .and
  rw [← Truth.any_ofBool]
  exact Fragment.truth?_combineAll hne
    (fun field hfield => truth?_appearsForSure (hnames field hfield) keyword) .or

/-- The negative part asks that one of the keywords is not there, if there are any. -/
theorem negativePart_asks :
    (c.negativePart fields).negate.Asks row (c.keywords.negative = [] ∨
      ∃ keyword ∈ c.keywords.negative, ¬ FoundIn row fields keyword) := by
  by_cases hnone : c.keywords.negative = []
  · refine Or.inl ⟨?_, Or.inl hnone⟩
    rw [negativePart, hnone]
    rfl
  refine Or.inr ⟨_, Fragment.truth?_negate (truth?_negativePart hne hnames hnone), ?_⟩
  rw [Truth.not_ofBool, Truth.ofBool_eq_holds, or_iff_right hnone, Bool.not_eq_true',
    List.all_eq_false]
  simp only [foundIn_iff]

end Parts

/-- Keywords that are looked for in some fields leave a text. -/
theorem isEmpty_combineAll_anyField {fields : List String} (hne : fields ≠ [])
    {atom : String → String → Fragment Value}
    (hatom : ∀ keyword field, (atom keyword field).isEmpty = false) (op : Connective)
    (keywords : List String) :
    (Fragment.combineAll op keywords fun keyword => anyField fields (atom keyword)).isEmpty = true ↔
      keywords = [] := by
  rw [Fragment.isEmpty_combineAll]
  refine ⟨fun h => List.eq_nil_iff_forall_not_mem.mpr fun keyword hkeyword => ?_, fun h => ?_⟩
  · obtain ⟨field, hfield⟩ := List.exists_mem_of_ne_nil fields hne
    have hempty := (Fragment.isEmpty_combineAll .or fields (atom keyword)).mp (h keyword hkeyword)
      field hfield
    rw [hatom] at hempty
    cases hempty
  · rw [h]
    exact fun keyword h => by cases h

/-- The condition has no text exactly if there are no keywords to look for. -/
theorem isEmpty_condition (c : Criterion) {fields : List String} (hne : fields ≠ []) :
    (c.condition fields).isEmpty = true ↔
      c.keywords.mandatory = [] ∧ c.keywords.negative = [] ∧ c.keywords.optional = [] := by
  have happears : ∀ keyword field, (appears keyword field).isEmpty = false := fun keyword field => by
    simp [appears, Fragment.isEmpty]
  have hsure : ∀ keyword field, (appearsForSure keyword field).isEmpty = false :=
    fun keyword field => by simp [appearsForSure, Fragment.isEmpty]
  rw [condition, Fragment.and, Fragment.and, Fragment.isEmpty_combine, Fragment.isEmpty_combine,
    Fragment.isEmpty_negate, Bool.and_eq_true, Bool.and_eq_true, and_assoc]
  exact and_congr (isEmpty_combineAll_anyField hne happears .and _)
    (and_congr (isEmpty_combineAll_anyField hne hsure .and _)
      (isEmpty_combineAll_anyField hne happears .or _))

/-- The condition asks for what the criterion means. -/
theorem condition_asks (c : Criterion) {fields : List String} (hne : fields ≠ [])
    (hnames : ∀ field ∈ fields, IsName field) (row : Row α) :
    (c.condition fields).Asks row (c.Meets row fields) := by
  have hparts : (c.condition fields).Asks row _ :=
    ((mandatoryPart_asks hne hnames).and (negativePart_asks hne hnames)).and
      (optionalPart_asks (c := c) hne hnames)
  refine hparts.congr ⟨?_, ?_⟩
  · rintro ⟨⟨hmandatory, hnegative⟩, hoptional⟩
    exact ⟨hmandatory, hnegative, hoptional⟩
  · rintro ⟨hmandatory, hnegative, hoptional⟩
    exact ⟨⟨hmandatory, hnegative⟩, hoptional⟩

/-- **What a condition means.** Read as SQL, it holds of a row exactly if the row meets the criterion;
the negated part holds or fails, whatever fields are `NULL`. Without keywords there is no condition. -/
theorem condition_meaning (c : Criterion) {fields : List String} (hne : fields ≠ [])
    (hnames : ∀ field ∈ fields, IsName field) {α : Type} (row : Row α) :
    (c.keywords.mandatory = [] ∧ c.keywords.negative = [] ∧ c.keywords.optional = [] →
        c.condition fields = .empty) ∧
      (¬ (c.keywords.mandatory = [] ∧ c.keywords.negative = [] ∧ c.keywords.optional = []) →
        ∃ t, (c.condition fields).truth? row = some t ∧ (t = .holds ↔ c.Meets row fields)) ∧
      (c.keywords.negative ≠ [] →
        ∃ t, (c.negativePart fields).negate.truth? row = some t ∧ t ≠ .unknown) := by
  refine ⟨?_, ?_, ?_⟩
  · rintro ⟨hmandatory, hnegative, hoptional⟩
    simp only [condition, mandatoryPart, negativePart, optionalPart, hmandatory, hnegative, hoptional]
    rfl
  · intro hsome
    rw [← isEmpty_condition c hne] at hsome
    rcases condition_asks c hne hnames row with ⟨hempty, -⟩ | ⟨t, ht, hmeets⟩
    · exact absurd hempty hsome
    · exact ⟨t, ht, hmeets⟩
  · intro hsome
    refine ⟨_, Fragment.truth?_negate (truth?_negativePart hne hnames hsome), ?_⟩
    rw [Truth.not_ofBool]
    exact Truth.ofBool_ne_unknown _

/-- A row whose note is `NULL` meets a criterion with a negative keyword. -/
theorem condition_meaning_null_field :
    let c : Criterion := ⟨"+plum -jam", { mandatory := ["plum"], negative := ["jam"] }⟩
    let row : Row String :=
      { column := fun name => if name = "name" then some "plum tart" else none
        equal := fun _ _ => false
        compare := fun _ _ _ => false
        like := fun _ v => v.text? == some "%plum%" }
    ["name", "note"] ≠ [] ∧ (∀ field ∈ ["name", "note"], IsName field) ∧
      c.Meets row ["name", "note"] ∧ (c.condition ["name", "note"]).truth? row = some .holds := by
  intro c row
  have hnames : ∀ field ∈ ["name", "note"], IsName field := by decide +kernel
  obtain ⟨-, hmeaning, -⟩ := condition_meaning c (List.cons_ne_nil "name" ["note"]) hnames row
  have hmeets : c.Meets row ["name", "note"] :=
    { mandatory := by simp [FoundIn, c, row, containing, Value.text?]
      negative := by simp [FoundIn, c, row, containing, Value.text?]
      optional := Or.inl rfl }
  obtain ⟨t, ht, hholds⟩ := hmeaning (by simp [c])
  rw [hholds.mpr hmeets] at ht
  exact ⟨by simp, hnames, hmeets, ht⟩

end Criterion

end SearchQuery
