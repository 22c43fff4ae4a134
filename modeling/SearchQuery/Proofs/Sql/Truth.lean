import SearchQuery.Column.Condition

/-!
# Truth of SQL conditions

A condition of SQL holds of a row, fails, or is neither: a comparison with `NULL` is unknown, and the
connectives carry the unknown on. A search returns the rows of which its condition holds.

## Shape of a row

A row gives a value, or `NULL`, to each column. How a value compares with a parameter is left open:
the relations of a row are any relations between the values that are not `NULL` and the parameters.
-/

namespace SearchQuery.Sql

/-- The truth of a condition. -/
inductive Truth where
  | holds
  | fails
  | unknown
  deriving DecidableEq, Inhabited

namespace Truth

/-- The truth of an answer. -/
def ofBool (b : Bool) : Truth :=
  if b then holds else fails

/-- Both hold; one that fails decides. -/
def and : Truth → Truth → Truth
  | fails, _ => fails
  | _, fails => fails
  | holds, holds => holds
  | _, _ => unknown

/-- One of both holds; one that holds decides. -/
def or : Truth → Truth → Truth
  | holds, _ => holds
  | _, holds => holds
  | fails, fails => fails
  | _, _ => unknown

/-- What does not hold fails, and the other way round. The opposite of what is unknown is unknown too. -/
def not : Truth → Truth
  | holds => fails
  | fails => holds
  | unknown => unknown

/-- What a connective makes of two truths. -/
def joinedBy (op : Connective) (s t : Truth) : Truth :=
  match op with
  | .and => s.and t
  | .or => s.or t

/-- The truth that changes no other one under a connective. -/
def unit (op : Connective) : Truth :=
  match op with
  | .and => holds
  | .or => fails

/-- What a connective makes of any number of truths, from left to right. -/
def joined (op : Connective) (ts : List Truth) : Truth :=
  ts.foldl (joinedBy op) (unit op)

/-- All hold. -/
def all (ts : List Truth) : Truth :=
  joined .and ts

/-- One of them holds. -/
def any (ts : List Truth) : Truth :=
  joined .or ts

theorem ofBool_eq_holds {b : Bool} : ofBool b = holds ↔ b = true := by
  cases b <;> decide

theorem ofBool_ne_unknown (b : Bool) : ofBool b ≠ unknown := by
  cases b <;> decide

/-- The unit of a connective leaves what it is joined with. -/
theorem unit_joinedBy (op : Connective) (t : Truth) : joinedBy op (unit op) t = t := by
  cases op <;> cases t <;> rfl

theorem and_eq_holds {s t : Truth} : s.and t = holds ↔ s = holds ∧ t = holds := by
  cases s <;> cases t <;> decide

theorem or_eq_holds {s t : Truth} : s.or t = holds ↔ s = holds ∨ t = holds := by
  cases s <;> cases t <;> decide

theorem not_ofBool (b : Bool) : (ofBool b).not = ofBool !b := by
  cases b <;> rfl

/-- All hold if each of them does. -/
theorem all_eq_holds {ts : List Truth} : all ts = holds ↔ ∀ t ∈ ts, t = holds := by
  suffices h : ∀ s : Truth, ts.foldl (joinedBy .and) s = holds ↔ s = holds ∧ ∀ t ∈ ts, t = holds by
    rw [all, joined, h]
    simp [unit]
  induction ts with
  | nil => simp
  | cons t ts ih =>
    intro s
    rw [List.foldl_cons, ih, joinedBy, and_eq_holds, List.forall_mem_cons, and_assoc]

/-- Any holds if one of them does. -/
theorem any_eq_holds {ts : List Truth} : any ts = holds ↔ holds ∈ ts := by
  suffices h : ∀ s : Truth, ts.foldl (joinedBy .or) s = holds ↔ s = holds ∨ holds ∈ ts by
    rw [any, joined, h]
    simp [unit]
  induction ts with
  | nil => simp
  | cons t ts ih =>
    intro s
    rw [List.foldl_cons, ih, joinedBy, or_eq_holds, List.mem_cons, or_assoc, @eq_comm _ t]

/-- Conditions of which each holds or fails do so together. -/
theorem all_ofBool {β : Type} (test : β → Bool) (xs : List β) :
    all (xs.map fun x => ofBool (test x)) = ofBool (xs.all test) := by
  suffices h : ∀ b : Bool, (xs.map fun x => ofBool (test x)).foldl (joinedBy .and) (ofBool b) =
      ofBool (b && xs.all test) from h true
  induction xs with
  | nil => intro b; rw [List.all_nil, Bool.and_true]; rfl
  | cons x xs ih =>
    intro b
    have hstep : joinedBy .and (ofBool b) (ofBool (test x)) = ofBool (b && test x) := by
      cases b <;> cases test x <;> rfl
    rw [List.map_cons, List.foldl_cons, hstep, ih, List.all_cons, Bool.and_assoc]

theorem any_ofBool {β : Type} (test : β → Bool) (xs : List β) :
    any (xs.map fun x => ofBool (test x)) = ofBool (xs.any test) := by
  suffices h : ∀ b : Bool, (xs.map fun x => ofBool (test x)).foldl (joinedBy .or) (ofBool b) =
      ofBool (b || xs.any test) from h false
  induction xs with
  | nil => intro b; rw [List.any_nil, Bool.or_false]; rfl
  | cons x xs ih =>
    intro b
    have hstep : joinedBy .or (ofBool b) (ofBool (test x)) = ofBool (b || test x) := by
      cases b <;> cases test x <;> rfl
    rw [List.map_cons, List.foldl_cons, hstep, ih, List.any_cons, Bool.or_assoc]

end Truth

/-- The values of a row's columns, `none` for `NULL`, and how values compare with parameters. -/
structure Row (α : Type) where
  column : String → Option α
  equal : α → Value → Bool
  compare : Column.Comparison → α → Value → Bool
  like : α → Value → Bool

/-- A relation between the value of a column and a parameter; with `NULL` on either side nothing is
known. -/
def Row.test {α : Type} (row : Row α) (relation : α → Value → Bool) (column : String) (v : Value) :
    Truth :=
  match row.column column, v with
  | none, _ => .unknown
  | some _, .null => .unknown
  | some x, v => .ofBool (relation x v)

namespace Row

variable {α : Type} {row : Row α} {column : String} {v : Value}

/-- Where there is nothing, the test is unknown. -/
theorem test_of_none (hx : row.column column = none) (relation : α → Value → Bool) (v : Value) :
    row.test relation column v = .unknown := by
  unfold test
  rw [hx]

/-- Where there is a value, the test is what its relation says. -/
theorem test_of_some {x : α} (hx : row.column column = some x) (relation : α → Value → Bool)
    (hv : v ≠ .null) : row.test relation column v = .ofBool (relation x v) := by
  unfold test
  split
  next hnull =>
    rw [hx] at hnull
    cases hnull
  next => exact absurd rfl hv
  next y v hy _ =>
    rw [hx] at hy
    cases hy
    rfl

/-- A test holds for a value that is related. -/
theorem test_eq_holds (relation : α → Value → Bool) (hv : v ≠ .null) :
    row.test relation column v = .holds ↔ ∃ x, row.column column = some x ∧ relation x v = true := by
  cases hx : row.column column with
  | none => simp [test_of_none hx]
  | some x => simp [test_of_some hx relation hv, Truth.ofBool_eq_holds]

end Row

/-- A condition of SQL. -/
inductive Condition where
  | equal (column : String) (v : Value)
  | compare (c : Column.Comparison) (column : String) (v : Value)
  | like (column : String) (v : Value)
  | isNull (column : String)
  | isOneOf (column : String) (vs : List Value)
  | not (φ : Condition)
  | and (φ ψ : Condition)
  | or (φ ψ : Condition)
  deriving Inhabited

/-- The truth of a condition for a row. -/
def Condition.truth {α : Type} (row : Row α) : Condition → Truth
  | equal column v => row.test row.equal column v
  | compare c column v => row.test (row.compare c) column v
  | like column v => row.test row.like column v
  | isNull column => .ofBool (row.column column).isNone
  | isOneOf column vs => .any (vs.map (row.test row.equal column))
  | not φ => (φ.truth row).not
  | and φ ψ => (φ.truth row).and (ψ.truth row)
  | or φ ψ => (φ.truth row).or (ψ.truth row)

/-- The condition that a connective makes of two. -/
def Condition.joinedBy (op : Connective) (φ ψ : Condition) : Condition :=
  match op with
  | .and => .and φ ψ
  | .or => .or φ ψ

/-- A joined condition is as true as its parts are, joined. -/
theorem Condition.truth_joinedBy {α : Type} (row : Row α) (op : Connective) (φ ψ : Condition) :
    (joinedBy op φ ψ).truth row = Truth.joinedBy op (φ.truth row) (ψ.truth row) := by
  cases op <;> rfl

end SearchQuery.Sql
