import SearchQuery.Proofs.Search.LastWrite

/-!
# What lasts through the life of a search

A search changes in four ways only: something is assigned to it, an attribute is marked as ignored, a line
is noted, and a label is given out. All that its operations do, and all that its class's own code does in
them, comes down to these. So what the four keep lasts: it holds of every search for as long as it is used
(`Lasts.used`), also where operations fail and leave what they have done so far.

## Shape of the argument

`Keeps` says of a computation that it keeps a predicate. That is to say that it simulates itself on searches
of which the predicate holds, so what is known of simulations carries over (`Lasts.simulation`).
-/

namespace SearchQuery

namespace Search

/-! ## Computations that keep a predicate -/

/-- Whatever the computation does to a search, and whether it fails or not, the predicate stays. -/
def Keeps {α : Type} (I : Search → Prop) (act : Searching α) : Prop :=
  ∀ s, I s → I (after act s)

/-- Both searches are one of which the predicate holds. -/
def Holding (I : Search → Prop) (s t : Search) : Prop :=
  s = t ∧ I s

/-- To keep a predicate is to simulate oneself where it holds. -/
theorem keeps_iff {α : Type} {I : Search → Prop} {act : Searching α} :
    Keeps I act ↔ Relates (Holding I) (· = ·) act act := by
  constructor
  · rintro h s _ ⟨rfl, hs⟩
    have hafter := h s hs
    rw [after] at hafter
    generalize act s = x at hafter ⊢
    cases x with
    | ok a s' => exact .ok ⟨rfl, hafter⟩
    | error e s' => exact .error rfl ⟨rfl, hafter⟩
  · intro h s hs
    have hact := h s s ⟨rfl, hs⟩
    rw [after]
    generalize act s = x at hact ⊢
    cases hact with
    | ok hs' => exact hs'.2
    | error _ hs' => exact hs'.2

/-- What no change of a search breaks, be it by an assignment that fails half-way. -/
structure Lasts (c : ClassView) (I : Search → Prop) : Prop where
  assign : ∀ name v, Keeps I (assign c name v)
  ignored : ∀ s name, I s → I { s with values := putEntry s.values name .ignored }
  journal : ∀ s journal, I s → I { s with journal }
  labels : ∀ s labels, I s → I { s with labels }

/-! ## Searches in use -/

/-- What can be done with a search: it is written to, code runs on its behalf, and it composes its
options, all of them or those of one attribute. -/
inductive Operation where
  | write (w : Write)
  | code (hook : Hook)
  | findOptionsFor (name : String)
  | findOptionsList
  | findOptions

/-- Run the operation. -/
def Operation.run (c : ClassView) : Operation → Searching Unit
  | write w => w.run c
  | code hook => do let _ ← hook.run c
  | findOptionsFor name => do let _ ← Search.findOptionsFor c name
  | findOptionsList => do let _ ← Search.findOptionsList c
  | findOptions => do let _ ← Search.findOptions c

/-- The search was made, and used in any way since. An operation that fails counts too, with what it
leaves. Lines and labels are shared with other searches, so they change by themselves. -/
inductive Used (c : ClassView) : Search → Prop
  | made {attributes : Value} {values : List (String × Value)} {s₀ s : Search} :
    s₀.values = [] → s₀.extras = [] → make c attributes values s₀ = .ok () s → Used c s
  | operated {s : Search} (op : Operation) : Used c s → Used c (after (op.run c) s)
  | beside {s : Search} (journal : List String) (labels : Nat) :
    Used c s → Used c { s with journal, labels }

namespace Lasts

variable {c : ClassView} {I : Search → Prop} (h : Lasts c I)

include h

/-- What lasts is kept by all code that a search runs. -/
theorem simulation : Simulation .all c c (Holding I) (· = ·) := by
  refine .ofSame c.depth ?_ ?_ (fun _ => trivial) (fun name v _ => keeps_iff.mp (h.assign name v)) ?_ ?_
    fun _ => keeps_iff.mp fun s hs => h.labels s _ hs
  · rintro s _ ⟨rfl, -⟩ name
    rfl
  · rintro s _ ⟨rfl, -⟩ name
    rfl
  · rintro s _ name ⟨rfl, hs⟩
    exact ⟨rfl, h.ignored s name hs⟩
  · rintro s _ line ⟨rfl, hs⟩
    exact ⟨rfl, h.journal s _ hs⟩

theorem make (attributes : Value) (values : List (String × Value)) :
    Keeps I (make c attributes values) := by
  have k := h.simulation
  refine keeps_iff.mpr ?_
  rw [Search.make]
  split
  · exact k.fail _
  · refine (k.lift _).bind fun given => (k.checkNames fun _ _ => trivial).bind fun _ => ?_
    exact .assignAll fun e _ => k.assign trivial

/-- **An operation keeps what lasts.** -/
theorem operation (op : Operation) : Keeps I (op.run c) := by
  have k := h.simulation
  have hchain := k.chain rfl c.obeys_all (fun _ => trivial) c.depth
  refine keeps_iff.mpr ?_
  cases op with
  | write w =>
    cases w with
    | assign name v => exact k.assign trivial
    | setAttributes v => exact k.setAttributes fun _ _ _ _ _ _ => ⟨trivial, trivial⟩
    | ignore name => exact k.ignore trivial
  | code hook => exact (k.run hook.obeys_all).bind fun _ => .pure _
  | findOptionsFor name =>
    exact (k.findOptionsFor trivial (fun _ => trivial) fun m _ _ => m.obeys_all).bind fun _ => .pure _
  | findOptionsList =>
    exact (k.listBehind rfl c.obeys_all (fun _ => trivial) hchain).bind fun _ => .pure _
  | findOptions => exact (k.mergedBehind rfl c.obeys_all (fun _ => trivial) hchain).bind fun _ => .pure _

/-- **What lasts holds for as long as a search is used**, if it holds when the search is made. -/
theorem used (hmade : ∀ attributes values s₀ s, s₀.values = [] → s₀.extras = [] →
      Search.make c attributes values s₀ = .ok () s → I s) {s : Search} (hs : Used c s) : I s := by
  induction hs with
  | made hvalues hextras hmake => exact hmade _ _ _ _ hvalues hextras hmake
  | operated op _ ih => exact h.operation op _ ih
  | beside journal labels _ ih => exact h.journal _ journal (h.labels _ labels ih)

end Lasts

end Search

end SearchQuery
