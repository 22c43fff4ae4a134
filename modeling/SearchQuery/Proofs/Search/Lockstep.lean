import SearchQuery.Proofs.Search.Simulation

/-!
# Searches in lockstep

Two searches are alike if every name has the same value in both, whatever the order in which the values
were written. What a search does depends on nothing else: run on two searches that are alike, an operation
has the same result or the same failure, and leaves searches that are alike (`Lockstep.simulation`).

## What is left out

The identity of a NaN that has only just been made is told by a label, and labels are counted. Code that
makes a NaN, or stores one that a conversion makes, would see the count. `Steady` code does not.
-/

namespace SearchQuery

/-- Storing the value leaves it as it is: it is no NaN that was only just made. -/
def Value.IsSettled (v : Value) : Prop :=
  ∀ label, v.labelled label = v

/-- A label does not make a value an ignored one. -/
theorem Value.isIgnored_labelled (label : Nat) (v : Value) : (v.labelled label).isIgnored = v.isIgnored := by
  unfold labelled
  split <;> rfl

/-! ## Steady code -/

/-- No NaN may be made, and what is assigned to an attribute has to be settled as it is stored. -/
def Permit.steady (c : ClassView) : Permit :=
  { Permit.all with
    writes := fun name v => ∀ conversion w, c.member? name = some (.attribute conversion) →
      Search.stored conversion v = .ok w → w.IsSettled
    labels := False }

/-- All code that a search of the class can run is steady. -/
def ClassView.Steady (c : ClassView) : Prop :=
  c.Obeys (.steady c)

namespace Search

/-! ## Searches that are alike -/

/-- Every name has the same value in both searches. -/
structure Alike (s t : Search) : Prop where
  values : ∀ name, s.values.lookup name = t.values.lookup name
  extras : ∀ name, s.extras.lookup name = t.extras.lookup name

/-- The same result or the same failure, and searches that are alike. -/
abbrev Agree {α : Type} : EStateM.Result Failure Search α → EStateM.Result Failure Search α → Prop :=
  Matches Alike (· = ·)

/-- Run on searches that are alike, the computation does the same. -/
abbrev Lockstep {α : Type} (act : Searching α) : Prop :=
  Relates Alike (· = ·) act act

/-- An entry that is put in both lists is found in both. -/
theorem lookup_putEntry_congr {β : Type} {es fs : List (String × β)}
    (h : ∀ name, es.lookup name = fs.lookup name) (key : String) (value : β) (name : String) :
    (putEntry es key value).lookup name = (putEntry fs key value).lookup name := by
  by_cases hname : name = key
  · rw [hname, lookup_putEntry, lookup_putEntry]
  · rw [lookup_putEntry_ne _ _ hname, lookup_putEntry_ne _ _ hname, h]

namespace Lockstep

variable {c : ClassView}

/-- An assignment does the same where the value that is stored is settled. -/
theorem assign {name : String} {v : Value} (h : (Permit.steady c).writes name v) :
    Lockstep (assign c name v) := by
  rw [Search.assign]
  split
  next conversion hconversion =>
    intro s t hst
    cases hw : stored conversion v with
    | error e => exact .error rfl hst
    | ok w =>
      -- The labels of the two searches may differ, but a settled value takes neither.
      have hsettled : w.IsSettled := h conversion w hconversion hw
      refine .ok ⟨fun key => ?_, hst.extras⟩
      change (putEntry s.values name (w.labelled _)).lookup key =
        (putEntry t.values name (w.labelled _)).lookup key
      rw [hsettled, hsettled]
      exact lookup_putEntry_congr hst.values name w key
  next =>
    refine .ite (.throw rfl) (.modify fun _ _ hst => ⟨hst.values, ?_⟩)
    exact lookup_putEntry_congr hst.extras name v

/-- Steady code cannot tell searches that are alike from one another. -/
theorem simulation (c : ClassView) : Simulation (.steady c) c c Alike (· = ·) :=
  .ofSame c.depth (fun _ _ hst => hst.values) (fun _ _ hst => hst.extras) (fun _ => trivial)
    (fun _ _ => assign)
    (fun _ _ name hst => ⟨lookup_putEntry_congr hst.values name .ignored, hst.extras⟩)
    (fun _ _ _ hst => ⟨hst.values, hst.extras⟩) fun h => absurd h id

/-- All attributes are listed alike. -/
theorem attributes (c : ClassView) : Lockstep (attributes c) := by
  refine ((simulation c).read trivial).bind fun v => ?_
  split
  · exact .pure _
  · exact .throw rfl

/-- Searches that are alike compose the same options, or fail alike. -/
theorem findOptions (hc : c.Steady) : Lockstep (findOptions c) :=
  (simulation c).mergedBehind rfl hc (fun _ => trivial) ((simulation c).chain rfl hc (fun _ => trivial) _)

end Lockstep

end Search

end SearchQuery
