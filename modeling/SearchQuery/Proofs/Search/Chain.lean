import Mathlib
import SearchQuery.Proofs.Search.Contributed
import SearchQuery.Proofs.Search.Simulation

/-!
# The chain of callbacks

Before a search composes its options it runs the callbacks of its class, those that the class took over
from its parent first. A callback that answers false itself ends the chain. If none does, the hook of the
search runs, whatever it answers. Either way the options are composed from the state that is left then; a
failure on the way is the failure of the whole, in the state that it left.

## Shape of a run

A run is told by the callbacks that are passed (`Passes`) and by what stands at the end (`Ends`): a callback
that ends the chain, one that fails, or the search's own hook. What a single callback does goes by its kind
(`Callback.Does`), and for a text also by what can be called on the search at that moment. A callback that
composes the options itself does what composing does where this can be done one time less
(`again_succ`), so there is a chain of callbacks inside of the chain, which is told in the same way.

## Shape of the argument

* `Passes.runCallbacks_append` skips the callbacks that are passed, one by one.
* `exists_ends` finds the end of the chain, by induction on the callbacks.
* `Registry.Runs.callbacks_eq` follows the list of callbacks through the life of a class.
-/

namespace SearchQuery

/-! ## Single callbacks -/

/-- What a callback does to a search. A text is a call of what it names, if that can be called at this
moment, and an expression otherwise; what is neither text nor code cannot run. -/
inductive Callback.Does (c : ClassView) (s : Search) :
    Callback → EStateM.Result Failure Search Value → Prop
  | code {script : Script} {res} : script.run c (Search.again c c.depth) s = res → Does c s (.code script) res
  | called {name : String} {script : Script} {res} : Text.isIdentifier name = true →
    Search.isCallable c s name = true → Search.call c (Search.again c c.depth) name [] s = res →
    Does c s (.expression name script) res
  | evaluated {text : String} {script : Script} {res} :
    ¬ (Text.isIdentifier text = true ∧ Search.isCallable c s text = true) →
    script.run c (Search.again c c.depth) s = res → Does c s (.expression text script) res
  | unfit {v : Value} : v.isModel = false → Does c s (.value v) (.error (.invalidCallback v) s)
  | made {v : Value} : v.isModel = true → Does c s (.value v) (.error .wrongType s)

namespace Search

variable {c : ClassView} {s s₁ s' : Search} {callback : Callback} {front back callbacks : List Callback}

/-- An expression is a call of what it names, if that can be called, or its own code. -/
theorem runCallback_expression (again : Again) (text : String) (script : Script) :
    runCallback c again (.expression text script) s =
      if Text.isIdentifier text && isCallable c s text then call c again text [] s
      else script.run c again s := by
  rw [runCallback, estate_get_bind]
  split <;> rfl

/-- **What a callback does.** -/
theorem does_iff {res : EStateM.Result Failure Search Value} :
    callback.Does c s res ↔ runCallback c (again c c.depth) callback s = res := by
  constructor
  · intro h
    cases h with
    | code h => exact h
    | called hname hcallable h =>
      rw [runCallback_expression, hname, hcallable]
      exact h
    | evaluated hnot h =>
      rw [runCallback_expression, if_neg (by simpa using hnot)]
      exact h
    | unfit hv =>
      rw [runCallback, hv]
      rfl
    | made hv =>
      rw [runCallback, hv]
      rfl
  · intro h
    cases callback with
    | code script => exact .code h
    | expression text script =>
      rw [runCallback_expression] at h
      split at h
      next hcall =>
        rw [Bool.and_eq_true] at hcall
        exact .called hcall.1 hcall.2 h
      next hnot =>
        rw [Bool.and_eq_true] at hnot
        exact .evaluated hnot h
    | value v =>
      rw [runCallback] at h
      cases hv : v.isModel with
      | true =>
        rw [hv] at h
        subst h
        exact .made hv
      | false =>
        rw [hv] at h
        subst h
        exact .unfit hv

/-- Only false itself is false. -/
theorem isFalse_iff {v : Value} : isFalse v = true ↔ v = .bool false := by
  unfold isFalse
  split <;> simp_all

/-! ## Chains -/

/-- The callbacks run one after the other, and none of them answers false. What only counts as false is
passed like anything else. -/
inductive Passes (c : ClassView) : List Callback → Search → Search → Prop
  | nil {s : Search} : Passes c [] s s
  | cons {callback : Callback} {callbacks : List Callback} {s s₁ s' : Search} {v : Value} :
    callback.Does c s (.ok v s₁) → v ≠ .bool false → Passes c callbacks s₁ s' →
    Passes c (callback :: callbacks) s s'

/-- The search's own hook: what the class or the search itself has under that name, or nothing. -/
def ownHook (c : ClassView) : Searching Value :=
  orHiding c "before_find_options" (return .null)

/-- How the chain ends, and the state of the search then. -/
inductive Ends (c : ClassView) (callbacks : List Callback) (s : Search) :
    Except Failure Unit → Search → Prop
  | stopped {front : List Callback} {callback : Callback} {back : List Callback} {s₁ s' : Search} :
    callbacks = front ++ callback :: back → Passes c front s s₁ →
    callback.Does c s₁ (.ok (.bool false) s') → Ends c callbacks s (.ok ()) s'
  | failed {front : List Callback} {callback : Callback} {back : List Callback} {s₁ s' : Search}
    {e : Failure} : callbacks = front ++ callback :: back → Passes c front s s₁ →
    callback.Does c s₁ (.error e s') → Ends c callbacks s (.error e) s'
  | completed {s₁ s' : Search} {v : Value} : Passes c callbacks s s₁ → ownHook c s₁ = .ok v s' →
    Ends c callbacks s (.ok ()) s'
  | failedAtLast {s₁ s' : Search} {e : Failure} : Passes c callbacks s s₁ →
    ownHook c s₁ = .error e s' → Ends c callbacks s (.error e) s'

/-- Callbacks that are passed leave the rest of the chain to run. -/
theorem Passes.runCallbacks_append (h : Passes c front s s₁) (back : List Callback) :
    runCallbacks c (again c c.depth) (front ++ back) s = runCallbacks c (again c c.depth) back s₁ := by
  induction h with
  | nil => rfl
  | cons hdoes hv _ ih =>
    rw [List.cons_append, runCallbacks, estate_bind_eq, does_iff.mp hdoes]
    dsimp only
    rw [if_neg (mt isFalse_iff.mp hv), ih]

/-- Callbacks that are passed do not end the chain. -/
theorem Passes.runCallbacks (h : Passes c callbacks s s₁) :
    runCallbacks c (again c c.depth) callbacks s = .ok false s₁ := by
  have hall := h.runCallbacks_append []
  rwa [List.append_nil] at hall

/-- The callbacks and the hook run to the end of the chain. -/
theorem Ends.runBeforeFindOptions {outcome : Except Failure Unit}
    (h : Ends c c.schema.callbacks s outcome s') :
    runBeforeFindOptions c s = (lift outcome : Searching Unit) s' := by
  rw [Search.runBeforeFindOptions, runChain, estate_bind_eq]
  cases h with
  | stopped hsplit hpasses hdoes =>
    rw [hsplit, hpasses.runCallbacks_append, runCallbacks, estate_bind_eq, does_iff.mp hdoes]
    rfl
  | failed hsplit hpasses hdoes =>
    rw [hsplit, hpasses.runCallbacks_append, runCallbacks, estate_bind_eq, does_iff.mp hdoes]
    rfl
  | completed hpasses hown =>
    rw [hpasses.runCallbacks]
    change (ownHook c >>= fun _ => pure ()) _ = _
    rw [estate_bind_eq, hown]
    rfl
  | failedAtLast hpasses hown =>
    rw [hpasses.runCallbacks]
    change (ownHook c >>= fun _ => pure ()) _ = _
    rw [estate_bind_eq, hown]
    rfl

/-- A chain ends in no other way. -/
theorem Ends.unique {outcome outcome' : Except Failure Unit} {t : Search}
    (h : Ends c c.schema.callbacks s outcome s') (h' : Ends c c.schema.callbacks s outcome' t) :
    outcome' = outcome ∧ t = s' := by
  have heq : (lift outcome' : Searching Unit) t = (lift outcome : Searching Unit) s' :=
    h'.runBeforeFindOptions.symm.trans h.runBeforeFindOptions
  cases houtcome : outcome with
  | ok u =>
    rw [houtcome] at heq
    obtain ⟨rfl, rfl⟩ := Bridge.lift_eq_ok heq
    exact ⟨rfl, rfl⟩
  | error e =>
    rw [houtcome] at heq
    obtain ⟨rfl, rfl⟩ := Bridge.lift_eq_error heq
    exact ⟨rfl, rfl⟩

/-! ## Composing behind the chain -/

/-- The option-maps of all attributes that are not ignored, each checked by the bridge as it comes. -/
def collect (c : ClassView) : Searching (List Value) :=
  contributions c (fun v => (bridge c).bind fun b => b.validate v) c.schema.uniqueNames

/-- The option-maps of the attributes, merged by the bridge. -/
def compose (c : ClassView) : Searching Value := do
  let maps ← collect c
  lift ((bridge c).bind fun b => b.merge maps)

/-- What is collected is collected behind the chain. -/
theorem Ends.ownFindOptionsList {outcome : Except Failure Unit}
    (h : Ends c c.schema.callbacks s outcome s') :
    ownFindOptionsList c s = (lift outcome >>= fun _ => collect c) s' := by
  rw [ownFindOptionsList_def, estate_bind_eq, h.runBeforeFindOptions, estate_bind_eq]
  cases outcome <;> rfl

/-- Where nothing takes the place of the two operations, the options are composed behind the chain. -/
theorem Ends.findOptions {outcome : Except Failure Unit} (h : Ends c c.schema.callbacks s outcome s')
    (hoptions : callee? c s "find_options" = none) (hlist : callee? c s "find_options_list" = none) :
    findOptions c s = (lift outcome >>= fun _ => compose c) s' := by
  rw [findOptions_def, orHiding_eq hoptions, ownFindOptions_def, estate_bind_eq, optionMaps_eq hlist,
    h.ownFindOptionsList, estate_bind_eq, estate_bind_eq]
  cases outcome <;> rfl

/-! ## Chains inside of a chain -/

end Search

/-! ## Callbacks of a class -/

/-- The callbacks that an operation registers on a class. -/
def ClassOperation.registers (id : Nat) : ClassOperation → List Callback
  | addCallbacks i callbacks => if i = id then callbacks else []
  | _ => []

/-- An operation that registers no callbacks leaves those of the class. -/
theorem ClassOperation.Changes.callbacks_eq {c c' : SearchClass} {op : ClassOperation}
    (h : Changes c op c') (hop : ∀ i callbacks, op ≠ addCallbacks i callbacks) :
    c'.schema.callbacks = c.schema.callbacks := by
  cases h with
  | declared _ _ => exact SearchClass.withAttributes_callbacks c _
  | added _ => rfl
  | callbacks => exact absurd rfl (hop _ _)
  | bound _ _ _ _ => exact SearchClass.withAttributes_callbacks (c.bound _ _) _
  | restored _ _ _ _ => rfl

namespace Registry

variable {r r' : Registry} {id : Nat}

/-- An operation appends what it registers, and leaves the callbacks of every class that is there as they
are otherwise. -/
theorem callbacks_after_run (hid : id < r.classes.length) (op : ClassOperation) :
    ((after op.run r).find id).schema.callbacks = (r.find id).schema.callbacks ++ op.registers id := by
  by_cases hop : ∃ i callbacks, op = .addCallbacks i callbacks
  · obtain ⟨i, callbacks, rfl⟩ := hop
    change ((r.update i (·.withCallbacks callbacks)).find id).schema.callbacks = _
    rw [ClassOperation.registers]
    split
    next hi =>
      subst hi
      rw [find_update_self hid]
      rfl
    next hi => rw [find_update_ne r (Ne.symm hi), List.append_nil]
  · have hnot : ∀ i callbacks, op ≠ .addCallbacks i callbacks := by
      rintro i callbacks rfl
      exact hop ⟨i, callbacks, rfl⟩
    have hnone : op.registers id = [] := by
      cases op with
      | addCallbacks i callbacks => exact absurd rfl (hnot i callbacks)
      | _ => rfl
    rw [hnone, List.append_nil]
    obtain hfind | ⟨-, -, hchange⟩ | ⟨-, hlast, -⟩ := (op.steps r).find_cases id
    · rw [hfind]
    · exact hchange.callbacks_eq hnot
    · omega

/-- Through any run, the callbacks that a class has stay in front of those that are registered on it. -/
theorem Runs.callbacks_eq {ops : List ClassOperation} (h : r.Runs ops r') (hid : id < r.classes.length) :
    (r'.find id).schema.callbacks = (r.find id).schema.callbacks ++ ops.flatMap (·.registers id) := by
  have hboth : id < r'.classes.length ∧ (r'.find id).schema.callbacks =
      (r.find id).schema.callbacks ++ ops.flatMap (·.registers id) := by
    induction h with
    | nil => exact ⟨hid, (List.append_nil _).symm⟩
    | @snoc ops r' op _ _ ih =>
      obtain ⟨hlt, hcallbacks⟩ := ih
      refine ⟨lt_of_lt_of_le hlt (op.steps r').length_le, ?_⟩
      rw [callbacks_after_run hlt, hcallbacks, List.append_assoc, List.flatMap_append,
        List.flatMap_singleton]
  exact hboth.2

end Registry

/-- The text of an expression is told by its tree. -/
theorem Callback.text_eq {text : String} {e : Expression} (h : Expression.ofText text = .ok e) :
    Callback.text text = .expression text (e.scriptThen .done) := by
  rw [Callback.text, Expression.script, h]

end SearchQuery
