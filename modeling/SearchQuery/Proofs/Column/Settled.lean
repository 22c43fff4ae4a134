import SearchQuery.Column.Cast

/-!
# Casting settles in one step

A caster tries a conversion, and passes a value through where the conversion fails for a cause that
every conversion may have. What is left are the failures of the machine: memory for a number, and nested
calls for a text (`Exhausts`). A caster fails exactly where its conversion runs out of the machine
(`tryCast_eq_error_iff`), and otherwise comes to `Column.cast` (`tryCast_eq_ok`). What comes out is `null`, a
value of the kind, or the value itself (`cast_cases`), and all three are left alone when they are cast again.

## Shape of the argument

Writing a value either meets a member that is nested too deep, or ends as on every other machine
(`Value.writtenOn_cases`). The other conversions fail for causes that are passed over, whatever the machine
(`IsPassedOver`), except that an integer may need more memory than there is.
-/

namespace SearchQuery

/-! ## Values that can be written -/

/-- A value that can be written is written as its text. -/
theorem Value.display_of_display? {v : Value} {s : String} (h : v.display? = some s) :
    v.display = s := by
  unfold display? at h
  split at h
  next => exact Option.some.inj h
  next =>
    split at h
    next => cases h
    next => exact Option.some.inj h

/-- Where a text cannot be read, there is none to read or it has no meaning. -/
theorem Value.bind_display?_eq_none {α : Type} {v : Value} {read : String → Option α}
    (h : read v.display = none) : v.display?.bind read = none := by
  rw [Option.bind_eq_none_iff]
  intro s hs
  rwa [← display_of_display? hs]

/-! ## What stops the writing of a value -/

namespace Value

/-- Two parts that are written one after the other. -/
theorem or_obstacle {first rest : Option Failure} {long more : Bool}
    (h : first = some .endlessRecursion ∨ first = if long then some .badValue else none)
    (hrest : rest = some .endlessRecursion ∨ rest = if more then some .badValue else none) :
    first.or rest = some .endlessRecursion ∨
      first.or rest = if (long || more) then some .badValue else none := by
  rcases h with rfl | rfl
  · exact Or.inl rfl
  · cases long with
    | true => exact Or.inr rfl
    | false => exact hrest

/-- A part that needs so many calls. -/
theorem ite_obstacle {frames needed : Nat} {inner : Option Failure} {long : Bool}
    (h : inner = some .endlessRecursion ∨ inner = if long then some .badValue else none) :
    (if frames < needed then some .endlessRecursion else inner) = some .endlessRecursion ∨
      (if frames < needed then some .endlessRecursion else inner) =
        if long then some .badValue else none := by
  split
  next => exact Or.inl rfl
  next => exact h

mutual

/-- **What stops the writing of a value.** It is nested too deep, or it holds an integer that is too long,
whatever the machine. -/
theorem obstacle?_cases (frames : Nat) : ∀ v : Value,
    v.obstacle? frames = some .endlessRecursion ∨
      v.obstacle? frames = if v.isTooLong then some .badValue else none
  | .int _ => by rw [obstacle?, isTooLong]; exact ite_obstacle (Or.inr rfl)
  | .range _ _ _ => by rw [obstacle?, isTooLong]; exact ite_obstacle (Or.inr rfl)
  | .list items => by
    rw [obstacle?, isTooLong]
    exact ite_obstacle (firstObstacle?_cases (frames - 1) items)
  | .tuple items => by
    rw [obstacle?, isTooLong]
    exact ite_obstacle (firstObstacle?_cases (frames - 1) items)
  | .set items => by
    rw [obstacle?, isTooLong]
    refine ite_obstacle ?_
    split
    next hempty =>
      rw [List.isEmpty_iff.mp hempty]
      exact Or.inr rfl
    next => exact ite_obstacle (firstObstacle?_cases (frames - 2) items)
  | .dict entries => by
    rw [obstacle?, isTooLong]
    exact ite_obstacle (firstEntryObstacle?_cases (frames - 1) entries)
  | .fragment f => by
    rw [obstacle?, isTooLong]
    exact ite_obstacle (paramsObstacle?_cases (frames - 3) f)
  | .null | .bool _ | .float _ | .decimal _ | .text _ | .date _ | .moment _ | .time _ | .duration _
  | .bytes _ | .ignored | .pattern _ | .model _ => ite_obstacle (Or.inr rfl)

/-- Of parameters, what keeps them from being written is their depth or their length. -/
theorem paramsObstacle?_cases (frames : Nat) : ∀ f : Fragment Value,
    paramsObstacle? frames f = some .endlessRecursion ∨
      paramsObstacle? frames f = if isFragmentTooLong f then some .badValue else none
  | ⟨_, params, _⟩ => firstObstacle?_cases (frames - 1) params

theorem firstObstacle?_cases (frames : Nat) : ∀ vs : List Value,
    firstObstacle? frames vs = some .endlessRecursion ∨
      firstObstacle? frames vs = if anyTooLong vs then some .badValue else none
  | [] => Or.inr rfl
  | v :: vs => or_obstacle (obstacle?_cases frames v) (firstObstacle?_cases frames vs)

theorem firstEntryObstacle?_cases (frames : Nat) : ∀ es : List (Value × Value),
    firstEntryObstacle? frames es = some .endlessRecursion ∨
      firstEntryObstacle? frames es = if anyEntryTooLong es then some .badValue else none
  | [] => Or.inr rfl
  | e :: es => or_obstacle (entryObstacle?_cases frames e) (firstEntryObstacle?_cases frames es)

theorem entryObstacle?_cases (frames : Nat) : ∀ e : Value × Value,
    entryObstacle? frames e = some .endlessRecursion ∨
      entryObstacle? frames e = if isEntryTooLong e then some .badValue else none
  | (k, v) => or_obstacle (obstacle?_cases frames k) (obstacle?_cases frames v)

end

/-- Writing a value runs out of the machine, or ends as on every other one. -/
theorem writtenOn_cases (m : Machine) (v : Value) :
    v.writtenOn m = .error .endlessRecursion ∨ v.writtenOn m = v.written := by
  have hobstacle := obstacle?_cases m.frames v
  cases v with
  | text s => exact Or.inr rfl
  | fragment f => exact Or.inr rfl
  | _ =>
    rcases hobstacle with h | h
    · exact Or.inl (by simp only [writtenOn, h])
    · refine Or.inr ?_
      simp only [writtenOn, h, written, display?]
      generalize isTooLong _ = long
      cases long <;> rfl

end Value

namespace Column

/-! ## Failures of conversions -/

/-- Whatever makes the computation fail is passed over. -/
def IsPassedOver {α : Type} (x : Except Failure α) : Prop :=
  ∀ e, x = .error e → passesOver e = true

namespace IsPassedOver

variable {α β : Type}

theorem ok (a : α) : IsPassedOver (.ok a) := by
  intro e h
  cases h

theorem error {e : Failure} (h : passesOver e = true) : IsPassedOver (.error e : Except Failure α) := by
  rintro e' h'
  cases h'
  exact h

theorem orFail {e : Failure} (h : passesOver e = true) (o : Option α) :
    IsPassedOver (Value.orFail e o) := by
  cases o with
  | some a => exact ok a
  | none => exact error h

/-- What is done with the value then may not fail otherwise. -/
theorem map {x : Except Failure α} (h : IsPassedOver x) (f : α → β) : IsPassedOver (x.map f) := by
  cases x with
  | ok a => exact ok (f a)
  | error e => exact error (h e rfl)

/-- Neither may one conversion behind the other. -/
theorem bind {x : Except Failure α} {f : α → Except Failure β} (h : IsPassedOver x)
    (hf : ∀ a, IsPassedOver (f a)) : IsPassedOver (x >>= f) := by
  cases x with
  | ok a => exact hf a
  | error e => exact error (h e rfl)

/-- A conversion to an integer is passed over where it fails. -/
theorem toInt (v : Value) : IsPassedOver v.toInt := by
  unfold Value.toInt
  split <;> first | exact ok _ | exact error rfl | exact orFail rfl _

/-- So is one to a float. -/
theorem toFloat (v : Value) : IsPassedOver v.toFloat := by
  unfold Value.toFloat
  split
  all_goals try split
  all_goals first | exact ok _ | exact error rfl | exact orFail rfl _

/-- A sign, digits and an exponent can each be no such thing, and make no number together. -/
theorem decimalOfParts (sign digits exponent : Value) :
    IsPassedOver (Value.decimalOfParts sign digits exponent) := by
  unfold Value.decimalOfParts
  refine bind (orFail rfl _) fun negative => ?_
  extract_lets finish
  have hfinish : ∀ special, IsPassedOver (finish special) := by
    intro special
    dsimp only [finish]
    split
    all_goals
      refine bind ?_ fun members => bind (orFail rfl _) fun ds => ?_
      · first | exact ok _ | exact error rfl
      · split
        next => split <;> exact ok _
        next => exact bind (toInt _) fun _ => orFail rfl _
  split
  next =>
    split
    next => exact bind (ok _) hfinish
    next => exact bind (error rfl) hfinish
  next => exact bind (ok _) hfinish
  next => exact bind (ok _) hfinish
  next => exact bind (error rfl) hfinish

/-- So is one to a decimal. -/
theorem toDecimal (v : Value) : IsPassedOver v.toDecimal := by
  unfold Value.toDecimal
  split
  all_goals first
    | exact ok _
    | exact error rfl
    | exact orFail rfl _
    | exact decimalOfParts _ _ _

/-- So is the text of a value. -/
theorem written (v : Value) : IsPassedOver v.written :=
  orFail rfl _

end IsPassedOver

/-! ## Conversions on a machine -/

variable {m : Machine}

/-- The conversion of a value to a kind runs out of the machine: the integer that it makes has more digits
than there is memory for, or the value is nested too deep to be written. -/
inductive Exhausts (m : Machine) : ColumnKind → Value → Failure → Prop
  | memory {v : Value} : m.digits < v.computedDigits → Exhausts m .int v .outOfMemory
  | stack {kind : ColumnKind} {v : Value} : kind ∈ [.text, .date, .moment, .time] →
    v.writtenOn m = .error .endlessRecursion → Exhausts m kind v .endlessRecursion

/-- The conversion is that of every other machine: what it makes is what the value converts to, and it
fails for a cause that is passed over. -/
def IsUnbounded (m : Machine) (kind : ColumnKind) (v : Value) : Prop :=
  (attempt m kind v).toOption.getD v = (convert? kind v).getD v ∧ IsPassedOver (attempt m kind v)

theorem toOption_map {α β : Type} (x : Except Failure α) (f : α → β) :
    (x.map f).toOption = x.toOption.map f := by
  cases x <;> rfl

/-- On a machine that can write the value, a text is read as it is without the machine. -/
theorem toOption_readText {α : Type} (read : String → Option α) {v : Value}
    (h : v.writtenOn m = v.written) : (readText m read v).toOption = v.display?.bind read := by
  rw [readText, h, Value.written]
  cases v.display? with
  | none => rfl
  | some s => cases h : read s <;> simp [Value.orFail, h, Except.toOption, bind, Except.bind]

/-- Then it is passed over where it cannot be read. -/
theorem readText_isPassedOver {α : Type} (read : String → Option α) {v : Value}
    (h : v.writtenOn m = v.written) : IsPassedOver (readText m read v) := by
  rw [readText, h]
  exact (IsPassedOver.written v).bind fun _ => .orFail rfl _

/-- A text that is read runs out of the machine, or is that of every other one. -/
theorem readText_cases {α : Type} (m : Machine) (read : String → Option α) (f : α → Value) (v : Value) :
    v.writtenOn m = .error .endlessRecursion ∧
        (readText m read v).map f = .error .endlessRecursion ∨
      ((readText m read v).map f).toOption.getD v = ((v.display?.bind read).map f).getD v ∧
        IsPassedOver ((readText m read v).map f) := by
  rcases v.writtenOn_cases m with h | h
  · refine Or.inl ⟨h, ?_⟩
    rw [readText, h]
    rfl
  · exact Or.inr ⟨by rw [toOption_map, toOption_readText read h], (readText_isPassedOver read h).map f⟩

/-- **How a conversion ends.** It runs out of the machine, or ends as on every other one. -/
theorem attempt_cases (m : Machine) (kind : ColumnKind) (v : Value) :
    (∃ e, Exhausts m kind v e ∧ attempt m kind v = .error e) ∨ IsUnbounded m kind v := by
  -- Dates, moments and times are read from the text of the value, and fail where it cannot be written.
  have hread : ∀ {α : Type} (read : String → Option α) (f : α → Value),
      kind ∈ [.text, .date, .moment, .time] → attempt m kind v = (readText m read v).map f →
      convert? kind v = (v.display?.bind read).map f →
      (∃ e, Exhausts m kind v e ∧ attempt m kind v = .error e) ∨ IsUnbounded m kind v := by
    intro α read f hkind hattempt hconvert
    rw [IsUnbounded, hattempt, hconvert]
    exact (readText_cases m read f v).imp_left fun ⟨h, herror⟩ => ⟨_, .stack hkind h, herror⟩
  cases kind with
  | bool => exact Or.inr ⟨rfl, .ok _⟩
  | moment => exact hread Iso.moment? .moment (by simp) rfl rfl
  | date => exact hread Iso.date? .date (by simp) rfl rfl
  | time => exact hread Iso.time? .time (by simp) rfl rfl
  | int =>
    rw [IsUnbounded, attempt, Value.toIntOn]
    split
    next h => exact Or.inl ⟨_, .memory h, rfl⟩
    next => exact Or.inr ⟨by rw [toOption_map, convert?], (IsPassedOver.toInt v).map _⟩
  | float => exact Or.inr ⟨by rw [attempt, convert?, toOption_map], (IsPassedOver.toFloat v).map _⟩
  | decimal => exact Or.inr ⟨by rw [attempt, convert?, toOption_map], (IsPassedOver.toDecimal v).map _⟩
  | text =>
    rw [IsUnbounded, attempt]
    rcases v.writtenOn_cases m with h | h
    · exact Or.inl ⟨_, .stack (by simp) h, by rw [h]; rfl⟩
    · rw [h]
      exact Or.inr ⟨by rw [toOption_map, convert?], (IsPassedOver.written v).map _⟩
  | duration => exact Or.inr ⟨rfl, .ok v⟩
  | bytes => exact Or.inr ⟨rfl, .ok v⟩
  | array => exact Or.inr ⟨rfl, .ok v⟩
  | identifier => exact Or.inr ⟨rfl, .ok v⟩
  | any => exact Or.inr ⟨rfl, .ok v⟩

/-- What exhausts the machine is not passed over. -/
theorem Exhausts.not_passesOver {kind : ColumnKind} {v : Value} {e : Failure} (h : Exhausts m kind v e) :
    passesOver e = false := by
  cases h <;> rfl

/-- What runs out of the machine fails, for one cause. -/
theorem Exhausts.attempt_eq {kind : ColumnKind} {v : Value} {e : Failure} (h : Exhausts m kind v e) :
    attempt m kind v = .error e := by
  cases h with
  | memory h => rw [attempt, Value.toIntOn, if_pos h]; rfl
  | stack hkind h =>
    simp only [List.mem_cons, List.not_mem_nil, or_false] at hkind
    rcases hkind with rfl | rfl | rfl | rfl <;> simp only [attempt, readText, h] <;> rfl

/-! ## What a cast makes -/

variable {kind : ColumnKind} {v w : Value}

/-- What is cast is kept, nothing, converted, or left as it was. -/
theorem cast_of_ne_null (h : v ≠ .null) :
    cast kind v =
      if kind.holds v then v else if isBlankText v then .null else (convert? kind v).getD v := by
  cases v with
  | null => exact absurd rfl h
  | _ => rfl

/-- What the column holds already is left as it is. -/
theorem cast_of_holds (h : kind.holds v = true) : cast kind v = v := by
  by_cases hnull : v = .null
  · rw [hnull, cast]
  · rw [cast_of_ne_null hnull, if_pos h]

/-- A cast converts the value: it is there, of another kind, and not blank. -/
structure IsConverted (kind : ColumnKind) (v : Value) : Prop where
  ne_null : v ≠ .null
  not_holds : kind.holds v = false
  not_blank : isBlankText v = false

/-- A conversion that is tried gives its value, or leaves the value where it fails for its text. -/
theorem IsConverted.tryCast_eq (h : IsConverted kind v) :
    tryCast m kind v = match attempt m kind v with
      | .ok w => .ok w
      | .error e => if passesOver e then .ok v else .error e := by
  rw [tryCast.eq_2 _ _ _ h.ne_null, h.not_holds, h.not_blank]
  rfl

/-- **How a cast ends.** It runs out of the machine, or comes to what it comes to on every machine. -/
theorem tryCast_cases (m : Machine) (kind : ColumnKind) (v : Value) :
    (∃ e, IsConverted kind v ∧ Exhausts m kind v e ∧ tryCast m kind v = .error e) ∨
      tryCast m kind v = .ok (cast kind v) := by
  by_cases hnull : v = .null
  · rw [hnull]
    exact Or.inr rfl
  cases hholds : kind.holds v with
  | true =>
    rw [tryCast.eq_2 _ _ _ hnull, cast_of_ne_null hnull, if_pos hholds, if_pos hholds]
    exact Or.inr rfl
  | false =>
    cases hblank : isBlankText v with
    | true =>
      rw [tryCast.eq_2 _ _ _ hnull, cast_of_ne_null hnull, hholds, hblank]
      exact Or.inr rfl
    | false =>
      have hconverted : IsConverted kind v := ⟨hnull, hholds, hblank⟩
      rw [hconverted.tryCast_eq, cast_of_ne_null hnull, hholds, hblank]
      obtain ⟨e, hexhausts, he⟩ | ⟨hmade, hpassed⟩ := attempt_cases m kind v
      · refine Or.inl ⟨e, hconverted, hexhausts, ?_⟩
        rw [he]
        exact if_neg (by rw [hexhausts.not_passesOver]; exact Bool.false_ne_true)
      · refine Or.inr ?_
        cases h : attempt m kind v with
        | ok w =>
          rw [h] at hmade
          exact congrArg Except.ok hmade
        | error e =>
          rw [h] at hmade
          exact (if_pos (hpassed e h)).trans (congrArg Except.ok hmade)

/-- **When a cast fails.** It does so exactly where the conversion runs out of the machine. -/
theorem tryCast_eq_error_iff {e : Failure} :
    tryCast m kind v = .error e ↔ IsConverted kind v ∧ Exhausts m kind v e := by
  constructor
  · intro h
    obtain ⟨e', hconverted, hexhausts, he⟩ | hok := tryCast_cases m kind v
    · cases he.symm.trans h
      exact ⟨hconverted, hexhausts⟩
    · cases hok.symm.trans h
  · rintro ⟨hconverted, hexhausts⟩
    rw [hconverted.tryCast_eq, hexhausts.attempt_eq]
    exact if_neg (by rw [hexhausts.not_passesOver]; exact Bool.false_ne_true)

/-- What is cast on a machine is what is cast without one. -/
theorem tryCast_eq_ok (h : tryCast m kind v = .ok w) : w = cast kind v := by
  obtain ⟨e, -, -, he⟩ | hok := tryCast_cases m kind v
  · cases he.symm.trans h
  · exact Except.ok.inj (h.symm.trans hok)

/-- What a value converts to is of the kind. -/
theorem holds_of_convert? (h : convert? kind v = some w) : kind.holds w = true := by
  cases kind with
  | duration => cases h
  | bytes => cases h
  | array => cases h
  | identifier => cases h
  | any => rfl
  | _ =>
    obtain ⟨a, -, rfl⟩ := Option.map_eq_some_iff.mp h
    rfl

/-- **What comes out.** A cast makes `null`, a value of the kind, or the value itself. -/
theorem cast_cases (kind : ColumnKind) (v : Value) :
    cast kind v = .null ∨ kind.holds (cast kind v) = true ∨ cast kind v = v := by
  by_cases hnull : v = .null
  · rw [hnull]
    exact Or.inl rfl
  rw [cast_of_ne_null hnull]
  split
  next hholds => exact Or.inr (Or.inl hholds)
  next =>
    split
    next => exact Or.inl rfl
    next =>
      cases hconvert : convert? kind v with
      | some w => exact Or.inr (Or.inl (holds_of_convert? hconvert))
      | none => exact Or.inr (Or.inr rfl)

/-- What the column holds is not converted. -/
theorem tryCast_of_holds (h : kind.holds v = true) : tryCast m kind v = .ok v := by
  by_cases hnull : v = .null
  · rw [hnull]
    rfl
  · rw [tryCast.eq_2 _ _ _ hnull, if_pos h]

/-- **A cast settles.** What comes out is left alone when it is cast again. -/
theorem tryCast_of_tryCast (h : tryCast m kind v = .ok w) : tryCast m kind w = .ok w := by
  obtain rfl := tryCast_eq_ok h
  obtain hnull | hholds | hself := cast_cases kind v
  · rw [hnull]
    rfl
  · exact tryCast_of_holds hholds
  · rw [hself] at h ⊢
    exact h

/-! ## Labels -/

/-- A label does not count for what a column holds. -/
theorem holds_labelled (kind : ColumnKind) (v : Value) (label : Nat) :
    kind.holds (v.labelled label) = kind.holds v := by
  unfold Value.labelled
  split
  next => cases kind <;> rfl
  next => cases kind <;> rfl
  next => rfl

theorem isBlankText_labelled (v : Value) (label : Nat) :
    isBlankText (v.labelled label) = isBlankText v := by
  unfold Value.labelled
  split <;> rfl

theorem labelled_eq_null_iff {label : Nat} : v.labelled label = .null ↔ v = .null := by
  unfold Value.labelled
  split <;> simp

/-- Whether a NaN can be converted does not depend on its label. -/
theorem isSome_convert?_labelled (kind : ColumnKind) (v : Value) (label : Nat) :
    (convert? kind (v.labelled label)).isSome = (convert? kind v).isSome := by
  unfold Value.labelled
  split
  next => cases kind <;> rfl
  next => cases kind <;> rfl
  next => rfl

/-- A value that a cast leaves alone is left alone with its label. -/
theorem cast_labelled (h : cast kind v = v) (label : Nat) :
    cast kind (v.labelled label) = v.labelled label := by
  by_cases hnull : v = .null
  · rw [hnull]
    rfl
  rw [cast_of_ne_null (mt labelled_eq_null_iff.mp hnull), holds_labelled, isBlankText_labelled]
  rw [cast_of_ne_null hnull] at h
  split
  next => rfl
  next hholds =>
    rw [if_neg hholds] at h
    split
    next hblank =>
      rw [if_pos hblank] at h
      exact absurd h.symm hnull
    next hblank =>
      rw [if_neg hblank] at h
      -- What the value converts to would be of the kind, and the value is not.
      have hnone : convert? kind v = none := by
        rw [Option.eq_none_iff_forall_not_mem]
        intro w hw
        rw [hw] at h
        exact hholds (h ▸ holds_of_convert? hw)
      have hlabelled := isSome_convert?_labelled kind v label
      rw [hnone, Option.isSome_none, Option.isSome_eq_false_iff, Option.isNone_iff_eq_none] at hlabelled
      rw [hlabelled]
      rfl

theorem computedDigits_labelled (v : Value) (label : Nat) :
    (v.labelled label).computedDigits = v.computedDigits := by
  unfold Value.labelled
  split <;> rfl

/-- A NaN runs out of the machine whatever its label is. -/
theorem writtenOn_labelled {label : Nat} (h : (v.labelled label).writtenOn m = .error .endlessRecursion) :
    v.writtenOn m = .error .endlessRecursion := by
  unfold Value.labelled at h
  split at h
  next =>
    by_cases hframes : m.frames < 1
    · simp [Value.writtenOn, Value.obstacle?, Value.leafFrames, hframes]
    · simp [Value.writtenOn, Value.obstacle?, Value.leafFrames, hframes] at h
  next =>
    by_cases hframes : m.frames < 1
    · simp [Value.writtenOn, Value.obstacle?, Value.leafFrames, hframes]
    · simp [Value.writtenOn, Value.obstacle?, Value.leafFrames, hframes] at h
  next => exact h

/-- A value that a cast leaves alone is left alone with its label. -/
theorem tryCast_labelled (h : tryCast m kind v = .ok v) (label : Nat) :
    tryCast m kind (v.labelled label) = .ok (v.labelled label) := by
  rw [← cast_labelled (tryCast_eq_ok h).symm label]
  obtain ⟨e, ⟨hnull, hholds, hblank⟩, hexhausts, -⟩ | hok := tryCast_cases m kind (v.labelled label)
  · -- The same would run out without the label.
    have hconverted : IsConverted kind v :=
      ⟨mt labelled_eq_null_iff.mpr hnull, by rw [← holds_labelled kind v label, hholds],
        by rw [← isBlankText_labelled v label, hblank]⟩
    have hsame : Exhausts m kind v e := by
      cases hexhausts with
      | memory hdigits => exact .memory (by rwa [computedDigits_labelled] at hdigits)
      | stack hkind hwritten => exact .stack hkind (writtenOn_labelled hwritten)
    cases h.symm.trans (tryCast_eq_error_iff.mpr ⟨hconverted, hsame⟩)
  · rw [cast_labelled (tryCast_eq_ok h).symm label] at hok ⊢
    exact hok

end Column

/-! ## Values that are nested too deep -/

/-- A list that holds a list, and so on, so many times. -/
def Value.nested : Nat → Value
  | 0 => .null
  | n + 1 => .list [nested n]

/-- It takes one call more than there are. -/
theorem Value.obstacle?_nested (n : Nat) : (nested n).obstacle? n = some .endlessRecursion := by
  induction n with
  | zero => rfl
  | succ n ih =>
    rw [nested, obstacle?, if_neg (by omega), firstObstacle?, Nat.add_sub_cancel, ih]
    rfl

/-- For every machine there is a list that is nested too deep to be written. -/
theorem Column.tryCast_nested {m : Machine} (hm : 0 < m.frames) :
    tryCast m .text (Value.nested m.frames) = .error .endlessRecursion := by
  obtain ⟨n, hn⟩ := Nat.exists_eq_succ_of_ne_zero (Nat.ne_of_gt hm)
  have hstops := Value.obstacle?_nested m.frames
  rw [hn, Value.nested] at hstops ⊢
  refine tryCast_eq_error_iff.mpr ⟨⟨by simp, rfl, rfl⟩, .stack (by simp) ?_⟩
  simp [Value.writtenOn, hn, hstops]

end SearchQuery
