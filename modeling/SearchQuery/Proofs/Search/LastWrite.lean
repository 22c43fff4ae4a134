import SearchQuery.Proofs.Search.Composed
import SearchQuery.Proofs.Search.Lockstep

/-!
# A search remembers the last writes

A search attribute is written when the search is made, by an assignment, by an assignment to several
attributes at once, and when it is ignored. All four store alike: a value goes through the conversion of
the attribute, once, and the mark of an ignored attribute does not. So a search that has been written to
is like one that is made from the last value written to each attribute (`last_write_wins`).

## Shape of the argument

`Holds` says what a search holds for the value written last to each name, be it an attribute or a name that
a method hides. Every write keeps it, and two searches that hold the same are alike.
-/

namespace SearchQuery

namespace Search

/-! ## Writes -/

/-- A write to a search. -/
inductive Write where
  | assign (name : String) (v : Value)
  | setAttributes (v : Value)
  | ignore (name : String)

/-- Run the write. -/
def Write.run (c : ClassView) : Write → Searching Unit
  | assign name v => Search.assign c name v
  | setAttributes v => Search.setAttributes c v
  | ignore name => Search.ignore c name

/-- Run writes one after the other. -/
def writeAll (c : ClassView) : List Write → Searching Unit
  | [] => return ()
  | w :: ws => do
    w.run c
    writeAll c ws

/-- The values that are written, as they are given. -/
def Write.raws : Write → List (String × Value)
  | assign name v => [(name, v)]
  | setAttributes (.dict entries) => (byName entries).toOption.getD []
  | setAttributes _ => []
  | ignore name => [(name, .ignored)]

/-- The write is to search attributes, and what it ignores is not hidden by a method. -/
def Write.Known (c : ClassView) : Write → Prop
  | assign name _ => c.schema.declares name = true
  | setAttributes _ => True
  | ignore name => ∃ conversion, c.member? name = some (.attribute conversion)

/-- The value that was written last to each name, after others or none. -/
def overwritten (raw : String → Option Value) (entries : List (String × Value)) (name : String) :
    Option Value :=
  (entries.reverse.lookup name).or (raw name)

/-- The value that was given last to a name, by a write or else when the search was made. -/
def lastRaw (supplied : List (String × Value)) (ws : List Write) : String → Option Value :=
  overwritten (fun name => List.lookup name supplied) (ws.flatMap Write.raws)

/-- Values that are written later count. -/
theorem overwritten_append (raw : String → Option Value) (es fs : List (String × Value)) :
    overwritten raw (es ++ fs) = overwritten (overwritten raw es) fs := by
  funext name
  rw [overwritten, overwritten, overwritten, List.reverse_append, List.lookup_append, Option.or_assoc]

theorem overwritten_self (raw : String → Option Value) (name : String) (v : Value) :
    overwritten raw [(name, v)] name = some v := by
  simp [overwritten]

theorem overwritten_ne (raw : String → Option Value) {name other : String} (h : other ≠ name)
    (v : Value) : overwritten raw [(name, v)] other = raw other := by
  simp [overwritten, List.lookup_cons, beq_false_of_ne h]

/-! ## What a search holds -/

/-- The search holds, for each name, what the value that was written last makes. -/
structure Holds (c : ClassView) (raw : String → Option Value) (s : Search) : Prop where
  absent : ∀ name, raw name = none → s.values.lookup name = none ∧ s.extras.lookup name = none
  stored : ∀ name v conversion, raw name = some v → c.member? name = some (.attribute conversion) →
    s.extras.lookup name = none ∧
      ∃ w label, stored conversion v = .ok w ∧ s.values.lookup name = some (w.labelled label)
  hidden : ∀ name v, raw name = some v → (∀ conversion, c.member? name ≠ some (.attribute conversion)) →
    s.values.lookup name = none ∧ s.extras.lookup name = some v ∧
      (name = "attributes" → hidesAttributes c = true)

variable {c : ClassView} {raw : String → Option Value} {s s' t t' : Search} {name : String} {v : Value}

/-- What is assigned to a name that is no attribute is kept as it is. -/
theorem assign_of_hidden (h : ∀ conversion, c.member? name ≠ some (.attribute conversion)) (v : Value)
    (s : Search) :
    assign c name v s =
      if name = "attributes" ∧ hidesAttributes c = false then .error .noAttribute s
      else .ok () { s with extras := putEntry s.extras name v } := by
  have hrun : assign c name v =
      if name == "attributes" && !hidesAttributes c then throw .noAttribute
      else modify fun s => { s with extras := putEntry s.extras name v } := by
    rw [assign]
    rcases hm : c.member? name with - | (conversion | ⟨_, _⟩ | _)
    · rfl
    · exact absurd hm (h conversion)
    · rfl
    · rfl
  rw [hrun]
  by_cases hname : name = "attributes" ∧ hidesAttributes c = false
  · rw [if_pos (by simpa using hname), if_pos hname]
    rfl
  · rw [if_neg (by simpa using hname), if_neg hname]
    rfl

/-- An assignment stores in an attribute, or else under the name of the search itself. -/
theorem assign_eq_ok (h : assign c name v s = .ok () s') :
    (∃ conversion w label, c.member? name = some (.attribute conversion) ∧
      stored conversion v = .ok w ∧ s'.values = putEntry s.values name (w.labelled label) ∧
      s'.extras = s.extras) ∨
    ((∀ conversion, c.member? name ≠ some (.attribute conversion)) ∧
      (name = "attributes" → hidesAttributes c = true) ∧ s'.values = s.values ∧
      s'.extras = putEntry s.extras name v) := by
  by_cases hattribute : ∃ conversion, c.member? name = some (.attribute conversion)
  · obtain ⟨conversion, hconversion⟩ := hattribute
    obtain ⟨w, hw, rfl⟩ := (assign_attribute_eq_ok_iff hconversion).mp h
    exact Or.inl ⟨conversion, w, _, hconversion, hw, rfl, rfl⟩
  · rw [not_exists] at hattribute
    rw [assign_of_hidden hattribute] at h
    split at h
    next => cases h
    next hname =>
      cases h
      refine Or.inr ⟨hattribute, fun heq => ?_, rfl, rfl⟩
      rw [← Bool.not_eq_false]
      exact fun hhides => hname ⟨heq, hhides⟩

namespace Holds

/-- A write to one name leaves what is held under all others. -/
theorem overwritten (h : Holds c raw s)
    (hvalues : ∀ other, other ≠ name → s'.values.lookup other = s.values.lookup other)
    (hextras : ∀ other, other ≠ name → s'.extras.lookup other = s.extras.lookup other)
    (hstored : ∀ conversion, c.member? name = some (.attribute conversion) →
      s'.extras.lookup name = none ∧
        ∃ w label, Search.stored conversion v = .ok w ∧
          s'.values.lookup name = some (w.labelled label))
    (hhidden : (∀ conversion, c.member? name ≠ some (.attribute conversion)) →
      s'.values.lookup name = none ∧ s'.extras.lookup name = some v ∧
        (name = "attributes" → hidesAttributes c = true)) :
    Holds c (Search.overwritten raw [(name, v)]) s' := by
  refine ⟨fun other hraw => ?_, fun other v' conversion hraw hmember => ?_, fun other v' hraw hmember => ?_⟩
  · by_cases hname : other = name
    · rw [hname, overwritten_self] at hraw
      cases hraw
    · rw [overwritten_ne raw hname] at hraw
      rw [hvalues other hname, hextras other hname]
      exact h.absent other hraw
  · by_cases hname : other = name
    · subst hname
      rw [overwritten_self] at hraw
      cases hraw
      exact hstored conversion hmember
    · rw [overwritten_ne raw hname] at hraw
      rw [hvalues other hname, hextras other hname]
      exact h.stored other v' conversion hraw hmember
  · by_cases hname : other = name
    · subst hname
      rw [overwritten_self] at hraw
      cases hraw
      exact hhidden hmember
    · rw [overwritten_ne raw hname] at hraw
      rw [hvalues other hname, hextras other hname]
      exact h.hidden other v' hraw hmember

/-- Nothing is held under a name on the side where the class does not store it. -/
theorem extras_eq_none (h : Holds c raw s) {conversion : Option Conversion}
    (hmember : c.member? name = some (.attribute conversion)) : s.extras.lookup name = none := by
  cases hraw : raw name with
  | none => exact (h.absent name hraw).2
  | some v => exact (h.stored name v conversion hraw hmember).1

/-- What is no attribute holds no value. -/
theorem values_eq_none (h : Holds c raw s)
    (hmember : ∀ conversion, c.member? name ≠ some (.attribute conversion)) :
    s.values.lookup name = none := by
  cases hraw : raw name with
  | none => exact (h.absent name hraw).1
  | some v => exact (h.hidden name v hraw hmember).1

/-- An assignment is the last write to its name. -/
theorem assign (h : Holds c raw s) (hassign : Search.assign c name v s = .ok () s') :
    Holds c (Search.overwritten raw [(name, v)]) s' := by
  obtain ⟨conversion, w, label, hmember, hw, hvalues, hextras⟩ | ⟨hmember, hname, hvalues, hextras⟩ :=
    assign_eq_ok hassign
  · refine h.overwritten (fun other hne => ?_) (fun other _ => by rw [hextras]) (fun conversion' h' => ?_)
      fun hhidden => absurd hmember (hhidden conversion)
    · rw [hvalues, lookup_putEntry_ne _ _ hne]
    · rw [hmember] at h'
      cases h'
      refine ⟨by rw [hextras]; exact h.extras_eq_none hmember, w, label, hw, ?_⟩
      rw [hvalues, lookup_putEntry]
  · refine h.overwritten (fun other _ => by rw [hvalues]) (fun other hne => ?_)
      (fun conversion h' => absurd h' (hmember conversion)) fun _ => ⟨?_, ?_, hname⟩
    · rw [hextras, lookup_putEntry_ne _ _ hne]
    · rw [hvalues]
      exact h.values_eq_none hmember
    · rw [hextras, lookup_putEntry]

/-- So is each of several assignments. -/
theorem assignAll (h : Holds c raw s) {entries : List (String × Value)}
    (hassign : Search.assignAll c entries s = .ok () s') :
    Holds c (Search.overwritten raw entries) s' := by
  induction entries generalizing raw s with
  | nil =>
    cases hassign
    exact h
  | cons e entries ih =>
    obtain ⟨_, s₁, hfirst, hrest⟩ := estate_bind_eq_ok.mp hassign
    rw [← List.singleton_append, overwritten_append]
    exact ih (h.assign hfirst) hrest

/-- An attribute that is ignored stores the mark, which no conversion changes. -/
theorem ignore (h : Holds c raw s) (hknown : ∃ conversion, c.member? name = some (.attribute conversion))
    (hignore : Search.ignore c name s = .ok () s') :
    Holds c (Search.overwritten raw [(name, .ignored)]) s' := by
  obtain ⟨conversion, hmember⟩ := hknown
  obtain ⟨_, s₁, hown, hrest⟩ := estate_bind_eq_ok.mp hignore
  obtain ⟨-, rfl⟩ := ownOnly_eq_ok_iff.mp hown
  obtain ⟨_, s₂, hcheck, hmodify⟩ := estate_bind_eq_ok.mp hrest
  obtain ⟨-, rfl⟩ := checkNames_eq_ok_iff.mp hcheck
  cases hmodify
  refine h.overwritten (fun other hne => lookup_putEntry_ne _ _ hne) (fun _ _ => rfl) (fun conversion' _ => ?_)
    fun hhidden => absurd hmember (hhidden conversion)
  refine ⟨h.extras_eq_none hmember, .ignored, 0, ?_, lookup_putEntry _ _ _⟩
  cases conversion' <;> rfl

/-- So is each entry of a mapping that is assigned. -/
theorem setAttributes (h : Holds c raw s) (hset : Search.setAttributes c v s = .ok () s') :
    Holds c (Search.overwritten raw (Write.setAttributes v).raws) s' := by
  obtain ⟨_, s₁, hown, hrest⟩ := estate_bind_eq_ok.mp hset
  obtain ⟨-, rfl⟩ := ownOnly_eq_ok_iff.mp hown
  cases v with
  | dict entries =>
    obtain ⟨named, s₂, hlift, hchecked⟩ := estate_bind_eq_ok.mp hrest
    obtain ⟨hnamed, rfl⟩ := Bridge.lift_eq_ok hlift
    obtain ⟨_, s₃, hcheck, hassign⟩ := estate_bind_eq_ok.mp hchecked
    obtain ⟨-, rfl⟩ := checkNames_eq_ok hcheck
    rw [Write.raws, hnamed]
    exact h.assignAll hassign
  | _ => cases hrest

/-- **A write keeps what is held.** -/
theorem write (h : Holds c raw s) {w : Write} (hw : w.Known c) (hrun : w.run c s = .ok () s') :
    Holds c (Search.overwritten raw w.raws) s' := by
  cases w with
  | assign name v => exact h.assign hrun
  | setAttributes v => exact h.setAttributes hrun
  | ignore name => exact h.ignore hw hrun

/-- All writes are remembered, each by the last one to its name. -/
theorem writeAll (h : Holds c raw s) {ws : List Write} (hws : ∀ w ∈ ws, w.Known c)
    (hrun : Search.writeAll c ws s = .ok () s') :
    Holds c (Search.overwritten raw (ws.flatMap Write.raws)) s' := by
  induction ws generalizing raw s with
  | nil =>
    cases hrun
    exact h
  | cons w ws ih =>
    rw [List.forall_mem_cons] at hws
    obtain ⟨_, s₁, hfirst, hrest⟩ := estate_bind_eq_ok.mp hrun
    rw [List.flatMap_cons, overwritten_append]
    exact ih (h.write hws.1 hfirst) hws.2 hrest

/-- Two searches that hold the same are alike, unless a conversion makes a NaN. -/
theorem alike (hs : Holds c raw s) (ht : Holds c raw t)
    (hsettled : ∀ name v conversion w, raw name = some v → c.member? name = some (.attribute conversion) →
      Search.stored conversion v = .ok w → w.IsSettled) : Alike s t := by
  refine ⟨fun name => ?_, fun name => ?_⟩
  all_goals
    cases hraw : raw name with
    | none =>
      obtain ⟨hsv, hse⟩ := hs.absent name hraw
      obtain ⟨htv, hte⟩ := ht.absent name hraw
      simp only [hsv, hse, htv, hte]
    | some v =>
      by_cases hattribute : ∃ conversion, c.member? name = some (.attribute conversion)
      · obtain ⟨conversion, hmember⟩ := hattribute
        obtain ⟨hse, w, label, hw, hsv⟩ := hs.stored name v conversion hraw hmember
        obtain ⟨hte, w', label', hw', htv⟩ := ht.stored name v conversion hraw hmember
        rw [hw] at hw'
        cases hw'
        -- The labels that the searches have counted up to may differ.
        have hw : w.IsSettled := hsettled name v conversion w hraw hmember hw
        simp only [hse, hte, hsv, htv, hw label, hw label']
      · rw [not_exists] at hattribute
        obtain ⟨hsv, hse, -⟩ := hs.hidden name v hraw hattribute
        obtain ⟨htv, hte, -⟩ := ht.hidden name v hraw hattribute
        simp only [hsv, hse, htv, hte]

/-- What is held can be written again, to any search. -/
theorem exists_assign (h : Holds c raw s) (hraw : raw name = some v) (t : Search) :
    ∃ t', Search.assign c name v t = .ok () t' := by
  by_cases hattribute : ∃ conversion, c.member? name = some (.attribute conversion)
  · obtain ⟨conversion, hmember⟩ := hattribute
    obtain ⟨-, w, label, hw, -⟩ := h.stored name v conversion hraw hmember
    exact (exists_assign_attribute_iff hmember v t).mpr ⟨w, hw⟩
  · rw [not_exists] at hattribute
    obtain ⟨-, -, hname⟩ := h.hidden name v hraw hattribute
    rw [assign_of_hidden hattribute, if_neg]
    · exact ⟨_, rfl⟩
    · rintro ⟨heq, hhides⟩
      rw [hname heq] at hhides
      cases hhides

end Holds

theorem overwritten_map (names : List String) (f : String → Value) (name : String) :
    overwritten (fun _ => none) (names.map fun n => (n, f n)) name =
      if name ∈ names then some (f name) else none := by
  induction names using List.reverseRecOn with
  | nil => rfl
  | append_singleton names last ih =>
    rw [List.map_append, overwritten_append, List.map_singleton]
    by_cases hname : name = last
    · subst hname
      rw [overwritten_self, if_pos (by simp)]
    · rw [overwritten_ne _ hname, ih]
      simp [hname]

/-- A search that holds nothing holds what nothing makes. -/
theorem holds_fresh (c : ClassView) (hvalues : s.values = []) (hextras : s.extras = []) :
    Holds c (fun _ => none) s := by
  refine ⟨fun name _ => ?_, fun name v conversion h => (by cases h), fun name v h => (by cases h)⟩
  rw [hvalues, hextras]
  exact ⟨rfl, rfl⟩

/-- A search that is made holds, for each attribute, the value supplied or the default. -/
theorem holds_of_make {supplied : List (String × Value)} (hvalues : s.values = [])
    (hextras : s.extras = [])
    (h : assignAll c (c.schema.uniqueNames.map fun name => (name, initial c supplied name)) s =
      .ok () s') :
    Holds c (fun name => if name ∈ c.schema.names then some (initial c supplied name) else none) s' := by
  have hholds := (holds_fresh c hvalues hextras).assignAll h
  have hraw : overwritten (fun _ => none)
      (c.schema.uniqueNames.map fun name => (name, initial c supplied name)) =
      fun name => if name ∈ c.schema.names then some (initial c supplied name) else none := by
    funext name
    rw [overwritten_map]
    exact if_congr List.mem_eraseDups rfl rfl
  rwa [hraw] at hholds

/-- Attributes can be given all that a search holds for them. -/
theorem exists_assignAll {entries : List (String × Value)}
    (h : ∀ e ∈ entries, ∀ t, ∃ t', assign c e.1 e.2 t = .ok () t') (t : Search) :
    ∃ t', assignAll c entries t = .ok () t' := by
  induction entries generalizing t with
  | nil => exact ⟨t, rfl⟩
  | cons e entries ih =>
    rw [List.forall_mem_cons] at h
    obtain ⟨t₁, h₁⟩ := h.1 t
    obtain ⟨t', h'⟩ := ih h.2 t₁
    exact ⟨t', estate_bind_eq_ok.mpr ⟨(), t₁, h₁, h'⟩⟩

/-- A write is to search attributes. -/
theorem Write.declares {w : Write} (hc : c.schema.IsListed) (hw : w.Known c)
    (hrun : w.run c s = .ok () s') {e : String × Value} (he : e ∈ w.raws) :
    e.1 ∈ c.schema.names := by
  rw [← hc]
  cases w with
  | assign name v =>
    rw [List.mem_singleton.mp he]
    exact hw
  | setAttributes v =>
    obtain ⟨_, s₁, -, hrest⟩ := estate_bind_eq_ok.mp hrun
    cases v with
    | dict entries =>
      obtain ⟨named, s₂, hlift, hchecked⟩ := estate_bind_eq_ok.mp hrest
      obtain ⟨hnamed, rfl⟩ := Bridge.lift_eq_ok hlift
      obtain ⟨_, s₃, hcheck, -⟩ := estate_bind_eq_ok.mp hchecked
      rw [Write.raws, hnamed] at he
      exact (checkNames_eq_ok hcheck).1 _ (List.mem_map.mpr ⟨e, he, rfl⟩)
    | _ => cases he
  | ignore name =>
    rw [List.mem_singleton.mp he]
    obtain ⟨_, s₁, -, hrest⟩ := estate_bind_eq_ok.mp hrun
    obtain ⟨_, s₂, hcheck, -⟩ := estate_bind_eq_ok.mp hrest
    exact (checkNames_eq_ok hcheck).1 name (by simp)

/-- Names that are written are those of attributes. -/
theorem writeAll_declares (hc : c.schema.IsListed) {ws : List Write} (hws : ∀ w ∈ ws, w.Known c)
    (hrun : writeAll c ws s = .ok () s') :
    ∀ e ∈ ws.flatMap Write.raws, e.1 ∈ c.schema.names := by
  induction ws generalizing s with
  | nil => simp
  | cons w ws ih =>
    rw [List.forall_mem_cons] at hws
    obtain ⟨_, s₁, hfirst, hrest⟩ := estate_bind_eq_ok.mp hrun
    rw [List.flatMap_cons, List.forall_mem_append]
    exact ⟨fun e he => w.declares hc hws.1 hfirst he, ih hws.2 hrest⟩

/-- An assignment fails as the conversion does, or because the name cannot be written. -/
theorem assign_eq_error {e : Failure} (h : assign c name v s = .error e s') :
    e = .noAttribute ∨ ∃ conversion, c.member? name = some (.attribute conversion) ∧
      stored conversion v = .error e := by
  by_cases hattribute : ∃ conversion, c.member? name = some (.attribute conversion)
  · obtain ⟨conversion, hconversion⟩ := hattribute
    rw [assign_eq_store hconversion] at h
    obtain hlift | ⟨w, s₁, -, hmodify⟩ := estate_bind_eq_error.mp h
    · exact Or.inr ⟨conversion, hconversion, (Bridge.lift_eq_error hlift).1⟩
    · cases hmodify
  · rw [not_exists] at hattribute
    rw [assign_of_hidden hattribute] at h
    split at h
    next =>
      cases h
      exact Or.inl rfl
    next => cases h

/-- A write fails for a name that cannot be written, or for a conversion that does. -/
theorem assignAll_eq_error {entries : List (String × Value)} {e : Failure}
    (h : assignAll c entries s = .error e s') :
    e = .noAttribute ∨ ∃ name conversion w, c.member? name = some (.attribute conversion) ∧
      stored conversion w = .error e := by
  induction entries generalizing s with
  | nil => cases h
  | cons entry entries ih =>
    obtain hfirst | ⟨_, s₁, -, hrest⟩ := estate_bind_eq_error.mp h
    · obtain rfl | ⟨conversion, hmember, hstored⟩ := assign_eq_error hfirst
      · exact Or.inl rfl
      · exact Or.inr ⟨entry.1, conversion, entry.2, hmember, hstored⟩
    · exact ih hrest

/-- An assignment to several attributes that fails for an unknown name has written nothing, unless it is a
conversion that fails so. -/
theorem setAttributes_eq_error {cls : String} {names : List String}
    (h : setAttributes c v s = .error (.unknownAttributes cls names) s') :
    s' = s ∨ ∃ name conversion w, c.member? name = some (.attribute conversion) ∧
      stored conversion w = .error (.unknownAttributes cls names) := by
  obtain hown | ⟨_, s₁, hown, hrest⟩ := estate_bind_eq_error.mp h
  · left
    rw [← after_eq_error hown, after_ownOnly]
  obtain ⟨-, rfl⟩ := ownOnly_eq_ok_iff.mp hown
  cases v with
  | dict entries =>
    obtain hlift | ⟨named, s₂, hlift, hchecked⟩ := estate_bind_eq_error.mp hrest
    · exact Or.inl (Bridge.lift_eq_error hlift).2
    obtain ⟨-, rfl⟩ := Bridge.lift_eq_ok hlift
    obtain hcheck | ⟨_, s₃, -, hassign⟩ := estate_bind_eq_error.mp hchecked
    · left
      rw [← after_eq_error hcheck, after_checkNames]
    · obtain hname | hconversion := assignAll_eq_error hassign
      · cases hname
      · exact Or.inr hconversion
  | _ => cases hrest

/-- Values that are written to attributes hide nothing that every search has. -/
theorem lookup_extras_eq_none (hlisted : c.schema.IsListed)
    (hnames : ∀ name ∈ c.schema.names, name ∉ reservedNames) {attributes : Value}
    {values : List (String × Value)} {ws : List Write} {s₀ s₁ : Search} (hvalues : s₀.values = [])
    (hextras : s₀.extras = []) (hmake : make c attributes values s₀ = .ok () s₁)
    (hknown : ∀ w ∈ ws, w.Known c) (hwrites : writeAll c ws s₁ = .ok () s)
    (hname : name ∈ reservedNames) : s.extras.lookup name = none := by
  obtain ⟨-, supplied, -, -, hassign⟩ := make_eq_ok_iff.mp hmake
  have hs := (holds_of_make hvalues hextras hassign).writeAll hknown hwrites
  have hattribute : name ∉ c.schema.names := fun h => hnames name h hname
  refine (hs.absent name ?_).2
  rw [overwritten, Option.or_eq_none_iff, if_neg hattribute]
  refine ⟨List.lookup_eq_none_iff.mpr fun e he => ?_, rfl⟩
  rw [List.mem_reverse] at he
  rw [bne_iff_ne]
  rintro rfl
  exact hattribute (writeAll_declares hlisted hknown hwrites e he)

/-! ## The last writes -/

/-- What two searches have been given is the same, where each name was given the same value last. -/
theorem overwritten_initial {supplied supplied' : List (String × Value)}
    {ws : List Write} (hws : ∀ e ∈ ws.flatMap Write.raws, e.1 ∈ c.schema.names)
    (hsame : ∀ name, supplied'.lookup name = lastRaw supplied ws name) :
    overwritten (fun name => if name ∈ c.schema.names then some (initial c supplied name) else none)
        (ws.flatMap Write.raws) =
      fun name => if name ∈ c.schema.names then some (initial c supplied' name) else none := by
  funext name
  have hname := hsame name
  rw [lastRaw, overwritten] at hname
  rw [overwritten]
  cases hwritten : (ws.flatMap Write.raws).reverse.lookup name with
  | some v =>
    rw [hwritten] at hname
    have hmem : name ∈ c.schema.names := hws _ (List.mem_reverse.mp (mem_of_lookup hwritten))
    have hinitial : initial c supplied' name = v := by
      rw [initial, hname]
      rfl
    rw [Option.some_or, if_pos hmem, hinitial]
  | none =>
    rw [hwritten, Option.none_or] at hname
    rw [Option.none_or, initial, initial, hname]

/-- **A search remembers the last writes.** A search that has been made and written to, whatever the
order, is like one that is made from the value that each name was given last: this one can be made, the two
have the same attributes, and they compose the same options or fail alike. An assignment to several
attributes that fails for an unknown name has written nothing. -/
theorem last_write_wins {ops : List ClassOperation} {r : Registry} (hrun : Registry.Runs {} ops r)
    (id : Nat) (hsteady : (r.view id).Steady) {attributes attributes' : Value}
    {values values' supplied supplied' : List (String × Value)} {ws : List Write} {s₀ s₁ s t₀ : Search}
    (hs₀ : s₀.values = [] ∧ s₀.extras = []) (ht₀ : t₀.values = [] ∧ t₀.extras = [])
    (hsupplied : suppliedBy attributes values = .ok supplied)
    (hmake : make (r.view id) attributes values s₀ = .ok () s₁)
    (hknown : ∀ w ∈ ws, w.Known (r.view id)) (hwrites : writeAll (r.view id) ws s₁ = .ok () s)
    (hsupplied' : suppliedBy attributes' values' = .ok supplied')
    (hsame : ∀ name, supplied'.lookup name = lastRaw supplied ws name)
    (hsettled : ∀ name ∈ (r.view id).schema.names, ∀ conversion w,
      (r.view id).member? name = some (.attribute conversion) →
      stored conversion (initial (r.view id) supplied' name) = .ok w → w.IsSettled) :
    (∃ t, make (r.view id) attributes' values' t₀ = .ok () t ∧
      Agree (Search.attributes (r.view id) s) (Search.attributes (r.view id) t) ∧
      Agree (findOptions (r.view id) s) (findOptions (r.view id) t)) ∧
    ∀ v s s' cls names, setAttributes (r.view id) v s = .error (.unknownAttributes cls names) s' →
      s' = s ∨ ∃ name conversion w, (r.view id).member? name = some (.attribute conversion) ∧
        stored conversion w = .error (.unknownAttributes cls names) := by
  have hlisted : (r.view id).schema.IsListed := hrun.isListed id
  refine ⟨?_, fun v s s' cls names h => setAttributes_eq_error h⟩
  -- What the first search holds is what the second one is given.
  obtain ⟨hmodel, given, hgiven, hnames, hassign⟩ := make_eq_ok_iff.mp hmake
  rw [hsupplied] at hgiven
  cases hgiven
  have hraws := writeAll_declares hlisted hknown hwrites
  have hs := (holds_of_make hs₀.1 hs₀.2 hassign).writeAll hknown hwrites
  rw [overwritten_initial hraws hsame] at hs
  -- So the second one can be made.
  have hnames' : ∀ name ∈ supplied'.map (·.1), (r.view id).schema.declares name = true := by
    intro name hname
    obtain ⟨⟨key, v⟩, hentry, rfl⟩ := List.mem_map.mp hname
    cases hlookup : supplied'.lookup key with
    | none => exact absurd (List.lookup_eq_none_iff.mp hlookup _ hentry) (by simp)
    | some v' =>
      rw [hsame, lastRaw, overwritten] at hlookup
      obtain hwritten | ⟨-, hearlier⟩ := Option.or_eq_some_iff.mp hlookup
      · exact (hlisted key).mpr (hraws _ (List.mem_reverse.mp (mem_of_lookup hwritten)))
      · exact hnames key (List.mem_map.mpr ⟨_, mem_of_lookup hearlier, rfl⟩)
  have hassigns : ∀ e ∈ (r.view id).schema.uniqueNames.map fun name =>
      (name, initial (r.view id) supplied' name), ∀ t, ∃ t', assign (r.view id) e.1 e.2 t = .ok () t' := by
    intro e he t
    obtain ⟨name, hname, rfl⟩ := List.mem_map.mp he
    exact hs.exists_assign (if_pos (List.mem_eraseDups.mp hname)) t
  obtain ⟨t, ht⟩ := exists_assignAll hassigns t₀
  have hlike : Alike s t := hs.alike (holds_of_make ht₀.1 ht₀.2 ht) fun name v conversion w hraw => by
    split at hraw
    next hname =>
      cases hraw
      exact hsettled name hname conversion w
    next => cases hraw
  refine ⟨t, make_eq_ok_iff.mpr ⟨hmodel, supplied', hsupplied', hnames', ht⟩, ?_, ?_⟩
  · exact Lockstep.attributes (r.view id) s t hlike
  · exact Lockstep.findOptions hsteady s t hlike

/-! ## Writes that are told apart -/

/-- The attributes of a search that is made with these values and then written to. -/
def attributesAfter (c : ClassView) (values : List (String × Value)) (ws : List Write) :
    Option (List (Value × Value)) :=
  (do
    make c (.dict []) values
    writeAll c ws
    Search.attributes c : Searching (List (Value × Value))).run' {}

/-- An attribute that stores a NaN, whatever is assigned to it. -/
def nanBuilder : Builder :=
  { name := "a", options := [("store_as", .conversion fun _ => .ok (.float (.nan 0)))] }

/-- An attribute whose conversion knows no name. -/
def unknowingBuilder : Builder :=
  { name := "b", options := [("store_as", .conversion fun _ => .error (.unknownAttributes "P" ["b"]))] }

/-- An attribute that a method hides cannot be ignored, a NaN is told from the one before, and a conversion
that fails for an unknown name has the names before it written. -/
theorem last_write_hidden :
    let covering := (chain [plainBuilder] [("a", .done .null)]).view 2
    let unsettled := (chain [nanBuilder] []).view 2
    let unknowing := (chain [plainBuilder, unknowingBuilder] []).view 2
    attributesAfter covering [("a", .int 5)] [.ignore "a"] = some [(.text "a", .int 5)] ∧
    attributesAfter covering [("a", .ignored)] [] = some [(.text "a", .ignored)] ∧
    attributesAfter unsettled [("a", .int 5)] [.assign "a" (.int 6)] = some [(.text "a", .float (.nan 3))] ∧
    attributesAfter unsettled [("a", .int 6)] [] = some [(.text "a", .float (.nan 2))] ∧
    ∃ s s', make unknowing (.dict []) [("a", .int 5)] {} = .ok () s ∧
      setAttributes unknowing (.dict [(.text "a", .int 6), (.text "b", .int 7)]) s =
        .error (.unknownAttributes "P" ["b"]) s' ∧
      s.values.lookup "a" = some (.int 5) ∧ s'.values.lookup "a" = some (.int 6) := by
  intro covering unsettled unknowing
  exact ⟨rfl, rfl, rfl, rfl, _, _, rfl, rfl, rfl, rfl⟩

/-- A number is counted up once, whatever was written before it. -/
theorem last_write_wins_counting :
    let c := (chain [countingBuilder] []).view 2
    let ws := [.assign "a" (.int 5), .ignore "a", .setAttributes (.dict [(.text "a", .int 7)])]
    ∃ s t, (do make c (.dict []) [("a", .int 1)]; writeAll c ws : Searching Unit) {} = .ok () s ∧
      make c (.dict []) [("a", .int 7)] {} = .ok () t ∧
      Search.attributes c t = .ok [(.text "a", .int 8)] t ∧
      Agree (Search.attributes c s) (Search.attributes c t) ∧
      Agree (findOptions c s) (findOptions c t) := by
  intro c ws
  have hruns : Registry.Runs {} ([] ++ [.subclass {} "P" Registry.root [] (some (.custom "M" {})) []] ++
      [.accessorBuilder 1 countingBuilder [] none] ++ [.subclass {} "Q" 1 [] none []])
      (chain [countingBuilder] []) :=
    .snoc (.snoc (.snoc .nil (by decide)) (by decide)) (by decide)
  have hmembers : ∀ name m, c.member? name = some m → m = .attribute (some Value.increment) := by
    intro name m h
    obtain ⟨i, hi, hm⟩ := List.exists_of_findSome?_eq_some h
    have hchain : i ∈ [2, 1, 0] := hi
    simp only [List.mem_cons, List.not_mem_nil, or_false] at hchain
    rcases hchain with rfl | rfl | rfl
    · cases hm
    · have hentry := mem_of_lookup hm
      exact congrArg Prod.snd (List.mem_singleton.mp hentry)
    · cases hm
  have hsteady : c.Steady :=
    { members := fun name m _ hm => by rw [hmembers name m hm]; trivial
      contributions := fun _ _ _ => trivial
      callbacks := fun callback hcallback => by cases hcallback }
  have hsupplied : ∀ v, suppliedBy (.dict []) [("a", v)] = .ok [("a", v)] := fun _ => rfl
  obtain ⟨s₁, hmake⟩ : ∃ s₁, make c (.dict []) [("a", .int 1)] {} = .ok () s₁ := ⟨_, rfl⟩
  obtain ⟨s, hwrites⟩ : ∃ s, writeAll c ws s₁ = .ok () s := by
    cases hmake
    exact ⟨_, rfl⟩
  have hempty : ({} : Search).values = [] ∧ ({} : Search).extras = [] := ⟨rfl, rfl⟩
  have hwins := last_write_wins hruns 2 hsteady hempty hempty (hsupplied (.int 1)) hmake ?_ hwrites
    (hsupplied (.int 7)) ?_ ?_
  · obtain ⟨⟨t, ht, hattributes, hoptions⟩, -⟩ := hwins
    refine ⟨s, t, estate_bind_eq_ok.mpr ⟨(), s₁, hmake, hwrites⟩, ht, ?_, hattributes, hoptions⟩
    cases ht
    rfl
  · intro w hw
    simp only [ws, List.mem_cons, List.not_mem_nil, or_false] at hw
    rcases hw with rfl | rfl | rfl
    · rfl
    · exact ⟨_, rfl⟩
    · trivial
  · intro name
    have hraws : ws.flatMap Write.raws = [("a", .int 5), ("a", .ignored), ("a", .int 7)] := rfl
    rw [lastRaw, overwritten, hraws]
    by_cases hname : name = "a"
    · rw [hname]
      rfl
    · simp [List.lookup_cons, beq_false_of_ne hname]
  · intro name hname conversion w hmember hstored
    obtain rfl := List.mem_singleton.mp hname
    cases hmember
    cases hstored
    exact fun _ => rfl

end Search

end SearchQuery
