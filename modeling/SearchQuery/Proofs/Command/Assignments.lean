import SearchQuery.Command.Compose
import SearchQuery.Proofs.Json.Reading
import SearchQuery.Proofs.Search.Automatic
import SearchQuery.Proofs.Search.Rebuilt

/-!
# Assignments on the command line

Each argument `NAME=VALUE` gives a value to a name: what its text says in JSON, or the text itself if it says
nothing (`Gives`). Of values of the same name the last one counts. `assignments_outcome` says of all lists of
arguments what comes of them. An argument that is no assignment is reported, the first one if there are
several. But reading a text can also fail, for an integer with too many digits or for arrays and objects that
are nested too deep, though the text says nothing in JSON then; the arguments fail with it (`Exceeds`).

## Shape of the argument

What becomes of one argument is settled by its first `=` and by the grammar of JSON (`gives_or`). A list is
read from the front, so what becomes of it is settled by its first argument that gives no value
(`assignments_cases`), and the arguments before that one are read to the end (`parseAssignments_append`).
-/

namespace SearchQuery.Command

/-- An argument assigns a text to a name: the name stands before the first `=`, and the text behind it. -/
structure Assigns (arg name raw : String) : Prop where
  text : arg = name ++ "=" ++ raw
  named : name ≠ ""
  first : '=' ∉ name.toList

/-- An argument is an assignment. -/
def IsAssignment (arg : String) : Prop :=
  ∃ name raw, Assigns arg name raw

/-- What a text is decoded to: the value that it says in JSON, or itself if it says none. -/
inductive Decodes (m : Machine) (raw : String) : Datum → Prop
  | json {v : Datum} (h : JsonText.IsJson m raw v) : Decodes m raw v
  | text (h : ∀ v, ¬ JsonText.IsJson m raw v) : Decodes m raw (.text (Piece.ofText raw))

/-- An argument assigns a text that is too much for the reader of JSON, and what it fails with. -/
inductive Exceeds (m : Machine) (arg : String) : Failure → Prop
  | digits {name raw : String} (h : Assigns arg name raw) (hoverlong : JsonText.IsOverlong m raw) :
      Exceeds m arg .badValue
  | depth {name raw : String} (h : Assigns arg name raw) (hdeep : JsonText.IsTooDeep m raw) :
      Exceeds m arg .endlessRecursion

/-- An argument gives a value to a name, and its text is not too much for the reader of JSON. -/
def Gives (m : Machine) (arg : String) (p : String × Datum) : Prop :=
  (∃ raw, Assigns arg p.1 raw ∧ Decodes m raw p.2) ∧ ∀ cause, ¬ Exceeds m arg cause

variable {m : Machine} {arg name raw : String} {cause : Failure}

/-! ## One argument -/

theorem Assigns.toList (h : Assigns arg name raw) : arg.toList = name.toList ++ '=' :: raw.toList := by
  rw [h.text, String.toList_append, String.toList_append, List.append_assoc]
  rfl

/-- The name is what stands before the first `=`. -/
theorem Assigns.takeWhile (h : Assigns arg name raw) : arg.toList.takeWhile (· != '=') = name.toList := by
  have hname : ∀ c ∈ name.toList, (c != '=') = true := by
    rintro c hc
    rw [bne_iff_ne]
    rintro rfl
    exact h.first hc
  rw [h.toList, List.takeWhile_append_of_pos hname]
  simp

/-- An argument that has a name and a `=` behind it is an assignment. -/
theorem isAssignment_of_takeWhile (hnamed : arg.toList.takeWhile (· != '=') ≠ [])
    (hlength : (arg.toList.takeWhile (· != '=')).length ≠ arg.toList.length) : IsAssignment arg := by
  have hsplit := List.takeWhile_append_dropWhile (p := (· != '=')) (l := arg.toList)
  cases hdrop : arg.toList.dropWhile (· != '=') with
  | nil =>
    rw [hdrop, List.append_nil] at hsplit
    exact absurd (congrArg List.length hsplit) hlength
  | cons c rest =>
    have hc : (c != '=') = false := by
      have hhead := List.head?_dropWhile_not (· != '=') arg.toList
      rw [hdrop] at hhead
      exact hhead
    rw [bne_eq_false_iff_eq] at hc
    subst hc
    refine ⟨String.ofList (arg.toList.takeWhile (· != '=')), String.ofList rest, ?_, ?_, ?_⟩
    · rw [hdrop] at hsplit
      exact String.toList_inj.mp (hsplit.symm.trans (by simp))
    · intro hempty
      exact hnamed (by simpa using congrArg String.toList hempty)
    · intro hmem
      rw [String.toList_ofList] at hmem
      simpa using List.all_eq_true.mp List.all_takeWhile '=' hmem

/-- An argument assigns one text to one name. -/
theorem Assigns.unique {name' raw' : String} (h : Assigns arg name raw) (h' : Assigns arg name' raw') :
    name = name' ∧ raw = raw' := by
  have hname : name = name' := String.toList_inj.mp (h.takeWhile.symm.trans h'.takeWhile)
  subst hname
  have htext : name.toList ++ '=' :: raw.toList = name.toList ++ '=' :: raw'.toList :=
    h.toList.symm.trans h'.toList
  exact ⟨rfl, String.toList_inj.mp (List.cons.inj (List.append_cancel_left htext)).2⟩

/-- What a text is decoded to tells whether it says something in JSON. -/
theorem decodes_of_decoded {v : Datum} (h : decoded m raw = .ok v) : Decodes m raw v := by
  rw [decoded] at h
  split at h
  next w hread =>
    cases h
    exact .json (JsonText.read_eq_ok_iff.mp hread)
  next hread =>
    cases h
    refine .text fun w hw => ?_
    cases hread.symm.trans (JsonText.read_eq_ok_iff.mpr hw)
  next => cases h
  next => cases h

/-- What is no assignment is told so. -/
theorem assignment_of_not (h : ¬ IsAssignment arg) :
    assignment m arg = .error (.unreadable ("expected NAME=VALUE, got " ++ Text.quoted arg)) := by
  rw [assignment]
  dsimp only
  rw [if_pos]
  · rfl
  rw [Bool.or_eq_true, List.isEmpty_iff, beq_iff_eq]
  by_contra hboth
  rw [not_or] at hboth
  exact h (isAssignment_of_takeWhile hboth.1 hboth.2)

/-- An assignment is its name and what is decoded. -/
theorem assignment_of_assigns (h : Assigns arg name raw) :
    assignment m arg = (decoded m raw).map (name, ·) := by
  have hnamed : name.toList ≠ [] := by
    intro hempty
    exact h.named (String.toList_inj.mp hempty)
  have hlength : name.toList.length ≠ arg.toList.length := by
    rw [h.toList, List.length_append, List.length_cons]
    omega
  have hdrop : arg.toList.drop (name.toList.length + 1) = raw.toList := by
    rw [h.toList, List.drop_length_add_append]
    rfl
  rw [assignment]
  dsimp only
  rw [h.takeWhile, if_neg (by simp [hnamed, hlength]), hdrop, String.ofList_toList, String.ofList_toList]
  cases decoded m raw <;> rfl

/-- A text that is too much for the reader lets its argument fail. -/
theorem assignment_of_exceeds (h : Exceeds m arg cause) : assignment m arg = .error (.failed cause) := by
  cases h with
  | digits h hoverlong =>
    rw [assignment_of_assigns h, decoded, JsonText.read_eq_tooManyDigits_iff.mpr hoverlong]
    rfl
  | depth h hdeep =>
    rw [assignment_of_assigns h, decoded, JsonText.read_eq_tooDeep_iff.mpr hdeep]
    rfl

/-- What is decoded is not too much for the reader, and what is neither decoded nor too much is not there. -/
theorem decoded_cases (h : Assigns arg name raw) :
    (∃ v, decoded m raw = .ok v ∧ ∀ cause, ¬ Exceeds m arg cause) ∨ ∃ cause, Exceeds m arg cause := by
  cases hread : JsonText.read m raw with
  | ok v =>
    refine Or.inl ⟨v, by rw [decoded, hread], fun cause hexceeds => ?_⟩
    have hfails := assignment_of_exceeds hexceeds
    rw [assignment_of_assigns h, decoded, hread] at hfails
    cases hfails
  | error e =>
    cases e with
    | malformed =>
      refine Or.inl ⟨_, by rw [decoded, hread], fun cause hexceeds => ?_⟩
      have hfails := assignment_of_exceeds hexceeds
      rw [assignment_of_assigns h, decoded, hread] at hfails
      cases hfails
    | tooManyDigits => exact Or.inr ⟨_, .digits h (JsonText.read_eq_tooManyDigits_iff.mp hread)⟩
    | tooDeep => exact Or.inr ⟨_, .depth h (JsonText.read_eq_tooDeep_iff.mp hread)⟩

/-- What becomes of an argument: it gives a value, its text is too much for the reader, or it is no
assignment. -/
theorem gives_or (m : Machine) (arg : String) :
    (∃ p, Gives m arg p) ∨ (∃ cause, Exceeds m arg cause) ∨ ¬ IsAssignment arg := by
  by_cases hassignment : IsAssignment arg
  · obtain ⟨name, raw, h⟩ := hassignment
    rcases decoded_cases (m := m) h with ⟨v, hv, hnot⟩ | hexceeds
    · exact Or.inl ⟨(name, v), ⟨raw, h, decodes_of_decoded hv⟩, hnot⟩
    · exact Or.inr (Or.inl hexceeds)
  · exact Or.inr (Or.inr hassignment)

/-- A text is decoded to one thing. -/
theorem Decodes.unique {v w : Datum} (hv : Decodes m raw v) (hw : Decodes m raw w) : v = w := by
  cases hv with
  | json hv =>
    cases hw with
    | json hw =>
      exact Except.ok.inj
        ((JsonText.read_eq_ok_iff.mpr hv).symm.trans (JsonText.read_eq_ok_iff.mpr hw))
    | text hw => exact absurd hv (hw v)
  | text hv =>
    cases hw with
    | json hw => exact absurd hw (hv w)
    | text hw => rfl

/-- An argument that gives a value is read as it. -/
theorem assignment_of_gives {p : String × Datum} (h : Gives m arg p) : assignment m arg = .ok p := by
  obtain ⟨⟨raw, hassigns, hdecodes⟩, hnot⟩ := h
  rcases decoded_cases (m := m) hassigns with ⟨v, hv, -⟩ | ⟨cause, hexceeds⟩
  · rw [assignment_of_assigns hassigns, hv, (decodes_of_decoded hv).unique hdecodes]
    rfl
  · exact absurd hexceeds (hnot cause)

/-! ## All arguments -/

variable {args : List String}

/-- Entries that are written one after the other. -/
def written (data ps : List (String × Datum)) : List (String × Datum) :=
  ps.foldl (fun data p => putEntry data p.1 p.2) data

/-- Writing what an argument assigns, as one step of reading arguments. -/
def assign (m : Machine) (data : List (String × Datum)) (arg : String) :
    Except AssignmentError (List (String × Datum)) := do
  let (name, v) ← assignment m arg
  return putEntry data name v

/-- Arguments that give values are read to the end. -/
theorem parseAssignments_append {before : List String} {ps : List (String × Datum)}
    (h : List.Forall₂ (Gives m) before ps) (after : List String) :
    parseAssignments m (before ++ after) = after.foldlM (assign m) (written [] ps) := by
  have hfrom {data : List (String × Datum)} :
      (before ++ after).foldlM (assign m) data = after.foldlM (assign m) (written data ps) := by
    induction h generalizing data with
    | nil => rfl
    | @cons arg p before ps harg _ ih =>
      rw [List.cons_append, List.foldlM_cons, assign, assignment_of_gives harg]
      exact ih
  exact hfrom

/-- Assignments that are all read give what they write. -/
theorem parseAssignments_eq_ok {ps : List (String × Datum)} (h : List.Forall₂ (Gives m) args ps) :
    parseAssignments m args = .ok (written [] ps) := by
  have happend := parseAssignments_append h []
  rwa [List.append_nil] at happend

theorem exists_forall₂_gives {before : List String} (h : ∀ a ∈ before, ∃ p, Gives m a p) :
    ∃ ps, List.Forall₂ (Gives m) before ps := by
  induction before with
  | nil => exact ⟨[], .nil⟩
  | cons arg before ih =>
    obtain ⟨⟨p, hp⟩, htail⟩ := List.forall_mem_cons.mp h
    obtain ⟨ps, hps⟩ := ih htail
    exact ⟨p :: ps, .cons hp hps⟩

/-- The first argument that cannot be used settles what comes of all of them. -/
theorem parseAssignments_eq_error {before : List String} {e : AssignmentError}
    (h : ∀ a ∈ before, ∃ p, Gives m a p) (harg : assignment m arg = .error e) (after : List String) :
    parseAssignments m (before ++ arg :: after) = .error e := by
  obtain ⟨ps, hps⟩ := exists_forall₂_gives h
  rw [parseAssignments_append hps, List.foldlM_cons, assign, harg]
  rfl

/-- What becomes of a list of arguments is settled by the first one that gives no value. -/
theorem assignments_cases (m : Machine) (args : List String) :
    (∀ a ∈ args, ∃ p, Gives m a p) ∨
      ∃ before arg after, args = before ++ arg :: after ∧ (∀ a ∈ before, ∃ p, Gives m a p) ∧
        ((∃ cause, Exceeds m arg cause) ∨ ¬ IsAssignment arg) := by
  induction args with
  | nil => exact Or.inl (by simp)
  | cons arg args ih =>
    rcases gives_or m arg with hgives | hends
    · rcases ih with hall | ⟨before, next, after, rfl, hbefore, hends⟩
      · exact Or.inl (List.forall_mem_cons.mpr ⟨hgives, hall⟩)
      · exact Or.inr ⟨arg :: before, next, after, rfl, List.forall_mem_cons.mpr ⟨hgives, hbefore⟩, hends⟩
    · exact Or.inr ⟨[], arg, args, rfl, by simp, hends⟩

/-- What comes of a list of arguments: all of them are read, or the first one that gives no value lets them
fail. -/
theorem parseAssignments_cases (m : Machine) (args : List String) :
    (∃ ps, List.Forall₂ (Gives m) args ps ∧ parseAssignments m args = .ok (written [] ps)) ∨
      ∃ before arg after, args = before ++ arg :: after ∧ (∀ a ∈ before, ∃ p, Gives m a p) ∧
        ((∃ cause, Exceeds m arg cause ∧ parseAssignments m args = .error (.failed cause)) ∨
          ¬ IsAssignment arg ∧ parseAssignments m args =
            .error (.unreadable ("expected NAME=VALUE, got " ++ Text.quoted arg))) := by
  rcases assignments_cases m args with hall | ⟨before, arg, after, rfl, hbefore, ⟨cause, hexceeds⟩ | hnot⟩
  · obtain ⟨ps, hps⟩ := exists_forall₂_gives hall
    exact Or.inl ⟨ps, hps, parseAssignments_eq_ok hps⟩
  · exact Or.inr ⟨before, arg, after, rfl, hbefore,
      Or.inl ⟨cause, hexceeds, parseAssignments_eq_error hbefore (assignment_of_exceeds hexceeds) after⟩⟩
  · exact Or.inr ⟨before, arg, after, rfl, hbefore,
      Or.inr ⟨hnot, parseAssignments_eq_error hbefore (assignment_of_not hnot) after⟩⟩

/-- What was written last for a name counts. -/
theorem lookup_written (ps : List (String × Datum)) (name : String) :
    (written [] ps).lookup name = ps.reverse.lookup name := by
  rw [written, lookup_foldl_putEntry]
  exact Option.or_none

/-- Each name has one entry, at the place of the first one. -/
theorem map_fst_written (ps : List (String × Datum)) :
    (written [] ps).map (·.1) = (ps.map (·.1)).eraseDups :=
  map_fst_foldl_putEntry ps

/-- **What comes of assignments.** The first argument that is no assignment is reported, if the arguments
before it give values. The first argument whose text is too much for the reader of JSON lets all of them
fail, if the arguments before it give values. If all arguments give values, each name has the value that was
given last, in the order in which the names were given first. -/
theorem assignments_outcome (m : Machine) (args : List String) :
    (∀ message, parseAssignments m args = .error (.unreadable message) ↔
      ∃ before arg after, args = before ++ arg :: after ∧ (∀ a ∈ before, ∃ p, Gives m a p) ∧
        ¬ IsAssignment arg ∧ message = "expected NAME=VALUE, got " ++ Text.quoted arg) ∧
      (∀ cause, parseAssignments m args = .error (.failed cause) ↔
        ∃ before arg after, args = before ++ arg :: after ∧ (∀ a ∈ before, ∃ p, Gives m a p) ∧
          Exceeds m arg cause) ∧
      ∀ data, parseAssignments m args = .ok data ↔
        ∃ ps, List.Forall₂ (Gives m) args ps ∧ data.map (·.1) = (ps.map (·.1)).eraseDups ∧
          ∀ name, data.lookup name = ps.reverse.lookup name := by
  refine ⟨fun message => ⟨fun h => ?_, ?_⟩, fun cause => ⟨fun h => ?_, ?_⟩, fun data => ⟨fun h => ?_, ?_⟩⟩
  · rcases parseAssignments_cases m args with
      ⟨_, -, hread⟩ | ⟨before, arg, after, hargs, hbefore, ⟨_, -, hread⟩ | ⟨hnot, hread⟩⟩
    · cases hread.symm.trans h
    · cases hread.symm.trans h
    · cases hread.symm.trans h
      exact ⟨before, arg, after, hargs, hbefore, hnot, rfl⟩
  · rintro ⟨before, arg, after, rfl, hbefore, hnot, rfl⟩
    exact parseAssignments_eq_error hbefore (assignment_of_not hnot) after
  · rcases parseAssignments_cases m args with
      ⟨_, -, hread⟩ | ⟨before, arg, after, hargs, hbefore, ⟨_, hexceeds, hread⟩ | ⟨-, hread⟩⟩
    · cases hread.symm.trans h
    · cases hread.symm.trans h
      exact ⟨before, arg, after, hargs, hbefore, hexceeds⟩
    · cases hread.symm.trans h
  · rintro ⟨before, arg, after, rfl, hbefore, hexceeds⟩
    exact parseAssignments_eq_error hbefore (assignment_of_exceeds hexceeds) after
  · rcases parseAssignments_cases m args with ⟨ps, hps, hread⟩ | ⟨_, _, _, -, -, ⟨_, -, hread⟩ | ⟨-, hread⟩⟩
    · cases hread.symm.trans h
      exact ⟨ps, hps, map_fst_written ps, lookup_written ps⟩
    · cases hread.symm.trans h
    · cases hread.symm.trans h
  · rintro ⟨ps, hps, hnames, hlookup⟩
    have hsame : data = written [] ps := by
      refine eq_of_lookup_eq (hnames.trans (map_fst_written ps).symm) ?_ fun name => ?_
      · rw [map_fst_written]
        exact nodup_eraseDups _
      · rw [hlookup, lookup_written]
    rw [hsame]
    exact parseAssignments_eq_ok hps

/-- A text that says nothing in JSON is not taken as it is, where it is too much for the reader: a text of
more digits than an integer may have, or of more brackets than the machine can go into. -/
theorem assignments_failed_ones :
    let ones := String.ofList (List.replicate 4301 '1')
    let brackets := String.ofList (List.replicate 1000 '[')
    Assigns ("a=" ++ ones) "a" ones ∧ Decodes {} ones (.text (Piece.ofText ones)) ∧
      parseAssignments {} ["a=" ++ ones] = .error (.failed .badValue) ∧
      Assigns ("a=" ++ brackets) "a" brackets ∧ Decodes {} brackets (.text (Piece.ofText brackets)) ∧
      parseAssignments {} ["a=" ++ brackets] = .error (.failed .endlessRecursion) := by
  intro ones brackets
  have hones : Assigns ("a=" ++ ones) "a" ones := ⟨by rfl, by decide, by decide⟩
  have hoverlong : JsonText.IsOverlong {} ones := by
    refine JsonText.isOverlong_of_digits (fun d hd => ?_) ?_ ?_ {}
    · rw [List.eq_of_mem_replicate hd]
      rfl
    · rw [List.head?_replicate]
      decide
    · rw [List.length_replicate]
      decide
  have hbrackets : Assigns ("a=" ++ brackets) "a" brackets := ⟨by rfl, by decide, by decide⟩
  have hdeep : JsonText.IsTooDeep {} brackets := JsonText.isTooDeep_of_brackets (by decide)
  have hnothing {raw : String} {e : Text.Defect} (h : JsonText.read {} raw = .error e) (v : Datum) :
      ¬ JsonText.IsJson {} raw v := fun hv => nomatch h.symm.trans (JsonText.read_eq_ok_iff.mpr hv)
  have hfails {arg : String} {cause : Failure} (h : Exceeds {} arg cause) :
      parseAssignments {} [arg] = .error (.failed cause) :=
    parseAssignments_eq_error (List.forall_mem_nil _) (assignment_of_exceeds h) []
  exact ⟨hones, .text (hnothing (JsonText.read_eq_tooManyDigits_iff.mpr hoverlong)),
    hfails (.digits hones hoverlong), hbrackets,
    .text (hnothing (JsonText.read_eq_tooDeep_iff.mpr hdeep)), hfails (.depth hbrackets hdeep)⟩

end SearchQuery.Command
