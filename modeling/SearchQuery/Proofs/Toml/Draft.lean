import SearchQuery.Proofs.Fragment.Equality
import SearchQuery.Toml.Table

/-!
# Tables that are filled one by one

A document whose headers have one part each, and whose keys have one part each, fills its tables one by
one. As long as no name comes twice, every header starts a new table (`Holds.openTable`) and every
assignment adds to the last one (`Holds.assign`).
-/

namespace SearchQuery

namespace Toml

/-- The entries of a table whose keys are texts. -/
def named (ps : List (String × Value)) : Entries :=
  ps.map fun p => (.text p.1, p.2)

theorem named_append (ps qs : List (String × Value)) : named (ps ++ qs) = named ps ++ named qs :=
  List.map_append

theorem lookupText_named (ps : List (String × Value)) (key : String) :
    Value.lookupText (named ps) key = ps.lookup key := by
  induction ps with
  | nil => rfl
  | cons p ps ih =>
    rw [Value.lookupText] at ih
    rw [Value.lookupText, named, List.map_cons, List.find?_cons, List.lookup_cons, ← named]
    have hkey : ((Value.text p.1).text? == some key) = (key == p.1) := by
      rw [Value.text?, Option.some_beq_some, Bool.beq_comm]
    rw [hkey]
    cases key == p.1 with
    | true => rfl
    | false => exact ih

section

variable {ps : List (String × Value)} {key : String}

theorem lookup_of_not_mem (h : key ∉ ps.map (·.1)) : ps.lookup key = none := by
  rw [List.lookup_eq_none_iff]
  intro p hp
  rw [bne_iff_ne]
  rintro rfl
  exact h (List.mem_map_of_mem hp)

/-- What is put behind other entries is found by its name. -/
theorem lookup_concat (h : key ∉ ps.map (·.1)) (v : Value) : (ps ++ [(key, v)]).lookup key = some v := by
  rw [List.lookup_append, lookup_of_not_mem h, Option.none_or, List.lookup_cons_self]

/-- A name is there if it is among the names. -/
theorem any_same_named (ps : List (String × Value)) (key : String) :
    (named ps).any (Value.same (.text key) ·.1) = (ps.map (·.1)).contains key := by
  induction ps with
  | nil => rfl
  | cons p ps ih =>
    rw [named, List.map_cons, List.any_cons, ← named, ih, Value.same_text, List.map_cons, List.contains_cons]

/-- A new key comes last. -/
theorem putKey_of_not_mem (h : key ∉ ps.map (·.1)) (v : Value) :
    putKey (named ps) key v = named (ps ++ [(key, v)]) := by
  rw [putKey, Value.insertEntry, any_same_named, if_neg (by simpa using h), named_append]
  rfl

/-- The value of the last key is changed. -/
theorem putKey_concat (h : key ∉ ps.map (·.1)) (v w : Value) :
    putKey (named (ps ++ [(key, v)])) key w = named (ps ++ [(key, w)]) := by
  have hfront : (named ps).map (fun e => if Value.same (.text key) e.1 then (e.1, w) else e) = named ps := by
    rw [named, List.map_map]
    refine List.map_congr_left fun p hp => ?_
    have hne : (key == p.1) = false := by
      rw [beq_eq_false_iff_ne]
      rintro rfl
      exact h (List.mem_map_of_mem hp)
    simp [Value.same_text, hne]
  rw [putKey, Value.insertEntry, any_same_named, if_pos (by simp), named_append, List.map_append, hfront,
    named_append]
  simp [named, Value.same_text]

end

/-! ## Steps -/

/-- The draft of a document with tables of one part, and nothing closed but values of their keys. -/
structure Holds (d : Draft) (tables : List (String × Value)) : Prop where
  root : d.root = named tables
  pending : d.pending = []
  declared : ∀ path ∈ d.declared, ∃ name ∈ tables.map (·.1), path = [name]
  closed : ∀ path ∈ d.closed, path.length = 2

/-- A draft without tables holds none. -/
theorem holds_empty : Holds {} [] :=
  ⟨rfl, rfl, by simp, by simp⟩

namespace Holds

variable {d : Draft} {tables : List (String × Value)}

/-- No table is closed to its own settings. -/
theorem isClosed_single (h : Holds d tables) (name : String) : d.isClosed [name] = false := by
  rw [Draft.isClosed, List.any_eq_false]
  intro path hpath hprefix
  have hlength := (List.isPrefixOf_iff_prefix.mp hprefix).length_le
  rw [h.closed path hpath] at hlength
  simp at hlength

/-- A table that is not there is not declared. -/
theorem isDeclared_single (h : Holds d tables) {name : String} (hname : name ∉ tables.map (·.1)) :
    d.isDeclared [name] = false := by
  rw [Draft.isDeclared, ← Bool.not_eq_true, List.contains_iff_mem]
  intro hmem
  obtain ⟨_, hother, heq⟩ := h.declared _ hmem
  cases heq
  exact hname hother

/-- A header starts a new table. -/
theorem openTable (h : Holds d tables) {name : String} (hname : name ∉ tables.map (·.1)) :
    ∃ d', d.openTable [name] = some d' ∧ Holds d' (tables ++ [(name, .dict (named []))]) ∧
      d'.header = [name] := by
  have hsettle : d.settle = d := by
    cases d
    obtain rfl := h.pending
    rfl
  have hroot : modifyAt true some [name] d.root = some (named (tables ++ [(name, .dict (named []))])) := by
    rw [modifyAt, h.root, lookupText_named, lookup_of_not_mem hname]
    exact congrArg some (putKey_of_not_mem hname _)
  refine ⟨{ d with
    root := named (tables ++ [(name, .dict (named []))])
    declared := [name] :: d.declared
    header := [name] }, ?_, ⟨rfl, h.pending, ?_, h.closed⟩, rfl⟩
  · rw [Draft.openTable, hsettle, h.isDeclared_single hname, h.isClosed_single name, hroot]
    rfl
  · rw [List.forall_mem_cons]
    refine ⟨⟨name, by simp, rfl⟩, fun path hpath => ?_⟩
    obtain ⟨other, hother, rfl⟩ := h.declared path hpath
    rw [List.map_append]
    exact ⟨other, List.mem_append_left _ hother, rfl⟩

/-- An assignment adds to the last table. -/
theorem assign {name key : String} {inner : List (String × Value)} (v : Value)
    (h : Holds d (tables ++ [(name, .dict (named inner))])) (hheader : d.header = [name])
    (hname : name ∉ tables.map (·.1)) (hkey : key ∉ inner.map (·.1)) :
    ∃ d', d.assign [key] v = some d' ∧
      Holds d' (tables ++ [(name, .dict (named (inner ++ [(key, v)])))]) ∧ d'.header = [name] := by
  have hthrough : Draft.through d.header [key] = [] := rfl
  have hadd : addKey key v (named inner) = some (named (inner ++ [(key, v)])) := by
    rw [addKey, lookupText_named, lookup_of_not_mem hkey, if_neg (by simp), putKey_of_not_mem hkey]
  have hroot : modifyAt true (addKey key v) [name] d.root =
      some (named (tables ++ [(name, .dict (named (inner ++ [(key, v)])))])) := by
    rw [modifyAt, h.root, lookupText_named, lookup_concat hname]
    dsimp only
    rw [modifyAt, hadd, Option.map_some, putKey_concat hname]
  refine ⟨{ d with
    root := named (tables ++ [(name, .dict (named (inner ++ [(key, v)])))])
    closed := if Draft.closes v then [name, key] :: d.closed else d.closed }, ?_,
    ⟨rfl, h.pending, ?_, ?_⟩, hheader⟩
  · rw [Draft.assign, hthrough, hheader]
    simp [h.isClosed_single, hroot]
  · simpa using h.declared
  · dsimp only
    split
    · rw [List.forall_mem_cons]
      exact ⟨rfl, h.closed⟩
    · exact h.closed

end Holds

end Toml

end SearchQuery
