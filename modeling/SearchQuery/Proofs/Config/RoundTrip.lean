import Mathlib
import SearchQuery.Proofs.Config.Settings
import SearchQuery.Proofs.Toml.Document

/-!
# Configurations that are read back

A configuration whose patterns can be read is the same after it has been written to a file and read again,
whatever its patterns are written with (`load_text`). A configuration that was read from any document has
such patterns, whether the document gives all settings or some, so writing it and reading it again changes
nothing but the path.

## Shape of the argument

The file is a document of two or three tables, and so it is read back as these tables (`read_written`). A
missing table of the bridge stands for the default of its only setting, and a list of patterns is written as
a list also if a text stood for it.
-/

namespace SearchQuery.Config

open Toml

/-- The tables that a configuration is written as. -/
def sections (c : Config) : List Section :=
  [⟨"text", [("exclude", .texts c.exclude), ("parse_meta", .flag c.parseMeta)]⟩,
    ⟨"display", [("colored_output", .flag c.coloredOutput)]⟩] ++
    if c.typeCast then [⟨"bridge", [("type_cast", .flag true)]⟩] else []

/-- A configuration is written as its sections. -/
theorem text_eq (c : Config) : c.text = written (sections c) :=
  rfl

/-- The names of sections and settings are plain. -/
theorem isPlain_sections (c : Config) : ∀ t ∈ sections c, t.IsPlain := by
  have htext : Section.IsPlain ⟨"text", [("exclude", .texts c.exclude), ("parse_meta", .flag c.parseMeta)]⟩ :=
    ⟨(by decide : IsPlain "text"), by simp only [List.forall_mem_cons]; decide, by simp⟩
  have hdisplay : Section.IsPlain ⟨"display", [("colored_output", .flag c.coloredOutput)]⟩ :=
    ⟨(by decide : IsPlain "display"), by simp only [List.forall_mem_cons]; decide, by simp⟩
  have hbridge : Section.IsPlain ⟨"bridge", [("type_cast", .flag true)]⟩ :=
    ⟨by decide, by decide, by simp⟩
  rw [sections, List.forall_mem_append]
  refine ⟨by simp [htext, hdisplay], ?_⟩
  split
  · simp [hbridge]
  · simp

theorem nodup_sections (c : Config) : ((sections c).map (·.name)).Nodup := by
  rw [sections]
  cases c.typeCast <;> simp

/-- A list of texts is read as patterns. -/
theorem patternTexts_list (texts : List String) : patternTexts (.list (texts.map .text)) = .ok texts := by
  simp only [patternTexts, mapM_text?_eq_some.mpr rfl]

/-- The tables hold the configuration. -/
theorem ofDocument_sections (path : Option String) (c : Config) :
    ofDocument path (.dict (named ((sections c).map Section.entry))) = .ok { c with path := path } := by
  have hread : ofDocument path (.dict (named ((sections c).map Section.entry))) =
      patternTexts (.list (c.exclude.map .text)) >>= fun texts =>
        .ok { c with exclude := texts, path := path } := by
    obtain ⟨exclude, parseMeta, typeCast, coloredOutput, -⟩ := c
    cases typeCast with
    | true => rfl
    | false => rfl
  rw [hread, patternTexts_list]
  rfl

/-- A configuration passes its check if its patterns can be read. -/
theorem checked_eq_ok_iff {m : Machine} {c : Config} {r : Config × List String} :
    checked c m = .ok r ↔ HasPatterns m c ∧ r = (c, warnings c) := by
  constructor
  · intro h
    rw [checked, validate] at h
    cases hbad : badPattern? c.exclude m with
    | some found =>
      rw [hbad] at h
      cases h
    | none =>
      rw [hbad] at h
      cases h
      exact ⟨badPattern?_eq_none.mp hbad, rfl⟩
  · rintro ⟨h, rfl⟩
    rw [checked, validate_of_hasPatterns h]
    rfl

/-- A configuration that is written to a file is read back. -/
theorem ofText_text {m : Machine} {c : Config} (h : HasPatterns m c) (path : String) :
    ofText path c.text m = .ok ({ c with path := some path }, warnings c) := by
  have hread : Toml.read c.text = .ok (.dict (named ((sections c).map Section.entry))) := by
    rw [text_eq]
    exact read_written (isPlain_sections c) (nodup_sections c)
  have hpatterns : HasPatterns m { c with path := some path } := h
  rw [ofText, hread]
  change ofDocument (some path) _ >>= (checked · m) = _
  rw [ofDocument_sections]
  exact checked_eq_ok_iff.mpr ⟨hpatterns, rfl⟩

/-- What is read from a document has patterns that can be read. -/
theorem hasPatterns_of_ofText {m : Machine} {path document : String} {c : Config} {ws : List String}
    (h : ofText path document m = .ok (c, ws)) : HasPatterns m c ∧ ws = warnings c := by
  rw [ofText] at h
  cases hdocument : Toml.read document with
  | error defect =>
    rw [hdocument] at h
    cases defect with
    | malformed => cases h
    | tooManyDigits => cases h
    | tooDeep => cases h
  | ok v =>
    rw [hdocument] at h
    change ofDocument (some path) v >>= (checked · m) = _ at h
    cases hread : ofDocument (some path) v with
    | error e =>
      rw [hread] at h
      cases h
    | ok c' =>
      rw [hread] at h
      obtain ⟨hpatterns, hresult⟩ := checked_eq_ok_iff.mp h
      obtain ⟨rfl, rfl⟩ := Prod.mk.inj hresult
      exact ⟨hpatterns, rfl⟩

/-- **Configurations are read back.** On any machine, a configuration whose patterns can be read, written to
a file and read again, is the same but for its path, with a warning if and only if it has no patterns. And
what was read from any document, written to a file and read again, is the same but for its path. -/
theorem load_text (m : Machine) :
    (∀ (c : Config) (path : String), HasPatterns m c →
      load path (some c.text) m = .ok ({ c with path := some path }, warnings c) ∧
        (warnings c ≠ [] ↔ c.exclude = [])) ∧
      ∀ (path path' document : String) (c : Config) (ws : List String),
        load path (some document) m = .ok (c, ws) →
          load path' (some c.text) m = .ok ({ c with path := some path' }, ws) := by
  refine ⟨fun c path h => ⟨ofText_text h path, ?_⟩, fun path path' document c ws h => ?_⟩
  · rw [warnings]
    cases c.exclude with
    | nil => simp
    | cons p ps => simp
  · obtain ⟨hpatterns, rfl⟩ := hasPatterns_of_ofText h
    exact ofText_text hpatterns path'

/-- Patterns with quotes, backslashes and control characters are read back, and so are flags, looks, groups
and references to them, and a text that stands for a list. -/
theorem load_text_escaped :
    let c : Config :=
      { exclude := ["\"\\.\n\r\x00\x7f'", "(?i)^(?P<n>a|b)(?<!b)(?P=n)$"]
        parseMeta := false
        typeCast := true }
    HasPatterns {} c ∧ load "b" (some c.text) {} = .ok ({ c with path := some "b" }, []) ∧
      load "a" (some "text.exclude = '(x)\\1'") {} = .ok ({ exclude := ["(x)\\1"], path := some "a" }, []) ∧
      load "b" (some ({ exclude := ["(x)\\1"], path := some "a" } : Config).text) {} =
        .ok ({ exclude := ["(x)\\1"], path := some "b" }, []) := by
  intro c
  have hpatterns : HasPatterns {} c :=
    badPattern?_eq_none.mp (Option.isNone_iff_eq_none.mp (by decide +kernel))
  have hload : load "a" (some "text.exclude = '(x)\\1'") {} =
      .ok ({ exclude := ["(x)\\1"], path := some "a" }, []) := by
    cbv
  exact ⟨hpatterns, ((load_text {}).1 c "b" hpatterns).1, hload, (load_text {}).2 "a" "b" _ _ _ hload⟩

end SearchQuery.Config
