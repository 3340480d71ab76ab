import ClientGen.Description.Read

/-!
# Descriptions and their titles

A text is read as a description if it parses in its markup and the title is not blank.
-/

namespace ClientGen.Specification

variable {markup : Markup} {text : String} {spec other : Specification}

/-- A text describes something, whose title may be blank. -/
inductive Parses (text : String) : Markup → Specification → Prop where
  | json {value : Json}
      (h : Json.read Description.fields (.record .specification) text = .ok value) :
    Parses text .json (ofJson value)
  | yaml {value : Json}
      (h : Yaml.read Description.fields (.record .specification) text = some value) :
    Parses text .yaml (ofJson value)

/-- A text is parsed as one specification at most. -/
theorem Parses.unique (h : Parses text markup spec) (hother : Parses text markup other) :
    spec = other := by
  cases h with
  | json h =>
    cases hother with
    | json hother => rw [Except.ok.inj (h.symm.trans hother)]
  | yaml h =>
    cases hother with
    | yaml hother => rw [Option.some.inj (h.symm.trans hother)]

/-- A specification passes as itself if its title is not blank. -/
theorem withTitle_eq_ok_iff :
    withTitle other = .ok spec ↔ other = spec ∧ Text.trim spec.title ≠ "" := by
  rw [withTitle]
  split
  next hblank => exact iff_of_false (by simp) fun ⟨heq, h⟩ => h (heq ▸ hblank)
  next hkeep => exact ⟨fun h => Except.ok.inj h ▸ ⟨rfl, hkeep⟩, fun h => congrArg _ h.1⟩

/-- A text is read as a description if it parses and has a title. -/
theorem read_eq_ok_iff :
    Specification.read markup text = .ok spec ↔
      Parses text markup spec ∧ Text.trim spec.title ≠ "" := by
  constructor
  · intro h
    cases markup with
    | json =>
      rw [Specification.read, ofJsonText] at h
      split at h
      next => cases h
      next value hvalue =>
        obtain ⟨rfl, hkeep⟩ := withTitle_eq_ok_iff.mp h
        exact ⟨.json hvalue, hkeep⟩
    | yaml =>
      rw [Specification.read, ofYamlText] at h
      split at h
      next => cases h
      next value hvalue =>
        obtain ⟨rfl, hkeep⟩ := withTitle_eq_ok_iff.mp h
        exact ⟨.yaml hvalue, hkeep⟩
  · rintro ⟨hparses, hkeep⟩
    have htitle := withTitle_eq_ok_iff.mpr ⟨rfl, hkeep⟩
    cases hparses with
    | json hvalue => rw [Specification.read, ofJsonText, hvalue, ← htitle]
    | yaml hvalue => rw [Specification.read, ofYamlText, hvalue, ← htitle]

end ClientGen.Specification
