import Storyboard.Proofs.Script.Offsets
import Storyboard.Proofs.Session.Literals

/-!
# What the name of an object denotes

An object may be given any name that an argument says literally, and where names are asked for, the
name stands for the object. Where a position is asked for, two other readers see the token first: a
token that is spelled like a number is a coordinate, and one that is spelled like a name with two
offsets is a place near the object with that name. Only what neither of them takes is the name of
an object, so an object whose name is spelled in one of these ways cannot be referred to by its
position.

Main results:

- Theorem `Scene.expandObject_eq`: where the object with a name is, or why it cannot be said.
- Theorem `Scene.Reachable.denotes_itself`: what the name of an object denotes.
-/

namespace Storyboard.Scene

variable {s : Scene} {name : String} {pos : Point}

/-- An object that has a position has a name that is in use. -/
theorem contains_of_position? (h : s.position? name = some pos) : s.contains name := by
  obtain ⟨id, hid, -⟩ := Option.bind_eq_some_iff.mp h
  exact (contains_iff s name).mpr ⟨id, hid⟩

/-- Where the object with a name is, or why it cannot be said. -/
theorem expandObject_eq (s : Scene) (token name : String) :
    s.expandObject token name =
      match s.position? name with
      | some pos => .ok pos
      | none =>
          .error (if s.contains name then .noPosition name token else .noObject name token) := by
  unfold expandObject
  cases hpos : s.position? name with
  | some pos => simp [contains_of_position? hpos]
  | none => split <;> simp_all

namespace Reachable

/-- The name of an object stands for the object wherever a name is asked for. Where a position is
asked for, it is that of the object, unless the name is spelled like a number or like a name with
two offsets: then the name is a coordinate, to which another one is missing, or it denotes a place
near the object with another name. -/
theorem denotes_itself (hs : s.Reachable) (hpos : s.position? name = some pos) :
    (∀ mode, s.expandName mode name = .ok [name]) ∧
    (¬ Number.Spelled name → (∀ base dx dy, ¬ OffsetReference.Spelled name base dx dy) →
      ∀ second, s.expandPosition name second = .ok pos) ∧
    (Number.Spelled name → s.expandPosition name none = .error (.missingCoordinate name)) ∧
    ∀ base dx dy, ¬ Number.Spelled name → OffsetReference.Spelled name base dx dy →
      base ≠ name ∧ ∀ second, s.expandPosition name second =
        match s.position? base with
        | some p => .ok (p + s.expandPoint dx dy)
        | none =>
            .error (if s.contains base then .noPosition base name else .noObject base name) := by
  have hused := contains_of_position? hpos
  have hreference : ¬ Number.Spelled name →
      ∀ second, s.expandPosition name second = s.expandReference name := by
    intro hnumber second
    simp only [expandPosition, (Number.ofToken?_eq_none_iff name).mpr hnumber]
  refine ⟨expandName_of_contains (hs.literals.used name hused) hused, ?_, ?_, ?_⟩
  · intro hnumber hoffsets second
    rw [hreference hnumber, expandReference, OffsetReference.ofToken?_eq_none hoffsets]
    simp only [expandObject_eq, hpos]
  · intro hnumber
    obtain ⟨x, hx⟩ := (Number.spelled_iff_exists name).mp hnumber
    simp only [expandPosition, hx]
  · intro base dx dy hnumber hoffsets
    refine ⟨hoffsets.ne, fun second => ?_⟩
    rw [hreference hnumber, expandReference, OffsetReference.spelled_iff_read.mp hoffsets]
    simp only [expandObject_eq]
    cases s.position? base <;> rfl

/-- A box, and two boxes with names that are spelled like a place near it and like a number. -/
def misread : Scene :=
  afterLine
    "define a box 10 10 white 100 100; define a+10+20 box 10 10 white 300 300; define 12 box"

theorem reachable_misread : misread.Reachable := reachable_afterLine _

/-- The first box is found under its name. -/
theorem denotes_itself_misread : misread.Reachable ∧ misread.position? "a" = some ⟨100, 100⟩ ∧
    misread.expandName .existing "a" = .ok ["a"] ∧
    misread.expandPosition "a" none = .ok ⟨100, 100⟩ := by
  have hpos : misread.position? "a" = some ⟨100, 100⟩ := by decide +kernel
  obtain ⟨hself, hplain, -⟩ := denotes_itself reachable_misread hpos
  have hnumber : ¬ Number.Spelled "a" := by
    rw [← Number.ofToken?_eq_none_iff]
    decide +kernel
  have hname : ∀ c ∈ ("a" : String).toList, OffsetReference.isNameChar c := by
    intro c hc
    rw [List.mem_singleton.mp hc]
    decide
  exact ⟨reachable_misread, hpos, hself .existing,
    hplain hnumber (OffsetReference.not_spelled_of_name hname) none⟩

/-- Of the other two, one is taken for a place near the first box, and one for a coordinate. -/
theorem misread_positions : misread.Reachable ∧
    misread.position? "a+10+20" = some ⟨300, 300⟩ ∧
    misread.expandPosition "a+10+20" none = .ok ⟨110, 120⟩ ∧
    misread.position? "12" = some ⟨400, 300⟩ ∧
    misread.expandPosition "12" none = .error (.missingCoordinate "12") :=
  ⟨reachable_misread, by decide +kernel, by decide +kernel, by decide +kernel, by decide +kernel⟩

end Reachable

end Storyboard.Scene
