import Storyboard.Proofs.Session.Stability

/-!
# Reachable scenes

A scene is reachable if some run of statements leads to it from an empty scene, whatever the
palette, the renderer, the layout engine, the host and the settings are at each of them, and
whether or not statements fail. Every reachable scene is sound, because all operations of a
statement keep a scene sound.

Main results:

- Theorem `Scene.Reachable.sound`: reachable scenes are sound.
- Theorem `Scene.Reachable.hierarchy_consistent`: the hierarchy is a forest, and nothing in it
  moves against its parent.
- Theorem `Scene.Reachable.position_propagated`: attached objects stand at their offsets, also
  in the frames of a display.
- Theorem `Scene.Reachable.registry_inverse`: names and objects are in bijection, in the order
  of creation.
-/

namespace Storyboard

open Objects

/-! ## Runs from an empty scene -/

namespace Scene

/-- The scenes that lines lead to from an empty one, and those between the statements of a
line. Everything else in a session may change from one line to the next. -/
inductive Reachable : Scene → Prop
  | empty (config : SceneConfig) : Reachable (Scene.empty config)
  | line {s s' : Session} {limit : Nat} {text : String} {results : List StatementResult} :
      Reachable s.scene → s.runLine limit text = some (s', results) → Reachable s'.scene
  | statement {s s' : Session} {limit : Nat} {stmt : Statement} {fault : Option Fault} :
      Reachable s.scene → s.execute limit stmt = some (s', fault) → Reachable s'.scene

namespace Reachable

variable {s : Scene}

/-- Reachable scenes are sound. -/
theorem sound (hs : s.Reachable) : s.Sound := by
  induction hs with
  | empty config => exact Sound.empty config
  | line _ h ih => exact runStable_sound.runLine ih h
  | statement _ h ih => exact runStable_sound.execute ih h

/-- The scene that one line leaves in a session whose palette has one colour. -/
def afterLine (text : String) : Scene :=
  let start : Session := Session.new default ⟨fun _ => false, fun _ => none⟩
  let palette := Palette.empty.define Defaults.color ⟨255, 255, 255, 255⟩
  match Session.runLine 1 { start with palette } text with
  | some (s, _) => s.scene
  | none => Scene.empty default

/-- What one line leaves is reachable. -/
theorem reachable_afterLine (text : String) : (afterLine text).Reachable := by
  unfold afterLine
  simp only
  split
  · next h => exact Reachable.line (Reachable.empty default) h
  · exact Reachable.empty default

/-- Two boxes, the second of which follows the first. -/
def followed : Scene := afterLine "define a box; define b box; attach b a 1 2"

/-- The two directions of the hierarchy agree and have no cycle; free objects have no offset,
attached ones no motion. Hence no move is refused in the middle of any tick of a display, be it
made before or after the object is stopped. -/
theorem hierarchy_consistent (hs : s.Reachable) :
    (∀ p c, Lists s.entities p c ↔ IsParent s.entities p c) ∧
    (∀ p e, s.entity? p = some e → e.children.Nodup) ∧
    (∀ p, ¬ Below s.entities p p) ∧
    (∀ c e, s.entity? c = some e → e.parent = none → e.offset = Point.zero) ∧
    (∀ c e, s.entity? c = some e → e.parent ≠ none → e.motion = none) ∧
    ∀ n done id e, ((s.afterRounds n).1.midTick done).entity? id = some e → e.motion ≠ none →
      ∀ pos, (∃ u, ((s.afterRounds n).1.midTick done).moveId id pos = .ok u) ∧
        ∃ u, (((s.afterRounds n).1.midTick done).modify id Entity.halt).moveId id pos = .ok u := by
  have hobjects : Objects.Sound s.entities := hs.sound.objects
  refine ⟨hobjects.forest.lists_iff_isParent, ?_, hobjects.forest.acyclic, ?_, ?_, ?_⟩
  · intro p e he
    exact hobjects.forest.nodup_children he
  · intro c e he hfree
    exact hobjects.forest.offset_of_free he hfree
  · intro c e he hattached
    exact hobjects.atRest he hattached
  · intro n done id e he hmotion pos
    have hround : (s.afterRounds n).1.Sound := tickStable_sound.afterRounds hs.sound n
    exact (tickStable_sound.midTick hround done).moveId_of_motion he hmotion pos

/-- The first box lists the second. -/
theorem lists_followed : followed.Reachable ∧ Lists followed.entities 1 2 := by
  have hreachable : followed.Reachable := reachable_afterLine _
  refine ⟨hreachable, ((hierarchy_consistent hreachable).1 1 2).mpr ?_⟩
  have hparent : (followed.entity? 2).map Entity.parent = some (some 1) := by decide +kernel
  exact Option.map_eq_some_iff.mp hparent

/-- Every attached object stands at its offset from its parent, which is alive; so it does in
every frame that a display draws. -/
theorem position_propagated (hs : s.Reachable) :
    s.Propagated ∧ (∀ n, (s.afterRounds n).1.Propagated) ∧
    ∀ limit r d, s.display limit r = some d →
      d.recording =
        ((List.range d.frames).map fun k => frameOf (s.afterRounds (k + 1))).foldl
          Recording.render r := by
  refine ⟨hs.sound.propagated, ?_, ?_⟩
  · intro n
    exact (tickStable_sound.afterRounds hs.sound n).propagated
  · intro limit r d h
    exact (display_eq_some h).1

/-- The second box stands at its offset from the first. -/
theorem pos_followed : followed.Reachable ∧ ∃ a b, followed.entity? 1 = some a ∧
    followed.entity? 2 = some b ∧ b.pos = a.pos + b.offset := by
  have hreachable : followed.Reachable := reachable_afterLine _
  have hparent : (followed.entity? 2).map Entity.parent = some (some 1) := by decide +kernel
  obtain ⟨b, hb, hp⟩ := Option.map_eq_some_iff.mp hparent
  obtain ⟨a, ha, hpos⟩ := (position_propagated hreachable).1 2 b 1 hb hp
  exact ⟨hreachable, a, b, ha, hb, hpos⟩

/-- The name index and the objects are inverse to each other, every object has the identifier
that it is kept under, and the counter is not behind any identifier: objects are listed in the
order of their creation, and no two have one name. -/
theorem registry_inverse (hs : s.Reachable) :
    (∀ name id, s.id? name = some id ↔ ∃ e, s.entity? id = some e ∧ e.name = name) ∧
    (∀ id e, s.entity? id = some e → e.id = id ∧ id ≤ s.nextId) ∧
    s.objects.Pairwise (fun a b => a.id < b.id) ∧
    s.liveNames.Nodup ∧
    (s.canCreate 1 → ∀ id e, s.entity? id = some e →
      ∀ name pos shape, id < (s.newEntity name pos shape).1.id) := by
  have hregistered : s.Registered := hs.sound.registered
  refine ⟨?_, ?_, hregistered.pairwise_objects, hregistered.nodup_liveNames, ?_⟩
  · intro name id
    constructor
    · exact hregistered.name_eq
    · rintro ⟨e, he, rfl⟩
      exact hregistered.id?_name he
  · intro id e he
    exact ⟨hregistered.id_eq he, hregistered.id_le he⟩
  · intro hcount id e he name pos shape
    have hnext : (s.nextId + 1).toNat = s.nextId.toNat + 1 := (hs.sound.entity?_next hcount).2
    have hle := UInt64.le_iff_toNat_le.mp (hregistered.id_le he)
    rw [UInt64.lt_iff_toNat_lt]
    change id.toNat < (s.nextId + 1).toNat
    omega

/-- The second box is found by its name. -/
theorem id?_followed : followed.Reachable ∧ followed.id? "b" = some 2 := by
  have hreachable : followed.Reachable := reachable_afterLine _
  refine ⟨hreachable, ((registry_inverse hreachable).1 "b" 2).mpr ?_⟩
  have hname : (followed.entity? 2).map Entity.name = some "b" := by decide +kernel
  exact Option.map_eq_some_iff.mp hname

end Reachable

end Scene

end Storyboard
