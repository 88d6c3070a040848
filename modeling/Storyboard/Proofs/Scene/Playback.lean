import Mathlib.Logic.Function.Iterate
import Storyboard.Proofs.Scene.Operations
import Storyboard.Scene.Display

/-!
# Scenes in the course of a display

A display goes on in rounds: a tick advances the objects of the snapshot, and the frame drawn
after it shows what the tick has left. The scene of every round is an iterate of one function,
so a property that the few updates of a tick keep holds in every frame of every display,
however long it runs.

Main results:

- Theorem `Scene.TickStable.afterRounds`: what the updates of a tick keep, all rounds keep.
- Theorem `Scene.display_eq_some`: a display draws the frame of every round, in order.
- Theorem `Scene.Sound.moveId_of_motion`: the moves that a tick makes are never refused.
-/

namespace Storyboard.Scene

open Objects

/-! ## Rounds -/

/-- One round of a display: a tick, and the count of the frame that follows it. -/
def round (p : Scene × List EntityId) : Scene × List EntityId :=
  ((p.1.tick p.2).1.countFrame, (p.1.tick p.2).2.1)

/-- The scene and what is left of the snapshot after a number of rounds of a display. -/
def afterRounds (s : Scene) (n : Nat) : Scene × List EntityId := round^[n] (s, s.renderOrder)

/-- The frame that shows what is left of a snapshot. -/
def frameOf (p : Scene × List EntityId) : Frame := p.1.frame p.2

/-- The first round of a display, and those that follow it while something changes. -/
theorem settleFrames_succ (s : Scene) (order : List EntityId) (r : Recording)
    (frames limit : Nat) :
    s.settleFrames order r frames (limit + 1) =
      if (s.tick order).2.2 then
        (round (s, order)).1.settleFrames (round (s, order)).2
          (r.render (frameOf (round (s, order)))) (frames + 1) limit
      else
        some ⟨(round (s, order)).1, r.render (frameOf (round (s, order))), frames + 1⟩ :=
  rfl

/-- A display that comes to rest has drawn the frames of its rounds. -/
theorem settleFrames_eq_some {s : Scene} {order : List EntityId} {r : Recording}
    {frames limit : Nat} {d : Displayed} (h : s.settleFrames order r frames limit = some d) :
    ∃ n, d.frames = frames + n ∧ d.scene = (round^[n] (s, order)).1 ∧
      d.recording = ((List.range n).map fun k => frameOf (round^[k + 1] (s, order))).foldl
        Recording.render r := by
  induction limit generalizing s order r frames with
  | zero => cases h
  | succ limit ih =>
      rw [settleFrames_succ] at h
      split at h
      · obtain ⟨n, hframes, hscene, hrecording⟩ := ih h
        refine ⟨n + 1, by omega, hscene, ?_⟩
        rw [hrecording, List.range_succ_eq_map, List.map_cons, List.foldl_cons, List.map_map]
        rfl
      · cases h
        exact ⟨1, rfl, rfl, rfl⟩

/-- A display draws the frames of its rounds, in order, and then registers the overlay. -/
theorem display_eq_some {s : Scene} {limit : Nat} {r : Recording} {d : Displayed}
    (h : s.display limit r = some d) :
    d.recording =
        ((List.range d.frames).map fun k => frameOf (s.afterRounds (k + 1))).foldl
          Recording.render r ∧
      d.scene =
        if (s.afterRounds d.frames).1.config.statusOverlay then
          (s.afterRounds d.frames).1.updateStatus
        else (s.afterRounds d.frames).1 := by
  obtain ⟨d', hd', rfl⟩ := Option.map_eq_some_iff.mp h
  obtain ⟨n, hframes, hscene, hrecording⟩ := settleFrames_eq_some hd'
  rw [Nat.zero_add] at hframes
  subst hframes
  have hstart : d'.scene = (s.afterRounds d'.frames).1 := hscene
  rw [hstart]
  split
  · exact ⟨hrecording, rfl⟩
  · exact ⟨hrecording, hstart⟩

/-! ## What ticks keep -/

/-- The scene in the middle of a tick, when the objects of a list have been advanced. -/
def midTick (s : Scene) (done : List EntityId) : Scene :=
  (done.foldl stepEntity s.tickStart).scene

/-- A property of scenes that every update of a tick keeps. -/
structure StepStable (P : Scene → Prop) : Prop where
  halt : ∀ {s} id, P s → P (s.modify id Entity.halt)
  move : ∀ {s u} id pos, P s → s.moveId id pos = .ok u → P u
  fade : ∀ {s} id alpha, P s → P (s.modify id fun e => { e with alpha := alpha })
  remove : ∀ {s} id, P s → P (s.remove id)

/-- A property of scenes that the count of the frames does not end either. -/
structure TickStable (P : Scene → Prop) : Prop extends StepStable P where
  countFrame : ∀ {s}, P s → P s.countFrame

namespace StepStable

variable {P : Scene → Prop} (hP : StepStable P)

include hP

theorem advance {s : Scene} (hs : P s) (id : EntityId) (pos : Point) (m : Motion) :
    P (s.advance id pos m) := by
  unfold Scene.advance
  simp only
  have hslow : ∀ b : Bool, P (if b then s.modify id Entity.halt else s) := by
    intro b
    split
    · exact hP.halt id hs
    · exact hs
  split
  · exact hP.halt id hs
  · split
    · next u hu => exact hP.move id _ (hslow _) hu
    · exact hP.halt id (hslow _)

theorem stepEntity {t : TickState} (ht : P t.scene) (id : EntityId) :
    P (Scene.stepEntity t id).scene := by
  have hmotion : P (stepMotion t id).scene := by
    unfold stepMotion
    split
    · exact ht
    · split
      · exact ht
      · exact hP.advance ht id _ _
  unfold Scene.stepEntity stepFade
  split
  · exact hmotion
  · split
    · exact hP.fade id _ hmotion
    · exact hmotion

/-- The property holds in the middle of a tick. -/
theorem midTick {s : Scene} (hs : P s) (done : List EntityId) : P (s.midTick done) := by
  suffices h : ∀ t : TickState, P t.scene → P (done.foldl Scene.stepEntity t).scene from
    h s.tickStart hs
  intro t ht
  induction done generalizing t with
  | nil => exact ht
  | cons id done ih => exact ih _ (hP.stepEntity ht id)

theorem tick {s : Scene} (hs : P s) (order : List EntityId) : P (s.tick order).1 := by
  unfold Scene.tick
  simp only
  generalize (order.foldl Scene.stepEntity s.tickStart).faded = faded
  have hmid : P (order.foldl Scene.stepEntity s.tickStart).scene := hP.midTick hs order
  generalize (order.foldl Scene.stepEntity s.tickStart).scene = u at hmid
  induction faded generalizing u with
  | nil => exact hmid
  | cons id faded ih => exact ih _ (hP.remove id hmid)

end StepStable

/-- The property holds after every round of a display. -/
theorem TickStable.afterRounds {P : Scene → Prop} (hP : TickStable P) {s : Scene} (hs : P s)
    (n : Nat) : P (s.afterRounds n).1 := by
  induction n with
  | zero => exact hs
  | succ n ih =>
      rw [Scene.afterRounds, Function.iterate_succ_apply']
      exact hP.countFrame (hP.tick ih _)

/-! ## Soundness -/

/-- A tick changes nothing in a scene but its objects and their names. -/
theorem stepStable_of_objects {P : Scene → Prop}
    (hP : ∀ {s} entities names, P s → P { s with entities, names }) : StepStable P where
  halt := by
    intro s _ hs
    exact hP _ s.names hs
  move := by
    intro s u _ _ hs h
    unfold moveId at h
    split at h
    · cases h
      exact hs
    · split at h
      · cases h
      · cases h
        exact hP (s := s) _ s.names hs
  fade := by
    intro s _ _ hs
    exact hP _ s.names hs
  remove := by
    intro s _ hs
    unfold Scene.remove
    split
    · exact hs
    · exact hP _ _ hs

/-- A tick neither draws identifiers nor changes the configuration. -/
theorem tickStable_counter (id : EntityId) (config : SceneConfig) :
    TickStable fun s => s.nextId = id ∧ s.config = config where
  toStepStable := stepStable_of_objects fun _ _ hs => hs
  countFrame := by
    intro s hs
    exact hs

/-- Every round of a display counts one frame. -/
theorem frameCount_afterRounds (s : Scene) (n : Nat) :
    (s.afterRounds n).1.frameCount = s.frameCount + n := by
  induction n with
  | zero => rfl
  | succ n ih =>
      have hstable : StepStable fun u => u.frameCount = s.frameCount + n :=
        stepStable_of_objects fun _ _ hu => hu
      rw [afterRounds, Function.iterate_succ_apply']
      exact congrArg (· + 1) (hstable.tick ih _)

theorem tickStable_sound : TickStable Sound where
  halt := by
    intro s id hs
    apply hs.modify
    · intro e
      rfl
    · intro e
      rfl
    · intro e _ _
      rfl
  move := by
    intro s u id pos hs h
    exact hs.moveId h
  fade := by
    intro s id alpha hs
    apply hs.modify
    · intro e
      rfl
    · intro e
      rfl
    · intro e he hattached
      exact hs.objects.atRest (e := e) he hattached
  remove := by
    intro s id hs
    exact hs.remove id
  countFrame := by
    intro s hs
    exact hs.of_agree (.refl _ _) rfl rfl hs.objects

/-- Every attached object has a live parent and stands at its offset from it. -/
def Propagated (s : Scene) : Prop :=
  ∀ c e p, s.entity? c = some e → e.parent = some p →
    ∃ parent, s.entity? p = some parent ∧ e.pos = parent.pos + e.offset

namespace Sound

variable {s : Scene}

/-- The moves of an object with a motion are not refused, whether or not it is stopped first. -/
theorem moveId_of_motion (hs : s.Sound) {id : EntityId} {e : Entity}
    (he : s.entity? id = some e) (hmotion : e.motion ≠ none) (pos : Point) :
    (∃ u, s.moveId id pos = .ok u) ∧ ∃ u, (s.modify id Entity.halt).moveId id pos = .ok u := by
  have hfree : e.parent = none := by
    by_contra hattached
    exact hmotion (hs.objects.atRest he hattached)
  have hhalted : (s.modify id Entity.halt).entity? id = some e.halt := by
    rw [entity?] at he ⊢
    rw [Scene.modify, Table.get?_modify, if_pos rfl, he, Option.map_some]
  constructor
  · exact ⟨_, moveId_eq_ok he hfree pos⟩
  · exact ⟨_, moveId_eq_ok hhalted hfree pos⟩

/-- In a sound scene every attached object has a parent to follow, and follows it. -/
theorem propagated (hs : s.Sound) : s.Propagated := by
  intro c e p he hp
  obtain ⟨parent, hparent⟩ := hs.tied.parent_live ⟨e, he, hp⟩
  exact ⟨parent, hparent, hs.objects.atOffset c e p parent he hp hparent⟩

end Sound

end Storyboard.Scene
