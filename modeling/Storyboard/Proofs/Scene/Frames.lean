import Storyboard.Proofs.Scene.Rounds

/-!
# The frames of a display

A frame lists the objects of its snapshot that can be drawn, in the order of the snapshot. Since
the snapshot of every round is the render order without the objects that have gone, each frame
selects from the render order, and what one frame leaves out stays out of the frames after it.

Main results:

- Theorem `Scene.Registered.ids_frame`: which objects a frame lists, and in which order.
- Theorem `Scene.Sound.ids_frameOf`: which objects the frame of a round lists.
- Theorem `Scene.Sound.ids_frameOf_sublist`: no frame lists what one before it has left out.
- Theorem `Scene.toList_film`: what the renderer is asked for.
-/

namespace Storyboard

/-! ## Recordings -/

namespace Recording

@[simp] theorem toList_render (r : Recording) (frame : Frame) :
    (r.render frame).toList = r.toList ++ [.clear, .draw frame, .present] := by
  simp [render]

@[simp] theorem frames_render (r : Recording) (frame : Frame) :
    (r.render frame).frames = r.frames ++ [frame] := by
  simp [frames]

end Recording

namespace Scene

variable {s : Scene}

/-- The renderer is asked to clear, to draw and to present, once for each round. -/
theorem toList_film (s : Scene) (r : Recording) (n : Nat) :
    (s.film r n).toList = r.toList ++ (List.range n).flatMap fun k =>
      [.clear, .draw (frameOf (s.afterRounds (k + 1))), .present] := by
  induction n with
  | zero => simp [film]
  | succ n ih => simp [film_succ, ih, List.range_succ]

/-- The frames of a number of rounds, in order. -/
theorem frames_film (s : Scene) (r : Recording) (n : Nat) :
    (s.film r n).frames =
      r.frames ++ (List.range n).map fun k => frameOf (s.afterRounds (k + 1)) := by
  induction n with
  | zero => simp [film]
  | succ n ih => simp [film_succ, ih, List.range_succ]

/-! ## What a frame lists -/

/-- Whether an object is alive and can be drawn: a link needs both of its ends. -/
def isDrawn (s : Scene) (id : EntityId) : Bool :=
  (s.entity? id).any fun e =>
    match e.shape with
    | .link source target _ => s.isLive source && s.isLive target
    | _ => true

/-- What a frame shows of an object. -/
def shown? (s : Scene) (id : EntityId) : Option FrameEntry := do
  let e ← s.entity? id
  let p ← s.placement? e
  some ⟨e.id, e.name, p, e.alpha⟩

theorem frame_eq (s : Scene) (order : List EntityId) : s.frame order = order.filterMap s.shown? := by
  unfold frame placements
  rw [List.map_filterMap]
  apply congrArg (List.filterMap · order)
  funext id
  rw [shown?]
  cases s.entity? id with
  | none => rfl
  | some e => cases hp : s.placement? e <;> simp [hp]

/-- Everything has a placement but a link with a missing end. -/
theorem isSome_placement? (s : Scene) (e : Entity) :
    (s.placement? e).isSome =
      match e.shape with
      | .link source target _ => s.isLive source && s.isLive target
      | _ => true := by
  unfold placement?
  cases e.shape with
  | link source target stroke =>
      simp only [Option.isSome_map, linkEnds?, isLive]
      cases s.entity? source <;> cases s.entity? target <;> rfl
  | _ => rfl

/-- An object is shown exactly if it can be drawn. -/
theorem isSome_shown? (s : Scene) (id : EntityId) : (s.shown? id).isSome = s.isDrawn id := by
  rw [shown?, isDrawn]
  cases s.entity? id with
  | none => rfl
  | some e =>
      rw [Option.any_some, ← isSome_placement?]
      cases hp : s.placement? e <;> simp [hp]

/-- A frame shows live objects as they are. -/
theorem Registered.mem_frame (hs : s.Registered) {order : List EntityId} {f : FrameEntry}
    (hf : f ∈ s.frame order) :
    ∃ e, s.entity? f.id = some e ∧ f.name = e.name ∧ f.alpha = e.alpha ∧
      s.placement? e = some f.placement := by
  rw [frame_eq, List.mem_filterMap] at hf
  obtain ⟨id, -, hshown⟩ := hf
  obtain ⟨e, he, hrest⟩ := Option.bind_eq_some_iff.mp hshown
  obtain ⟨p, hp, hlast⟩ := Option.bind_eq_some_iff.mp hrest
  cases hlast
  exact ⟨e, (hs.id_eq he).symm ▸ he, rfl, rfl, hp⟩

/-- A frame lists the objects of its snapshot that can be drawn, in the same order. -/
theorem Registered.ids_frame (hs : s.Registered) (order : List EntityId) :
    (s.frame order).map FrameEntry.id = order.filter s.isDrawn := by
  rw [frame_eq, List.map_filterMap, ← List.filterMap_eq_filter]
  apply congrArg (List.filterMap · order)
  funext id
  rw [Option.guard, ← isSome_shown?]
  cases hshown : s.shown? id with
  | none => rfl
  | some f =>
      obtain ⟨e, he, hrest⟩ := Option.bind_eq_some_iff.mp hshown
      obtain ⟨p, -, hlast⟩ := Option.bind_eq_some_iff.mp hrest
      cases hlast
      simp [hs.id_eq he]

/-! ## The frames of a run -/

namespace Sound

variable (hs : s.Sound)

include hs

/-- The frame of a round lists the objects of the render order that can be drawn then. -/
theorem ids_frameOf (n : Nat) :
    (frameOf (s.afterRounds n)).map FrameEntry.id =
      s.renderOrder.filter (s.afterRounds n).1.isDrawn := by
  have hsound : (s.afterRounds n).1.Sound := tickStable_sound.afterRounds hs n
  rw [frameOf, hsound.registered.ids_frame, (hs.afterRounds_spec n).2, List.filter_filter]
  apply List.filter_congr
  intro x _
  unfold isDrawn isLive
  cases (s.afterRounds n).1.entity? x <;> simp

/-- What can be drawn after a number of rounds could be drawn after every number before it. -/
theorem isDrawn_of_le {j k : Nat} (hle : j ≤ k) {x : EntityId}
    (hdrawn : (s.afterRounds k).1.isDrawn x) : (s.afterRounds j).1.isDrawn x := by
  have hlisted : ∃ e, (s.afterRounds k).1.entity? x = some e ∧
      (match e.shape with
        | .link source target _ =>
            (s.afterRounds k).1.isLive source && (s.afterRounds k).1.isLive target
        | _ => true) = true := by
    rw [isDrawn] at hdrawn
    cases he : (s.afterRounds k).1.entity? x with
    | none => simp [he] at hdrawn
    | some e =>
        rw [he, Option.any_some] at hdrawn
        exact ⟨e, rfl, hdrawn⟩
  obtain ⟨e, he, hk⟩ := hlisted
  have hlive : (s.afterRounds j).1.isLive x := hs.isLive_of_le hle (by simp [isLive, he])
  obtain ⟨e', he'⟩ := Option.isSome_iff_exists.mp hlive
  have hshape : e'.shape = e.shape := by
    obtain ⟨a, ha, hkept, -⟩ := hs.eq_of_afterRounds he
    obtain ⟨a', ha', hkept', -⟩ := hs.eq_of_afterRounds he'
    rw [ha] at ha'
    cases ha'
    rw [hkept, hkept']
    rfl
  rw [isDrawn, he', Option.any_some, hshape]
  split at hk
  · next source target stroke =>
    rw [Bool.and_eq_true] at hk ⊢
    exact ⟨hs.isLive_of_le hle hk.1, hs.isLive_of_le hle hk.2⟩
  · rfl

/-- The objects of a frame are among those of every frame before it, in the same order. -/
theorem ids_frameOf_sublist {j k : Nat} (hle : j ≤ k) :
    ((frameOf (s.afterRounds k)).map FrameEntry.id).Sublist
      ((frameOf (s.afterRounds j)).map FrameEntry.id) := by
  rw [hs.ids_frameOf k, hs.ids_frameOf j]
  apply List.monotone_filter_right
  intro x hdrawn
  exact hs.isDrawn_of_le hle hdrawn

end Sound

end Scene

end Storyboard
