import Storyboard.Proofs.Scene.Frames
import Storyboard.Proofs.Scene.Interchange
import Storyboard.Proofs.Session.Reachable

/-!
# Displays of reachable scenes

What a display of a reachable scene draws and leaves behind, and when it comes to an end.
Nothing is assumed about the numbers in the scene: positions, goals, speeds and opacities are
floating-point numbers that a script may have set to anything.

Main results:

- Theorem `Scene.Reachable.display_at_rest`: what a display has done to a scene when it ends.
- Theorem `Scene.Reachable.frames_select`: the frames of a display, whether or not it ends.
- Theorem `Scene.Reachable.tick_perm`: the order of the snapshot does not matter to a tick.
- Theorem `Scene.Reachable.display_ends_iff`: a display ends exactly if every visible object
  comes to rest by itself. It need not: a step of one pixel can be lost in rounding.
-/

namespace Storyboard.Scene.Reachable

variable {s : Scene}

/-- A box that fades, a box that moves, and a link from the first box to itself. -/
def fading : Scene :=
  afterLine ("define a box 2 2 white 0 0; define b box 2 2 white 3 3; define c link a a; " ++
    "priority c 1; alpha a 0.05; fade a; animate b 4.5 3")

theorem renderOrder_fading : fading.renderOrder = [1, 2, 3] := by
  -- The objects were created in the order in which they are drawn.
  rw [renderOrder, List.mergeSort_of_pairwise (by decide +kernel)]
  decide +kernel

theorem display_fading : ∃ d, fading.display 3 default = some d := by
  rw [exists_display_iff]
  refine ⟨2, by decide, ?_⟩
  rw [isBusy, afterRounds, renderOrder_fading]
  decide +kernel

/-! ## The end of a display -/

/-- A display without the overlay makes one tick for each of its frames, and only the last tick
reports no change. It leaves no visible object that moves or fades. Only visible fading objects
have gone, and what is left differs in where it stands, in the motions of visible objects and in
the ties to what has gone. -/
theorem display_at_rest (hs : s.Reachable) (hoverlay : s.config.statusOverlay = false)
    {limit : Nat} {r : Recording} {d : Displayed} (h : s.display limit r = some d) :
    (1 ≤ d.frames ∧ d.scene = (s.afterRounds d.frames).1 ∧
      ∀ k < d.frames, s.isBusy k = decide (k + 1 < d.frames)) ∧
    (d.recording.toList = r.toList ++ ((List.range d.frames).flatMap fun k =>
        [.clear, .draw (frameOf (s.afterRounds (k + 1))), .present]) ∧
      d.scene.frameCount = s.frameCount + d.frames) ∧
    (∀ id e', d.scene.entity? id = some e' → e'.visible = true →
      e'.motion = none ∧ e'.fadeOut = false) ∧
    (∀ id e, s.entity? id = some e → d.scene.entity? id = none →
      e.visible = true ∧ e.fadeOut = true) ∧
    ∀ id e', d.scene.entity? id = some e' → ∃ e, s.entity? id = some e ∧
      e' = { e.among d.scene.isLive with pos := e'.pos, motion := e'.motion } ∧
      (e.visible = false → e'.motion = e.motion) := by
  obtain ⟨n, -, hbusy, hrest, rfl⟩ := (display_eq_some_iff hoverlay).mp h
  have hsound : s.Sound := hs.sound
  refine ⟨⟨Nat.succ_le_succ n.zero_le, rfl, ?_⟩, ⟨toList_film s r (n + 1),
    frameCount_afterRounds s (n + 1)⟩, ?_, ?_, ?_⟩
  · intro k hk
    rcases Nat.lt_succ_iff_lt_or_eq.mp hk with hk | rfl
    · rw [hbusy k hk]
      simpa using hk
    · rw [hrest]
      simp
  · intro id e' he' hvisible
    simpa [Entity.isActive] using hsound.isActive_of_rest hrest he' hvisible
  · intro id e he hgone
    exact hsound.faded_of_gone he hgone
  · intro id e' he'
    exact hsound.eq_of_rest hrest he'

/-- Every object of the scene that is left is at rest, and the frames have been counted. -/
theorem fading_at_rest : ∃ d, fading.config.statusOverlay = false ∧
    fading.display 3 default = some d ∧ d.scene.frameCount = d.frames ∧
    ∀ id e, d.scene.entity? id = some e → e.visible = true → e.motion = none := by
  have hreachable : fading.Reachable := reachable_afterLine _
  obtain ⟨d, hd⟩ := display_fading
  obtain ⟨hoverlay, hstart⟩ : fading.config.statusOverlay = false ∧ fading.frameCount = 0 := by
    decide +kernel
  obtain ⟨-, ⟨-, hcount⟩, hstill, -⟩ := display_at_rest hreachable hoverlay hd
  rw [hstart, Nat.zero_add] at hcount
  exact ⟨d, hoverlay, hd, hcount, fun id e he hvisible => (hstill id e he hvisible).1⟩

/-! ## The frames of a display -/

/-- After every round of a display the frame lists those objects of the render order that are
still alive, in the same order and once each, except links that have lost an end; it shows them
as they are then. So the objects of a frame are among those of the frames before it, and hidden
objects are in none. These are the frames that the renderer is asked for, by displays that end
and by those that are still busy. -/
theorem frames_select (hs : s.Reachable) :
    (∀ k, (frameOf (s.afterRounds k)).map FrameEntry.id =
      s.renderOrder.filter (s.afterRounds k).1.isDrawn) ∧
    s.renderOrder.Nodup ∧
    (∀ k f, f ∈ frameOf (s.afterRounds k) → ∃ e, (s.afterRounds k).1.entity? f.id = some e ∧
      f.name = e.name ∧ f.alpha = e.alpha ∧
      (s.afterRounds k).1.placement? e = some f.placement) ∧
    (∀ j k, j ≤ k → ((frameOf (s.afterRounds k)).map FrameEntry.id).Sublist
      ((frameOf (s.afterRounds j)).map FrameEntry.id)) ∧
    (∀ j k id, j ≤ k → (s.afterRounds j).1.isDrawn id = false →
      ∀ f ∈ frameOf (s.afterRounds k), f.id ≠ id) ∧
    (∀ k f, f ∈ frameOf (s.afterRounds k) → ∃ e, s.entity? f.id = some e ∧ e.visible = true) ∧
    (∀ limit r d, s.display limit r = some d →
      d.recording.frames =
        r.frames ++ (List.range d.frames).map fun k => frameOf (s.afterRounds (k + 1))) ∧
    ∀ n r, (∀ k < n, s.isBusy k) → (∀ limit,
        s.settleFrames s.renderOrder r 0 (n + limit) =
          (s.afterRounds n).1.settleFrames (s.afterRounds n).2 (s.film r n) n limit) ∧
      (s.film r n).frames =
        r.frames ++ (List.range n).map fun k => frameOf (s.afterRounds (k + 1)) := by
  have hsound : s.Sound := hs.sound
  have hids := hsound.ids_frameOf
  have hlisted : ∀ k f, f ∈ frameOf (s.afterRounds k) →
      f.id ∈ s.renderOrder ∧ (s.afterRounds k).1.isDrawn f.id = true := by
    intro k f hf
    rw [← List.mem_filter, ← hids k]
    exact List.mem_map_of_mem hf
  refine ⟨hids, hsound.registered.nodup_renderOrder, ?_, ?_, ?_, ?_, ?_, ?_⟩
  · intro k f hf
    exact (tickStable_sound.afterRounds hsound k).registered.mem_frame hf
  · intro j k hle
    exact hsound.ids_frameOf_sublist hle
  · rintro j k id hle hlost f hf rfl
    rw [hsound.isDrawn_of_le hle (hlisted k f hf).2] at hlost
    cases hlost
  · intro k f hf
    exact (hsound.registered.mem_renderOrder f.id).mp (hlisted k f hf).1
  · intro limit r d h
    rw [(display_eq_some h).1]
    exact frames_film s r d.frames
  · intro n r hbusy
    exact ⟨settleFrames_resume hbusy r, frames_film s r n⟩

/-- The link is in no frame from the second one on, because its ends have gone. -/
theorem frames_of_fading : fading.Reachable ∧
    ∀ k, 2 ≤ k → ∀ f ∈ frameOf (fading.afterRounds k), f.id ≠ 3 := by
  have hreachable : fading.Reachable := reachable_afterLine _
  have hlost : (fading.afterRounds 2).1.isDrawn 3 = false := by
    rw [afterRounds, renderOrder_fading]
    decide +kernel
  obtain ⟨-, -, -, -, hlater, -⟩ := frames_select hreachable
  exact ⟨hreachable, fun k hk => hlater 2 k 3 hk hlost⟩

/-! ## The order of the snapshot -/

/-- A tick leaves the same scene whatever the order of its snapshot is, reports a change in the
same cases, and leaves the same objects in the snapshot. So do all rounds of a display, whose
frames show the same in other orders, and the display ends after the same number of frames with
the same scene: the order in which objects are drawn does not change how they move. -/
theorem tick_perm (hs : s.Reachable) {order order' : List EntityId} (hnodup : order.Nodup)
    (hperm : order.Perm order') :
    (s.tick order).1 = (s.tick order').1 ∧
    (s.tick order).2.2 = (s.tick order').2.2 ∧
    (s.tick order).2.1.Perm (s.tick order').2.1 ∧
    (∀ n, (round^[n] (s, order)).1 = (round^[n] (s, order')).1 ∧
      (frameOf (round^[n] (s, order))).Perm (frameOf (round^[n] (s, order')))) ∧
    ∀ limit r, (s.settleFrames order r 0 limit).map (fun d => (d.scene, d.frames)) =
      (s.settleFrames order' r 0 limit).map fun d => (d.scene, d.frames) := by
  have hreordered : Reordered (s, order) (s, order') := ⟨hs.sound, rfl, hnodup, hperm⟩
  obtain ⟨htick, hchanged, hsnapshot⟩ := hreordered.tick
  refine ⟨htick, hchanged, hsnapshot, ?_, ?_⟩
  · intro n
    have hrounds := hreordered.iterate_round n
    exact ⟨hrounds.scene_eq, hrounds.frameOf⟩
  · intro limit r
    exact hreordered.settleFrames limit r r 0

/-- The box that fades, the box that moves and the link may take their steps in any order. -/
theorem fading_reordered : fading.Reachable ∧ [1, 2, 3].Perm fading.renderOrder ∧
    [3, 1, 2].Perm fading.renderOrder ∧ (fading.tick [1, 2, 3]).1 = (fading.tick [3, 1, 2]).1 := by
  have hreachable : fading.Reachable := reachable_afterLine _
  rw [renderOrder_fading]
  have hperm : List.Perm [3, 1, 2] ([1, 2, 3] : List EntityId) := by decide
  exact ⟨hreachable, .refl _, hperm, (tick_perm hreachable (by decide) hperm.symm).1⟩

/-! ## Whether a display ends -/

/-- A display has a result with a limit of `n + 1` ticks exactly if every visible object is at
rest, or gone, when it has taken `n` ticks by itself. So a display ends exactly if every visible
object comes to rest by itself, or fades away, whatever else is in the scene. -/
theorem display_ends_iff (hs : s.Reachable) (r : Recording) :
    (∀ n, (∃ d, s.display (n + 1) r = some d) ↔
      ∀ id e, s.entity? id = some e → e.visible = true →
        e.RestsWithin s.config.frameRate n) ∧
    ((∃ limit d, s.display limit r = some d) ↔
      ∀ id e, s.entity? id = some e → e.visible = true →
        ∃ n, e.RestsWithin s.config.frameRate n) := by
  have hsound : s.Sound := hs.sound
  constructor
  · intro n
    rw [exists_display_iff, ← hsound.isBusy_eq_false_iff]
    constructor
    · rintro ⟨k, hk, hrest⟩
      exact hsound.isBusy_of_le (Nat.le_of_lt_succ hk) hrest
    · intro hrest
      exact ⟨n, Nat.lt_succ_self n, hrest⟩
  · rw [← hsound.exists_isBusy_eq_false_iff]
    constructor
    · rintro ⟨limit, d, hd⟩
      obtain ⟨n, -, hrest⟩ := exists_display_iff.mp ⟨d, hd⟩
      exact ⟨n, hrest⟩
    · rintro ⟨n, hrest⟩
      exact ⟨n + 1, exists_display_iff.mpr ⟨n, Nat.lt_succ_self n, hrest⟩⟩

/-- Two ticks are enough for each of the objects. -/
theorem fading_ends : fading.Reachable ∧
    ∀ id e, fading.entity? id = some e → e.visible = true →
      e.RestsWithin fading.config.frameRate 2 := by
  have hreachable : fading.Reachable := reachable_afterLine _
  exact ⟨hreachable, ((display_ends_iff hreachable default).1 2).mp display_fading⟩

/-- A box that has one pixel to go at a time, where doubles are sixteen apart. -/
def stranded : Scene :=
  afterLine "define a box 10 10 white 1e17 0; animate a 100000000000000016 0"

/-- The box never gets to its goal: each of its steps is lost in rounding. -/
theorem stranded_forever : stranded.Reachable ∧ stranded.config = SceneConfig.headless ∧
    ((stranded.entity? 1).map fun e => (e.pos, e.motion, e.alpha)) =
      some (⟨1e17, 0⟩, some ⟨⟨100000000000000016, 0⟩, 1⟩, 1) ∧
    ∀ limit r, stranded.display limit r = none := by
  have hreachable : stranded.Reachable := reachable_afterLine _
  refine ⟨hreachable, by decide +kernel, by decide +kernel, ?_⟩
  have hstuck : (stranded.entity? 1).any (fun e => e.visible && e.isActive &&
      decide (e.outlast stranded.config.frameRate = some e)) = true := by decide +kernel
  cases he : stranded.entity? 1 with
  | none => simp [he] at hstuck
  | some e =>
      rw [he, Option.any_some] at hstuck
      simp only [Bool.and_eq_true, decide_eq_true_eq] at hstuck
      exact hreachable.sound.display_eq_none he hstuck.1.1 hstuck.1.2 hstuck.2

end Storyboard.Scene.Reachable
