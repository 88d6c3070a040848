import Storyboard.Proofs.Session.Displays
import Storyboard.Proofs.Session.Priorities

/-!
# Displays that are repeated

A display that has ended has left every visible object at rest, so a display that follows it at
once makes a single tick, which changes nothing, and draws a single frame. That frame is the last
one again, though the two displays come by their snapshots in different ways: the first has sorted
all visible objects and left out those that went away meanwhile, the second sorts those that are
left. The render order depends on nothing but the priorities and the identifiers of the objects in
it, so the order of those that are left does not depend on the others.

Main results:

- Theorem `Scene.Registered.pairwise_renderOrder`: the render order is ordered by one relation.
- Theorem `Scene.Registered.renderOrder_eq_filter`: the render order of the objects that are left.
- Theorem `Scene.tick_of_rest`: a tick of objects at rest changes nothing.
- Theorem `Scene.Reachable.display_again`: what a display does right after another one.
-/

namespace Storyboard.Scene

variable {s u : Scene}

/-! ## The order of what is left -/

/-- Of two objects the first is drawn first: its key is less, or the keys are equal and it was
created earlier. -/
def Precedes (s : Scene) (x y : EntityId) : Prop :=
  ∃ a b, s.entity? x = some a ∧ s.entity? y = some b ∧
    (orderKey a.priority < orderKey b.priority ∨
      orderKey a.priority = orderKey b.priority ∧ x < y)

theorem Precedes.asymm {x y : EntityId} (h : s.Precedes x y) : ¬ s.Precedes y x := by
  rintro ⟨b', a', hb', ha', h'⟩
  obtain ⟨a, b, ha, hb, h⟩ := h
  cases ha.symm.trans ha'
  cases hb.symm.trans hb'
  rcases h with hless | ⟨hsame, hid⟩
  · rcases h' with hless' | ⟨hsame', -⟩
    · omega
    · omega
  · rcases h' with hless' | ⟨-, hid'⟩
    · omega
    · exact UInt64.lt_asymm hid hid'

/-- Every object of the render order precedes those after it. -/
theorem Registered.pairwise_renderOrder (hs : s.Registered) :
    s.renderOrder.Pairwise s.Precedes := by
  rw [List.pairwise_iff_forall_sublist]
  intro x y hpair
  obtain ⟨a, ha, hvisible⟩ := (hs.mem_renderOrder x).mp (hpair.subset (by simp))
  obtain ⟨b, hb, hvisible'⟩ := (hs.mem_renderOrder y).mp (hpair.subset (by simp))
  obtain rfl := hs.id_eq ha
  obtain rfl := hs.id_eq hb
  exact ⟨a, b, ha, hb, (hs.sublist_renderOrder_iff ha hb hvisible hvisible').mp hpair⟩

/-- If the objects of one scene are among those of another, with the same priorities and as
visible, they are drawn in the same order. -/
theorem Registered.renderOrder_eq_filter (hs : s.Registered) (hu : u.Registered)
    (hkept : ∀ x e', u.entity? x = some e' → ∃ e, s.entity? x = some e ∧
      e'.visible = e.visible ∧ e'.priority = e.priority) :
    u.renderOrder = s.renderOrder.filter u.isLive := by
  have hprecedes : ∀ {x y}, u.Precedes x y → s.Precedes x y := by
    rintro x y ⟨a', b', ha', hb', h⟩
    obtain ⟨a, ha, -, hpriority⟩ := hkept x a' ha'
    obtain ⟨b, hb, -, hpriority'⟩ := hkept y b' hb'
    rw [hpriority, hpriority'] at h
    exact ⟨a, b, ha, hb, h⟩
  have hmem : ∀ x, x ∈ u.renderOrder ↔ x ∈ s.renderOrder.filter u.isLive := by
    intro x
    rw [List.mem_filter, hu.mem_renderOrder, hs.mem_renderOrder, isLive]
    constructor
    · rintro ⟨e', he', hvisible⟩
      obtain ⟨e, he, hsame, -⟩ := hkept x e' he'
      exact ⟨⟨e, he, hsame ▸ hvisible⟩, by rw [he']; rfl⟩
    · rintro ⟨⟨e, he, hvisible⟩, hlive⟩
      obtain ⟨e', he'⟩ := Option.isSome_iff_exists.mp hlive
      obtain ⟨e₀, he₀, hsame, -⟩ := hkept x e' he'
      cases he.symm.trans he₀
      exact ⟨e', he', hsame.trans hvisible⟩
  have hperm : u.renderOrder.Perm (s.renderOrder.filter u.isLive) :=
    (List.perm_ext_iff_of_nodup hu.nodup_renderOrder (hs.nodup_renderOrder.filter _)).mpr hmem
  exact hperm.eq_of_pairwise (fun x y _ _ h h' => absurd h' h.asymm)
    (hu.pairwise_renderOrder.imp hprecedes) (hs.pairwise_renderOrder.filter _)

/-! ## Ticks of objects at rest -/

/-- An object at rest takes no step. -/
theorem stepEntity_of_rest {t : TickState} {id : EntityId} (h : t.scene.isActive id = false) :
    stepEntity t id = t := by
  rw [isActive] at h
  cases he : t.scene.entity? id with
  | none => simp [stepEntity, stepMotion, stepFade, he]
  | some e =>
      rw [he, Option.any_some, Entity.isActive, Bool.or_eq_false_iff, Option.isSome_eq_false_iff,
        Option.isNone_iff_eq_none] at h
      simp [stepEntity, stepMotion, stepFade, he, h]

/-- A tick of objects at rest changes nothing, and reports so. -/
theorem tick_of_rest {order : List EntityId} (h : ∀ id ∈ order, s.isActive id = false) :
    s.tick order = (s, order, false) := by
  have hsteps : order.foldl stepEntity s.tickStart = s.tickStart := by
    induction order with
    | nil => rfl
    | cons id order ih =>
        obtain ⟨hid, horder⟩ := List.forall_mem_cons.mp h
        rw [List.foldl_cons, stepEntity_of_rest hid, ih horder]
  simp only [tick, hsteps]
  simp [tickStart]

/-- A display of objects at rest draws one frame and changes nothing but the count. -/
theorem display_of_rest (hoverlay : s.config.statusOverlay = false)
    (h : ∀ id ∈ s.renderOrder, s.isActive id = false) (limit : Nat) (r : Recording) :
    s.display (limit + 1) r = some ⟨s.countFrame, r.render (s.frame s.renderOrder), 1⟩ := by
  have hconfig : s.countFrame.config.statusOverlay = false := hoverlay
  simp [display, settleFrames, tick_of_rest h, hconfig]

/-! ## Displays after displays -/

namespace Sound

variable (hs : s.Sound)

include hs

/-- What is left of the snapshot after a number of rounds is the render order of what is left. -/
theorem snapshot_afterRounds (n : Nat) :
    (s.afterRounds n).2 = (s.afterRounds n).1.renderOrder := by
  have hsound : (s.afterRounds n).1.Sound := tickStable_sound.afterRounds hs n
  rw [(hs.afterRounds_spec n).2]
  refine (hs.registered.renderOrder_eq_filter hsound.registered ?_).symm
  intro x e' he'
  obtain ⟨e, he, hkept, -⟩ := hs.eq_of_afterRounds he'
  exact ⟨e, he, by rw [hkept]; rfl, by rw [hkept]; rfl⟩

/-- When a round reports no change, the objects of the render order that it leaves are at rest. -/
theorem isActive_renderOrder_of_rest {n : Nat} (hrest : s.isBusy n = false) :
    ∀ id ∈ (s.afterRounds (n + 1)).1.renderOrder,
      (s.afterRounds (n + 1)).1.isActive id = false := by
  have hsound : (s.afterRounds (n + 1)).1.Sound := tickStable_sound.afterRounds hs (n + 1)
  intro id hid
  obtain ⟨e, he, hvisible⟩ := (hsound.registered.mem_renderOrder id).mp hid
  rw [isActive, he, Option.any_some]
  exact hs.isActive_of_rest hrest he hvisible

end Sound

namespace Reachable

/-- A display that follows another one at once, whatever it draws on, makes one tick and draws one
frame, the last frame of the other: the same objects in the same order, in the same places and of
the same opacity. It leaves the scene as it is, but for the count of the frames. -/
theorem display_again (hs : s.Reachable) (hoverlay : s.config.statusOverlay = false)
    {limit : Nat} {r : Recording} {d : Displayed} (h : s.display limit r = some d) :
    ∃ last, d.recording.frames.getLast? = some last ∧
      ∀ limit' r', d.scene.display (limit' + 1) r' =
        some ⟨{ d.scene with frameCount := d.scene.frameCount + 1 }, r'.render last, 1⟩ := by
  obtain ⟨n, -, -, hrest, rfl⟩ := (display_eq_some_iff hoverlay).mp h
  have hsound : s.Sound := hs.sound
  have hconfig : (s.afterRounds (n + 1)).1.config = s.config :=
    ((tickStable_counter s.nextId s.config).afterRounds ⟨rfl, rfl⟩ (n + 1)).2
  refine ⟨frameOf (s.afterRounds (n + 1)), ?_, ?_⟩
  · simp [film_succ]
  · intro limit' r'
    rw [display_of_rest (by rw [hconfig, hoverlay]) (hsound.isActive_renderOrder_of_rest hrest),
      frameOf, hsound.snapshot_afterRounds]
    rfl

/-- The second display draws the box that has arrived. -/
theorem display_again_fading : ∃ d last, fading.display 3 default = some d ∧
    d.recording.frames.getLast? = some last ∧
    d.scene.display 1 d.recording =
      some ⟨{ d.scene with frameCount := d.scene.frameCount + 1 }, d.recording.render last, 1⟩ := by
  have hreachable : fading.Reachable := reachable_afterLine _
  have hoverlay : fading.config.statusOverlay = false := by decide +kernel
  obtain ⟨d, hd⟩ := display_fading
  obtain ⟨last, hlast, hagain⟩ := display_again hreachable hoverlay hd
  exact ⟨d, last, hd, hlast, hagain 0 d.recording⟩

end Reachable

end Storyboard.Scene
