import Storyboard.Proofs.Scene.Departures
import Storyboard.Proofs.Scene.Playback

/-!
# What a tick does to each object

A tick advances the objects of a snapshot one after another, and every step of an object carries
along what is tied to it. All the same each object changes by a rule of its own. An object with
a motion is free, so nothing but its own step decides where it goes; an object that is carried
along has no motion, and where it stands decides nothing else. Hence objects are compared by
their outlines, which leave out the positions of objects at rest.

Main results:

- Theorem `Scene.Sound.evolves_foldl_stepEntity`: what the steps of a tick make of each object,
  which objects become transparent, and whether anything changed.
- Theorem `Scene.Sound.outline_tick`: what a whole tick makes of each object.
- Theorems `Scene.Sound.tick_snapshot` and `Scene.Sound.tick_changed`: what is left of the
  snapshot, and whether the tick reports a change.
-/

namespace Storyboard

open Objects

/-! ## An object by itself -/

namespace Entity

/-- What one step of its motion makes of an object. -/
def stepped (e : Entity) : Entity :=
  match e.motion with
  | none => e
  | some m =>
      if arrived (m.goal - e.pos) m.velocity then e.halt
      else
        let next := e.pos + (m.goal - e.pos).direction.scale m.velocity
        Scene.putAt next (if arrived (m.goal - next) m.velocity then e.halt else e)

/-- What one step of its fading makes of an object. -/
def dimmed (rate : Float) (e : Entity) : Entity :=
  if e.fadeOut then { e with alpha := e.alpha - 1.0 / rate } else e

/-- What one tick makes of an object, but for what the objects around it do. -/
def ticked (rate : Float) (e : Entity) : Entity := e.stepped.dimmed rate

/-- Whether an object moves or fades. -/
def isActive (e : Entity) : Bool := e.motion.isSome || e.fadeOut

/-- Whether an object has faded until it is transparent. -/
def isGone (e : Entity) : Bool := e.fadeOut && decide (e.alpha ≤ fadeEpsilon)

/-- An object without its position, unless it moves. -/
def outline (e : Entity) : Entity := if e.motion = none then e.unplaced else e

variable {a b e : Entity} {rate : Float}

theorem eq_of_unplaced (h : a.unplaced = b.unplaced) (hpos : a.pos = b.pos) : a = b := by
  cases a
  cases b
  simp only [unplaced, mk.injEq] at h hpos ⊢
  simp [h, hpos]

theorem motion_of_unplaced (h : a.unplaced = b.unplaced) : a.motion = b.motion := by
  have hmotion : a.unplaced.motion = b.unplaced.motion := congrArg Entity.motion h
  exact hmotion

theorem outline_eq_iff :
    a.outline = b.outline ↔ a.unplaced = b.unplaced ∧ (a.motion ≠ none → a.pos = b.pos) := by
  constructor
  · intro h
    unfold outline at h
    split at h <;> split at h
    · next ha _ => exact ⟨h, fun hmoves => absurd ha hmoves⟩
    · next ha hb =>
      subst h
      exact absurd ha hb
    · next ha hb =>
      subst h
      exact absurd hb ha
    · subst h
      exact ⟨rfl, fun _ => rfl⟩
  · rintro ⟨h, hpos⟩
    unfold outline
    rw [motion_of_unplaced h]
    split
    · exact h
    · next hb =>
      exact eq_of_unplaced h (hpos (motion_of_unplaced h ▸ hb))

/-- Objects with one outline agree in everything but their positions. -/
theorem unplaced_of_outline (h : a.outline = b.outline) : a.unplaced = b.unplaced :=
  (outline_eq_iff.mp h).1

/-- Objects with one outline are the same if they move. -/
theorem eq_of_outline (h : a.outline = b.outline) (hmoves : a.motion ≠ none) : a = b :=
  eq_of_unplaced (outline_eq_iff.mp h).1 ((outline_eq_iff.mp h).2 hmoves)

/-- Whatever does not depend on the position of an object is the same for one outline. -/
theorem congr_outline {β : Type} (f : Entity → β) (hf : ∀ e : Entity, f e.unplaced = f e)
    (h : a.outline = b.outline) : f a = f b := by
  rw [← hf a, ← hf b, unplaced_of_outline h]

theorem isActive_of_outline (h : a.outline = b.outline) : a.isActive = b.isActive :=
  congr_outline isActive (fun _ => rfl) h

theorem isGone_of_outline (h : a.outline = b.outline) : a.isGone = b.isGone :=
  congr_outline isGone (fun _ => rfl) h

/-! ### Rules of change -/

/-- A rule of change that makes one outline of one outline. -/
def Respects (f : Entity → Entity) : Prop :=
  ∀ a b : Entity, a.outline = b.outline → (f a).outline = (f b).outline

theorem Respects.comp {f g : Entity → Entity} (hg : Respects g) (hf : Respects f) :
    Respects fun e => g (f e) := by
  intro a b h
  exact hg _ _ (hf a b h)

theorem Respects.ite {f g : Entity → Entity} (hf : Respects f) (hg : Respects g) (p : Prop)
    [Decidable p] : Respects fun e => if p then f e else g e := by
  intro a b h
  simp only
  split
  · exact hf a b h
  · exact hg a b h

theorem respects_id : Respects fun e => e := by
  intro a b h
  exact h

theorem stepped_of_rest (h : e.motion = none) : e.stepped = e := by
  simp [stepped, h]

theorem respects_stepped : Respects stepped := by
  intro a b h
  by_cases hmotion : a.motion = none
  · rw [stepped_of_rest hmotion, stepped_of_rest, h]
    exact congr_outline Entity.motion (fun _ => rfl) h ▸ hmotion
  · rw [eq_of_outline h hmotion]

theorem respects_putAt (pos : Point) : Respects (Scene.putAt pos) := by
  intro a b h
  have hunplaced : (Scene.putAt pos a).unplaced = (Scene.putAt pos b).unplaced := by
    have h := unplaced_of_outline h
    exact h
  exact outline_eq_iff.mpr ⟨hunplaced, fun _ => rfl⟩

theorem fadeOut_stepped (e : Entity) : e.stepped.fadeOut = e.fadeOut := by
  unfold stepped
  split
  · rfl
  · simp only
    split_ifs <;> rfl

theorem unplaced_dimmed (rate : Float) (e : Entity) :
    (e.dimmed rate).unplaced = e.unplaced.dimmed rate := by
  unfold dimmed
  cases hfade : e.fadeOut <;> simp [unplaced, hfade]

theorem pos_dimmed (rate : Float) (e : Entity) : (e.dimmed rate).pos = e.pos := by
  unfold dimmed
  split <;> rfl

theorem motion_dimmed (rate : Float) (e : Entity) : (e.dimmed rate).motion = e.motion := by
  unfold dimmed
  split <;> rfl

theorem respects_dimmed (rate : Float) : Respects (dimmed rate) := by
  intro a b h
  rw [outline_eq_iff] at h ⊢
  rw [unplaced_dimmed, unplaced_dimmed, h.1, motion_dimmed, pos_dimmed, pos_dimmed]
  exact ⟨rfl, h.2⟩

theorem respects_among (live : EntityId → Bool) : Respects (among live) := by
  intro a b h
  rw [outline_eq_iff] at h ⊢
  have hunplaced : ∀ e : Entity, (e.among live).unplaced = e.unplaced.among live := fun _ => rfl
  rw [hunplaced, hunplaced, h.1]
  exact ⟨rfl, h.2⟩

theorem respects_ticked (rate : Float) : Respects (ticked rate) :=
  (respects_dimmed rate).comp respects_stepped

/-- A tick leaves an object alone that neither moves nor fades. -/
theorem ticked_of_inactive (h : e.isActive = false) : e.ticked rate = e := by
  simp only [isActive, Bool.or_eq_false_iff, Option.isSome_eq_false_iff, Option.isNone_iff_eq_none]
    at h
  rw [ticked, stepped_of_rest h.1, dimmed, h.2]
  rfl

end Entity

/-! ## One object of a snapshot -/

namespace Scene

/-- From one scene to the next every object changes by a rule of its own, up to where the
objects at rest stand. -/
def Evolves (f : EntityId → Entity → Entity) (s u : Scene) : Prop :=
  ∀ x, (u.entity? x).map Entity.outline = (s.entity? x).map fun e => (f x e).outline

/-- Whether an object is alive and moves or fades. -/
def isActive (s : Scene) (id : EntityId) : Bool := (s.entity? id).any Entity.isActive

/-- Whether an object is alive and becomes transparent in the next tick. -/
def vanishes (s : Scene) (id : EntityId) : Bool :=
  (s.entity? id).any fun e => (e.ticked s.config.frameRate).isGone

namespace Evolves

variable {s u v : Scene} {f g : EntityId → Entity → Entity}

/-- The object that a live object becomes. -/
theorem exists_of_entity? (h : Evolves f s u) {x : EntityId} {e : Entity}
    (he : s.entity? x = some e) : ∃ e', u.entity? x = some e' ∧ e'.outline = (f x e).outline := by
  have hx := h x
  rw [he, Option.map_some] at hx
  exact Option.map_eq_some_iff.mp hx

/-- Nothing becomes of an object that is not alive. -/
theorem entity?_eq_none (h : Evolves f s u) {x : EntityId} (hx : s.entity? x = none) :
    u.entity? x = none := by
  have hmap := h x
  rw [hx, Option.map_none] at hmap
  exact Option.map_eq_none_iff.mp hmap

theorem of_eq (h : ∀ x, u.entity? x = (s.entity? x).map (f x)) : Evolves f s u := by
  intro x
  rw [h x, Option.map_map]
  rfl

theorem trans (h : Evolves f s u) (h' : Evolves g u v) (hg : ∀ x, Entity.Respects (g x)) :
    Evolves (fun x e => g x (f x e)) s v := by
  intro x
  cases hx : s.entity? x with
  | none => rw [h'.entity?_eq_none (h.entity?_eq_none hx)]; rfl
  | some e =>
      obtain ⟨e', he', hout⟩ := h.exists_of_entity? hx
      obtain ⟨e'', he'', hout'⟩ := h'.exists_of_entity? he'
      rw [he'', Option.map_some, Option.map_some, hout', hg x _ _ hout]

theorem congr (h : Evolves f s u) (hfg : ∀ x e, s.entity? x = some e → f x e = g x e) :
    Evolves g s u := by
  intro x
  rw [h x]
  cases hx : s.entity? x with
  | none => rfl
  | some e => rw [Option.map_some, Option.map_some, hfg x e hx]

/-- A rule for one object only has to be right for that object. -/
theorem congr_at {f g : Entity → Entity} {id : EntityId} {e : Entity}
    (h : Evolves (fun x y => if x = id then f y else y) s u) (he : s.entity? id = some e)
    (hfg : f e = g e) : Evolves (fun x y => if x = id then g y else y) s u := by
  apply h.congr
  intro x y hy
  split
  · next hx =>
    subst hx
    rw [he] at hy
    cases hy
    exact hfg
  · rfl

/-- A test that depends on outlines only can be made before the change. -/
theorem any_eq (h : Evolves f s u) {p : Entity → Bool}
    (hp : ∀ a b : Entity, a.outline = b.outline → p a = p b) (x : EntityId) :
    (u.entity? x).any p = (s.entity? x).any fun e => p (f x e) := by
  cases hget : s.entity? x with
  | none => rw [h.entity?_eq_none hget, Option.any_none, Option.any_none]
  | some e =>
      obtain ⟨e', he', hout⟩ := h.exists_of_entity? hget
      rw [he', Option.any_some, Option.any_some, hp e' _ hout]

/-- The objects whose rule changes nothing are as active as before. -/
theorem isActive_eq (h : Evolves f s u) {x : EntityId} (hx : ∀ e, f x e = e) :
    u.isActive x = s.isActive x := by
  unfold isActive
  rw [h.any_eq fun _ _ => Entity.isActive_of_outline]
  simp only [hx]

/-- The objects whose rule changes nothing vanish as before. -/
theorem vanishes_eq (h : Evolves f s u) (hconfig : u.config = s.config) {x : EntityId}
    (hx : ∀ e, f x e = e) : u.vanishes x = s.vanishes x := by
  unfold vanishes
  rw [h.any_eq fun a b hab => Entity.isGone_of_outline (Entity.respects_ticked _ a b hab)]
  simp only [hx, hconfig]

end Evolves

variable {s u : Scene} {t : TickState} {id : EntityId}

/-- Updating one object. -/
theorem evolves_modify (s : Scene) (id : EntityId) (f : Entity → Entity) :
    Evolves (fun x e => if x = id then f e else e) s (s.modify id f) := by
  apply Evolves.of_eq
  intro x
  simp only [entity?, Scene.modify, Table.get?_modify]
  split
  · rfl
  · simp

namespace Sound

/-- Putting a free object somewhere else changes the outline of no other object. -/
theorem evolves_moveId (hs : s.Sound) {e : Entity} (he : s.entity? id = some e)
    (hfree : e.parent = none) (pos : Point) (h : s.moveId id pos = .ok u) :
    Evolves (fun x e => if x = id then putAt pos e else e) s u := by
  rw [moveId_eq_ok he hfree] at h
  cases h
  have hplaced := agree_putAt s id pos
  have hforest := hs.objects.forest.of_unplaced hplaced
  have hsettled := settlesBelow_repositionChildren hforest.tied id
  intro x
  rw [← evolves_modify s id (putAt pos) x]
  by_cases hbelow : Below (s.modify id (putAt pos)).entities id x
  · -- What is below the object is attached, hence at rest.
    have hx : x ≠ id := by
      rintro rfl
      exact hforest.acyclic x hbelow
    have hsame : (s.modify id (putAt pos)).entity? x = s.entity? x := by
      rw [entity?, Scene.modify, Table.get?_modify, if_neg hx]
      rfl
    obtain ⟨p, -, y, hy, hparent⟩ := Relation.TransGen.tail'_iff.mp hbelow
    have hrest : y.motion = none := by
      have hlive : s.entity? x = some y := hsame.symm.trans hy
      apply hs.objects.atRest hlive
      simp [hparent]
    obtain ⟨y', hy', hunplaced⟩ := hsettled.unplaced.symm.exists_of_get? hy
    have hout : y'.outline = y.outline := by
      refine Entity.outline_eq_iff.mpr ⟨hunplaced, fun hmoves => absurd hrest ?_⟩
      exact Entity.motion_of_unplaced hunplaced ▸ hmoves
    simp only [entity?] at hy hy' ⊢
    rw [hy, hy', Option.map_some, Option.map_some, hout]
  · have houtside := hsettled.outside x
    simp only [List.mem_singleton, forall_eq] at houtside
    rw [entity?, houtside hbelow]
    rfl

/-- A step of the motion of an object that moves. -/
theorem evolves_advance (hs : s.Sound) {e : Entity} {m : Motion} (he : s.entity? id = some e)
    (hm : e.motion = some m) :
    Evolves (fun x y => if x = id then y.stepped else y) s (s.advance id e.pos m) := by
  have hmoves : e.motion ≠ none := by simp [hm]
  unfold advance
  simp only
  generalize hnext : e.pos + (m.goal - e.pos).direction.scale m.velocity = next
  split
  · next harrived =>
    apply (evolves_modify s id Entity.halt).congr_at he
    simp [Entity.stepped, hm, harrived]
  · next hfar =>
    -- The object is stopped first if the next position is close enough.
    generalize hlast : arrived (m.goal - next) m.velocity = last
    obtain ⟨u, hu⟩ : ∃ u, (if last then s.modify id Entity.halt else s).moveId id next = .ok u := by
      split
      · exact (hs.moveId_of_motion he hmoves next).2
      · exact (hs.moveId_of_motion he hmoves next).1
    rw [hu]
    have hhalt : Evolves (fun x y => if x = id then if last then y.halt else y else y) s
        (if last then s.modify id Entity.halt else s) := by
      split
      · exact evolves_modify s id Entity.halt
      · apply Evolves.of_eq
        intro x
        simp
    have hmove : Evolves (fun x y => if x = id then putAt next y else y)
        (if last then s.modify id Entity.halt else s) u := by
      obtain ⟨e', he', hout⟩ := hhalt.exists_of_entity? he
      have hfree : e.parent = none := by
        by_contra hattached
        exact hmoves (hs.objects.atRest he hattached)
      have hsound : (if last then s.modify id Entity.halt else s).Sound := by
        split
        · exact tickStable_sound.halt id hs
        · exact hs
      refine hsound.evolves_moveId he' ?_ next hu
      rw [if_pos rfl] at hout
      have hparent := Entity.congr_outline Entity.parent (fun _ => rfl) hout
      rw [hparent]
      split
      · exact hfree
      · exact hfree
    have hboth := hhalt.trans hmove fun x => .ite (Entity.respects_putAt next) Entity.respects_id _
    refine Evolves.congr_at (f := fun y => putAt next (if last then y.halt else y)) ?_ he ?_
    · apply hboth.congr
      intro x y _
      split <;> rfl
    · simp [Entity.stepped, hm, hfar, hnext, hlast]

/-- A step of an object's motion. -/
theorem evolves_stepMotion (hs : t.scene.Sound) (id : EntityId) :
    Evolves (fun x e => if x = id then e.stepped else e) t.scene (stepMotion t id).scene := by
  have hsame : Evolves (fun x e => if x = id then e else e) t.scene t.scene := by
    apply Evolves.of_eq
    intro x
    simp
  unfold stepMotion
  split
  · next hdead =>
    apply hsame.congr
    intro x y hy
    split
    · next hx =>
      rw [hx, hdead] at hy
      cases hy
    · rfl
  · next e he =>
    split
    · next hrest => exact hsame.congr_at (f := fun y => y) he (Entity.stepped_of_rest hrest).symm
    · next m hm => exact hs.evolves_advance he hm

end Sound

/-- A step of an object's fading. -/
theorem evolves_stepFade (t : TickState) (id : EntityId) :
    Evolves (fun x e => if x = id then e.dimmed t.scene.config.frameRate else e) t.scene
      (stepFade t id).scene := by
  have hsame : Evolves (fun x e => if x = id then e else e) t.scene t.scene := by
    apply Evolves.of_eq
    intro x
    simp
  unfold stepFade
  split
  · next hdead =>
    apply hsame.congr
    intro x y hy
    split
    · next hx =>
      rw [hx, hdead] at hy
      cases hy
    · rfl
  · next e he =>
    split
    · next hfade =>
      apply (evolves_modify t.scene id _).congr_at he
      simp [Entity.dimmed, hfade]
    · next hfade =>
      apply hsame.congr_at (f := fun y => y) he
      simp [Entity.dimmed, hfade]

theorem config_stepMotion (t : TickState) (id : EntityId) :
    (stepMotion t id).scene.config = t.scene.config := by
  unfold stepMotion
  split
  · rfl
  · split
    · rfl
    · exact ((tickStable_counter t.scene.nextId t.scene.config).advance ⟨rfl, rfl⟩ _ _ _).2

theorem faded_stepMotion (t : TickState) (id : EntityId) :
    (stepMotion t id).faded = t.faded := by
  unfold stepMotion
  split
  · rfl
  · split <;> rfl

theorem changed_stepMotion (t : TickState) (id : EntityId) :
    (stepMotion t id).changed =
      (t.changed || (t.scene.entity? id).any fun e => e.motion.isSome) := by
  unfold stepMotion
  split
  · next hdead => simp [hdead]
  · next e he =>
    split
    · next hrest => simp [he, hrest]
    · next m hm => simp [he, hm]

theorem faded_stepFade (t : TickState) (id : EntityId) :
    (stepFade t id).faded = t.faded ++ [id].filter fun id =>
      (t.scene.entity? id).any fun e => (e.dimmed t.scene.config.frameRate).isGone := by
  unfold stepFade
  split
  · next hdead => simp [hdead]
  · next e he =>
    simp only [List.filter_cons, List.filter_nil, he, Option.any_some, Entity.dimmed, Entity.isGone]
    split
    · next hfade =>
      simp only [hfade, Bool.true_and, decide_eq_true_eq]
      split <;> simp
    · next hfade => simp [hfade]

theorem changed_stepFade (t : TickState) (id : EntityId) :
    (stepFade t id).changed = (t.changed || (t.scene.entity? id).any Entity.fadeOut) := by
  unfold stepFade
  split
  · next hdead => simp [hdead]
  · next e he =>
    split
    · next hfade => simp [he, hfade]
    · next hfade => simp [he, hfade]

/-- Motion and fading of one object. -/
theorem Sound.evolves_stepEntity (hs : t.scene.Sound) (id : EntityId) :
    Evolves (fun x e => if x = id then e.ticked t.scene.config.frameRate else e) t.scene
      (stepEntity t id).scene := by
  have hconfig : (stepMotion t id).scene.config = t.scene.config := config_stepMotion t id
  have hfade := evolves_stepFade (stepMotion t id) id
  rw [hconfig] at hfade
  apply ((hs.evolves_stepMotion id).trans hfade fun x =>
    .ite (Entity.respects_dimmed _) Entity.respects_id _).congr
  intro x e _
  split <;> rfl

/-- The step of an object notes whether it becomes transparent. -/
theorem Sound.faded_stepEntity (hs : t.scene.Sound) (id : EntityId) :
    (stepEntity t id).faded = t.faded ++ [id].filter t.scene.vanishes := by
  rw [stepEntity, faded_stepFade, faded_stepMotion, config_stepMotion]
  apply congrArg (t.faded ++ ·)
  apply List.filter_congr
  intro x hx
  rw [List.mem_singleton.mp hx, (hs.evolves_stepMotion id).any_eq fun a b hab =>
    Entity.isGone_of_outline (Entity.respects_dimmed _ a b hab)]
  simp only [if_true, vanishes, Entity.ticked]

/-- The step of an object notes whether it moves or fades. -/
theorem Sound.changed_stepEntity (hs : t.scene.Sound) (id : EntityId) :
    (stepEntity t id).changed = (t.changed || t.scene.isActive id) := by
  rw [stepEntity, changed_stepFade, changed_stepMotion, (hs.evolves_stepMotion id).any_eq
    fun a b hab => Entity.congr_outline Entity.fadeOut (fun _ => rfl) hab]
  cases hget : t.scene.entity? id with
  | none => simp [isActive, hget]
  | some e => simp [isActive, hget, Entity.isActive, Entity.fadeOut_stepped, Bool.or_assoc]

/-! ## The steps of a tick -/

/-- The steps of a tick, each of which is for an object of its own. -/
theorem Sound.evolves_foldl_stepEntity {order : List EntityId} (hs : t.scene.Sound)
    (horder : order.Nodup) :
    Evolves (fun x e => if x ∈ order then e.ticked t.scene.config.frameRate else e) t.scene
        (order.foldl stepEntity t).scene ∧
      (order.foldl stepEntity t).faded = t.faded ++ order.filter t.scene.vanishes ∧
      (order.foldl stepEntity t).changed = (t.changed || order.any t.scene.isActive) := by
  induction order generalizing t with
  | nil =>
      refine ⟨?_, by simp, by simp⟩
      apply Evolves.of_eq
      intro x
      simp
  | cons id order ih =>
      obtain ⟨hid, horder⟩ := List.nodup_cons.mp horder
      have hstep := hs.evolves_stepEntity id
      have hconfig := ((tickStable_counter t.scene.nextId t.scene.config).stepEntity
        ⟨rfl, rfl⟩ id).2
      obtain ⟨hrest, hfaded, hchanged⟩ := ih (tickStable_sound.stepEntity hs id) horder
      -- The step of one object does not change what the steps of the others will do.
      have hother : ∀ x ∈ order, ∀ e : Entity,
          (if x = id then e.ticked t.scene.config.frameRate else e) = e := by
        intro x hx e
        rw [if_neg]
        rintro rfl
        exact hid hx
      rw [List.foldl_cons]
      refine ⟨?_, ?_, ?_⟩
      · rw [hconfig] at hrest
        apply (hstep.trans hrest fun x => .ite (Entity.respects_ticked _) Entity.respects_id _).congr
        intro x e _
        by_cases hx : x = id
        · simp [hx, hid]
        · simp [hx]
      · have hfilter : order.filter (stepEntity t id).scene.vanishes =
            order.filter t.scene.vanishes :=
          List.filter_congr fun x hx => hstep.vanishes_eq hconfig (hother x hx)
        rw [hfaded, hs.faded_stepEntity, hfilter, List.append_assoc, ← List.filter_append,
          List.singleton_append]
      · have hany : order.any (stepEntity t id).scene.isActive = order.any t.scene.isActive := by
          rw [Bool.eq_iff_iff, List.any_eq_true, List.any_eq_true]
          refine exists_congr fun x => and_congr_right fun hx => ?_
          rw [hstep.isActive_eq (hother x hx)]
        rw [hchanged, hs.changed_stepEntity, hany, List.any_cons, Bool.or_assoc]

/-! ## A whole tick -/

namespace Sound

variable {order : List EntityId}

/-- A tick is its steps, followed by the departure of what vanishes. -/
theorem tick_eq (hs : s.Sound) (horder : order.Nodup) :
    s.tick order = ((order.filter s.vanishes).foldl Scene.remove (s.midTick order),
      order.filter fun id => !s.vanishes id, order.any s.isActive) := by
  obtain ⟨-, hfaded, hchanged⟩ := evolves_foldl_stepEntity (t := s.tickStart) hs horder
  have hfaded : (order.foldl stepEntity s.tickStart).faded = order.filter s.vanishes := hfaded
  have hchanged : (order.foldl stepEntity s.tickStart).changed = order.any s.isActive :=
    hchanged.trans (Bool.false_or _)
  have hstays : (order.filter fun id => !(order.filter s.vanishes).contains id) =
      order.filter fun id => !s.vanishes id := by
    apply List.filter_congr
    intro id hid
    cases hvanishes : s.vanishes id <;> simp [hid, hvanishes]
  unfold tick
  simp only
  rw [hfaded, hchanged, hstays]
  rfl

/-- A tick takes what vanishes out of the snapshot. -/
theorem tick_snapshot (hs : s.Sound) (horder : order.Nodup) :
    (s.tick order).2.1 = order.filter fun id => !s.vanishes id := by
  rw [hs.tick_eq horder]

/-- A tick reports a change if any object of the snapshot moves or fades. -/
theorem tick_changed (hs : s.Sound) (horder : order.Nodup) :
    (s.tick order).2.2 = order.any s.isActive := by
  rw [hs.tick_eq horder]

/-- A tick removes what vanishes; every other object of the snapshot takes its own step, and no
object keeps ties to those that have gone. -/
theorem outline_tick (hs : s.Sound) (horder : order.Nodup) (x : EntityId) :
    ((s.tick order).1.entity? x).map Entity.outline =
      if x ∈ order ∧ s.vanishes x then none
      else (s.entity? x).map fun e =>
        ((if x ∈ order then e.ticked s.config.frameRate else e).among
          (s.tick order).1.isLive).outline := by
  have hmid : (s.midTick order).Sound := tickStable_sound.midTick hs order
  obtain ⟨hsteps, -, -⟩ := evolves_foldl_stepEntity (t := s.tickStart) hs horder
  have hforest := hmid.objects.forest
  rw [hs.tick_eq horder]
  generalize hgone : order.filter s.vanishes = gone
  have hmem : x ∈ gone ↔ x ∈ order ∧ s.vanishes x := by rw [← hgone, List.mem_filter]
  simp only [entity?_foldl_remove hforest, ← hmem]
  split
  · rfl
  · cases hget : s.entity? x with
    | none =>
        have hdead : (s.midTick order).entity? x = none := hsteps.entity?_eq_none hget
        rw [hdead]
        rfl
    | some e =>
        obtain ⟨e', he', hout⟩ := hsteps.exists_of_entity? hget
        have he' : (s.midTick order).entity? x = some e' := he'
        rw [he', Option.map_some, Option.map_some, Option.map_some,
          ← among_isLive_of_foldl_remove hforest he']
        exact congrArg some (Entity.respects_among _ _ _ hout)

/-- After a tick the objects are left that do not vanish from the snapshot. -/
theorem isLive_tick (hs : s.Sound) (horder : order.Nodup) (x : EntityId) :
    (s.tick order).1.isLive x = (s.isLive x && !(decide (x ∈ order) && s.vanishes x)) := by
  have hout := congrArg Option.isSome (hs.outline_tick horder x)
  rw [Option.isSome_map] at hout
  rw [isLive, hout]
  by_cases hgone : x ∈ order ∧ s.vanishes x
  · simp [hgone]
  · have hstays : (decide (x ∈ order) && s.vanishes x) = false := by simpa using hgone
    rw [if_neg hgone, Option.isSome_map, hstays, Bool.not_false, Bool.and_true, isLive]

/-- What is tied to objects after a tick was tied to them before it. -/
theorem among_isLive_tick (hs : s.Sound) (horder : order.Nodup) (e : Entity) :
    (e.among s.isLive).among (s.tick order).1.isLive = e.among (s.tick order).1.isLive := by
  rw [Entity.among_among]
  apply congrArg (Entity.among · e)
  funext x
  rw [hs.isLive_tick horder, ← Bool.and_assoc, Bool.and_self]

end Sound

end Scene

end Storyboard
