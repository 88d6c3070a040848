import Storyboard.Proofs.Scene.Rounds

/-!
# The order of a tick

A tick advances the objects of its snapshot one after another, and what it leaves does not depend
on their order. A free object goes where its own step takes it, because nothing carries it along.
Every other object changes by a rule of its own in everything but its position, and its position
follows from the free object that it is tied to. What vanishes leaves the scene afterwards.

Main results:

- Theorem `Objects.Sound.eq_of_unplaced`: sound tables that differ in positions only, and not in
  those of free objects, are equal.
- Theorem `Scene.Sound.frees_foldl_stepEntity`: what the steps of a tick make of free objects.
- Theorem `Scene.Sound.tick_congr`: a tick depends on which objects are in the snapshot, and not
  on their order.
- Theorems `Scene.Reordered.iterate_round` and `Scene.Reordered.settleFrames`: neither do the
  rounds of a display and its end.
-/

namespace Storyboard

open Relation Objects

/-! ## Tables with the same free objects -/

namespace Objects

variable {t u : Objects}

/-- Sound tables are equal if they agree in everything but positions and have the same free
objects: the positions of all others follow from their parents. -/
theorem Sound.eq_of_unplaced (ht : t.Sound) (hu : u.Sound) (h : Table.Agree Entity.unplaced t u)
    (hfree : ∀ x e, t.get? x = some e → e.parent = none → u.get? x = some e) : t = u := by
  have hacyclic : ∀ x, ¬ TransGen (Function.swap t.IsParent) x x := by
    intro x hx
    exact ht.forest.acyclic x (transGen_swap.mp hx)
  -- The induction is on the number of objects above the object.
  have hlive : ∀ n x e, (t.reach (Function.swap t.IsParent) x).card < n → t.get? x = some e →
      u.get? x = some e := by
    intro n
    induction n with
    | zero =>
        intro x e hn
        omega
    | succ n ih =>
        intro x e hn he
        cases hparent : e.parent with
        | none => exact hfree x e he hparent
        | some p =>
            have hpx : t.IsParent p x := ⟨e, he, hparent⟩
            obtain ⟨parent, hp⟩ := ht.forest.tied.parent_live hpx
            have hlt := card_reach_lt hacyclic (x := x) (y := p) hpx ⟨parent, hp⟩
            have hp' : u.get? p = some parent := ih p parent (by omega) hp
            obtain ⟨e', he', hsame⟩ := h.exists_of_get? he
            have hparent' : e'.unplaced.parent = e.unplaced.parent := congrArg Entity.parent hsame
            have hoffset : e'.unplaced.offset = e.unplaced.offset := congrArg Entity.offset hsame
            have hpos : e.pos = parent.pos + e.offset := ht.atOffset x e p parent he hparent hp
            have hpos' : e'.pos = parent.pos + e'.offset :=
              hu.atOffset x e' p parent he' (hparent'.trans hparent) hp'
            have hoffset : e'.offset = e.offset := hoffset
            rw [he', Entity.eq_of_unplaced hsame (by rw [hpos, hpos', hoffset])]
  apply Table.ext_get?
  intro x
  cases he : t.get? x with
  | none =>
      have hx := h x
      rw [he, Option.map_none] at hx
      exact (Option.map_eq_none_iff.mp hx.symm).symm
  | some e => exact (hlive _ x e (Nat.lt_succ_self _) he).symm

end Objects

namespace Entity

theorem unplaced_comp_outline : unplaced ∘ outline = unplaced := by
  funext e
  unfold Function.comp outline
  split <;> rfl

theorem parent_ticked (rate : Float) (e : Entity) : (e.ticked rate).parent = e.parent := by
  rw [ticked_eq]

end Entity

namespace Scene

variable {s u : Scene} {t : TickState} {id : EntityId}

/-- Registered scenes with the same objects have the same index. -/
theorem Registered.names_eq (hs : s.Registered) (hu : u.Registered)
    (h : s.entities = u.entities) : s.names = u.names := by
  have hsame : ∀ id, s.entity? id = u.entity? id := fun id => congrArg (Table.get? · id) h
  apply Table.ext_get?
  intro name
  have hiff : ∀ id, s.id? name = some id ↔ u.id? name = some id := by
    intro id
    constructor
    · intro hid
      obtain ⟨e, he, rfl⟩ := hs.name_eq hid
      exact hu.id?_name (hsame id ▸ he)
    · intro hid
      obtain ⟨e, he, rfl⟩ := hu.name_eq hid
      exact hs.id?_name (hsame id ▸ he)
  exact Option.ext hiff

/-! ## Free objects -/

/-- From one scene to the next every free object changes by a rule of its own, and stays free. -/
def Frees (f : EntityId → Entity → Entity) (s u : Scene) : Prop :=
  ∀ x e, s.entity? x = some e → e.parent = none →
    u.entity? x = some (f x e) ∧ (f x e).parent = none

namespace Frees

variable {v : Scene} {f g : EntityId → Entity → Entity}

theorem trans (h : Frees f s u) (h' : Frees g u v) : Frees (fun x e => g x (f x e)) s v := by
  intro x e he hfree
  obtain ⟨hx, hfree'⟩ := h x e he hfree
  exact h' x (f x e) hx hfree'

theorem congr (h : Frees f s u)
    (hfg : ∀ x e, s.entity? x = some e → f x e = g x e) : Frees g s u := by
  intro x e he hfree
  rw [← hfg x e he]
  exact h x e he hfree

end Frees

variable {f g : Entity → Entity}

/-- Nothing changes if the rule for an object leaves it alone, or if there is no such object. -/
theorem frees_self (hf : ∀ e, s.entity? id = some e → f e = e) :
    Frees (fun x y => if x = id then f y else y) s s := by
  intro x y hy hfree
  simp only
  split
  · next hx =>
    rw [hf y (hx ▸ hy)]
    exact ⟨hy, hfree⟩
  · exact ⟨hy, hfree⟩

/-- Updating one object by what its rule says of it. -/
theorem frees_modify (hparent : ∀ e, (g e).parent = e.parent)
    (hf : ∀ e, s.entity? id = some e → g e = f e) :
    Frees (fun x y => if x = id then f y else y) s (s.modify id g) := by
  intro x y hy hfree
  simp only [entity?] at hy
  simp only [entity?, Scene.modify, Table.get?_modify, hy]
  split
  · next hx =>
    rw [← hf y (hx ▸ hy)]
    exact ⟨rfl, (hparent y).trans hfree⟩
  · exact ⟨rfl, hfree⟩

namespace Sound

/-- Putting a free object somewhere else leaves every other free object where it is. -/
theorem frees_moveId (hs : s.Sound) {e : Entity} (he : s.entity? id = some e)
    (hparent : e.parent = none) (pos : Point) (h : s.moveId id pos = .ok u) :
    Frees (fun x y => if x = id then putAt pos y else y) s u := by
  rw [moveId_eq_ok he hparent] at h
  cases h
  have hplaced := agree_putAt s id pos
  have hforest := hs.objects.forest.of_unplaced hplaced
  have hsettled := settlesBelow_repositionChildren hforest.tied id
  have hput : Frees (fun x y => if x = id then putAt pos y else y) s (s.modify id (putAt pos)) :=
    frees_modify (fun _ => rfl) (fun _ _ => rfl)
  intro x y hy hfree
  obtain ⟨hx, hfree'⟩ := hput x y hy hfree
  refine ⟨?_, hfree'⟩
  -- A free object is below nothing.
  have houtside : ∀ r ∈ [id], ¬ Below (s.modify id (putAt pos)).entities r x := by
    intro r _ hbelow
    obtain ⟨p, -, z, hz, hp⟩ := TransGen.tail'_iff.mp hbelow
    rw [entity?, hz] at hx
    cases hx
    rw [hfree'] at hp
    cases hp
  exact (hsettled.outside x houtside).trans hx

/-- A step of the motion of an object that moves. -/
theorem frees_advance (hs : s.Sound) {e : Entity} {m : Motion} (he : s.entity? id = some e)
    (hm : e.motion = some m) :
    Frees (fun x y => if x = id then y.stepped else y) s (s.advance id e.pos m) := by
  have hfree : e.parent = none := by
    by_contra hattached
    rw [hs.objects.atRest he hattached] at hm
    cases hm
  have hlive : ∀ y, s.entity? id = some y → y = e := by
    intro y hy
    rw [he] at hy
    cases hy
    rfl
  unfold advance
  simp only
  generalize hnext : e.pos + (m.goal - e.pos).direction.scale m.velocity = next
  split
  · next harrived =>
    refine frees_modify (fun _ => rfl) ?_
    intro y hy
    rw [hlive y hy]
    simp [Entity.stepped, hm, harrived]
  · next hfar =>
    -- The object is stopped first if the next position is close enough.
    generalize hlast : arrived (m.goal - next) m.velocity = last
    have hhalt : Frees (fun x y => if x = id then if last then y.halt else y else y) s
        (if last then s.modify id Entity.halt else s) := by
      cases last with
      | true => exact frees_modify (fun _ => rfl) fun _ _ => rfl
      | false => exact frees_self fun _ _ => rfl
    have hsound : (if last then s.modify id Entity.halt else s).Sound := by
      split
      · exact tickStable_sound.halt id hs
      · exact hs
    obtain ⟨he', hfree'⟩ := hhalt id e he hfree
    have hmove := hsound.frees_moveId he' hfree' next (moveId_eq_ok he' hfree' next)
    rw [moveId_eq_ok he' hfree' next]
    apply (hhalt.trans hmove).congr
    intro x y hy
    by_cases hx : x = id
    · rw [hlive y (hx ▸ hy)]
      simp [hx, Entity.stepped, hm, hfar, hnext, hlast]
    · simp [hx]

/-- A step of an object's motion. -/
theorem frees_stepMotion (hs : t.scene.Sound) (id : EntityId) :
    Frees (fun x y => if x = id then y.stepped else y) t.scene (stepMotion t id).scene := by
  unfold stepMotion
  split
  · next hdead => exact frees_self fun y hy => by simp [hdead] at hy
  · next e he =>
    split
    · next hrest =>
      apply frees_self
      intro y hy
      rw [he] at hy
      cases hy
      exact Entity.stepped_of_rest hrest
    · next m hm => exact hs.frees_advance he hm

end Sound

/-- A step of an object's fading. -/
theorem frees_stepFade (t : TickState) (id : EntityId) :
    Frees (fun x y => if x = id then y.dimmed t.scene.config.frameRate else y) t.scene
      (stepFade t id).scene := by
  unfold stepFade
  split
  · next hdead => exact frees_self fun y hy => by simp [hdead] at hy
  · next e he =>
    split
    · next hfade =>
      refine frees_modify (fun _ => rfl) ?_
      intro y hy
      rw [he] at hy
      cases hy
      simp [Entity.dimmed, hfade]
    · next hfade =>
      apply frees_self
      intro y hy
      rw [he] at hy
      cases hy
      simp [Entity.dimmed, hfade]

namespace Sound

/-- Motion and fading of one object. -/
theorem frees_stepEntity (hs : t.scene.Sound) (id : EntityId) :
    Frees (fun x y => if x = id then y.ticked t.scene.config.frameRate else y) t.scene
      (stepEntity t id).scene := by
  have hfade := frees_stepFade (stepMotion t id) id
  rw [config_stepMotion] at hfade
  apply ((hs.frees_stepMotion id).trans hfade).congr
  intro x y _
  split <;> rfl

/-- The steps of a tick, each of which is for an object of its own. -/
theorem frees_foldl_stepEntity {order : List EntityId} (hs : t.scene.Sound)
    (horder : order.Nodup) :
    Frees (fun x y => if x ∈ order then y.ticked t.scene.config.frameRate else y) t.scene
      (order.foldl stepEntity t).scene := by
  induction order generalizing t with
  | nil =>
      intro x y hy hfree
      simpa using ⟨hy, hfree⟩
  | cons id order ih =>
      obtain ⟨hid, horder⟩ := List.nodup_cons.mp horder
      have hconfig := ((tickStable_counter t.scene.nextId t.scene.config).stepEntity
        ⟨rfl, rfl⟩ id).2
      have hrest := ih (tickStable_sound.stepEntity hs id) horder
      rw [hconfig] at hrest
      rw [List.foldl_cons]
      apply ((hs.frees_stepEntity id).trans hrest).congr
      intro x y _
      by_cases hx : x = id
      · simp [hx, hid]
      · simp [hx]

/-! ## Snapshots with the same objects -/

section Interchange

variable {order order' : List EntityId} (hs : s.Sound) (horder : order.Nodup)
  (horder' : order'.Nodup) (hmem : ∀ x, x ∈ order ↔ x ∈ order')

include hs horder horder' hmem

/-- The steps of a tick leave the same objects in whatever order they are taken. -/
theorem entities_midTick_congr : (s.midTick order).entities = (s.midTick order').entities := by
  have hevolves := (evolves_foldl_stepEntity (t := s.tickStart) hs horder).1
  have hevolves' := (evolves_foldl_stepEntity (t := s.tickStart) hs horder').1
  have hfrees := frees_foldl_stepEntity (t := s.tickStart) hs horder
  have hfrees' := frees_foldl_stepEntity (t := s.tickStart) hs horder'
  simp only [← hmem] at hevolves' hfrees'
  have houtline : Table.Agree Entity.outline (s.midTick order).entities
      (s.midTick order').entities := fun x => (hevolves x).trans (hevolves' x).symm
  have hunplaced := houtline.mono Entity.unplaced
  rw [Entity.unplaced_comp_outline] at hunplaced
  apply (tickStable_sound.midTick hs order).objects.eq_of_unplaced
    (tickStable_sound.midTick hs order').objects hunplaced
  intro x e he hfree
  cases hold : s.entity? x with
  | none =>
      have hdead : (s.midTick order).entity? x = none := hevolves.entity?_eq_none hold
      rw [entity?, he] at hdead
      cases hdead
  | some old =>
      -- A tick does not change who is free.
      obtain ⟨e', he', hout⟩ := hevolves.exists_of_entity? hold
      have hsame : e' = e := Option.some.inj (he'.symm.trans he)
      subst hsame
      have hparent : e'.parent = old.parent := by
        rw [Entity.congr_outline Entity.parent (fun _ => rfl) hout]
        split
        · exact Entity.parent_ticked _ old
        · rfl
      obtain ⟨hnew, -⟩ := hfrees x old hold (hparent.symm.trans hfree)
      obtain ⟨hnew', -⟩ := hfrees' x old hold (hparent.symm.trans hfree)
      exact hnew'.trans (hnew.symm.trans he)

/-- A tick leaves the same scene, and reports a change in the same cases, for all snapshots with
the same objects. -/
theorem tick_congr :
    (s.tick order).1 = (s.tick order').1 ∧ (s.tick order).2.2 = (s.tick order').2.2 := by
  have hkept : ∀ l : List EntityId, (s.tick l).1.config = s.config ∧
      (s.tick l).1.nextId = s.nextId ∧ (s.tick l).1.lastName = s.lastName ∧
      (s.tick l).1.frameCount = s.frameCount := by
    intro l
    have hstable : StepStable fun u => u.config = s.config ∧ u.nextId = s.nextId ∧
        u.lastName = s.lastName ∧ u.frameCount = s.frameCount :=
      stepStable_of_objects fun _ _ hu => hu
    exact hstable.tick ⟨rfl, rfl, rfl, rfl⟩ l
  have hentities : (s.tick order).1.entities = (s.tick order').1.entities := by
    apply Table.ext_get?
    intro x
    have hmid := tickStable_sound.midTick hs order
    have hmid' := tickStable_sound.midTick hs order'
    have hgone := entity?_foldl_remove hmid.objects.forest (order.filter s.vanishes) x
    have hgone' := entity?_foldl_remove hmid'.objects.forest (order'.filter s.vanishes) x
    have hsame : (s.midTick order).entity? x = (s.midTick order').entity? x :=
      congrArg (Table.get? · x) (hs.entities_midTick_congr horder horder' hmem)
    rw [hs.tick_eq horder, hs.tick_eq horder']
    simp only [List.mem_filter, hmem, hsame] at hgone
    simp only [List.mem_filter] at hgone'
    exact hgone.trans hgone'.symm
  have hnames : (s.tick order).1.names = (s.tick order').1.names :=
    (tickStable_sound.tick hs order).registered.names_eq
      (tickStable_sound.tick hs order').registered hentities
  obtain ⟨hconfig, hnext, hlast, hframes⟩ := hkept order
  obtain ⟨hconfig', hnext', hlast', hframes'⟩ := hkept order'
  constructor
  · calc
      (s.tick order).1 = ⟨s.config, (s.tick order).1.entities, (s.tick order).1.names, s.nextId,
          s.lastName, s.frameCount⟩ := by rw [← hconfig, ← hnext, ← hlast, ← hframes]
      _ = ⟨s.config, (s.tick order').1.entities, (s.tick order').1.names, s.nextId,
          s.lastName, s.frameCount⟩ := by rw [hentities, hnames]
      _ = (s.tick order').1 := by rw [← hconfig', ← hnext', ← hlast', ← hframes']
  · rw [hs.tick_changed horder, hs.tick_changed horder', Bool.eq_iff_iff, List.any_eq_true,
      List.any_eq_true]
    simp only [hmem]

end Interchange

end Sound

/-! ## Displays -/

/-- Two states of a display that differ in the order of the snapshot only. -/
structure Reordered (p q : Scene × List EntityId) : Prop where
  sound : p.1.Sound
  scene_eq : p.1 = q.1
  nodup : p.2.Nodup
  perm : p.2.Perm q.2

namespace Reordered

variable {p q : Scene × List EntityId}

/-- The ticks from both states leave one scene and report a change in the same cases. -/
theorem tick (h : Reordered p q) :
    (p.1.tick p.2).1 = (q.1.tick q.2).1 ∧ (p.1.tick p.2).2.2 = (q.1.tick q.2).2.2 ∧
      (p.1.tick p.2).2.1.Perm (q.1.tick q.2).2.1 := by
  obtain ⟨hs, hscene, hnodup, hperm⟩ := h
  have hnodup' : q.2.Nodup := hperm.nodup_iff.mp hnodup
  rw [← hscene]
  obtain ⟨htick, hchanged⟩ := hs.tick_congr hnodup hnodup' fun _ => hperm.mem_iff
  refine ⟨htick, hchanged, ?_⟩
  rw [hs.tick_snapshot hnodup, hs.tick_snapshot hnodup']
  exact hperm.filter _

/-- One round keeps two states apart in the order of the snapshot only. -/
theorem round (h : Reordered p q) : Reordered (Scene.round p) (Scene.round q) where
  sound := tickStable_sound.countFrame (tickStable_sound.tick h.sound p.2)
  scene_eq := congrArg countFrame h.tick.1
  nodup := by
    have hsnapshot : (p.1.tick p.2).2.1.Nodup := by
      rw [h.sound.tick_snapshot h.nodup]
      exact h.nodup.filter _
    exact hsnapshot
  perm := h.tick.2.2

theorem iterate_round (h : Reordered p q) (n : Nat) :
    Reordered (Scene.round^[n] p) (Scene.round^[n] q) := by
  induction n with
  | zero => exact h
  | succ n ih =>
      rw [Function.iterate_succ_apply', Function.iterate_succ_apply']
      exact ih.round

/-- The frames of both states show the same, in orders of their own. -/
theorem frameOf (h : Reordered p q) : (Scene.frameOf p).Perm (Scene.frameOf q) := by
  unfold Scene.frameOf frame placements
  rw [h.scene_eq]
  exact (h.perm.filterMap _).map _

/-- Displays from both states end after the same number of frames, with the same scene. -/
theorem settleFrames (h : Reordered p q) (limit : Nat) (r r' : Recording) (frames : Nat) :
    (p.1.settleFrames p.2 r frames limit).map (fun d => (d.scene, d.frames)) =
      (q.1.settleFrames q.2 r' frames limit).map fun d => (d.scene, d.frames) := by
  induction limit generalizing p q r r' frames with
  | zero => rfl
  | succ limit ih =>
      rw [settleFrames_succ, settleFrames_succ, ← h.tick.2.1]
      split
      · exact ih h.round _ _ _
      · exact congrArg (fun s => some (s, frames + 1)) h.round.scene_eq

end Reordered

end Scene

end Storyboard
