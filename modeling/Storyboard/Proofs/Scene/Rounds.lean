import Mathlib.Data.Finset.Order
import Mathlib.Data.Nat.Find
import Storyboard.Proofs.Scene.Ticking

/-!
# The rounds of a display

After any number of rounds every object of a scene is what the ticks have made of it by itself,
without the ties to objects that have gone; hidden objects have taken no part. The snapshot is
the render order that the display began with, less the objects that have gone. A display goes on
exactly as long as some object of the snapshot has not come to rest by itself.

Main results:

- Theorem `Scene.Sound.afterRounds_spec`: every object, and the snapshot, after some rounds.
- Theorem `Scene.Sound.eq_of_afterRounds`: what has changed about an object by then.
- Theorem `Scene.Sound.isBusy_eq`: whether a round reports a change.
- Theorem `Scene.settleFrames_of_first_rest`: a display ends with the first round that reports none.
-/

namespace Storyboard

open Objects

/-! ## An object by itself -/

namespace Entity

/-- What one tick leaves of an object by itself: nothing if it becomes transparent. -/
def outlast (rate : Float) (e : Entity) : Option Entity :=
  if (e.ticked rate).isGone then none else some (e.ticked rate)

/-- What a number of ticks leave of an object by itself. -/
def after (rate : Float) (e : Entity) : Nat → Option Entity
  | 0 => some e
  | n + 1 => (e.after rate n).bind (outlast rate)

/-- Within a number of ticks an object comes to rest by itself, or goes. -/
def RestsWithin (rate : Float) (n : Nat) (e : Entity) : Prop :=
  ∀ e', e.after rate n = some e' → e'.isActive = false

variable {e e' : Entity} {rate : Float} {n : Nat}

/-- Ticks change the position, the motion and the opacity of an object only. -/
theorem ticked_eq (rate : Float) (e : Entity) :
    e.ticked rate = { e with
      pos := (e.ticked rate).pos
      motion := (e.ticked rate).motion
      alpha := (e.ticked rate).alpha } := by
  have hstepped : e.stepped = { e with pos := e.stepped.pos, motion := e.stepped.motion } := by
    unfold stepped
    split
    · rfl
    · simp only
      split_ifs <;> rfl
  unfold ticked dimmed
  split
  · rw [hstepped]
  · rw [hstepped]

theorem isGone_among (live : EntityId → Bool) (e : Entity) : (e.among live).isGone = e.isGone :=
  rfl

theorem isActive_among (live : EntityId → Bool) (e : Entity) :
    (e.among live).isActive = e.isActive :=
  rfl

theorem ticked_among (live : EntityId → Bool) (rate : Float) (e : Entity) :
    (e.among live).ticked rate = (e.ticked rate).among live := by
  have hstepped : (e.among live).stepped = e.stepped.among live := by
    have hmotion : (e.among live).motion = e.motion := rfl
    have hpos : (e.among live).pos = e.pos := rfl
    unfold stepped
    rw [hmotion, hpos]
    split
    · rfl
    · simp only
      split_ifs <;> rfl
  rw [ticked, ticked, hstepped]
  unfold dimmed
  have hfade : (e.stepped.among live).fadeOut = e.stepped.fadeOut := rfl
  rw [hfade]
  split <;> rfl

/-- A tick never changes the opacity of an object that does not fade. -/
theorem alpha_ticked (hfade : e.fadeOut = false) : (e.ticked rate).alpha = e.alpha := by
  have hstepped : e.stepped.alpha = e.alpha := by
    unfold stepped
    split
    · rfl
    · simp only
      split_ifs <;> rfl
  rw [ticked, dimmed, fadeOut_stepped, hfade]
  exact hstepped

/-- Only fading objects become transparent. -/
theorem outlast_of_not_fadeOut (hfade : e.fadeOut = false) :
    e.outlast rate = some (e.ticked rate) := by
  have hgone : (e.ticked rate).isGone = false := by
    rw [ticked_eq, isGone]
    simp [hfade]
  simp [outlast, hgone]

/-- What is left of an object after a number of ticks differs from it in its position, its
motion and, if it fades, its opacity. -/
theorem eq_of_after (h : e.after rate n = some e') :
    e' = { e with pos := e'.pos, motion := e'.motion, alpha := e'.alpha } ∧
      (e.fadeOut = false → e'.alpha = e.alpha) := by
  induction n generalizing e' with
  | zero =>
      cases h
      exact ⟨rfl, fun _ => rfl⟩
  | succ n ih =>
      obtain ⟨d, hd, hlast⟩ := Option.bind_eq_some_iff.mp h
      obtain ⟨hkept, halpha⟩ := ih hd
      have hticked : e' = d.ticked rate := by
        unfold outlast at hlast
        split at hlast
        · cases hlast
        · cases hlast
          rfl
      subst hticked
      constructor
      · rw [ticked_eq, hkept]
      · intro hfade
        have hfade' : d.fadeOut = e.fadeOut := by rw [hkept]
        rw [alpha_ticked (hfade'.trans hfade), halpha hfade]

/-- An object that has gone did fade. -/
theorem fadeOut_of_after_eq_none (h : e.after rate n = none) : e.fadeOut = true := by
  by_contra hfade
  rw [Bool.not_eq_true] at hfade
  induction n with
  | zero => cases h
  | succ n ih =>
      rw [after] at h
      cases hd : e.after rate n with
      | none => exact ih hd
      | some d =>
          have hfade' : d.fadeOut = e.fadeOut := by rw [(eq_of_after hd).1]
          rw [hd, Option.bind_some, outlast_of_not_fadeOut (hfade'.trans hfade)] at h
          cases h

/-- An object at rest stays as it is. -/
theorem outlast_of_inactive (h : e.isActive = false) : e.outlast rate = some e := by
  have hfade : e.fadeOut = false := (Bool.or_eq_false_iff.mp h).2
  rw [outlast_of_not_fadeOut hfade, ticked_of_inactive h]

/-- What has come to rest stays at rest. -/
theorem RestsWithin.mono {m : Nat} (h : e.RestsWithin rate n) (hle : n ≤ m) :
    e.RestsWithin rate m := by
  induction hle with
  | refl => exact h
  | step _ ih =>
      intro e' he'
      obtain ⟨d, hd, hlast⟩ := Option.bind_eq_some_iff.mp he'
      rw [outlast_of_inactive (ih d hd)] at hlast
      cases hlast
      exact ih _ hd

end Entity

/-! ## The render order -/

namespace Scene

variable {s : Scene}

namespace Registered

/-- The render order lists the visible objects. -/
theorem mem_renderOrder (hs : s.Registered) (x : EntityId) :
    x ∈ s.renderOrder ↔ ∃ e, s.entity? x = some e ∧ e.visible = true := by
  unfold renderOrder
  simp only [List.mem_map, List.mem_mergeSort, List.mem_filter]
  constructor
  · rintro ⟨e, ⟨hmem, hvisible⟩, rfl⟩
    obtain ⟨id, hid⟩ := (Table.mem_values_iff s.entities e).mp hmem
    have he : s.entity? id = some e := hid
    exact ⟨e, hs.id_eq he ▸ he, hvisible⟩
  · rintro ⟨e, he, hvisible⟩
    exact ⟨e, ⟨(Table.mem_values_iff s.entities e).mpr ⟨x, he⟩, hvisible⟩, hs.id_eq he⟩

/-- The render order lists no object twice. -/
theorem nodup_renderOrder (hs : s.Registered) : s.renderOrder.Nodup := by
  have hids : ((s.objects.filter Entity.visible).map Entity.id).Nodup := by
    refine List.pairwise_map.mpr ((hs.pairwise_objects.filter _).imp ?_)
    intro a b hlt heq
    rw [heq] at hlt
    exact UInt64.lt_irrefl b.id hlt
  exact ((List.mergeSort_perm _ _).map Entity.id).nodup_iff.mpr hids

end Registered

/-! ## Objects and snapshot after a number of rounds -/

/-- What a number of ticks leave of an object of the scene by itself. Hidden objects take no
part. -/
def own (s : Scene) (n : Nat) (x : EntityId) : Option Entity :=
  (s.entity? x).bind fun e => if e.visible then e.after s.config.frameRate n else some e

/-- Whether the tick of a round reports a change. -/
def isBusy (s : Scene) (n : Nat) : Bool := ((s.afterRounds n).1.tick (s.afterRounds n).2).2.2

theorem own_zero (s : Scene) (x : EntityId) : s.own 0 x = s.entity? x := by
  unfold own
  cases s.entity? x with
  | none => rfl
  | some e => simp [Entity.after]

theorem afterRounds_succ (s : Scene) (n : Nat) :
    s.afterRounds (n + 1) = round (s.afterRounds n) :=
  Function.iterate_succ_apply' round n _

namespace Sound

variable (hs : s.Sound)

include hs

theorem own_succ_of_mem {x : EntityId} (hx : x ∈ s.renderOrder) (n : Nat) :
    s.own (n + 1) x = (s.own n x).bind (Entity.outlast s.config.frameRate) := by
  obtain ⟨e, he, hvisible⟩ := (hs.registered.mem_renderOrder x).mp hx
  simp [own, he, hvisible, Entity.after]

theorem own_of_not_mem {x : EntityId} (hx : x ∉ s.renderOrder) (n : Nat) :
    s.own n x = s.entity? x := by
  unfold own
  cases he : s.entity? x with
  | none => rfl
  | some e =>
      have hhidden : e.visible = false := by
        by_contra hvisible
        rw [Bool.not_eq_false] at hvisible
        exact hx ((hs.registered.mem_renderOrder x).mpr ⟨e, he, hvisible⟩)
      simp [hhidden]

/-- What has gone by itself stays away. -/
theorem own_succ_of_none {n : Nat} {x : EntityId} (hown : s.own n x = none) :
    s.own (n + 1) x = none := by
  by_cases hx : x ∈ s.renderOrder
  · rw [hs.own_succ_of_mem hx, hown, Option.bind_none]
  · rw [hs.own_of_not_mem hx, ← hs.own_of_not_mem hx n, hown]

/-- What one round makes of the objects, if the rounds before it have made of each what it makes
of itself. -/
theorem outline_round {u : Scene} {order : List EntityId} {n : Nat} (hu : u.Sound)
    (hconfig : u.config = s.config)
    (hsnapshot : order = s.renderOrder.filter u.isLive)
    (hobjects : ∀ x, (u.entity? x).map Entity.outline =
      (s.own n x).map fun e => (e.among u.isLive).outline) (x : EntityId) :
    ((u.tick order).1.entity? x).map Entity.outline =
      (s.own (n + 1) x).map fun e => (e.among (u.tick order).1.isLive).outline := by
  have hnodup : order.Nodup := hsnapshot ▸ hs.registered.nodup_renderOrder.filter _
  have hnarrow := hu.among_isLive_tick hnodup
  rw [hu.outline_tick hnodup]
  cases hown : s.own n x with
  | none =>
      have hdead : u.entity? x = none := by
        have hx := hobjects x
        rw [hown, Option.map_none] at hx
        exact Option.map_eq_none_iff.mp hx
      rw [hdead, hs.own_succ_of_none hown, Option.map_none, Option.map_none, ite_self]
  | some e =>
      obtain ⟨e', he', hout⟩ : ∃ e', u.entity? x = some e' ∧
          e'.outline = (e.among u.isLive).outline := by
        have hx := hobjects x
        rw [hown, Option.map_some] at hx
        exact Option.map_eq_some_iff.mp hx
      by_cases hx : x ∈ s.renderOrder
      · have hmem : x ∈ order := by
          rw [hsnapshot, List.mem_filter]
          exact ⟨hx, by simp [isLive, he']⟩
        have hticked := Entity.respects_ticked s.config.frameRate _ _ hout
        rw [Entity.ticked_among] at hticked
        have hvanishes : u.vanishes x = (e.ticked s.config.frameRate).isGone := by
          rw [vanishes, he', Option.any_some, hconfig]
          exact (Entity.isGone_of_outline hticked).trans (Entity.isGone_among _ _)
        rw [hs.own_succ_of_mem hx, hown, Option.bind_some, Entity.outlast, hvanishes]
        simp only [hmem, true_and, if_true]
        split
        · rfl
        · rw [he', hconfig, Option.map_some, Option.map_some,
            Entity.respects_among _ _ _ hticked, hnarrow]
      · have hmem : x ∉ order := by
          rw [hsnapshot, List.mem_filter]
          exact fun h => hx h.1
        rw [hs.own_of_not_mem hx, ← hs.own_of_not_mem hx n, hown, if_neg fun h => hmem h.1, he',
          Option.map_some, Option.map_some, if_neg hmem, Entity.respects_among _ _ _ hout, hnarrow]

/-- What is left of the snapshot after one round. -/
theorem snapshot_round {u : Scene} {order : List EntityId} (hu : u.Sound)
    (hsnapshot : order = s.renderOrder.filter u.isLive) :
    (u.tick order).2.1 = s.renderOrder.filter (u.tick order).1.isLive := by
  have hnodup : order.Nodup := hsnapshot ▸ hs.registered.nodup_renderOrder.filter _
  rw [hu.tick_snapshot hnodup, hsnapshot, List.filter_filter, ← hsnapshot]
  apply List.filter_congr
  intro x hx
  have hmem : x ∈ order ↔ u.isLive x := by simp [hsnapshot, hx]
  rw [hu.isLive_tick hnodup, Bool.and_comm]
  cases hlive : u.isLive x
  · simp
  · simp [hmem.mpr hlive]

/-- Every object, and the snapshot, after a number of rounds. -/
theorem afterRounds_spec (n : Nat) :
    (∀ x, ((s.afterRounds n).1.entity? x).map Entity.outline =
      (s.own n x).map fun e => (e.among (s.afterRounds n).1.isLive).outline) ∧
    (s.afterRounds n).2 = s.renderOrder.filter (s.afterRounds n).1.isLive := by
  induction n with
  | zero =>
      have hstart : s.afterRounds 0 = (s, s.renderOrder) := rfl
      rw [hstart]
      constructor
      · intro x
        rw [own_zero]
        cases he : s.entity? x with
        | none => rfl
        | some e => rw [Option.map_some, Option.map_some, among_isLive hs.objects.forest he]
      · refine (List.filter_eq_self.mpr ?_).symm
        intro x hx
        obtain ⟨e, he, -⟩ := (hs.registered.mem_renderOrder x).mp hx
        simp [isLive, he]
  | succ n ih =>
      obtain ⟨hobjects, hsnapshot⟩ := ih
      have hsound : (s.afterRounds n).1.Sound := tickStable_sound.afterRounds hs n
      have hconfig : (s.afterRounds n).1.config = s.config :=
        ((tickStable_counter s.nextId s.config).afterRounds ⟨rfl, rfl⟩ n).2
      rw [afterRounds_succ]
      exact ⟨hs.outline_round hsound hconfig hsnapshot hobjects,
        hs.snapshot_round hsound hsnapshot⟩

/-- What has become of an object that is still there after a number of rounds. -/
theorem exists_own {n : Nat} {x : EntityId} {e' : Entity}
    (he' : (s.afterRounds n).1.entity? x = some e') :
    ∃ e, s.own n x = some e ∧ e'.outline = (e.among (s.afterRounds n).1.isLive).outline := by
  have hx := (hs.afterRounds_spec n).1 x
  rw [he', Option.map_some] at hx
  obtain ⟨e, he, hout⟩ := Option.map_eq_some_iff.mp hx.symm
  exact ⟨e, he, hout.symm⟩

/-- After a number of rounds those objects are left of which something is left by itself. -/
theorem isLive_afterRounds (n : Nat) (x : EntityId) :
    (s.afterRounds n).1.isLive x = (s.own n x).isSome := by
  have hx := congrArg Option.isSome ((hs.afterRounds_spec n).1 x)
  rwa [Option.isSome_map, Option.isSome_map] at hx

/-- What is left after a number of rounds was left after every number before it. -/
theorem isLive_of_le {j k : Nat} (hle : j ≤ k) {x : EntityId}
    (hlive : (s.afterRounds k).1.isLive x) : (s.afterRounds j).1.isLive x := by
  induction hle with
  | refl => exact hlive
  | step _ ih =>
      apply ih
      rw [hs.isLive_afterRounds] at hlive ⊢
      by_contra hgone
      rw [hs.own_succ_of_none (Option.not_isSome_iff_eq_none.mp hgone)] at hlive
      cases hlive

/-- What is left of an object after a number of rounds differs from it in its position, its
motion, its opacity and its ties to objects that have gone. Hidden objects keep motion and
opacity, and so does the opacity of an object that does not fade. -/
theorem eq_of_afterRounds {n : Nat} {x : EntityId} {e' : Entity}
    (he' : (s.afterRounds n).1.entity? x = some e') :
    ∃ e, s.entity? x = some e ∧
      e' = { e.among (s.afterRounds n).1.isLive with
        pos := e'.pos, motion := e'.motion, alpha := e'.alpha } ∧
      (e.visible = false ∨ e.fadeOut = false → e'.alpha = e.alpha) ∧
      (e.visible = false → e'.motion = e.motion) := by
  obtain ⟨d, hown, hout⟩ := hs.exists_own he'
  obtain ⟨e, he, hd⟩ := Option.bind_eq_some_iff.mp hown
  have hplaced : e' = { d.among (s.afterRounds n).1.isLive with pos := e'.pos } := by
    have hunplaced := Entity.unplaced_of_outline hout
    exact Entity.eq_of_unplaced hunplaced rfl
  refine ⟨e, he, ?_⟩
  cases hvisible : e.visible with
  | false =>
      rw [hvisible] at hd
      cases hd
      have hmotion : e'.motion = d.motion := by rw [hplaced]; rfl
      have halpha : e'.alpha = d.alpha := by rw [hplaced]; rfl
      refine ⟨?_, fun _ => halpha, fun _ => hmotion⟩
      rw [hplaced]
  | true =>
      rw [hvisible] at hd
      obtain ⟨hkept, halpha⟩ := Entity.eq_of_after hd
      refine ⟨?_, ?_, fun h => by cases h⟩
      · rw [hplaced, hkept]
        rfl
      · rintro (h | hfade)
        · cases h
        · rw [hplaced]
          exact halpha hfade

/-- The objects that are active after a number of rounds are those that are so by themselves. -/
theorem isActive_afterRounds (n : Nat) (x : EntityId) :
    (s.afterRounds n).1.isActive x = (s.own n x).any Entity.isActive := by
  rw [isActive]
  cases he' : (s.afterRounds n).1.entity? x with
  | none =>
      have hown : s.own n x = none := by
        have hlive := hs.isLive_afterRounds n x
        rw [isLive, he'] at hlive
        exact Option.isNone_iff_eq_none.mp (Option.isSome_eq_false_iff.mp hlive.symm)
      rw [hown, Option.any_none]
  | some e' =>
      obtain ⟨e, he, hout⟩ := hs.exists_own he'
      rw [he, Option.any_some, Option.any_some, Entity.isActive_of_outline hout,
        Entity.isActive_among]

/-- A round reports a change if any object of the render order has not come to rest by itself. -/
theorem isBusy_eq (n : Nat) :
    s.isBusy n = s.renderOrder.any fun x => (s.own n x).any Entity.isActive := by
  have hsnapshot := (hs.afterRounds_spec n).2
  have hsound : (s.afterRounds n).1.Sound := tickStable_sound.afterRounds hs n
  have hnodup : (s.afterRounds n).2.Nodup := hsnapshot ▸ hs.registered.nodup_renderOrder.filter _
  rw [isBusy, hsound.tick_changed hnodup, hsnapshot, List.any_filter]
  apply congrArg s.renderOrder.any
  funext x
  rw [hs.isActive_afterRounds, hs.isLive_afterRounds]
  cases s.own n x <;> rfl

/-- A round reports no change if every visible object has come to rest by itself, or gone. -/
theorem isBusy_eq_false_iff (n : Nat) :
    s.isBusy n = false ↔ ∀ x e, s.entity? x = some e → e.visible = true →
      e.RestsWithin s.config.frameRate n := by
  rw [hs.isBusy_eq, List.any_eq_false]
  constructor
  · intro h x e he hvisible e' he'
    have hx := h x ((hs.registered.mem_renderOrder x).mpr ⟨e, he, hvisible⟩)
    simpa [own, he, hvisible, he'] using hx
  · intro h x hx
    obtain ⟨e, he, hvisible⟩ := (hs.registered.mem_renderOrder x).mp hx
    rw [own, he, Option.bind_some, if_pos hvisible]
    cases he' : e.after s.config.frameRate n with
    | none => simp
    | some e' => simp [h x e he hvisible e' he']

/-- Once a round has reported no change, no later one would. -/
theorem isBusy_of_le {n m : Nat} (hle : n ≤ m) (hrest : s.isBusy n = false) :
    s.isBusy m = false := by
  rw [hs.isBusy_eq_false_iff] at hrest ⊢
  intro x e he hvisible
  exact (hrest x e he hvisible).mono hle

/-- Some round reports no change if each visible object comes to rest by itself, or goes. -/
theorem exists_isBusy_eq_false_iff :
    (∃ n, s.isBusy n = false) ↔ ∀ x e, s.entity? x = some e → e.visible = true →
      ∃ n, e.RestsWithin s.config.frameRate n := by
  constructor
  · rintro ⟨n, hn⟩ x e he hvisible
    exact ⟨n, (hs.isBusy_eq_false_iff n).mp hn x e he hvisible⟩
  · intro h
    have hrests : ∀ x ∈ s.renderOrder, ∃ n, ∀ e, s.entity? x = some e →
        e.RestsWithin s.config.frameRate n := by
      intro x hx
      obtain ⟨e, he, hvisible⟩ := (hs.registered.mem_renderOrder x).mp hx
      obtain ⟨n, hn⟩ := h x e he hvisible
      refine ⟨n, fun e' he' => ?_⟩
      rw [he] at he'
      cases he'
      exact hn
    choose! time htime using hrests
    -- There are finitely many objects, so one of them is the last to come to rest.
    obtain ⟨last, hlast⟩ := (s.renderOrder.toFinset.image time).exists_le
    refine ⟨last, (hs.isBusy_eq_false_iff last).mpr fun x e he hvisible => ?_⟩
    have hx : x ∈ s.renderOrder := (hs.registered.mem_renderOrder x).mpr ⟨e, he, hvisible⟩
    exact (htime x hx e he).mono
      (hlast _ (Finset.mem_image_of_mem time (List.mem_toFinset.mpr hx)))

/-- What has gone after a number of rounds was visible and fading. -/
theorem faded_of_gone {n : Nat} {x : EntityId} {e : Entity} (he : s.entity? x = some e)
    (hgone : (s.afterRounds n).1.entity? x = none) : e.visible = true ∧ e.fadeOut = true := by
  have hown : s.own n x = none := by
    have hlive := hs.isLive_afterRounds n x
    rw [isLive, hgone] at hlive
    exact Option.isNone_iff_eq_none.mp (Option.isSome_eq_false_iff.mp hlive.symm)
  rw [own, he, Option.bind_some] at hown
  split at hown
  · next hvisible => exact ⟨hvisible, Entity.fadeOut_of_after_eq_none hown⟩
  · cases hown

/-- When a round reports no change, the visible objects that it leaves neither move nor fade. -/
theorem isActive_of_rest {n : Nat} (hrest : s.isBusy n = false) {x : EntityId} {e' : Entity}
    (he' : (s.afterRounds (n + 1)).1.entity? x = some e') (hvisible : e'.visible = true) :
    e'.isActive = false := by
  obtain ⟨e, he, hkept, -⟩ := hs.eq_of_afterRounds he'
  have hshown : e.visible = true := by
    rw [hkept] at hvisible
    exact hvisible
  have hrests := ((hs.isBusy_eq_false_iff n).mp hrest x e he hshown).mono (Nat.le_succ n)
  have hactive := hs.isActive_afterRounds (n + 1) x
  rw [isActive, he', Option.any_some] at hactive
  rw [hactive, own, he, Option.bind_some, if_pos hshown]
  cases hafter : e.after s.config.frameRate (n + 1) with
  | none => rfl
  | some d => exact hrests d hafter

/-- When a round reports no change, what it leaves of an object differs from it in where it
stands, in its motion, which hidden objects keep, and in its ties to objects that have gone. -/
theorem eq_of_rest {n : Nat} (hrest : s.isBusy n = false) {x : EntityId} {e' : Entity}
    (he' : (s.afterRounds (n + 1)).1.entity? x = some e') :
    ∃ e, s.entity? x = some e ∧
      e' = { e.among (s.afterRounds (n + 1)).1.isLive with pos := e'.pos, motion := e'.motion } ∧
      (e.visible = false → e'.motion = e.motion) := by
  obtain ⟨e, he, hkept, halpha, hmotion⟩ := hs.eq_of_afterRounds he'
  refine ⟨e, he, ?_, hmotion⟩
  -- What is left does not fade, be it hidden or at rest.
  have hsolid : e.visible = false ∨ e.fadeOut = false := by
    cases hvisible : e.visible with
    | false => exact .inl rfl
    | true =>
        have hshown : e'.visible = true := by
          rw [hkept]
          exact hvisible
        have hfade := (Bool.or_eq_false_iff.mp (hs.isActive_of_rest hrest he' hshown)).2
        rw [hkept] at hfade
        exact .inr hfade
  have hopaque : (e.among (s.afterRounds (n + 1)).1.isLive).alpha = e'.alpha :=
    (halpha hsolid).symm
  calc e' = { e.among (s.afterRounds (n + 1)).1.isLive with
            pos := e'.pos, motion := e'.motion, alpha := e'.alpha } := hkept
    _ = { e.among (s.afterRounds (n + 1)).1.isLive with
            pos := e'.pos, motion := e'.motion } := by rw [← hopaque]

end Sound

/-! ## The length of a display -/

/-- The recording after the frames of a number of rounds. -/
def film (s : Scene) (r : Recording) (n : Nat) : Recording :=
  ((List.range n).map fun k => frameOf (s.afterRounds (k + 1))).foldl Recording.render r

theorem film_succ (s : Scene) (r : Recording) (n : Nat) :
    s.film r (n + 1) = (s.film r n).render (frameOf (s.afterRounds (n + 1))) := by
  simp [film, List.range_succ]

/-- A display that is busy for a number of rounds goes on from the scene they leave. -/
theorem settleFrames_resume {n : Nat} (hbusy : ∀ k < n, s.isBusy k) (r : Recording)
    (limit : Nat) :
    s.settleFrames s.renderOrder r 0 (n + limit) =
      (s.afterRounds n).1.settleFrames (s.afterRounds n).2 (s.film r n) n limit := by
  induction n generalizing limit with
  | zero => rw [Nat.zero_add]; rfl
  | succ n ih =>
      have hlast : ((s.afterRounds n).1.tick (s.afterRounds n).2).2.2 = true :=
        hbusy n (Nat.lt_succ_self n)
      rw [Nat.add_right_comm, Nat.add_assoc,
        ih (fun k hk => hbusy k (Nat.lt_succ_of_lt hk)), settleFrames_succ, if_pos hlast,
        afterRounds_succ, film_succ, afterRounds_succ]

/-- A display ends with the first round that reports no change, if its limit allows it. -/
theorem settleFrames_of_first_rest {n : Nat} (hbusy : ∀ k < n, s.isBusy k)
    (hrest : s.isBusy n = false) (r : Recording) (limit : Nat) :
    s.settleFrames s.renderOrder r 0 limit =
      if n < limit then some ⟨(s.afterRounds (n + 1)).1, s.film r (n + 1), n + 1⟩ else none := by
  split
  · next hlimit =>
    obtain ⟨more, rfl⟩ := Nat.exists_eq_add_of_lt hlimit
    rw [Nat.add_assoc, settleFrames_resume hbusy, settleFrames_succ, if_neg, film_succ,
      afterRounds_succ]
    rw [Bool.not_eq_true]
    exact hrest
  · next hlimit =>
    have hshort : ∀ k < limit, s.isBusy k := fun k hk => hbusy k (by omega)
    rw [← Nat.add_zero limit, settleFrames_resume hshort]
    rfl

/-- A display that is busy in every round has no result. -/
theorem settleFrames_of_never_rest (hbusy : ∀ k, s.isBusy k) (r : Recording) (limit : Nat) :
    s.settleFrames s.renderOrder r 0 limit = none := by
  rw [← Nat.add_zero limit, settleFrames_resume fun k _ => hbusy k]
  rfl

/-- The rounds of a display that ends. -/
theorem settleFrames_eq_some_iff {r : Recording} {limit : Nat} {d : Displayed} :
    s.settleFrames s.renderOrder r 0 limit = some d ↔
      ∃ n < limit, (∀ k < n, s.isBusy k) ∧ s.isBusy n = false ∧
        d = ⟨(s.afterRounds (n + 1)).1, s.film r (n + 1), n + 1⟩ := by
  constructor
  · intro h
    by_cases hends : ∃ n, s.isBusy n = false
    · classical
      have hfirst : ∀ k < Nat.find hends, s.isBusy k := by
        intro k hk
        simpa using Nat.find_min hends hk
      rw [settleFrames_of_first_rest hfirst (Nat.find_spec hends)] at h
      split at h
      · next hlimit =>
        cases h
        exact ⟨_, hlimit, hfirst, Nat.find_spec hends, rfl⟩
      · cases h
    · rw [settleFrames_of_never_rest (by simpa using hends)] at h
      cases h
  · rintro ⟨n, hlimit, hbusy, hrest, rfl⟩
    rw [settleFrames_of_first_rest hbusy hrest, if_pos hlimit]

/-- What a display without the overlay results in. -/
theorem display_eq_some_iff (hoverlay : s.config.statusOverlay = false) {r : Recording}
    {limit : Nat} {d : Displayed} :
    s.display limit r = some d ↔
      ∃ n < limit, (∀ k < n, s.isBusy k) ∧ s.isBusy n = false ∧
        d = ⟨(s.afterRounds (n + 1)).1, s.film r (n + 1), n + 1⟩ := by
  have hconfig : ∀ n, (s.afterRounds n).1.config = s.config := fun n =>
    ((tickStable_counter s.nextId s.config).afterRounds ⟨rfl, rfl⟩ n).2
  rw [display, Option.map_eq_some_iff]
  constructor
  · rintro ⟨d', hd', rfl⟩
    obtain ⟨n, hlimit, hbusy, hrest, rfl⟩ := settleFrames_eq_some_iff.mp hd'
    exact ⟨n, hlimit, hbusy, hrest, by simp [hconfig, hoverlay]⟩
  · rintro ⟨n, hlimit, hbusy, hrest, rfl⟩
    exact ⟨_, settleFrames_eq_some_iff.mpr ⟨n, hlimit, hbusy, hrest, rfl⟩,
      by simp [hconfig, hoverlay]⟩

/-- A display has a result if some round within its limit reports no change. -/
theorem exists_display_iff {r : Recording} {limit : Nat} :
    (∃ d, s.display limit r = some d) ↔ ∃ n < limit, s.isBusy n = false := by
  constructor
  · rintro ⟨d, hd⟩
    obtain ⟨d', hd', -⟩ := Option.map_eq_some_iff.mp hd
    obtain ⟨n, hlimit, -, hrest, -⟩ := settleFrames_eq_some_iff.mp hd'
    exact ⟨n, hlimit, hrest⟩
  · intro hends
    classical
    have hbusy : ∀ k < Nat.find hends, s.isBusy k := by
      intro k hk
      have hearlier := Nat.find_min hends hk
      have hlimit := (Nat.find_spec hends).1
      simpa [hk.trans hlimit] using hearlier
    obtain ⟨hlimit, hrest⟩ := Nat.find_spec hends
    rw [display, settleFrames_of_first_rest hbusy hrest, if_pos hlimit]
    exact ⟨_, rfl⟩

/-- A display does not end while a tick leaves a visible object just as it is, and that object is
still on its way or still fades. -/
theorem Sound.display_eq_none (hs : s.Sound) {x : EntityId} {e : Entity}
    (he : s.entity? x = some e) (hvisible : e.visible = true) (hactive : e.isActive = true)
    (hstuck : e.outlast s.config.frameRate = some e) (limit : Nat) (r : Recording) :
    s.display limit r = none := by
  have hafter : ∀ n, e.after s.config.frameRate n = some e := by
    intro n
    induction n with
    | zero => rfl
    | succ n ih => rw [Entity.after, ih, Option.bind_some, hstuck]
  by_contra hends
  obtain ⟨n, -, hrest⟩ := exists_display_iff.mp (Option.ne_none_iff_exists'.mp hends)
  have hinactive := (hs.isBusy_eq_false_iff n).mp hrest x e he hvisible e (hafter n)
  rw [hinactive] at hactive
  cases hactive

end Scene

end Storyboard
