import Storyboard.Proofs.Scene.Ties

/-!
# Objects that others have left

Objects leave a scene one at a time: transparent ones at the end of a tick, and those whose
names are taken over in the course of a definition. What the departures leave of another object
depends on which objects are still there, and not on the order in which the others went.

Main results:

- Theorem `Entity.among_among`: departures can be taken together.
- Theorem `Scene.entity?_foldl_remove`: what is left of each object when a list of them has gone.
- Theorem `Scene.among_isLive_of_foldl_remove`: it is enough to know who is left.
-/

namespace Storyboard

open Objects

namespace Entity

/-- What is left of an object when of the objects around it only some are left: it has no ties
to the others, and it is free if its parent is one of them. -/
def among (live : EntityId → Bool) (e : Entity) : Entity :=
  { e with
    parent := e.parent.filter live
    offset := if e.parent.all live then e.offset else Point.zero
    children := e.children.filter live }

variable {e : Entity} {live : EntityId → Bool}

/-- One departure. -/
theorem without_eq_among (id : EntityId) (e : Entity) :
    e.without id = e.among fun x => decide (x ≠ id) := by
  cases hparent : e.parent with
  | none => simp [without, among, Scene.dropChild, hparent]
  | some p =>
      by_cases hp : p = id
      · simp [without, among, Scene.dropChild, Scene.orphan, hparent, hp, Option.filter]
      · simp [without, among, Scene.dropChild, hparent, hp, Option.filter]

/-- Departures can be taken together. -/
theorem among_among (live live' : EntityId → Bool) (e : Entity) :
    (e.among live).among live' = e.among fun x => live x && live' x := by
  cases hparent : e.parent with
  | none => simp [among, hparent, List.filter_filter, Bool.and_comm]
  | some p =>
      cases hp : live p <;>
        simp [among, hparent, hp, Option.filter, List.filter_filter, Bool.and_comm]

/-- Nothing changes for an object that has lost none of its ties. -/
theorem among_eq_self (hparent : ∀ p, e.parent = some p → live p)
    (hchildren : ∀ c ∈ e.children, live c) : e.among live = e := by
  have hfilter : e.children.filter live = e.children := List.filter_eq_self.mpr hchildren
  have hkeep : e.parent.filter live = e.parent ∧ e.parent.all live := by
    cases hp : e.parent with
    | none => exact ⟨rfl, rfl⟩
    | some p => simp [Option.filter, hparent p hp]
  simp [among, hfilter, hkeep]

end Entity

namespace Scene

/-- Whether there is an object with an identifier. -/
def isLive (s : Scene) (id : EntityId) : Bool := (s.entity? id).isSome

variable {s u : Scene} {e : Entity} {x : EntityId}

/-- The objects that a live object is tied to are alive. -/
theorem among_isLive (hs : Forest s.entities) (he : s.entity? x = some e) :
    e.among s.isLive = e := by
  apply Entity.among_eq_self
  · intro p hp
    obtain ⟨y, hy⟩ := hs.tied.parent_live ⟨e, he, hp⟩
    simp [isLive, entity?, hy]
  · intro c hc
    obtain ⟨y, hy⟩ := ((hs.lists_iff_isParent x c).mp ⟨e, he, hc⟩).child_live
    simp [isLive, entity?, hy]

/-- Only live objects have to be told apart. -/
theorem among_congr_of_isLive (hs : Forest s.entities) (he : s.entity? x = some e)
    {live live' : EntityId → Bool} (h : ∀ y, s.isLive y → live y = live' y) :
    e.among live = e.among live' := by
  rw [← among_isLive hs he, Entity.among_among, Entity.among_among]
  apply congrArg (Entity.among · e)
  funext y
  cases hy : s.isLive y with
  | false => rfl
  | true => rw [h y hy]

/-- Earlier departures do not matter if later ones include them. -/
theorem among_among_of_isLive (hs : Forest s.entities) (he : s.entity? x = some e)
    {live live' : EntityId → Bool} (h : ∀ y, s.isLive y → live' y → live y) :
    (e.among live).among live' = e.among live' := by
  rw [Entity.among_among]
  apply among_congr_of_isLive hs he
  intro y hy
  cases hlive : live' y with
  | false => rw [Bool.and_false]
  | true => rw [h y hy hlive, Bool.and_self]

/-- Removing objects one after another takes them away and leaves every other object without
them. -/
theorem entity?_foldl_remove (hs : Forest s.entities) (gone : List EntityId) (x : EntityId) :
    (gone.foldl remove s).entity? x =
      if x ∈ gone then none
      else (s.entity? x).map (Entity.among fun y => decide (y ∉ gone)) := by
  induction gone generalizing s with
  | nil =>
      cases hget : s.entity? x with
      | none => simp [hget]
      | some e => simp [hget, Entity.among_eq_self]
  | cons id gone ih =>
      have hforest : Forest (s.remove id).entities := hs.without (entity?_remove hs.tied id)
      rw [List.foldl_cons, ih hforest, entity?_remove hs.tied]
      by_cases hx : x = id
      · simp [hx]
      · by_cases hgone : x ∈ gone
        · simp [hgone]
        · simp only [hgone, hx, List.mem_cons, or_self, if_false, Option.map_map]
          apply congrArg (Option.map · (s.entity? x))
          funext e
          rw [Function.comp_apply, Entity.without_eq_among, Entity.among_among]
          simp

/-- The objects that are left when a list of them has gone. -/
theorem isLive_foldl_remove (hs : Forest s.entities) (gone : List EntityId) (x : EntityId) :
    (gone.foldl remove s).isLive x = (s.isLive x && decide (x ∉ gone)) := by
  rw [isLive, entity?_foldl_remove hs]
  by_cases hx : x ∈ gone
  · simp [hx]
  · simp [hx, isLive]

/-- What departures leave of an object depends on who is left. -/
theorem among_isLive_of_foldl_remove (hs : Forest s.entities) (he : s.entity? x = some e)
    (gone : List EntityId) :
    e.among (gone.foldl remove s).isLive = e.among fun y => decide (y ∉ gone) := by
  apply among_congr_of_isLive hs he
  intro y hy
  rw [isLive_foldl_remove hs, hy, Bool.true_and]

end Scene

end Storyboard
