import Storyboard.Proofs.Scene.Departures
import Storyboard.Proofs.Session.Reachable

/-!
# Where objects are found

An object has two positions: the point where it is kept, which moves write and which the objects
that follow it are put by, and the point where it is found when a script refers to it. The two are
the same for every object but a link, which is found at the midpoint of its ends wherever it is
kept. What is attached to a link follows the point where the link is kept, and so do the ends of a
link that lead to another link.

Main results:

- Theorem `Scene.Displaced.isLink`: only links are found elsewhere than where they are kept.
- Theorem `Scene.joins_iff`: the ends of a link are where the objects at its ends are found,
  unless one of these is displaced.
- Theorem `Scene.Sound.tracks_iff`: an attached object is found at its offset from where its parent
  is found exactly if it is not displaced, provided that its parent is not.
- Theorem `Scene.Reachable.tracks_and_joins_iff`: where attached objects and the ends of links are in
  a reachable scene.
-/

namespace Storyboard

namespace Scene

variable {s : Scene} {id : EntityId} {e parent : Entity}

/-! ## Two positions -/

/-- An object that is found elsewhere than where it is kept, or nowhere. -/
def Displaced (s : Scene) (id : EntityId) : Prop :=
  ∃ e, s.entity? id = some e ∧ s.positionOf? id ≠ some e.pos

/-- An object is found at its offset from where its parent is found, if the parent is found at
all. -/
def Tracks (s : Scene) (e parent : Entity) : Prop :=
  s.position? e.name = (s.position? parent.name).map (· + e.offset)

/-- The ends of a link are where the objects at its ends are found. -/
def Joins (s : Scene) (source target : EntityId) : Prop :=
  s.linkEnds? source target =
    (s.positionOf? source).bind fun a => (s.positionOf? target).map fun b => (a, b)

theorem linkEnds?_eq (s : Scene) (source target : EntityId) :
    s.linkEnds? source target =
      (s.entity? source).bind fun a => (s.entity? target).map fun b => (a.pos, b.pos) := by
  rw [linkEnds?]
  cases s.entity? source <;> cases s.entity? target <;> rfl

theorem positionOf?_eq_none (h : s.entity? id = none) : s.positionOf? id = none := by
  simp [positionOf?, h]

/-- Links are found at the midpoint of their ends. -/
theorem positionOf?_link {source target : EntityId} {stroke : Float} (he : s.entity? id = some e)
    (hshape : e.shape = .link source target stroke) :
    s.positionOf? id = (s.linkEnds? source target).map fun (a, b) => Point.midpoint a b := by
  simp [positionOf?, he, hshape]

/-- Objects that are not displaced are found where they are kept. -/
theorem positionOf?_eq (he : s.entity? id = some e) (h : ¬ s.Displaced id) :
    s.positionOf? id = some e.pos := by
  by_contra hne
  exact h ⟨e, he, hne⟩

theorem not_displaced_iff (he : s.entity? id = some e) :
    ¬ s.Displaced id ↔ s.positionOf? id = some e.pos := by
  constructor
  · exact positionOf?_eq he
  · rintro hpos ⟨e', he', hne⟩
    rw [he] at he'
    cases he'
    exact hne hpos

/-- Only links are displaced. -/
theorem Displaced.isLink (h : s.Displaced id) (he : s.entity? id = some e) : e.isLink := by
  obtain ⟨e', he', hne⟩ := h
  rw [he] at he'
  cases he'
  cases hshape : e.shape with
  | link source target stroke => simp [Entity.isLink, hshape, Shape.isLink]
  | _ => exact absurd (by simp [positionOf?, he, hshape]) hne

theorem not_displaced_of_not_isLink (h : (s.entity? id).map Entity.isLink = some false) :
    ¬ s.Displaced id := by
  intro hdisplaced
  obtain ⟨e, he, hno⟩ := Option.map_eq_some_iff.mp h
  rw [hdisplaced.isLink he] at hno
  cases hno

/-- In a registered scene an object is found under its name. -/
theorem Registered.position?_name (hs : s.Registered) (he : s.entity? id = some e) :
    s.position? e.name = s.positionOf? id := by
  rw [position?, hs.id?_name he, Option.bind_some]

/-! ## Ends of links -/

/-- The ends of a link are where the objects at its ends are found, unless both are alive and one of
them is displaced. -/
theorem joins_iff (s : Scene) (source target : EntityId) :
    s.Joins source target ↔
      (s.isLive source → s.isLive target → ¬ s.Displaced source ∧ ¬ s.Displaced target) := by
  rw [Joins, linkEnds?_eq]
  cases ha : s.entity? source with
  | none => simp [isLive, ha, positionOf?_eq_none ha]
  | some a =>
      cases hb : s.entity? target with
      | none => cases s.positionOf? source <;> simp [isLive, hb, positionOf?_eq_none hb]
      | some b =>
          rw [not_displaced_iff ha, not_displaced_iff hb]
          cases s.positionOf? source <;> cases s.positionOf? target <;>
            simp [isLive, ha, hb, eq_comm]

/-! ## Attached objects -/

section Attached

variable {p : EntityId} (hs : s.Sound) (he : s.entity? id = some e) (hparent : e.parent = some p)
  (hp : s.entity? p = some parent)

include hs he hparent hp

/-- Attached objects are kept at their offset from where their parent is kept. -/
theorem Sound.pos_eq : e.pos = parent.pos + e.offset :=
  hs.objects.atOffset id e p parent he hparent hp

/-- Objects that are not displaced follow the point where their parent is kept. -/
theorem Sound.position?_attached (h : ¬ s.Displaced id) :
    s.position? e.name = some (parent.pos + e.offset) := by
  rw [hs.registered.position?_name he, positionOf?_eq he h, hs.pos_eq he hparent hp]

/-- If the parent is found where it is kept, an attached object tracks it unless it is displaced. -/
theorem Sound.tracks_iff (h : ¬ s.Displaced p) : s.Tracks e parent ↔ ¬ s.Displaced id := by
  rw [Tracks, hs.registered.position?_name he, hs.registered.position?_name hp,
    positionOf?_eq hp h, Option.map_some, ← hs.pos_eq he hparent hp, not_displaced_iff he]

end Attached

namespace Reachable

/-- Where attached objects and the ends of links are in a reachable scene. Only links are displaced.
An object whose parent is not displaced is found at its offset from where the parent is found,
unless it is displaced itself; any object that is not displaced is found at its offset from where
its parent is kept. A link is found at the midpoint of its ends, which are where the objects at its
ends are found unless one of these is displaced. -/
theorem tracks_and_joins_iff (hs : s.Reachable) :
    (∀ id e, s.entity? id = some e → s.Displaced id → e.isLink) ∧
    (∀ id e p, s.entity? id = some e → e.parent = some p →
      ∃ parent, s.entity? p = some parent ∧
        (¬ s.Displaced p → (s.Tracks e parent ↔ ¬ s.Displaced id)) ∧
        (¬ s.Displaced id → s.position? e.name = some (parent.pos + e.offset))) ∧
    ∀ id e source target stroke, s.entity? id = some e → e.shape = .link source target stroke →
      s.position? e.name =
        ((s.linkEnds? source target).map fun (a, b) => Point.midpoint a b) ∧
      (s.Joins source target ↔
        (s.isLive source → s.isLive target → ¬ s.Displaced source ∧ ¬ s.Displaced target)) := by
  have hsound : s.Sound := hs.sound
  refine ⟨fun id e he h => h.isLink he, ?_, ?_⟩
  · intro id e p he hparent
    obtain ⟨parent, hp⟩ := hsound.tied.parent_live ⟨e, he, hparent⟩
    refine ⟨parent, hp, ?_, ?_⟩
    · exact hsound.tracks_iff he hparent hp
    · exact hsound.position?_attached he hparent hp
  · intro id e source target stroke he hshape
    refine ⟨?_, joins_iff s source target⟩
    rw [hsound.registered.position?_name he, positionOf?_link he hshape]

/-- A link between two boxes with a box attached to it, a link from the first link to the second
box, and a box attached to the first box. -/
def linked : Scene :=
  afterLine ("define a box; define b box; define l link a b; define c box; attach c l 2 3; " ++
    "define m link l b; define d box; attach d a 2 3")

/-- The box that is attached to a box tracks it, and the link between the boxes joins them. -/
theorem tracks_and_joins_linked :
    linked.Reachable ∧ (∃ d a, linked.entity? 6 = some d ∧ d.parent = some 1 ∧
      linked.entity? 1 = some a ∧ linked.Tracks d a) ∧ linked.Joins 1 2 := by
  have hreachable : linked.Reachable := reachable_afterLine _
  obtain ⟨ha, hb, hdbox, hd, hl⟩ :
      (linked.entity? 1).map Entity.isLink = some false ∧
      (linked.entity? 2).map Entity.isLink = some false ∧
      (linked.entity? 6).map Entity.isLink = some false ∧
      (linked.entity? 6).map Entity.parent = some (some 1) ∧
      (linked.entity? 3).map Entity.shape = some (.link 1 2 1) := by decide +kernel
  obtain ⟨-, hattached, hlinks⟩ := tracks_and_joins_iff hreachable
  obtain ⟨d, hd, hparent⟩ := Option.map_eq_some_iff.mp hd
  obtain ⟨l, hl, hshape⟩ := Option.map_eq_some_iff.mp hl
  obtain ⟨a, hfirst, htracks, -⟩ := hattached 6 d 1 hd hparent
  have hjoins := (hlinks 3 l 1 2 1 hl hshape).2
  refine ⟨hreachable, ⟨d, a, hd, hparent, hfirst, ?_⟩, hjoins.mpr fun _ _ => ?_⟩
  · exact (htracks (not_displaced_of_not_isLink ha)).mpr (not_displaced_of_not_isLink hdbox)
  · exact ⟨not_displaced_of_not_isLink ha, not_displaced_of_not_isLink hb⟩

/-- What is attached to a link is not found at its offset from the link, and a link that ends at
a link does not end where that one is found. -/
theorem linked_apart :
    linked.Reachable ∧ linked.position? "l" = some ⟨400, 300⟩ ∧
    (∃ c l, linked.entity? 4 = some c ∧ c.parent = some 3 ∧ linked.entity? 3 = some l ∧
      c.offset = ⟨2, 3⟩ ∧ linked.position? c.name = some ⟨2, 3⟩ ∧ ¬ linked.Tracks c l) ∧
    (∃ m stroke, linked.entity? 5 = some m ∧ m.shape = .link 3 2 stroke) ∧
    linked.linkEnds? 3 2 = some (⟨0, 0⟩, ⟨400, 300⟩) ∧ ¬ linked.Joins 3 2 := by
  have hreachable : linked.Reachable := reachable_afterLine _
  obtain ⟨hc, hl, hm⟩ :
      (linked.entity? 4).map (fun c => (c.name, c.parent, c.offset)) =
        some ("c", some 3, ⟨2, 3⟩) ∧
      (linked.entity? 3).map Entity.name = some "l" ∧
      (linked.entity? 5).map Entity.shape = some (.link 3 2 1) := by decide +kernel
  obtain ⟨hlfound, hcfound, hends, hjoins⟩ :
      linked.position? "l" = some ⟨400, 300⟩ ∧ linked.position? "c" = some ⟨2, 3⟩ ∧
      linked.linkEnds? 3 2 = some (⟨0, 0⟩, ⟨400, 300⟩) ∧
      ¬ linked.linkEnds? 3 2 =
        (linked.positionOf? 3).bind fun a => (linked.positionOf? 2).map fun b => (a, b) := by
    decide +kernel
  obtain ⟨c, hc, hfields⟩ := Option.map_eq_some_iff.mp hc
  obtain ⟨l, hl, hlname⟩ := Option.map_eq_some_iff.mp hl
  obtain ⟨m, hm, hshape⟩ := Option.map_eq_some_iff.mp hm
  simp only [Prod.mk.injEq] at hfields
  obtain ⟨hcname, hparent, hoffset⟩ := hfields
  refine ⟨hreachable, hlfound, ⟨c, l, hc, hparent, hl, hoffset, ?_, ?_⟩, ⟨m, 1, hm, hshape⟩,
    hends, hjoins⟩
  · rw [hcname, hcfound]
  · rw [Tracks, hcname, hlname, hoffset, hcfound, hlfound]
    decide +kernel

end Reachable

end Scene

end Storyboard
