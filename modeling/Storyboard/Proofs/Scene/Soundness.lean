import Storyboard.Proofs.Scene.Registry
import Storyboard.Session.Blueprint

/-!
# Sound scenes

A scene is sound if its registry is consistent, its hierarchy is a forest, every attached
object stands at its offset from its parent, and no attached object has a motion of its own.
Registering and removing objects keeps a scene sound, and so do edits of single objects that
leave their ties, and where they stand relative to them, as they are.

Main results:

- Theorem `Objects.Sound.settle`: settling below an object repairs the positions below it.
- Theorems `Scene.Sound.add`, `Scene.Sound.remove` and `Scene.Sound.delete`: objects may come and
  go.
- Theorem `Scene.Sound.create`: a created object has a place in a sound scene.
-/

namespace Storyboard

/-- What decides where an object and those that follow it stand. -/
def Entity.stance (e : Entity) : Point × Ties := (e.pos, e.ties)

namespace Objects

variable {t u : Objects} {id : EntityId}

/-- The hierarchy is a forest, every attached object is at its offset and has no motion. -/
structure Sound (t : Objects) : Prop where
  forest : t.Forest
  atOffset : ∀ c, t.AtOffset c
  /-- An attached object does not move by itself. -/
  atRest : ∀ {c e}, t.get? c = some e → e.parent ≠ none → e.motion = none

theorem AtOffset.of_agree {c : EntityId} (hc : t.AtOffset c)
    (h : Table.Agree Entity.stance u t) : u.AtOffset c := by
  intro e p parent he hp hparent
  obtain ⟨e', he', hstance⟩ := h.exists_of_get? he
  obtain ⟨parent', hparent', hstance'⟩ := h.exists_of_get? hparent
  have hpos : e'.pos = e.pos := congrArg Prod.fst hstance
  have hties : e'.ties = e.ties := congrArg Prod.snd hstance
  have hpos' : parent'.pos = parent.pos := congrArg Prod.fst hstance'
  have hp' : e'.parent = e.parent := congrArg Ties.parent hties
  have hoffset : e'.offset = e.offset := congrArg Ties.offset hties
  rw [← hpos, ← hpos', ← hoffset]
  exact hc e' p parent' he' (hp'.trans hp) hparent'

namespace Sound

theorem empty : Sound Table.empty where
  forest := by
    refine ⟨?_, ?_, ?_, ?_⟩
    · intro p c
      simp [Lists, IsParent]
    · intro p e he
      cases he
    · intro p hp
      obtain ⟨c, hc, -⟩ := Relation.TransGen.head'_iff.mp hp
      obtain ⟨e, he, -⟩ := hc
      cases he
    · intro c e he
      cases he
  atOffset := by
    intro c e p parent he
    cases he
  atRest := by
    intro c e he
    cases he

/-- An update that leaves positions and ties alone, and gives no motion to attached objects. -/
theorem modify {f : Entity → Entity} (ht : t.Sound) (hstance : ∀ e, (f e).stance = e.stance)
    (hmotion : ∀ e, t.get? id = some e → e.parent ≠ none → (f e).motion = none) :
    Sound (t.modify id f) where
  forest := by
    have hties : ∀ e, (f e).ties = e.ties := fun e => congrArg Prod.snd (hstance e)
    exact ht.forest.of_agree (Table.Agree.modify t id hties).symm
  atOffset := fun c => (ht.atOffset c).of_agree (Table.Agree.modify t id hstance)
  atRest := by
    intro c e he hparent
    rw [Table.get?_modify] at he
    split at he
    · next hc =>
      subst hc
      obtain ⟨e', he', rfl⟩ := Option.map_eq_some_iff.mp he
      have hparent' : (f e').parent = e'.parent :=
        congrArg (fun s => s.2.parent) (hstance e')
      exact hmotion e' he' (hparent' ▸ hparent)
    · exact ht.atRest he hparent

/-- Settling below an object repairs the positions below it. -/
theorem settle (hforest : t.Forest)
    (hrest : ∀ {c e}, t.get? c = some e → e.parent ≠ none → e.motion = none)
    (hoffset : ∀ c, ¬ t.Below id c → t.AtOffset c) (h : SettlesBelow [id] t u) : u.Sound where
  forest := hforest.of_unplaced h.unplaced
  atOffset := by
    intro c
    by_cases hc : t.Below id c
    · exact h.inside id (List.mem_singleton.mpr rfl) c hc
    · have houtside : ∀ x, ¬ t.Below id x → u.get? x = t.get? x := by
        intro x hx
        apply h.outside
        intro r hr
        rwa [List.mem_singleton.mp hr]
      refine (hoffset c hc).congr (houtside c hc) ?_
      intro p hp
      exact houtside p fun hbelow => hc (hbelow.tail hp)
  atRest := by
    intro c e he hparent
    obtain ⟨e', he', hsame⟩ := h.unplaced.exists_of_get? he
    have hmotion : e'.unplaced.motion = e.unplaced.motion := congrArg Entity.motion hsame
    have hparent' : e'.unplaced.parent = e.unplaced.parent := congrArg Entity.parent hsame
    have hattached : e'.parent ≠ none := fun hfree => hparent (hparent'.symm.trans hfree)
    have hstill : e'.motion = none := hrest he' hattached
    exact hmotion.symm.trans hstill

/-- What is left when an object has gone is sound: its children are free, and all others stay
with their parents. -/
theorem without (ht : t.Sound)
    (hu : ∀ x, u.get? x = if x = id then none else (t.get? x).map (Entity.without id)) :
    u.Sound where
  forest := ht.forest.without hu
  atOffset := by
    intro c e p parent he hp hparent
    rw [hu] at he hparent
    split at he
    · cases he
    split at hparent
    · cases hparent
    obtain ⟨e', he', rfl⟩ := Option.map_eq_some_iff.mp he
    obtain ⟨parent', hparent', rfl⟩ := Option.map_eq_some_iff.mp hparent
    rw [Entity.parent_without] at hp
    split at hp
    · cases hp
    · next hne =>
      rw [Entity.pos_without, Entity.pos_without, Entity.offset_without, if_neg hne]
      exact ht.atOffset c e' p parent' he' hp hparent'
  atRest := by
    intro c e he hparent
    rw [hu] at he
    split at he
    · cases he
    obtain ⟨e', he', rfl⟩ := Option.map_eq_some_iff.mp he
    rw [Entity.motion_without]
    apply ht.atRest he'
    intro hfree
    rw [Entity.parent_without, hfree] at hparent
    simp at hparent

/-- Registering a new free object. -/
theorem insert {e : Entity} (ht : t.Sound) (hid : t.get? id = none) (hparent : e.parent = none)
    (hchildren : e.children = []) (hoffset : e.offset = Point.zero) :
    Sound (t.insert id e) where
  forest := ht.forest.insert hid hparent hchildren hoffset
  atOffset := by
    intro c x p y hx hp hy
    rw [Table.get?_insert] at hx hy
    split at hx
    · cases hx
      rw [hparent] at hp
      cases hp
    · split at hy
      · next hpid =>
        subst hpid
        obtain ⟨y', hy'⟩ := ht.forest.tied.parent_live ⟨x, hx, hp⟩
        rw [hid] at hy'
        cases hy'
      · exact ht.atOffset c x p y hx hp hy
  atRest := by
    intro c x hx hattached
    rw [Table.get?_insert] at hx
    split at hx
    · cases hx
      exact absurd hparent hattached
    · exact ht.atRest hx hattached

end Sound

end Objects

namespace Scene

open Objects

variable {s : Scene}

/-- The registry of a scene is consistent and its objects are sound. -/
structure Sound (s : Scene) : Prop where
  registered : s.Registered
  objects : Objects.Sound s.entities

namespace Sound

theorem tied (hs : s.Sound) : Tied s.entities := hs.objects.forest.tied

theorem empty (config : SceneConfig) : (Scene.empty config).Sound where
  registered := by
    constructor <;> intro _ _ h <;> cases h
  objects := Objects.Sound.empty

/-- Objects that keep their labels keep the scene sound if they are sound. -/
theorem of_agree {u : Scene} (hs : s.Sound)
    (h : Table.Agree Entity.label u.entities s.entities) (hnames : u.names = s.names)
    (hnext : u.nextId = s.nextId) (hobjects : Objects.Sound u.entities) : u.Sound where
  registered := hs.registered.of_agree h hnames hnext
  objects := hobjects

theorem modify (hs : s.Sound) {id : EntityId} {f : Entity → Entity}
    (hlabel : ∀ e, (f e).label = e.label) (hstance : ∀ e, (f e).stance = e.stance)
    (hmotion : ∀ e, s.entity? id = some e → e.parent ≠ none → (f e).motion = none) :
    (s.modify id f).Sound :=
  hs.of_agree (Table.Agree.modify s.entities id hlabel) rfl rfl (hs.objects.modify hstance hmotion)

/-- The scene depends on its counters and on the name referenced last in no other way. -/
theorem setLastName (hs : s.Sound) (name : String) : (s.setLastName name).Sound :=
  ⟨hs.registered.of_agree (.refl _ _) rfl rfl, hs.objects⟩

/-! ## The registry -/

theorem remove (hs : s.Sound) (id : EntityId) : (s.remove id).Sound where
  registered := hs.registered.remove hs.tied id
  objects := hs.objects.without (entity?_remove hs.tied id)

theorem delete (hs : s.Sound) {name : String} {u : Scene}
    (h : (s.delete name).map Prod.snd = .ok u) : u.Sound :=
  delete_induction (fun id hs => hs.remove id) hs h

/-- Registering a new free object, in place of the one that has its name. -/
theorem add (hs : s.Sound) {e : Entity} (hfresh : s.entity? e.id = none)
    (hparent : e.parent = none) (hchildren : e.children = []) (hoffset : e.offset = Point.zero) :
    (s.add e).Sound := by
  have hvacated : (s.vacate e.name).Sound := vacate_induction (fun id hs => hs.remove id) hs e.name
  have hfree : (s.vacate e.name).entity? e.id = none := by
    rw [hs.registered.entity?_vacate_eq_none_iff hs.tied]
    intro x hx
    rw [hfresh] at hx
    cases hx
  exact {
    registered := hs.registered.add hs.tied hfree
    objects := hvacated.objects.insert hfree hparent hchildren hoffset }

/-- The next identifier of a scene whose counter has one left is new. -/
theorem entity?_next (hs : s.Sound) {n : Nat} (hcount : s.canCreate (n + 1)) :
    s.entity? (s.nextId + 1) = none ∧ (s.nextId + 1).toNat = s.nextId.toNat + 1 :=
  ⟨hs.registered.entity?_next hcount, toNat_next hcount⟩

/-- Drawing an identifier keeps a scene sound. -/
theorem draw (hs : s.Sound) {n : Nat} (hcount : s.canCreate (n + 1)) :
    Sound { s with nextId := s.nextId + 1 } where
  registered := hs.registered.draw hcount
  objects := hs.objects

/-- Creating and registering an object. -/
theorem create (hs : s.Sound) {n : Nat} (hcount : s.canCreate (n + 1)) (name : Option String)
    (pos : Point) (shape : Shape) (color : ColorSpec) (frameColor : Option ColorSpec) :
    (s.create name pos shape color frameColor).2.Sound :=
  (hs.draw hcount).add (hs.entity?_next hcount).1 rfl rfl rfl

end Sound

end Scene

end Storyboard
