import Storyboard.Proofs.Scene.Settling

/-!
# Updates of the hierarchy

Three operations edit the two directions of the hierarchy: removing an object, registering a
new one, and handing an object over to another parent. Each of them is described by what it
does to every single object; if the ties are in order, this does not depend on which object is
asked.

Main results:

- Theorem `Scene.entity?_remove`: what is left of each object when one of them is removed.
- Theorem `Scene.entity?_retie`: what becomes of each object when one is handed over.
- Theorems `Objects.Tied.without`, `Objects.Tied.insert` and `Scene.tied_retie`: the three
  operations keep the ties in order, the last unless it would tie an object below itself.
- Theorems `Objects.Forest.without`, `Objects.Forest.insert` and `Scene.forest_retie`: they keep a
  forest one.
-/

namespace Storyboard

open Relation Objects

/-! ## Removing an object -/

/-- What is left of an object when another one has gone. -/
def Entity.without (id : EntityId) (e : Entity) : Entity :=
  if e.parent = some id then Scene.orphan (Scene.dropChild id e) else Scene.dropChild id e

/-- Dropping an identifier that is not listed changes nothing. -/
theorem Scene.dropChild_of_not_mem {id : EntityId} {e : Entity} (h : id ∉ e.children) :
    Scene.dropChild id e = e := by
  have hfilter : e.children.filter (· ≠ id) = e.children := by
    rw [List.filter_eq_self]
    intro c hc
    simp only [ne_eq, decide_eq_true_eq]
    rintro rfl
    exact h hc
  simp only [Scene.dropChild, hfilter]

/-- Leaving a parent takes the identifier out of that parent's list only. -/
theorem Scene.get?_leave (id : EntityId) (parent : Option EntityId) (t : Objects)
    (x : EntityId) :
    (Scene.leave id parent t).get? x =
      if parent = some x then (t.get? x).map (Scene.dropChild id) else t.get? x := by
  cases parent with
  | none => simp [Scene.leave]
  | some p =>
      rw [Scene.leave, Table.get?_modify]
      by_cases hx : x = p
      · simp [hx]
      · have hp : ¬ p = x := fun h => hx h.symm
        simp [hx, hp]

/-- No other object lists a child, so leaving the parent is dropping the identifier everywhere. -/
theorem Scene.get?_leave_of_tied {t : Objects} (ht : t.Tied) {id : EntityId} {e : Entity}
    (he : t.get? id = some e) (x : EntityId) {u : Objects} (hu : u.get? x = t.get? x) :
    (Scene.leave id e.parent u).get? x = (t.get? x).map (Scene.dropChild id) := by
  rw [Scene.get?_leave, hu]
  cases hget : t.get? x with
  | none => simp
  | some y =>
      split
      · rfl
      · next hparent =>
        rw [Option.map_some, Scene.dropChild_of_not_mem]
        rwa [← lists_iff hget, ht.lists_iff_isParent, isParent_iff he]

namespace Entity

theorem without_of_free {id : EntityId} {e : Entity} (hparent : e.parent ≠ some id)
    (hchildren : id ∉ e.children) : e.without id = e := by
  rw [without, if_neg hparent, Scene.dropChild_of_not_mem hchildren]

theorem parent_without (id : EntityId) (e : Entity) :
    (e.without id).parent = if e.parent = some id then none else e.parent := by
  unfold without
  split <;> rfl

theorem children_without (id : EntityId) (e : Entity) :
    (e.without id).children = e.children.filter (· ≠ id) := by
  unfold without
  split <;> rfl

theorem pos_without (id : EntityId) (e : Entity) : (e.without id).pos = e.pos := by
  unfold without
  split <;> rfl

theorem motion_without (id : EntityId) (e : Entity) : (e.without id).motion = e.motion := by
  unfold without
  split <;> rfl

theorem offset_without (id : EntityId) (e : Entity) :
    (e.without id).offset = if e.parent = some id then Point.zero else e.offset := by
  unfold without
  split <;> rfl

theorem id_without (id : EntityId) (e : Entity) : (e.without id).id = e.id := by
  unfold without
  split <;> rfl

theorem name_without (id : EntityId) (e : Entity) : (e.without id).name = e.name := by
  unfold without
  split <;> rfl

theorem shape_without (id : EntityId) (e : Entity) : (e.without id).shape = e.shape := by
  unfold without
  split <;> rfl

end Entity

namespace Scene

variable {s : Scene} {id : EntityId}

/-- Removing an object takes it away and leaves every other object without it. -/
theorem entity?_remove (hs : Tied s.entities) (id x : EntityId) :
    (s.remove id).entity? x = if x = id then none else (s.entity? x).map (Entity.without id) := by
  unfold remove
  split
  · next hdead =>
    -- Nothing is tied to an object that is not alive.
    split
    · next hx => rw [hx, hdead]
    · next hx =>
      cases hget : s.entity? x with
      | none => rfl
      | some e =>
          have hparent : e.parent ≠ some id := by
            intro hp
            obtain ⟨e', he'⟩ := hs.parent_live ⟨e, hget, hp⟩
            rw [entity?, he'] at hdead
            cases hdead
          have hchildren : id ∉ e.children := by
            intro hc
            obtain ⟨e', he'⟩ := ((hs.lists_iff_isParent x id).mp ⟨e, hget, hc⟩).child_live
            rw [entity?, he'] at hdead
            cases hdead
          rw [Option.map_some, Entity.without_of_free hparent hchildren]
  · next e he =>
    have horphan : ∀ y, orphan (orphan y) = orphan y := fun _ => rfl
    simp only [entity?] at he ⊢
    rw [Table.get?_foldl_modify horphan]
    by_cases hx : x = id
    · subst hx
      have hgone : (leave x e.parent (s.entities.erase x)).get? x = none := by
        simp [get?_leave, Table.get?_erase]
      simp [hgone]
    · have herase : (s.entities.erase id).get? x = s.entities.get? x := by
        rw [Table.get?_erase, if_neg hx]
      rw [if_neg hx, get?_leave_of_tied hs he x herase]
      cases hget : s.entities.get? x with
      | none => simp
      | some y =>
          have hlisted : x ∈ e.children ↔ y.parent = some id := by
            rw [← lists_iff he, hs.lists_iff_isParent, isParent_iff hget]
          by_cases hparent : y.parent = some id
          · simp [hparent, hlisted, Entity.without]
          · simp [hparent, hlisted, Entity.without]

end Scene

namespace Objects

variable {t u : Objects} {id : EntityId}

section Removal

variable (hu : ∀ x, u.get? x = if x = id then none else (t.get? x).map (Entity.without id))

include hu

/-- The ties that are left when an object has gone. -/
theorem isParent_without_iff (p c : EntityId) :
    u.IsParent p c ↔ t.IsParent p c ∧ p ≠ id ∧ c ≠ id := by
  constructor
  · rintro ⟨e', he', hp⟩
    rw [hu] at he'
    split at he'
    · cases he'
    · next hc =>
      obtain ⟨e, he, rfl⟩ := Option.map_eq_some_iff.mp he'
      rw [Entity.parent_without] at hp
      split at hp
      · cases hp
      · next hparent =>
        refine ⟨⟨e, he, hp⟩, ?_, hc⟩
        rintro rfl
        exact hparent hp
  · rintro ⟨⟨e, he, hp⟩, hpid, hc⟩
    refine ⟨e.without id, by rw [hu, if_neg hc, he, Option.map_some], ?_⟩
    rw [Entity.parent_without, if_neg, hp]
    rw [hp]
    simpa using hpid

/-- The children that are still listed when an object has gone. -/
theorem lists_without_iff (p c : EntityId) : u.Lists p c ↔ t.Lists p c ∧ p ≠ id ∧ c ≠ id := by
  constructor
  · rintro ⟨e', he', hc⟩
    rw [hu] at he'
    split at he'
    · cases he'
    · next hp =>
      obtain ⟨e, he, rfl⟩ := Option.map_eq_some_iff.mp he'
      rw [Entity.children_without, List.mem_filter] at hc
      exact ⟨⟨e, he, hc.1⟩, hp, by simpa using hc.2⟩
  · rintro ⟨⟨e, he, hmem⟩, hp, hc⟩
    refine ⟨e.without id, by rw [hu, if_neg hp, he, Option.map_some], ?_⟩
    rw [Entity.children_without, List.mem_filter]
    exact ⟨hmem, by simpa using hc⟩

/-- The ties stay in order when an object leaves. -/
theorem Tied.without (ht : t.Tied) : u.Tied where
  lists_iff_isParent := by
    intro p c
    rw [lists_without_iff hu, isParent_without_iff hu, ht.lists_iff_isParent]
  acyclic := by
    intro p hp
    exact ht.acyclic p (TransGen.mono (fun a b h => ((isParent_without_iff hu a b).mp h).1) p p hp)

/-- A forest that an object leaves is a forest. -/
theorem Forest.without (ht : t.Forest) : u.Forest where
  lists_iff_isParent := (ht.tied.without hu).lists_iff_isParent
  nodup_children := by
    intro p e' he'
    rw [hu] at he'
    split at he'
    · cases he'
    · obtain ⟨e, he, rfl⟩ := Option.map_eq_some_iff.mp he'
      rw [Entity.children_without]
      exact (ht.nodup_children he).filter _
  acyclic := (ht.tied.without hu).acyclic
  offset_of_free := by
    intro c e' he' hfree
    rw [hu] at he'
    split at he'
    · cases he'
    · obtain ⟨e, he, rfl⟩ := Option.map_eq_some_iff.mp he'
      rw [Entity.parent_without] at hfree
      rw [Entity.offset_without]
      split at hfree
      · next hparent => rw [if_pos hparent]
      · next hparent =>
        rw [if_neg hparent]
        exact ht.offset_of_free he hfree

end Removal

/-! ## Registering an object -/

section Insertion

variable {e : Entity} (hid : t.get? id = none) (hparent : e.parent = none)
  (hchildren : e.children = [])

include hid hparent in
/-- A new free object does not change the parent relation. -/
theorem isParent_insert (p c : EntityId) : IsParent (t.insert id e) p c ↔ t.IsParent p c := by
  unfold IsParent
  rw [Table.get?_insert]
  by_cases hc : c = id
  · subst hc
    simp [hid, hparent]
  · simp [hc]

include hid hchildren in
/-- A new object without children does not change who lists whom. -/
theorem lists_insert (p c : EntityId) : Lists (t.insert id e) p c ↔ t.Lists p c := by
  unfold Lists
  rw [Table.get?_insert]
  by_cases hp : p = id
  · subst hp
    simp [hid, hchildren]
  · simp [hp]

include hid hparent hchildren in
/-- The ties stay in order when a new free object comes. -/
theorem Tied.insert (ht : t.Tied) : Tied (t.insert id e) where
  lists_iff_isParent := by
    intro p c
    rw [lists_insert hid hchildren, isParent_insert hid hparent, ht.lists_iff_isParent]
  acyclic := by
    intro p hp
    exact ht.acyclic p (TransGen.mono (fun a b h => (isParent_insert hid hparent a b).mp h) p p hp)

include hid hparent hchildren in
/-- A forest with a new free object in it is a forest. -/
theorem Forest.insert (ht : t.Forest) (hoffset : e.offset = Point.zero) :
    Forest (t.insert id e) where
  lists_iff_isParent := (ht.tied.insert hid hparent hchildren).lists_iff_isParent
  nodup_children := by
    intro p e' he'
    rw [Table.get?_insert] at he'
    split at he'
    · cases he'
      simp [hchildren]
    · exact ht.nodup_children he'
  acyclic := (ht.tied.insert hid hparent hchildren).acyclic
  offset_of_free := by
    intro c e' he' hfree
    rw [Table.get?_insert] at he'
    split at he'
    · cases he'
      exact hoffset
    · exact ht.offset_of_free he' hfree

end Insertion

end Objects

/-! ## Handing an object over -/

/-- What becomes of the object with an identifier when one object is handed over to another. -/
def Entity.retied (child parent : EntityId) (offset : Point) (id : EntityId) (e : Entity) :
    Entity :=
  let e := Scene.dropChild child e
  let e := if id = parent then Scene.pushChild child e else e
  if id = child then Scene.tieTo parent offset e else e

namespace Entity

variable {child parent id : EntityId} {offset : Point} {e : Entity}

theorem parent_retied :
    (e.retied child parent offset id).parent = if id = child then some parent else e.parent := by
  unfold retied
  split_ifs <;> rfl

theorem children_retied :
    (e.retied child parent offset id).children =
      if id = parent then e.children.filter (· ≠ child) ++ [child]
      else e.children.filter (· ≠ child) := by
  unfold retied
  split_ifs <;> rfl

theorem offset_retied :
    (e.retied child parent offset id).offset = if id = child then offset else e.offset := by
  unfold retied
  split_ifs <;> rfl

theorem motion_retied :
    (e.retied child parent offset id).motion = if id = child then none else e.motion := by
  unfold retied
  split_ifs <;> rfl

theorem pos_retied : (e.retied child parent offset id).pos = e.pos := by
  unfold retied
  split_ifs <;> rfl

theorem id_retied : (e.retied child parent offset id).id = e.id := by
  unfold retied
  split_ifs <;> rfl

theorem name_retied : (e.retied child parent offset id).name = e.name := by
  unfold retied
  split_ifs <;> rfl

theorem shape_retied : (e.retied child parent offset id).shape = e.shape := by
  unfold retied
  split_ifs <;> rfl

end Entity

namespace Scene

variable {s : Scene} {child parent : EntityId} {offset : Point}

/-- Handing an object over changes every object by a rule of its own. -/
theorem entity?_retie (hs : Tied s.entities) {e : Entity} (he : s.entity? child = some e)
    (parent : EntityId) (offset : Point) (x : EntityId) :
    (s.retie child parent offset).entity? x =
      (s.entity? x).map (Entity.retied child parent offset x) := by
  have hleave := get?_leave_of_tied hs he x (u := s.entities) rfl
  simp only [retie, entity?] at he ⊢
  rw [Table.get?_modify, Table.get?_modify, he, Option.bind_some, hleave]
  unfold Entity.retied
  cases s.entities.get? x with
  | none => simp
  | some y => split_ifs <;> simp_all

section Handover

variable {e p : Entity} (hs : Tied s.entities) (hchild : s.entity? child = some e)
  (hparent : s.entity? parent = some p)

include hs hchild in
/-- The parent relation when an object has been handed over. -/
theorem isParent_retie_iff (a b : EntityId) :
    IsParent (s.retie child parent offset).entities a b ↔
      if b = child then a = parent else IsParent s.entities a b := by
  have hget := entity?_retie hs hchild parent offset b
  unfold IsParent
  simp only [entity?] at hget hchild ⊢
  rw [hget]
  by_cases hb : b = child
  · subst hb
    simp [hchild, Entity.parent_retied, eq_comm]
  · simp [hb, Entity.parent_retied]

include hs hchild hparent in
/-- Who lists whom when an object has been handed over. -/
theorem lists_retie_iff (a b : EntityId) :
    Lists (s.retie child parent offset).entities a b ↔
      if b = child then a = parent else Lists s.entities a b := by
  have hget := entity?_retie hs hchild parent offset a
  unfold Objects.Lists
  simp only [entity?] at hget hparent ⊢
  rw [hget]
  by_cases ha : a = parent
  · subst ha
    by_cases hb : b = child <;> simp [hparent, Entity.children_retied, hb]
  · by_cases hb : b = child <;> simp [ha, hb, Entity.children_retied]

include hs hchild in
/-- A path after the handover either was there before or leads through the new tie. -/
theorem below_of_below_retie {a b : EntityId}
    (h : Below (s.retie child parent offset).entities a b) :
    Below s.entities a b ∨
      AtOrBelow s.entities a parent ∧ AtOrBelow s.entities child b := by
  have hstep : ∀ {x y}, IsParent (s.retie child parent offset).entities x y →
      IsParent s.entities x y ∨ x = parent ∧ y = child := by
    intro x y hxy
    rw [isParent_retie_iff hs hchild] at hxy
    split at hxy
    · next hy => exact .inr ⟨hxy, hy⟩
    · exact .inl hxy
  induction h with
  | single hab =>
      rcases hstep hab with hab | ⟨rfl, rfl⟩
      · exact .inl (.single hab)
      · exact .inr ⟨.refl, .refl⟩
  | tail _ hbc ih =>
      rcases hstep hbc with hbc | ⟨rfl, rfl⟩
      · rcases ih with hab | ⟨hap, hcb⟩
        · exact .inl (hab.tail hbc)
        · exact .inr ⟨hap, hcb.tail hbc⟩
      · rcases ih with hab | ⟨hap, -⟩
        · exact .inr ⟨hab.to_reflTransGen, .refl⟩
        · exact .inr ⟨hap, .refl⟩

include hs hchild hparent in
/-- The ties stay in order when an object is handed over to one that is not below it. -/
theorem tied_retie (hfree : ¬ AtOrBelow s.entities child parent) :
    Tied (s.retie child parent offset).entities where
  lists_iff_isParent := by
    intro a b
    rw [isParent_retie_iff hs hchild, lists_retie_iff hs hchild hparent, hs.lists_iff_isParent]
  acyclic := by
    intro a ha
    rcases below_of_below_retie hs hchild ha with ha | ⟨hap, hca⟩
    · exact hs.acyclic a ha
    · exact hfree (hca.trans hap)

end Handover

/-- Handing an object over to one that is not below it keeps a forest one. -/
theorem forest_retie {e p : Entity} (hs : Forest s.entities) (hchild : s.entity? child = some e)
    (hparent : s.entity? parent = some p) (hfree : ¬ AtOrBelow s.entities child parent) :
    Forest (s.retie child parent offset).entities where
  lists_iff_isParent := (tied_retie hs.tied hchild hparent hfree).lists_iff_isParent
  nodup_children := by
    intro a x hx
    have hget := entity?_retie hs.tied hchild parent offset a
    rw [entity?, hx] at hget
    obtain ⟨y, hy, rfl⟩ := Option.map_eq_some_iff.mp hget.symm
    have hnodup := (hs.nodup_children hy).filter (· ≠ child)
    rw [Entity.children_retied]
    split
    · refine List.nodup_append.mpr ⟨hnodup, List.nodup_singleton child, ?_⟩
      intro c hc d hd
      rw [List.mem_singleton.mp hd]
      simpa using (List.mem_filter.mp hc).2
    · exact hnodup
  acyclic := (tied_retie hs.tied hchild hparent hfree).acyclic
  offset_of_free := by
    intro c x hx hnone
    have hget := entity?_retie hs.tied hchild parent offset c
    rw [entity?, hx] at hget
    obtain ⟨y, hy, rfl⟩ := Option.map_eq_some_iff.mp hget.symm
    rw [Entity.parent_retied] at hnone
    rw [Entity.offset_retied]
    split at hnone
    · cases hnone
    · next hc =>
      rw [if_neg hc]
      exact hs.offset_of_free hy hnone

end Scene

end Storyboard
