import Storyboard.Proofs.Scene.Walks
import Storyboard.Proofs.Session.Settings

/-!
# Attachments

An object can be attached to any living object that is neither itself nor below it. Whether this
is so is found out by a walk up from the new parent, and afterwards a walk down from it puts
everything below it at its offset; on a reachable scene both walks end. An attachment that is
refused changes nothing. One that is not makes the object the last child of its new parent, changes
nothing else of the lists of children, and moves nothing but the object and what is below it.

Main results:

- Definition `Scene.MayFollow`: when an attachment is legal.
- Theorem `Scene.Sound.attaches`: what an attachment does to each object.
- Theorem `Scene.Reachable.attach_legal_iff`: an attachment that is legal is made.
-/

namespace Storyboard

open Objects

namespace Scene

variable {s u : Scene} {child parent : String} {offset : Point} {c p : EntityId}

/-! ## Legal attachments -/

/-- An object can be attached to another one: both are alive, and the new parent is not at or below
the object. -/
structure MayFollow (s : Scene) (child parent : String) (c p : EntityId) : Prop where
  child : s.id? child = some c
  parent : s.id? parent = some p
  childLive : ∃ e, s.entity? c = some e
  parentLive : ∃ e, s.entity? p = some e
  free : ¬ AtOrBelow s.entities c p

/-! ## Effects -/

/-- What attaching an object to another one does to an object. -/
structure Attaches (s : Scene) (c p : EntityId) (offset : Point) (id : EntityId) (e e' : Entity) :
    Prop where
  rest : e' = { e with
    parent := e'.parent, offset := e'.offset, motion := e'.motion, children := e'.children,
    pos := e'.pos }
  /-- The object has a new parent and a new offset, and it is at rest. -/
  self : id = c → e'.parent = some p ∧ e'.offset = offset ∧ e'.motion = none
  other : id ≠ c → e'.parent = e.parent ∧ e'.offset = e.offset ∧ e'.motion = e.motion
  /-- It is the last child of the new parent, whose other children stay in order. -/
  adopts : id = p → e'.children = e.children.filter (· ≠ c) ++ [c]
  /-- It leaves the parent that it had, whose other children stay in order too. -/
  loses : id ≠ p → IsParent s.entities id c → e'.children = e.children.filter (· ≠ c)
  keeps : id ≠ p → ¬ IsParent s.entities id c → e'.children = e.children
  /-- Nothing but the object and what is below it moves. -/
  pos : e'.pos ≠ e.pos → AtOrBelow s.entities c id

/-- What becomes of an object when one is handed over, wherever it is put in the end. -/
theorem attaches_retied (hs : Tied s.entities) {id : EntityId} {e e' : Entity}
    (he : s.entity? id = some e) (heq : e' = { e.retied c p offset id with pos := e'.pos })
    (hpos : e'.pos ≠ e.pos → AtOrBelow s.entities c id) : s.Attaches c p offset id e e' := by
  have hparent : e'.parent = if id = c then some p else e.parent := by
    rw [heq]
    exact Entity.parent_retied
  have hoffset : e'.offset = if id = c then offset else e.offset := by
    rw [heq]
    exact Entity.offset_retied
  have hmotion : e'.motion = if id = c then none else e.motion := by
    rw [heq]
    exact Entity.motion_retied
  have hchildren : e'.children = if id = p then e.children.filter (· ≠ c) ++ [c]
      else e.children.filter (· ≠ c) := by
    rw [heq]
    exact Entity.children_retied
  refine ⟨?_, ?_, ?_, ?_, ?_, ?_, hpos⟩
  · rw [heq]
    unfold Entity.retied
    split_ifs <;> rfl
  · intro hid
    rw [hparent, hoffset, hmotion, if_pos hid, if_pos hid, if_pos hid]
    exact ⟨rfl, rfl, rfl⟩
  · intro hid
    rw [hparent, hoffset, hmotion, if_neg hid, if_neg hid, if_neg hid]
    exact ⟨rfl, rfl, rfl⟩
  · intro hid
    rw [hchildren, if_pos hid]
  · intro hid _
    rw [hchildren, if_neg hid]
  · intro hid hother
    have hlisted : c ∉ e.children := by
      rwa [← lists_iff he, hs.lists_iff_isParent]
    rw [hchildren, if_neg hid]
    exact congrArg Entity.children (dropChild_of_not_mem hlisted)

namespace Sound

/-- A legal attachment keeps a forest until it settles what is below the new parent. -/
theorem forest_of_mayFollow (hs : s.Sound) (h : s.MayFollow child parent c p) (offset : Point) :
    Forest (s.retie c p offset).entities := by
  obtain ⟨e, he⟩ := h.childLive
  obtain ⟨f, hf⟩ := h.parentLive
  exact forest_retie hs.objects.forest he hf h.free

/-- What a legal attachment does to each object. -/
theorem attaches (hs : s.Sound) (h : s.MayFollow child parent c p) (offset : Point)
    (id : EntityId) :
    Option.Rel (s.Attaches c p offset id) (s.entity? id)
      (((s.retie c p offset).repositionChildren p).entity? id) := by
  obtain ⟨e, he⟩ := h.childLive
  obtain ⟨f, hf⟩ := h.parentLive
  have hsettled := settlesBelow_repositionChildren (hs.forest_of_mayFollow h offset).tied p
  cases hold : s.entity? id with
  | none =>
      have hretied := entity?_retie hs.tied he p offset id
      have hplaced := hsettled.unplaced id
      rw [hold, Option.map_none, entity?] at hretied
      rw [hretied, Option.map_none, Option.map_eq_none_iff] at hplaced
      rw [entity?, hplaced]
      exact .none
  | some y =>
      obtain ⟨y', hy', heq⟩ := exists_retied hs he hsettled hold
      rw [entity?, hy']
      refine .some (attaches_retied hs.tied hold heq ?_)
      intro hne
      by_contra hx
      exact hne (pos_eq_of_settlesBelow hs he hf h.free hsettled hold hy' hx)

/-- An object that has been attached is listed by its new parent only. -/
theorem lists_attached_iff (hs : s.Sound) (h : s.MayFollow child parent c p) (offset : Point)
    (q : EntityId) : Lists ((s.retie c p offset).repositionChildren p).entities q c ↔ q = p := by
  obtain ⟨e, he⟩ := h.childLive
  have hforest := hs.forest_of_mayFollow h offset
  have hplaced := agree_repositionChildren (s.retie c p offset) p
  rw [(hforest.of_unplaced hplaced).lists_iff_isParent, isParent_of_unplaced hplaced,
    isParent_retie_iff hs.tied he, if_pos rfl]

end Sound

/-! ## Attachments on reachable scenes -/

namespace Reachable

/-- Both walks that an attachment takes end, and it is made if and only if it is legal. If it is
refused, the error says why, and an action that asks for it leaves the session as it was. If it is
made, nothing but objects changes: the object becomes the last child of its new parent and leaves
the one that it had, and it moves to its offset together with what is below it. -/
theorem attach_legal_iff (hs : s.Reachable) (child parent : String) (offset : Point) :
    (∀ c p, s.id? child = some c → s.id? parent = some p → ∃! met, s.Climb c (some p) met) ∧
    (∀ c p, s.MayFollow child parent c p → ∃! t, Descent [p] (s.retie c p offset).entities t) ∧
    ((∃ u, s.attach child parent offset = .ok u) ↔ ∃ c p, s.MayFollow child parent c p) ∧
    (∀ e, s.attach child parent offset = .error e ↔
      (s.id? child = none ∧ e = .unknownObject child) ∨
      (s.id? child ≠ none ∧ s.id? parent = none ∧ e = .unknownObject parent) ∨
      ∃ c p, s.id? child = some c ∧ s.id? parent = some p ∧ AtOrBelow s.entities c p ∧
        e = .attachCycle child parent) ∧
    (∀ e, s.attach child parent offset = .error e →
      ∀ (t : Session) (limit : Nat), t.scene = s →
        t.perform limit (.attach parent offset [child]) = some (t, some (.scene e))) ∧
    ∀ u, s.attach child parent offset = .ok u → ∃ c p, s.MayFollow child parent c p ∧
      u = { s with entities := u.entities } ∧
      Descent [p] (s.retie c p offset).entities u.entities ∧
      (∀ id, Option.Rel (s.Attaches c p offset id) (s.entity? id) (u.entity? id)) ∧
      (∀ q, Lists u.entities q c ↔ q = p) ∧ u.Propagated := by
  have hsound := hs.sound
  have hmade : ∀ u, s.attach child parent offset = .ok u → ∃ c p, s.MayFollow child parent c p ∧
      u = (s.retie c p offset).repositionChildren p := by
    intro u hu
    obtain ⟨c, p, e, f, hc, hp, he, hf, hfree, rfl⟩ :=
      hsound.registered.attach_eq_ok hsound.tied hu
    exact ⟨c, p, ⟨hc, hp, ⟨e, he⟩, ⟨f, hf⟩, hfree⟩, rfl⟩
  refine ⟨?_, ?_, ⟨?_, ?_⟩, ?_, ?_, ?_⟩
  · intro c p _ _
    exact existsUnique_climb hsound.tied c p
  · intro c p h
    exact existsUnique_descent (hsound.forest_of_mayFollow h offset) p
  · rintro ⟨u, hu⟩
    obtain ⟨c, p, h, -⟩ := hmade u hu
    exact ⟨c, p, h⟩
  · rintro ⟨c, p, h⟩
    exact ⟨_, (attach_of_id? hsound.tied h.child h.parent offset).2 h.free⟩
  · intro e
    exact attach_eq_error_iff hsound.tied
  · rintro e he t limit rfl
    simp only [Session.perform, Session.each, forEach, he, Session.withScene, Option.map_some]
  · intro u hu
    obtain ⟨c, p, h, rfl⟩ := hmade u hu
    exact ⟨c, p, h, rfl, descent_repositionChildren (hsound.forest_of_mayFollow h offset) p,
      hsound.attaches h offset, hsound.lists_attached_iff h offset, (hsound.attach hu).propagated⟩

/-- A box leaves the one that it follows for another; the one that it leaves cannot follow it. -/
theorem attach_legal_threeBoxes :
    threeBoxes.Reachable ∧
      (∃ c p u, threeBoxes.MayFollow "b" "c" c p ∧
        threeBoxes.attach "b" "c" ⟨3, 4⟩ = .ok u ∧ ∀ q, Lists u.entities q c ↔ q = p) ∧
      threeBoxes.attach "a" "b" ⟨3, 4⟩ = .error (.attachCycle "a" "b") := by
  have hreachable : threeBoxes.Reachable := reachable_afterLine _
  have hdone : (threeBoxes.attach "b" "c" ⟨3, 4⟩).isOk := by decide +kernel
  obtain ⟨-, -, -, -, -, hmade⟩ := attach_legal_iff hreachable "b" "c" ⟨3, 4⟩
  obtain ⟨-, -, -, hrefused, -⟩ := attach_legal_iff hreachable "a" "b" ⟨3, 4⟩
  refine ⟨hreachable, ?_, ?_⟩
  · cases hattach : threeBoxes.attach "b" "c" ⟨3, 4⟩ with
    | error e =>
        rw [hattach] at hdone
        cases hdone
    | ok u =>
        obtain ⟨c, p, h, -, -, -, hlists, -⟩ := hmade u hattach
        exact ⟨c, p, u, h, rfl, hlists⟩
  · have hfollows : (threeBoxes.entity? 2).map Entity.parent = some (some 1) := by decide +kernel
    obtain ⟨b, hb, hparent⟩ := Option.map_eq_some_iff.mp hfollows
    exact (hrefused _).mpr (.inr (.inr ⟨1, 2, by decide +kernel, by decide +kernel,
      .single ⟨b, hb, hparent⟩, rfl⟩))

end Reachable

end Scene

end Storyboard
