import Storyboard.Proofs.Session.Targets

/-!
# Edits of named objects

An edit sets something of the objects it names. It changes nothing else of them, and nothing of
other objects, with two exceptions: what is below an object that is moved or attached moves with
it, and attaching an object changes the lists of children of the parent it had and of the one it
gets. Attaching puts every child of the new parent at its offset again, but those that were its
children before are there already.

Main results:

- Definition `Scene.Allows`: what an edit may do to an object.
- Theorem `Scene.Edited.trans`: one edit after another is an edit.
- Theorem `Scene.Sound.edited_moveId`: moves are edits.
- Theorem `Scene.Sound.pos_eq_of_settlesBelow`: attaching an object moves what is at or below it
  only.
- Theorem `Scene.Sound.edited_attach`: attachments are edits.
-/

namespace Storyboard

open Relation Objects

/-- A weaker relation between what is there, if anything is. -/
theorem optionRel_mono {α β : Type} {r r' : α → β → Prop} {a : Option α} {b : Option β}
    (hmono : ∀ x y, r x y → r' x y) (h : Option.Rel r a b) : Option.Rel r' a b := by
  cases h with
  | none => exact .none
  | some hxy => exact .some (hmono _ _ hxy)

/-! ## Sizes of shapes -/

namespace Shape

/-- A shape without its size, its stroke or its width. -/
def unsized : Shape → Shape
  | bitmap file _ => bitmap file none
  | box _ => box Point.zero
  | ellipse _ => ellipse Point.zero
  | line finish _ => line finish 0.0
  | link source target _ => link source target 0.0
  | polygon sides _ rotation => polygon sides 0.0 rotation
  | spline control finish _ => spline control finish 0.0
  | text content _ align => text content 0.0 align
  | wire finish _ => wire finish 0.0

theorem unsized_resize (size : Point) (s : Shape) : (s.resize size).unsized = s.unsized := by
  cases s <;> rfl

end Shape

/-! ## What verbs set -/

/-- Two objects differ at most in what a verb sets, and in where they stand and what they list as
children if the verb changes the hierarchy. -/
def Verb.Sets (verb : Verb) (e e' : Entity) : Prop :=
  match verb with
  | .alpha => e' = { e with alpha := e'.alpha }
  | .color => e' = { e with color := e'.color }
  | .priority => e' = { e with priority := e'.priority }
  | .scale => e' = { e with scale := e'.scale }
  | .resize => e' = { e with shape := e'.shape } ∧ e'.shape.unsized = e.shape.unsized
  | .fade => e' = { e with fadeOut := e'.fadeOut }
  | .fix => e' = { e with fixed := e'.fixed }
  | .hide | .unhide => e' = { e with visible := e'.visible }
  | .move | .shift => e' = { e with pos := e'.pos }
  | .animate => e' = { e with motion := e'.motion }
  | .attach => e' = { e with
      parent := e'.parent, offset := e'.offset, motion := e'.motion, pos := e'.pos,
      children := e'.children }
  | _ => e' = e

theorem Verb.Sets.refl (verb : Verb) (e : Entity) : verb.Sets e e := by
  cases verb with
  | resize => exact ⟨rfl, rfl⟩
  | _ => rfl

theorem Verb.Sets.trans {verb : Verb} {e e' e'' : Entity} (h : verb.Sets e e')
    (h' : verb.Sets e' e'') : verb.Sets e e'' := by
  cases verb with
  | resize =>
      obtain ⟨hrest, hshape⟩ := h
      obtain ⟨hrest', hshape'⟩ := h'
      refine ⟨?_, hshape'.trans hshape⟩
      rw [hrest', hrest]
  | _ =>
      simp only [Verb.Sets] at h h' ⊢
      rw [h', h]

namespace Scene

variable {s u v : Scene} {verb : Verb} {Named Named' Adopts Adopts' : EntityId → Prop}
  {id : EntityId}

/-- What a statement may do to an object that it finds in a scene. `Named` says which objects the
statement names, `Adopts` which one they are attached to. -/
structure Allows (s : Scene) (verb : Verb) (Named Adopts : EntityId → Prop) (id : EntityId)
    (e e' : Entity) : Prop where
  sets : verb.Sets e e'
  /-- An object that is not named keeps everything but its position and its children. -/
  unnamed : ¬ Named id → e' = { e with pos := e'.pos, children := e'.children }
  /-- Only what is at or below a named object moves. -/
  pos : e'.pos ≠ e.pos →
    verb ∈ [Verb.move, .shift, .attach] ∧ ∃ top, Named top ∧ AtOrBelow s.entities top id
  parent : e'.parent ≠ e.parent → verb = .attach ∧ ∃ p, Adopts p ∧ e'.parent = some p
  /-- Only the new parent and the parents of named objects list other children. -/
  children : e'.children ≠ e.children →
    verb = .attach ∧ (Adopts id ∨ ∃ child, Named child ∧ IsParent s.entities id child)

/-- From one scene to another, nothing but objects has changed; none has come or gone, and each
has changed only as a statement may change it. -/
structure Edited (verb : Verb) (Named Adopts : EntityId → Prop) (s u : Scene) : Prop where
  frame : u = { s with entities := u.entities }
  objects : ∀ id, Option.Rel (s.Allows verb Named Adopts id) (s.entity? id) (u.entity? id)

theorem Allows.refl (s : Scene) (verb : Verb) (Named Adopts : EntityId → Prop) (id : EntityId)
    (e : Entity) : s.Allows verb Named Adopts id e e where
  sets := .refl verb e
  unnamed _ := rfl
  pos h := absurd rfl h
  parent h := absurd rfl h
  children h := absurd rfl h

theorem Allows.mono {e e' : Entity} (h : s.Allows verb Named Adopts id e e')
    (hnamed : ∀ x, Named x → Named' x) (hadopts : ∀ x, Adopts x → Adopts' x) :
    s.Allows verb Named' Adopts' id e e' where
  sets := h.sets
  unnamed hid := h.unnamed fun hn => hid (hnamed id hn)
  pos hne := by
    obtain ⟨hverb, top, htop, hbelow⟩ := h.pos hne
    exact ⟨hverb, top, hnamed top htop, hbelow⟩
  parent hne := by
    obtain ⟨hverb, p, hp, hparent⟩ := h.parent hne
    exact ⟨hverb, p, hadopts p hp, hparent⟩
  children hne := by
    obtain ⟨hverb, hid | ⟨child, hchild, hlisted⟩⟩ := h.children hne
    · exact ⟨hverb, .inl (hadopts id hid)⟩
    · exact ⟨hverb, .inr ⟨child, hnamed child hchild, hlisted⟩⟩

namespace Edited

theorem refl (verb : Verb) (Named Adopts : EntityId → Prop) (s : Scene) :
    Edited verb Named Adopts s s where
  frame := rfl
  objects id := by
    cases s.entity? id with
    | none => exact .none
    | some e => exact .some (.refl s verb Named Adopts id e)

theorem mono (h : Edited verb Named Adopts s u) (hnamed : ∀ x, Named x → Named' x)
    (hadopts : ∀ x, Adopts x → Adopts' x) : Edited verb Named' Adopts' s u where
  frame := h.frame
  objects id := optionRel_mono (fun _ _ hallows => hallows.mono hnamed hadopts) (h.objects id)

/-- Scenes with the same objects, each of which has changed as it may. -/
theorem of_agree {β : Type} {f : Entity → β} (hframe : u = { s with entities := u.entities })
    (hlive : Table.Agree f u.entities s.entities)
    (hallows : ∀ {x e e'}, s.entity? x = some e → u.entity? x = some e' →
      s.Allows verb Named Adopts x e e') : Edited verb Named Adopts s u where
  frame := hframe
  objects id := by
    have hid := hlive id
    cases hold : s.entity? id with
    | none =>
        rw [entity?] at hold
        rw [hold, Option.map_none, Option.map_eq_none_iff] at hid
        rw [entity?, hid]
        exact .none
    | some e =>
        obtain ⟨e', he', -⟩ := hlive.symm.exists_of_get? hold
        have hnew : u.entity? id = some e' := he'
        rw [hnew]
        exact .some (hallows hold hnew)

/-- The object that a changed one was before. -/
theorem exists_of_entity? (h : Edited verb Named Adopts s u) {e' : Entity}
    (he' : u.entity? id = some e') :
    ∃ e, s.entity? id = some e ∧ s.Allows verb Named Adopts id e e' := by
  have hid := h.objects id
  rw [he'] at hid
  cases hold : s.entity? id with
  | none =>
      rw [hold] at hid
      cases hid
  | some e =>
      rw [hold] at hid
      cases hid with
      | some hallows => exact ⟨e, rfl, hallows⟩

/-- A parent is the one that the object had before, or the one it has been attached to. -/
theorem isParent (h : Edited verb Named Adopts s u) {p c : EntityId}
    (hpc : IsParent u.entities p c) : IsParent s.entities p c ∨ Adopts p := by
  obtain ⟨e', he', hp⟩ := hpc
  obtain ⟨e, he, hallows⟩ := h.exists_of_entity? he'
  by_cases hsame : e'.parent = e.parent
  · exact .inl ⟨e, he, hsame ▸ hp⟩
  · obtain ⟨-, q, hq, hparent⟩ := hallows.parent hsame
    rw [hp] at hparent
    cases hparent
    exact .inr hq

/-- What is at or below a named object now was at or below one before. -/
theorem atOrBelow (h : Edited verb Named Adopts s u) {top x : EntityId} (htop : Named top)
    (hx : AtOrBelow u.entities top x) : ∃ top, Named top ∧ AtOrBelow s.entities top x := by
  induction hx with
  | refl => exact ⟨top, htop, .refl⟩
  | @tail b c _ hbc ih =>
      by_cases hc : Named c
      · exact ⟨c, hc, .refl⟩
      · -- What is not named has the parent that it had.
        obtain ⟨e', he', hb⟩ := hbc
        obtain ⟨e, he, hallows⟩ := h.exists_of_entity? he'
        rw [hallows.unnamed hc] at hb
        obtain ⟨top', htop', hbelow⟩ := ih
        exact ⟨top', htop', hbelow.tail ⟨e, he, hb⟩⟩

/-- What an edit may do to an object that another edit has changed. -/
theorem allows_trans (h : Edited verb Named Adopts s u) {e e' e'' : Entity}
    (hfirst : s.Allows verb Named Adopts id e e') (hsecond : u.Allows verb Named Adopts id e' e'') :
    s.Allows verb Named Adopts id e e'' where
  sets := hfirst.sets.trans hsecond.sets
  unnamed hn := by
    rw [hsecond.unnamed hn, hfirst.unnamed hn]
  pos hne := by
    by_cases hsame : e''.pos = e'.pos
    · exact hfirst.pos (hsame ▸ hne)
    · obtain ⟨hverb, top, htop, hbelow⟩ := hsecond.pos hsame
      exact ⟨hverb, h.atOrBelow htop hbelow⟩
  parent hne := by
    by_cases hsame : e''.parent = e'.parent
    · rw [hsame] at hne ⊢
      exact hfirst.parent hne
    · exact hsecond.parent hsame
  children hne := by
    by_cases hsame : e''.children = e'.children
    · exact hfirst.children (hsame ▸ hne)
    · obtain ⟨hverb, hadopts | ⟨child, hchild, hlisted⟩⟩ := hsecond.children hsame
      · exact ⟨hverb, .inl hadopts⟩
      · rcases h.isParent hlisted with hlisted | hadopts
        · exact ⟨hverb, .inr ⟨child, hchild, hlisted⟩⟩
        · exact ⟨hverb, .inl hadopts⟩

/-- One edit after another. -/
theorem trans (h : Edited verb Named Adopts s u) (h' : Edited verb Named Adopts u v) :
    Edited verb Named Adopts s v where
  frame := by
    rw [h'.frame, h.frame]
  objects id := by
    have hid := h.objects id
    have hid' := h'.objects id
    generalize s.entity? id = before, u.entity? id = between, v.entity? id = after at hid hid' ⊢
    cases hid with
    | none =>
        cases hid'
        exact .none
    | some hfirst =>
        cases hid' with
        | some hsecond => exact .some (h.allows_trans hfirst hsecond)

end Edited

/-! ## Single steps -/

/-- An update that leaves positions and ties alone. -/
theorem edited_modify {f : Entity → Entity} (hsets : ∀ e, verb.Sets e (f e))
    (hstance : ∀ e, (f e).stance = e.stance) (s : Scene) (id : EntityId) :
    Edited verb (· = id) Adopts s (s.modify id f) := by
  refine .of_agree rfl (Table.Agree.modify s.entities id hstance) ?_
  intro x e e' he he'
  have hget : (s.modify id f).entity? x = if x = id then (s.entity? x).map f else s.entity? x :=
    Table.get?_modify ..
  rw [hget, he] at he'
  split at he'
  · next hx =>
    cases he'
    have hparent : (f e).parent = e.parent := congrArg (fun p => p.2.parent) (hstance e)
    have hchildren : (f e).children = e.children := congrArg (fun p => p.2.children) (hstance e)
    exact ⟨hsets e, fun hn => absurd hx hn, fun hne => absurd (congrArg Prod.fst (hstance e)) hne,
      fun hne => absurd hparent hne, fun hne => absurd hchildren hne⟩
  · cases he'
    exact .refl ..

/-- Objects that are alike but for their positions. -/
theorem eq_of_unplaced {e e' : Entity} (h : e'.unplaced = e.unplaced) :
    e' = { e with pos := e'.pos } :=
  calc
    e' = { e'.unplaced with pos := e'.pos } := rfl
    _ = { e.unplaced with pos := e'.pos } := by rw [h]
    _ = { e with pos := e'.pos } := rfl

namespace Sound

theorem edited_moveId (hs : s.Sound) (hverb : verb = .move ∨ verb = .shift) {pos : Point}
    (h : s.moveId id pos = .ok u) : Edited verb (· = id) Adopts s u := by
  unfold Scene.moveId at h
  split at h
  · cases h
    exact .refl ..
  split at h
  · cases h
  cases h
  have hplaced := agree_putAt s id pos
  have hsettled := settlesBelow_repositionChildren (hs.tied.of_unplaced hplaced) id
  refine .of_agree rfl (hsettled.unplaced.trans hplaced) ?_
  intro x e e' he he'
  obtain ⟨y, hy, hsame⟩ := (hsettled.unplaced.trans hplaced).symm.exists_of_get? he
  rw [entity?, hy] at he'
  cases he'
  have heq : e' = { e with pos := e'.pos } := eq_of_unplaced hsame
  refine ⟨?_, ?_, ?_, ?_, ?_⟩
  · rcases hverb with rfl | rfl
    · exact heq
    · exact heq
  · intro _
    rw [heq]
  · intro hne
    refine ⟨by rcases hverb with rfl | rfl <;> decide, id, rfl, ?_⟩
    by_contra hx
    have houtside : ∀ r ∈ [id], ¬ Below (s.modify id (putAt pos)).entities r x := by
      intro r hr hbelow
      rw [List.mem_singleton.mp hr, Below, isParent_of_unplaced hplaced] at hbelow
      exact hx hbelow.to_reflTransGen
    have hid : x ≠ id := by
      rintro rfl
      exact hx .refl
    have hkept := hsettled.outside x houtside
    rw [hy, Scene.modify, Table.get?_modify, if_neg hid] at hkept
    rw [entity?, ← hkept] at he
    cases he
    exact hne rfl
  · intro hne
    rw [heq] at hne
    exact absurd rfl hne
  · intro hne
    rw [heq] at hne
    exact absurd rfl hne

section Handover

variable {child parent : EntityId} {offset : Point} {e p : Entity} (hs : s.Sound)
  (hchild : s.entity? child = some e) (hparent : s.entity? parent = some p)
  (hfree : ¬ AtOrBelow s.entities child parent) {t : Objects}
  (h : SettlesBelow [parent] (s.retie child parent offset).entities t)

include hs hchild h in
/-- What an object has become that was there before the handover. -/
theorem exists_retied {x : EntityId} {y : Entity} (hy : s.entity? x = some y) :
    ∃ y', t.get? x = some y' ∧
      y' = { y.retied child parent offset x with pos := y'.pos } := by
  have hretie := entity?_retie hs.tied hchild parent offset x
  rw [hy, Option.map_some] at hretie
  obtain ⟨y', hy', hsame⟩ := h.unplaced.symm.exists_of_get? hretie
  exact ⟨y', hy', eq_of_unplaced hsame⟩

include hs hchild h in
/-- What is not settled has only been handed over. -/
theorem pos_eq_of_not_below {x : EntityId} {y y' : Entity} (hy : s.entity? x = some y)
    (hy' : t.get? x = some y') (hx : ¬ Below (s.retie child parent offset).entities parent x) :
    y'.pos = y.pos := by
  have hretie := entity?_retie hs.tied hchild parent offset x
  have hkept := h.outside x (by simpa using hx)
  rw [entity?, ← hkept, hy', hy, Option.map_some, Option.some.injEq] at hretie
  rw [hretie, Entity.pos_retied]

include hs hchild hparent hfree h in
/-- What is below the new parent otherwise stays at its offset from something that has not moved. -/
theorem pos_eq_of_atOrBelow {x : EntityId} {y y' : Entity}
    (hpx : AtOrBelow s.entities parent x) (hx : ¬ AtOrBelow s.entities child x)
    (hy : s.entity? x = some y) (hy' : t.get? x = some y') : y'.pos = y.pos := by
  have hforest := hs.objects.forest
  have hsound : Objects.Sound t := hs.settle_retie hchild hparent hfree h
  have hretied : Forest (s.retie child parent offset).entities :=
    forest_retie hforest hchild hparent hfree
  induction hpx generalizing y y' with
  | refl => exact pos_eq_of_not_below hs hchild h hy hy' (hretied.acyclic parent)
  | @tail b c hpb hbc ih =>
      have hb : ¬ AtOrBelow s.entities child b := fun hb => hx (hb.tail hbc)
      have hne : c ≠ child := by
        rintro rfl
        exact hx .refl
      obtain ⟨above, habove⟩ := hforest.tied.parent_live hbc
      obtain ⟨above', habove', -⟩ := exists_retied hs hchild h habove
      obtain ⟨z, hz, heq⟩ := exists_retied hs hchild h hy
      rw [hy'] at hz
      cases hz
      have hparent' : y'.parent = some b := by
        rw [heq]
        exact (Entity.parent_retied.trans (if_neg hne)).trans ((isParent_iff hy).mp hbc)
      have hoffset : y'.offset = y.offset := by
        rw [heq]
        exact Entity.offset_retied.trans (if_neg hne)
      calc
        y'.pos = above'.pos + y'.offset := hsound.atOffset c y' b above' hy' hparent' habove'
        _ = above.pos + y.offset := by rw [ih hb habove habove', hoffset]
        _ = y.pos := (hs.objects.atOffset c y b above hy ((isParent_iff hy).mp hbc) habove).symm

include hs hchild hparent hfree h in
/-- Attaching an object moves what is at or below it only: the other children of the new parent
are at their offsets from it already. -/
theorem pos_eq_of_settlesBelow {x : EntityId} {y y' : Entity} (hy : s.entity? x = some y)
    (hy' : t.get? x = some y') (hx : ¬ AtOrBelow s.entities child x) : y'.pos = y.pos := by
  by_cases hsettled : Below (s.retie child parent offset).entities parent x
  · rcases below_of_below_retie hs.tied hchild hsettled with hpx | ⟨-, hcx⟩
    · exact pos_eq_of_atOrBelow hs hchild hparent hfree h hpx.to_reflTransGen hx hy hy'
    · exact absurd hcx hx
  · exact pos_eq_of_not_below hs hchild h hy hy' hsettled

include hs hchild hparent hfree h in
/-- What attaching an object does to each object. -/
theorem allows_attach {x : EntityId} {y y' : Entity} (hadopts : Adopts parent)
    (hy : s.entity? x = some y) (hy' : t.get? x = some y') :
    s.Allows .attach (· = child) Adopts x y y' := by
  obtain ⟨z, hz, heq⟩ := exists_retied hs hchild h hy
  rw [hy'] at hz
  cases hz
  refine ⟨?_, ?_, ?_, ?_, ?_⟩
  · rw [heq]
    unfold Verb.Sets Entity.retied
    split_ifs <;> rfl
  · intro hx
    rw [heq]
    unfold Entity.retied
    rw [if_neg hx]
    split_ifs <;> rfl
  · intro hne
    refine ⟨by decide, child, rfl, ?_⟩
    by_contra hx
    exact hne (pos_eq_of_settlesBelow hs hchild hparent hfree h hy hy' hx)
  · intro hne
    have hretied : y'.parent = if x = child then some parent else y.parent := by
      rw [heq]
      exact Entity.parent_retied
    rw [hretied] at hne ⊢
    split at hne
    · next hx => exact ⟨rfl, parent, hadopts, if_pos hx⟩
    · exact absurd rfl hne
  · intro hne
    refine ⟨rfl, ?_⟩
    have hretied : y'.children = if x = parent then y.children.filter (· ≠ child) ++ [child]
        else y.children.filter (· ≠ child) := by
      rw [heq]
      exact Entity.children_retied
    by_cases hx : x = parent
    · exact .inl (hx ▸ hadopts)
    · rw [hretied, if_neg hx] at hne
      refine .inr ⟨child, rfl, (hs.objects.forest.lists_iff_isParent x child).mp ⟨y, hy, ?_⟩⟩
      by_contra hlisted
      exact hne (congrArg Entity.children (dropChild_of_not_mem hlisted))

end Handover

theorem edited_attach (hs : s.Sound) {name parent : String} {offset : Point}
    (hadopts : ∀ p, s.id? parent = some p → Adopts p) (hid : s.id? name = some id)
    (h : s.attach name parent offset = .ok u) : Edited .attach (· = id) Adopts s u := by
  obtain ⟨c, p, e, e', hc, hp, hchild, hparent, hfree, rfl⟩ := hs.registered.attach_eq_ok hs.tied h
  rw [hid] at hc
  cases hc
  have hforest : Forest (s.retie id p offset).entities :=
    forest_retie hs.objects.forest hchild hparent hfree
  have hsettled := settlesBelow_repositionChildren hforest.tied p
  have hlabel := (hsettled.unplaced.mono Entity.label).trans
    (agree_label_retie hs.tied hchild offset)
  exact .of_agree rfl hlabel fun hy hy' =>
    hs.allows_attach hchild hparent hfree hsettled (hadopts p hp) hy hy'

end Sound

end Scene

end Storyboard
