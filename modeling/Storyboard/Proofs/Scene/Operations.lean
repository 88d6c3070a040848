import Storyboard.Proofs.Scene.Soundness
import Storyboard.Session.Action

/-!
# Operations on sound scenes

Statements change a scene through a handful of operations: they give an object a new setting,
move it, attach it, send it to a goal, or build a blueprint. Most statements do so for a list
of names and stop at the first refusal; what they keep is what their steps keep.

Main results:

- Theorem `Scene.forEach_induction`: what every step keeps is kept up to the first refusal.
- Theorem `Scene.attach_eq_error_iff`: when an attachment is refused, and why.
- Theorems `Scene.Sound.moveId` and `Scene.Sound.attach`: moving and attaching put everything
  below the object back at its offset.
-/

namespace Storyboard

open Objects

namespace Change

variable (c : Change) (e : Entity)

theorem label_apply : (c.apply e).label = e.label := by
  cases c <;> rfl

theorem stance_apply : (c.apply e).stance = e.stance := by
  cases c <;> rfl

theorem motion_apply : (c.apply e).motion = e.motion := by
  cases c <;> rfl

end Change

namespace Objects

variable {t u : Objects} {id : EntityId}

/-- Putting a free object somewhere else and settling below it. -/
theorem Sound.relocate (ht : t.Sound) (hfree : ∀ e, t.get? id = some e → e.parent = none)
    {pos : Point} (h : SettlesBelow [id] (t.modify id (Scene.putAt pos)) u) : u.Sound := by
  have hplaced : Table.Agree Entity.unplaced (t.modify id (Scene.putAt pos)) t := by
    apply Table.Agree.modify
    intro e
    rfl
  have hrest : ∀ {c e}, (t.modify id (Scene.putAt pos)).get? c = some e → e.parent ≠ none →
      e.motion = none := by
    intro c e he hattached
    rw [Table.get?_modify] at he
    split at he
    · obtain ⟨e', he', rfl⟩ := Option.map_eq_some_iff.mp he
      exact ht.atRest (e := e') he' hattached
    · exact ht.atRest he hattached
  refine Sound.settle (ht.forest.of_unplaced hplaced) hrest ?_ h
  intro c hc
  have hsame : IsParent (t.modify id (Scene.putAt pos)) = t.IsParent :=
    isParent_of_unplaced hplaced
  by_cases hid : c = id
  · -- The object itself has no parent to be at an offset from.
    subst hid
    intro e p parent he hp
    rw [Table.get?_modify, if_pos rfl] at he
    obtain ⟨e', he', rfl⟩ := Option.map_eq_some_iff.mp he
    have hnone : e'.parent = none := hfree e' he'
    rw [show e'.parent = some p from hp] at hnone
    cases hnone
  · refine (ht.atOffset c).congr (by rw [Table.get?_modify, if_neg hid]) ?_
    intro p hp
    rw [Table.get?_modify, if_neg]
    rintro rfl
    exact hc (.single (hsame ▸ hp))

end Objects

namespace Scene

variable {s u : Scene}

/-- What every step keeps is kept by all steps up to the first that is refused. -/
theorem forEach_induction {α ε : Type} {P : Scene → Prop} {step : Scene → α → Except ε Scene}
    (hstep : ∀ {s a u}, P s → step s a = .ok u → P u) (hs : P s) (items : List α) :
    P (s.forEach step items).1 := by
  induction items generalizing s with
  | nil => exact hs
  | cons a items ih =>
      unfold forEach
      split
      · next u hu => exact ih (hstep hs hu)
      · exact hs

/-- Moves of a free object are not refused. -/
theorem moveId_eq_ok {id : EntityId} {e : Entity} (he : s.entity? id = some e)
    (hfree : e.parent = none) (pos : Point) :
    s.moveId id pos = .ok ((s.modify id (putAt pos)).repositionChildren id) := by
  simp [moveId, he, hfree]

theorem idOf_eq_ok {name : String} {id : EntityId} (h : s.idOf name = .ok id) :
    s.id? name = some id := by
  unfold idOf at h
  split at h
  · next id' hid =>
    cases h
    exact hid
  · cases h

section Attaching

variable {child parent : String} {offset : Point} {c p : EntityId}

/-- What an attachment between two names in use comes to. -/
theorem attach_of_id? (hs : Tied s.entities) (hchild : s.id? child = some c)
    (hparent : s.id? parent = some p) (offset : Point) :
    (AtOrBelow s.entities c p → s.attach child parent offset = .error (.attachCycle child parent)) ∧
      (¬ AtOrBelow s.entities c p →
        s.attach child parent offset = .ok ((s.retie c p offset).repositionChildren p)) := by
  rw [← climbsTo_iff hs]
  simp only [attach, idOf, hchild, hparent, bind, Except.bind]
  constructor
  · intro hclimbs
    rw [if_pos hclimbs]
  · intro hclimbs
    rw [if_neg hclimbs]

/-- An attachment is refused if one of the names is not in use, or if it would make a cycle. -/
theorem attach_eq_error_iff (hs : Tied s.entities) {e : SceneError} :
    s.attach child parent offset = .error e ↔
      (s.id? child = none ∧ e = .unknownObject child) ∨
      (s.id? child ≠ none ∧ s.id? parent = none ∧ e = .unknownObject parent) ∨
      ∃ c p, s.id? child = some c ∧ s.id? parent = some p ∧ AtOrBelow s.entities c p ∧
        e = .attachCycle child parent := by
  cases hchild : s.id? child with
  | none => simp [attach, idOf, hchild, bind, Except.bind, eq_comm]
  | some c =>
      cases hparent : s.id? parent with
      | none => simp [attach, idOf, hchild, hparent, bind, Except.bind, eq_comm]
      | some p =>
          obtain ⟨hcycle, hlegal⟩ := attach_of_id? hs hchild hparent offset
          by_cases hbelow : AtOrBelow s.entities c p
          · simp [hcycle hbelow, hbelow, eq_comm]
          · simp [hlegal hbelow, hbelow]

/-- Attaching hands an object over to one that is not below it, and settles below that one. -/
theorem Registered.attach_eq_ok (hs : s.Registered) (htied : Tied s.entities)
    (h : s.attach child parent offset = .ok u) :
    ∃ c p e e', s.id? child = some c ∧ s.id? parent = some p ∧ s.entity? c = some e ∧
      s.entity? p = some e' ∧ ¬ AtOrBelow s.entities c p ∧
      u = (s.retie c p offset).repositionChildren p := by
  cases hchild : s.id? child with
  | none =>
      rw [(attach_eq_error_iff htied).mpr (.inl ⟨hchild, rfl⟩)] at h
      cases h
  | some c =>
      cases hparent : s.id? parent with
      | none =>
          have hlive : s.id? child ≠ none := by simp [hchild]
          rw [(attach_eq_error_iff htied).mpr (.inr (.inl ⟨hlive, hparent, rfl⟩))] at h
          cases h
      | some p =>
          obtain ⟨hcycle, hlegal⟩ := attach_of_id? htied hchild hparent offset
          by_cases hbelow : AtOrBelow s.entities c p
          · rw [hcycle hbelow] at h
            cases h
          · rw [hlegal hbelow] at h
            cases h
            obtain ⟨e, he⟩ := hs.entity_of_id? hchild
            obtain ⟨e', he'⟩ := hs.entity_of_id? hparent
            exact ⟨c, p, e, e', rfl, rfl, he, he', hbelow, rfl⟩

end Attaching

section Moves

variable {P : Scene → Prop}
  (hmove : ∀ {s u : Scene} {id : EntityId} {pos : Point}, P s → s.moveId id pos = .ok u → P u)
  (hs : P s)

include hmove hs

/-! What single moves keep is kept by all statements that do nothing but move objects. -/

theorem moveTo_induction {name : String} {pos : Point} (h : s.moveTo name pos = .ok u) : P u := by
  unfold moveTo at h
  cases hid : s.idOf name with
  | error e => rw [hid] at h; cases h
  | ok id =>
      rw [hid] at h
      exact hmove hs h

theorem shift_induction {name : String} {delta : Point} (h : s.shift name delta = .ok u) :
    P u := by
  unfold shift at h
  cases hid : s.idOf name with
  | error e => rw [hid] at h; cases h
  | ok id =>
      rw [hid] at h
      exact hmove hs h

end Moves

/-- An object that is handed over keeps its identifier and its name, and so do all others. -/
theorem agree_label_retie (hs : Tied s.entities) {child parent : EntityId} {e : Entity}
    (hchild : s.entity? child = some e) (offset : Point) :
    Table.Agree Entity.label (s.retie child parent offset).entities s.entities := by
  intro x
  have hget := entity?_retie hs hchild parent offset x
  rw [entity?] at hget
  rw [hget, Option.map_map]
  apply congrArg (Option.map · (s.entity? x))
  funext y
  simp only [Function.comp_apply, Entity.label, Entity.id_retied, Entity.name_retied]

/-- Creating an object draws the next identifier. -/
theorem nextId_create (s : Scene) (name : Option String) (pos : Point) (shape : Shape)
    (color : ColorSpec) (frameColor : Option ColorSpec) :
    (s.create name pos shape color frameColor).2.nextId = s.nextId + 1 := by
  simp only [create, newEntity]
  rw [nextId_add]
  exact ite_self _

/-- Creating an object takes one identifier. -/
theorem canCreate_create {n : Nat} (hcount : s.canCreate (n + 1)) (name : Option String)
    (pos : Point) (shape : Shape) (color : ColorSpec) (frameColor : Option ColorSpec) :
    (s.create name pos shape color frameColor).2.canCreate n := by
  have hnat := toNat_next hcount
  simp only [canCreate, decide_eq_true_eq] at hcount ⊢
  rw [nextId_create, hnat]
  omega

namespace Sound

/-! ## Settings -/

theorem update (hs : s.Sound) {name : String} {f : Entity → Entity}
    (hlabel : ∀ e, (f e).label = e.label) (hstance : ∀ e, (f e).stance = e.stance)
    (hmotion : ∀ e, s.get? name = some e → e.parent ≠ none → (f e).motion = none)
    (h : s.update name f = .ok u) : u.Sound := by
  unfold Scene.update at h
  split at h
  · cases h
  · next id hid =>
    split at h
    · cases h
      apply hs.modify hlabel hstance
      intro e he
      apply hmotion
      rw [Scene.get?, hid, Option.bind_some, he]
    · cases h

theorem change (hs : s.Sound) {name : String} {c : Change}
    (h : s.update name c.apply = .ok u) : u.Sound := by
  refine hs.update c.label_apply c.stance_apply ?_ h
  intro e he hattached
  rw [c.motion_apply]
  obtain ⟨id, -, hid⟩ := Option.bind_eq_some_iff.mp he
  exact hs.objects.atRest hid hattached

theorem resize (hs : s.Sound) {name : String} {size : Point}
    (h : s.resize name size = .ok u) : u.Sound := by
  refine hs.update ?_ ?_ ?_ h
  · intro e
    rfl
  · intro e
    rfl
  · intro e he hattached
    obtain ⟨id, -, hid⟩ := Option.bind_eq_some_iff.mp he
    exact hs.objects.atRest (e := e) hid hattached

/-- Only free objects are sent to a goal. -/
theorem animate (hs : s.Sound) {name : String} {goal : Point}
    (h : s.animate name goal = .ok u) : u.Sound := by
  unfold Scene.animate at h
  split at h
  · cases h
  · next e he =>
    split at h
    · cases h
    · next hfree =>
      refine hs.update ?_ ?_ ?_ h
      · intro e
        rfl
      · intro e
        rfl
      · intro e' he' hattached
        rw [he] at he'
        cases he'
        simp [hattached] at hfree

/-! ## Moves -/

theorem moveId (hs : s.Sound) {id : EntityId} {pos : Point} (h : s.moveId id pos = .ok u) :
    u.Sound := by
  unfold Scene.moveId at h
  split at h
  · cases h
    exact hs
  · next e he =>
    split at h
    · cases h
    · next hfree =>
      cases h
      have hparent : ∀ e', s.entities.get? id = some e' → e'.parent = none := by
        intro e' he'
        rw [entity?, he'] at he
        cases he
        simpa using hfree
      have hplaced := agree_putAt s id pos
      have hsettled := settlesBelow_repositionChildren (hs.tied.of_unplaced hplaced) id
      have hlabel := (hsettled.unplaced.trans hplaced).mono Entity.label
      exact hs.of_agree hlabel rfl rfl (hs.objects.relocate hparent hsettled)

theorem moveTo (hs : s.Sound) {name : String} {pos : Point} (h : s.moveTo name pos = .ok u) :
    u.Sound :=
  moveTo_induction (fun hs h => moveId hs h) hs h

theorem shift (hs : s.Sound) {name : String} {delta : Point} (h : s.shift name delta = .ok u) :
    u.Sound :=
  shift_induction (fun hs h => moveId hs h) hs h

/-! ## Attaching -/

section Handover

variable {child parent : EntityId} {offset : Point} {e p : Entity} (hs : s.Sound)
  (hchild : s.entity? child = some e) (hparent : s.entity? parent = some p)

include hs hchild hparent in
/-- Handing an object over and settling below the new parent. -/
theorem settle_retie (hfree : ¬ AtOrBelow s.entities child parent) {t : Objects}
    (h : SettlesBelow [parent] (s.retie child parent offset).entities t) : Objects.Sound t := by
  have hforest := hs.objects.forest
  have hget : ∀ {x y}, (s.retie child parent offset).entities.get? x = some y →
      ∃ z, s.entity? x = some z ∧ y = z.retied child parent offset x := by
    intro x y hy
    have hretie := entity?_retie hs.tied hchild parent offset x
    rw [entity?, hy] at hretie
    obtain ⟨z, hz, hyz⟩ := Option.map_eq_some_iff.mp hretie.symm
    exact ⟨z, hz, hyz.symm⟩
  refine Objects.Sound.settle (forest_retie hforest hchild hparent hfree) ?_ ?_ h
  · intro c y hy hattached
    obtain ⟨z, hz, rfl⟩ := hget hy
    rw [Entity.parent_retied] at hattached
    rw [Entity.motion_retied]
    split
    · rfl
    · next hc =>
      rw [if_neg hc] at hattached
      exact hs.objects.atRest hz hattached
  · -- What is not below the new parent has neither moved nor changed its parent.
    intro c hbelow y q parent' hy hq hparent'
    have hc : c ≠ child := by
      intro hc
      apply hbelow
      apply Relation.TransGen.single
      rw [isParent_retie_iff hs.tied hchild, if_pos hc]
    obtain ⟨z, hz, rfl⟩ := hget hy
    obtain ⟨w, hw, rfl⟩ := hget hparent'
    rw [Entity.parent_retied, if_neg hc] at hq
    rw [Entity.pos_retied, Entity.pos_retied, Entity.offset_retied, if_neg hc]
    exact hs.objects.atOffset c z q w hz hq hw

end Handover

theorem attach (hs : s.Sound) {child parent : String} {offset : Point}
    (h : s.attach child parent offset = .ok u) : u.Sound := by
  obtain ⟨c, p, e, e', -, -, hc, hp, hfree, rfl⟩ := hs.registered.attach_eq_ok hs.tied h
  have hforest : Forest (s.retie c p offset).entities := forest_retie hs.objects.forest hc hp hfree
  have hsettled := settlesBelow_repositionChildren hforest.tied p
  have hlabel := (hsettled.unplaced.mono Entity.label).trans (agree_label_retie hs.tied hc offset)
  exact hs.of_agree hlabel rfl rfl (hs.settle_retie hc hp hfree hsettled)

end Sound

end Scene

end Storyboard
