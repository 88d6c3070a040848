import Storyboard.Proofs.Layout.Moves
import Storyboard.Proofs.Scene.Interchange
import Storyboard.Proofs.Session.Settings

/-!
# Operations that are refused

Eight operations on a scene can be refused. Seven of them look at everything that they need before
they change anything, so a refusal leaves the scene as it was. The eighth fits a group of objects
into a rectangle: it looks up all names first, but it finds out that an object is attached only when
it comes to move it, and by then the objects before it have been moved.

Main results:

- Definition `Scene.Refuses`: why each operation is refused.
- Theorem `Scene.Fitting.moved`: fitting one object leaves those before it where they are.
- Theorem `Scene.Sound.exists_fitting_upto`: where fitting stops, and what has been moved by then.
- Theorem `Scene.Sound.operate_refused_iff`: an operation is refused for these reasons only.
- Theorem `Scene.Reachable.refused_operation`: when an operation is refused, and what it leaves.
-/

namespace Storyboard

open Objects

/-- The operations on a scene that can be refused. -/
inductive Operation where
  | delete (name : String)
  | moveTo (name : String) (pos : Point)
  | shift (name : String) (delta : Point)
  | resize (name : String) (size : Point)
  | attach (child parent : String) (offset : Point)
  | animate (name : String) (goal : Point)
  | rotateAround (name : String) (angle : Angle) (center : Point)
  | fitWithin (start finish : Point) (names : List String)

/-! ## The first of a list -/

/-- A name is the first of a list that has a property, and `done` are the names before it. -/
structure FirstOf (P : String → Prop) (names done : List String) (name : String) : Prop where
  split : ∃ rest, names = done ++ name :: rest
  before : ∀ n ∈ done, ¬ P n
  holds : P name

theorem exists_firstOf (P : String → Prop) (names : List String) :
    (∀ n ∈ names, ¬ P n) ∨ ∃ done name, FirstOf P names done name := by
  induction names with
  | nil => exact .inl (by simp)
  | cons n names ih =>
      by_cases hn : P n
      · exact .inr ⟨[], n, ⟨names, rfl⟩, by simp, hn⟩
      · rcases ih with hnone | ⟨done, name, ⟨rest, rfl⟩, hbefore, hholds⟩
        · exact .inl (List.forall_mem_cons.mpr ⟨hn, hnone⟩)
        · exact .inr ⟨n :: done, name, ⟨rest, rfl⟩, List.forall_mem_cons.mpr ⟨hn, hbefore⟩, hholds⟩

namespace Scene

variable {s u v : Scene} {name : String} {names done : List String} {e : SceneError}

/-- A step as an operation: one that is refused is not taken. -/
def attempt (s : Scene) : Except SceneError Scene → Scene × Option SceneError
  | .ok u => (u, none)
  | .error e => (s, some e)

/-- What an operation leaves, and why it is refused if it is. -/
def operate (s : Scene) : Operation → Scene × Option SceneError
  | .delete name => s.attempt ((s.delete name).map Prod.snd)
  | .moveTo name pos => s.attempt (s.moveTo name pos)
  | .shift name delta => s.attempt (s.shift name delta)
  | .resize name size => s.attempt (s.resize name size)
  | .attach child parent offset => s.attempt (s.attach child parent offset)
  | .animate name goal => s.attempt (s.animate name goal)
  | .rotateAround name angle center => s.attempt (s.rotateAround name angle center)
  | .fitWithin start finish names => s.fitWithin start finish names

theorem attempt_refused_iff {r : Except SceneError Scene} :
    (s.attempt r).2 = some e ↔ r = .error e := by
  cases r with
  | ok u => simp [attempt]
  | error e' => simp [attempt]

theorem attempt_of_refused {r : Except SceneError Scene} (h : (s.attempt r).2 = some e) :
    (s.attempt r).1 = s := by
  rw [attempt_refused_iff.mp h]
  rfl

/-! ## Reasons -/

/-- The object with a name is attached to another one. -/
def IsAttached (s : Scene) (name : String) : Prop := ∃ e, s.get? name = some e ∧ e.parent ≠ none

/-- The object with a name has a position and is attached, so it cannot be fitted. -/
def IsStuck (s : Scene) (name : String) : Prop :=
  ∃ id pos e, s.spot? name = some (id, pos) ∧ s.entity? id = some e ∧ e.parent ≠ none

/-- Why an operation is refused. -/
def Refuses (s : Scene) : Operation → SceneError → Prop
  | .delete name, e | .resize name _, e => s.id? name = none ∧ e = .unknownObject name
  | .moveTo name _, e | .shift name _, e =>
      s.id? name = none ∧ e = .unknownObject name ∨ s.IsAttached name ∧ e = .attachedMove name
  | .animate name _, e =>
      s.id? name = none ∧ e = .unknownObject name ∨ s.IsAttached name ∧ e = .attachedAnimate name
  | .attach child parent _, e =>
      s.id? child = none ∧ e = .unknownObject child ∨
      s.id? child ≠ none ∧ s.id? parent = none ∧ e = .unknownObject parent ∨
      ∃ c p, s.id? child = some c ∧ s.id? parent = some p ∧ AtOrBelow s.entities c p ∧
        e = .attachCycle child parent
  | .rotateAround name _ _, e =>
      s.position? name = none ∧ e = .unknownObject name ∨
      s.position? name ≠ none ∧ s.IsAttached name ∧ e = .attachedMove name
  | .fitWithin _ _ names, e =>
      (∃ done name, FirstOf (s.id? · = none) names done name ∧ e = .unknownObject name) ∨
      (∀ n ∈ names, s.id? n ≠ none) ∧
        if (s.hull names).isEmpty then e = .nothingToFit
        else ∃ done name, FirstOf s.IsStuck names done name ∧ e = .attachedMove name

/-! ## Operations on one object -/

theorem isAttached_iff {id : EntityId} {x : Entity} (hid : s.id? name = some id)
    (hx : s.entity? id = some x) : s.IsAttached name ↔ x.parent ≠ none := by
  simp [IsAttached, get?_of_id? hid, hx]

theorem not_isAttached_of_id?_none (hid : s.id? name = none) : ¬ s.IsAttached name := by
  simp [IsAttached, get?_of_id?_none hid]

namespace Registered

/-- A name is that of no object, or it has an identifier with an object. -/
theorem id?_cases (hs : s.Registered) (name : String) :
    s.id? name = none ∨ ∃ id x, s.id? name = some id ∧ s.entity? id = some x ∧ x.name = name := by
  cases hid : s.id? name with
  | none => exact .inl rfl
  | some id =>
      obtain ⟨x, hx, hname⟩ := hs.name_eq hid
      exact .inr ⟨id, x, rfl, hx, hname⟩

theorem delete_eq_error_iff (hs : s.Registered) :
    (s.delete name).map Prod.snd = .error e ↔ s.id? name = none ∧ e = .unknownObject name := by
  rcases hs.id?_cases name with hid | ⟨id, x, hid, hx, -⟩
  · simp [delete, hid, Except.map, eq_comm]
  · simp [delete, hid, hx, Except.map]

theorem update_eq_error_iff (hs : s.Registered) (f : Entity → Entity) :
    s.update name f = .error e ↔ s.id? name = none ∧ e = .unknownObject name := by
  rcases hs.id?_cases name with hid | ⟨id, x, hid, hx, -⟩
  · simp [update, hid, eq_comm]
  · have hlive : s.entities.contains id := Option.isSome_iff_exists.mpr ⟨x, hx⟩
    simp [update, hid, hlive]

/-- Moves are refused in the same cases wherever the object goes. -/
theorem moveId_eq_error_iff (hs : s.Registered) (place : EntityId → Point) :
    (s.idOf name).bind (fun id => s.moveId id (place id)) = .error e ↔
      s.id? name = none ∧ e = .unknownObject name ∨
        s.IsAttached name ∧ e = .attachedMove name := by
  rcases hs.id?_cases name with hid | ⟨id, x, hid, hx, rfl⟩
  · simp [idOf, hid, Except.bind, not_isAttached_of_id?_none hid, eq_comm]
  · rw [isAttached_iff hid hx]
    by_cases hfree : x.parent = none
    · simp [idOf, hid, Except.bind, moveId_eq_ok hx hfree, hfree]
    · have hattached : x.parent.isSome := Option.isSome_iff_ne_none.mpr hfree
      simp [idOf, hid, Except.bind, moveId, hx, hattached, hfree, eq_comm]

theorem animate_eq_error_iff (hs : s.Registered) (goal : Point) :
    s.animate name goal = .error e ↔
      s.id? name = none ∧ e = .unknownObject name ∨
        s.IsAttached name ∧ e = .attachedAnimate name := by
  rcases hs.id?_cases name with hid | ⟨id, x, hid, hx, -⟩
  · simp [animate, get?_of_id?_none hid, hid, not_isAttached_of_id?_none hid, eq_comm]
  · have hget : s.get? name = some x := (get?_of_id? hid).trans hx
    rw [isAttached_iff hid hx]
    by_cases hfree : x.parent = none
    · simp only [animate, hget, hfree, Option.isSome_none]
      rw [if_neg (by decide), hs.update_eq_error_iff]
      simp [hid]
    · have hattached : x.parent.isSome := Option.isSome_iff_ne_none.mpr hfree
      simp [animate, hget, hattached, hid, hfree, eq_comm]

/-- Only what has a position is turned. -/
theorem rotateAround_eq_error_iff (hs : s.Registered) (angle : Angle) (center : Point) :
    s.rotateAround name angle center = .error e ↔
      s.position? name = none ∧ e = .unknownObject name ∨
        s.position? name ≠ none ∧ s.IsAttached name ∧ e = .attachedMove name := by
  cases hpos : s.position? name with
  | none => simp [rotateAround, hpos, eq_comm]
  | some pos =>
      have hid : s.id? name ≠ none := by
        intro hid
        simp [position?, hid] at hpos
      simp only [rotateAround, hpos]
      refine (hs.moveId_eq_error_iff fun _ => center + (pos - center).rotate angle.radians).trans ?_
      simp [hid]

end Registered

/-! ## Fitting one object after another -/

/-- The spots of a group cannot be had if one of the names is not in use. -/
theorem placed_eq_error (h : FirstOf (s.id? · = none) names done name) :
    s.placed names = .error (.unknownObject name) := by
  obtain ⟨⟨rest, rfl⟩, hbefore, hunknown⟩ := h
  induction done with
  | nil =>
      have hnone : s.id? name = none := hunknown
      simp [placed, idOf, hnone, bind, Except.bind]
  | cons n done ih =>
      obtain ⟨hn, hdone⟩ := List.forall_mem_cons.mp hbefore
      obtain ⟨id, hid⟩ := Option.ne_none_iff_exists'.mp hn
      simp [placed, idOf, hid, ih hdone, bind, Except.bind]

/-- Steps that have not been refused are followed by the others. -/
theorem forEach_append {α ε : Type} {step : Scene → α → Except ε Scene} {items : List α}
    (h : s.forEach step items = (u, none)) (rest : List α) :
    s.forEach step (items ++ rest) = u.forEach step rest := by
  induction items generalizing s with
  | nil =>
      cases h
      rfl
  | cons a items ih =>
      cases hstep : step s a with
      | error e => simp [forEach, hstep] at h
      | ok t =>
          simp only [forEach, hstep] at h
          simp only [List.cons_append, forEach, hstep]
          exact ih h

/-- From one scene to another the objects with certain names have been fitted, and what is below
them has gone with them. Nothing else has changed. -/
structure Fitted (s : Scene) (image : Point → Point) (done : List String) (u : Scene) :
    Prop where
  frame : u = { s with entities := u.entities }
  objects : ∀ id, Option.Rel
    (fun e e' => e' = { e with pos := e'.pos } ∧ (e'.pos ≠ e.pos →
      ∃ name ∈ done, ∃ top pos, s.spot? name = some (top, pos) ∧ AtOrBelow s.entities top id))
    (s.entity? id) (u.entity? id)
  image : ∀ name ∈ done, ∀ id pos e, s.spot? name = some (id, pos) → s.entity? id = some e →
    u.entity? id = some { e with pos := image pos }
  follows : u.Propagated

/-- The objects that a list of names has moved. -/
def Spotted (s : Scene) (done : List String) (id : EntityId) : Prop :=
  ∃ name ∈ done, ∃ pos, s.spot? name = some (id, pos)

/-- What is kept while objects are fitted one after another. -/
structure Fitting (s : Scene) (image : Point → Point) (done : List String) (u : Scene) :
    Prop where
  sound : u.Sound
  edited : Edited .move (s.Spotted done) (fun _ => False) s u
  image : ∀ name ∈ done, ∀ id pos e, s.spot? name = some (id, pos) → s.entity? id = some e →
    u.entity? id = some (putAt (image pos) e)

namespace Fitting

variable {image : Point → Point}

theorem refl (hs : s.Sound) (image : Point → Point) : s.Fitting image [] s where
  sound := hs
  edited := .refl ..
  image := by simp

theorem fitted (h : s.Fitting image done u) : s.Fitted image done u where
  frame := h.edited.frame
  objects id := by
    refine optionRel_mono ?_ (h.edited.objects id)
    intro e e' hallows
    refine ⟨hallows.sets, fun hne => ?_⟩
    obtain ⟨-, top, ⟨name, hname, pos, hspot⟩, hbelow⟩ := hallows.pos hne
    exact ⟨name, hname, top, pos, hspot, hbelow⟩
  image := h.image
  follows := h.sound.propagated

/-- An object has changed in nothing but its position. -/
theorem exists_entity? (h : s.Fitting image done u) {id : EntityId} {e : Entity}
    (he : s.entity? id = some e) : ∃ e', u.entity? id = some e' ∧ e' = putAt e'.pos e := by
  have hid := h.edited.objects id
  rw [he] at hid
  cases hu : u.entity? id with
  | none =>
      rw [hu] at hid
      cases hid
  | some e' =>
      rw [hu] at hid
      cases hid with
      | some hallows => exact ⟨e', rfl, hallows.sets⟩

/-- More names that have no spot make no difference. -/
theorem of_spot?_none (h : s.Fitting image done u) (hspot : s.spot? name = none) :
    s.Fitting image (done ++ [name]) u where
  sound := h.sound
  edited := by
    refine h.edited.mono ?_ fun _ hx => hx
    rintro x ⟨n, hn, hx⟩
    exact ⟨n, List.mem_append_left _ hn, hx⟩
  image := by
    intro n hn id pos e hn' he
    rcases List.mem_append.mp hn with hn | hn
    · exact h.image n hn id pos e hn' he
    · rw [List.mem_singleton.mp hn, hspot] at hn'
      cases hn'

/-- One more free object is moved. Those before it stay where they are, for nothing carries them
along, unless one of them is the same object: then it goes to the same place again. -/
theorem moved (h : s.Fitting image done u) (hfree : ∀ n ∈ done ++ [name], ¬ s.IsStuck n)
    {id : EntityId} {pos : Point} (hspot : s.spot? name = some (id, pos)) :
    ∃ v, u.moveId id (image pos) = .ok v ∧ s.Fitting image (done ++ [name]) v := by
  have hpos := (spot?_eq_some_iff.mp hspot).2
  obtain ⟨e, he, -⟩ := Option.bind_eq_some_iff.mp hpos
  have hparent : ∀ n ∈ done ++ [name], ∀ x p y, s.spot? n = some (x, p) → s.entity? x = some y →
      y.parent = none := by
    intro n hn x p y hx hy
    by_contra hattached
    exact hfree n hn ⟨x, p, y, hx, hy, hattached⟩
  obtain ⟨e', he', hput⟩ := h.exists_entity? he
  have hfree' : e'.parent = none := by
    rw [hput]
    exact hparent name (by simp) id pos e hspot he
  have hmoved := moveId_eq_ok he' hfree' (image pos)
  have hfrees := h.sound.frees_moveId he' hfree' (image pos) hmoved
  refine ⟨_, hmoved, h.sound.moveId hmoved, ?_, ?_⟩
  · have hedited : Edited .move (· = id) (fun _ => False) u _ :=
      h.sound.edited_moveId (.inl rfl) hmoved
    refine (h.edited.mono ?_ fun _ hx => hx).trans (hedited.mono ?_ fun _ hx => hx)
    · rintro x ⟨n, hn, hx⟩
      exact ⟨n, List.mem_append_left _ hn, hx⟩
    · rintro x rfl
      exact ⟨name, by simp, pos, hspot⟩
  · intro n hn x p y hx hy
    by_cases hxid : x = id
    · -- A list that repeats a name moves the object once more, to the same place.
      subst hxid
      have hsame : p = pos :=
        Option.some.inj ((spot?_eq_some_iff.mp hx).2.symm.trans hpos)
      cases hy.symm.trans he
      have hagain := (hfrees x e' he' hfree').1
      simp only [if_true] at hagain
      rw [hagain, hput, hsame]
      rfl
    · have hdone : n ∈ done := by
        rcases List.mem_append.mp hn with hn | hn
        · exact hn
        · rw [List.mem_singleton.mp hn, hspot] at hx
          cases hx
          exact absurd rfl hxid
      have hold := h.image n hdone x p y hx hy
      have hkept := (hfrees x _ hold (hparent n hn x p y hx hy)).1
      simp only [hxid, if_false] at hkept
      exact hkept

end Fitting

namespace Sound

/-- Objects that are free are fitted one after another. -/
theorem exists_fitting (hs : s.Sound) (image : Point → Point) (hfree : ∀ n ∈ done, ¬ s.IsStuck n) :
    ∃ u, s.forEach (s.fitStep image) done = (u, none) ∧ s.Fitting image done u := by
  -- The induction is from the last name: a step meets the scene that those before it have left.
  induction done using List.reverseRecOn with
  | nil => exact ⟨s, rfl, .refl hs image⟩
  | append_singleton done name ih =>
      obtain ⟨u, hu, hfitting⟩ := ih fun n hn => hfree n (List.mem_append_left _ hn)
      cases hspot : s.spot? name with
      | none =>
          refine ⟨u, ?_, hfitting.of_spot?_none hspot⟩
          rw [forEach_append hu, forEach, fitStep, hspot, Option.elim_none]
          rfl
      | some spot =>
          obtain ⟨v, hv, hfitted⟩ := hfitting.moved hfree hspot
          refine ⟨v, ?_, hfitted⟩
          rw [forEach_append hu, forEach, fitStep, hspot, Option.elim_some]
          simp only [hv]
          rfl

/-- Fitting stops at the first object that is attached; those before it have been moved. -/
theorem exists_fitting_upto (hs : s.Sound) (image : Point → Point)
    (h : FirstOf s.IsStuck names done name) :
    ∃ u, s.forEach (s.fitStep image) names = (u, some (.attachedMove name)) ∧
      s.Fitting image done u := by
  obtain ⟨⟨rest, rfl⟩, hbefore, id, pos, e, hspot, he, hattached⟩ := h
  obtain ⟨u, hu, hfitting⟩ := hs.exists_fitting image hbefore
  refine ⟨u, ?_, hfitting⟩
  obtain ⟨e', he', hput⟩ := hfitting.exists_entity? he
  obtain ⟨x, hx, hname⟩ := hs.registered.name_eq (spot?_eq_some_iff.mp hspot).1
  cases hx.symm.trans he
  have hrefused : u.moveId id (image pos) = .error (.attachedMove name) := by
    have hsome : e'.parent.isSome := by
      rw [hput]
      exact Option.isSome_iff_ne_none.mpr hattached
    have hcalled : e'.name = name := by
      rw [hput]
      exact hname
    simp only [Scene.moveId, he', hsome, hcalled, if_true]
  rw [forEach_append hu, forEach, fitStep, hspot, Option.elim_some]
  simp only [hrefused]

section Groups

variable (hs : s.Sound) (start finish : Point)

include hs

/-- If there is a reason to refuse a group, it is refused, and what is left is the scene as it was
or what has been fitted before the first attached object. -/
theorem fitWithin_of_refuses (h : s.Refuses (.fitWithin start finish names) e) :
    ∃ u, s.fitWithin start finish names = (u, some e) ∧
      (u = s ∨ ∃ done name, e = .attachedMove name ∧ FirstOf s.IsStuck names done name ∧
        s.Fitted (s.fitImage start finish names) done u) := by
  rcases h with ⟨done, name, hfirst, rfl⟩ | ⟨hknown, h⟩
  · refine ⟨s, ?_, .inl rfl⟩
    rw [fitWithin, placed_eq_error hfirst]
  · rw [fitWithin_of_id? hknown]
    split at h
    · next hempty =>
      subst h
      exact ⟨s, if_pos hempty, .inl rfl⟩
    · next hfull =>
      obtain ⟨done, name, hfirst, rfl⟩ := h
      obtain ⟨u, hu, hfitting⟩ :=
        hs.exists_fitting_upto (s.fitImage start finish names) hfirst
      exact ⟨u, (if_neg hfull).trans hu, .inr ⟨done, name, rfl, hfirst, hfitting.fitted⟩⟩

/-- If there is none, it is not. -/
theorem exists_refuses (h : (s.fitWithin start finish names).2 ≠ none) :
    ∃ e, s.Refuses (.fitWithin start finish names) e := by
  rcases exists_firstOf (s.id? · = none) names with hknown | ⟨done, name, hfirst⟩
  · rw [fitWithin_of_id? hknown] at h
    by_cases hempty : (s.hull names).isEmpty
    · exact ⟨_, .inr ⟨hknown, by rw [if_pos hempty]⟩⟩
    · rcases exists_firstOf s.IsStuck names with hfree | ⟨done, name, hfirst⟩
      · obtain ⟨u, hu, -⟩ := hs.exists_fitting (s.fitImage start finish names) hfree
        rw [if_neg hempty, hu] at h
        exact absurd rfl h
      · refine ⟨.attachedMove name, .inr ⟨hknown, ?_⟩⟩
        rw [if_neg hempty]
        exact ⟨done, name, hfirst, rfl⟩
  · exact ⟨_, .inl ⟨done, name, hfirst, rfl⟩⟩

theorem fitWithin_refused_iff :
    (s.fitWithin start finish names).2 = some e ↔ s.Refuses (.fitWithin start finish names) e := by
  constructor
  · intro he
    obtain ⟨e', he'⟩ := hs.exists_refuses start finish (by rw [he]; simp)
    obtain ⟨u, hu, -⟩ := hs.fitWithin_of_refuses start finish he'
    rw [hu] at he
    cases he
    exact he'
  · intro he
    obtain ⟨u, hu, -⟩ := hs.fitWithin_of_refuses start finish he
    rw [hu]

end Groups

/-- When an operation is refused, and why. -/
theorem operate_refused_iff (hs : s.Sound) (op : Operation) :
    (s.operate op).2 = some e ↔ s.Refuses op e := by
  have hregistered := hs.registered
  cases op with
  | delete name => exact attempt_refused_iff.trans hregistered.delete_eq_error_iff
  | moveTo name pos =>
      exact attempt_refused_iff.trans (hregistered.moveId_eq_error_iff fun _ => pos)
  | shift name delta =>
      exact attempt_refused_iff.trans (hregistered.moveId_eq_error_iff fun id =>
        ((s.entity? id).map Entity.pos).getD Point.zero + delta)
  | resize name size => exact attempt_refused_iff.trans (hregistered.update_eq_error_iff _)
  | attach child parent offset => exact attempt_refused_iff.trans (attach_eq_error_iff hs.tied)
  | animate name goal => exact attempt_refused_iff.trans (hregistered.animate_eq_error_iff goal)
  | rotateAround name angle center =>
      exact attempt_refused_iff.trans (hregistered.rotateAround_eq_error_iff angle center)
  | fitWithin start finish names => exact hs.fitWithin_refused_iff start finish

end Sound

/-! ## Refusals -/

namespace Reachable

/-- When an operation is refused, why, and what it leaves: the scene as it was, unless a group was
to be fitted one of whose objects is attached. Then the objects before that one have been fitted,
and what is below them has gone with them. -/
theorem refused_operation (hs : s.Reachable) (op : Operation) (e : SceneError) :
    ((s.operate op).2 = some e ↔ s.Refuses op e) ∧
    ((s.operate op).2 = some e → (s.operate op).1 = s ∨
      ∃ start finish names done name, op = .fitWithin start finish names ∧
        e = .attachedMove name ∧ FirstOf s.IsStuck names done name ∧
        s.Fitted (s.fitImage start finish names) done (s.operate op).1) := by
  refine ⟨hs.sound.operate_refused_iff op, fun he => ?_⟩
  cases op with
  | fitWithin start finish names =>
      have hrefuses := (hs.sound.operate_refused_iff _).mp he
      obtain ⟨u, hu, hleft⟩ := hs.sound.fitWithin_of_refuses start finish hrefuses
      rw [operate, hu]
      rcases hleft with rfl | ⟨done, name, hname, hfirst, hfitted⟩
      · exact .inl rfl
      · exact .inr ⟨start, finish, names, done, name, rfl, hname, hfirst, hfitted⟩
  | _ => exact .inl (attempt_of_refused he)

/-- Fitting a box and a box that follows it: the first one has been moved to a corner when the
second one is refused. -/
theorem refused_operation_followed :
    followed.Reachable ∧ (followed.operate (.fitWithin .zero ⟨100, 50⟩ ["a", "b"])).2 =
        some (.attachedMove "b") ∧
      ∃ done, FirstOf followed.IsStuck ["a", "b"] done "b" ∧
        followed.Fitted (followed.fitImage .zero ⟨100, 50⟩ ["a", "b"]) done
          (followed.operate (.fitWithin .zero ⟨100, 50⟩ ["a", "b"])).1 := by
  have hreachable : followed.Reachable := reachable_afterLine _
  have hrefused : (followed.operate (.fitWithin .zero ⟨100, 50⟩ ["a", "b"])).2 =
      some (.attachedMove "b") := by decide +kernel
  have hmoved : (followed.operate (.fitWithin .zero ⟨100, 50⟩ ["a", "b"])).1.position? "a" ≠
      followed.position? "a" := by decide +kernel
  refine ⟨hreachable, hrefused, ?_⟩
  rcases (refused_operation hreachable _ _).2 hrefused with hsame |
    ⟨start, finish, names, done, name, hop, hname, hfirst, hfitted⟩
  · exact absurd (congrArg (position? · "a") hsame) hmoved
  · cases hop
    cases hname
    exact ⟨done, hfirst, hfitted⟩

/-- So a refused operation may leave another scene: the first box was at the centre of the canvas
and is in the corner of the rectangle. -/
theorem moved_by_refused_fit :
    followed.Reachable ∧
      (followed.operate (.fitWithin .zero ⟨100, 50⟩ ["a", "b"])).2 = some (.attachedMove "b") ∧
      followed.position? "a" = some ⟨400, 300⟩ ∧
      (followed.operate (.fitWithin .zero ⟨100, 50⟩ ["a", "b"])).1.position? "a" = some .zero :=
  ⟨reachable_afterLine _, by decide +kernel, by decide +kernel, by decide +kernel⟩

end Reachable

end Scene

end Storyboard
