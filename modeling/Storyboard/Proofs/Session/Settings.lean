import Storyboard.Proofs.Session.Edits

/-!
# Statements that set something

Thirteen verbs set something of the objects that their statements name: a number, a colour, a
switch, a size, a position, a goal, or a parent. The names are what the patterns among the
arguments stand for. Their statements edit the named objects one after the other and stop at the
first that is refused, so a statement is an edit whether or not it fails.

Main results:

- Theorem `Action.edit_of_read`: the verb, the names and the new parent of an edit that has been
  read.
- Theorem `Scene.Sound.edited_of_step`: one step of an edit.
- Theorem `Scene.Sound.edited_forEach`: a list of steps, wherever it stops.
- Theorem `Scene.Reachable.edits_named`: what a statement may change.
-/

namespace Storyboard

open Objects

/-! ## Actions and their verbs -/

namespace Change

theorem sets_apply (c : Change) (e : Entity) : c.verb.Sets e (c.apply e) := by
  cases c <;> rfl

end Change

namespace Action

/-- The verbs that set something of the objects they name. -/
def editVerbs : List Verb :=
  [.alpha, .color, .priority, .scale, .resize, .fade, .fix, .hide, .unhide, .move, .shift,
    .animate, .attach]

/-- The objects that an action attaches others to. -/
def Adopts (s : Scene) : Action → EntityId → Prop
  | attach parent _ _, id => s.id? parent = some id
  | _, _ => False

/-- The arguments of an edit that are patterns. -/
def patterns (verb : Verb) (args : List String) : List String :=
  if verb ∈ [Verb.fade, .fix, .hide, .unhide] then args else args.take 1

variable {s : Stage} {args : List String} {a : Action}

/-- A switch is set of all objects that some argument stands for. -/
theorem expandNames_of_readSwitch {c : Change} (h : readSwitch s c args = .ok a) :
    ∃ names, a = .change c names ∧ s.scene.expandNames .existing args = .ok names := by
  unfold readSwitch at h
  split at h
  · cases h
  · obtain ⟨names, hnames, rfl⟩ := exists_of_map_eq_ok h
    exact ⟨names, rfl, hnames⟩

theorem expandNames_of_readShift (h : readShift s args = .ok a) :
    ∃ delta names, a = .shift delta names ∧
      s.scene.expandNames .existing (args.take 1) = .ok names := by
  unfold readShift at h
  split at h
  · obtain ⟨x, -, h⟩ := exists_of_bind_eq_ok h
    obtain ⟨y, -, h⟩ := exists_of_bind_eq_ok h
    obtain ⟨names, hnames, h⟩ := exists_of_bind_eq_ok h
    cases h
    exact ⟨_, names, rfl, named_eq_ok hnames⟩
  · cases h

/-- The first argument of a place is the pattern. -/
theorem expandNames_of_readPlace {what : String} {place : Point × List String}
    (h : readPlace s what args = .ok place) :
    s.scene.expandNames .existing (args.take 1) = .ok place.2 := by
  obtain ⟨⟨pattern, point⟩, hslots, h⟩ := exists_of_bind_eq_ok h
  obtain ⟨names, hnames, h⟩ := exists_of_bind_eq_ok h
  cases h
  obtain ⟨rest, hread⟩ := Operands.exists_of_readAll hslots
  obtain ⟨token, others, rfl, hnext⟩ := Operands.exists_of_required hread
  have hpattern : pattern = token :=
    Operands.yields_bind (Q := fun slots => slots.1 = token)
      (fun point => Operands.yields_pure rfl) others (pattern, point) rest hnext
  exact hpattern ▸ named_eq_ok hnames

/-- The first argument of an attachment is the pattern, and the second one the new parent. -/
theorem expandNames_of_readAttach (h : readAttach s args = .ok a) :
    ∃ parent offset names, a = .attach parent offset names ∧ args[1]? = some parent ∧
      s.scene.expandNames .existing (args.take 1) = .ok names := by
  obtain ⟨⟨pattern, parent, offset⟩, hslots, h⟩ := exists_of_bind_eq_ok h
  simp only at h
  split at h
  · cases h
  obtain ⟨names, hnames, h⟩ := exists_of_bind_eq_ok h
  cases h
  obtain ⟨rest, hread⟩ := Operands.exists_of_readAll hslots
  obtain ⟨first, others, rfl, hfirst⟩ := Operands.exists_of_required hread
  obtain ⟨second, others, rfl, hsecond⟩ := Operands.exists_of_required hfirst
  have hslots : (pattern, parent) = (first, second) :=
    Operands.yields_bind (Q := fun slots => (slots.1, slots.2.1) = (first, second))
      (fun offset => Operands.yields_pure rfl) others (pattern, parent, offset) rest hsecond
  cases hslots
  exact ⟨parent, offset, names, rfl, rfl, named_eq_ok hnames⟩

/-- The action of an edit is one of its verb, for the names that its patterns stand for. -/
theorem edit_of_read {verb : Verb} (hverb : verb ∈ editVerbs)
    (h : Action.read s verb args = .ok a) :
    a.verb = verb ∧ s.scene.expandNames .existing (patterns verb args) = .ok a.targets ∧
      ∀ id, a.Adopts s.scene id →
        verb = .attach ∧ ∃ parent, args[1]? = some parent ∧ s.scene.id? parent = some id := by
  cases verb
  case alpha | color | priority | scale =>
    obtain ⟨token, c, names, hc, rfl, hnames⟩ := readSetting_eq_ok h
    obtain ⟨v, -, rfl⟩ := exists_of_map_eq_ok hc
    exact ⟨rfl, hnames, fun _ => False.elim⟩
  case fade | fix | hide | unhide =>
    obtain ⟨names, rfl, hnames⟩ := expandNames_of_readSwitch h
    exact ⟨rfl, hnames, fun _ => False.elim⟩
  case animate | move | resize =>
    obtain ⟨place, hplace, rfl⟩ := exists_of_map_eq_ok h
    exact ⟨rfl, expandNames_of_readPlace hplace, fun _ => False.elim⟩
  case shift =>
    obtain ⟨delta, names, rfl, hnames⟩ := expandNames_of_readShift h
    exact ⟨rfl, hnames, fun _ => False.elim⟩
  case attach =>
    obtain ⟨parent, offset, names, rfl, hparent, hnames⟩ := expandNames_of_readAttach h
    exact ⟨rfl, hnames, fun id hid => ⟨rfl, parent, hparent, hid⟩⟩
  all_goals exact absurd hverb (by decide)

end Action

/-! ## Statements -/

namespace Scene

variable {s u : Scene} {a : Action} {step : Scene → String → Except SceneError Scene}

/-- The step of an edit edits the named object. -/
theorem Sound.edited_of_step (hs : s.Sound) (hverb : a.verb ∈ Action.editVerbs)
    (ha : a.step? = some step) {name : String} (h : step s name = .ok u) :
    u.Sound ∧ ∃ id, s.id? name = some id ∧ Edited a.verb (· = id) (a.Adopts s) s u := by
  cases a with
  | change c _ =>
      cases ha
      obtain ⟨id, e, hid, -, rfl⟩ := update_eq_ok h
      exact ⟨hs.change h, id, hid, edited_modify c.sets_apply c.stance_apply s id⟩
  | resize size _ =>
      cases ha
      obtain ⟨id, e, hid, -, rfl⟩ := update_eq_ok h
      have hsets : ∀ e : Entity, Verb.resize.Sets e { e with shape := e.shape.resize size } :=
        fun e => ⟨rfl, Shape.unsized_resize size e.shape⟩
      exact ⟨hs.resize h, id, hid, edited_modify hsets (fun _ => rfl) s id⟩
  | animate goal _ =>
      cases ha
      refine ⟨hs.animate h, ?_⟩
      simp only [Scene.animate] at h
      split at h
      · cases h
      · split at h
        · cases h
        · obtain ⟨id, -, hid, -, rfl⟩ := update_eq_ok h
          refine ⟨id, hid, edited_modify ?_ ?_ s id⟩
          · intro e
            rfl
          · intro e
            rfl
  | attach parent offset _ =>
      cases ha
      obtain ⟨id, hidOf, -⟩ := exists_of_bind_eq_ok h
      have hid := idOf_eq_ok hidOf
      exact ⟨hs.attach h, id, hid, hs.edited_attach (fun _ hp => hp) hid h⟩
  | move pos _ =>
      cases ha
      obtain ⟨id, hidOf, hmove⟩ := exists_of_bind_eq_ok h
      exact ⟨hs.moveTo h, id, idOf_eq_ok hidOf, hs.edited_moveId (.inl rfl) hmove⟩
  | shift delta _ =>
      cases ha
      obtain ⟨id, hidOf, hmove⟩ := exists_of_bind_eq_ok h
      exact ⟨hs.shift h, id, idOf_eq_ok hidOf, hs.edited_moveId (.inr rfl) hmove⟩
  | kill => exact absurd hverb (show Verb.kill ∉ Action.editVerbs by decide)
  | define | defineColor | play | display | wait | sleep | spring => cases ha

/-- A list of steps edits the named objects, wherever it stops. -/
theorem Sound.edited_forEach (hs : s.Sound) (hverb : a.verb ∈ Action.editVerbs)
    (ha : a.step? = some step) (names : List String) :
    Edited a.verb (fun id => ∃ name ∈ names, s.id? name = some id) (a.Adopts s) s
      (s.forEach step names).1 := by
  induction names generalizing s with
  | nil => exact .refl ..
  | cons name names ih =>
      rw [forEach]
      split
      · next u hu =>
        obtain ⟨hsound, id, hid, hedited⟩ := hs.edited_of_step hverb ha hu
        -- No name has changed hands, so the other names are looked up in the scene before.
        have hids : ∀ other, u.id? other = s.id? other := by
          intro other
          rw [hedited.frame]
          rfl
        have hadopts : ∀ x, a.Adopts u x → a.Adopts s x := by
          intro x hx
          cases a with
          | attach => exact (hids _).symm.trans hx
          | _ => exact hx
        refine Edited.trans (hedited.mono ?_ fun _ hx => hx) ((ih hsound).mono ?_ hadopts)
        · rintro x rfl
          exact ⟨name, List.mem_cons_self, hid⟩
        · rintro x ⟨other, hother, hx⟩
          exact ⟨other, List.mem_cons_of_mem _ hother, hids other ▸ hx⟩
      · exact .refl ..

end Scene

namespace Action

theorem exists_step {a : Action} (h : a.verb ∈ editVerbs) : ∃ step, a.step? = some step := by
  cases a with
  | define | defineColor | play | display | wait | sleep | spring =>
      simp [verb, editVerbs] at h
  | _ => exact ⟨_, rfl⟩

end Action

/-- After a statement nothing has changed but the name referenced last. -/
theorem Session.remember_eq (s : Session) (stmt : Statement) :
    s.remember stmt =
      { s with scene := { s.scene with lastName := (s.remember stmt).scene.lastName } } := by
  unfold Session.remember
  split
  · rfl
  · split <;> rfl
  · rfl

namespace Scene

/-- An object has a name that some pattern stands for. -/
def Selects (s : Scene) (patterns : List String) (id : EntityId) : Prop :=
  ∃ names, s.expandNames .existing patterns = .ok names ∧ ∃ name ∈ names, s.id? name = some id

/-- An object is the one that a statement attaches others to. -/
def IsNewParent (s : Scene) (verb : Verb) (args : List String) (id : EntityId) : Prop :=
  verb = .attach ∧ ∃ parent, args[1]? = some parent ∧ s.id? parent = some id

/-- A statement that sets something of the objects it names changes nothing else, whether or not
it fails, but for the name referenced last: objects neither come nor go, and each changes only as
it may. -/
theorem Reachable.edits_named {s : Session} (hs : s.scene.Reachable) {verb : Verb}
    (hverb : verb ∈ Action.editVerbs) (limit line : Nat) (args : List String) :
    ∃ s' fault, s.execute limit ⟨verb, args, line⟩ = some (s', fault) ∧
      s' = { s with scene :=
        { s.scene with entities := s'.scene.entities, lastName := s'.scene.lastName } } ∧
      ∀ id, Option.Rel
        (s.scene.Allows verb (s.scene.Selects (Action.patterns verb args))
          (s.scene.IsNewParent verb args) id)
        (s.scene.entity? id) (s'.scene.entity? id) := by
  unfold Session.execute
  cases hread : Action.read s.stage verb args with
  | error f => exact ⟨s, some f, rfl, rfl, (Edited.refl ..).objects⟩
  | ok a =>
      obtain ⟨rfl, hnames, hadopts⟩ := Action.edit_of_read hverb hread
      obtain ⟨step, hstep⟩ := Action.exists_step hverb
      have hperform : s.perform limit a = some (s.each a.targets step) := by
        rw [← Action.perform_onto hstep, Action.onto_targets]
      have hedited : Edited a.verb (s.scene.Selects (Action.patterns a.verb args))
          (s.scene.IsNewParent a.verb args) s.scene (s.scene.forEach step a.targets).1 :=
        (hs.sound.edited_forEach hverb hstep a.targets).mono
          (fun x hx => ⟨a.targets, hnames, hx⟩) hadopts
      have hframe := hedited.frame
      simp only [hperform, Option.map_some, Session.each, Session.withScene]
      generalize s.scene.forEach step a.targets = result at hedited hframe
      obtain ⟨t, refusal⟩ := result
      cases refusal with
      | none =>
          refine ⟨_, _, rfl, ?_, ?_⟩
          · rw [Session.remember_eq]
            simp only at hframe ⊢
            rw [hframe]
          · rw [Session.remember_eq]
            exact hedited.objects
      | some e =>
          refine ⟨_, _, rfl, ?_, hedited.objects⟩
          simp only at hframe ⊢
          rw [hframe]

namespace Reachable

/-- Two boxes, the second of which follows the first, and a third. -/
def threeBoxes : Scene :=
  afterLine "define a box; define b box; define c box; attach b a 1 2"

/-- A session with these boxes. -/
def trio : Session := { drawing with scene := threeBoxes }

theorem reachable_trio : trio.scene.Reachable := by
  have hboxes : threeBoxes.Reachable := reachable_afterLine _
  rw [trio]
  exact hboxes

/-- A named object may list other children afterwards: both boxes are attached to the third, so
the first one, which is named too, loses its child. -/
theorem children_of_named_parent :
    trio.scene.Reachable ∧ Verb.attach ∈ Action.editVerbs ∧
      trio.scene.Selects (Action.patterns .attach ["/a|b/", "c"]) 1 ∧
      (trio.scene.entity? 1).map Entity.children = some [2] ∧
      (trio.execute 1 ⟨.attach, ["/a|b/", "c"], 1⟩).map
        (fun r => (r.2, (r.1.scene.entity? 1).map Entity.children)) = some (none, some []) :=
  ⟨reachable_trio, by decide,
    ⟨["a", "b"], by decide +kernel, "a", List.mem_cons_self, by decide +kernel⟩,
    by decide +kernel, by decide +kernel⟩

/-- Attaching two boxes to a third, one of which follows the other. -/
theorem edits_named_trio :
    trio.scene.Reachable ∧ Verb.attach ∈ Action.editVerbs ∧
      ∃ s' fault, trio.execute 1 ⟨.attach, ["/a|b/", "c"], 1⟩ = some (s', fault) ∧
        ∀ id, Option.Rel
          (trio.scene.Allows .attach (trio.scene.Selects ["/a|b/"])
            (trio.scene.IsNewParent .attach ["/a|b/", "c"]) id)
          (trio.scene.entity? id) (s'.scene.entity? id) := by
  have hverb : Verb.attach ∈ Action.editVerbs := by decide
  obtain ⟨s', fault, hexecute, -, hobjects⟩ :=
    edits_named reachable_trio hverb 1 1 ["/a|b/", "c"]
  exact ⟨reachable_trio, hverb, s', fault, hexecute, hobjects⟩

end Reachable

end Scene

end Storyboard
