import Storyboard.Proofs.Layout.Moves
import Storyboard.Proofs.Scene.Playback
import Storyboard.Proofs.Session.Readers
import Storyboard.Session.Run

/-!
# What runs keep

A statement changes the scene through a few operations only, whatever it says, and whether or not
it fails. A property that each of them keeps is therefore kept by every statement, by every line
and by every display. Objects are created with shapes that have been read in the scene, so the
ends of a new link are objects that had names when it was read.

Main results:

- Definition `Scene.RunStable`: the operations that a property has to be kept by. `EditStable` has
  those that register nothing, `BuildStable` those that change no setting, `MoveStable` those that
  do neither.
- Theorem `Scene.BuildStable.display`: what the operations keep, displays keep.
- Theorem `Action.namesEnds_of_read`: the ends of a link that has been read have names.
- Theorems `Session.perform_induction`, `Scene.BuildStable.perform` and `Scene.BuildStable.execute`:
  what the operations keep, actions and statements keep.
- Theorems `Session.runLine_induction` and `Scene.RunStable.runLine`: so do lines, whatever they say.
-/

namespace Storyboard

/-! ## The ends of links -/

/-- The objects at the ends of a link; no other shape has any. -/
def Shape.ends : Shape → List EntityId
  | .link source target _ => [source, target]
  | _ => []

theorem Shape.ends_resize (size : Point) (shape : Shape) :
    (shape.resize size).ends = shape.ends := by
  cases shape <;> rfl

namespace Scene

/-- The objects at the ends of a shape have names. -/
def NamesEnds (s : Scene) (shape : Shape) : Prop := ∀ id ∈ shape.ends, ∃ name, s.id? name = some id

theorem namesEnds_of_ends_eq_nil (s : Scene) {shape : Shape} (h : shape.ends = []) :
    s.NamesEnds shape := by
  intro id hid
  rw [h] at hid
  cases hid

end Scene

theorem Stage.linkEnd_eq_ok {s : Stage} {name : String} {id : EntityId}
    (h : s.linkEnd name = .ok id) : s.scene.id? name = some id := by
  unfold linkEnd at h
  split at h
  · next id' hid =>
    cases h
    exact hid
  · cases h

/-! ## Blueprints -/

namespace Blueprint

open Operands

/-- The ends of a link are looked up by their names; other shapes have none. -/
theorem yields_namesEnds (s : Stage) (options : Options) (kind : ShapeKind) :
    (operands s options kind).Yields fun b => s.scene.NamesEnds b.shape := by
  have hnone : ∀ {b : Blueprint}, b.shape.ends = [] → s.scene.NamesEnds b.shape :=
    fun h => s.scene.namesEnds_of_ends_eq_nil h
  cases kind with
  | link =>
      iterate 2 refine yields_bind fun _ => ?_
      refine (yields_lift fun _ h => Stage.linkEnd_eq_ok h).bind fun source hsource => ?_
      refine (yields_lift fun _ h => Stage.linkEnd_eq_ok h).bind fun target htarget => ?_
      iterate 2 refine yields_bind fun _ => ?_
      apply yields_pure
      intro id hid
      rcases List.mem_pair.mp hid with rfl | rfl
      · exact ⟨_, hsource⟩
      · exact ⟨_, htarget⟩
  | bitmap =>
      iterate 3 refine yields_bind fun _ => ?_
      exact yields_pure (hnone rfl)
  | box | ellipse | line | text | wire =>
      iterate 4 refine yields_bind fun _ => ?_
      exact yields_pure (hnone rfl)
  | polygon =>
      iterate 7 refine yields_bind fun _ => ?_
      exact yields_pure (hnone rfl)
  | spline =>
      iterate 5 refine yields_bind fun _ => ?_
      exact yields_pure (hnone rfl)

end Blueprint

/-- The ends of a link that has been read have names. -/
theorem Action.namesEnds_of_read {s : Stage} {verb : Verb} {args : List String}
    {name : Option String} {b : Blueprint} (h : Action.read s verb args = .ok (.define name b)) :
    s.scene.NamesEnds b.shape := by
  obtain ⟨token, word, operands, given, kind, b', -, -, -, hread, hdefine⟩ :=
    readDefine_eq_ok (readDefine_of_read h)
  cases hdefine
  unfold Blueprint.read at hread
  split at hread
  · cases hread
  · next options rest hoptions => exact (Blueprint.yields_namesEnds s options kind).of_readAll hread

/-! ## Operations of a run -/

namespace Scene

/-- A property of scenes that is kept by every operation that registers nothing and changes no
setting. -/
structure MoveStable (P : Scene → Prop) : Prop extends TickStable P where
  animate : ∀ {s u : Scene} {name goal}, P s → s.animate name goal = .ok u → P u
  resize : ∀ {s u : Scene} {name size}, P s → s.resize name size = .ok u → P u
  attach : ∀ {s u : Scene} {child parent offset}, P s → s.attach child parent offset = .ok u → P u

/-- A property of scenes that is kept by every operation that changes no setting. -/
structure BuildStable (P : Scene → Prop) : Prop extends MoveStable P where
  create : ∀ {s : Scene} {n : Nat} (name pos) {shape : Shape} (color frameColor),
    P s → s.canCreate (n + 1) → s.NamesEnds shape → P (s.create name pos shape color frameColor).2
  setLastName : ∀ {s : Scene} (name), P s → P (s.setLastName name)

/-- A change of a setting keeps a property, whatever object it is made to. -/
def Keeps (P : Scene → Prop) (c : Change) : Prop :=
  ∀ {s u : Scene} {name : String}, P s → s.update name c.apply = .ok u → P u

/-- A property of scenes that is kept by every operation that registers nothing. -/
structure EditStable (P : Scene → Prop) : Prop extends MoveStable P where
  change : ∀ {s u : Scene} {c : Change} {name}, P s → s.update name c.apply = .ok u → P u

/-- A property of scenes that every operation of a statement keeps. -/
structure RunStable (P : Scene → Prop) : Prop extends BuildStable P where
  change : ∀ {s u : Scene} {c : Change} {name}, P s → s.update name c.apply = .ok u → P u

theorem EditStable.keeps {P : Scene → Prop} (hP : EditStable P) (c : Change) : Keeps P c :=
  hP.change

theorem RunStable.keeps {P : Scene → Prop} (hP : RunStable P) (c : Change) : Keeps P c :=
  hP.change

theorem runStable_sound : RunStable Sound where
  toTickStable := tickStable_sound
  change hs h := hs.change h
  animate hs h := hs.animate h
  resize hs h := hs.resize h
  attach hs h := hs.attach h
  create := by
    intro s n name pos shape color frameColor hs hcount _
    exact hs.create hcount name pos shape color frameColor
  setLastName name hs := hs.setLastName name

namespace BuildStable

variable {P : Scene → Prop} (hP : BuildStable P) {s : Scene} (hs : P s)

include hP hs

/-- Registering arrowheads, which have no ends. -/
theorem foldl_addArrowhead {owner : String} {color : ColorSpec} {arrowheads : List Arrowhead}
    (hcount : s.canCreate arrowheads.length) :
    P (arrowheads.foldl (addArrowhead owner color) s) := by
  induction arrowheads generalizing s with
  | nil => exact hs
  | cons a arrowheads ih =>
      rw [List.length_cons] at hcount
      have hends : s.NamesEnds a.shape := s.namesEnds_of_ends_eq_nil rfl
      exact ih (hP.create _ _ _ _ hs hcount hends) (canCreate_create hcount _ _ _ _ _)

/-- Building a blueprint, if there is an identifier for each of its objects. -/
theorem build {name : Option String} {b : Blueprint} (hends : s.NamesEnds b.shape)
    (hcount : s.canCreate (1 + b.arrowheads.length)) : P (s.build name b).2 := by
  rw [Nat.add_comm] at hcount
  apply hP.foldl_addArrowhead
  · exact hP.create _ _ _ _ hs hcount hends
  · exact canCreate_create hcount _ _ _ _ _

/-- Registering the status overlay, if there is an identifier for it. -/
theorem updateStatus (hcount : s.canCreate 1) : P s.updateStatus :=
  hP.create (some Defaults.statusName) _ (.named Defaults.color) none hs hcount
    (s.namesEnds_of_ends_eq_nil rfl)

/-- A display, if there is an identifier for the overlay. -/
theorem display (hcount : s.config.statusOverlay → s.canCreate 1) {limit : Nat} {r : Recording}
    {d : Displayed} (h : s.display limit r = some d) : P d.scene := by
  obtain ⟨-, hscene⟩ := display_eq_some h
  have hrest := hP.afterRounds hs d.frames
  obtain ⟨hnext, hconfig⟩ :=
    (tickStable_counter s.nextId s.config).afterRounds ⟨rfl, rfl⟩ d.frames
  rw [hscene]
  split
  · next hoverlay =>
    rw [hconfig] at hoverlay
    apply hP.updateStatus hrest
    rw [canCreate, hnext]
    exact hcount hoverlay
  · exact hrest

end BuildStable

end Scene

/-! ## Sessions -/

/-- Whether an action may register objects: a display may register the status overlay. -/
def Action.registers : Action → Bool
  | .define _ _ | .display => true
  | _ => false

namespace Session

variable {P : Scene → Prop} {s s' : Session} {limit : Nat}

/-- What the operations that register nothing keep, the actions that register nothing keep, also
if they are refused halfway. Of the changes of settings only those that the action makes count. -/
theorem perform_moves_induction (hP : Scene.MoveStable P) (hs : P s.scene) {action : Action}
    {fault : Option Fault} (haction : action.registers = false)
    (hkeeps : ∀ c names, action = .change c names → Scene.Keeps P c)
    (h : s.perform limit action = some (s', fault)) : P s'.scene := by
  cases action with
  | change c names =>
      cases h
      exact Scene.forEach_induction (fun hs h => hkeeps c names rfl hs h) hs names
  | animate goal names =>
      cases h
      exact Scene.forEach_induction (fun hs h => hP.animate hs h) hs names
  | attach parent offset names =>
      cases h
      exact Scene.forEach_induction (fun hs h => hP.attach hs h) hs names
  | move pos names =>
      cases h
      exact Scene.forEach_induction (fun hs h => Scene.moveTo_induction (hP.move _ _) hs h) hs names
  | shift delta names =>
      cases h
      exact Scene.forEach_induction (fun hs h => Scene.shift_induction (hP.move _ _) hs h) hs names
  | resize size names =>
      cases h
      exact Scene.forEach_induction (fun hs h => hP.resize hs h) hs names
  | kill names =>
      cases h
      exact Scene.forEach_induction
        (fun hs h => Scene.delete_induction (fun id hs => hP.remove id hs) hs h) hs names
  | define name blueprint => cases haction
  | defineColor name rgba =>
      cases h
      exact hs
  | play path =>
      cases h
      exact hs
  | display => cases haction
  | wait =>
      cases h
      exact hs
  | sleep seconds =>
      cases h
      exact hs
  | spring start finish names rotation tool =>
      cases h
      exact (Scene.moves_spring s.scene start finish names rotation _).induction
        (fun _ hs h => Scene.moveTo_induction (hP.move _ _) hs h) hs

/-- So it is if all changes of settings keep the property. -/
theorem perform_induction (hP : Scene.EditStable P) (hs : P s.scene) {action : Action}
    {fault : Option Fault} (haction : action.registers = false)
    (h : s.perform limit action = some (s', fault)) : P s'.scene :=
  perform_moves_induction hP.toMoveStable hs haction (fun c _ _ => hP.keeps c) h

/-- What single statements keep, lists of statements keep. -/
theorem runStatements_induction {site : Site}
    (hexecute : ∀ {s s' : Session} {stmt : Statement} {fault : Option Fault}, P s.scene →
      s.execute limit stmt = some (s', fault) → P s'.scene) (hs : P s.scene)
    {stmts : List Statement} {results : List StatementResult}
    (h : s.runStatements limit site stmts = some (s', results)) : P s'.scene := by
  induction stmts generalizing s results with
  | nil =>
      cases h
      exact hs
  | cons stmt rest ih =>
      unfold Session.runStatements at h
      split at h
      · cases h
      · next t hdone =>
        obtain ⟨⟨u, tail⟩, hrest, hend⟩ := Option.map_eq_some_iff.mp h
        cases hend
        exact ih (hexecute hs hdone) hrest
      · next t f hdone =>
        have ht : P t.scene := hexecute hs hdone
        simp only at h
        split at h
        · cases h
          exact ht
        · obtain ⟨⟨u, tail⟩, hrest, hend⟩ := Option.map_eq_some_iff.mp h
          cases hend
          exact ih ht hrest

/-- What single statements keep, lines keep, whatever they say. -/
theorem runLine_induction
    (hexecute : ∀ {s s' : Session} {stmt : Statement} {fault : Option Fault}, P s.scene →
      s.execute limit stmt = some (s', fault) → P s'.scene) (hs : P s.scene) {text : String}
    {results : List StatementResult} (h : s.runLine limit text = some (s', results)) :
    P s'.scene := by
  unfold Session.runLine at h
  simp only at h
  split at h
  · cases h
    exact hs
  · exact runStatements_induction hexecute (s := s.nextLine) hs h

end Session

namespace Scene

variable {P : Scene → Prop} {s s' : Session} {limit : Nat}

namespace BuildStable

variable (hP : BuildStable P) (hs : P s.scene)

include hP hs

/-- Performing an action that changes settings only in ways that keep the property, also if it is
refused halfway. -/
theorem perform {action : Action} {fault : Option Fault}
    (hkeeps : ∀ c names, action = .change c names → Keeps P c)
    (hends : ∀ name b, action = .define name b → s.scene.NamesEnds b.shape)
    (h : s.perform limit action = some (s', fault)) : P s'.scene := by
  cases hregisters : action.registers with
  | false => exact Session.perform_moves_induction hP.toMoveStable hs hregisters hkeeps h
  | true =>
      cases action with
      | define name blueprint =>
          simp only [Session.perform] at h
          split at h
          · next hcount =>
            cases h
            exact hP.setLastName _ (hP.build hs (hends name blueprint rfl) hcount)
          · cases h
      | display =>
          obtain ⟨t, ht, hpair⟩ := Option.map_eq_some_iff.mp h
          cases hpair
          unfold Session.display at ht
          split at ht
          · cases ht
          · next hcount =>
            obtain ⟨d, hd, rfl⟩ := Option.map_eq_some_iff.mp ht
            refine hP.display hs ?_ hd
            intro hoverlay
            simpa [hoverlay] using hcount
      | _ => cases hregisters

theorem remember (stmt : Statement) : P (s.remember stmt).scene := by
  unfold Session.remember
  split
  · exact hs
  · split
    · exact hP.setLastName _ hs
    · exact hs
  · exact hs

/-- Executing a statement that changes settings only in ways that keep the property, whether or
not it fails. -/
theorem execute {stmt : Statement} {fault : Option Fault}
    (hkeeps : ∀ c names, Action.read s.stage stmt.verb stmt.args = .ok (.change c names) →
      Keeps P c)
    (h : s.execute limit stmt = some (s', fault)) : P s'.scene := by
  unfold Session.execute at h
  split at h
  · cases h
    exact hs
  · next action hread =>
    obtain ⟨⟨t, refusal⟩, hperform, hend⟩ := Option.map_eq_some_iff.mp h
    have hends : ∀ name b, action = .define name b → s.scene.NamesEnds b.shape := by
      rintro name b rfl
      exact Action.namesEnds_of_read hread
    have hchange : ∀ c names, action = .change c names → Keeps P c := by
      rintro c names rfl
      exact hkeeps c names hread
    have ht : P t.scene := hP.perform hs hchange hends hperform
    cases refusal with
    | none =>
        cases hend
        exact hP.remember ht stmt
    | some f =>
        cases hend
        exact ht

end BuildStable

namespace RunStable

variable (hP : RunStable P) (hs : P s.scene)

include hP hs

/-- Executing a statement, whether or not it fails. -/
theorem execute {stmt : Statement} {fault : Option Fault}
    (h : s.execute limit stmt = some (s', fault)) : P s'.scene :=
  hP.toBuildStable.execute hs (fun c _ _ => hP.keeps c) h

/-- Running a line, whatever it says. -/
theorem runLine {text : String} {results : List StatementResult}
    (h : s.runLine limit text = some (s', results)) : P s'.scene :=
  Session.runLine_induction (fun hs h => hP.execute hs h) hs h

end RunStable

end Scene

end Storyboard
