import Storyboard.Proofs.Scene.Frames
import Storyboard.Proofs.Session.Settings

/-!
# Identifiers

Identifiers are drawn from a counter that never goes back, so an identifier is never given out
twice, and what a link remembers of its ends can never come to mean another object. This is said
of two moments of a run, however far apart: the objects of the later one are objects of the earlier
one, with the same ends, or have identifiers that had not been given out by then. The relation
is transitive, and every operation of a statement respects it.

The moments of a run are the scenes between lines, between the statements of a line, and between
the ticks of a display, before and after the overlay is registered. A step that needs more
identifiers than the counter has left is none.

Main results:

- Definition `Scene.Succeeds`: what the objects of a later moment are.
- Theorem `Scene.runStable_succeeds`: every operation of a statement leads to a later moment.
- Theorem `Session.films_runLine`: a line draws nothing but frames of moments of the run.
- Theorem `Scene.LeadsTo.identifiers_final`: identifiers are not reused and links do not change
  their ends.
-/

namespace Storyboard

open Objects

/-- Only links have two ends. -/
theorem Shape.exists_stroke_of_ends {shape : Shape} {source target : EntityId}
    (h : shape.ends = [source, target]) : ∃ stroke, shape = .link source target stroke := by
  cases shape with
  | link a b stroke =>
      cases h
      exact ⟨stroke, rfl⟩
  | _ => cases h

namespace Scene

variable {s t u : Scene} {id : EntityId} {e : Entity}

/-! ## Later moments -/

/-- The objects of a later scene are those of an earlier one, with the same ends, and new ones. A
new object has an identifier that the earlier scene had not given out, and ends that the later one
has. -/
structure Succeeds (s u : Scene) : Prop where
  nextId_le : s.nextId ≤ u.nextId
  origin : ∀ {id e}, u.entity? id = some e →
    (s.nextId < id ∧ ∀ x ∈ e.shape.ends, x ≤ u.nextId) ∨
      ∃ old, s.entity? id = some old ∧ e.shape.ends = old.shape.ends

namespace Succeeds

theorem refl (s : Scene) : Succeeds s s where
  nextId_le := UInt64.le_refl s.nextId
  origin := by
    intro id e he
    exact .inr ⟨e, he, rfl⟩

theorem trans (h : Succeeds s t) (h' : Succeeds t u) : Succeeds s u where
  nextId_le := UInt64.le_trans h.nextId_le h'.nextId_le
  origin := by
    intro id e he
    rcases h'.origin he with ⟨hnew, hends⟩ | ⟨old, hold, hends⟩
    · exact .inl ⟨UInt64.lt_of_le_of_lt h.nextId_le hnew, hends⟩
    · rw [hends]
      rcases h.origin hold with ⟨hnew, hends'⟩ | hfirst
      · exact .inl ⟨hnew, fun x hx => UInt64.le_trans (hends' x hx) h'.nextId_le⟩
      · exact .inr hfirst

/-- No object comes, and those that stay keep their ends. -/
theorem of_kept (hnext : u.nextId = s.nextId)
    (hkept : ∀ {id e}, u.entity? id = some e →
      ∃ old, s.entity? id = some old ∧ e.shape.ends = old.shape.ends) : Succeeds s u where
  nextId_le := by
    rw [hnext]
    exact UInt64.le_refl s.nextId
  origin he := .inr (hkept he)

theorem of_agree (hnext : u.nextId = s.nextId)
    (h : Table.Agree (fun e : Entity => e.shape.ends) u.entities s.entities) : Succeeds s u := by
  apply of_kept hnext
  intro id e he
  obtain ⟨old, hold, hends⟩ := h.exists_of_get? he
  exact ⟨old, hold, hends.symm⟩

theorem modify (s : Scene) (id : EntityId) {f : Entity → Entity}
    (hf : ∀ e, (f e).shape.ends = e.shape.ends) : Succeeds s (s.modify id f) :=
  of_agree rfl (Table.Agree.modify s.entities id hf)

/-- An object that is not there does not come back under an identifier that had been given out. -/
theorem entity?_eq_none (h : Succeeds s u) (hid : id ≤ s.nextId) (hdead : s.entity? id = none) :
    u.entity? id = none := by
  cases he : u.entity? id with
  | none => rfl
  | some e =>
      rcases h.origin he with ⟨hnew, -⟩ | ⟨old, hold, -⟩
      · exact absurd hid (UInt64.not_le.mpr hnew)
      · rw [hdead] at hold
        cases hold

theorem update {name : String} {f : Entity → Entity} (hf : ∀ e, (f e).shape.ends = e.shape.ends)
    (h : s.update name f = .ok u) : Succeeds s u := by
  obtain ⟨id, e, -, -, rfl⟩ := update_eq_ok h
  exact modify s id hf

theorem moveId {pos : Point} (h : s.moveId id pos = .ok u) : Succeeds s u := by
  obtain ⟨hagree, -, hnext⟩ := agree_moveId h
  exact .of_agree hnext (hagree.mono fun e => e.shape.ends)

end Succeeds

namespace Sound

variable (hs : s.Sound)

include hs

theorem succeeds_remove (id : EntityId) : Succeeds s (s.remove id) := by
  apply Succeeds.of_kept (nextId_remove s id)
  intro x e he
  rw [entity?_remove hs.tied] at he
  split at he
  · cases he
  · obtain ⟨old, hold, rfl⟩ := Option.map_eq_some_iff.mp he
    exact ⟨old, hold, congrArg Shape.ends (Entity.shape_without id old)⟩

theorem succeeds_attach {child parent : String} {offset : Point}
    (h : s.attach child parent offset = .ok u) : Succeeds s u := by
  obtain ⟨c, p, e, e', -, -, hc, -, -, rfl⟩ := hs.registered.attach_eq_ok hs.tied h
  have hretied : Succeeds s (s.retie c p offset) := by
    refine .of_kept rfl ?_
    intro x e he
    rw [entity?_retie hs.tied hc] at he
    obtain ⟨old, hold, rfl⟩ := Option.map_eq_some_iff.mp he
    exact ⟨old, hold, congrArg Shape.ends Entity.shape_retied⟩
  have hagree := agree_repositionChildren (s.retie c p offset) p
  exact hretied.trans (.of_agree rfl (hagree.mono fun e => e.shape.ends))

/-- A created object has the next identifier, and the ends of its shape have been given out. -/
theorem succeeds_create {n : Nat} (hcount : s.canCreate (n + 1)) {shape : Shape}
    (hends : s.NamesEnds shape) (name : Option String) (pos : Point) (color : ColorSpec)
    (frameColor : Option ColorSpec) :
    Succeeds s (s.create name pos shape color frameColor).2 := by
  have hnext : s.nextId < s.nextId + 1 := by
    rw [UInt64.lt_iff_toNat_lt, toNat_next hcount]
    exact Nat.lt_succ_self _
  have hle : s.nextId ≤ (s.create name pos shape color frameColor).2.nextId := by
    rw [nextId_create]
    exact UInt64.le_of_lt hnext
  refine ⟨hle, ?_⟩
  intro x e he
  rw [hs.entity?_create hcount] at he
  split at he
  · next hx =>
    cases he
    refine .inl ⟨hx ▸ hnext, ?_⟩
    intro y hy
    obtain ⟨other, hother⟩ := hends y hy
    obtain ⟨end', hend⟩ := hs.registered.entity_of_id? hother
    exact UInt64.le_trans (hs.registered.id_le hend) hle
  · obtain ⟨old, hold, rfl⟩ := Option.map_eq_some_iff.mp he
    exact .inr ⟨old, (Option.filter_eq_some_iff.mp hold).1, rfl⟩

end Sound

/-! ## Links that have lost an end -/

/-- One of two objects is gone, and the object with an identifier is gone too or a link between
them. -/
structure Severed (s : Scene) (id source target : EntityId) : Prop where
  dead : s.entity? source = none ∨ s.entity? target = none
  ends : ∀ {e}, s.entity? id = some e → ∃ stroke, e.shape = .link source target stroke

namespace Severed

variable {source target : EntityId}

theorem linkEnds?_eq_none (h : s.Severed id source target) : s.linkEnds? source target = none := by
  rw [linkEnds?]
  rcases h.dead with hdead | hdead
  · simp [hdead]
  · cases s.entity? source <;> simp [hdead]

theorem placement?_eq_none (h : s.Severed id source target) (he : s.entity? id = some e) :
    s.placement? e = none := by
  obtain ⟨stroke, hshape⟩ := h.ends he
  simp only [placement?, hshape, h.linkEnds?_eq_none, Option.map_none]

theorem positionOf?_eq_none (h : s.Severed id source target) : s.positionOf? id = none := by
  rw [positionOf?]
  cases he : s.entity? id with
  | none => rfl
  | some e =>
      obtain ⟨stroke, hshape⟩ := h.ends he
      simp only [Option.bind_eq_bind, Option.bind_some, hshape, h.linkEnds?_eq_none,
        Option.map_none]

theorem not_mem_frame (h : s.Severed id source target) (hs : s.Registered)
    {order : List EntityId} {f : FrameEntry} (hf : f ∈ s.frame order) : f.id ≠ id := by
  rintro rfl
  obtain ⟨e, he, -, -, hplacement⟩ := hs.mem_frame hf
  rw [h.placement?_eq_none he] at hplacement
  cases hplacement

/-- What has been severed stays so, because neither end can come back. -/
theorem succeeds (h : s.Severed id source target) (hsu : Succeeds s u) (hid : id ≤ s.nextId)
    (hsource : source ≤ s.nextId) (htarget : target ≤ s.nextId) :
    u.Severed id source target where
  dead := h.dead.imp (hsu.entity?_eq_none hsource) (hsu.entity?_eq_none htarget)
  ends := by
    intro e he
    rcases hsu.origin he with ⟨hnew, -⟩ | ⟨old, hold, hends⟩
    · exact absurd hid (UInt64.not_le.mpr hnew)
    · obtain ⟨stroke, hshape⟩ := h.ends hold
      rw [hshape] at hends
      exact Shape.exists_stroke_of_ends hends

end Severed

/-- Every operation of a statement leads from a sound moment to a later one. -/
theorem runStable_succeeds (s : Scene) : RunStable fun u => u.Sound ∧ Succeeds s u where
  halt id h := ⟨tickStable_sound.halt id h.1, h.2.trans (.modify _ id fun _ => rfl)⟩
  move id pos h hu := ⟨h.1.moveId hu, h.2.trans (.moveId hu)⟩
  fade id alpha h := ⟨tickStable_sound.fade id alpha h.1, h.2.trans (.modify _ id fun _ => rfl)⟩
  remove id h := ⟨h.1.remove id, h.2.trans (h.1.succeeds_remove id)⟩
  countFrame h := ⟨tickStable_sound.countFrame h.1, h.2.trans (.of_kept rfl fun he => ⟨_, he, rfl⟩)⟩
  change := by
    intro t u c name h hu
    refine ⟨h.1.change hu, h.2.trans (.update ?_ hu)⟩
    intro e
    cases c <;> rfl
  animate := by
    intro t u name goal h hu
    refine ⟨h.1.animate hu, h.2.trans ?_⟩
    unfold Scene.animate at hu
    split at hu
    · cases hu
    · split at hu
      · cases hu
      · refine .update ?_ hu
        intro e
        rfl
  resize h hu := ⟨h.1.resize hu, h.2.trans (.update (fun e => e.shape.ends_resize _) hu)⟩
  attach h hu := ⟨h.1.attach hu, h.2.trans (h.1.succeeds_attach hu)⟩
  create := by
    intro t n name pos shape color frameColor h hcount hends
    exact ⟨h.1.create hcount name pos shape color frameColor,
      h.2.trans (h.1.succeeds_create hcount hends name pos color frameColor)⟩
  setLastName name h := ⟨h.1.setLastName name, h.2.trans (.of_kept rfl fun he => ⟨_, he, rfl⟩)⟩

/-! ## Moments of a run -/

/-- From one moment of a run to the next. Everything in a session but its scene may change between
two lines and between two statements. -/
inductive Step : Scene → Scene → Prop
  | line {s s' : Session} {limit : Nat} {text : String} {results : List StatementResult} :
      s.runLine limit text = some (s', results) → Step s.scene s'.scene
  | statement {s s' : Session} {limit : Nat} {stmt : Statement} {fault : Option Fault} :
      s.execute limit stmt = some (s', fault) → Step s.scene s'.scene
  | round (s : Scene) (order : List EntityId) : Step s (round (s, order)).1
  | overlay {s : Scene} : s.canCreate 1 → Step s s.updateStatus

/-- The moments of a run that follow a given one. -/
abbrev LeadsTo : Scene → Scene → Prop := Relation.ReflTransGen Step

/-- What the operations of a statement keep holds at every moment that follows. -/
theorem RunStable.leadsTo {P : Scene → Prop} (hP : RunStable P) (hs : P s) (h : s.LeadsTo u) :
    P u := by
  induction h with
  | refl => exact hs
  | tail _ hstep ih =>
      cases hstep with
      | line hrun => exact hP.runLine ih hrun
      | statement hrun => exact hP.execute ih hrun
      | round _ order => exact hP.countFrame (hP.tick ih order)
      | overlay hcount => exact hP.updateStatus ih hcount

/-- Reachable scenes are moments of a run from an empty scene. -/
theorem Reachable.leadsTo (hs : s.Reachable) : ∃ config, (Scene.empty config).LeadsTo s := by
  induction hs with
  | empty config => exact ⟨config, .refl⟩
  | line _ h ih =>
      obtain ⟨config, hrun⟩ := ih
      exact ⟨config, hrun.tail (.line h)⟩
  | statement _ h ih =>
      obtain ⟨config, hrun⟩ := ih
      exact ⟨config, hrun.tail (.statement h)⟩

/-- The rounds of a display are moments of the run. -/
theorem leadsTo_afterRounds (s : Scene) (n : Nat) : s.LeadsTo (s.afterRounds n).1 := by
  induction n with
  | zero => exact .refl
  | succ n ih =>
      rw [afterRounds, Function.iterate_succ_apply']
      exact ih.tail (.round _ _)

end Scene

/-! ## Frames of a run -/

namespace Session

open Scene

variable {s s' t : Session} {limit : Nat}

/-- Between two sessions of a run, nothing but frames of its moments has been drawn. -/
def Films (s s' : Session) : Prop :=
  ∃ more, s'.recording.frames = s.recording.frames ++ more ∧
    ∀ frame ∈ more, ∃ u order, s.scene.LeadsTo u ∧ frame = u.frame order

theorem films_of_frames_eq (h : s'.recording.frames = s.recording.frames) : s.Films s' :=
  ⟨[], by rw [h, List.append_nil], by simp⟩

theorem Films.trans (h : s.Films t) (hrun : s.scene.LeadsTo t.scene) (h' : t.Films s') :
    s.Films s' := by
  obtain ⟨more, hframes, hmore⟩ := h
  obtain ⟨others, hframes', hothers⟩ := h'
  refine ⟨more ++ others, by rw [hframes', hframes, List.append_assoc], ?_⟩
  intro frame hframe
  rcases List.mem_append.mp hframe with hframe | hframe
  · exact hmore frame hframe
  · obtain ⟨u, order, hu, rfl⟩ := hothers frame hframe
    exact ⟨u, order, hrun.trans hu, rfl⟩

/-- Only displays draw frames. -/
theorem films_perform {action : Action} {fault : Option Fault}
    (h : s.perform limit action = some (s', fault)) : s.Films s' := by
  cases action with
  | define name blueprint =>
      simp only [perform] at h
      split at h
      · cases h
        exact films_of_frames_eq rfl
      · cases h
  | display =>
      obtain ⟨t, ht, hpair⟩ := Option.map_eq_some_iff.mp h
      cases hpair
      unfold Session.display at ht
      split at ht
      · cases ht
      · obtain ⟨d, hd, rfl⟩ := Option.map_eq_some_iff.mp ht
        have hrecording : d.recording = s.scene.film s.recording d.frames := (display_eq_some hd).1
        refine ⟨_, (congrArg Recording.frames hrecording).trans (frames_film ..), ?_⟩
        intro frame hframe
        obtain ⟨k, -, rfl⟩ := List.mem_map.mp hframe
        exact ⟨_, _, s.scene.leadsTo_afterRounds (k + 1), rfl⟩
  | play path | wait =>
      cases h
      exact films_of_frames_eq (by simp [request, Recording.frames])
  | _ =>
      cases h
      exact films_of_frames_eq rfl

theorem films_execute {stmt : Statement} {fault : Option Fault}
    (h : s.execute limit stmt = some (s', fault)) : s.Films s' := by
  unfold execute at h
  split at h
  · cases h
    exact films_of_frames_eq rfl
  · obtain ⟨⟨t, refusal⟩, hperform, hend⟩ := Option.map_eq_some_iff.mp h
    cases refusal with
    | none =>
        cases hend
        obtain ⟨more, hframes, hmore⟩ := films_perform hperform
        refine ⟨more, ?_, hmore⟩
        rw [remember_eq]
        exact hframes
    | some f =>
        cases hend
        exact films_perform hperform

theorem films_runStatements {site : Site} {stmts : List Statement}
    {results : List StatementResult} (h : s.runStatements limit site stmts = some (s', results)) :
    s.Films s' := by
  induction stmts generalizing s results with
  | nil =>
      cases h
      exact films_of_frames_eq rfl
  | cons stmt rest ih =>
      unfold runStatements at h
      split at h
      · cases h
      · next t hexecute =>
        obtain ⟨⟨u, tail⟩, hrest, hend⟩ := Option.map_eq_some_iff.mp h
        cases hend
        exact (films_execute hexecute).trans (.single (.statement hexecute)) (ih hrest)
      · next t f hexecute =>
        simp only at h
        split at h
        · cases h
          exact films_execute hexecute
        · obtain ⟨⟨u, tail⟩, hrest, hend⟩ := Option.map_eq_some_iff.mp h
          cases hend
          exact (films_execute hexecute).trans (.single (.statement hexecute)) (ih hrest)

/-- A line draws nothing but frames of moments of the run. -/
theorem films_runLine {text : String} {results : List StatementResult}
    (h : s.runLine limit text = some (s', results)) : s.Films s' := by
  unfold runLine at h
  simp only at h
  split at h
  · cases h
    exact films_of_frames_eq rfl
  · exact films_runStatements (s := s.nextLine) h

end Session

/-! ## Identifiers in the course of a run -/

namespace Scene.LeadsTo

variable {config : SceneConfig} {s t u : Scene}

/-- Every moment of a run is sound, and the identifiers in use, also as the ends of links, have
been given out. -/
theorem sound_of_empty (hs : (Scene.empty config).LeadsTo s) :
    s.Sound ∧ ∀ {id e}, s.entity? id = some e →
      id ≤ s.nextId ∧ ∀ x ∈ e.shape.ends, x ≤ s.nextId := by
  obtain ⟨hsound, hsucceeds⟩ :=
    (runStable_succeeds (Scene.empty config)).leadsTo ⟨Sound.empty config, .refl _⟩ hs
  refine ⟨hsound, ?_⟩
  intro id e he
  refine ⟨hsound.registered.id_le he, ?_⟩
  rcases hsucceeds.origin he with ⟨-, hends⟩ | ⟨old, hold, -⟩
  · exact hends
  · cases hold

/-- Three moments of a run, one after another. What comes between the second and the third has a
greater identifier than anything that was in use at the first, as an object or as the end of a link;
what had gone between the first and the second does not come back. A link that has lost an end at
the second moment is gone at the third or still ties the same two identifiers. It has no position
then, no frame lists it, and no line that is run from there draws it. -/
theorem identifiers_final (hs : (Scene.empty config).LeadsTo s) (hst : s.LeadsTo t)
    (htu : t.LeadsTo u) :
    (∀ id e old e', u.entity? id = some e → t.entity? id = none → s.entity? old = some e' →
      old < id ∧ ∀ x ∈ e'.shape.ends, x < id) ∧
    (∀ id e, s.entity? id = some e → t.entity? id = none → u.entity? id = none) ∧
    ∀ id e source target stroke, t.entity? id = some e → e.shape = .link source target stroke →
      t.entity? source = none ∨ t.entity? target = none →
      (∀ e', u.entity? id = some e' → u.placement? e' = none ∧
        ∃ stroke', e'.shape = .link source target stroke') ∧
      u.positionOf? id = none ∧ (∀ order, ∀ f ∈ u.frame order, f.id ≠ id) ∧
      ∀ r r' limit text results, r.scene = u →
        Session.runLine limit r text = some (r', results) →
        ∃ more, r'.recording.frames = r.recording.frames ++ more ∧
          ∀ frame ∈ more, ∀ f ∈ frame, f.id ≠ id := by
  obtain ⟨hsound, hused⟩ := sound_of_empty hs
  obtain ⟨htsound, htused⟩ := sound_of_empty (hs.trans hst)
  obtain ⟨-, hearly⟩ := (runStable_succeeds s).leadsTo ⟨hsound, .refl s⟩ hst
  have hlater : ∀ {v}, t.LeadsTo v → v.Sound ∧ Succeeds t v :=
    fun hv => (runStable_succeeds t).leadsTo ⟨htsound, .refl t⟩ hv
  refine ⟨?_, ?_, ?_⟩
  · intro id e old e' he hdead hold
    have hnew : t.nextId < id := by
      rcases (hlater htu).2.origin he with ⟨hnew, -⟩ | ⟨x, hx, -⟩
      · exact hnew
      · rw [hdead] at hx
        cases hx
    have hgreater : ∀ {x}, x ≤ s.nextId → x < id := fun hx =>
      UInt64.lt_of_le_of_lt (UInt64.le_trans hx hearly.nextId_le) hnew
    exact ⟨hgreater (hused hold).1, fun x hx => hgreater ((hused hold).2 x hx)⟩
  · intro id e he hdead
    exact (hlater htu).2.entity?_eq_none
      (UInt64.le_trans (hused he).1 hearly.nextId_le) hdead
  · intro id e source target stroke he hshape hdead
    have hends : ∀ x ∈ [source, target], x ≤ t.nextId := by
      intro x hx
      apply (htused he).2
      rw [hshape]
      exact hx
    have hsevered : t.Severed id source target := by
      refine ⟨hdead, ?_⟩
      intro e' he'
      rw [he] at he'
      cases he'
      exact ⟨stroke, hshape⟩
    have hstays : ∀ {v}, t.LeadsTo v → v.Severed id source target := fun hv =>
      hsevered.succeeds (hlater hv).2 (htused he).1 (hends _ (by simp)) (hends _ (by simp))
    refine ⟨?_, (hstays htu).positionOf?_eq_none, ?_, ?_⟩
    · intro e' he'
      exact ⟨(hstays htu).placement?_eq_none he', (hstays htu).ends he'⟩
    · intro order f hf
      exact (hstays htu).not_mem_frame (hlater htu).1.registered hf
    · rintro r r' limit text results rfl hrun
      obtain ⟨more, hframes, hmore⟩ := Session.films_runLine hrun
      refine ⟨more, hframes, ?_⟩
      intro frame hframe f hf
      obtain ⟨v, order, hv, rfl⟩ := hmore frame hframe
      exact (hstays (htu.trans hv)).not_mem_frame (hlater (htu.trans hv)).1.registered hf

/-- The session that a line leaves. -/
def after (s : Session) (text : String) : Session := ((s.runLine 1 text).map Prod.fst).getD s

theorem leadsTo_after (s : Session) (text : String) : s.scene.LeadsTo (after s text).scene := by
  unfold after
  cases hrun : s.runLine 1 text with
  | none => exact .refl
  | some result => exact .single (.line hrun)

/-- A link between two boxes, the first of which is removed. -/
def cut : Session := after Reachable.drawing "define l link a b; kill a"

/-- The name of the first box is given to an ellipse. -/
def renamed : Session := after cut "define a ellipse"

/-- The ellipse has a new identifier, and the link does not lead to it. -/
theorem identifiers_renamed :
    (∃ config, (Scene.empty config).LeadsTo Reachable.drawing.scene) ∧
    Reachable.drawing.scene.LeadsTo cut.scene ∧ cut.scene.LeadsTo renamed.scene ∧
    renamed.scene.id? "a" = some 4 ∧ renamed.scene.entity? 1 = none ∧
    renamed.scene.positionOf? 3 = none := by
  obtain ⟨config, hs⟩ := Reachable.reachable_drawing.leadsTo
  have hst : Reachable.drawing.scene.LeadsTo cut.scene := leadsTo_after _ _
  have htu : cut.scene.LeadsTo renamed.scene := leadsTo_after _ _
  obtain ⟨-, hgone, hlinks⟩ := identifiers_final hs hst htu
  have hbox : (Reachable.drawing.scene.entity? 1).isSome = true := by decide +kernel
  obtain ⟨box, hbox⟩ := Option.isSome_iff_exists.mp hbox
  have hkilled : (cut.scene.entity? 1).isNone = true := by decide +kernel
  rw [Option.isNone_iff_eq_none] at hkilled
  have hends : (cut.scene.entity? 3).map (fun e => e.shape.ends) = some [1, 2] := by
    decide +kernel
  obtain ⟨link, hlink, hends⟩ := Option.map_eq_some_iff.mp hends
  obtain ⟨stroke, hshape⟩ := Shape.exists_stroke_of_ends hends
  refine ⟨⟨config, hs⟩, hst, htu, by decide +kernel, hgone 1 box hbox hkilled, ?_⟩
  exact (hlinks 3 link 1 2 stroke hlink hshape (.inl hkilled)).2.1

end Scene.LeadsTo

end Storyboard
