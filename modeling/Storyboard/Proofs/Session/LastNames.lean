import Storyboard.Proofs.Scene.Rounds
import Storyboard.Proofs.Session.Overwriting
import Storyboard.Proofs.Session.Redefinitions
import Storyboard.Proofs.Session.Settings

/-!
# The name referenced last

An argument that selects objects stands for names in use: an expression is matched with them, and
a name has to be one of them. Two minus signs stand for the name referenced last, which is not
looked up again. It is the name of an object when it is set, but nothing resets it when the object
goes.

An object goes when it is removed by name, when it fades out in the course of a display, and when
a definition takes its name. After a definition the name is in use again. So two minus signs stand
for a name that is not in use after a removal or a display, until another name is referenced.

Main results:

- Definition `Scene.LastGone`: the object that was referenced last has gone.
- Theorem `Session.sheds_perform`: which names an action can put out of use.
- Theorem `Scene.Reachable.expandName_live_iff`: when an argument stands for names in use only.
-/

namespace Storyboard

/-! ## What an argument stands for -/

namespace Scene

variable {s u v : Scene} {name token : String} {names : List String} {mode : NameMode}

/-- The object that was referenced last has gone. -/
def LastGone (s : Scene) : Prop := ∃ name, s.lastName = some name ∧ name ∉ s.liveNames

/-- Two minus signs stand for the name referenced last, whether or not it is in use. -/
theorem expandName_last_iff :
    s.expandName mode "--" = .ok names ↔ ∃ name, s.lastName = some name ∧ names = [name] := by
  have hlast : Pattern.ofToken "--" = .last := (Pattern.ofToken_eq_last_iff "--").mpr rfl
  unfold expandName
  rw [hlast]
  cases s.lastName with
  | none => simp
  | some name => simp [eq_comm]

/-- Every other token that is not a number stands for names in use. -/
theorem Registered.mem_liveNames_of_expandName (hs : s.Registered)
    (hmode : mode.allowCreate = false) (hlast : token ≠ "--")
    (hnumber : Number.isNumber token = false) (h : s.expandName mode token = .ok names) :
    ∀ name ∈ names, name ∈ s.liveNames := by
  unfold expandName at h
  split at h
  · cases h
    simp
  · next hpattern => exact absurd ((Pattern.ofToken_eq_last_iff token).mp hpattern) hlast
  · unfold expandRegex at h
    split at h
    · cases h
    · next r _ =>
      simp only at h
      split at h
      · cases h
      · cases h
        exact fun name hname => (List.mem_filter.mp hname).1
  · next literal hpattern =>
    obtain ⟨rfl, -⟩ := Pattern.eq_of_ofToken hpattern
    split at h
    · next haccepts =>
      cases h
      simp only [acceptsName, hnumber, hmode, Bool.false_or, Bool.or_false] at haccepts
      simpa using (hs.contains_iff_mem literal).mp haccepts
    · cases h

/-! ## Names that go out of use -/

theorem SameFrame.lastName (h : SameFrame s u) : u.lastName = s.lastName := by rw [h]

/-- A name is that of a visible object that fades. -/
def FadesOut (s : Scene) (name : String) : Prop :=
  ∃ e, s.get? name = some e ∧ e.visible = true ∧ e.fadeOut = true

/-- A statement may put a name out of use: it removes the object, or displays how it fades. -/
def Dismisses (s : Scene) (stmt : Statement) (name : String) : Prop :=
  stmt.verb = .kill ∧ s.NamedBy .noMatch stmt.args name ∨ stmt.verb = .display ∧ s.FadesOut name

/-- From one scene to another the name referenced last stays, and only names of one kind go out of
use. -/
structure Sheds (lost : String → Prop) (s u : Scene) : Prop where
  lastName : u.lastName = s.lastName
  kept : ∀ name, s.contains name → lost name ∨ u.contains name

namespace Sheds

variable {lost : String → Prop}

theorem of_names (hlast : u.lastName = s.lastName) (hnames : u.names = s.names) :
    Sheds lost s u where
  lastName := hlast
  kept name hname := .inr (by rwa [contains, hnames])

/-- Nothing has changed but the objects. -/
theorem of_objects (h : u = { s with entities := u.entities }) : Sheds lost s u :=
  of_names (by rw [h]) (by rw [h])

theorem refl (s : Scene) : Sheds lost s s := of_names rfl rfl

theorem mono {lost' : String → Prop} (h : Sheds lost s u) (hlost : ∀ name, lost name → lost' name) :
    Sheds lost' s u where
  lastName := h.lastName
  kept name hname := (h.kept name hname).imp_left (hlost name)

theorem trans (h : Sheds lost s u) (h' : Sheds (fun _ => False) u v) : Sheds lost s v where
  lastName := h'.lastName.trans h.lastName
  kept name hname := (h.kept name hname).imp_right fun hu => (h'.kept name hu).resolve_left id

/-- If the object referenced last has gone, then it had gone before or has just been lost. -/
theorem lastGone (h : Sheds lost s u) (hs : s.Registered) (hu : u.Registered)
    (hgone : u.LastGone) :
    ∃ name, s.lastName = some name ∧ u.lastName = some name ∧
      (name ∉ s.liveNames ∨ lost name) := by
  obtain ⟨name, hlast, hdead⟩ := hgone
  refine ⟨name, h.lastName ▸ hlast, hlast, ?_⟩
  by_contra hkept
  obtain ⟨hlive, hsafe⟩ := not_or.mp hkept
  have hused : s.contains name := (hs.contains_iff_mem name).mpr (not_not.mp hlive)
  exact hdead ((hu.contains_iff_mem name).mp ((h.kept name hused).resolve_left hsafe))

end Sheds

namespace Sound

variable (hs : s.Sound)

include hs

/-- Registering an object puts no name out of use: the object whose name it takes is replaced. -/
theorem sheds_add (e : Entity) : Sheds (fun _ => False) s (s.add e) where
  lastName := by
    rw [add_eq]
    exact vacate_induction (P := fun u => u.lastName = s.lastName)
      (fun {u} id hu => (sameFrame_remove u id).lastName.trans hu) rfl e.name
  kept := by
    intro name hname
    refine .inr ?_
    rw [add_eq, contains, Table.contains, Table.get?_insert]
    split
    · rfl
    · next hother =>
      have hid := hs.registered.id?_vacate e.name name
      rw [if_neg hother] at hid
      exact (congrArg Option.isSome hid).trans hname

/-- A removal of names, wherever it stops, puts no other name out of use. -/
theorem sheds_delete (names : List String) :
    Sheds (· ∈ names) s (s.forEach (fun t n => (t.delete n).map Prod.snd) names).1 := by
  induction names generalizing s with
  | nil => exact .refl s
  | cons first rest ih =>
      rw [forEach]
      split
      · next u hu =>
        have hrest := ih (hs.delete hu)
        cases hid : s.id? first with
        | none =>
            rw [delete_of_id?_none hid] at hu
            cases hu
        | some id =>
            rw [hs.delete_of_id? hid] at hu
            cases hu
            obtain ⟨e, he, rfl⟩ := hs.registered.name_eq hid
            refine ⟨hrest.lastName.trans (sameFrame_remove s id).lastName, ?_⟩
            intro name hname
            by_cases hfirst : name = e.name
            · exact .inl (hfirst ▸ List.mem_cons_self)
            · have hleft : (s.remove id).contains name := by
                have hsame := hs.registered.id?_remove he name
                rw [if_neg hfirst] at hsame
                exact (congrArg Option.isSome hsame).trans hname
              exact (hrest.kept name hleft).imp_left (List.mem_cons_of_mem _)
      · exact .refl s

/-- A number of rounds of a display puts only the names of visible fading objects out of use. -/
theorem sheds_afterRounds (n : Nat) : Sheds s.FadesOut s (s.afterRounds n).1 where
  lastName := by
    have hstable : TickStable fun u => u.lastName = s.lastName :=
      { toStepStable := stepStable_of_objects fun _ _ hu => hu
        countFrame := fun hu => hu }
    exact hstable.afterRounds rfl n
  kept := by
    intro name hname
    obtain ⟨id, hid⟩ := (contains_iff s name).mp hname
    obtain ⟨e, he, rfl⟩ := hs.registered.name_eq hid
    cases hleft : (s.afterRounds n).1.entity? id with
    | none =>
        refine .inl ⟨e, ?_, hs.faded_of_gone he hleft⟩
        rw [get?, hid, Option.bind_some, he]
    | some e' =>
        obtain ⟨old, hold, hsame, -⟩ := hs.eq_of_afterRounds hleft
        cases he.symm.trans hold
        have hafter : (s.afterRounds n).1.Registered :=
          (tickStable_sound.afterRounds hs n).registered
        refine .inr ((contains_iff _ _).mpr ⟨id, (hafter.id?_eq_some_iff _ _).mpr ⟨e', hleft, ?_⟩⟩)
        rw [hsame]
        rfl

/-- The overlay puts no name out of use, if there is an identifier for it. -/
theorem sheds_updateStatus (hcount : s.canCreate 1) :
    Sheds (fun _ => False) s s.updateStatus := by
  have hdrawn : Sheds (fun _ => False) s { s with nextId := s.nextId + 1 } := .of_names rfl rfl
  exact hdrawn.trans ((hs.draw hcount).sheds_add _)

/-- Nor does a display, but for the names of visible fading objects. -/
theorem sheds_display (hcount : s.config.statusOverlay → s.canCreate 1) {limit : Nat}
    {r : Recording} {d : Displayed} (h : s.display limit r = some d) :
    Sheds s.FadesOut s d.scene := by
  obtain ⟨-, hscene⟩ := display_eq_some h
  have hrounds := hs.sheds_afterRounds d.frames
  have hafter : (s.afterRounds d.frames).1.Sound := tickStable_sound.afterRounds hs d.frames
  obtain ⟨hnext, hconfig⟩ :=
    (tickStable_counter s.nextId s.config).afterRounds ⟨rfl, rfl⟩ d.frames
  rw [hscene]
  split
  · next hoverlay =>
    rw [hconfig] at hoverlay
    refine hrounds.trans (hafter.sheds_updateStatus ?_)
    rw [canCreate, hnext]
    exact hcount hoverlay
  · exact hrounds

end Sound

/-- A layout moves objects and does nothing else. -/
theorem sheds_spring (s : Scene) (start finish : Point) (names : List String) (rotation : Angle)
    (engine : LayoutEngine) :
    Sheds (fun _ => False) s (s.spring start finish names rotation engine).1 := by
  have hmoves := moves_spring s start finish names rotation engine
  refine .of_names ?_ hmoves.agree.2
  refine hmoves.induction (P := fun u => u.lastName = s.lastName) ?_ rfl
  intro u v name pos _ hu hmoved
  exact moveTo_induction (P := fun v => v.lastName = s.lastName)
    (fun hu h => (sameFrame_moveId h).lastName.trans hu) hu hmoved

end Scene

/-! ## Statements -/

/-- A removal is of the names that its arguments stand for. -/
theorem Action.expandNames_of_readKill {s : Stage} {args : List String} {names : List String}
    (h : Action.readKill s args = .ok (.kill names)) :
    ∃ named, s.scene.expandNames .noMatch args = .ok named ∧ names = named.eraseDups := by
  unfold readKill at h
  split at h
  · cases h
  · obtain ⟨named, hnamed, hkill⟩ := exists_of_map_eq_ok h
    cases hkill
    exact ⟨named, hnamed, rfl⟩

namespace Session

variable {s s' : Session} {limit : Nat} {stmt : Statement} {fault : Option Fault}

/-- Which names an action can put out of use. A definition is not among the actions, because it
references another name. -/
theorem sheds_perform (hs : s.scene.Sound) {a : Action}
    (hread : Action.read s.stage stmt.verb stmt.args = .ok a) (hdefine : stmt.verb ≠ .define)
    (h : s.perform limit a = some (s', fault)) :
    Scene.Sheds (s.scene.Dismisses stmt) s.scene s'.scene := by
  have hverb : a.verb = stmt.verb := Action.verb_of_read hread
  by_cases hedit : a.verb ∈ Action.editVerbs
  · obtain ⟨step, hstep⟩ := Action.exists_step hedit
    have hperform : s.perform limit a = some (s.each a.targets step) := by
      rw [← Action.perform_onto hstep, Action.onto_targets]
    cases hperform.symm.trans h
    exact .of_objects (hs.edited_forEach hedit hstep a.targets).frame
  · cases a with
    | change c _ => cases c <;> simp [Action.verb, Change.verb, Action.editVerbs] at hedit
    | animate | attach | move | shift | resize => simp [Action.verb, Action.editVerbs] at hedit
    | define => exact absurd hverb.symm hdefine
    | kill names =>
        cases h
        rw [← hverb] at hread
        obtain ⟨named, hnamed, rfl⟩ := Action.expandNames_of_readKill hread
        refine (hs.sheds_delete _).mono fun name hname => .inl ⟨hverb.symm, ?_⟩
        exact (Scene.mem_of_expandNames hnamed name).mp (List.mem_eraseDups.mp hname)
    | display =>
        obtain ⟨t, ht, hpair⟩ := Option.map_eq_some_iff.mp h
        cases hpair
        unfold Session.display at ht
        split at ht
        · cases ht
        · next hcount =>
          obtain ⟨d, hd, rfl⟩ := Option.map_eq_some_iff.mp ht
          refine (hs.sheds_display ?_ hd).mono fun name hfades => .inr ⟨hverb.symm, hfades⟩
          intro hoverlay
          simpa [hoverlay] using hcount
    | spring start finish names rotation tool =>
        cases h
        exact (Scene.sheds_spring ..).mono fun _ hno => hno.elim
    | defineColor | play | wait | sleep =>
        cases h
        exact .refl _

/-- The name that a statement references is in use. -/
theorem remember_cases (s : Session) (stmt : Statement) :
    s.remember stmt = s ∨ ∃ name, s.scene.contains name ∧
      s.remember stmt = { s with scene := s.scene.setLastName name } := by
  unfold remember
  split
  · exact .inl rfl
  · split
    · next hused => exact .inr ⟨_, hused, rfl⟩
    · exact .inl rfl
  · exact .inl rfl

/-- So a name that is not in use has been referenced before. -/
theorem remember_of_lastGone (hs : (s.remember stmt).scene.Registered)
    (hgone : (s.remember stmt).scene.LastGone) : s.remember stmt = s := by
  rcases s.remember_cases stmt with hsame | ⟨name, hused, hname⟩
  · exact hsame
  · rw [hname] at hgone hs
    obtain ⟨last, hlast, hdead⟩ := hgone
    cases hlast
    exact absurd ((hs.contains_iff_mem name).mp hused) hdead

/-- A definition that fails changes nothing. -/
theorem eq_of_define_refused {args : List String} {line : Nat} {f : Fault}
    (h : s.execute limit ⟨.define, args, line⟩ = some (s', some f)) : s' = s := by
  cases hread : Action.readDefine s.stage args with
  | error f' =>
      rw [execute_of_readDefine_error hread] at h
      cases h
      rfl
  | ok a =>
      obtain ⟨token, word, operands, given, kind, b, -, -, -, -, rfl⟩ :=
        Action.readDefine_eq_ok hread
      rw [execute_of_readDefine_ok hread] at h
      split at h <;> cases h

/-- After a definition that succeeds the name referenced last is in use. -/
theorem not_lastGone_of_define (hs : s.scene.Sound) {args : List String} {line : Nat}
    (h : s.execute limit ⟨.define, args, line⟩ = some (s', none)) : ¬ s'.scene.LastGone := by
  obtain ⟨given, b, hread, hcount, rfl⟩ := execute_define_iff.mp h
  obtain ⟨token, word, operands, given', kind, b', -, -, -, hb, hsame⟩ :=
    Action.readDefine_eq_ok hread
  cases hsame
  obtain ⟨options, rest, -, hspells⟩ := Blueprint.spells_of_read hb
  obtain ⟨name, created, -, hnames, -, hregisters, hlabel⟩ :=
    hspells.registers_build hs given hcount
  rintro ⟨last, hlast, hdead⟩
  cases hlast
  -- The name is that of the first object created.
  obtain ⟨e, he, hname⟩ : ∃ e ∈ created, e.name = name := by
    rw [← List.mem_map, hnames]
    exact List.mem_cons_self
  refine hdead ((Scene.mem_liveNames_iff _ _).mpr ⟨e.id, e, hregisters.found e he, ?_⟩)
  exact hname.trans hlabel.symm

/-- The object referenced last has gone after a statement only if it had gone before, or the
statement has dismissed it. -/
theorem lastGone_of_execute (hs : s.scene.Reachable)
    (h : s.execute limit stmt = some (s', fault)) (hgone : s'.scene.LastGone) :
    (stmt.verb = .define → fault ≠ none) ∧
      ∃ name, s.scene.lastName = some name ∧ s'.scene.lastName = some name ∧
        (name ∉ s.scene.liveNames ∨ s.scene.Dismisses stmt name) := by
  obtain ⟨verb, args, line⟩ := stmt
  have hundefined : verb = .define → fault ≠ none := by
    rintro rfl rfl
    exact not_lastGone_of_define hs.sound h hgone
  refine ⟨hundefined, ?_⟩
  have hs' : s'.scene.Registered := (Scene.Reachable.statement hs h).sound.registered
  have hunchanged : s' = s → ∃ name, s.scene.lastName = some name ∧
      s'.scene.lastName = some name ∧
      (name ∉ s.scene.liveNames ∨ s.scene.Dismisses ⟨verb, args, line⟩ name) := by
    rintro rfl
    obtain ⟨name, hlast, hdead⟩ := hgone
    exact ⟨name, hlast, hlast, .inl hdead⟩
  by_cases hverb : verb = .define
  · subst hverb
    obtain ⟨f, rfl⟩ := Option.ne_none_iff_exists'.mp (hundefined rfl)
    exact hunchanged (eq_of_define_refused h)
  · unfold execute at h
    split at h
    · cases h
      exact hunchanged rfl
    · next a hread =>
      obtain ⟨⟨t, refusal⟩, hperform, hend⟩ := Option.map_eq_some_iff.mp h
      have hsheds := sheds_perform hs.sound hread hverb hperform
      cases refusal with
      | none =>
          cases hend
          have hsame := remember_of_lastGone hs' hgone
          rw [hsame] at hs' hgone ⊢
          exact hsheds.lastGone hs.sound.registered hs' hgone
      | some f =>
          cases hend
          exact hsheds.lastGone hs.sound.registered hs' hgone

end Session

namespace Scene.Reachable

/-- An argument that is not a number and has to stand for names in use does so, unless it is two
minus signs and the object referenced last has gone. A definition never leaves it so, whatever it
overwrites; other statements leave it so only if it was so before, or if they remove the object by
its name or display how it fades. -/
theorem expandName_live_iff {s : Session} (hs : s.scene.Reachable) :
    (∀ token names, Number.isNumber token = false →
      s.scene.expandName .existing token = .ok names →
      ((∀ name ∈ names, name ∈ s.scene.liveNames) ↔ ¬ (token = "--" ∧ s.scene.LastGone))) ∧
    ∀ limit stmt s' fault, s.execute limit stmt = some (s', fault) → s'.scene.LastGone →
      (stmt.verb = .define → fault ≠ none) ∧
      ∃ name, s.scene.lastName = some name ∧ s'.scene.lastName = some name ∧
        (name ∉ s.scene.liveNames ∨ s.scene.Dismisses stmt name) := by
  refine ⟨?_, fun limit stmt s' fault h hgone => Session.lastGone_of_execute hs h hgone⟩
  intro token names hnumber h
  by_cases htoken : token = "--"
  · subst htoken
    obtain ⟨name, hlast, rfl⟩ := expandName_last_iff.mp h
    simp [LastGone, hlast]
  · have hlive := hs.sound.registered.mem_liveNames_of_expandName rfl htoken hnumber h
    exact ⟨fun _ hgone => htoken hgone.1, fun _ => hlive⟩

/-- A removal of the box that was referenced last. An expression stands for the other box, and two
minus signs for the one that has gone. -/
theorem expandName_live_drawing : drawing.scene.Reachable ∧ ∃ s',
    drawing.execute 1 ⟨.kill, ["b"], 1⟩ = some (s', none) ∧ s'.scene.Reachable ∧
    s'.scene.LastGone ∧
    (∃ name, drawing.scene.lastName = some name ∧
      (name ∉ drawing.scene.liveNames ∨ drawing.scene.Dismisses ⟨.kill, ["b"], 1⟩ name)) ∧
    s'.scene.expandName .existing "/./" = .ok ["a"] ∧
    (∀ name ∈ ["a"], name ∈ s'.scene.liveNames) ∧
    s'.scene.expandName .existing "--" = .ok ["b"] ∧
    ¬ ∀ name ∈ ["b"], name ∈ s'.scene.liveNames := by
  obtain ⟨s', hexecute⟩ : ∃ s', drawing.execute 1 ⟨.kill, ["b"], 1⟩ = some (s', none) :=
    Session.exists_of_any (by decide +kernel)
  have hreachable : s'.scene.Reachable := .statement reachable_drawing hexecute
  have hleft : (drawing.execute 1 ⟨.kill, ["b"], 1⟩).any (fun r =>
      decide (r.1.scene.lastName = some "b" ∧ "b" ∉ r.1.scene.liveNames) &&
        decide (r.1.scene.expandName .existing "/./" = .ok ["a"]) &&
        decide (r.1.scene.expandName .existing "--" = .ok ["b"])) = true := by
    decide +kernel
  rw [hexecute, Option.any_some, Bool.and_eq_true, Bool.and_eq_true] at hleft
  obtain ⟨⟨hlast, hexpression⟩, hminus⟩ := hleft
  have hgone : s'.scene.LastGone := ⟨"b", of_decide_eq_true hlast⟩
  obtain ⟨hlive, -⟩ := expandName_live_iff hreachable
  have hexpression := of_decide_eq_true hexpression
  have hminus := of_decide_eq_true hminus
  have hcause := ((expandName_live_iff reachable_drawing).2 1 _ s' none hexecute hgone).2
  refine ⟨reachable_drawing, s', hexecute, hreachable, hgone, ?_, hexpression, ?_, hminus, ?_⟩
  · obtain ⟨name, hname, -, hdismissed⟩ := hcause
    exact ⟨name, hname, hdismissed⟩
  · refine (hlive "/./" ["a"] (by decide +kernel) hexpression).mpr fun hminus => ?_
    exact absurd hminus.1 (by decide)
  · intro hall
    exact (hlive "--" ["b"] (by decide +kernel) hminus).mp hall ⟨rfl, hgone⟩

/-- A box that has been removed. -/
def bereft : Scene := afterLine "define a box; kill a"

/-- A box that is as good as invisible and fades. -/
def waning : Session := { drawing with scene := afterLine "define a box; alpha a 0; fade a" }

/-- Two minus signs stand for the box that has been removed, which its own name does not, and for
the one that has faded out in a display. -/
theorem expandName_gone :
    (bereft.Reachable ∧ Number.isNumber "--" = false ∧
      bereft.expandName .existing "--" = .ok ["a"] ∧ "a" ∉ bereft.liveNames ∧
      bereft.expandName .existing "a" = .error (.unknownName "a")) ∧
    ∃ s', waning.execute 2 ⟨.display, [], 1⟩ = some (s', none) ∧ s'.scene.Reachable ∧
      s'.scene.expandName .existing "--" = .ok ["a"] ∧ "a" ∉ s'.scene.liveNames := by
  refine ⟨⟨reachable_afterLine _, by decide +kernel, by decide +kernel, by decide +kernel,
    by decide +kernel⟩, ?_⟩
  obtain ⟨s', hexecute⟩ : ∃ s', waning.execute 2 ⟨.display, [], 1⟩ = some (s', none) :=
    Session.exists_of_any (by decide +kernel)
  have hscene : (afterLine "define a box; alpha a 0; fade a").Reachable := reachable_afterLine _
  have hwaning : waning.scene.Reachable := by
    rw [waning]
    exact hscene
  have hfaded : (waning.execute 2 ⟨.display, [], 1⟩).any (fun r =>
      decide (r.1.scene.expandName .existing "--" = .ok ["a"] ∧ "a" ∉ r.1.scene.liveNames)) =
        true := by
    decide +kernel
  rw [hexecute, Option.any_some] at hfaded
  exact ⟨s', hexecute, .statement hwaning hexecute, of_decide_eq_true hfaded⟩

end Scene.Reachable

end Storyboard
