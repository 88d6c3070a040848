import Storyboard.Proofs.Session.Removals
import Storyboard.Proofs.Session.Whereabouts

/-!
# Redefinitions

A definition under a name that is taken does what a removal followed by the definition does. The
object that had the name goes at different times: before the operands are read, or after it. So
whatever operands find when the object has gone they have to find while it is there; the converse
fails, since a definition may refer to the object that it replaces.

Main results:

- Theorem `Scene.Sound.foundIn_removeNamed`: what is found after a removal was found before it.
- Theorem `Blueprint.read_of_foundIn`: the operands of a definition are read alike wherever the
  same is found.
- Theorem `Scene.Registered.build_vacate`: an object may be removed before it is replaced.
- Theorem `Scene.Reachable.define_of_kill_define`: a definition is as good as a removal and a
  definition.
-/

namespace Storyboard

/-! ## Readers that answer alike -/

namespace Operands

variable {α β : Type}

/-- Whatever one reader answers is the answer of another one too. -/
def Refines (reader reader' : Operands α) : Prop :=
  ∀ args a rest, reader.read args = (.ok a, rest) → reader'.read args = (.ok a, rest)

theorem Refines.refl (reader : Operands α) : Refines reader reader :=
  fun _ _ _ h => h

theorem Refines.of_eq {reader reader' : Operands α} (h : reader = reader') :
    Refines reader reader' :=
  h ▸ refl reader

/-- A result that does not depend on the arguments. -/
theorem refines_lift {x x' : Except Fault α} (h : ∀ a, x = .ok a → x' = .ok a) :
    Refines (liftM x) (liftM x') := by
  intro args a rest hread
  rw [read_lift] at hread ⊢
  obtain ⟨hx, hrest⟩ := Prod.mk.inj hread
  rw [h a hx, hrest]

/-- One reader after another. -/
theorem Refines.bind {reader reader' : Operands α} {next next' : α → Operands β}
    (hreader : Refines reader reader') (hnext : ∀ a, Refines (next a) (next' a)) :
    Refines (reader >>= next) (reader' >>= next') := by
  intro args b rest h
  rw [read_bind] at h ⊢
  split at h
  · next a left hread =>
    rw [hreader args a left hread]
    exact hnext a left b rest h
  · cases h

/-- The first reader is the same. -/
theorem refines_bind {reader : Operands α} {next next' : α → Operands β}
    (hnext : ∀ a, Refines (next a) (next' a)) : Refines (reader >>= next) (reader >>= next') :=
  (Refines.refl reader).bind hnext

theorem Refines.readAll {reader reader' : Operands α} (h : Refines reader reader')
    {args : List String} {a : α} (hread : reader.readAll args = .ok a) :
    reader'.readAll args = .ok a := by
  have hall : Refines (do let a ← reader; finish; return a)
      (do let a ← reader'; finish; return a) := h.bind fun _ => .refl _
  exact congrArg Prod.fst (hall args a _ (Prod.ext hread rfl))

end Operands

/-! ## What operands find -/

namespace Scene

/-- What operands find in one scene they find in another one too. -/
structure FoundIn (t s : Scene) : Prop where
  config : t.config = s.config
  id? : ∀ {name id}, t.id? name = some id → s.id? name = some id
  position? : ∀ {name pos}, t.position? name = some pos → s.position? name = some pos

variable {s t : Scene} {names : List String}

namespace FoundIn

variable (h : FoundIn t s)

include h

theorem expandPoint : t.expandPoint = s.expandPoint := by
  funext x y
  rw [Scene.expandPoint, Scene.expandPoint, h.config]

theorem contains {name : String} (hname : t.contains name) : s.contains name := by
  obtain ⟨id, hid⟩ := (contains_iff t name).mp hname
  exact (contains_iff s name).mpr ⟨id, h.id? hid⟩

theorem expandObject {token name : String} {pos : Point}
    (hpos : t.expandObject token name = .ok pos) : s.expandObject token name = .ok pos := by
  unfold Scene.expandObject at hpos ⊢
  split at hpos
  · next hname =>
    rw [if_pos (h.contains hname)]
    split at hpos
    · next hfound =>
      rw [h.position? hfound]
      exact hpos
    · cases hpos
  · cases hpos

theorem expandReference {token : String} {pos : Point}
    (hpos : t.expandReference token = .ok pos) : s.expandReference token = .ok pos := by
  unfold Scene.expandReference at hpos ⊢
  split at hpos
  · obtain ⟨base, hbase, rfl⟩ := exists_of_map_eq_ok hpos
    rw [h.expandObject hbase, h.expandPoint]
    rfl
  · exact h.expandObject hpos

theorem pair (dx dy : Float) : (Operands.pair t dx dy).Refines (Operands.pair s dx dy) :=
  .of_eq (by rw [Operands.pair, Operands.pair, h.expandPoint])

theorem position (dx dy : Float) :
    (Operands.position t dx dy).Refines (Operands.position s dx dy) := by
  refine Operands.refines_bind fun first => ?_
  cases first with
  | none => exact .of_eq (by rw [h.expandPoint])
  | some token =>
      simp only
      split
      · exact h.pair dx dy
      · exact Operands.refines_bind fun _ => Operands.refines_lift fun _ => h.expandReference

end FoundIn

/-- A scene whose objects are in another one too, with the same shapes and where they are kept
there. -/
def KeptIn (t s : Scene) : Prop :=
  ∀ id e', t.entity? id = some e' →
    ∃ e, s.entity? id = some e ∧ e.pos = e'.pos ∧ e.shape = e'.shape

namespace KeptIn

variable (h : KeptIn t s)

include h

theorem linkEnds? {source target : EntityId} {ends : Point × Point}
    (hends : t.linkEnds? source target = some ends) : s.linkEnds? source target = some ends := by
  rw [linkEnds?_eq] at hends ⊢
  obtain ⟨a', ha', hends⟩ := Option.bind_eq_some_iff.mp hends
  obtain ⟨b', hb', rfl⟩ := Option.map_eq_some_iff.mp hends
  obtain ⟨a, ha, hapos, -⟩ := h source a' ha'
  obtain ⟨b, hb, hbpos, -⟩ := h target b' hb'
  rw [ha, hb, Option.bind_some, Option.map_some, hapos, hbpos]

theorem positionOf? {id : EntityId} {pos : Point} (hpos : t.positionOf? id = some pos) :
    s.positionOf? id = some pos := by
  unfold Scene.positionOf? at hpos ⊢
  obtain ⟨e', he', hpos⟩ := Option.bind_eq_some_iff.mp hpos
  obtain ⟨e, he, hplace, hshape⟩ := h id e' he'
  refine Option.bind_eq_some_iff.mpr ⟨e, he, ?_⟩
  rw [hplace, hshape]
  cases hkind : e'.shape with
  | link source target stroke =>
      simp only [hkind] at hpos
      obtain ⟨ends, hends, hmiddle⟩ := Option.map_eq_some_iff.mp hpos
      exact Option.map_eq_some_iff.mpr ⟨ends, h.linkEnds? hends, hmiddle⟩
  | _ =>
      simp only [hkind] at hpos
      exact hpos

end KeptIn

namespace Sound

variable (hs : s.Sound)

include hs

theorem keptIn_removeNamed (names : List String) : (s.removeNamed names).KeptIn s := by
  intro id e' he'
  obtain ⟨e, he, -, rfl⟩ := (hs.entity?_removeNamed names id e').mp he'
  exact ⟨e, he, rfl, rfl⟩

/-- What is found after a removal was found before it. -/
theorem foundIn_removeNamed (names : List String) : (s.removeNamed names).FoundIn s where
  config := by
    rw [sameFrame_removeNamed s names]
  id? h := ((hs.id?_removeNamed names _ _).mp h).1
  position? := by
    intro name pos h
    obtain ⟨id, hid, hpos⟩ := Option.bind_eq_some_iff.mp h
    have hbefore := ((hs.id?_removeNamed names name id).mp hid).1
    exact Option.bind_eq_some_iff.mpr ⟨id, hbefore, (hs.keptIn_removeNamed names).positionOf? hpos⟩

end Sound

end Scene

/-! ## Blueprints -/

namespace Blueprint

open Operands

variable {s : Stage} {t : Scene} {options : Options}

/-- The operands of a kind are read alike wherever the same is found. -/
theorem refines_operands (h : t.FoundIn s.scene) (kind : ShapeKind) :
    (operands { s with scene := t } options kind).Refines (operands s options kind) := by
  have hend : ∀ name id, Stage.linkEnd { s with scene := t } name = .ok id →
      s.linkEnd name = .ok id := by
    intro name id hid
    rw [Stage.linkEnd, h.id? (Stage.linkEnd_eq_ok hid)]
  cases kind with
  | bitmap =>
      iterate 2 refine refines_bind fun _ => ?_
      exact (h.position _ _).bind fun _ => .refl _
  | box =>
      refine (h.pair _ _).bind fun _ => refines_bind fun _ => ?_
      exact (h.position _ _).bind fun _ => .refl _
  | ellipse =>
      refine (h.pair _ _).bind fun _ => refines_bind fun _ => ?_
      exact (h.position _ _).bind fun _ => .refl _
  | line =>
      exact (h.position _ _).bind fun _ => (h.position _ _).bind fun _ => .refl _
  | link =>
      iterate 2 refine refines_bind fun _ => ?_
      refine (refines_lift (hend _)).bind fun _ => ?_
      exact (refines_lift (hend _)).bind fun _ => .refl _
  | polygon =>
      iterate 4 refine refines_bind fun _ => ?_
      exact (h.position _ _).bind fun _ => .refl _
  | spline =>
      refine (h.position _ _).bind fun _ => (h.position _ _).bind fun _ => ?_
      exact (h.position _ _).bind fun _ => .refl _
  | text =>
      iterate 3 refine refines_bind fun _ => ?_
      exact (h.position _ _).bind fun _ => .refl _
  | wire =>
      exact (h.position _ _).bind fun _ => (h.position _ _).bind fun _ => .refl _

theorem read_of_foundIn (h : t.FoundIn s.scene) {kind : ShapeKind} {args : List String}
    {b : Blueprint} (hread : read { s with scene := t } kind args = .ok b) :
    read s kind args = .ok b := by
  unfold read at hread ⊢
  split at hread
  · cases hread
  · exact (refines_operands h kind).readAll hread

end Blueprint

/-! ## Names in definitions -/

/-- Two minus signs stand for the object referenced last, and nothing else does. -/
theorem Pattern.ofToken_eq_last_iff (token : String) : ofToken token = .last ↔ token = "--" := by
  constructor
  · intro h
    unfold ofToken at h
    split at h
    · cases h
    · next htoken => exact String.toList_inj.mp htoken
    · split at h <;> cases h
    · cases h
  · rintro rfl
    rfl

namespace Scene

variable {s : Scene} {names : List String} {name token : String}

/-- A name that stands for itself is given by the name, or by two minus signs if it was the one
referenced last. -/
theorem gives_iff (hname : Pattern.Literal name) :
    s.Gives token name ↔ token = name ∨ token = "--" ∧ s.lastName = some name := by
  rw [Gives, Pattern.ofToken_eq_last_iff]
  refine or_congr_left ⟨fun h => (Pattern.eq_of_ofToken h).1.symm, ?_⟩
  rintro rfl
  exact hname

/-- No expression stands for a name whose object has been removed, so a definition has to give the
name itself. -/
theorem Sound.definedName_removeNamed_iff (hs : s.Sound) (hname : name ∈ names) :
    (s.removeNamed names).definedName token = .ok (some name) ↔ s.Gives token name := by
  have hlast : (s.removeNamed names).lastName = s.lastName := by
    rw [sameFrame_removeNamed s names]
  have hgives : (s.removeNamed names).Gives token name ↔ s.Gives token name := by
    rw [Gives, Gives, hlast]
  refine ⟨fun h => ?_, fun h => definedName_of_gives (hgives.mpr h)⟩
  rcases definedName_cases h with hgiven | hlive
  · exact hgives.mp hgiven
  · have hsound : (s.removeNamed names).Sound := hs.foldl_remove _
    have hused := (hsound.registered.contains_iff_mem name).mpr hlive
    exact absurd hname ((hs.contains_removeNamed names name).mp hused).2

end Scene

/-! ## Building in place of an object -/

namespace Scene

variable {s : Scene}

/-- The counter does not matter when a name is vacated. -/
theorem vacate_draw (s : Scene) (id : EntityId) (name : String) :
    Scene.vacate { s with nextId := id } name = { s.vacate name with nextId := id } := by
  simp only [vacate, id?, remove, entity?]
  split
  · split <;> rfl
  · rfl

namespace Registered

variable (hs : s.Registered)

include hs

/-- An object may be removed before another one is registered under its name. -/
theorem add_vacate (e : Entity) : (s.vacate e.name).add e = s.add e := by
  have hfree : (s.vacate e.name).id? e.name = none := by rw [hs.id?_vacate, if_pos rfl]
  have htwice : (s.vacate e.name).vacate e.name = s.vacate e.name := by
    rw [vacate.eq_def (s.vacate e.name), hfree]
  rw [add_eq, add_eq, htwice]

variable {n : Nat} (hcount : s.canCreate (n + 1)) (name : String)

include hcount

theorem create_vacate (pos : Point) (shape : Shape) (color : ColorSpec)
    (frameColor : Option ColorSpec) :
    (s.vacate name).create (some name) pos shape color frameColor =
      s.create (some name) pos shape color frameColor := by
  let e : Entity :=
    { Entity.new (s.nextId + 1) name pos shape with color := color, frameColor := frameColor }
  calc (s.vacate name).create (some name) pos shape color frameColor
    _ = (e, Scene.add { s.vacate name with nextId := s.nextId + 1 } e) := by
      simp only [create, newEntity, nextId_vacate]
      rfl
    _ = (e, Scene.add { s with nextId := s.nextId + 1 } e) := by
      rw [← vacate_draw]
      exact congrArg (Prod.mk e) ((hs.draw hcount).add_vacate e)

theorem build_vacate (b : Blueprint) :
    (s.vacate name).build (some name) b = s.build (some name) b := by
  simp only [build, hs.create_vacate hcount]

end Registered

/-- Removing the object with a name vacates the name. -/
theorem removeNamed_singleton (s : Scene) (name : String) :
    s.removeNamed [name] = s.vacate name := by
  unfold removeNamed vacate
  cases hid : s.id? name <;> simp [hid]

end Scene

/-! ## Statements -/

namespace Session

variable {s s' : Session} {limit line : Nat} {args : List String}

/-- A definition of one name is read alike wherever the same is found. -/
theorem readDefine_of_foundIn {st : Stage} {t : Scene} {token name : String} {b : Blueprint}
    (h : t.FoundIn st.scene) (htoken : st.scene.Gives token name)
    (hread : Action.readDefine { st with scene := t } (token :: args) =
      .ok (.define (some name) b)) :
    Action.readDefine st (token :: args) = .ok (.define (some name) b) := by
  obtain ⟨token', word, operands, given, kind, b', hargs, -, hkind, hb, hdefine⟩ :=
    Action.readDefine_eq_ok hread
  cases hargs
  cases hdefine
  simp [Action.readDefine, Scene.definedName_of_gives htoken, hkind,
    Blueprint.read_of_foundIn h hb, bind, Except.bind]

/-- Removing an object by its name. -/
theorem execute_kill_name (hs : s.scene.Sound) (hliterals : s.scene.Literals) {name : String}
    (hname : s.scene.contains name)
    (h : s.execute limit ⟨.kill, [name], line⟩ = some (s', none)) :
    s' = { s with scene := s.scene.removeNamed [name] } := by
  obtain ⟨-, names, hnames, -, rfl⟩ := (execute_kill_iff hs hliterals).mp h
  simp only [Scene.expandNames, Scene.expandName_of_contains (hliterals.used name hname) hname]
    at hnames
  cases hnames
  rfl

end Session

namespace Scene.Reachable

/-- When an object has been removed by its name and a definition under the name succeeds, then the
definition succeeds without the removal as well and leaves the same session. The definition may
say the name, or refer to it as the one referenced last. -/
theorem define_of_kill_define {s t u : Session} (hs : s.scene.Reachable) {name : String}
    (hlive : s.scene.contains name) {limit line : Nat}
    (hkill : s.execute limit ⟨.kill, [name], line⟩ = some (t, none))
    {limit' line' : Nat} {token : String} {args : List String}
    (hdefine : t.execute limit' ⟨.define, token :: args, line'⟩ = some (u, none))
    (htoken : token = name ∨ token = "--" ∧ s.scene.lastName = some name)
    (limit'' line'' : Nat) :
    s.execute limit'' ⟨.define, token :: args, line''⟩ = some (u, none) := by
  have hgives : s.scene.Gives token name := (gives_iff (hs.literals.used name hlive)).mpr htoken
  cases Session.execute_kill_name hs.sound hs.literals hlive hkill
  obtain ⟨given, b, hread, hcount, rfl⟩ := Session.execute_define_iff.mp hdefine
  -- The definition is one of the name that was removed.
  obtain ⟨token', word, operands, given', kind, b', hargs, hgiven, -, -, hsame⟩ :=
    Action.readDefine_eq_ok hread
  cases hargs
  cases hsame
  have hnamed : (s.scene.removeNamed [name]).definedName token = .ok (some name) :=
    (hs.sound.definedName_removeNamed_iff (List.mem_singleton.mpr rfl)).mpr hgives
  cases hnamed.symm.trans hgiven
  have hnow : Action.readDefine s.stage (token :: word :: operands) = .ok (.define (some name) b) :=
    Session.readDefine_of_foundIn (hs.sound.foundIn_removeNamed [name]) hgives hread
  have hleft : s.scene.canCreate (1 + b.arrowheads.length) := by
    rwa [canCreate, sameFrame_removeNamed s.scene [name]] at hcount
  refine Session.execute_define_iff.mpr ⟨some name, b, hnow, hleft, ?_⟩
  rw [Nat.add_comm] at hleft
  simp only [removeNamed_singleton, hs.sound.registered.build_vacate hleft]

/-- A line from the second box takes the place of the first one, which the second box followed. -/
theorem define_of_kill_define_drawing : drawing.scene.Reachable ∧ drawing.scene.contains "a" ∧
    ∃ t u, drawing.execute 1 ⟨.kill, ["a"], 1⟩ = some (t, none) ∧
      t.execute 1 ⟨.define, ["a", "line", "-h", "b", "3", "4"], 2⟩ = some (u, none) ∧
      drawing.execute 1 ⟨.define, ["a", "line", "-h", "b", "3", "4"], 1⟩ = some (u, none) := by
  have hreachable : drawing.scene.Reachable := reachable_drawing
  have hlive : drawing.scene.contains "a" := by decide +kernel
  have hdone : ((drawing.execute 1 ⟨.kill, ["a"], 1⟩).bind fun r =>
      r.1.execute 1 ⟨.define, ["a", "line", "-h", "b", "3", "4"], 2⟩).any
        (fun r => r.2.isNone) = true := by decide +kernel
  obtain ⟨t, hkill⟩ : ∃ t, drawing.execute 1 ⟨.kill, ["a"], 1⟩ = some (t, none) :=
    Session.exists_of_any (by decide +kernel)
  rw [hkill] at hdone
  obtain ⟨u, hdefine⟩ := Session.exists_of_any hdone
  have hsame := define_of_kill_define hreachable hlive hkill hdefine (.inl rfl) 1 1
  exact ⟨hreachable, hlive, t, u, hkill, hdefine, hsame⟩

/-- A definition may need the object that it replaces, and then it fails after the removal. -/
example : (drawing.execute 1 ⟨.define, ["a", "link", "a", "b"], 1⟩).any (fun r => r.2.isNone) ∧
    ((drawing.execute 1 ⟨.kill, ["a"], 1⟩).bind fun r =>
      r.1.execute 1 ⟨.define, ["a", "link", "a", "b"], 2⟩).any (fun r => r.2.isSome) := by
  decide +kernel

end Scene.Reachable

end Storyboard
