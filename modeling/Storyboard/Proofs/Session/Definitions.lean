import Storyboard.Proofs.Scene.Building
import Storyboard.Proofs.Script.Options
import Storyboard.Proofs.Session.Reachable

/-!
# Definitions

A definition either fails and leaves the session as it was, or registers exactly the object that
was asked for and its arrowheads. Which arrowheads there are follows from the options alone:
letters are accepted as the kind of the shape allows, and only lines, splines and wires allow
those of arrowheads.

Main results:

- Theorem `Options.usage?_of_has`: only letters of the template are read.
- Theorem `Blueprint.spells_of_read`: what every blueprint has in common that is read from arguments.
- Theorem `Scene.Reachable.define_all_or_nothing`: a definition does nothing if it fails, and
  nothing but what was asked for if it does not.
-/

namespace Storyboard

/-! ## Options -/

namespace Options

/-- The names that the arrowheads add which options ask for, in order. -/
def arrowheadSuffixes (o : Options) : List String :=
  (if o.has 'h' then ["_head"] else []) ++ (if o.has 't' then ["_tail"] else [])

/-- Options whose letters are all in a template. -/
def Within (template : List Char) (o : Options) : Prop :=
  ∀ flag, o.has flag → (usage? flag template).isSome

variable {template : List Char} {o o' : Options}

/-- No two arrowheads have one name, and none has the name of its line. -/
theorem nodup_arrowheadSuffixes (o : Options) : ("" :: o.arrowheadSuffixes).Nodup := by
  unfold arrowheadSuffixes
  split_ifs <;> decide

theorem length_arrowheadSuffixes_le (o : Options) : o.arrowheadSuffixes.length ≤ 2 := by
  unfold arrowheadSuffixes
  split_ifs <;> decide

theorem Within.insert {flag : Char} {value : OptionValue} (ho : o.Within template)
    (hflag : (usage? flag template).isSome) : Within template (o.insert flag value) := by
  intro c hc
  rw [has, Table.contains, Table.get?_insert] at hc
  split at hc
  · next hsame => exact hsame ▸ hflag
  · exact ho c hc

/-- The letters of a token are in the template, also the one that waits for its value. -/
theorem Within.readBundle {body : List Char} {waiting : Option Char} (ho : o.Within template)
    (h : readBundle template o body = .ok (o', waiting)) :
    o'.Within template ∧ ∀ flag ∈ waiting, (usage? flag template).isSome := by
  induction body generalizing o with
  | nil =>
      cases h
      exact ⟨ho, by simp⟩
  | cons flag rest ih =>
      unfold Options.readBundle at h
      split at h
      · next husage => exact ih (ho.insert (by simp [husage])) h
      · next husage =>
        split at h
        · cases h
          exact ⟨ho, by simp [husage]⟩
        · cases h
          exact ⟨ho.insert (by simp [husage]), by simp⟩
      · cases h

theorem Within.readFrom {waiting : Option Char} {args rest : List String}
    (ho : o.Within template) (hwaiting : ∀ flag ∈ waiting, (usage? flag template).isSome)
    (h : readFrom template o waiting args = .ok (o', rest)) : o'.Within template := by
  induction args generalizing o waiting with
  | nil =>
      cases waiting with
      | none =>
          cases h
          exact ho
      | some flag => cases h
  | cons token args ih =>
      cases waiting with
      | some flag => exact ih (ho.insert (hwaiting flag rfl)) (by simp) h
      | none =>
          unfold Options.readFrom at h
          split at h
          · cases h
            exact ho
          · split at h
            · cases h
            · next hbundle =>
              obtain ⟨ho', hwaiting'⟩ := ho.readBundle hbundle
              exact ih ho' hwaiting' h

/-- Only letters of the template are read. -/
theorem usage?_of_has {template : String} {args rest : List String} {flag : Char}
    (h : read template args = .ok (o, rest)) (hflag : o.has flag) :
    (usage? flag template.toList).isSome := by
  have hempty : Within template.toList Table.empty := by
    intro c hc
    cases hc
  exact hempty.readFrom (by simp) h flag hflag

/-- The letters of an option are refused if the template has none. -/
theorem read_of_no_template {token : String} {rest : List String} {body : List Char}
    (hbody : body? token = some body) :
    ∃ flag, read "" (token :: rest) = .error (.unknown flag) := by
  have hread : read "" (token :: rest) = _ := readFrom_cons hbody
  unfold body? at hbody
  split at hbody
  · next c letters _ =>
    split at hbody
    · cases hbody
      exact ⟨c, hread⟩
    · cases hbody
  · cases hbody

end Options

/-! ## Blueprints -/

namespace Blueprint

open Operands

variable {options : Options}

theorem suffix_arrowheadsOf (options : Options) (stroke : Float)
    (start finish beforeFinish beforeStart : Point) :
    (arrowheadsOf options stroke start finish beforeFinish beforeStart).map Arrowhead.suffix =
      options.arrowheadSuffixes := by
  unfold arrowheadsOf Options.arrowheadSuffixes
  split_ifs <;> rfl

/-- The blueprint of a shape of a kind, with the arrowheads that options ask for. -/
def Spells (kind : ShapeKind) (options : Options) (b : Blueprint) : Prop :=
  b.shape.kind = kind ∧ b.arrowheads.map Arrowhead.suffix = options.arrowheadSuffixes

/-- The operands of a kind spell an object of that kind. -/
theorem yields_operands (s : Stage) {kind : ShapeKind}
    (hwithin : options.Within kind.optionTemplate.toList) :
    (operands s options kind).Yields (Spells kind options) := by
  -- Kinds whose templates do not have the letters of arrowheads have no arrowheads.
  have hbare : (Options.usage? 'h' kind.optionTemplate.toList).isSome = false →
      (Options.usage? 't' kind.optionTemplate.toList).isSome = false →
      [] = options.arrowheadSuffixes := by
    intro hhead htail
    have hh : options.has 'h' = false := by
      by_contra hgiven
      rw [hwithin 'h' (by simpa using hgiven)] at hhead
      cases hhead
    have ht : options.has 't' = false := by
      by_contra hgiven
      rw [hwithin 't' (by simpa using hgiven)] at htail
      cases htail
    rw [Options.arrowheadSuffixes, hh, ht]
    rfl
  cases kind with
  | bitmap =>
      iterate 3 refine yields_bind fun _ => ?_
      exact yields_pure ⟨rfl, hbare rfl rfl⟩
  | box =>
      iterate 4 refine yields_bind fun _ => ?_
      exact yields_pure ⟨rfl, hbare rfl rfl⟩
  | ellipse =>
      iterate 4 refine yields_bind fun _ => ?_
      exact yields_pure ⟨rfl, hbare rfl rfl⟩
  | line =>
      iterate 4 refine yields_bind fun _ => ?_
      exact yields_pure ⟨rfl, suffix_arrowheadsOf ..⟩
  | link =>
      iterate 6 refine yields_bind fun _ => ?_
      exact yields_pure ⟨rfl, hbare rfl rfl⟩
  | polygon =>
      iterate 7 refine yields_bind fun _ => ?_
      exact yields_pure ⟨rfl, hbare rfl rfl⟩
  | spline =>
      iterate 5 refine yields_bind fun _ => ?_
      exact yields_pure ⟨rfl, suffix_arrowheadsOf ..⟩
  | text =>
      iterate 4 refine yields_bind fun _ => ?_
      exact yields_pure ⟨rfl, hbare rfl rfl⟩
  | wire =>
      iterate 4 refine yields_bind fun _ => ?_
      exact yields_pure ⟨rfl, suffix_arrowheadsOf ..⟩

/-- The arguments after the kind spell an object of that kind. -/
theorem spells_of_read {s : Stage} {kind : ShapeKind} {args : List String} {b : Blueprint}
    (h : read s kind args = .ok b) :
    ∃ options rest, Options.read kind.optionTemplate args = .ok (options, rest) ∧
      b.Spells kind options := by
  unfold read at h
  split at h
  · cases h
  · next options rest hoptions =>
    have hwithin : options.Within kind.optionTemplate.toList :=
      fun _ hflag => Options.usage?_of_has hoptions hflag
    exact ⟨options, rest, hoptions, (yields_operands s hwithin).of_readAll h⟩

/-- Three identifiers are enough for a blueprint that has been read. -/
theorem Spells.canCreate {s : Scene} {kind : ShapeKind} {b : Blueprint} (hb : b.Spells kind options)
    (hcount : s.canCreate 3) : s.canCreate (1 + b.arrowheads.length) := by
  have hfew := options.length_arrowheadSuffixes_le
  rw [← hb.2, List.length_map] at hfew
  simp only [Scene.canCreate, decide_eq_true_eq] at hcount ⊢
  omega

/-- Building a blueprint that has been read registers the objects that were asked for. -/
theorem Spells.registers_build {s : Scene} {kind : ShapeKind} {b : Blueprint}
    (hb : b.Spells kind options) (hs : s.Sound) (given : Option String)
    (hcount : s.canCreate (1 + b.arrowheads.length)) :
    ∃ name created, name = given.getD (Entity.autoName kind (s.nextId + 1)) ∧
      created.map Entity.name = name :: options.arrowheadSuffixes.map (name ++ ·) ∧
      created.map Entity.kind = kind :: options.arrowheadSuffixes.map (fun _ => .polygon) ∧
      s.Registers created (s.build given b).2 ∧ (s.build given b).1.name = name := by
  obtain ⟨hshape, hsuffixes⟩ := hb
  obtain ⟨more, hregisters, hnames, hshapes⟩ := hs.registers_build given hcount
    (hsuffixes ▸ options.nodup_arrowheadSuffixes)
  refine ⟨_, _, ?_, ?_, ?_, hregisters, rfl⟩
  · rw [← hshape]
    rfl
  · rw [List.map_cons, hnames, ← hsuffixes, List.map_map]
    rfl
  · have hkinds := congrArg (List.map Shape.kind) hshapes
    rw [List.map_map, List.map_map] at hkinds
    rw [← hsuffixes, List.map_map, ← hshape]
    exact congrArg (List.cons _) hkinds

end Blueprint

/-! ## Statements -/

namespace Session

variable {s : Session} {args : List String}

/-- A definition that cannot be read does nothing. -/
theorem execute_of_readDefine_error {f : Fault} (h : Action.readDefine s.stage args = .error f)
    (limit line : Nat) : s.execute limit ⟨.define, args, line⟩ = some (s, some f) := by
  simp only [execute, Action.read, h]

/-- A definition that has been read is built, if there are identifiers for its objects. -/
theorem execute_of_readDefine_ok {given : Option String} {b : Blueprint}
    (h : Action.readDefine s.stage args = .ok (.define given b)) (limit line : Nat) :
    s.execute limit ⟨.define, args, line⟩ =
      if s.scene.canCreate (1 + b.arrowheads.length) then
        let built := s.scene.build given b
        some ({ s with scene := built.2.setLastName built.1.name }, none)
      else none := by
  simp only [execute, Action.read, h, perform]
  split <;> rfl

end Session

namespace Scene.Reachable

/-- A definition that fails leaves the session as it was. One that does not registers an object
of the kind and the name that were asked for, and after it a polygon for each arrowhead that
was asked for, and does nothing else but remember the name. It has a result unless the counter
runs out of identifiers. -/
theorem define_all_or_nothing {s : Session} (hs : s.scene.Reachable) (limit line : Nat)
    (args : List String) :
    (s.scene.canCreate 3 → ∃ result, s.execute limit ⟨.define, args, line⟩ = some result) ∧
    (∀ s' f, s.execute limit ⟨.define, args, line⟩ = some (s', some f) → s' = s) ∧
    ∀ s', s.execute limit ⟨.define, args, line⟩ = some (s', none) →
      ∃ token word operands given kind options rest,
        (args = token :: word :: operands ∧ s.scene.definedName token = .ok given ∧
          ShapeKind.ofWord? word.toList = some kind ∧
          Options.read kind.optionTemplate operands = .ok (options, rest)) ∧
        ∃ name created,
          name = given.getD (Entity.autoName kind (s.scene.nextId + 1)) ∧
          created.map Entity.name = name :: options.arrowheadSuffixes.map (name ++ ·) ∧
          created.map Entity.kind = kind :: options.arrowheadSuffixes.map (fun _ => .polygon) ∧
          s.scene.Registers created s'.scene ∧ s'.scene.lastName = some name ∧
          s' = { s with scene := s'.scene } := by
  cases hread : Action.readDefine s.stage args with
  | error f =>
      have hfailed := Session.execute_of_readDefine_error hread limit line
      refine ⟨fun _ => ⟨_, hfailed⟩, ?_, ?_⟩
      · intro s' f' h
        rw [hfailed] at h
        cases h
        rfl
      · intro s' h
        rw [hfailed] at h
        cases h
  | ok action =>
      obtain ⟨token, word, operands, given, kind, b, rfl, hgiven, hkind, hb, rfl⟩ :=
        Action.readDefine_eq_ok hread
      obtain ⟨options, rest, hoptions, hspells⟩ := Blueprint.spells_of_read hb
      rw [Session.execute_of_readDefine_ok hread]
      refine ⟨fun hcount => ⟨_, if_pos (hspells.canCreate hcount)⟩, ?_, ?_⟩
      · intro s' f h
        split at h <;> cases h
      · intro s' h
        split at h
        · next hcount =>
          cases h
          obtain ⟨name, created, hname, hnames, hkinds, hregisters, hlabel⟩ :=
            hspells.registers_build hs.sound given hcount
          exact ⟨token, word, operands, given, kind, options, rest,
            ⟨rfl, hgiven, hkind, hoptions⟩, name, created, hname, hnames, hkinds,
            hregisters.setLastName _, congrArg some hlabel, rfl⟩
        · cases h

/-- A session whose scene holds two boxes, the second of which follows the first. -/
def drawing : Session :=
  { Session.new default ⟨fun _ => false, fun _ => none⟩ with
    scene := followed
    palette := Palette.empty.define Defaults.color ⟨255, 255, 255, 255⟩ }

theorem reachable_drawing : drawing.scene.Reachable := by
  have hfollowed : followed.Reachable := reachable_afterLine _
  rw [drawing]
  exact hfollowed

/-- A line with two arrowheads takes the place of the first box. -/
theorem define_drawing : drawing.scene.Reachable ∧ ∃ s' created,
    drawing.execute 1 ⟨.define, ["a", "line", "-ht", "0", "0", "3", "4"], 1⟩ = some (s', none) ∧
    drawing.scene.Registers created s'.scene ∧ s'.scene.lastName = some "a" ∧
    s'.scene.entity? 1 = none := by
  have hfollowed : followed.Reachable := reachable_afterLine _
  have hreachable : drawing.scene.Reachable := by
    rw [drawing]
    exact hfollowed
  refine ⟨hreachable, ?_⟩
  have hdone : (drawing.execute 1 ⟨.define, ["a", "line", "-ht", "0", "0", "3", "4"], 1⟩).any
      (fun r => r.2.isNone) = true := by decide +kernel
  rcases hexecute : drawing.execute 1 ⟨.define, ["a", "line", "-ht", "0", "0", "3", "4"], 1⟩ with
    _ | ⟨s', _ | f⟩
  · rw [hexecute] at hdone
    cases hdone
  · obtain ⟨token, word, operands, given, kind, options, rest, ⟨hargs, hgiven, -, -⟩, name, created,
      hname, hnames, -, hregisters, hlast, -⟩ :=
      (define_all_or_nothing hreachable 1 1 _).2.2 s' hexecute
    cases hargs
    have hcalled : drawing.scene.definedName "a" = .ok (some "a") := by decide +kernel
    rw [hcalled] at hgiven
    cases hgiven
    rw [Option.getD_some] at hname
    subst hname
    obtain ⟨a, ha, hlabel⟩ : ∃ a, drawing.scene.entity? 1 = some a ∧ a.name = "a" :=
      Option.map_eq_some_iff.mp (by decide +kernel)
    refine ⟨s', created, rfl, hregisters, hlast, ?_⟩
    rw [hregisters.kept 1 a ha, hlabel, hnames]
    exact if_pos (List.mem_cons_self ..)
  · rw [hexecute] at hdone
    cases hdone

end Scene.Reachable

end Storyboard
