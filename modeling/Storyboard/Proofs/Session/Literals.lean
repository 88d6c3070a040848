import Storyboard.Proofs.Session.Overwriting
import Storyboard.Proofs.Session.Targets

/-!
# Names of objects as arguments

A name that is given to an object may be anything that an argument says literally, or it is made
of a name that there is already. So no object has a name that stands for something else when it is
an argument: for no object, for the object referenced last, or for whatever an expression matches.

Main results:

- Definition `Scene.Literals`: the names in use, and the one referenced last, stand for themselves.
- Theorem `Session.literals_execute`: no statement brings up another name.
- Theorem `Scene.Reachable.literals`: so it is in every reachable scene.
-/

namespace Storyboard

/-! ## Names that stand for themselves -/

namespace Pattern

/-- A name that stands for itself. -/
def Literal (name : String) : Prop := ofToken name = .literal name

/-- What an argument says literally is the argument. -/
theorem eq_of_ofToken {token name : String} (h : ofToken token = .literal name) :
    name = token ∧ Literal name := by
  have hsame : name = token := by
    unfold ofToken at h
    split at h
    · cases h
    · cases h
    · split at h
      · cases h
      · cases h
        rfl
    · cases h
      rfl
  exact ⟨hsame, by rw [Literal, hsame, h, hsame]⟩

/-- A name that begins like no other pattern stands for itself. -/
theorem literal_of_head {name : String} {c : Char} {rest : List Char}
    (h : name.toList = c :: rest) (hc : c ≠ '-' ∧ c ≠ '/') : Literal name := by
  unfold Literal ofToken
  rw [h]
  split
  · next heq => exact absurd (List.cons.inj heq).1 hc.1
  · next heq => exact absurd (List.cons.inj heq).1 hc.1
  · next heq => exact absurd (List.cons.inj heq).1 hc.2
  · rfl

/-- So does a name that ends like no other pattern. -/
theorem literal_of_getLast {name : String} {c : Char} (h : name.toList.getLast? = some c)
    (hc : c ≠ '-' ∧ c ≠ '/') : Literal name := by
  unfold Literal ofToken
  split
  · next heq =>
    rw [heq] at h
    cases h
    exact absurd rfl hc.1
  · next heq =>
    rw [heq] at h
    cases h
    exact absurd rfl hc.1
  · next rest heq =>
    split
    · next hlast =>
      rw [heq, List.getLast?_cons, hlast] at h
      cases h
      exact absurd rfl hc.2
    · rfl
  · rfl

end Pattern

theorem Entity.literal_autoName (kind : ShapeKind) (id : EntityId) :
    Pattern.Literal (autoName kind id) :=
  have htext : (autoName kind id).toList = '_' :: (kind.name ++ toString id).toList := by
    simp [autoName]
  Pattern.literal_of_head htext (by decide)

/-- The names of arrowheads do not end like other patterns. -/
theorem Options.literal_arrowhead {o : Options} {owner suffix : String}
    (h : suffix ∈ o.arrowheadSuffixes) : Pattern.Literal (owner ++ suffix) := by
  have hcases : suffix = "_head" ∨ suffix = "_tail" := by
    unfold arrowheadSuffixes at h
    split_ifs at h <;> simp_all
  rcases hcases with rfl | rfl
  · exact Pattern.literal_of_getLast (c := 'd') (by simp) (by decide)
  · exact Pattern.literal_of_getLast (c := 'l') (by simp) (by decide)

/-! ## Scenes -/

namespace Scene

variable {s u : Scene}

/-- A name is in use if it leads to an identifier. -/
theorem contains_iff (s : Scene) (name : String) :
    s.contains name ↔ ∃ id, s.id? name = some id :=
  Option.isSome_iff_exists

/-- The names in use are those of the objects. -/
theorem Registered.contains_iff_mem (hs : s.Registered) (name : String) :
    s.contains name ↔ name ∈ s.liveNames := by
  simp only [contains_iff, hs.id?_eq_some_iff, mem_liveNames_iff]

/-- A name in use that stands for itself is the only one that it stands for. -/
theorem expandName_of_contains {name : String} (hname : Pattern.Literal name)
    (hused : s.contains name) (mode : NameMode) : s.expandName mode name = .ok [name] := by
  have hself : Pattern.ofToken name = .literal name := hname
  simp [expandName, hself, acceptsName, hused]

/-- A token gives a name if it is the name, or if it stands for the name referenced last. -/
def Gives (s : Scene) (token name : String) : Prop :=
  Pattern.ofToken token = .literal name ∨ Pattern.ofToken token = .last ∧ s.lastName = some name

/-- A definition creates an object under the name that its token gives. -/
theorem definedName_of_gives {token name : String} (h : s.Gives token name) :
    s.definedName token = .ok (some name) := by
  rcases h with htoken | ⟨htoken, hlast⟩
  · simp [Scene.definedName, htoken, expandName, acceptsName, NameMode.create, bind, Except.bind]
  · simp [Scene.definedName, htoken, expandName, hlast, bind, Except.bind]

/-- Or under one that is in use, which an expression matches. -/
theorem definedName_cases {token name : String} (h : s.definedName token = .ok (some name)) :
    s.Gives token name ∨ name ∈ s.liveNames := by
  unfold Scene.definedName at h
  split at h
  · cases h
  obtain ⟨names, hnames, h⟩ := exists_of_bind_eq_ok h
  split at h
  · next first rest =>
    cases h
    unfold expandName at hnames
    split at hnames
    · cases hnames
    · next htoken =>
      split at hnames
      · next hlast =>
        cases hnames
        exact .inl (.inr ⟨htoken, hlast⟩)
      · cases hnames
    · unfold expandRegex at hnames
      split at hnames
      · cases hnames
      · next r _ =>
        simp only at hnames
        split at hnames
        · cases hnames
        · have hfirst : name ∈ s.matchingNames r := by
            rw [Except.ok.inj hnames]
            exact List.mem_cons_self
          exact .inr (List.mem_filter.mp hfirst).1
    · next literal htoken =>
      split at hnames
      · cases hnames
        exact .inl (.inl htoken)
      · cases hnames
  · cases h

/-- The names in use, and the one referenced last, stand for themselves. -/
structure Literals (s : Scene) : Prop where
  used : ∀ name, s.contains name → Pattern.Literal name
  last : ∀ name ∈ s.lastName, Pattern.Literal name

namespace Literals

theorem empty (config : SceneConfig) : (Scene.empty config).Literals where
  used := by
    intro name hname
    cases hname
  last := by simp [Scene.empty]

/-- No name has come up. -/
theorem of_contains (hs : s.Literals) (hused : ∀ name, u.contains name → s.contains name)
    (hlast : u.lastName = s.lastName) : u.Literals where
  used name hname := hs.used name (hused name hname)
  last := hlast ▸ hs.last

theorem of_names (hs : s.Literals) (hnames : u.names = s.names) (hlast : u.lastName = s.lastName) :
    u.Literals :=
  hs.of_contains (fun name hname => by rwa [contains, ← hnames]) hlast

theorem setLastName (hs : s.Literals) {name : String} (hname : Pattern.Literal name) :
    (s.setLastName name).Literals where
  used := hs.used
  last := by
    intro other hother
    cases hother
    exact hname

theorem update {name : String} {f : Entity → Entity} (hs : s.Literals)
    (h : s.update name f = .ok u) : u.Literals := by
  obtain ⟨id, e, -, -, rfl⟩ := update_eq_ok h
  exact hs.of_names rfl rfl

theorem remove (hs : s.Literals) (id : EntityId) : (s.remove id).Literals := by
  refine hs.of_contains ?_ ?_
  · intro name hname
    unfold Scene.remove at hname
    split at hname
    · exact hname
    · simp only [contains, Table.contains] at hname ⊢
      split at hname
      · rw [Table.get?_erase] at hname
        split at hname
        · cases hname
        · exact hname
      · exact hname
  · rw [sameFrame_remove s id]

/-- Registering an object brings up its name. -/
theorem add (hs : s.Literals) {e : Entity} (hname : Pattern.Literal e.name) :
    (s.add e).Literals := by
  have hvacated : (s.vacate e.name).Literals :=
    vacate_induction (P := Literals) (fun id hs => hs.remove id) hs e.name
  rw [add_eq]
  refine ⟨?_, hvacated.last⟩
  intro name hused
  rw [contains, Table.contains, Table.get?_insert] at hused
  split at hused
  · next hsame => exact hsame ▸ hname
  · exact hvacated.used name hused

theorem create (hs : s.Literals) {name : Option String}
    (hname : ∀ n ∈ name, Pattern.Literal n) (pos : Point) (shape : Shape) (color : ColorSpec)
    (frameColor : Option ColorSpec) : (s.create name pos shape color frameColor).2.Literals ∧
      Pattern.Literal (s.create name pos shape color frameColor).1.name := by
  have hnew : Pattern.Literal (name.getD (Entity.autoName shape.kind (s.nextId + 1))) := by
    cases name with
    | none => exact Entity.literal_autoName _ _
    | some n => exact hname n rfl
  have hdrawn : Literals { s with nextId := s.nextId + 1 } := hs.of_names rfl rfl
  exact ⟨hdrawn.add hnew, hnew⟩

/-- The names of a blueprint that has been read are the given one and those of its arrowheads. -/
theorem build (hs : s.Literals) {name : Option String} (hname : ∀ n ∈ name, Pattern.Literal n)
    {b : Blueprint} {kind : ShapeKind} {o : Options} (hb : b.Spells kind o) :
    (s.build name b).2.Literals ∧ Pattern.Literal (s.build name b).1.name := by
  obtain ⟨hcreated, hnew⟩ := hs.create hname b.pos b.shape b.color b.frameColor
  refine ⟨?_, hnew⟩
  have hsuffixes : ∀ a ∈ b.arrowheads, ∀ owner, Pattern.Literal (owner ++ a.suffix) := by
    intro a ha owner
    apply Options.literal_arrowhead (o := o)
    rw [← hb.2]
    exact List.mem_map_of_mem ha
  have hfold : ∀ (arrowheads : List Arrowhead) (owner : String) (color : ColorSpec) {u : Scene},
      (∀ a ∈ arrowheads, ∀ owner, Pattern.Literal (owner ++ a.suffix)) → u.Literals →
        (arrowheads.foldl (addArrowhead owner color) u).Literals := by
    intro arrowheads owner color u hall hu
    induction arrowheads generalizing u with
    | nil => exact hu
    | cons a rest ih =>
        obtain ⟨ha, hrest⟩ := List.forall_mem_cons.mp hall
        refine ih hrest (hu.create ?_ _ _ _ _).1
        rintro n ⟨⟩
        exact ha owner
  exact hfold b.arrowheads _ _ hsuffixes hcreated

/-- The name that a definition gives stands for itself. -/
theorem definedName (hs : s.Literals) (hregistered : s.Registered) {token name : String}
    (h : s.definedName token = .ok (some name)) : Pattern.Literal name := by
  rcases definedName_cases h with (hgiven | ⟨-, hlast⟩) | hlive
  · exact (Pattern.eq_of_ofToken hgiven).2
  · exact hs.last name hlast
  · exact hs.used name ((hregistered.contains_iff_mem name).mpr hlive)

/-- Nothing but a registration brings up a name. -/
theorem editStable : EditStable Literals where
  halt id hs := hs.of_names rfl rfl
  move id pos hs h := by
    unfold moveId at h
    split at h
    · cases h
      exact hs
    · split at h
      · cases h
      · cases h
        exact hs.of_names rfl rfl
  fade id alpha hs := hs.of_names rfl rfl
  remove id hs := hs.remove id
  countFrame hs := hs.of_names rfl rfl
  change hs h := hs.update h
  animate hs h := by
    unfold Scene.animate at h
    split at h
    · cases h
    · split at h
      · cases h
      · exact hs.update h
  resize hs h := hs.update h
  attach hs h := by
    obtain ⟨id, -, h⟩ := exists_of_bind_eq_ok h
    obtain ⟨parentId, -, h⟩ := exists_of_bind_eq_ok h
    split at h
    · cases h
    · cases h
      exact hs.of_names rfl rfl

end Literals

end Scene

/-! ## Statements -/

namespace Session

variable {s s' : Session} {limit : Nat}

theorem literals_display (hs : s.scene.Literals) (h : s.display limit = some s') :
    s'.scene.Literals := by
  unfold display at h
  split at h
  · cases h
  · obtain ⟨d, hd, rfl⟩ := Option.map_eq_some_iff.mp h
    obtain ⟨-, hscene⟩ := Scene.display_eq_some hd
    have hrest := Scene.Literals.editStable.afterRounds hs d.frames
    simp only [hscene]
    split
    · have hstatus : ∀ n ∈ some Defaults.statusName, Pattern.Literal n := by
        rintro n ⟨⟩
        exact Pattern.literal_of_getLast (c := 's') (by decide) (by decide)
      exact (hrest.create hstatus _ _ (.named Defaults.color) none).1
    · exact hrest

/-- No action brings up a name that does not stand for itself. -/
theorem literals_perform (hs : s.scene.Sound) (hliterals : s.scene.Literals) {verb : Verb}
    {args : List String} {action : Action} {fault : Option Fault}
    (hread : Action.read s.stage verb args = .ok action)
    (h : s.perform limit action = some (s', fault)) : s'.scene.Literals := by
  cases hregisters : action.registers with
  | false => exact perform_induction Scene.Literals.editStable hliterals hregisters h
  | true =>
      cases action with
      | define name blueprint =>
          obtain ⟨token, word, operands, given, kind, b, rfl, hgiven, -, hb, hdefine⟩ :=
            Action.readDefine_eq_ok (Action.readDefine_of_read hread)
          cases hdefine
          obtain ⟨options, rest, -, hspells⟩ := Blueprint.spells_of_read hb
          have hname : ∀ n ∈ name, Pattern.Literal n := by
            rintro n rfl
            exact hliterals.definedName hs.registered hgiven
          obtain ⟨hbuilt, hnew⟩ := hliterals.build hname hspells
          simp only [perform] at h
          split at h
          · cases h
            exact hbuilt.setLastName hnew
          · cases h
      | display =>
          obtain ⟨t, ht, hpair⟩ := Option.map_eq_some_iff.mp h
          cases hpair
          exact literals_display hliterals ht
      | _ => cases hregisters

theorem literals_remember (hs : s.scene.Literals) (stmt : Statement) :
    (s.remember stmt).scene.Literals := by
  unfold remember
  split
  · exact hs
  · split
    · next hused => exact hs.setLastName (hs.used _ hused)
    · exact hs
  · exact hs

/-- No statement does, whether or not it fails. -/
theorem literals_execute (hs : s.scene.Sound) (hliterals : s.scene.Literals) {stmt : Statement}
    {fault : Option Fault} (h : s.execute limit stmt = some (s', fault)) : s'.scene.Literals := by
  unfold execute at h
  split at h
  · cases h
    exact hliterals
  · next action hread =>
    obtain ⟨⟨t, refusal⟩, hperform, hend⟩ := Option.map_eq_some_iff.mp h
    have ht := literals_perform hs hliterals hread hperform
    cases refusal with
    | none =>
        cases hend
        exact literals_remember ht stmt
    | some f =>
        cases hend
        exact ht

end Session

/-- In reachable scenes every name stands for itself. -/
theorem Scene.Reachable.literals {s : Scene} (hs : s.Reachable) : s.Literals := by
  have hexecute : ∀ {limit : Nat} {t t' : Session} {stmt : Statement} {fault : Option Fault},
      t.scene.Sound ∧ t.scene.Literals → t.execute limit stmt = some (t', fault) →
        t'.scene.Sound ∧ t'.scene.Literals := fun ht h =>
    ⟨runStable_sound.execute ht.1 h, Session.literals_execute ht.1 ht.2 h⟩
  have hboth : s.Sound ∧ s.Literals := by
    induction hs with
    | empty config => exact ⟨Sound.empty config, .empty config⟩
    | line _ h ih =>
        exact Session.runLine_induction (P := fun u => u.Sound ∧ u.Literals) hexecute ih h
    | statement _ h ih => exact hexecute ih h
  exact hboth.2

end Storyboard
