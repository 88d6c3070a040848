import Storyboard.Proofs.Session.Literals

/-!
# Removals

The arguments of a removal are read before anything is removed, and a name that several of them
stand for is removed once. So what a removal leaves depends on the names only and not on the order
or the number of the arguments: the objects that have none of the names, each without its ties to
those that have gone.

Main results:

- Theorem `Scene.mem_of_expandNames`: the names that a list of arguments stands for.
- Theorem `Scene.Sound.foldl_remove_congr`: the order of removals does not matter.
- Theorem `Session.execute_kill_iff`: when a removal succeeds, and what it leaves.
- Theorem `Scene.Reachable.kill_removes_named`: a removal takes away what it names.
-/

namespace Storyboard

namespace Scene

variable {s u : Scene} {mode : NameMode} {args : List String}

/-! ## The names of a list of arguments -/

/-- One of the arguments stands for a name. -/
def NamedBy (s : Scene) (mode : NameMode) (args : List String) (name : String) : Prop :=
  ∃ token ∈ args, ∃ names, s.expandName mode token = .ok names ∧ name ∈ names

/-- A list of arguments stands for what its arguments stand for. -/
theorem mem_of_expandNames {names : List String} (h : s.expandNames mode args = .ok names)
    (name : String) : name ∈ names ↔ s.NamedBy mode args name := by
  induction args generalizing names with
  | nil =>
      cases h
      simp [NamedBy]
  | cons token rest ih =>
      unfold expandNames at h
      obtain ⟨first, hfirst, h⟩ := exists_of_bind_eq_ok h
      obtain ⟨others, hothers, h⟩ := exists_of_bind_eq_ok h
      cases h
      have hrest := ih hothers
      simp [NamedBy, hfirst] at hrest ⊢
      rw [hrest]

/-- A list of arguments can be read if each of them can. -/
theorem expandNames_isOk_iff : (∃ names, s.expandNames mode args = .ok names) ↔
    ∀ token ∈ args, ∃ names, s.expandName mode token = .ok names := by
  induction args with
  | nil => simp [expandNames]
  | cons token rest ih =>
      rw [List.forall_mem_cons, ← ih]
      constructor
      · rintro ⟨names, h⟩
        unfold expandNames at h
        obtain ⟨first, hfirst, h⟩ := exists_of_bind_eq_ok h
        obtain ⟨others, hothers, h⟩ := exists_of_bind_eq_ok h
        exact ⟨⟨first, hfirst⟩, others, hothers⟩
      · rintro ⟨⟨first, hfirst⟩, others, hothers⟩
        exact ⟨first ++ others, by simp [expandNames, hfirst, hothers, bind, Except.bind]⟩

/-! ## Removing one object after another -/

/-- Removals change nothing but the objects and the index of their names. -/
theorem sameFrame_foldl_remove (s : Scene) (gone : List EntityId) :
    SameFrame s (gone.foldl remove s) := by
  induction gone generalizing s with
  | nil => exact .refl s
  | cons id gone ih => exact (sameFrame_remove s id).trans (ih (s.remove id))

theorem Sound.foldl_remove (hs : s.Sound) (gone : List EntityId) :
    (gone.foldl Scene.remove s).Sound := by
  induction gone generalizing s with
  | nil => exact hs
  | cons id gone ih => exact ih (hs.remove id)

/-- The names of the objects that are left lead to them. -/
theorem Sound.id?_foldl_remove (hs : s.Sound) (gone : List EntityId) (name : String)
    (id : EntityId) :
    (gone.foldl Scene.remove s).id? name = some id ↔ s.id? name = some id ∧ id ∉ gone := by
  rw [(hs.foldl_remove gone).registered.id?_eq_some_iff, hs.registered.id?_eq_some_iff,
    entity?_foldl_remove hs.objects.forest]
  by_cases hid : id ∈ gone
  · simp [hid]
  · simp only [hid, if_false, Option.map_eq_some_iff, not_false_eq_true, and_true]
    constructor
    · rintro ⟨e', ⟨e, he, rfl⟩, hname⟩
      exact ⟨e, he, hname⟩
    · rintro ⟨e, he, hname⟩
      exact ⟨_, ⟨e, he, rfl⟩, hname⟩

/-- What is left does not depend on the order in which the others are removed. -/
theorem Sound.foldl_remove_congr (hs : s.Sound) {gone gone' : List EntityId}
    (h : ∀ id, id ∈ gone ↔ id ∈ gone') :
    gone.foldl Scene.remove s = gone'.foldl Scene.remove s := by
  have hentities :
      (gone.foldl Scene.remove s).entities = (gone'.foldl Scene.remove s).entities := by
    apply Table.ext_get?
    intro id
    have hleft := entity?_foldl_remove hs.objects.forest gone id
    have hright := entity?_foldl_remove hs.objects.forest gone' id
    simp only [h] at hleft
    exact hleft.trans hright.symm
  have hnames : (gone.foldl Scene.remove s).names = (gone'.foldl Scene.remove s).names := by
    apply Table.ext_get?
    intro name
    apply Option.ext
    intro id
    have hleft := hs.id?_foldl_remove gone name id
    have hright := hs.id?_foldl_remove gone' name id
    rw [h] at hleft
    exact hleft.trans hright.symm
  rw [sameFrame_foldl_remove s gone, sameFrame_foldl_remove s gone', hentities, hnames]

/-- What is left when the objects that have some names are removed. -/
def removeNamed (s : Scene) (names : List String) : Scene :=
  (names.filterMap s.id?).foldl remove s

theorem sameFrame_removeNamed (s : Scene) (names : List String) :
    SameFrame s (s.removeNamed names) :=
  sameFrame_foldl_remove s _

/-- The objects with some names are those that the names lead to. -/
theorem Registered.mem_filterMap_id? (hs : s.Registered) {id : EntityId} {e : Entity}
    (he : s.entity? id = some e) (names : List String) :
    id ∈ names.filterMap s.id? ↔ e.name ∈ names := by
  rw [List.mem_filterMap]
  constructor
  · rintro ⟨name, hname, hid⟩
    obtain ⟨e', he', rfl⟩ := hs.name_eq hid
    rw [he] at he'
    cases he'
    exact hname
  · intro hname
    exact ⟨e.name, hname, hs.id?_name he⟩

namespace Sound

variable (hs : s.Sound) {names names' : List String}

include hs

theorem removeNamed_congr (h : ∀ name, name ∈ names ↔ name ∈ names') :
    s.removeNamed names = s.removeNamed names' := by
  apply hs.foldl_remove_congr
  intro id
  simp only [List.mem_filterMap, h]

/-- The objects that are left have none of the names, and they have lost the ties to the others. -/
theorem entity?_removeNamed (names : List String) (id : EntityId) (e' : Entity) :
    (s.removeNamed names).entity? id = some e' ↔
      ∃ e, s.entity? id = some e ∧ e.name ∉ names ∧
        e' = e.among (s.removeNamed names).isLive := by
  unfold Scene.removeNamed
  rw [entity?_foldl_remove hs.objects.forest]
  constructor
  · intro h
    split at h
    · cases h
    · next hid =>
      obtain ⟨e, he, rfl⟩ := Option.map_eq_some_iff.mp h
      refine ⟨e, he, ?_, (among_isLive_of_foldl_remove hs.objects.forest he _).symm⟩
      rwa [← hs.registered.mem_filterMap_id? he]
  · rintro ⟨e, he, hname, rfl⟩
    rw [if_neg ((hs.registered.mem_filterMap_id? he names).not.mpr hname), he, Option.map_some,
      among_isLive_of_foldl_remove hs.objects.forest he]

/-- The other names lead to the objects that they led to before. -/
theorem id?_removeNamed (names : List String) (name : String) (id : EntityId) :
    (s.removeNamed names).id? name = some id ↔ s.id? name = some id ∧ name ∉ names := by
  unfold Scene.removeNamed
  rw [hs.id?_foldl_remove]
  refine and_congr_right fun hid => ?_
  obtain ⟨e, he, rfl⟩ := hs.registered.name_eq hid
  rw [hs.registered.mem_filterMap_id? he]

theorem contains_removeNamed (names : List String) (name : String) :
    (s.removeNamed names).contains name ↔ s.contains name ∧ name ∉ names := by
  simp only [contains_iff, hs.id?_removeNamed, exists_and_right]

/-- A name that is in use can be removed. -/
theorem delete_of_id? {name : String} {id : EntityId} (h : s.id? name = some id) :
    (s.delete name).map Prod.snd = .ok (s.remove id) := by
  obtain ⟨e, he⟩ := hs.registered.entity_of_id? h
  simp only [Scene.delete, h, he]
  rfl

omit hs in
theorem delete_of_id?_none {name : String} (h : s.id? name = none) :
    (s.delete name).map Prod.snd = .error (.unknownObject name) := by
  simp only [Scene.delete, h]
  rfl

/-- A list of names can be removed one after the other if all of them are in use. -/
theorem forEach_delete_iff (hnodup : names.Nodup) :
    s.forEach (fun t n => (t.delete n).map Prod.snd) names = (u, none) ↔
      (∀ name ∈ names, s.contains name) ∧ u = s.removeNamed names := by
  induction names generalizing s with
  | nil => simpa [forEach, Scene.removeNamed] using eq_comm
  | cons name rest ih =>
      obtain ⟨hname, hrest⟩ := List.nodup_cons.mp hnodup
      rw [List.forall_mem_cons]
      cases hid : s.id? name with
      | none =>
          have hfree : ¬ s.contains name := by simp [contains_iff, hid]
          simp [forEach, delete_of_id?_none hid, hfree]
      | some id =>
          have hused : s.contains name := (contains_iff s name).mpr ⟨id, hid⟩
          -- The other names lead to the objects that they led to before.
          obtain ⟨e, he, rfl⟩ := hs.registered.name_eq hid
          have hothers : ∀ n ∈ rest, (s.remove id).id? n = s.id? n := by
            intro n hn
            rw [hs.registered.id?_remove he, if_neg]
            rintro rfl
            exact hname hn
          have hcontains : ∀ n ∈ rest, (s.remove id).contains n = s.contains n := by
            intro n hn
            exact congrArg Option.isSome (hothers n hn)
          have hleft : (s.remove id).removeNamed rest = s.removeNamed (e.name :: rest) := by
            simp only [Scene.removeNamed, List.filterMap_congr hothers,
              List.filterMap_cons_some hid, List.foldl_cons]
          rw [forEach, hs.delete_of_id? hid]
          simp only [hused, true_and]
          rw [ih (hs.remove id) hrest, hleft]
          refine and_congr_left fun _ => forall₂_congr fun n hn => ?_
          rw [hcontains n hn]

end Sound

end Scene

/-! ## Statements -/

namespace Session

variable {s s' : Session} {limit line : Nat} {args : List String}

/-- Names can be removed if all of them are in use. -/
theorem perform_kill_iff (hs : s.scene.Sound) (names : List String) :
    s.perform limit (.kill names.eraseDups) = some (s', none) ↔
      (∀ name ∈ names, s.scene.contains name) ∧
        s' = { s with scene := s.scene.removeNamed names } := by
  have hsame : s.scene.removeNamed names.eraseDups = s.scene.removeNamed names :=
    hs.removeNamed_congr fun name => List.mem_eraseDups
  have hall : (∀ name ∈ names.eraseDups, s.scene.contains name) ↔
      ∀ name ∈ names, s.scene.contains name := by
    simp only [List.mem_eraseDups]
  have hremoved := hs.forEach_delete_iff (u := s'.scene) (nodup_eraseDups names)
  rw [hsame, hall] at hremoved
  simp only [perform, each, withScene]
  generalize s.scene.forEach (fun t n => (t.delete n).map Prod.snd) names.eraseDups = result
    at hremoved
  obtain ⟨scene, refusal⟩ := result
  simp only [Option.some.injEq, Prod.mk.injEq, Option.map_eq_none_iff] at hremoved ⊢
  constructor
  · rintro ⟨rfl, rfl⟩
    obtain ⟨hused, hscene⟩ := hremoved.mp ⟨rfl, rfl⟩
    exact ⟨hused, by rw [← hscene]⟩
  · rintro ⟨hused, rfl⟩
    obtain ⟨rfl, rfl⟩ := hremoved.mpr ⟨hused, rfl⟩
    exact ⟨rfl, rfl⟩

/-- After a removal its first argument is the name of no object. -/
theorem remember_kill (hs : s.scene.Sound) (hliterals : s.scene.Literals) {names : List String}
    (hnames : s.scene.expandNames .noMatch args = .ok names) :
    remember { s with scene := s.scene.removeNamed names } ⟨.kill, args, line⟩ =
      { s with scene := s.scene.removeNamed names } := by
  cases args with
  | nil => rfl
  | cons first rest =>
      refine if_neg fun hused => ?_
      obtain ⟨hbefore, hleft⟩ := (hs.contains_removeNamed names first).mp hused
      have hexpand : s.scene.expandName .noMatch first = .ok [first] :=
        Scene.expandName_of_contains (hliterals.used first hbefore) hbefore _
      apply hleft
      rw [Scene.mem_of_expandNames hnames]
      exact ⟨first, List.mem_cons_self, [first], hexpand, List.mem_cons_self⟩

/-- A removal succeeds if there are arguments, all of them can be read, and all their names are in
use. -/
theorem execute_kill_iff (hs : s.scene.Sound) (hliterals : s.scene.Literals) :
    s.execute limit ⟨.kill, args, line⟩ = some (s', none) ↔
      args ≠ [] ∧ ∃ names, s.scene.expandNames .noMatch args = .ok names ∧
        (∀ name ∈ names, s.scene.contains name) ∧
        s' = { s with scene := s.scene.removeNamed names } := by
  have hread : Action.read s.stage .kill args =
      if args.isEmpty then .error (.missing "object name")
      else (s.scene.expandNames .noMatch args).map fun names => .kill names.eraseDups := rfl
  unfold execute
  simp only [hread]
  cases hargs : args.isEmpty with
  | true => simp [List.isEmpty_iff.mp hargs]
  | false =>
      have hne : args ≠ [] := List.isEmpty_eq_false_iff.mp hargs
      cases hnames : s.scene.expandNames .noMatch args with
      | error f => simp [Except.map]
      | ok names =>
          simp only [Except.map, Bool.false_eq_true, if_false, Except.ok.injEq, exists_eq_left',
            hne, ne_eq, not_false_eq_true, true_and, Option.map_eq_some_iff]
          constructor
          · rintro ⟨⟨t, refusal⟩, hperform, hend⟩
            cases refusal with
            | some f => cases hend
            | none =>
                obtain ⟨hused, rfl⟩ := (perform_kill_iff hs names).mp hperform
                cases hend
                exact ⟨hused, remember_kill hs hliterals hnames⟩
          · rintro ⟨hused, rfl⟩
            refine ⟨_, (perform_kill_iff hs names).mpr ⟨hused, rfl⟩, ?_⟩
            simp only [remember_kill hs hliterals hnames]

end Session

namespace Scene.Reachable

/-- A removal that succeeds takes away the objects that one of its arguments stood for before it,
and no others. Every other object keeps all it has but its ties to those that have gone: it is free
where it stands if its parent has gone, and lists the children that are left in order. Nothing else
changes. What is left is the same for any other list of the same arguments. -/
theorem kill_removes_named {s s' : Session} (hs : s.scene.Reachable) {limit line : Nat}
    {args : List String} (h : s.execute limit ⟨.kill, args, line⟩ = some (s', none)) :
    s' = { s with scene :=
      { s.scene with entities := s'.scene.entities, names := s'.scene.names } } ∧
    (∀ id e', s'.scene.entity? id = some e' ↔ ∃ e, s.scene.entity? id = some e ∧
      ¬ s.scene.NamedBy .noMatch args e.name ∧ e' = e.among s'.scene.isLive) ∧
    (∀ name id, s'.scene.id? name = some id ↔
      s.scene.id? name = some id ∧ ¬ s.scene.NamedBy .noMatch args name) ∧
    ∀ args' limit' line', (∀ token, token ∈ args' ↔ token ∈ args) →
      s.execute limit' ⟨.kill, args', line'⟩ = some (s', none) := by
  obtain ⟨hne, names, hnames, hused, rfl⟩ :=
    (Session.execute_kill_iff hs.sound hs.literals).mp h
  have hmem := Scene.mem_of_expandNames hnames
  refine ⟨?_, ?_, ?_, ?_⟩
  · exact congrArg (fun t => { s with scene := t }) (Scene.sameFrame_removeNamed s.scene names)
  · simp only [← hmem]
    exact hs.sound.entity?_removeNamed names
  · simp only [← hmem]
    exact hs.sound.id?_removeNamed names
  · intro args' limit' line' hsame
    have hnamed : ∀ name, s.scene.NamedBy .noMatch args' name ↔
        s.scene.NamedBy .noMatch args name := by
      simp only [Scene.NamedBy, hsame, implies_true]
    obtain ⟨names', hnames'⟩ : ∃ names', s.scene.expandNames .noMatch args' = .ok names' := by
      have hread := Scene.expandNames_isOk_iff.mp ⟨names, hnames⟩
      exact Scene.expandNames_isOk_iff.mpr fun token htoken => hread token ((hsame token).mp htoken)
    have hmem' : ∀ name, name ∈ names' ↔ name ∈ names := by
      intro name
      rw [Scene.mem_of_expandNames hnames', hnamed, hmem]
    have hne' : args' ≠ [] := by
      rintro rfl
      exact hne (List.eq_nil_iff_forall_not_mem.mpr fun token htoken => by
        simpa using (hsame token).mpr htoken)
    refine (Session.execute_kill_iff hs.sound hs.literals).mpr ⟨hne', names', hnames', ?_, ?_⟩
    · simpa only [hmem'] using hused
    · rw [hs.sound.removeNamed_congr hmem']

/-- Of two boxes the first is named twice, by its name and by an expression: it has gone, and the
second, which followed it, is free where it stands. -/
theorem kill_removes_named_drawing : drawing.scene.Reachable ∧ ∃ s' b,
    drawing.execute 1 ⟨.kill, ["a", "/a/"], 1⟩ = some (s', none) ∧
    drawing.execute 1 ⟨.kill, ["/a/", "a", "a"], 1⟩ = some (s', none) ∧
    s'.scene.entity? 1 = none ∧ drawing.scene.entity? 2 = some b ∧ b.parent = some 1 ∧
    s'.scene.entity? 2 = some { b with parent := none, offset := Point.zero } := by
  obtain ⟨s', hexecute⟩ :
      ∃ s', drawing.execute 1 ⟨.kill, ["a", "/a/"], 1⟩ = some (s', none) :=
    Session.exists_of_any (by decide +kernel)
  have hliteral : drawing.scene.expandName .noMatch "a" = .ok ["a"] := by decide +kernel
  have hexpression : drawing.scene.expandName .noMatch "/a/" = .ok ["a"] := by decide +kernel
  have hnamed : ∀ name, drawing.scene.NamedBy .noMatch ["a", "/a/"] name ↔ name = "a" := by
    intro name
    simp [Scene.NamedBy, hliteral, hexpression]
  obtain ⟨a, ha, haname⟩ : ∃ a, drawing.scene.entity? 1 = some a ∧ a.name = "a" :=
    Option.map_eq_some_iff.mp (by decide +kernel)
  obtain ⟨b, hb, hlook⟩ : ∃ b, drawing.scene.entity? 2 = some b ∧
      (b.name, b.parent, b.children) = ("b", some 1, []) :=
    Option.map_eq_some_iff.mp (by decide +kernel)
  simp only [Prod.mk.injEq] at hlook
  obtain ⟨hbname, hparent, hchildren⟩ := hlook
  obtain ⟨-, hleft, -, hagain⟩ := kill_removes_named reachable_drawing hexecute
  have hgone : s'.scene.entity? 1 = none := by
    rw [Option.eq_none_iff_forall_ne_some]
    intro e' he'
    obtain ⟨e, he, hfree, -⟩ := (hleft 1 e').mp he'
    rw [ha] at he
    cases he
    exact hfree ((hnamed a.name).mpr haname)
  have hdead : s'.scene.isLive 1 = false := by rw [Scene.isLive, hgone]; rfl
  have hstays : s'.scene.entity? 2 = some (b.among s'.scene.isLive) := by
    refine (hleft 2 _).mpr ⟨b, hb, ?_, rfl⟩
    rw [hnamed, hbname]
    decide
  refine ⟨reachable_drawing, s', b, hexecute, hagain _ _ _ (by simp [or_comm]), hgone, hb, hparent,
    ?_⟩
  rw [hstays]
  simp [Entity.among, hparent, hchildren, hdead]

end Scene.Reachable

end Storyboard
