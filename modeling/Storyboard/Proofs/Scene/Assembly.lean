import Storyboard.Proofs.Scene.Playback

/-!
# Scenes that are put together by hand

A scene can also be put together one operation after another, without a script. The caller may
then register any object: one of its own making, one whose identifier was drawn a while ago, or
one that has been deleted before. A registration makes room for the new object by its name only.
Here it is said for which objects that is enough; the other operations need no such condition.

Main results:

- Definition `Scene.Admits`: the objects that fit into a scene.
- Theorem `Scene.Consistent.add_iff`: registering an object leaves a consistent scene consistent
  exactly if the object fits.
- Theorem `Scene.Assembled.registered_and_tied`: however a scene is put together from objects that
  fit, its name index and its hierarchy are in order, and new identifiers are new.
-/

namespace Storyboard

open Objects

namespace Scene

variable {s u : Scene} {e : Entity}

/-! ## Consistency -/

/-- The name index and the objects are inverse to each other, and so are the two directions of the
hierarchy, which has no cycle. -/
structure Consistent (s : Scene) : Prop where
  registered : s.Registered
  tied : Tied s.entities

/-- A scene admits an object if no object with another name has its identifier, and the object
comes without ties. -/
def Admits (s : Scene) (e : Entity) : Prop :=
  (∀ x, s.entity? e.id = some x → x.name = e.name) ∧ e.parent = none ∧ e.children = []

namespace Consistent

theorem empty (config : SceneConfig) : (Scene.empty config).Consistent :=
  ⟨(Sound.empty config).registered, (Sound.empty config).tied⟩

/-- Being consistent depends on labels and ties, the index and the counter only. -/
theorem of_agree (hs : s.Consistent)
    (h : Table.Agree (fun e => (e.label, e.ties)) u.entities s.entities) (hnames : u.names = s.names)
    (hnext : u.nextId = s.nextId) : u.Consistent where
  registered := hs.registered.of_agree (h.mono Prod.fst) hnames hnext
  tied := hs.tied.of_agree (h.mono Prod.snd).symm

theorem modify (hs : s.Consistent) (id : EntityId) {f : Entity → Entity}
    (hf : ∀ e, ((f e).label, (f e).ties) = (e.label, e.ties)) : (s.modify id f).Consistent :=
  hs.of_agree (Table.Agree.modify s.entities id hf) rfl rfl

theorem remove (hs : s.Consistent) (id : EntityId) : (s.remove id).Consistent where
  registered := hs.registered.remove hs.tied id
  tied := hs.tied.without (entity?_remove hs.tied id)

theorem draw (hs : s.Consistent) {n : Nat} (hcount : s.canCreate (n + 1)) :
    Consistent { s with nextId := s.nextId + 1 } :=
  ⟨hs.registered.draw hcount, hs.tied⟩

theorem moveId (hs : s.Consistent) {id : EntityId} {pos : Point} (h : s.moveId id pos = .ok u) :
    u.Consistent := by
  obtain ⟨hagree, hnames, hnext⟩ := agree_moveId h
  exact hs.of_agree (hagree.mono fun e => (e.label, e.ties)) hnames hnext

theorem attach (hs : s.Consistent) {child parent : String} {offset : Point}
    (h : s.attach child parent offset = .ok u) : u.Consistent := by
  obtain ⟨c, p, e, e', -, -, hc, hp, hfree, rfl⟩ := hs.registered.attach_eq_ok hs.tied h
  have hretied : (s.retie c p offset).Consistent :=
    { registered := hs.registered.of_agree (agree_label_retie hs.tied hc offset) rfl rfl
      tied := tied_retie hs.tied hc hp hfree }
  exact hretied.of_agree
    ((agree_repositionChildren _ p).mono fun e => (e.label, e.ties)) rfl rfl

end Consistent

theorem stepStable_consistent : StepStable Consistent where
  halt id hs := hs.modify id fun _ => rfl
  move _ _ hs h := hs.moveId h
  fade id _ hs := hs.modify id fun _ => rfl
  remove id hs := hs.remove id

/-! ## Registering an object -/

/-- An object fits exactly if nothing else is in its place when its name is vacated. -/
theorem Consistent.admits_iff (hs : s.Consistent) : s.Admits e ↔
    (s.vacate e.name).entity? e.id = none ∧ e.parent = none ∧ e.children = [] := by
  rw [Admits, hs.registered.entity?_vacate_eq_none_iff hs.tied]

/-- If the identifier of an object is free, the object is tied to none of those that are there. -/
theorem untied_of_insert {t : Objects} (ht : t.Tied) (hfree : t.get? e.id = none)
    (h : Tied (t.insert e.id e)) : e.parent = none ∧ e.children = [] := by
  have hself : Table.get? (t.insert e.id e) e.id = some e := by
    rw [Table.get?_insert, if_pos rfl]
  have hother : ∀ {x}, x ≠ e.id → Table.get? (t.insert e.id e) x = t.get? x := by
    intro x hx
    rw [Table.get?_insert, if_neg hx]
  constructor
  · cases hparent : e.parent with
    | none => rfl
    | some p =>
        exfalso
        have htie : IsParent (t.insert e.id e) p e.id := ⟨e, hself, hparent⟩
        have hp : p ≠ e.id := h.ne htie
        -- The parent lists the object, which it did before as well.
        obtain ⟨x, hx, hlisted⟩ := (h.lists_iff_isParent p e.id).mpr htie
        rw [hother hp] at hx
        obtain ⟨y, hy, -⟩ := (ht.lists_iff_isParent p e.id).mp ⟨x, hx, hlisted⟩
        rw [hfree] at hy
        cases hy
  · cases hchildren : e.children with
    | nil => rfl
    | cons c cs =>
        exfalso
        have hlisted : Lists (t.insert e.id e) e.id c :=
          ⟨e, hself, hchildren ▸ List.mem_cons_self⟩
        have htie := (h.lists_iff_isParent e.id c).mp hlisted
        have hc : c ≠ e.id := (h.ne htie).symm
        -- The child names the object, which it did before as well.
        obtain ⟨x, hx, hparent⟩ := htie
        rw [hother hc] at hx
        obtain ⟨y, hy, -⟩ := (ht.lists_iff_isParent e.id c).mpr ⟨x, hx, hparent⟩
        rw [hfree] at hy
        cases hy

namespace Consistent

theorem add (hs : s.Consistent) (h : s.Admits e) : (s.add e).Consistent := by
  obtain ⟨hfree, hparent, hchildren⟩ := hs.admits_iff.mp h
  have hvacated : (s.vacate e.name).Consistent :=
    vacate_induction (fun id hs => hs.remove id) hs e.name
  exact {
    registered := hs.registered.add hs.tied hfree
    tied := hvacated.tied.insert hfree hparent hchildren }

/-- An object with another name, but the same identifier, would be left without its own place. -/
theorem vacant_of_add (hs : s.Consistent) (h : (s.add e).Consistent) :
    (s.vacate e.name).entity? e.id = none := by
  rw [hs.registered.entity?_vacate_eq_none_iff hs.tied]
  intro x hx
  by_contra hname
  have hvacated : (s.vacate e.name).id? x.name = some e.id := by
    rw [hs.registered.id?_vacate, if_neg hname]
    exact hs.registered.id?_name hx
  have hindexed : (s.add e).id? x.name = some e.id := by
    rw [add_eq, id?, Table.get?_insert, if_neg hname]
    exact hvacated
  obtain ⟨y, hy, hyname⟩ := h.registered.name_eq hindexed
  rw [add_eq, entity?, Table.get?_insert, if_pos rfl] at hy
  cases hy
  exact hname hyname.symm

/-- Registering an object leaves a consistent scene consistent exactly if the object fits. -/
theorem add_iff (hs : s.Consistent) : (s.add e).Consistent ↔ s.Admits e := by
  refine ⟨?_, hs.add⟩
  intro h
  have hfree := hs.vacant_of_add h
  have hvacated : (s.vacate e.name).Consistent :=
    vacate_induction (fun id hs => hs.remove id) hs e.name
  exact hs.admits_iff.mpr ⟨hfree, untied_of_insert hvacated.tied hfree h.tied⟩

end Consistent

/-! ## Putting a scene together -/

/-- The scenes that the operations on objects lead to from an empty one, if every object that is
registered fits and no identifier is drawn when the counter has none left. -/
inductive Assembled : Scene → Prop
  | empty (config : SceneConfig) : Assembled (Scene.empty config)
  | newEntity {s : Scene} (name : Option String) (pos : Point) (shape : Shape) :
      Assembled s → s.canCreate 1 → Assembled (s.newEntity name pos shape).2
  | add {s : Scene} (e : Entity) : Assembled s → s.Admits e → Assembled (s.add e)
  | delete {s u : Scene} {e : Entity} {name : String} :
      Assembled s → s.delete name = .ok (e, u) → Assembled u
  | attach {s u : Scene} {child parent : String} {offset : Point} :
      Assembled s → s.attach child parent offset = .ok u → Assembled u
  | moveTo {s u : Scene} {name : String} {pos : Point} :
      Assembled s → s.moveTo name pos = .ok u → Assembled u
  | tick {s : Scene} (order : List EntityId) : Assembled s → Assembled (s.tick order).1

namespace Assembled

theorem consistent (hs : s.Assembled) : s.Consistent := by
  induction hs with
  | empty config => exact Consistent.empty config
  | newEntity _ _ _ _ hcount ih => exact ih.draw hcount
  | add e _ hadmits ih => exact ih.add hadmits
  | delete _ h ih =>
      exact delete_induction (fun id hs => hs.remove id) ih (congrArg (Except.map Prod.snd) h)
  | attach _ h ih => exact ih.attach h
  | moveTo _ h ih => exact moveTo_induction (fun hs h => hs.moveId h) ih h
  | tick order _ ih => exact stepStable_consistent.tick ih order

/-- However a scene is put together from objects that fit, names and objects are in bijection, an
object is listed by another exactly if it names it as its parent, and an identifier that is drawn
is greater than all in use. An object that does not fit destroys this at once. -/
theorem registered_and_tied (hs : s.Assembled) :
    (∀ name id, s.id? name = some id ↔ ∃ e, s.entity? id = some e ∧ e.name = name) ∧
    (∀ id e, s.entity? id = some e → e.id = id) ∧
    (∀ p c, Lists s.entities p c ↔ IsParent s.entities p c) ∧
    (∀ p, ¬ Below s.entities p p) ∧
    (s.canCreate 1 → ∀ name pos shape id e, s.entity? id = some e →
      id < (s.newEntity name pos shape).1.id) ∧
    ∀ e, (s.add e).Consistent ↔ s.Admits e := by
  have hconsistent := hs.consistent
  have hregistered := hconsistent.registered
  refine ⟨hregistered.id?_eq_some_iff, ?_, hconsistent.tied.lists_iff_isParent,
    hconsistent.tied.acyclic, ?_, fun e => hconsistent.add_iff⟩
  · intro id e he
    exact hregistered.id_eq he
  · intro hcount name pos shape id e he
    exact hregistered.lt_next hcount he

end Assembled

/-! ### Four scenes -/

/-- A box of no size. -/
def spot (id : EntityId) (name : String) : Entity :=
  Entity.new id name Point.zero (.box Point.zero)

/-- The scene after attaching an object to another one. -/
def tether (s : Scene) (child parent : String) : Scene :=
  match s.attach child parent Point.zero with
  | .ok u => u
  | .error _ => s

/-- Two objects, one with an identifier of the caller's choice, which follows the other. -/
def tethered : Scene :=
  (((Scene.empty default).add (spot 1 "a")).add (spot 7 "b")).tether "b" "a"

theorem assembled_tethered : tethered.Assembled := by
  have hone : ((Scene.empty default).add (spot 1 "a")).Assembled := by
    refine .add _ (.empty default) ⟨?_, rfl, rfl⟩
    intro x hx
    cases hx
  have htwo : (((Scene.empty default).add (spot 1 "a")).add (spot 7 "b")).Assembled := by
    refine .add _ hone ⟨?_, rfl, rfl⟩
    intro x hx
    cases hx
  unfold tethered tether
  split
  · next h => exact .attach htwo h
  · exact htwo

/-- The second object is listed by the first. -/
theorem lists_tethered : tethered.Assembled ∧ Lists tethered.entities 1 7 := by
  refine ⟨assembled_tethered, ((Assembled.registered_and_tied assembled_tethered).2.2.1 1 7).mpr ?_⟩
  have hparent : (tethered.entity? 7).map Entity.parent = some (some 1) := by decide +kernel
  exact Option.map_eq_some_iff.mp hparent

/-- Two objects with one identifier, registered one after the other. -/
def crossed : Scene := ((Scene.empty default).add (spot 1 "a")).add (spot 1 "b")

/-- An object that is registered again after it has been deleted while it followed another. -/
def returned : Scene :=
  match tethered.delete "b" with
  | .ok (e, u) => u.add e
  | .error _ => tethered

/-- An object with the last identifier, registered after one with the identifier zero. -/
def exhausted : Scene := ((Scene.empty default).add (spot 0 "a")).add (spot 18446744073709551615 "b")

/-- A name that leads to an object with another name, an object that is not listed by its parent,
and an identifier that is drawn while it is in use. -/
theorem lost_by_add :
    (crossed.id? "a" = some 1 ∧ (crossed.entity? 1).map Entity.name = some "b") ∧
    (IsParent returned.entities 1 7 ∧ ¬ Lists returned.entities 1 7) ∧
    ∃ e, exhausted.entity? (exhausted.newEntity none Point.zero (.box Point.zero)).1.id = some e := by
  have hparent : (returned.entity? 7).map Entity.parent = some (some 1) := by decide +kernel
  have hchildren : (returned.entity? 1).map Entity.children = some [] := by decide +kernel
  refine ⟨by decide +kernel, ⟨Option.map_eq_some_iff.mp hparent, ?_⟩, ?_⟩
  · rintro ⟨e, he, hlisted⟩
    rw [entity?, he, Option.map_some, Option.some.injEq] at hchildren
    rw [hchildren] at hlisted
    cases hlisted
  · exact ⟨spot 0 "a", rfl⟩

end Scene

end Storyboard
