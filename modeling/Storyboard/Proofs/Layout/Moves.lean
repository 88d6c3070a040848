import Storyboard.Proofs.Layout.Graphs
import Storyboard.Proofs.Scene.Operations

/-!
# Layouts as moves

A layout puts its nodes where the engine says, turns them and fits them into a rectangle. All of
this is done by moving the nodes, one at a time. Moves leave names and parents alone, so the nodes
stay free while a layout goes on, and no move is refused: once the engine has answered, the only
thing that a layout can complain about is that there is nothing to fit.

Main results:

- Definition `Scene.Moves`: the scenes that moves of the objects with certain names lead to.
- Theorem `Scene.Moves.induction`: what single moves keep is kept by all of them.
- Theorem `Scene.Moves.isFreeNode_eq`: moves do not change which names can be laid out.
- Theorem `Scene.fitWithin_of_id?`: fitting as steps that each move one object.
- Theorem `Scene.exists_spring_eq`: a layout whose engine answers moves its nodes.
- Theorem `Scene.moves_spring`: so does any other layout, if it does anything.
-/

namespace Storyboard.Scene

open Relation

variable {s u v : Scene} {names nodes : List String} {name : String}

/-! ## Sequences of moves -/

/-- Moves of objects with the given names lead from one scene to another. -/
def Moves (names : List String) : Scene → Scene → Prop :=
  ReflTransGen fun s u => ∃ name ∈ names, ∃ pos, s.moveTo name pos = .ok u

namespace Moves

theorem refl (names : List String) (s : Scene) : Moves names s s := ReflTransGen.refl

theorem trans (h : Moves names s u) (h' : Moves names u v) : Moves names s v :=
  ReflTransGen.trans h h'

/-- What single moves keep is kept by a sequence of them. -/
theorem induction {P : Scene → Prop}
    (hmove : ∀ {s u name pos}, name ∈ names → P s → s.moveTo name pos = .ok u → P u)
    (hs : P s) (h : Moves names s u) : P u := by
  induction h with
  | refl => exact hs
  | tail _ hstep ih =>
      obtain ⟨name, hname, pos, hmoved⟩ := hstep
      exact hmove hname ih hmoved

/-- Moves change nothing but positions. -/
theorem agree (h : Moves names s u) :
    Table.Agree Entity.unplaced u.entities s.entities ∧ u.names = s.names := by
  refine h.induction (P := fun u => Table.Agree Entity.unplaced u.entities s.entities ∧
    u.names = s.names) ?_ ⟨.refl _ _, rfl⟩
  intro u v name pos _ hu hmoved
  refine moveTo_induction (P := fun v => Table.Agree Entity.unplaced v.entities s.entities ∧
    v.names = s.names) ?_ hu hmoved
  intro u v id pos hu hmoved
  obtain ⟨hagree, hnames, -⟩ := agree_moveId hmoved
  exact ⟨hagree.trans hu.1, hnames.trans hu.2⟩

theorem id?_eq (h : Moves names s u) (name : String) : u.id? name = s.id? name := by
  rw [id?, id?, h.agree.2]

/-- Moves do not change which names can be laid out. -/
theorem isFreeNode_eq (h : Moves names s u) (name : String) :
    u.isFreeNode name = s.isFreeNode name := by
  have hget : (u.get? name).map Entity.unplaced = (s.get? name).map Entity.unplaced := by
    unfold Scene.get?
    rw [h.id?_eq]
    cases s.id? name with
    | none => rfl
    | some id => exact h.agree.1 id
  have hnode : ∀ v : Scene, v.isFreeNode name =
      ((v.get? name).map Entity.unplaced).any fun e => e.parent.isNone && !e.isLink := by
    intro v
    unfold isFreeNode
    cases v.get? name <;> rfl
  rw [hnode, hnode, hget]

end Moves

/-- Steps that each move named objects and are not refused do so together. -/
theorem exists_forEach_eq {α ε : Type} {step : Scene → α → Except ε Scene} {items : List α}
    (hstep : ∀ a ∈ items, ∀ u, Moves names s u → ∃ v, step u a = .ok v ∧ Moves names u v) :
    ∃ u, s.forEach step items = (u, none) ∧ Moves names s u := by
  induction items generalizing s with
  | nil => exact ⟨s, rfl, .refl names s⟩
  | cons a items ih =>
      obtain ⟨u, hu, hfirst⟩ := hstep a List.mem_cons_self s (.refl names s)
      obtain ⟨v, hv, hrest⟩ := ih (s := u) fun b hb w hw =>
        hstep b (List.mem_cons_of_mem a hb) w (hfirst.trans hw)
      exact ⟨v, by simp only [forEach, hu, hv], hfirst.trans hrest⟩

/-! ## Moves of nodes -/

/-- The object that can be laid out under a name. -/
theorem exists_of_isFreeNode (h : s.isFreeNode name) :
    ∃ id e, s.id? name = some id ∧ s.entity? id = some e ∧ e.parent = none ∧ e.isLink = false := by
  obtain ⟨e, hget, hfree, hlink⟩ := (isFreeNode_iff s name).mp h
  obtain ⟨id, hid, he⟩ := Option.bind_eq_some_iff.mp hget
  exact ⟨id, e, hid, he, hfree, hlink⟩

/-- Nodes are moved under their names or under their identifiers. -/
theorem moveTo_eq_moveId {id : EntityId} (h : s.id? name = some id) (pos : Point) :
    s.moveTo name pos = s.moveId id pos := by
  rw [moveTo, idOf, h]
  rfl

/-- A move of a node is not refused. -/
theorem exists_moveTo_eq (hname : name ∈ names) (h : s.isFreeNode name) (pos : Point) :
    ∃ u, s.moveTo name pos = .ok u ∧ Moves names s u := by
  obtain ⟨id, e, hid, he, hfree, -⟩ := exists_of_isFreeNode h
  have hmoved := (moveTo_eq_moveId hid pos).trans (moveId_eq_ok he hfree pos)
  exact ⟨_, hmoved, .single ⟨name, hname, pos, hmoved⟩⟩

/-- Nodes have positions of their own. -/
theorem exists_position?_eq (h : s.isFreeNode name) : ∃ pos, s.position? name = some pos := by
  obtain ⟨id, e, hid, he, -, hlink⟩ := exists_of_isFreeNode h
  refine ⟨e.pos, ?_⟩
  cases hshape : e.shape with
  | link source target stroke => simp [Entity.isLink, hshape, Shape.isLink] at hlink
  | _ => simp [position?, hid, positionOf?, he, hshape]

/-! ## Fitting -/

/-- The identifier and the position of the object with a name, if it has a position. -/
def spot? (s : Scene) (name : String) : Option (EntityId × Point) :=
  (s.id? name).bind fun id => (s.positionOf? id).map fun pos => (id, pos)

theorem spot?_eq_some_iff {id : EntityId} {pos : Point} :
    s.spot? name = some (id, pos) ↔ s.id? name = some id ∧ s.positionOf? id = some pos := by
  simp only [spot?, Option.bind_eq_some_iff, Option.map_eq_some_iff, Prod.mk.injEq]
  constructor
  · rintro ⟨id', hid, pos', hpos, rfl, rfl⟩
    exact ⟨hid, hpos⟩
  · rintro ⟨hid, hpos⟩
    exact ⟨id, hid, pos, hpos, rfl, rfl⟩

/-- The bounding box of the objects with certain names. -/
def hull (s : Scene) (names : List String) : Bounds :=
  Bounds.ofPoints ((names.filterMap s.spot?).map Prod.snd)

/-- Where fitting takes a position: the box around the group is mapped to the rectangle. -/
def fitImage (s : Scene) (start finish : Point) (names : List String) (pos : Point) : Point :=
  start + (finish - start).mul
    ⟨fraction pos.x (s.hull names).lower.x (s.hull names).size.x,
      fraction pos.y (s.hull names).lower.y (s.hull names).size.y⟩

/-- Moves the spot that a name had in the scene before. -/
def fitStep (s : Scene) (image : Point → Point) (u : Scene) (name : String) :
    Except SceneError Scene :=
  (s.spot? name).elim (.ok u) fun spot => u.moveId spot.1 (image spot.2)

theorem forEach_filterMap {α β ε : Type} (step : Scene → β → Except ε Scene) (f : α → Option β)
    (s : Scene) (items : List α) :
    s.forEach step (items.filterMap f) =
      s.forEach (fun u a => (f a).elim (.ok u) (step u)) items := by
  induction items generalizing s with
  | nil => rfl
  | cons a items ih =>
      cases hf : f a with
      | none => simp [forEach, hf, ih]
      | some b =>
          rw [List.filterMap_cons_some hf]
          simp only [forEach, hf, Option.elim_some]
          cases step s b with
          | ok u => exact ih u
          | error e => rfl

theorem placed_of_id? (h : ∀ n ∈ names, s.id? n ≠ none) :
    s.placed names = .ok (names.filterMap s.spot?) := by
  induction names with
  | nil => rfl
  | cons n names ih =>
      obtain ⟨hn, hnames⟩ := List.forall_mem_cons.mp h
      obtain ⟨id, hid⟩ := Option.ne_none_iff_exists'.mp hn
      cases hpos : s.positionOf? id with
      | none => simp [placed, idOf, hid, spot?, hpos, ih hnames, bind, Except.bind]
      | some pos => simp [placed, idOf, hid, spot?, hpos, ih hnames, bind, Except.bind]

/-- Fitting is refused for a name that is not in use and if there is nothing to fit; otherwise the
objects are moved one after another. -/
theorem fitWithin_of_id? (h : ∀ n ∈ names, s.id? n ≠ none) (start finish : Point) :
    s.fitWithin start finish names =
      if (s.hull names).isEmpty then (s, some .nothingToFit)
      else s.forEach (s.fitStep (s.fitImage start finish names)) names := by
  rw [fitWithin, placed_of_id? h]
  simp only
  rw [forEach_filterMap]
  rfl

/-! ## The steps of a layout -/

section Steps

variable (hnodes : ∀ name ∈ nodes, s.isFreeNode name)

include hnodes

/-- Putting the nodes where the engine says. -/
theorem exists_place_eq (positions : Positions) :
    ∃ u, s.place positions nodes = (u, none) ∧ Moves nodes s u := by
  apply exists_forEach_eq
  intro name hname u hu
  cases positions.get? name with
  | none => exact ⟨u, rfl, .refl nodes u⟩
  | some pos => exact exists_moveTo_eq hname (hu.isFreeNode_eq name ▸ hnodes name hname) pos

/-- Turning the nodes. -/
theorem exists_turn_eq (rotation : Angle) :
    ∃ u, s.turn rotation nodes = (u, none) ∧ Moves nodes s u := by
  unfold turn
  split
  · exact ⟨s, rfl, .refl nodes s⟩
  · apply exists_forEach_eq
    intro name hname u hu
    have hnode : u.isFreeNode name := hu.isFreeNode_eq name ▸ hnodes name hname
    obtain ⟨pos, hpos⟩ := exists_position?_eq hnode
    rw [rotateAround, hpos]
    exact exists_moveTo_eq hname hnode _

/-- Fitting the nodes into a rectangle, which is refused if there is nothing to fit. -/
theorem exists_fitWithin_eq (start finish : Point) :
    ∃ u refusal, s.fitWithin start finish nodes = (u, refusal) ∧ Moves nodes s u ∧
      ∀ e, refusal = some e → e = .nothingToFit := by
  have hknown : ∀ name ∈ nodes, s.id? name ≠ none := by
    intro name hname
    obtain ⟨id, e, hid, -⟩ := exists_of_isFreeNode (hnodes name hname)
    simp [hid]
  have hstep : ∀ name ∈ nodes, ∀ u, Moves nodes s u → ∃ v,
      s.fitStep (s.fitImage start finish nodes) u name = .ok v ∧ Moves nodes u v := by
    intro name hname u hu
    unfold fitStep
    cases hspot : s.spot? name with
    | none => exact ⟨u, rfl, .refl nodes u⟩
    | some spot =>
        have hid := (hu.id?_eq name).trans (spot?_eq_some_iff.mp hspot).1
        rw [Option.elim_some, ← moveTo_eq_moveId hid]
        exact exists_moveTo_eq hname (hu.isFreeNode_eq name ▸ hnodes name hname) _
  rw [fitWithin_of_id? hknown]
  split
  · exact ⟨s, _, rfl, .refl nodes s, fun e he => (Option.some.inj he).symm⟩
  · obtain ⟨u, hu, hmoves⟩ := exists_forEach_eq hstep
    exact ⟨u, none, hu, hmoves, fun e he => by cases he⟩

end Steps

/-! ## Layouts -/

/-- A layout whose engine has answered moves its nodes, and fails only if there is nothing to
fit. -/
theorem exists_spring_eq (h : s.layoutNodes names ≠ []) {engine : LayoutEngine}
    {positions : Positions}
    (hengine : engine (s.layoutGraph (s.layoutNodes names)) = .ok positions)
    (start finish : Point) (rotation : Angle) :
    ∃ u refusal, s.spring start finish names rotation engine = (u, refusal) ∧
      Moves (s.layoutNodes names) s u ∧ ∀ e, refusal = some e → e = .scene .nothingToFit := by
  have hnodes : ∀ name ∈ s.layoutNodes names, s.isFreeNode name := fun _ => isFreeNode_of_mem
  obtain ⟨placed, hplace, hplaced⟩ := exists_place_eq hnodes positions
  obtain ⟨turned, hturn, hturned⟩ := exists_turn_eq
    (fun name hname => hplaced.isFreeNode_eq name ▸ hnodes name hname) rotation
  have hmoved := hplaced.trans hturned
  obtain ⟨u, refusal, hfit, hfitted, hrefusal⟩ := exists_fitWithin_eq
    (fun name hname => hmoved.isFreeNode_eq name ▸ hnodes name hname) start finish
  rw [spring_of_engine_ok h hengine]
  simp only [hplace, andThen, hturn, hfit]
  refine ⟨u, _, rfl, hmoved.trans hfitted, ?_⟩
  intro e he
  obtain ⟨e', rfl, rfl⟩ := Option.map_eq_some_iff.mp he
  rw [hrefusal e' rfl]

/-- A layout does nothing but move its nodes, whatever the engine says. -/
theorem moves_spring (s : Scene) (start finish : Point) (names : List String) (rotation : Angle)
    (engine : LayoutEngine) :
    Moves (s.layoutNodes names) s (s.spring start finish names rotation engine).1 := by
  by_cases hnodes : s.layoutNodes names = []
  · rw [spring_of_nodes_eq_nil hnodes]
    exact .refl _ s
  · cases hengine : engine (s.layoutGraph (s.layoutNodes names)) with
    | error e =>
        rw [spring_of_engine_error hnodes hengine]
        exact .refl _ s
    | ok positions =>
        obtain ⟨u, refusal, hspring, hmoves, -⟩ :=
          exists_spring_eq hnodes hengine start finish rotation
        rw [hspring]
        exact hmoves

end Storyboard.Scene
