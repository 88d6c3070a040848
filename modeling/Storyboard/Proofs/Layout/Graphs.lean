import Mathlib.Data.List.Induction
import Storyboard.Layout.Spring
import Storyboard.Proofs.Scene.Registry

/-!
# The graph of a layout

A layout may be given any list of names: names that nobody has, names of links and of attached
objects, and names that are mentioned more than once. What it asks its engine about is a graph of
the objects that it can place, each of which is a node under its own name, with an edge for every
link between two of them.

Main results:

- Theorem `Scene.mem_layoutNodes_iff`: the nodes are the names of free objects that are no links.
- Theorem `Scene.pairwise_layoutNodes`: they are in the order in which they are first mentioned.
- Theorem `Scene.Registered.exists_links`: the edges are those of the links between two nodes.
- Theorem `Scene.asks_iff`: the graph that a layout asks its engine about.
-/

namespace Storyboard.Scene

variable {s : Scene} {names nodes : List String} {name : String}

/-! ## Nodes -/

/-- A node is the name of a free object that is no link. -/
theorem isFreeNode_iff (s : Scene) (name : String) :
    s.isFreeNode name ↔ ∃ e, s.get? name = some e ∧ e.parent = none ∧ e.isLink = false := by
  cases hget : s.get? name with
  | none => simp [isFreeNode, hget]
  | some e => simp [isFreeNode, hget]

/-- A further name is a node if it can be laid out and has not been mentioned before. -/
theorem layoutNodes_concat (s : Scene) (names : List String) (name : String) :
    s.layoutNodes (names ++ [name]) =
      if s.isFreeNode name ∧ name ∉ s.layoutNodes names then s.layoutNodes names ++ [name]
      else s.layoutNodes names := by
  unfold layoutNodes
  rw [List.filter_append, List.foldl_append]
  by_cases hfree : s.isFreeNode name
  · simp only [List.filter_cons_of_pos hfree, List.filter_nil, List.foldl_cons, List.foldl_nil,
      List.contains_iff_mem, hfree, true_and, ite_not]
  · simp [hfree]

/-- The nodes are the names in the list that can be laid out. -/
theorem mem_layoutNodes_iff : name ∈ s.layoutNodes names ↔ name ∈ names ∧ s.isFreeNode name := by
  induction names using List.reverseRecOn with
  | nil => simp [layoutNodes]
  | append_singleton names last ih =>
      rw [layoutNodes_concat]
      split
      · next hnew =>
        rw [List.mem_append, List.mem_append, ih, List.mem_singleton]
        constructor
        · rintro (⟨hmem, hfree⟩ | rfl)
          · exact ⟨.inl hmem, hfree⟩
          · exact ⟨.inr rfl, hnew.1⟩
        · rintro ⟨hmem | rfl, hfree⟩
          · exact .inl ⟨hmem, hfree⟩
          · exact .inr rfl
      · next hold =>
        rw [ih, List.mem_append, List.mem_singleton]
        constructor
        · rintro ⟨hmem, hfree⟩
          exact ⟨.inl hmem, hfree⟩
        · rintro ⟨hmem | rfl, hfree⟩
          · exact ⟨hmem, hfree⟩
          · exact ih.mp (not_not.mp fun hnot => hold ⟨hfree, hnot⟩)

theorem isFreeNode_of_mem (h : name ∈ s.layoutNodes names) : s.isFreeNode name :=
  (mem_layoutNodes_iff.mp h).2

/-- The nodes are in the order in which the list mentions them first. -/
theorem pairwise_layoutNodes (s : Scene) (names : List String) :
    (s.layoutNodes names).Pairwise fun a b => names.idxOf a < names.idxOf b := by
  induction names using List.reverseRecOn with
  | nil => exact .nil
  | append_singleton names last ih =>
      have hmentioned : ∀ a ∈ s.layoutNodes names, a ∈ names :=
        fun a ha => (mem_layoutNodes_iff.mp ha).1
      have hearlier : (s.layoutNodes names).Pairwise fun a b =>
          (names ++ [last]).idxOf a < (names ++ [last]).idxOf b := by
        refine ih.imp_of_mem ?_
        intro a b ha hb hlt
        rwa [List.idxOf_append_of_mem (hmentioned a ha),
          List.idxOf_append_of_mem (hmentioned b hb)]
      rw [layoutNodes_concat]
      split
      · next hnew =>
        refine List.pairwise_append.mpr ⟨hearlier, List.pairwise_singleton _ _, ?_⟩
        intro a ha b hb
        -- A new node has not been mentioned, because it can be laid out.
        have hlast : last ∉ names := fun hmem => hnew.2 (mem_layoutNodes_iff.mpr ⟨hmem, hnew.1⟩)
        rw [List.mem_singleton.mp hb, List.idxOf_append_of_mem (hmentioned a ha),
          List.idxOf_append_of_notMem hlast]
        exact Nat.lt_of_lt_of_le (List.idxOf_lt_length_of_mem (hmentioned a ha))
          (Nat.le_add_right _ _)
      · exact hearlier

/-! ## Edges -/

/-- An object is a link between two of the given names. -/
def Spans (s : Scene) (nodes : List String) (e : Entity) (edge : String × String) : Prop :=
  ∃ source target stroke, e.shape = .link source target stroke ∧
    s.id? edge.1 = some source ∧ s.id? edge.2 = some target ∧ edge.1 ∈ nodes ∧ edge.2 ∈ nodes

/-- In a registered scene the ends of a link are found under the names of its edge. -/
theorem Registered.edge?_eq_some_iff (hs : s.Registered) {e : Entity} {edge : String × String} :
    s.edge? nodes e = some edge ↔ s.Spans nodes e edge := by
  cases hshape : e.shape with
  | link source target stroke =>
      have hedge : s.edge? nodes e = some edge ↔
          ∃ a, s.entity? source = some a ∧ ∃ b, s.entity? target = some b ∧
            (a.name ∈ nodes ∧ b.name ∈ nodes) ∧ (a.name, b.name) = edge := by
        simp [edge?, hshape, bind, Option.bind_eq_some_iff]
      rw [hedge]
      constructor
      · rintro ⟨a, ha, b, hb, ⟨hsource, htarget⟩, rfl⟩
        exact ⟨source, target, stroke, hshape, hs.id?_name ha, hs.id?_name hb, hsource, htarget⟩
      · rintro ⟨source', target', stroke', hends, hsource, htarget, hmem, hmem'⟩
        cases hshape.symm.trans hends
        obtain ⟨a, ha, hname⟩ := hs.name_eq hsource
        obtain ⟨b, hb, hname'⟩ := hs.name_eq htarget
        exact ⟨a, ha, b, hb, ⟨hname ▸ hmem, hname' ▸ hmem'⟩, by rw [hname, hname']⟩
  | _ => simp [edge?, Spans, hshape]

/-- Every edge is that of one link between two nodes, in the order in which these were created, and
every such link has one. -/
theorem Registered.exists_links (hs : s.Registered) (nodes : List String) :
    ∃ links : List Entity, links.Pairwise (fun a b => a.id < b.id) ∧
      (∀ e, e ∈ links ↔ (∃ id, s.entity? id = some e) ∧ ∃ edge, s.Spans nodes e edge) ∧
      List.Forall₂ (s.Spans nodes) links (s.layoutGraph nodes).edges := by
  refine ⟨s.objects.filter fun e => (s.edge? nodes e).isSome, ?_, ?_, ?_⟩
  · exact hs.pairwise_objects.filter _
  · intro e
    rw [List.mem_filter, Option.isSome_iff_exists, objects, Table.mem_values_iff]
    apply and_congr Iff.rfl
    exact exists_congr fun edge => hs.edge?_eq_some_iff
  · rw [layoutGraph]
    generalize s.objects = objects
    induction objects with
    | nil => exact .nil
    | cons e objects ih =>
        cases hedge : s.edge? nodes e with
        | none => simpa [hedge] using ih
        | some edge => simpa [hedge] using ⟨hs.edge?_eq_some_iff.mp hedge, ih⟩

/-! ## What the engine is asked -/

theorem spring_of_nodes_eq_nil (h : s.layoutNodes names = []) (start finish : Point)
    (rotation : Angle) (engine : LayoutEngine) :
    s.spring start finish names rotation engine = (s, none) := by
  simp only [spring, h]

/-- If the engine fails, nothing is done. -/
theorem spring_of_engine_error (h : s.layoutNodes names ≠ []) {engine : LayoutEngine}
    {e : LayoutError} (hengine : engine (s.layoutGraph (s.layoutNodes names)) = .error e)
    (start finish : Point) (rotation : Angle) :
    s.spring start finish names rotation engine = (s, some e) := by
  rw [spring]
  split
  · next hnil => exact absurd hnil h
  · rw [hengine]

/-- If the engine answers, the nodes are placed, turned and fitted into the rectangle. -/
theorem spring_of_engine_ok (h : s.layoutNodes names ≠ []) {engine : LayoutEngine}
    {positions : Positions}
    (hengine : engine (s.layoutGraph (s.layoutNodes names)) = .ok positions)
    (start finish : Point) (rotation : Angle) :
    s.spring start finish names rotation engine =
      let result := andThen
        (andThen (s.place positions (s.layoutNodes names)) (·.turn rotation (s.layoutNodes names)))
        (·.fitWithin start finish (s.layoutNodes names))
      (result.1, result.2.map .scene) := by
  rw [spring]
  split
  · next hnil => exact absurd hnil h
  · rw [hengine]

/-- A layout asks its engine about a graph and about no other: the engine's answer to this graph is
all that it needs to know, and it fails if the engine fails there. -/
structure Asks (s : Scene) (names : List String) (g : LayoutGraph) : Prop where
  depends : ∀ start finish rotation {engine engine' : LayoutEngine}, engine g = engine' g →
    s.spring start finish names rotation engine = s.spring start finish names rotation engine'
  fails : ∀ start finish rotation {engine : LayoutEngine} {e : LayoutError}, engine g = .error e →
    s.spring start finish names rotation engine = (s, some e)

/-- The graph that a layout asks about is that of its nodes, if it has any. -/
theorem asks_iff {g : LayoutGraph} :
    s.Asks names g ↔ s.layoutNodes names ≠ [] ∧ g = s.layoutGraph (s.layoutNodes names) := by
  constructor
  · intro h
    have hnodes : s.layoutNodes names ≠ [] := by
      intro hnil
      obtain ⟨engine, hengine⟩ : ∃ engine : LayoutEngine, engine g = .error .notUtf8 :=
        ⟨fun _ => .error .notUtf8, rfl⟩
      have hfails := h.fails .zero .zero .zero hengine
      rw [spring_of_nodes_eq_nil hnil] at hfails
      cases hfails
    refine ⟨hnodes, ?_⟩
    by_contra hne
    -- An engine that always fails, but for a reason of its own on the given graph.
    obtain ⟨engine, hgiven, hnodesGraph⟩ : ∃ engine : LayoutEngine,
        engine g = .error .emptyCommand ∧
        engine (s.layoutGraph (s.layoutNodes names)) = .error .notUtf8 :=
      ⟨fun g' => .error (if g' = g then .emptyCommand else .notUtf8), by simp,
        by simp [Ne.symm hne]⟩
    have hfails := h.fails .zero .zero .zero hgiven
    rw [spring_of_engine_error hnodes hnodesGraph] at hfails
    cases hfails
  · rintro ⟨hnodes, rfl⟩
    constructor
    · intro start finish rotation engine engine' hsame
      cases hengine : engine (s.layoutGraph (s.layoutNodes names)) with
      | error e =>
          rw [spring_of_engine_error hnodes hengine,
            spring_of_engine_error hnodes (hsame ▸ hengine)]
      | ok positions =>
          rw [spring_of_engine_ok hnodes hengine, spring_of_engine_ok hnodes (hsame ▸ hengine)]
    · intro start finish rotation engine e hengine
      exact spring_of_engine_error hnodes hengine start finish rotation

end Storyboard.Scene
