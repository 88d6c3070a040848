import Storyboard.Proofs.Session.Overwriting
import Storyboard.Proofs.Session.Settings

/-!
# Layouts of reachable scenes

A layout asks its engine about a graph of the objects that can be laid out, and does nothing to the
scene but move them, together with what is below them. Of the names that a statement lists, it
takes the last four for a rectangle if the second and the last of them are numbers. If the other
two are not numbers but names, the rectangle has corners where these objects are, and the objects
are not laid out unless they are listed once more.

Main results:

- Theorem `Scene.Reachable.graph_asked`: the graph that an engine is asked about.
- Theorem `Scene.Reachable.spring_moves_nodes`: what a layout may change.
- Theorem `Action.leaves_splitRegion?`: which names are left when a rectangle is taken off.
- Theorem `Scene.Reachable.lays_out_iff`: when all objects that a statement lists are laid out.
-/

namespace Storyboard

open Objects

namespace Scene

variable {s u : Scene} {names nodes : List String} {name : String}

/-! ## Graphs -/

/-- What an engine is asked about, whatever names are listed: it is asked if there is something to
lay out, the nodes are the free objects among the names, links excepted, in the order in which they
are mentioned first, and the edges are those of the links between two nodes, in the order in which
the links were created. -/
theorem Reachable.graph_asked (hs : s.Reachable) (names : List String) :
    ((∃ g, s.Asks names g) ↔ ∃ name ∈ names, s.isFreeNode name) ∧
    ∀ g, s.Asks names g →
      (∀ name, name ∈ g.nodes ↔ name ∈ names ∧
        ∃ e, s.get? name = some e ∧ e.parent = none ∧ e.isLink = false) ∧
      g.nodes.Nodup ∧
      (g.nodes.Pairwise fun a b => names.idxOf a < names.idxOf b) ∧
      (∃ links : List Entity, (links.Pairwise fun a b => a.id < b.id) ∧
        (∀ e, e ∈ links ↔ (∃ id, s.entity? id = some e) ∧ ∃ edge, s.Spans g.nodes e edge) ∧
        List.Forall₂ (s.Spans g.nodes) links g.edges) ∧
      ∀ edge ∈ g.edges, edge.1 ∈ g.nodes ∧ edge.2 ∈ g.nodes := by
  have hregistered : s.Registered := hs.sound.registered
  constructor
  · constructor
    · rintro ⟨g, hg⟩
      obtain ⟨name, hname⟩ := List.exists_mem_of_ne_nil _ (asks_iff.mp hg).1
      exact ⟨name, mem_layoutNodes_iff.mp hname⟩
    · rintro ⟨name, hname⟩
      exact ⟨_, asks_iff.mpr ⟨List.ne_nil_of_mem (mem_layoutNodes_iff.mpr hname), rfl⟩⟩
  · intro g hg
    obtain ⟨-, rfl⟩ := asks_iff.mp hg
    have horder := pairwise_layoutNodes s names
    obtain ⟨links, hcreated, hlinks, hedges⟩ :=
      hregistered.exists_links (s.layoutNodes names)
    refine ⟨?_, ?_, horder, ⟨links, hcreated, hlinks, hedges⟩, ?_⟩
    · intro name
      rw [← isFreeNode_iff]
      exact mem_layoutNodes_iff
    · exact horder.imp fun hlt heq => absurd (heq ▸ hlt) (Nat.lt_irrefl _)
    · intro edge hedge
      obtain ⟨e, -, hspans⟩ := List.mem_filterMap.mp hedge
      obtain ⟨source, target, stroke, -, -, -, hsource, htarget⟩ :=
        hregistered.edge?_eq_some_iff.mp hspans
      exact ⟨hsource, htarget⟩

namespace Reachable

/-- A free box that is linked to another one, and a box that is attached to the latter. -/
def networked : Scene :=
  afterLine
    "define a box; define b box; define c box; attach b a 1 2; define l link a c; define m link b c"

theorem reachable_networked : networked.Reachable := reachable_afterLine _

/-- Of names that are not in use, names of links and of attached boxes, and names that are listed
twice, two nodes are left, in the order in which they are listed. -/
theorem graph_asked_networked :
    networked.Reachable ∧ (∃ g, networked.Asks ["c", "zz", "l", "a", "b", "c"] g) ∧
      ∀ g, networked.Asks ["c", "zz", "l", "a", "b", "c"] g → "a" ∈ g.nodes ∧ "b" ∉ g.nodes := by
  obtain ⟨hasked, hgraph⟩ := graph_asked reachable_networked ["c", "zz", "l", "a", "b", "c"]
  refine ⟨reachable_networked, hasked.mpr ⟨"a", by decide, by decide +kernel⟩, ?_⟩
  intro g hg
  obtain ⟨hnodes, -⟩ := hgraph g hg
  simp only [← isFreeNode_iff] at hnodes
  have hfollower : ¬ networked.isFreeNode "b" := by decide +kernel
  refine ⟨(hnodes "a").mpr ⟨by decide, by decide +kernel⟩, ?_⟩
  intro hb
  exact hfollower ((hnodes "b").mp hb).2

end Reachable

/-- The graph of such a list. -/
example :
    Reachable.networked.layoutGraph
        (Reachable.networked.layoutNodes ["c", "zz", "l", "a", "b", "c"]) =
      ⟨["c", "a"], [("a", "c")]⟩ := by
  decide +kernel

/-! ## Effects -/

/-- Moves of objects with certain names move these and what is below them. -/
theorem Sound.edited_of_moves (hs : s.Sound) (h : Moves nodes s u) :
    u.Sound ∧
      Edited .move (fun id => ∃ name ∈ nodes, s.id? name = some id) (fun _ => False) s u := by
  refine h.induction (P := fun u => u.Sound ∧ Edited .move
    (fun id => ∃ name ∈ nodes, s.id? name = some id) (fun _ => False) s u) ?_ ⟨hs, .refl ..⟩
  intro u v name pos hname hu hmoved
  obtain ⟨hsound, hedited⟩ := hu
  obtain ⟨hsound', id, hid, hmove⟩ :=
    hsound.edited_of_step (a := .move pos [name])
      (show Verb.move ∈ Action.editVerbs by decide) rfl hmoved
  refine ⟨hsound', hedited.trans (hmove.mono ?_ fun _ hadopts => hadopts)⟩
  rintro x rfl
  rw [hedited.frame] at hid
  exact ⟨name, hname, hid⟩

/-- What a layout does to an object: it leaves it alone but for its position, and this too unless
the object is at or below a node. -/
structure LaysOut (s : Scene) (names : List String) (id : EntityId) (e e' : Entity) : Prop where
  rest : e' = { e with pos := e'.pos }
  node : e'.pos ≠ e.pos → ∃ name ∈ names, ∃ top, s.isFreeNode name ∧ s.id? name = some top ∧
    AtOrBelow s.entities top id

/-- A layout does nothing if there is nothing to lay out or if its engine fails. In any case, also
when it fails in the end because there is nothing to fit, it moves the nodes and what is below them
and changes nothing else, and attached objects stand at their offsets. -/
theorem Reachable.spring_moves_nodes (hs : s.Reachable) (start finish : Point)
    (names : List String) (rotation : Angle) (engine : LayoutEngine) :
    ∃ u refusal, s.spring start finish names rotation engine = (u, refusal) ∧
      ((∀ name ∈ names, ¬ s.isFreeNode name) → u = s ∧ refusal = none) ∧
      (∀ g e, s.Asks names g → engine g = .error e → u = s ∧ refusal = some e) ∧
      (∀ e, refusal = some e →
        (∃ g, s.Asks names g ∧ engine g = .error e) ∨ e = .scene .nothingToFit) ∧
      u = { s with entities := u.entities } ∧
      (∀ id, Option.Rel (s.LaysOut names id) (s.entity? id) (u.entity? id)) ∧
      u.Propagated := by
  obtain ⟨u, refusal, hspring⟩ :
      ∃ u refusal, s.spring start finish names rotation engine = (u, refusal) := ⟨_, _, rfl⟩
  have hmoves := moves_spring s start finish names rotation engine
  rw [hspring] at hmoves
  obtain ⟨hsound, hedited⟩ := hs.sound.edited_of_moves hmoves
  refine ⟨u, refusal, hspring, ?_, ?_, ?_, hedited.frame, ?_, hsound.propagated⟩
  · intro hnone
    have hnil : s.layoutNodes names = [] := by
      apply List.eq_nil_iff_forall_not_mem.mpr
      intro name hname
      obtain ⟨hlisted, hfree⟩ := mem_layoutNodes_iff.mp hname
      exact hnone name hlisted hfree
    rw [spring_of_nodes_eq_nil hnil] at hspring
    cases hspring
    exact ⟨rfl, rfl⟩
  · intro g e hasks hengine
    have hfails := hasks.fails start finish rotation hengine
    rw [hspring] at hfails
    cases hfails
    exact ⟨rfl, rfl⟩
  · rintro e rfl
    have hnodes : s.layoutNodes names ≠ [] := by
      intro hnil
      rw [spring_of_nodes_eq_nil hnil] at hspring
      cases hspring
    cases hengine : engine (s.layoutGraph (s.layoutNodes names)) with
    | error e' =>
        rw [spring_of_engine_error hnodes hengine] at hspring
        cases hspring
        exact .inl ⟨_, asks_iff.mpr ⟨hnodes, rfl⟩, hengine⟩
    | ok positions =>
        obtain ⟨u', refusal, hspring', -, hlate⟩ :=
          exists_spring_eq hnodes hengine start finish rotation
        rw [hspring] at hspring'
        cases hspring'
        exact .inr (hlate e rfl)
  · intro id
    refine optionRel_mono ?_ (hedited.objects id)
    intro e e' hallows
    refine ⟨hallows.sets, fun hne => ?_⟩
    obtain ⟨-, top, ⟨name, hname, htop⟩, hbelow⟩ := hallows.pos hne
    obtain ⟨hlisted, hfree⟩ := mem_layoutNodes_iff.mp hname
    exact ⟨name, hlisted, top, hfree, htop, hbelow⟩

/-- Laying out two boxes, one of which another one follows. -/
theorem Reachable.spring_moves_networked :
    networked.Reachable ∧ ∃ u, networked.spring .zero ⟨100, 50⟩ ["c", "l", "a", "b"] .zero
        (fun _ => .ok (Table.ofList [("a", ⟨0, 0⟩), ("c", ⟨1, 2⟩)])) = (u, none) ∧
      u.Propagated ∧
      Option.Rel (networked.LaysOut ["c", "l", "a", "b"] 2) (networked.entity? 2)
        (u.entity? 2) := by
  obtain ⟨u, refusal, hspring, -, -, -, -, hobjects, hpropagated⟩ :=
    spring_moves_nodes reachable_networked .zero ⟨100, 50⟩ ["c", "l", "a", "b"] .zero
      (fun _ => .ok (Table.ofList [("a", ⟨0, 0⟩), ("c", ⟨1, 2⟩)]))
  have hdone : (networked.spring .zero ⟨100, 50⟩ ["c", "l", "a", "b"] .zero
      (fun _ => .ok (Table.ofList [("a", ⟨0, 0⟩), ("c", ⟨1, 2⟩)]))).2 = none := by decide +kernel
  rw [hspring] at hdone
  cases hdone
  exact ⟨reachable_networked, u, hspring, hpropagated, hobjects 2⟩

end Scene

/-! ## Rectangles at the end of a list -/

namespace Action

variable {names kept region : List String} {a b c d : String}

/-- A list of names ends in a rectangle between two corners, with names before it. It is taken for
one if the second and the last of the four are numbers. -/
structure EndsInRegion (names kept : List String) (a b c d : String) : Prop where
  split : names = kept ++ [a, b, c, d]
  nonempty : kept ≠ []
  second : Number.isNumber b
  last : Number.isNumber d

/-- When a rectangle is taken off the end of a list of names, and which. -/
theorem splitRegion?_eq_some_iff (names kept region : List String) :
    splitRegion? names.reverse = some (kept, region) ↔
      ∃ a b c d, EndsInRegion names kept a b c d ∧ region = [a, b, c, d] := by
  constructor
  · intro h
    unfold splitRegion? at h
    split at h
    · next d c b a e rest hnames =>
      split at h
      · next hnumbers =>
        cases h
        rw [Bool.and_eq_true] at hnumbers
        refine ⟨a, b, c, d, ⟨?_, by simp, hnumbers.1, hnumbers.2⟩, rfl⟩
        rw [← List.reverse_reverse names, hnames]
        simp
      · cases h
    · cases h
  · rintro ⟨a, b, c, d, ⟨rfl, hkept, hsecond, hlast⟩, rfl⟩
    obtain ⟨rest, e, rfl⟩ := List.eq_nil_or_concat kept |>.resolve_left hkept
    simp [splitRegion?, hsecond, hlast]

/-- There is only one rectangle to take off. -/
theorem EndsInRegion.kept_unique {kept' : List String} {a' b' c' d' : String}
    (h : EndsInRegion names kept a b c d) (h' : EndsInRegion names kept' a' b' c' d') :
    kept = kept' :=
  (List.append_inj' (h.split.symm.trans h'.split) rfl).1

/-- The names that are left of a list: those before a rectangle, or all of them if it does not end
in one. -/
def Leaves (names kept : List String) : Prop :=
  (∃ a b c d, EndsInRegion names kept a b c d) ∨
    kept = names ∧ ∀ kept' a b c d, ¬ EndsInRegion names kept' a b c d

theorem leaves_splitRegion? (names : List String) :
    Leaves names ((splitRegion? names.reverse).getD (names, [])).1 := by
  cases hsplit : splitRegion? names.reverse with
  | some parts =>
      obtain ⟨a, b, c, d, hends, -⟩ := (splitRegion?_eq_some_iff names parts.1 parts.2).mp hsplit
      exact .inl ⟨a, b, c, d, hends⟩
  | none =>
      refine .inr ⟨rfl, fun kept a b c d hends => ?_⟩
      have hsome := (splitRegion?_eq_some_iff names kept [a, b, c, d]).mpr ⟨a, b, c, d, hends, rfl⟩
      rw [hsplit] at hsome
      cases hsome

/-- A rectangle takes none of the names that matter, unless one of them is in place of its first or
of its third coordinate: the other two are numbers. -/
theorem Leaves.forall_mem_iff (h : Leaves names kept) {P : String → Prop}
    (hnumbers : ∀ name, P name → Number.isNumber name = false) :
    (∀ name ∈ names, P name → name ∈ kept) ↔
      ∀ kept' a b c d, EndsInRegion names kept' a b c d →
        ∀ name ∈ [a, c], P name → name ∈ kept' := by
  rcases h with ⟨a, b, c, d, hends⟩ | ⟨rfl, hnone⟩
  · constructor
    · intro hall kept' a' b' c' d' hends' name hname hP
      have hlisted : name ∈ [a', b', c', d'] :=
        List.Sublist.subset (by simp) hname
      rw [← hends.kept_unique hends']
      apply hall name _ hP
      rw [hends'.split]
      exact List.mem_append_right _ hlisted
    · intro hcorners name hname hP
      rw [hends.split, List.mem_append] at hname
      rcases hname with hname | hname
      · exact hname
      · have hplain := hnumbers name hP
        simp only [List.mem_cons, List.not_mem_nil, or_false] at hname
        rcases hname with rfl | rfl | rfl | rfl
        · exact hcorners kept _ b c d hends _ (by simp) hP
        · rw [hends.second] at hplain
          cases hplain
        · exact hcorners kept a b _ d hends _ (by simp) hP
        · rw [hends.last] at hplain
          cases hplain
  · constructor
    · intro _ kept' a b c d hends
      exact absurd hends (hnone kept' a b c d)
    · intro _ name hname _
      exact hname

end Action

/-! ## Statements -/

/-- What a layout statement that does not fail has done. -/
theorem Session.execute_spring {s s' : Session} {limit line : Nat} {args : List String}
    (h : s.execute limit ⟨.spring, args, line⟩ = some (s', none)) :
    ∃ options operands names laid start finish rotation u,
      Options.read "f:r:" args = .ok (options, operands) ∧
      s.scene.expandNames .existing operands = .ok names ∧ Action.Leaves names laid ∧
      s.scene.spring start finish laid rotation (s.engineFor (options.value? 'f')) = (u, none) ∧
      s' = { s with scene := u }.remember ⟨.spring, args, line⟩ := by
  unfold Session.execute at h
  split at h
  · cases h
  · next action hread =>
    obtain ⟨options, operands, rotation, names, start, finish, hoptions, hnames, rfl⟩ :=
      Action.readSpring_eq_ok hread
    have hleaves := Action.leaves_splitRegion? names
    generalize ((Action.splitRegion? names.reverse).getD (names, [])).1 = laid at h hleaves
    obtain ⟨u, refusal, hspring⟩ : ∃ u refusal, s.scene.spring start finish laid rotation
        (s.engineFor (options.value? 'f')) = (u, refusal) := ⟨_, _, rfl⟩
    simp only [Session.perform, Option.map_some, Option.some.injEq, hspring] at h
    cases refusal with
    | some e => cases h
    | none =>
        cases h
        exact ⟨options, operands, names, laid, start, finish, rotation, u, hoptions, hnames,
          hleaves, hspring, rfl⟩

namespace Scene

variable {s : Scene} {names : List String} {name : String}

/-- The name of a node is that of an object. -/
theorem Registered.exists_of_isFreeNode (hs : s.Registered) (h : s.isFreeNode name) :
    ∃ id e, s.entity? id = some e ∧ e.name = name := by
  obtain ⟨id, e, hid, -⟩ := Scene.exists_of_isFreeNode h
  exact ⟨id, hs.name_eq hid⟩

/-- The names of the nodes of a graph that is asked about. -/
theorem exists_asks_iff :
    (∃ g, s.Asks names g ∧ name ∈ g.nodes) ↔ name ∈ names ∧ s.isFreeNode name := by
  constructor
  · rintro ⟨g, hasks, hname⟩
    obtain ⟨-, rfl⟩ := asks_iff.mp hasks
    exact mem_layoutNodes_iff.mp hname
  · intro hname
    have hmem := mem_layoutNodes_iff.mpr hname
    exact ⟨_, asks_iff.mpr ⟨List.ne_nil_of_mem hmem, rfl⟩, hmem⟩

namespace Reachable

/-- What a layout statement that does not fail lays out: all names that its patterns stand for, or
those before a rectangle. If no object has a name like a number, then every listed object that can
be laid out is a node of the graph that the engine is asked about, unless it is named in place of a
coordinate of the rectangle and not listed before. -/
theorem lays_out_iff {s s' : Session} (hs : s.scene.Reachable)
    (hnumbers : ∀ id e, s.scene.entity? id = some e → Number.isNumber e.name = false)
    {limit line : Nat} {args : List String}
    (h : s.execute limit ⟨.spring, args, line⟩ = some (s', none)) :
    ∃ options operands names laid start finish rotation u,
      Options.read "f:r:" args = .ok (options, operands) ∧
      s.scene.expandNames .existing operands = .ok names ∧ Action.Leaves names laid ∧
      s.scene.spring start finish laid rotation (s.engineFor (options.value? 'f')) = (u, none) ∧
      s' = { s with scene := u }.remember ⟨.spring, args, line⟩ ∧
      ((∀ name ∈ names, s.scene.isFreeNode name → ∃ g, s.scene.Asks laid g ∧ name ∈ g.nodes) ↔
        ∀ kept a b c d, Action.EndsInRegion names kept a b c d →
          ∀ name ∈ [a, c], s.scene.isFreeNode name → name ∈ kept) := by
  obtain ⟨options, operands, names, laid, start, finish, rotation, u, hoptions, hnames, hleaves,
    hspring, hs'⟩ := Session.execute_spring h
  refine ⟨options, operands, names, laid, start, finish, rotation, u, hoptions, hnames, hleaves,
    hspring, hs', ?_⟩
  have hplain : ∀ name, s.scene.isFreeNode name → Number.isNumber name = false := by
    intro name hname
    obtain ⟨id, e, he, rfl⟩ := hs.sound.registered.exists_of_isFreeNode hname
    exact hnumbers id e he
  rw [← hleaves.forall_mem_iff hplain]
  refine forall₂_congr fun name _ => forall_congr' fun hname => ?_
  rw [exists_asks_iff]
  exact and_iff_left hname

/-- Four boxes. -/
def fourBoxes : Scene := afterLine "define a box; define b box; define c box; define d box"

/-- A session with these boxes, whose engine refuses every graph in which a name is a node. -/
def refusing (node : String) : Session :=
  { drawing with
    scene := fourBoxes
    engine := fun g => if node ∈ g.nodes then .error (.missingNode node) else .ok Table.empty }

theorem reachable_refusing (node : String) : (refusing node).scene.Reachable := by
  have hboxes : fourBoxes.Reachable := reachable_afterLine _
  rw [refusing]
  exact hboxes

/-- No box has a name like a number. -/
theorem isNumber_refusing (node : String) (id : EntityId) (e : Entity)
    (he : (refusing node).scene.entity? id = some e) : Number.isNumber e.name = false := by
  have hall : ∀ e ∈ fourBoxes.objects, Number.isNumber e.name = false := by decide +kernel
  exact hall e ((Table.mem_values_iff _ _).mpr ⟨id, he⟩)

/-- If all coordinates of the rectangle are numbers, all boxes are laid out. -/
theorem lays_out_refusing :
    (refusing "e").scene.Reachable ∧ ∃ s' laid,
      (refusing "e").execute 1 ⟨.spring, ["/a|b|c/", "d", "10", "20", "300", "400"], 1⟩ =
        some (s', none) ∧
      ∀ name ∈ ["a", "b", "c", "d"], ∃ g, (refusing "e").scene.Asks laid g ∧ name ∈ g.nodes := by
  have hdone : ((refusing "e").execute 1
      ⟨.spring, ["/a|b|c/", "d", "10", "20", "300", "400"], 1⟩).any fun r => r.2.isNone := by
    decide +kernel
  obtain ⟨s', hexecute⟩ := Session.exists_of_any hdone
  obtain ⟨options, operands, names, laid, -, -, -, -, hoptions, hnames, -, -, -, hiff⟩ :=
    lays_out_iff (reachable_refusing "e") (isNumber_refusing "e") hexecute
  have hread : Options.read "f:r:" ["/a|b|c/", "d", "10", "20", "300", "400"] =
      .ok (Table.empty, ["/a|b|c/", "d", "10", "20", "300", "400"]) := rfl
  cases hread.symm.trans hoptions
  have hexpanded : (refusing "e").scene.expandNames .existing
      ["/a|b|c/", "d", "10", "20", "300", "400"] =
        .ok (["a", "b", "c", "d"] ++ ["10", "20", "300", "400"]) := by decide +kernel
  cases hexpanded.symm.trans hnames
  refine ⟨reachable_refusing "e", s', laid, hexecute, ?_⟩
  intro name hname
  refine hiff.mpr ?_ name (List.mem_append_left _ hname) ?_
  · intro kept a b c d hends name hcorner hfree
    cases (List.append_inj' hends.split rfl).2
    have hplain : ∀ name ∈ ["10", "300"], ¬ (refusing "e").scene.isFreeNode name := by
      decide +kernel
    exact absurd hfree (hplain name hcorner)
  · have hfree : ∀ name ∈ ["a", "b", "c", "d"], (refusing "e").scene.isFreeNode name := by
      decide +kernel
    exact hfree name hname

/-- A box that is named in place of a coordinate is not laid out: an engine that refuses every
graph in which it is a node has nothing to refuse. -/
theorem corner_not_laid_out :
    (refusing "c").scene.Reachable ∧ (refusing "c").settings.strict = false ∧
      (∀ id e, (refusing "c").scene.entity? id = some e → Number.isNumber e.name = false) ∧
      (refusing "c").scene.expandNames .existing ["a", "b", "c", "5", "d", "10"] =
        .ok ["a", "b", "c", "5", "d", "10"] ∧
      (refusing "c").scene.isFreeNode "c" ∧
      (∀ g, "c" ∈ g.nodes → (refusing "c").engine g = .error (.missingNode "c")) ∧
      ∃ s', (refusing "c").runLine 1 "spring a b c 5 d 10" = some (s', [.ok ()]) := by
  refine ⟨reachable_refusing "c", rfl, isNumber_refusing "c", by decide +kernel, by decide +kernel,
    fun g hc => if_pos hc, ?_⟩
  have hdone : ((refusing "c").runLine 1 "spring a b c 5 d 10").map Prod.snd = some [.ok ()] := by
    decide +kernel
  obtain ⟨⟨s', results⟩, hline, rfl⟩ := Option.map_eq_some_iff.mp hdone
  exact ⟨s', hline⟩

end Reachable

end Scene

end Storyboard
