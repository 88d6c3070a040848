import Storyboard.Layout.Tool
import Storyboard.Proofs.Layout.Entries
import Storyboard.Proofs.Session.Reachable

/-!
# What layout tools answer

A layout tool is given a graph in which every node has its width, and answers, at best, with the
same text in which every node has its position instead. Here it is said what becomes of such an
answer: which nodes are found in it, what the lines of the edges may be mistaken for, and which node
is reported to be missing.

Main results:

- Theorem `Dot.Placed.contains_iff`: of the nodes that an answer places, those with readable names
  are found.
- Theorem `LayoutGraph.stray_eq_none`: the lines of the edges are taken for a position only if a
  name looks like one.
- Theorem `LayoutEngine.tool_of_answer`: a tool that answers so is told to have left out the first
  node whose name is not readable.
-/

namespace Storyboard

/-! ## The lines of the edges -/

namespace LayoutGraph

open Dot

variable {g : LayoutGraph} {attributes : String → String}

theorem toList_edgeLines (g : LayoutGraph) : g.edgeLines.toList =
    (g.edges.flatMap fun e => ('\x22' :: e.1.toList ++ '\x22' :: ' ' :: '-' :: '-' :: ' ' :: '\x22' ::
      e.2.toList ++ ['\x22']) ++ ';' :: ['\n']) ++ ['\x7d', '\n'] := by
  rw [edgeLines, String.toList_append, String.toList_join, List.flatMap_map]
  congr 2
  funext e
  simp [dotEdge, dotName]

/-- What occurs in the lines of the edges, and has none of the characters around the names, occurs
in a name. -/
theorem infix_edgeLines {needle : List Char} (hne : needle ≠ [])
    (hplain : ∀ c ∈ needle, c ∉ ['\x22', ' ', '-', ';', '\n', '\x7d'])
    (h : needle <:+: g.edgeLines.toList) :
    ∃ e ∈ g.edges, needle <:+: e.1.toList ∨ needle <:+: e.2.toList := by
  have hcons : ∀ {x : Char} {cs : List Char}, x ∈ ['\x22', ' ', '-', ';', '\n', '\x7d'] →
      needle <:+: x :: cs → needle <:+: cs := by
    intro x cs hx hoccurs
    rcases infix_append_cons (fun hmem => hplain x hmem hx) (a := []) hoccurs with h | h
    · exact absurd (List.infix_nil.mp h) hne
    · exact h
  have hquote : '\x22' ∉ needle := fun hmem => hplain _ hmem (by decide)
  rw [toList_edgeLines] at h
  revert h
  generalize g.edges = edges
  intro h
  induction edges with
  | nil => exact absurd (List.infix_nil.mp <| hcons (by simp) <| hcons (by simp) h) hne
  | cons e edges ih =>
      rw [List.flatMap_cons, List.append_assoc] at h
      generalize hrest : edges.flatMap _ ++ _ = rest at h ih
      have hsource : needle <:+: '\x22' :: (e.1.toList ++ '\x22' :: ' ' :: '-' :: '-' :: ' ' ::
          '\x22' :: (e.2.toList ++ '\x22' :: ';' :: '\n' :: rest)) := by simpa using h
      rcases infix_append_cons hquote (hcons (by simp) hsource) with h | htarget
      · exact ⟨e, List.mem_cons_self, .inl h⟩
      have htarget := hcons (by simp) <| hcons (by simp) <| hcons (by simp) <| hcons (by simp) <|
        hcons (by simp) htarget
      rcases infix_append_cons hquote htarget with h | h
      · exact ⟨e, List.mem_cons_self, .inr h⟩
      · obtain ⟨e', he', hoccurs⟩ := ih (hcons (by simp) <| hcons (by simp) h)
        exact ⟨e', List.mem_cons_of_mem e he', hoccurs⟩

/-- The entry that the lines of the edges are mistaken for. -/
def stray (g : LayoutGraph) : Option (String × Point) := node? g.edgeLines.toList

/-- The lines of the edges are mistaken for an entry only if a name looks like a position. -/
theorem stray_eq_none (h : ∀ e ∈ g.edges,
    ¬ "pos=".toList <:+: e.1.toList ∧ ¬ "pos=".toList <:+: e.2.toList) : g.stray = none := by
  rw [stray]
  by_cases hbracket : '[' ∈ g.edgeLines.toList
  · obtain ⟨a, b, hlines, hb⟩ := exists_last hbracket
    have hafter : after? "pos=\"".toList b = none := by
      rw [← Option.not_isSome_iff_eq_none]
      intro hmentions
      have hoccurs : "pos=".toList <:+: g.edgeLines.toList := by
        rw [hlines]
        exact List.IsInfix.trans ⟨[], ['\x22'], by decide⟩
          ((mentions_iff.mp hmentions).trans ⟨a ++ ['['], [], by simp⟩)
      obtain ⟨e, he, hoccurs⟩ := infix_edgeLines (by decide) (by simp) hoccurs
      exact hoccurs.elim (h e he).1 (h e he).2
    have hposition : position? b = none := by
      rw [position?, hafter]
      rfl
    rw [hlines, node?, splitLast?_append_cons hb]
    simp [hposition]
  · rw [node?, splitLast?_eq_none hbracket]
    rfl

theorem uncontinued_written (hnodes : ∀ n ∈ g.nodes, '\n' ∉ n.toList ∧ '\n' ∉ (attributes n).toList)
    (hedges : ∀ e ∈ g.edges, '\n' ∉ e.1.toList ∧ '\n' ∉ e.2.toList) :
    Uncontinued (g.written attributes).toList := by
  have hend : Uncontinued g.edgeLines.toList := by
    rw [toList_edgeLines]
    have hbrace : Uncontinued ([] ++ '\x7d' :: ['\n']) :=
      uncontinued_nil.line (by decide) (by decide)
    revert hedges
    generalize g.edges = edges
    intro hedges
    induction edges with
    | nil => exact hbrace
    | cons e edges ih =>
        obtain ⟨he, hedges⟩ := List.forall_mem_cons.mp hedges
        rw [List.flatMap_cons, List.append_assoc, List.append_assoc]
        exact (ih hedges).line (by simp [he]) (by decide)
  have hlines : Uncontinued (nodeLines attributes g.nodes ++ g.edgeLines.toList) := by
    revert hnodes
    generalize g.nodes = nodes
    intro hnodes
    induction nodes with
    | nil => exact hend
    | cons n nodes ih =>
        obtain ⟨hn, hnodes⟩ := List.forall_mem_cons.mp hnodes
        have hline : nodeLines attributes (n :: nodes) ++ g.edgeLines.toList =
            (nodeChars n (attributes n) ++ [']']) ++ ';' :: '\n' ::
              (nodeLines attributes nodes ++ g.edgeLines.toList) := by
          simp [nodeLines]
        rw [hline]
        exact (ih hnodes).line (by simp [nodeChars, hn]) (by decide)
  have hopen : "graph export \x7b".toList = "graph export ".toList ++ ['\x7b'] := by decide
  rw [toList_written, hopen, List.append_assoc]
  exact hlines.line (by decide) (by decide)

end LayoutGraph

/-! ## Answers that place all nodes -/

namespace Dot

open LayoutGraph

variable {g : LayoutGraph} {attributes : String → String} {value : String → Point}
  {spelling : String × String} {p : Point}

theorem mem_posAttribute (h : Spells spelling p) :
    ∀ c ∈ (posAttribute spelling).toList, c ∉ ['[', ']', '
'] := by
  have hplain : ∀ {c : Char}, Decimal.isPlain c → c ∉ ['[', ']', '
'] := by
    intro c hc hmem
    simp only [List.mem_cons, List.not_mem_nil, or_false] at hmem
    rcases hmem with rfl | rfl | rfl <;> exact absurd hc (by decide)
  have hopen : ∀ c ∈ "pos=\"".toList, c ∉ ['[', ']', '\n'] := by simp
  have hcomma : ∀ c ∈ ",".toList, c ∉ ['[', ']', '\n'] := by simp
  have hclose : ∀ c ∈ "\"".toList, c ∉ ['[', ']', '\n'] := by simp
  intro c hc
  simp only [posAttribute, String.toList_append, List.mem_append] at hc
  rcases hc with (((hc | hc) | hc) | hc) | hc
  · exact hopen c hc
  · exact hplain (Decimal.isPlain_of_numeral? h.1 c hc)
  · exact hcomma c hc
  · exact hplain (Decimal.isPlain_of_numeral? h.2 c hc)
  · exact hclose c hc

/-- The attribute lists have the positions of nodes, and the names leave lines and statements as
they are written. -/
structure Placed (g : LayoutGraph) (attributes : String → String) (value : String → Point) :
    Prop where
  position : ∀ n ∈ g.nodes, position? (attributes n).toList = some (value n)
  plain : ∀ n ∈ g.nodes, ∀ c ∈ (attributes n).toList, c ∉ ['[', ']', '
']
  lines : ∀ n ∈ g.nodes, '
' ∉ n.toList
  edges : ∀ e ∈ g.edges, e.1 ∈ g.nodes ∧ e.2 ∈ g.nodes

namespace Placed

variable (h : Placed g attributes value)

include h

theorem plain_brackets {n : String} (hn : n ∈ g.nodes) :
    '[' ∉ (attributes n).toList ∧ ']' ∉ (attributes n).toList :=
  ⟨fun hmem => h.plain n hn _ hmem (by decide), fun hmem => h.plain n hn _ hmem (by decide)⟩

theorem joinLines_written :
    joinLines (g.written attributes).toList = (g.written attributes).toList := by
  apply joinLines_eq_self
  apply uncontinued_written
  · intro n hn
    exact ⟨h.lines n hn, fun hmem => h.plain n hn _ hmem (by decide)⟩
  · intro e he
    exact ⟨h.lines _ (h.edges e he).1, h.lines _ (h.edges e he).2⟩

/-- A node is found exactly if its name is readable. -/
theorem contains_iff {n : String} (hn : n ∈ g.nodes) :
    (positions (g.written attributes)).contains n = true ↔ Readable n := by
  rw [Table.contains, Option.isSome_iff_exists]
  constructor
  · rintro ⟨p, hp⟩
    exact readable_of_get? hp
  · intro hname
    rw [positions, h.joinLines_written, toList_written]
    exact Table.exists_get?_ofList
      (mem_entries hn hname (h.plain_brackets hn) (h.position n hn) _ _)

theorem find?_missing : (g.nodes.find? fun n => !(positions (g.written attributes)).contains n) =
    g.nodes.find? fun n => !decide (Readable n) := by
  have hsame : ∀ n ∈ g.nodes,
      (!(positions (g.written attributes)).contains n) = !decide (Readable n) := by
    intro n hn
    rw [Bool.eq_iff_iff, Bool.not_eq_true', Bool.not_eq_true', decide_eq_false_iff_not,
      ← h.contains_iff hn, Bool.not_eq_true]
  rw [← List.head?_filter, List.filter_congr hsame, List.head?_filter]

/-- If all names are readable, the positions are those of the nodes and of what the lines of the
edges are mistaken for. -/
theorem positions_written (hnames : ∀ n ∈ g.nodes, Readable n) :
    positions (g.written attributes) =
      Table.ofList (g.nodes.map (fun n => (n, value n)) ++ g.stray.toList) := by
  have hclosing : ']' ∉ g.edgeLines.toList := by
    intro hmem
    obtain ⟨a, b, hlines⟩ := List.append_of_mem hmem
    have hoccurs : [']'] <:+: g.edgeLines.toList := ⟨a, b, by simp [hlines]⟩
    obtain ⟨e, he, hoccurs⟩ := infix_edgeLines (by decide) (by simp) hoccurs
    have hname : ∀ {n : String}, n ∈ g.nodes → ¬ [']'] <:+: n.toList := fun hn hin =>
      (hnames _ hn).uncut ']' (hin.subset List.mem_cons_self) (by decide)
    exact hoccurs.elim (hname (h.edges e he).1) (hname (h.edges e he).2)
  rw [positions, h.joinLines_written, toList_written,
    entries_eq hnames (fun n hn => h.plain_brackets hn) h.position (by decide) hclosing, stray]

end Placed

end Dot

/-! ## Tools -/

namespace LayoutEngine

open Dot LayoutGraph

variable {host : Host} {command text : String} {g : LayoutGraph}

/-- A command runs a program of the host, which ends successfully and answers a graph with a
text. -/
def Answers (host : Host) (command : String) (g : LayoutGraph) (text : String) : Prop :=
  ∃ name args run, Text.words command.toList = name :: args ∧ '\x00' ∉ command.toList ∧
    host.program? (String.ofList name) = some run ∧
    (run (args.map String.ofList) g.toDot.toUTF8.toList).status = 0 ∧
    (run (args.map String.ofList) g.toDot.toUTF8.toList).output = text.toUTF8.toList

theorem tool_eq_readPositions (h : Answers host command g text) :
    tool host command g = readPositions g text.toUTF8.toList := by
  obtain ⟨name, args, run, hwords, hzero, hrun, hstatus, houtput⟩ := h
  have hnull : command.toList.contains '\x00' = false := by simpa using hzero
  simp only [tool, hwords, hnull, hrun, hstatus, houtput, Bool.false_eq_true, if_false, if_true]

theorem readPositions_toUTF8 (g : LayoutGraph) (text : String) :
    readPositions g text.toUTF8.toList =
      match g.nodes.find? fun n => !(positions text).contains n with
      | some missing => .error (.missingNode missing)
      | none => .ok (positions text) := by
  cases hmissing : g.nodes.find? fun n => !(positions text).contains n with
  | some missing => simp only [readPositions, Text.fromUTF8?_toUTF8, hmissing]
  | none => simp only [readPositions, Text.fromUTF8?_toUTF8, hmissing]

/-- The first node whose name is not readable is missing; if there is none, the positions are those
of the nodes and of what the lines of the edges are mistaken for. -/
theorem tool_eq_of_placed {attributes : String → String} {value : String → Point}
    (hanswer : Answers host command g (g.written attributes)) (hplaced : Placed g attributes value) :
    tool host command g =
      match g.nodes.find? fun n => !decide (Readable n) with
      | some missing => .error (.missingNode missing)
      | none => .ok (Table.ofList (g.nodes.map (fun n => (n, value n)) ++ g.stray.toList)) := by
  rw [tool_eq_readPositions hanswer, readPositions_toUTF8, hplaced.find?_missing]
  cases hmissing : g.nodes.find? fun n => !decide (Readable n) with
  | some missing => rfl
  | none =>
      have hnames : ∀ n ∈ g.nodes, Readable n := by simpa using hmissing
      simp only [hplaced.positions_written hnames]

theorem placed_of_spells {spelling : String → String × String} {value : String → Point}
    (hspells : ∀ n ∈ g.nodes, Spells (spelling n) (value n))
    (hlines : ∀ n ∈ g.nodes, '\n' ∉ n.toList)
    (hedges : ∀ e ∈ g.edges, e.1 ∈ g.nodes ∧ e.2 ∈ g.nodes) :
    Placed g (fun n => posAttribute (spelling n)) value where
  position n hn := position?_of_spells (hspells n hn)
  plain n hn := mem_posAttribute (hspells n hn)
  lines := hlines
  edges := hedges

/-- A tool is given the widths of the nodes. If it answers with positions in their place, it is told
to have left out the first node whose name is not readable. If there is none, it is right about all
nodes, except where the lines of the edges are mistaken for the position of another one, which takes
a name that looks like a position. -/
theorem tool_of_answer {spelling : String → String × String} {value : String → Point}
    (hanswer : Answers host command g (g.written fun n => posAttribute (spelling n)))
    (hspells : ∀ n ∈ g.nodes, Spells (spelling n) (value n))
    (hlines : ∀ n ∈ g.nodes, '\n' ∉ n.toList)
    (hedges : ∀ e ∈ g.edges, e.1 ∈ g.nodes ∧ e.2 ∈ g.nodes) :
    (g.toDot = g.written fun _ => "width=\"2\"") ∧
    (tool host command g =
      match g.nodes.find? fun n => !decide (Readable n) with
      | some missing => .error (.missingNode missing)
      | none => .ok (Table.ofList (g.nodes.map (fun n => (n, value n)) ++ g.stray.toList))) ∧
    ((∃ found, tool host command g = .ok found ∧
        ∀ n, found.get? n = if n ∈ g.nodes then some (value n) else none) ↔
      (∀ n ∈ g.nodes, Readable n) ∧ ∀ e ∈ g.stray, e.1 ∈ g.nodes ∧ value e.1 = e.2) ∧
    ((∀ e ∈ g.edges, ¬ "pos=".toList <:+: e.1.toList ∧ ¬ "pos=".toList <:+: e.2.toList) →
      g.stray = none) := by
  have htool := tool_eq_of_placed hanswer (placed_of_spells hspells hlines hedges)
  refine ⟨g.toDot_eq, htool, ?_, stray_eq_none⟩
  cases hmissing : g.nodes.find? fun n => !decide (Readable n) with
  | none =>
      have hnames : ∀ n ∈ g.nodes, Readable n := by simpa using hmissing
      rw [hmissing] at htool
      rw [and_iff_right hnames, ← Table.get?_ofList_map_append_iff, htool]
      constructor
      · rintro ⟨found, hfound, hget⟩
        cases hfound
        exact hget
      · intro hget
        exact ⟨_, rfl, hget⟩
  | some missing =>
      rw [hmissing] at htool
      apply iff_of_false
      · rintro ⟨found, hfound, -⟩
        rw [htool] at hfound
        cases hfound
      · rintro ⟨hnames, -⟩
        have hunreadable := List.find?_some hmissing
        simp [hnames missing (List.mem_of_find?_eq_some hmissing)] at hunreadable

/-! ### Two graphs -/

/-- A host all of whose programs answer with one text. -/
def echoing (text : String) : Host :=
  ⟨fun _ => false, fun _ => some fun _ _ => ⟨0, text.toUTF8.toList, ""⟩⟩

theorem answers_echoing (g : LayoutGraph) (text : String) :
    Answers (echoing text) "neato" g text :=
  ⟨_, _, _, rfl, by decide, rfl, rfl, rfl⟩

/-- The point that `1` and `2` spell. -/
def corner : Point := ⟨Decimal.nearest 1 0, Decimal.nearest 2 0⟩

/-- Two linked nodes, one of which has a name of two words. -/
def linked : LayoutGraph := ⟨["a", "b c"], [("a", "b c")]⟩

/-- Both nodes are found where they are. -/
theorem positions_linked :
    Answers (echoing (linked.written fun _ => posAttribute ("1", "2"))) "neato" linked
      (linked.written fun _ => posAttribute ("1", "2")) ∧
    Spells ("1", "2") corner ∧
    ∃ found, tool (echoing (linked.written fun _ => posAttribute ("1", "2"))) "neato" linked
        = .ok found ∧
      ∀ n, found.get? n = if n ∈ linked.nodes then some corner else none := by
  have hanswer := answers_echoing linked (linked.written fun _ => posAttribute ("1", "2"))
  have hspells : Spells ("1", "2") corner := ⟨rfl, rfl⟩
  obtain ⟨-, -, hexact, hstray⟩ := @tool_of_answer _ _ _ (fun _ => ("1", "2")) (fun _ => corner)
    hanswer (fun _ _ => hspells) (by decide) (by decide)
  refine ⟨hanswer, hspells, hexact.mpr ⟨by decide, ?_⟩⟩
  rw [hstray (by decide)]
  rintro e ⟨⟩

/-- A box with the name of one of the words for defaults. -/
def reserved : Scene := Scene.Reachable.afterLine "define node box"

/-- The box is reported to be missing, although the tool answers with its position. -/
theorem missing_reserved : ∃ g, g = reserved.layoutGraph (reserved.layoutNodes reserved.liveNames) ∧
    g = ⟨["node"], []⟩ ∧ Spells ("1", "2") corner ∧
    Answers (echoing (g.written fun _ => posAttribute ("1", "2"))) "neato" g
      (g.written fun _ => posAttribute ("1", "2")) ∧
    tool (echoing (g.written fun _ => posAttribute ("1", "2"))) "neato" g
      = .error (.missingNode "node") := by
  have hgraph : reserved.layoutGraph (reserved.layoutNodes reserved.liveNames) = ⟨["node"], []⟩ := by
    decide +kernel
  have hspells : Spells ("1", "2") corner := ⟨rfl, rfl⟩
  have hplaced : Placed (reserved.layoutGraph (reserved.layoutNodes reserved.liveNames))
      (fun _ => posAttribute ("1", "2")) fun _ => corner :=
    placed_of_spells (fun _ _ => hspells) (by rw [hgraph]; decide) (reserved.mem_of_mem_edges _)
  refine ⟨_, rfl, hgraph, hspells, answers_echoing _ _, ?_⟩
  rw [tool_eq_of_placed (answers_echoing _ _) hplaced, hgraph]
  rfl

end LayoutEngine

end Storyboard
