import Storyboard.Proofs.Layout.Cutting
import Storyboard.Proofs.Table
import Storyboard.Proofs.Text

/-!
# Graphs that are read back

The writer puts names between quotes as they are and the reader has no tokens, so not every name is
found again. Here it is said which names are found at all, and that the statement of a node with
such a name is read as it was written, whatever stands before and after it.

Main results:

- Definition `Dot.Readable`: the names that the reader can find at all.
- Theorem `Dot.readable_of_get?`: it finds no others, in any text.
- Theorem `Dot.mem_entries`: a node with a readable name has its entry, whatever the other names are.
- Theorem `Dot.entries_eq`: if all names are readable, these entries and what follows the nodes are
  all there is.
-/

namespace Storyboard

/-! ## Readable names -/

namespace Dot

/-- The names that the reader can find: they are not empty and none of the words for defaults, are
not cut, are not mistaken for an edge, and do not begin or end with a quote. -/
structure Readable (name : String) : Prop where
  named : name ∉ ["", "graph", "node", "edge"]
  uncut : ∀ c ∈ name.toList, c ∉ [']', ';', '\x7b', '\n']
  untied : ¬ ['-', '-'] <:+: name.toList ∧ ¬ ['-', '>'] <:+: name.toList
  unquoted : name.toList.head? ≠ some '\x22' ∧ name.toList.getLast? ≠ some '\x22'

instance (name : String) : Decidable (Readable name) :=
  have : Decidable (∀ c ∈ name.toList, c ∉ [']', ';', '\x7b', '\n']) := List.decidableBAll _ _
  decidable_of_iff
    (name ∉ ["", "graph", "node", "edge"] ∧
      (∀ c ∈ name.toList, c ∉ [']', ';', '\x7b', '\n']) ∧
      (¬ ['-', '-'] <:+: name.toList ∧ ¬ ['-', '>'] <:+: name.toList) ∧
      name.toList.head? ≠ some '\x22' ∧ name.toList.getLast? ≠ some '\x22')
    ⟨fun ⟨a, b, c, d⟩ => ⟨a, b, c, d⟩, fun ⟨a, b, c, d⟩ => ⟨a, b, c, d⟩⟩

variable {name : String} {p : Point} {piece head front s : List Char}

/-- A statement has no character that ends one. -/
theorem mem_statement (head : List Char) :
    ∀ c ∈ statement head, c ∈ head ∧ c ∉ [';', '\x7b', '\n'] := by
  intro c hc
  have hlast := (Text.infix_trim _).subset hc
  generalize hpiece : (splitAt _ head).getLast? = piece at hlast
  cases piece with
  | none => cases hlast
  | some piece =>
      obtain ⟨hhead, hends⟩ := mem_of_mem_splitAt (List.mem_of_getLast? hpiece) c hlast
      refine ⟨hhead, ?_⟩
      simpa [and_assoc] using hends

/-- A statement is what follows the last end of a statement, without blanks around it. -/
theorem statement_append_newline (front s : List Char) :
    statement (front ++ '\n' :: s) = statement s := by
  unfold statement
  simp only
  rw [getLast?_splitAt_append_cons (by simp)]

theorem statement_of_uncut (h : ∀ c ∈ s, c ∉ [';', '\x7b', '\n']) : statement s = Text.trim s := by
  unfold statement
  simp only
  rw [splitAt_of_forall]
  · rfl
  · intro c hc
    simpa [and_assoc] using h c hc

/-- What a piece of text without closing brackets is read as has a readable name. -/
theorem readable_of_node? (hpiece : ']' ∉ piece) (h : node? piece = some (name, p)) :
    Readable name := by
  have hhead : ∀ {head attributes : List Char}, splitLast? '[' piece = some (head, attributes) →
      ∀ c ∈ head, c ∈ piece := by
    intro head attributes hsplit c hc
    have hbracket : '[' ∈ piece := by
      by_contra hnone
      rw [splitLast?_eq_none hnone] at hsplit
      cases hsplit
    obtain ⟨a, b, rfl, hb⟩ := exists_last hbracket
    rw [splitLast?_append_cons hb] at hsplit
    cases hsplit
    exact List.mem_append_left _ hc
  obtain ⟨⟨head, attributes⟩, hsplit, h⟩ := Option.bind_eq_some_iff.mp h
  simp only at h
  split at h
  · cases h
  · next hedge =>
    split at h
    · cases h
    · next hnamed =>
      obtain ⟨q, -, hname⟩ := Option.bind_eq_some_iff.mp h
      cases hname
      have hoccurs := infix_trimChar '\x22' (statement head)
      simp only [Bool.or_eq_true, not_or, mentions_iff] at hedge
      constructor
      · simpa [and_assoc] using hnamed
      · intro c hc
        rw [String.toList_ofList] at hc
        obtain ⟨hmem, hends⟩ := mem_statement head c (hoccurs.subset hc)
        have hclosing : c ≠ ']' := by
          rintro rfl
          exact hpiece (hhead hsplit _ hmem)
        simpa [hclosing] using hends
      · rw [String.toList_ofList]
        exact ⟨fun hdash => hedge.1 (hdash.trans hoccurs), fun harrow => hedge.2 (harrow.trans hoccurs)⟩
      · rw [String.toList_ofList]
        exact trimChar_ends '\x22' (statement head)

/-- Every name that is read in a text is readable. -/
theorem readable_of_get? {dot : String} (h : (positions dot).get? name = some p) :
    Readable name := by
  have hentry := Table.mem_of_get?_ofList h
  obtain ⟨piece, hpiece, hread⟩ := List.mem_filterMap.mp hentry
  refine readable_of_node? ?_ hread
  intro hbracket
  simpa using (mem_of_mem_splitAt hpiece _ hbracket).2

end Dot

/-! ## The text of a graph -/

namespace LayoutGraph

/-- The statement of a node with an attribute list. -/
def nodeStatement (name attributes : String) : String :=
  "  " ++ dotName name ++ " [" ++ attributes ++ "];\n"

/-- The lines of the edges and the end of the graph. -/
def edgeLines (g : LayoutGraph) : String := String.join (g.edges.map dotEdge) ++ "\x7d\n"

/-- The text of a graph with an attribute list for each node. -/
def written (g : LayoutGraph) (attributes : String → String) : String :=
  "graph export \x7b\n" ++ String.join (g.nodes.map fun n => nodeStatement n (attributes n))
    ++ g.edgeLines

/-- A tool is given the widths of the nodes. -/
theorem toDot_eq (g : LayoutGraph) : g.toDot = g.written fun _ => "width=\"2\"" := by
  have hnode : dotNode = fun n => nodeStatement n "width=\"2\"" := by
    funext n
    simp only [dotNode, nodeStatement, String.append_assoc]
    rfl
  delta toDot written edgeLines
  simp only [hnode, String.append_assoc]

/-- The attribute list of a position whose coordinates are spelled by two texts. -/
def posAttribute (spelling : String × String) : String :=
  "pos=\"" ++ spelling.1 ++ "," ++ spelling.2 ++ "\""

end LayoutGraph

namespace Dot

/-- Two texts spell the coordinates of a point. -/
def Spells (spelling : String × String) (p : Point) : Prop :=
  Decimal.numeral? spelling.1.toList = some p.x ∧ Decimal.numeral? spelling.2.toList = some p.y

variable {spelling : String × String} {p : Point} {name : String} {needle : List Char}

theorem coordinate?_eq {cs : List Char} {x : Float} (h : Decimal.numeral? cs = some x) :
    coordinate? cs = some x := by
  rw [coordinate?, Text.trim_eq_self, h]
  intro c hc
  exact Decimal.not_isBlank_of_isPlain (Decimal.isPlain_of_numeral? h c hc)

/-- A position that is spelled is read as it is. -/
theorem position?_of_spells (h : Spells spelling p) :
    position? (LayoutGraph.posAttribute spelling).toList = some p := by
  obtain ⟨hx, hy⟩ := h
  have hplain : ∀ c ∈ spelling.1.toList ++ ',' :: spelling.2.toList,
      Decimal.isPlain c ∨ c = ',' := by
    intro c hc
    rcases List.mem_append.mp hc with hc | hc
    · exact .inl (Decimal.isPlain_of_numeral? hx c hc)
    · rcases List.mem_cons.mp hc with rfl | hc
      · exact .inr rfl
      · exact .inl (Decimal.isPlain_of_numeral? hy c hc)
  generalize hvalue : spelling.1.toList ++ ',' :: spelling.2.toList = value at hplain
  have htext : (LayoutGraph.posAttribute spelling).toList =
      "pos=\"".toList ++ (value ++ ['\x22']) := by
    rw [← hvalue]
    simp [LayoutGraph.posAttribute]
  have hquote : ∀ c ∈ value, decide (c ≠ '\x22') = true := by
    intro c hc
    simp only [ne_eq, decide_eq_true_eq]
    rintro rfl
    exact absurd (hplain _ hc) (by decide)
  have hmark : value.reverse.dropWhile (· = '!') = value.reverse := by
    have hno : '!' ∉ value.reverse := by
      intro hmem
      exact absurd (hplain _ (List.mem_reverse.mp hmem)) (by decide)
    cases hback : value.reverse with
    | nil => rfl
    | cons c more =>
        apply List.dropWhile_cons_of_neg
        simp only [decide_eq_true_eq]
        rintro rfl
        exact hno (hback ▸ List.mem_cons_self)
  have hpieces : splitAt (· = ',') value = [spelling.1.toList, spelling.2.toList] := by
    have hcomma : ∀ {cs : List Char} {v : Float}, Decimal.numeral? cs = some v →
        splitAt (· = ',') cs = [cs] := by
      intro cs v hcs
      apply splitAt_of_forall
      intro c hc
      simp only [decide_eq_false_iff_not]
      rintro rfl
      exact absurd (Decimal.isPlain_of_numeral? hcs _ hc) (by decide)
    rw [← hvalue, splitAt_append_cons (by simp), hcomma hx, hcomma hy]
    rfl
  rw [htext, position?, after?_append (by decide)]
  simp only [Option.bind_eq_bind, Option.bind_some]
  rw [if_neg (by simp), List.takeWhile_append_of_pos hquote]
  simp [hmark, hpieces, coordinate?_eq hx, coordinate?_eq hy]

end Dot

/-- The edges of the graph of a scene join nodes of the graph. -/
theorem Scene.mem_of_mem_edges (s : Scene) (names : List String) :
    ∀ e ∈ (s.layoutGraph names).edges, e.1 ∈ names ∧ e.2 ∈ names := by
  intro e he
  obtain ⟨o, -, hedge⟩ := List.mem_filterMap.mp he
  unfold Scene.edge? at hedge
  split at hedge
  · obtain ⟨a, -, hedge⟩ := Option.bind_eq_some_iff.mp hedge
    obtain ⟨b, -, hedge⟩ := Option.bind_eq_some_iff.mp hedge
    split at hedge
    · next hboth =>
      cases hedge
      simpa using hboth
    · cases hedge
  · cases hedge

/-! ## Reading a graph back -/

namespace LayoutGraph

/-- The statement of a node up to the end of its attribute list. -/
def nodeChars (name attributes : String) : List Char :=
  ' ' :: ' ' :: '\x22' :: name.toList ++ '\x22' :: ' ' :: '[' :: attributes.toList

/-- The statements of nodes. -/
def nodeLines (attributes : String → String) (nodes : List String) : List Char :=
  nodes.flatMap fun n => nodeChars n (attributes n) ++ ']' :: ';' :: ['\n']

variable {g : LayoutGraph} {attributes : String → String}

theorem toList_written (g : LayoutGraph) (attributes : String → String) :
    (g.written attributes).toList =
      "graph export \x7b".toList ++ '\n' :: (nodeLines attributes g.nodes ++ g.edgeLines.toList) := by
  have hnodes : ∀ nodes : List String,
      (String.join (nodes.map fun n => nodeStatement n (attributes n))).toList =
        nodeLines attributes nodes := by
    intro nodes
    rw [String.toList_join, List.flatMap_map, nodeLines]
    congr 1
    funext n
    simp [nodeStatement, nodeChars, dotName]
  delta written
  rw [String.toList_append, String.toList_append, hnodes]
  simp

end LayoutGraph

namespace Dot

open LayoutGraph

variable {front s : List Char} {name attributes : String} {p : Point}

/-- A piece is read from its last line, except for the place of its opening bracket. -/
theorem node?_append_newline (h : '[' ∈ s ∨ '[' ∉ front) : node? (front ++ '\n' :: s) = node? s := by
  by_cases hs : '[' ∈ s
  · obtain ⟨a, b, rfl, hb⟩ := exists_last hs
    have hsplit : splitLast? '[' (front ++ '\n' :: (a ++ '[' :: b)) =
        some (front ++ '\n' :: a, b) := by
      rw [← List.cons_append, ← List.append_assoc, splitLast?_append_cons hb]
    simp only [node?, hsplit, splitLast?_append_cons hb, Option.bind_eq_bind, Option.bind_some,
      statement_append_newline]
  · have hfront : '[' ∉ front ++ '\n' :: s := by
      simp [h.resolve_left hs, hs]
    simp only [node?, splitLast?_eq_none hs, splitLast?_eq_none hfront]

/-- A readable name is read from its statement. -/
theorem node?_nodeChars (hname : Readable name) (hbracket : '[' ∉ attributes.toList)
    (hpos : position? attributes.toList = some p) :
    node? (nodeChars name attributes) = some (name, p) := by
  have hsplit : splitLast? '[' (nodeChars name attributes) =
      some (' ' :: ' ' :: '\x22' :: name.toList ++ '\x22' :: [' '], attributes.toList) := by
    rw [← splitLast?_append_cons hbracket]
    simp [nodeChars]
  have hstatement : statement (' ' :: ' ' :: '\x22' :: name.toList ++ '\x22' :: [' ']) =
      '\x22' :: (name.toList ++ ['\x22']) := by
    rw [statement_of_uncut]
    · simp [Text.trim, Text.trimStart, Text.trimEnd, Text.isBlank]
    · intro c hc
      rcases List.mem_append.mp hc with hc | hc
      · rcases List.mem_cons.mp hc with rfl | hc
        · decide
        rcases List.mem_cons.mp hc with rfl | hc
        · decide
        rcases List.mem_cons.mp hc with rfl | hc
        · decide
        exact fun h => hname.uncut c hc (List.mem_cons_of_mem _ h)
      · rcases List.mem_cons.mp hc with rfl | hc
        · decide
        · cases List.mem_singleton.mp hc
          decide
  have hedge : ∀ {needle : List Char}, '\x22' ∉ needle → needle ≠ [] → ¬ needle <:+: name.toList →
      mentions needle ('\x22' :: (name.toList ++ ['\x22'])) = false := by
    intro needle hquote hne hnone
    rw [← Bool.not_eq_true, mentions_iff]
    intro hoccurs
    rcases infix_append_cons hquote (a := []) hoccurs with h | h
    · exact hne (List.infix_nil.mp h)
    · rcases infix_append_cons hquote h with h | h
      · exact hnone h
      · exact hne (List.infix_nil.mp h)
  have hnamed := hname.named
  simp only [node?, hsplit, Option.bind_eq_bind, Option.bind_some, hstatement,
    hedge (by decide) (by decide) hname.untied.1, hedge (by decide) (by decide) hname.untied.2,
    trimChar_between hname.unquoted.1 hname.unquoted.2, String.ofList_toList, hpos]
  simp_all

/-- A statement up to its closing bracket has no other one. -/
theorem not_mem_nodeChars (hname : Readable name) (hbracket : ']' ∉ attributes.toList) :
    ∀ c ∈ nodeChars name attributes, decide (c = ']') = false := by
  have hclosing : ']' ∉ name.toList := fun hmem => hname.uncut _ hmem List.mem_cons_self
  intro c hc
  rw [decide_eq_false_iff_not]
  rintro rfl
  simp [nodeChars, hclosing, hbracket] at hc

/-- The entry of a node with a readable name, whatever is before and after its line. -/
theorem mem_entries {attributes : String → String} {nodes : List String} {n : String}
    (hn : n ∈ nodes) (hname : Readable n)
    (hplain : '[' ∉ (attributes n).toList ∧ ']' ∉ (attributes n).toList)
    (hpos : position? (attributes n).toList = some p) (front rest : List Char) :
    (n, p) ∈ (splitAt (· = ']') (front ++ '\n' :: (nodeLines attributes nodes ++ rest))).filterMap
      node? := by
  induction nodes generalizing front with
  | nil => cases hn
  | cons m nodes ih =>
      have hline : front ++ '\n' :: (nodeLines attributes (m :: nodes) ++ rest) =
          (front ++ '\n' :: nodeChars m (attributes m)) ++ ']' :: ([';'] ++ '\n' ::
            (nodeLines attributes nodes ++ rest)) := by
        simp [nodeLines]
      rw [hline, splitAt_append_cons (by simp), List.filterMap_append]
      rcases List.mem_cons.mp hn with rfl | hn
      · have huncut : ∀ c ∈ '\n' :: nodeChars n (attributes n), decide (c = ']') = false := by
          intro c hc
          rcases List.mem_cons.mp hc with rfl | hc
          · rfl
          · exact not_mem_nodeChars hname hplain.2 c hc
        obtain ⟨t, ht⟩ := exists_mem_splitAt front huncut
        refine List.mem_append_left _ (List.mem_filterMap.mpr ⟨_, ht, ?_⟩)
        rw [node?_append_newline (.inl (by simp [nodeChars])), node?_nodeChars hname hplain.1 hpos]
      · exact List.mem_append_right _ (ih hn [';'])

/-- If all names are readable, every node has its entry, and what follows the nodes is read as one
piece of text. -/
theorem entries_eq {attributes : String → String} {nodes : List String} {value : String → Point}
    (hname : ∀ n ∈ nodes, Readable n)
    (hplain : ∀ n ∈ nodes, '[' ∉ (attributes n).toList ∧ ']' ∉ (attributes n).toList)
    (hpos : ∀ n ∈ nodes, position? (attributes n).toList = some (value n))
    {front rest : List Char} (hfront : '[' ∉ front ∧ ']' ∉ front) (hrest : ']' ∉ rest) :
    (splitAt (· = ']') (front ++ '\n' :: (nodeLines attributes nodes ++ rest))).filterMap node? =
      nodes.map (fun n => (n, value n)) ++ (node? rest).toList := by
  have huncut : ∀ {line : List Char}, (∀ c ∈ line, decide (c = ']') = false) →
      ∀ {front : List Char}, ']' ∉ front → ∀ c ∈ front ++ '\n' :: line, decide (c = ']') = false := by
    intro line hline front hfront c hc
    rcases List.mem_append.mp hc with hc | hc
    · rw [decide_eq_false_iff_not]
      rintro rfl
      exact hfront hc
    · rcases List.mem_cons.mp hc with rfl | hc
      · rfl
      · exact hline c hc
  induction nodes generalizing front with
  | nil =>
      have hlast : ∀ c ∈ rest, decide (c = ']') = false := by
        intro c hc
        rw [decide_eq_false_iff_not]
        rintro rfl
        exact hrest hc
      rw [nodeLines, List.flatMap_nil, List.nil_append, splitAt_of_forall (huncut hlast hfront.2)]
      cases hread : node? rest with
      | none => simp [node?_append_newline (.inr hfront.1), hread]
      | some entry => simp [node?_append_newline (.inr hfront.1), hread]
  | cons n nodes ih =>
      have hline : front ++ '\n' :: (nodeLines attributes (n :: nodes) ++ rest) =
          (front ++ '\n' :: nodeChars n (attributes n)) ++ ']' :: ([';'] ++ '\n' ::
            (nodeLines attributes nodes ++ rest)) := by
        simp [nodeLines]
      obtain ⟨hn, hname⟩ := List.forall_mem_cons.mp hname
      obtain ⟨hplainn, hplain⟩ := List.forall_mem_cons.mp hplain
      obtain ⟨hposn, hpos⟩ := List.forall_mem_cons.mp hpos
      have hread : node? (front ++ '\n' :: nodeChars n (attributes n)) = some (n, value n) := by
        rw [node?_append_newline (.inr hfront.1), node?_nodeChars hn hplainn.1 hposn]
      rw [hline, splitAt_append_cons (by simp), List.filterMap_append,
        splitAt_of_forall (huncut (not_mem_nodeChars hn hplainn.2) hfront.2),
        ih hname hplain hpos (by decide)]
      simp [hread]

end Dot

end Storyboard
