import Storyboard.Proofs.Grammar.Tokens
import Storyboard.Proofs.Script.Scan

/-!
# The shape of accepted lines

A line that the strict grammar accepts either begins with `#` and is a comment as a whole, or
consists of segments between semicolons, each of which is blank or holds one command or one
comment, with spaces and tabs around it. The first segment is not a comment.

Main results:

- Definition `Segmented`: lines cut into segments.
- Theorem `line_cases`: the two kinds of accepted lines.
-/

namespace Storyboard.Grammar

open Storyboard.Grammar.Expr

/-! ## Segments -/

/-- A node that spells a command. -/
def Node.IsCommand (n : Node) : Prop :=
  ∃ v, n.rule = .command v ∧ Grammar.IsCommand v n.text n.children

/-- A text without quotes. -/
def Unquoted (t : List Char) : Prop := ∀ c ∈ t, Lexer.isQuote c = false

/-- A node that spells a comment, which holds semicolons only between quotes. -/
structure Node.IsComment (n : Node) : Prop where
  rule_eq : n.rule = .comment
  mark : ∃ u, n.text = '#' :: u
  semicolon : Unquoted n.text → ';' ∉ n.text

/-- The nodes of one segment. -/
def Segment (ns : List Node) : Prop := ns = [] ∨ ∃ n, ns = [n] ∧ (n.IsComment ∨ n.IsCommand)

/-- A line cut at the semicolons between its segments. -/
inductive Segmented : List Char → List Node → Prop
  | last {t ns} : Segment ns → Woven ns t → Segmented t ns
  | more {t ns u ms} : Segment ns → Woven ns t → Segmented u ms →
      Segmented (t ++ ';' :: u) (ns ++ ms)

theorem Segmented.gap_append {t b : List Char} {ns : List Node} (hb : ∀ c ∈ b, IsGap c)
    (h : Segmented t ns) : Segmented (b ++ t) ns := by
  cases h with
  | last hsegment hwoven => exact .last hsegment (hwoven.gap_append hb)
  | more hsegment hwoven hrest =>
      rw [← List.append_assoc]
      exact .more hsegment (hwoven.gap_append hb) hrest

theorem Segmented.append_gap {t b : List Char} {ns : List Node} (hb : ∀ c ∈ b, IsGap c)
    (h : Segmented t ns) : Segmented (t ++ b) ns := by
  have hgap : Woven [] b := hb
  induction h with
  | @last t ns hsegment hwoven =>
      have hend : Woven (ns ++ []) (t ++ b) := hwoven.append hgap
      rw [List.append_nil] at hend
      exact .last hsegment hend
  | more hsegment hwoven _ ih =>
      rw [List.append_assoc, List.cons_append]
      exact .more hsegment hwoven ih

/-! ## Statements -/

/-- A text between quotes holds quotes. -/
theorem not_unquoted_of_quotation {t : List Char} {ns : List Node} {rest : List Char}
    (h : Matched quotation .atomic t ns rest) : ¬ Unquoted t := by
  intro ht
  cases h with
  | left h =>
      cases h with
      | seq hopen _ _ =>
          cases hopen
          exact absurd (ht '\x22' (List.mem_append_left _ List.mem_cons_self)) (by decide)
  | right _ h =>
      cases h with
      | seq hopen _ _ =>
          cases hopen
          exact absurd (ht '\x27' (List.mem_append_left _ List.mem_cons_self)) (by decide)

/-- The inside of a comment without quotes holds no semicolons. -/
theorem semicolon_not_mem {t : List Char} {ns : List Node} {rest : List Char}
    (h : Matched (star (first [quotation, anyBut (first [lit ";", newline])])) .atomic t ns rest)
    (ht : Unquoted t) : ';' ∉ t := by
  generalize he : star (first [quotation, anyBut (first [lit ";", newline])]) = e at h
  generalize hmode : Mode.atomic = mode at h
  induction h with
  | stop => exact List.not_mem_nil
  | more hfirst hb _ _ ih =>
      subst hmode
      cases he
      cases hb
      rw [List.nil_append] at ht ⊢
      intro hmem
      rcases List.mem_append.mp hmem with hmem | hmem
      · cases hfirst with
        | left h =>
            exact not_unquoted_of_quotation h fun c hc => ht c (List.mem_append_left _ hc)
        | right _ h =>
            obtain ⟨x, rfl, hrefused⟩ := h.refused_of_anyBut
            exact hrefused.of_alt.1.ne_of_text (List.mem_singleton.mp hmem).symm
      · exact ih (fun c hc => ht c (List.mem_append_right _ hc)) rfl rfl hmem
  | text | folded | one | finish | seq | left | right | here | skip | absent | ahead | silent
    | rule => cases he

/-- The alternative that matched. -/
theorem exists_of_first {es : List Expr} {mode : Mode} {t : List Char} {ns : List Node}
    {rest : List Char} (hes : es ≠ []) (h : Matched (first es) mode t ns rest) :
    ∃ e ∈ es, Matched e mode t ns rest := by
  induction es with
  | nil => exact absurd rfl hes
  | cons e es ih =>
      cases es with
      | nil => exact ⟨e, List.mem_cons_self, h⟩
      | cons e' es =>
          cases h with
          | left h => exact ⟨e, List.mem_cons_self, h⟩
          | right _ h =>
              obtain ⟨e'', he, hm⟩ := ih (by simp) h
              exact ⟨e'', List.mem_cons_of_mem e he, hm⟩

/-- A statement is a single node. -/
theorem segment_of_statement {t : List Char} {ns : List Node} {rest : List Char}
    (h : Matched statement .spaced t ns rest) :
    ∃ n, ns = [n] ∧ t = n.text ∧ (n.IsComment ∨ n.IsCommand) := by
  obtain ⟨e, he, h⟩ := exists_of_first (by simp) h
  rcases List.mem_cons.mp he with rfl | he
  · cases h with
    | silent houter => cases houter
    | rule lineFeeds _ hbody =>
        cases hbody with
        | seq hsharp hb hinside =>
            cases hsharp
            cases hb
            refine ⟨_, rfl, rfl, .inl ⟨rfl, ⟨_, rfl⟩, ?_⟩⟩
            intro ht hmem
            rcases List.mem_cons.mp hmem with hmem | hmem
            · exact absurd hmem (by decide)
            · exact semicolon_not_mem hinside (fun c hc => ht c (List.mem_cons_of_mem _ hc)) hmem
  · obtain ⟨v, -, rfl⟩ := List.mem_map.mp he
    cases h with
    | silent houter => cases houter
    | rule lineFeeds _ hbody => exact ⟨_, rfl, rfl, .inr ⟨v, rfl, isCommand_of_matched hbody⟩⟩

/-- There may be no statement. -/
theorem segment_of_opt {t : List Char} {ns : List Node} {rest : List Char}
    (h : Matched (opt statement) .spaced t ns rest) :
    ns = [] ∧ t = [] ∨ ∃ n, ns = [n] ∧ t = n.text ∧ (n.IsComment ∨ n.IsCommand) := by
  cases h with
  | here h => exact .inr (segment_of_statement h)
  | skip => exact .inl ⟨rfl, rfl⟩

/-- A statement with gaps around it is a segment. -/
theorem woven_of_opt {t b b' : List Char} {ns : List Node} {rest : List Char}
    (h : Matched (opt statement) .spaced t ns rest) (hb : ∀ c ∈ b, IsGap c)
    (hb' : ∀ c ∈ b', IsGap c) : Segment ns ∧ Woven ns (b ++ (t ++ b')) := by
  have hgap : Woven [] b' := hb'
  rcases segment_of_opt h with ⟨rfl, rfl⟩ | ⟨n, rfl, rfl, hn⟩
  · exact ⟨.inl rfl, hgap.gap_append hb⟩
  · exact ⟨.inr ⟨n, rfl, hn⟩, ((Woven.singleton n).append hgap).gap_append hb⟩

/-- Puts what follows after a segment. -/
theorem segmented_of_tail {t u : List Char} {ns ms : List Node} (hsegment : Segment ns)
    (hwoven : Woven ns t) (htail : u = [] ∧ ms = [] ∨ ∃ u', u = ';' :: u' ∧ Segmented u' ms) :
    Segmented (t ++ u) (ns ++ ms) := by
  rcases htail with ⟨rfl, rfl⟩ | ⟨u', rfl, hu'⟩
  · rw [List.append_nil, List.append_nil]
    exact .last hsegment hwoven
  · exact .more hsegment hwoven hu'

/-- What follows the first statement of a line. -/
theorem tail_of_star {t : List Char} {ns : List Node} {rest : List Char}
    (h : Matched (star (seq (lit ";") (opt statement))) .spaced t ns rest) :
    t = [] ∧ ns = [] ∨ ∃ u, t = ';' :: u ∧ Segmented u ns := by
  generalize he : star (seq (lit ";") (opt statement)) = e at h
  generalize hmode : Mode.spaced = mode at h
  induction h with
  | stop => exact .inl ⟨rfl, rfl⟩
  | more hfirst hb _ _ ih =>
      subst hmode
      cases he
      have htail := ih rfl rfl
      cases hfirst with
      | seq hsemicolon hb' hopt =>
          cases hsemicolon
          obtain ⟨hsegment, hwoven⟩ := woven_of_opt hopt hb' hb
          refine .inr ⟨_, ?_, segmented_of_tail hsegment hwoven htail⟩
          simp
  | text | folded | one | finish | seq | left | right | here | skip | absent | ahead | silent
    | rule => cases he

/-! ## Lines -/

theorem isBlank_of_gap {c : Char} (h : IsGap c) : Text.isBlank c := by
  rcases h with rfl | rfl
  · decide
  · decide

/-- Gaps at the front do not decide whether a line is a comment. -/
theorem isComment_gap_append {b t : List Char} (hb : ∀ c ∈ b, IsGap c) :
    Lexer.isComment (b ++ t) = Lexer.isComment t := by
  unfold Lexer.isComment Text.trimStart
  rw [List.dropWhile_append_of_pos fun c hc => isBlank_of_gap (hb c hc)]

/-- A line that is not a comment as a whole does not begin with its mark. -/
theorem ne_of_commentLine_refused {c : Char} {t : List Char}
    (h : commentLine.Refused .spaced (c :: t)) : c ≠ '#' := by
  rcases h.of_rule.of_seq with h | ⟨u, h⟩
  · exact h.ne_of_text
  · exact absurd h Refused.not_star

/-- The keyword at the front of a command is not the mark of a comment. -/
theorem IsCommand.isComment_append {v : Verb} {t u : List Char} {ns : List Node}
    (h : IsCommand v t ns) : Lexer.isComment (t ++ u) = false := by
  obtain ⟨kw, ops, rfl, hrule, -⟩ := h.keyword
  obtain ⟨b, t', rfl, hb, -⟩ := h.woven
  have hplain : kw.Plain := (h.tokens kw List.mem_cons_self).plain (by simp [hrule])
  obtain ⟨c, w, htext, hc⟩ := hplain.exists_cons (by simp [hrule])
  have hmark : c ≠ '#' := by
    rintro rfl
    have hname := hplain.keyword v hrule
    rw [htext] at hname
    have hne : v.name.toList.head? ≠ some '#' := by
      cases v <;> decide
    exact hne (hname ▸ rfl)
  rw [htext, List.append_assoc, isComment_gap_append hb, List.append_assoc, List.cons_append,
    Lexer.isComment_cons (not_blank_of_ordinary hc), decide_eq_false hmark]

/-- A line is not a comment as a whole if it does not begin with the mark, with or without a
statement in front. -/
theorem isComment_of_opt {t u : List Char} {ns : List Node} {rest : List Char}
    (hopt : Matched (opt statement) .spaced t ns rest) (hhead : (t ++ u).head? ≠ some '#')
    (hu : Lexer.isComment u = false) : Lexer.isComment (t ++ u) = false := by
  rcases segment_of_opt hopt with ⟨-, rfl⟩ | ⟨n, -, rfl, hcomment | ⟨v, -, hcommand⟩⟩
  · exact hu
  · obtain ⟨x, hx⟩ := hcomment.mark
    rw [hx] at hhead
    exact absurd rfl hhead
  · exact hcommand.isComment_append

/-- Statements between semicolons, where the line is not a comment as a whole. -/
theorem segmented_of_matched {b t b' : List Char} {ns : List Node} {rest : List Char}
    (hb : ∀ c ∈ b, IsGap c) (hb' : ∀ c ∈ b', IsGap c)
    (hrefused : commentLine.Refused .spaced (t ++ b'))
    (h : Matched (seq (opt statement) (star (seq (lit ";") (opt statement)))) .spaced t ns rest) :
    Segmented (b ++ (t ++ b')) ns ∧ Lexer.isComment (b ++ (t ++ b')) = false := by
  cases h with
  | @seq _ _ _ p tail _ _ g _ hopt hg hstar =>
      have htail := tail_of_star hstar
      constructor
      · obtain ⟨hsegment, hwoven⟩ := woven_of_opt hopt (fun c hc => absurd hc List.not_mem_nil) hg
        have hsegmented := segmented_of_tail hsegment hwoven htail
        have hline := (hsegmented.append_gap hb').gap_append hb
        simpa only [List.nil_append, List.append_assoc] using hline
      · rw [isComment_gap_append hb, List.append_assoc]
        refine isComment_of_opt hopt ?_ ?_
        · intro hhead
          obtain ⟨x, hx⟩ := List.head?_eq_some_iff.mp hhead
          rw [List.append_assoc, hx] at hrefused
          exact ne_of_commentLine_refused hrefused rfl
        · rw [List.append_assoc, isComment_gap_append hg]
          rcases htail with ⟨rfl, -⟩ | ⟨u, rfl, -⟩
          · rw [List.nil_append, ← List.append_nil b', isComment_gap_append hb']
            rfl
          · rw [List.cons_append, Lexer.isComment_cons (by decide)]
            rfl

/-- An accepted line holds the content of a line between gaps, and its nodes come before the one
for the end of the line. -/
theorem lineBody_of_match? {text : List Char} {nodes : List Node}
    (h : match? line text = .ok nodes) :
    ∃ root ns eoi b t b', nodes = [root] ∧ root.children = ns ++ [eoi] ∧
      eoi.rule = .endOfInput ∧ text = b ++ (t ++ b') ∧ (∀ c ∈ b, IsGap c) ∧
      (∀ c ∈ b', IsGap c) ∧ Matched lineBody .spaced t ns b' := by
  obtain ⟨t, rest, rfl, hmatched⟩ := matched_of_match? h
  cases hmatched with
  | silent houter => cases houter
  | rule lineFeeds _ hbody =>
      cases hbody with
      | seq hstart hb hline =>
          cases hstart
          cases hline with
          | seq hbody hb' heoi =>
              cases heoi with
              | silent houter => cases houter
              | rule _ _ hfinish =>
                  cases hfinish
                  simp only [List.append_nil, List.nil_append] at hbody ⊢
                  exact ⟨_, _, _, _, _, _, rfl, rfl, rfl, rfl, hb, hb', hbody⟩

/-- The statements of an accepted line are those of the nodes of its content. -/
theorem lineBody_of_parseLine {number : Nat} {text : List Char} {stmts : List Statement}
    (h : parseLine number text = .ok stmts) :
    ∃ ns b t b', stmts = ns.filterMap (Node.statement? fun _ => number) ∧ text = b ++ (t ++ b') ∧
      (∀ c ∈ b, IsGap c) ∧ (∀ c ∈ b', IsGap c) ∧ Matched lineBody .spaced t ns b' := by
  cases hmatch : match? line text with
  | error e =>
      rw [parseLine, hmatch] at h
      cases h
  | ok nodes =>
      obtain ⟨root, ns, eoi, b, t, b', rfl, hchildren, heoi, htext, hb, hb', hbody⟩ :=
        lineBody_of_match? hmatch
      refine ⟨ns, b, t, b', ?_, htext, hb, hb', hbody⟩
      rw [parseLine, hmatch] at h
      injection h with h
      rw [← h]
      simp [statementsOf, hchildren, Node.statement?, heoi]

/-- The two kinds of accepted lines. -/
theorem line_cases {text : List Char} {nodes : List Node} (h : match? line text = .ok nodes) :
    ∃ root ns eoi, nodes = [root] ∧ root.children = ns ++ [eoi] ∧ eoi.rule = .endOfInput ∧
      ((∃ n, ns = [n] ∧ n.rule = .commentLine ∧ Lexer.isComment text) ∨
        Segmented text ns ∧ Lexer.isComment text = false) := by
  obtain ⟨root, ns, eoi, b, t, b', rfl, hchildren, heoi, rfl, hb, hb', hbody⟩ :=
    lineBody_of_match? h
  refine ⟨root, ns, eoi, rfl, hchildren, heoi, ?_⟩
  cases hbody with
  | left hcomment =>
      left
      cases hcomment with
      | silent houter => cases houter
      | rule _ _ hbody =>
          refine ⟨_, rfl, rfl, ?_⟩
          cases hbody with
          | seq hsharp _ _ =>
              cases hsharp
              rw [isComment_gap_append hb]
              rfl
  | right hrefused hsegments =>
      right
      exact segmented_of_matched hb hb' hrefused hsegments

end Storyboard.Grammar
