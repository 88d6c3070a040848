import Storyboard.Proofs.Grammar.Lines

/-!
# Accepted lines as transcripts of their statements

A line that the strict grammar accepts can be read back from its statements: it consists of
pieces between semicolons, and each piece is blank, is a comment, or holds the keyword and the
arguments of the next statement, in order and with nothing but spaces and tabs around them. A
comment ends at the first semicolon that is not between quotes; a quote that is never closed is a
character like any other.

Main results:

- Definition `Transcript`: how a line is made up of its statements.
- Theorem `remark_of_matched`: what a comment consists of.
- Theorem `source_of_isCommand`: what the text of a command consists of.
- Theorem `transcript_of_parseLine`: every accepted line is a transcript of its statements.
-/

namespace Storyboard.Grammar

open Storyboard.Grammar.Expr

/-! ## The source text of a statement -/

/-- The texts that stand for an argument: the argument itself, if it neither is empty nor begins
with a quote nor holds a separator, or the argument between two equal quotes that it does not
hold. -/
inductive Written : String → List Char → Prop
  | plain {arg : String} : arg.toList ≠ [] → (∀ c ∈ arg.toList, Inner c) →
      (∀ c ∈ arg.toList.head?, Lexer.isQuote c = false) → Written arg arg.toList
  | quoted {arg : String} {q : Char} : Lexer.isQuote q → q ∉ arg.toList →
      Written arg (q :: (arg.toList ++ [q]))

/-- Texts in order, with a gap before each of them. -/
def Spread : List (List Char) → List Char → Prop
  | [], t => t = []
  | tok :: toks, t => ∃ b u, t = b ++ (tok ++ u) ∧ (∀ c ∈ b, IsGap c) ∧ Spread toks u

/-- The source text of a statement: the keyword of its verb, in any letter case, and its
arguments in order, with gaps between them. -/
def Source (stmt : Statement) (t : List Char) : Prop :=
  ∃ keyword toks u, t = keyword ++ u ∧ keyword.map Char.toLower = stmt.verb.name.toList ∧
    List.Forall₂ Written stmt.args toks ∧ Spread toks u

/-- What is woven from nodes are their texts in order, and a gap after them. -/
theorem spread_of_woven {ns : List Node} {t : List Char} (h : Woven ns t) :
    ∃ u b, t = u ++ b ∧ (∀ c ∈ b, IsGap c) ∧ Spread (ns.map Node.text) u := by
  induction ns generalizing t with
  | nil => exact ⟨[], t, rfl, h, rfl⟩
  | cons n ns ih =>
      obtain ⟨b, u, rfl, hb, hu⟩ := h
      obtain ⟨v, b', rfl, hb', hv⟩ := ih hu
      refine ⟨b ++ (n.text ++ v), b', ?_, hb', b, v, rfl, hb, hv⟩
      simp only [List.append_assoc]

/-- The text of a token stands for its argument. -/
theorem Node.IsToken.written {n : Node} (h : n.IsToken) : Written n.argument n.text := by
  rcases h with hquoted | hplain
  · obtain ⟨q, inner, hq, hmem, htext, hargument⟩ := hquoted.quotes
    have hinner : n.argument.toList = inner := by rw [hargument, String.toList_ofList]
    rw [htext, ← hinner]
    exact .quoted hq (hinner ▸ hmem)
  · have hargument : n.argument.toList = n.text := by
      rw [argument_of_ne_string hplain.not_string, String.toList_ofList]
    have hwritten : Written n.argument n.argument.toList := by
      apply Written.plain
      · rw [hargument]
        exact hplain.ne_nil
      · rw [hargument]
        exact hplain.inner
      · rw [hargument]
        exact hplain.unquoted
    rwa [hargument] at hwritten

/-- The text of a command is the source text of its statement and a gap. -/
theorem source_of_isCommand {v : Verb} {t : List Char} {ns : List Node} (h : IsCommand v t ns)
    (number : Nat) :
    ∃ u b, t = u ++ b ∧ (∀ c ∈ b, IsGap c) ∧
      Source ⟨v, (ns.drop 1).map Node.argument, number⟩ u := by
  obtain ⟨kw, ops, rfl, hrule, hprefix⟩ := h.keyword
  obtain ⟨b, u, rfl, hb, hops⟩ := h.woven
  have hplain : kw.Plain := (h.tokens kw List.mem_cons_self).plain (by simp [hrule])
  -- A command begins with its keyword, so nothing precedes the keyword.
  have hnil : b = [] := by
    cases b with
    | nil => rfl
    | cons c b =>
        obtain ⟨x, w, hx⟩ := List.exists_cons_of_ne_nil hplain.ne_nil
        obtain ⟨v, hv⟩ := hprefix
        rw [hx] at hv
        have hxc : x = c := (List.cons.inj hv).1
        have hgap : IsGap x := hxc ▸ hb c List.mem_cons_self
        have hinner : Inner x := hplain.inner x (hx ▸ List.mem_cons_self)
        exact absurd hgap hinner.2
  subst hnil
  obtain ⟨w, b', rfl, hb', hspread⟩ := spread_of_woven hops
  refine ⟨kw.text ++ w, b', by simp, hb', kw.text, ops.map Node.text, w, rfl,
    hplain.keyword v hrule, ?_, hspread⟩
  rw [List.drop_one, List.tail_cons, List.forall₂_map_left_iff, List.forall₂_map_right_iff,
    List.forall₂_same]
  intro n hn
  exact (h.tokens n (List.mem_cons_of_mem kw hn)).written

/-! ## Comments -/

/-- The inside of a comment and the text that follows it: texts between quotes, which may hold
semicolons, and single characters other than semicolons and line separators. A quote is a single
character only if it is not closed in the line. -/
inductive Remark : List Char → List Char → Prop
  | done {rest} : Remark [] rest
  | quotation {q t u rest} : Lexer.isQuote q → q ∉ t → Remark u rest →
      Remark (q :: (t ++ q :: u)) rest
  | single {c u rest} : c ≠ ';' → c ≠ '\n' → c ≠ '\r' → (Lexer.isQuote c → c ∉ u ++ rest) →
      Remark u rest → Remark (c :: u) rest

/-- Blanks are characters like any other. -/
theorem remark_of_gap {b : List Char} (hb : ∀ c ∈ b, IsGap c) (rest : List Char) :
    Remark b rest := by
  induction b with
  | nil => exact .done
  | cons c b ih =>
      have hrest : Remark b rest := ih fun x hx => hb x (List.mem_cons_of_mem c hx)
      have hquote : Lexer.isQuote c → c ∉ b ++ rest := by
        rcases hb c List.mem_cons_self with rfl | rfl
        · intro hc
          cases hc
        · intro hc
          cases hc
      rcases hb c List.mem_cons_self with rfl | rfl
      · exact .single (by decide) (by decide) (by decide) hquote hrest
      · exact .single (by decide) (by decide) (by decide) hquote hrest

/-- A comment goes on over the blanks that follow it. -/
theorem Remark.append_gap {t b rest : List Char} (h : Remark t (b ++ rest))
    (hb : ∀ c ∈ b, IsGap c) : Remark (t ++ b) rest := by
  generalize hafter : b ++ rest = after at h
  induction h with
  | done => exact remark_of_gap hb rest
  | quotation hq hmem _ ih =>
      subst hafter
      rw [List.cons_append, List.append_assoc, List.cons_append]
      exact .quotation hq hmem (ih rfl)
  | single hsemicolon hfeed hreturn hquote _ ih =>
      subst hafter
      rw [← List.append_assoc] at hquote
      exact .single hsemicolon hfeed hreturn hquote (ih rfl)

/-! ### Where repetitions stop -/

/-- Further copies are taken until one is refused, if there is fuel for the whole text. -/
theorem refused_of_repeatMatch {e : Expr} {mode : Mode} (he : e.nonempty) (fuel : Nat)
    (c : Cursor) (a : Attempts) (hfuel : c.rest.length < fuel) :
    e.Refused mode
      (mode.skip (repeatMatch (e.run mode) mode.skip fuel c a).2.1).rest := by
  induction fuel generalizing c a with
  | zero => omega
  | succ fuel ih =>
      unfold repeatMatch
      split
      · next a' hrun => exact ⟨mode.skip c, a, rfl, by rw [hrun]⟩
      · next a' c' ns hrun =>
        -- A copy takes text, so less is left for the copies after it.
        obtain ⟨t, ht, hmatched⟩ := e.matched_of_run mode (mode.skip c) a c' ns (by rw [hrun])
        obtain ⟨b, -, hb⟩ := mode.rest_skip c
        have hpos : 0 < t.length := List.length_pos_iff.mpr (hmatched.ne_nil he)
        have hlength : c.rest.length = b.length + (t.length + c'.rest.length) := by
          rw [hb, ht, List.length_append, List.length_append]
        exact ih c' a' (by omega)

/-- A repetition inside an atomic rule takes a text up to a place where its body is refused. -/
theorem exists_of_star_run {e : Expr} (he : e.nonempty) (c : Cursor) (a : Attempts) :
    ∃ a' t c' ns, ((star e).run .atomic c a) = (a', some (c', ns)) ∧ c.rest = t ++ c'.rest ∧
      Matched (star e) .atomic t ns c'.rest ∧ e.Refused .atomic c'.rest := by
  obtain ⟨a', c', ns, hrun⟩ : ∃ a' c' ns, (star e).run .atomic c a = (a', some (c', ns)) := by
    unfold Expr.run
    split
    · exact ⟨_, _, _, rfl⟩
    · exact ⟨_, _, _, rfl⟩
  obtain ⟨t, ht, hmatched⟩ := (star e).matched_of_run .atomic c a c' ns (by rw [hrun])
  refine ⟨a', t, c', ns, hrun, ht, hmatched, ?_⟩
  unfold Expr.run at hrun
  split at hrun
  · next a₁ hfirst =>
    cases hrun
    exact ⟨c, a, rfl, by rw [hfirst]⟩
  · next a₁ c₁ ns₁ hfirst =>
    cases hrun
    exact refused_of_repeatMatch he (c₁.rest.length + 1) c₁ a₁ (Nat.lt_succ_self _)

/-- If the first part of a sequence is taken, the refusal is that of the second. -/
theorem second_refused {e₁ e₂ : Expr} {mode : Mode} {c c' : Cursor} {a a' : Attempts}
    {ns : List Node} (hfirst : e₁.run mode c a = (a', some (c', ns)))
    (h : ((seq e₁ e₂).run mode c a).2 = none) : (e₂.run mode (mode.skip c') a').2 = none := by
  simp only [Expr.run, hfirst] at h
  split at h
  · next a'' hsecond => rw [hsecond]
  · cases h

/-- A quotation is refused only if its quote is not closed. -/
theorem not_mem_of_quotation_refused {q : Char} {u : List Char}
    (h : (all [text [q], star (anyBut (text [q])), text [q]]).Refused .atomic (q :: u)) :
    q ∉ u := by
  obtain ⟨c, a, hc, hrun⟩ := h
  have hopen : (text [q]).run .atomic c a = (a, some (c.advance q u, [])) := by
    simp [Expr.run, Cursor.take?, hc]
  obtain ⟨a', t, c', ns, hstar, hu, hinside, hstop⟩ :=
    exists_of_star_run (e := anyBut (text [q])) rfl (c.advance q u) a
  have hclose : (text [q]).Refused .atomic c'.rest := by
    refine ⟨c', a', rfl, ?_⟩
    have hrest := second_refused hopen hrun
    exact second_refused hstar hrest
  have hu : u = t ++ c'.rest := hu
  rw [hu]
  intro hmem
  rcases List.mem_append.mp hmem with hmem | hmem
  · have hany : (anyBut (text [q])).TakesOnly (· ≠ q) := by
      intro x v hrefused
      exact hrefused.ne_of_text
    exact hinside.forall_chars hany q hmem rfl
  · cases hrest : c'.rest with
    | nil =>
        rw [hrest] at hmem
        cases hmem
    | cons x v =>
        rw [hrest] at hclose hstop
        have hne : x ≠ q := hclose.ne_of_text
        obtain ⟨c₂, a₂, hc₂, hrefused⟩ := hstop
        simp [anyBut, Expr.run, Cursor.take?, hc₂, hne, Mode.skip, CharClass.contains] at hrefused

/-! ### Derivations of comments -/

/-- A quotation takes two equal quotes and what is between them. -/
theorem exists_of_quotation_alternative {q : Char} {t : List Char} {ns : List Node}
    {rest : List Char}
    (h : Matched (all [text [q], star (anyBut (text [q])), text [q]]) .atomic t ns rest) :
    ∃ inner, q ∉ inner ∧ t = q :: (inner ++ [q]) := by
  have hany : (anyBut (text [q])).TakesOnly (· ≠ q) := by
    intro c u hrefused
    exact hrefused.ne_of_text
  cases h with
  | seq hopen hb hrest =>
      cases hb
      cases hopen
      cases hrest with
      | seq hinner hb hclose =>
          cases hb
          cases hclose
          refine ⟨_, ?_, rfl⟩
          intro hmem
          exact hinner.forall_chars hany q hmem rfl

/-- What stands between the mark of a comment and its end. -/
theorem remark_of_matched {t : List Char} {ns : List Node} {rest : List Char}
    (h : Matched (star (first [quotation, anyBut (first [lit ";", newline])])) .atomic t ns rest) :
    Remark t rest := by
  generalize he : star (first [quotation, anyBut (first [lit ";", newline])]) = e at h
  generalize hmode : Mode.atomic = mode at h
  induction h with
  | stop => exact .done
  | @more _ _ t₁ t₂ _ _ b rest hfirst hb _ _ ih =>
      subst hmode
      cases he
      cases hb
      have hmore : Remark t₂ rest := ih rfl rfl
      cases hfirst with
      | left hquotation =>
          obtain ⟨q, inner, hq, hmem, rfl⟩ : ∃ q inner, Lexer.isQuote q ∧ q ∉ inner ∧
              t₁ = q :: (inner ++ [q]) := by
            cases hquotation with
            | left h =>
                obtain ⟨inner, hmem, ht⟩ := exists_of_quotation_alternative h
                exact ⟨_, inner, rfl, hmem, ht⟩
            | right _ h =>
                obtain ⟨inner, hmem, ht⟩ := exists_of_quotation_alternative h
                exact ⟨_, inner, rfl, hmem, ht⟩
          have hwhole : q :: (inner ++ [q]) ++ ([] ++ t₂) = q :: (inner ++ q :: t₂) := by simp
          rw [hwhole]
          exact .quotation hq hmem hmore
      | right hunclosed h =>
          obtain ⟨x, rfl, hrefused⟩ := h.refused_of_anyBut
          obtain ⟨hsemicolon, hnewline⟩ := hrefused.of_alt
          obtain ⟨hfeed, hreturn⟩ := hnewline.of_alt
          obtain ⟨-, hreturn⟩ := hreturn.of_alt
          have hquote : Lexer.isQuote x → x ∉ t₂ ++ rest := by
            intro hx
            obtain ⟨hdouble, hsingle⟩ := hunclosed.of_alt
            rcases (by simpa [Lexer.isQuote] using hx : x = '\x22' ∨ x = '\x27') with rfl | rfl
            · exact not_mem_of_quotation_refused hdouble
            · exact not_mem_of_quotation_refused hsingle
          exact .single hsemicolon.ne_of_text hfeed.ne_of_text hreturn.ne_of_text hquote hmore
  | text | folded | one | finish | seq | left | right | here | skip | absent | ahead | silent
    | rule => cases he

/-! ## Lines -/

/-- A piece of a line, with the statement that it holds, if it holds one, and the text that
follows it. -/
inductive Piece : List Char → Option Statement → List Char → Prop
  | blank {b rest} : (∀ c ∈ b, IsGap c) → Piece b none rest
  | comment {b t rest} : (∀ c ∈ b, IsGap c) → Remark t rest → Piece (b ++ '#' :: t) none rest
  | statement {b t b' stmt rest} : (∀ c ∈ b, IsGap c) → Source stmt t → (∀ c ∈ b', IsGap c) →
      Piece (b ++ (t ++ b')) (some stmt) rest

/-- Pieces between semicolons, with the statements that they hold in order. -/
inductive Pieces : List Char → List Statement → Prop
  | last {t stmt} : Piece t stmt [] → Pieces t stmt.toList
  | more {t stmt u stmts} : Piece t stmt (';' :: u) → Pieces u stmts →
      Pieces (t ++ ';' :: u) (stmt.toList ++ stmts)

/-- How a line is made up of its statements. A line that begins with `#` holds none; the first
piece of any other line is not a comment. -/
inductive Transcript : List Char → List Statement → Prop
  | remark {b t} : (∀ c ∈ b, IsGap c) → (∀ c ∈ t, c ≠ '\n' ∧ c ≠ '\r') →
      Transcript (b ++ '#' :: t) []
  | pieces {t stmts} : Lexer.isComment t = false → Pieces t stmts → Transcript t stmts

/-- The text of an optional statement, with gaps around it, is a piece. -/
theorem piece_of_opt {t b b' : List Char} {ns : List Node} {rest : List Char} (number : Nat)
    (h : Matched (opt statement) .spaced t ns (b' ++ rest)) (hb : ∀ c ∈ b, IsGap c)
    (hb' : ∀ c ∈ b', IsGap c) :
    ∃ stmt, Piece (b ++ (t ++ b')) stmt rest ∧
      ns.filterMap (Node.statement? fun _ => number) = stmt.toList := by
  cases h with
  | skip =>
      have hgap : ∀ c ∈ b ++ ([] ++ b'), IsGap c := by
        intro c hc
        rcases List.mem_append.mp hc with hc | hc
        · exact hb c hc
        · exact hb' c hc
      exact ⟨none, .blank hgap, rfl⟩
  | here h =>
      obtain ⟨e, he, h⟩ := exists_of_first (by simp) h
      rcases List.mem_cons.mp he with rfl | he
      · cases h with
        | silent houter => cases houter
        | rule lineFeeds _ hbody =>
            cases hbody with
            | seq hsharp hgap hinside =>
                cases hsharp
                cases hgap
                refine ⟨none, ?_, rfl⟩
                exact .comment hb ((remark_of_matched hinside).append_gap hb')
      · obtain ⟨v, -, rfl⟩ := List.mem_map.mp he
        cases h with
        | silent houter => cases houter
        | @rule _ _ _ _ _ ns _ lineFeeds _ hbody =>
            obtain ⟨u, g, rfl, hg, hsource⟩ :=
              source_of_isCommand (isCommand_of_matched hbody) number
            refine ⟨some ⟨v, (ns.drop 1).map Node.argument, number⟩, ?_, rfl⟩
            rw [List.append_assoc]
            refine .statement hb hsource ?_
            intro c hc
            rcases List.mem_append.mp hc with hc | hc
            · exact hg c hc
            · exact hb' c hc

/-- An optional statement and what follows it are pieces, up to the blanks at the end of a line. -/
theorem pieces_of_opt {t b b' u rest : List Char} {ns ms : List Node} (number : Nat)
    (h : Matched (opt statement) .spaced t ns (b' ++ (u ++ rest))) (hb : ∀ c ∈ b, IsGap c)
    (hb' : ∀ c ∈ b', IsGap c) (hrest : ∀ c ∈ rest, IsGap c)
    (htail : u = [] ∧ ms = [] ∨ ∃ v, u = ';' :: v ∧
      Pieces (v ++ rest) (ms.filterMap (Node.statement? fun _ => number))) :
    Pieces (b ++ (t ++ (b' ++ (u ++ rest))))
      ((ns ++ ms).filterMap (Node.statement? fun _ => number)) := by
  rcases htail with ⟨rfl, rfl⟩ | ⟨v, rfl, hpieces⟩
  · have hgap : ∀ c ∈ b' ++ rest, IsGap c := by
      intro c hc
      rcases List.mem_append.mp hc with hc | hc
      · exact hb' c hc
      · exact hrest c hc
    have hopt : Matched (opt statement) .spaced t ns ((b' ++ rest) ++ []) := by simpa using h
    obtain ⟨stmt, hpiece, hstmt⟩ := piece_of_opt number hopt hb hgap
    rw [List.append_nil, hstmt]
    exact .last hpiece
  · have hopt : Matched (opt statement) .spaced t ns (b' ++ ';' :: (v ++ rest)) := h
    obtain ⟨stmt, hpiece, hstmt⟩ := piece_of_opt number hopt hb hb'
    have hmore := Pieces.more hpiece hpieces
    rw [← hstmt, ← List.filterMap_append] at hmore
    simpa only [List.append_assoc, List.cons_append] using hmore

/-- What follows the first statement of a line, up to the blanks at its end. -/
theorem pieces_of_star {t : List Char} {ns : List Node} {rest : List Char} (number : Nat)
    (h : Matched (star (seq (lit ";") (opt statement))) .spaced t ns rest)
    (hrest : ∀ c ∈ rest, IsGap c) :
    t = [] ∧ ns = [] ∨ ∃ u, t = ';' :: u ∧
      Pieces (u ++ rest) (ns.filterMap (Node.statement? fun _ => number)) := by
  generalize he : star (seq (lit ";") (opt statement)) = e at h
  generalize hmode : Mode.spaced = mode at h
  induction h with
  | stop => exact .inl ⟨rfl, rfl⟩
  | @more _ _ _ t₂ _ _ b _ hfirst hb _ _ ih =>
      subst hmode
      cases he
      have htail := ih hrest rfl rfl
      cases hfirst with
      | @seq _ _ _ _ t₁ _ _ b₁ _ hsemicolon hb' hopt =>
          cases hsemicolon
          have hpieces := pieces_of_opt number hopt hb' hb hrest htail
          rw [List.nil_append]
          refine .inr ⟨b₁ ++ (t₁ ++ (b ++ t₂)), by simp, ?_⟩
          simpa only [List.append_assoc] using hpieces
  | text | folded | one | finish | seq | left | right | here | skip | absent | ahead | silent
    | rule => cases he

/-- An accepted line is a transcript of its statements: nothing is dropped, repeated or put in
another order. -/
theorem transcript_of_parseLine {number : Nat} {text : List Char} {stmts : List Statement}
    (h : parseLine number text = .ok stmts) : Transcript text stmts := by
  obtain ⟨ns, b, t, b', rfl, rfl, hb, hb', hbody⟩ := lineBody_of_parseLine h
  cases hbody with
  | left hcomment =>
      cases hcomment with
      | silent houter => cases houter
      | rule _ _ hbody =>
          cases hbody with
          | @seq _ _ _ _ u _ _ _ _ hsharp hgap hinside =>
              cases hsharp
              cases hgap
              have hany : (anyBut newline).TakesOnly fun c => c ≠ '\n' ∧ c ≠ '\r' := by
                intro c v hrefused
                obtain ⟨hfeed, hreturn⟩ := hrefused.of_alt
                exact ⟨hfeed.ne_of_text, hreturn.of_alt.2.ne_of_text⟩
              have hline : ∀ c ∈ u ++ b', c ≠ '\n' ∧ c ≠ '\r' := by
                intro c hc
                rcases List.mem_append.mp hc with hc | hc
                · exact hinside.forall_chars hany c hc
                · rcases hb' c hc with rfl | rfl <;> decide
              exact .remark hb hline
  | right hrefused hsegments =>
      have hmark := (segmented_of_matched hb hb' hrefused hsegments).2
      refine .pieces hmark ?_
      cases hsegments with
      | seq hopt hg hstar =>
          have htail := pieces_of_star number hstar hb'
          have hpieces := pieces_of_opt number hopt hb hg hb' htail
          simpa only [List.append_assoc] using hpieces

/-- A line with a keyword in capitals, a quoted semicolon, an unclosed quote in its comment, and no
blank between two of its arguments. -/
theorem transcript_of_quoted :
    parseLine 3 " HIDE a\tb ; # \x22x;y\x22 don't; define t text \x22a;b\x2212 red".toList =
        .ok [⟨.hide, ["a", "b"], 3⟩, ⟨.define, ["t", "text", "a;b", "12", "red"], 3⟩] ∧
      Transcript " HIDE a\tb ; # \x22x;y\x22 don't; define t text \x22a;b\x2212 red".toList
        [⟨.hide, ["a", "b"], 3⟩, ⟨.define, ["t", "text", "a;b", "12", "red"], 3⟩] := by
  have hparse :
      parseLine 3 " HIDE a\tb ; # \x22x;y\x22 don't; define t text \x22a;b\x2212 red".toList =
        .ok [⟨.hide, ["a", "b"], 3⟩, ⟨.define, ["t", "text", "a;b", "12", "red"], 3⟩] := by
    decide +kernel
  exact ⟨hparse, transcript_of_parseLine hparse⟩

end Storyboard.Grammar
