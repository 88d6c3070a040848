import Storyboard.Proofs.Grammar.Overruns
import Storyboard.Text.Lines

/-!
# Scripts and their lines

A script is matched as a whole, with a grammar in which the content of a line is followed by a
line separator and the content of the next line. If the content of no line runs past the end of
the line, a script is accepted exactly when each of its lines is accepted alone, and its statements
are those of its lines in order, with the numbers of the lines. A text between quotes in a comment
may take the next lines with it; then statements are lost.

Main results:

- Definition `KeepsLines`: scripts in which the content of every line ends with the line.
- Theorem `parseScript_eq_ok_iff`: such scripts are read line by line.
- Theorem `parseScript_ne_lines`: two quotes in the comments of two lines hide a statement.
-/

namespace Storyboard

/-! ## Lines and what follows them -/

namespace Text

/-- What ends a line with a line feed, where the line has been read backwards so far. -/
def separator (line : List Char) : List Char :=
  if line.head? = some '\r' then ['\r', '\n'] else ['\n']

/-- The lines of a text, each with the text that follows it, of which the current line has been
read, last character first. -/
def linesAhead (current : List Char) : List Char → List (List Char × List Char)
  | [] => if current.isEmpty then [] else [(current.reverse, [])]
  | '\n' :: rest =>
      ((dropReturn current).reverse, separator current ++ rest) :: linesAhead [] rest
  | c :: rest => linesAhead (c :: current) rest

theorem reverse_dropReturn_append (line rest : List Char) :
    (dropReturn line).reverse ++ (separator line ++ rest) = line.reverse ++ '\n' :: rest := by
  rcases line with _ | ⟨c, line⟩
  · rfl
  · by_cases hc : c = '\r'
    · simp [dropReturn, separator, hc]
    · simp [dropReturn, separator, hc]

theorem not_mem_dropReturn {line : List Char} {c : Char} (h : c ∉ line) : c ∉ dropReturn line := by
  unfold dropReturn
  split
  · exact fun hmem => h (List.mem_cons_of_mem _ hmem)
  · exact h

/-- The lines of a text are the same, with or without what follows them. -/
theorem map_fst_linesAhead (current text : List Char) :
    (linesAhead current text).map Prod.fst = linesFrom current text := by
  fun_induction linesAhead current text with
  | case1 current h => simp [linesFrom, h]
  | case2 current h => simp [linesFrom, h]
  | case3 current rest ih => rw [List.map_cons, ih, linesFrom]
  | case4 current c rest hc ih =>
      rw [ih, linesFrom]
      exact hc

/-- A text cut into its lines, each with the text that follows it. -/
inductive Lined : List Char → List (List Char × List Char) → Prop
  | nil : Lined [] []
  | last {s} : '\n' ∉ s → Lined s [(s, [])]
  | more {s separator x ls} : '\n' ∉ s → separator = ['\n'] ∨ separator = ['\r', '\n'] →
      Lined x ls → Lined (s ++ (separator ++ x)) ((s, separator ++ x) :: ls)

theorem lined_linesAhead {current : List Char} (h : '\n' ∉ current) (text : List Char) :
    Lined (current.reverse ++ text) (linesAhead current text) := by
  fun_induction linesAhead current text with
  | case1 current hempty =>
      rw [List.isEmpty_iff.mp hempty]
      exact .nil
  | case2 current hempty =>
      rw [List.append_nil]
      exact .last (by simpa using h)
  | case3 current rest ih =>
      have hline : '\n' ∉ (dropReturn current).reverse := by
        simpa using not_mem_dropReturn h
      have hseparator : separator current = ['\n'] ∨ separator current = ['\r', '\n'] := by
        unfold separator
        split
        · exact .inr rfl
        · exact .inl rfl
      rw [← reverse_dropReturn_append]
      exact .more hline hseparator (ih List.not_mem_nil)
  | case4 current c rest hc ih =>
      have hmem : '\n' ∉ c :: current := by
        rw [List.mem_cons]
        rintro (heq | hmem)
        · exact hc heq.symm
        · exact h hmem
      simpa using ih hmem

end Text

namespace Grammar

open Storyboard.Grammar.Expr

/-! ## Statements and the end of the text -/

theorem Node.Copy.text_eq {n m : Node} (h : n.Copy m) : n.text = m.text := by
  cases h
  rfl

theorem Node.Copy.argument_eq {n m : Node} (h : n.Copy m) : n.argument = m.argument := by
  cases h with
  | @mk r k l t cs ds hchildren =>
      cases hchildren with
      | nil => rfl
      | cons hfirst _ =>
          by_cases hr : r = .string
          · subst hr
            exact congrArg String.ofList hfirst.text_eq
          · have hplain (k : Nat) (cs : List Node) :
                (Node.mk r k t cs).argument = String.ofList t :=
              argument_of_ne_string hr
            rw [hplain, hplain]

theorem Node.Copy.map_argument_eq {ns ms : List Node} (h : List.Forall₂ Node.Copy ns ms) :
    ns.map Node.argument = ms.map Node.argument := by
  induction h with
  | nil => rfl
  | cons hfirst _ ih => rw [List.map_cons, List.map_cons, hfirst.argument_eq, ih]

/-- A copy spells the same statement. -/
theorem Node.Copy.statement?_eq {n m : Node} (h : n.Copy m) :
    n.statement? (fun n => n.lineFeeds + 1) = m.statement? fun _ => n.lineFeeds + 1 := by
  cases h with
  | @mk r k _ _ cs ds hchildren =>
      have hargs : (cs.drop 1).map Node.argument = (ds.drop 1).map Node.argument := by
        rw [List.map_drop, List.map_drop, map_argument_eq hchildren]
      cases r
      case command v => exact congrArg (fun args => some (Statement.mk v args (k + 1))) hargs
      all_goals rfl

/-- The statements of copies in one line. -/
theorem statements_of_copies {k : Nat} {ns ms : List Node}
    (h : List.Forall₂ (fun n m => n.lineFeeds = k ∧ n.Copy m) ns ms) :
    ns.filterMap (Node.statement? fun n => n.lineFeeds + 1) =
      ms.filterMap (Node.statement? fun _ => k + 1) := by
  induction h with
  | nil => rfl
  | cons hfirst _ ih =>
      obtain ⟨rfl, hcopy⟩ := hfirst
      rw [List.filterMap_cons, List.filterMap_cons, hcopy.statement?_eq, ih]

/-- An expression up to the end of the text. -/
theorem run_seq_endOfInput {e : Expr} {c : Cursor} {att : Attempts} :
    ((seq e endOfInput).run .spaced c att).2 =
      (e.run .spaced c att).2.bind fun r =>
        if Mode.spaced.skipped r.1.rest = [] then
          some (Mode.spaced.skip r.1, r.2 ++ [.mk .endOfInput r.1.lineFeeds [] []])
        else none := by
  rw [run_seq]
  congr 1
  funext r
  rw [endOfInput, run_rule, Expr.run, Mode.rest_skip_eq]
  by_cases hend : Mode.spaced.skipped r.1.rest = []
  · rw [if_pos (List.isEmpty_iff.mpr hend), if_pos hend]
    have htext : (Mode.spaced.skip r.1).upTo (Mode.spaced.skip r.1) = [] := by
      rw [Cursor.upTo, Nat.sub_self, List.take_zero]
    have hmode : Style.inherited.outer .spaced ≠ .atomic := by decide
    simp only [Option.map_some, if_neg hmode, htext, Mode.lineFeeds_skip]
  · simp [hend]

/-- What is made of the nodes of a text. -/
theorem match?_map_eq_ok_iff {α : Type} {e : Expr} {text : List Char} {f : List Node → α} {a : α} :
    (match? e text).map f = .ok a ↔
      ∃ r, (e.run .spaced (.start text) .none).2 = some r ∧ f r.2 = a := by
  unfold match?
  rcases e.run .spaced (.start text) .none with ⟨att, _ | ⟨c, ns⟩⟩
  · simp [Except.map]
  · simp [Except.map]

/-- The statements of a line or a script are those of the nodes inside. -/
theorem statements_of_match {r : Rule} {e : Expr} {text : List Char} {stmts : List Statement}
    {lineOf : Node → Nat} :
    (match? (.rule r .inherited (seq startOfInput e)) text).map (statementsOf lineOf) =
        .ok stmts ↔
      ∃ c ns, (e.run .spaced (Mode.spaced.skip (.start text)) .none).2 = some (c, ns) ∧
        ns.filterMap (Node.statement? lineOf) = stmts := by
  have hfirst : startOfInput.run .spaced (.start text) .none =
      (.none, some (.start text, [])) := rfl
  have hinner : Style.inherited.inner .spaced = .spaced := rfl
  rw [match?_map_eq_ok_iff, run_rule, hinner, run_seq, hfirst]
  simp only [Option.bind_some]
  generalize (e.run .spaced (Mode.spaced.skip (.start text)) .none).2 = result
  rcases result with _ | ⟨c, ns⟩
  · simp
  · simp [statementsOf, Style.outer, Node.children]

/-- A line is accepted if its content takes all of it but blanks. -/
theorem parseLine_eq_ok_iff {n : Nat} {s : List Char} {stmts : List Statement} {d : Cursor}
    {ms : List Node}
    (h : (lineBody.run .spaced (Mode.spaced.skip (.start s)) .none).2 = some (d, ms)) :
    parseLine n s = .ok stmts ↔ Mode.spaced.skipped d.rest = [] ∧
      ms.filterMap (Node.statement? fun _ => n) = stmts := by
  refine statements_of_match.trans ?_
  change (∃ c ns, ((seq lineBody endOfInput).run .spaced _ .none).2 = some (c, ns) ∧ _) ↔ _
  rw [run_seq_endOfInput, h, Option.bind_some]
  have hnone (k : Nat) : (Node.mk .endOfInput k [] []).statement? (fun _ => n) = none := rfl
  by_cases hend : Mode.spaced.skipped d.rest = []
  · simp [hend, hnone]
  · simp [hend]

/-! ## One line of a script -/

/-- What the content of the first line of a text leaves of it. -/
def leftover (text : List Char) : List Char :=
  match (lineBody.run .spaced (Mode.spaced.skip (.start text)) .none).2 with
  | some (c, _) => Mode.spaced.skipped c.rest
  | none => text

/-- The content of a line does not run past its end where a text follows the line, and it does not
stop at a carriage return inside the line. -/
def KeepsLine (s t : List Char) : Prop :=
  t <:+ leftover (s ++ t) ∧ ((leftover (s ++ t)).head? = some '\r' → leftover (s ++ t) = t)

/-- The content of no line of a script runs past the end of the line, or stops at a carriage return
inside the line. -/
def KeepsLines (source : List Char) : Prop :=
  ∀ p ∈ Text.linesAhead [] source, KeepsLine p.1 p.2

instance (s t : List Char) : Decidable (KeepsLine s t) :=
  inferInstanceAs (Decidable (_ ∧ _))

instance (source : List Char) : Decidable (KeepsLines source) :=
  inferInstanceAs (Decidable (∀ p ∈ Text.linesAhead [] source, KeepsLine p.1 p.2))

/-- The content of a line is read at a cursor as in the line alone: it leaves the same end of the
line, and the nodes are copies. -/
structure ReadsLine (s t : List Char) (c : Cursor) (ns : List Node) (c' : Cursor) (u : List Char)
    (ms : List Node) : Prop where
  alone : ∃ d, (lineBody.run .spaced (Mode.spaced.skip (.start s)) .none).2 = some (d, ms) ∧
    d.rest = u
  rest : c'.rest = u ++ t
  lineFeeds : c'.lineFeeds = c.lineFeeds
  copies : List.Forall₂ (fun n m => n.lineFeeds = c.lineFeeds ∧ n.Copy m) ns ms
  newline : Mode.spaced.skipped u = [] ∨
    ∀ x ∈ (Mode.spaced.skipped u ++ t).head?, x ≠ '\n' ∧ x ≠ '\r'

theorem total_lineBody : lineBody.Total .spaced :=
  ((total_opt _ _).seq (total_star _ _)).alt

theorem leftover_eq {text : List Char} {c c' : Cursor} {att : Attempts} {ns : List Node}
    (hc : c.rest = text)
    (hrun : (lineBody.run .spaced (Mode.spaced.skip c) att).2 = some (c', ns)) :
    leftover text = Mode.spaced.skipped c'.rest := by
  have hskip : (Mode.spaced.skip c).rest = (Mode.spaced.skip (.start text)).rest := by
    rw [Mode.rest_skip_eq, Mode.rest_skip_eq, hc, Cursor.start]
  have hsame := lineBody.sameRest_run .spaced att .none hskip
  rw [hrun] at hsame
  unfold leftover
  split
  · next heq =>
    rw [heq] at hsame
    rw [hsame.rest_eq]
  · next heq =>
    rw [heq] at hsame
    cases hsame

/-- A line that keeps to itself is read where it stands as it is read alone. -/
theorem readsLine_of_keeps {s t : List Char} (hs : '\n' ∉ s) (ht : EndsLine t)
    (hkeeps : KeepsLine s t) {c : Cursor} (hc : c.rest = s ++ t) (att : Attempts) :
    ∃ c' ns u ms, (lineBody.run .spaced (Mode.spaced.skip c) att).2 = some (c', ns) ∧
      ReadsLine s t c ns c' u ms := by
  have hhere : (Mode.spaced.skip c).rest = Mode.spaced.skipped s ++ t := by
    rw [Mode.rest_skip_eq, hc, Mode.skipped_append ht]
  have halone : (Mode.spaced.skip (.start s)).rest = Mode.spaced.skipped s :=
    Mode.rest_skip_eq _ _
  have hs' : '\n' ∉ Mode.spaced.skipped s := Mode.not_mem_skipped hs
  have hsame := loose_lineBody _ t _ _ att .none ht hs' hhere halone
  rw [Mode.lineFeeds_skip] at hsame
  generalize hrun : (lineBody.run .spaced (Mode.spaced.skip c) att).2 = r at hsame
  generalize hrun' : (lineBody.run .spaced (Mode.spaced.skip (.start s)) .none).2 = r' at hsame
  cases hsame with
  | refused => exact absurd hrun (total_lineBody _ _)
  | @taken u c' d ns ms hc' hd hk hns =>
      refine ⟨c', ns, u, ms, rfl, ⟨d, hrun', hd⟩, hc', hk, hns, ?_⟩
      have hleft := leftover_eq hc hrun
      rw [hc', Mode.skipped_append ht] at hleft
      cases hu : Mode.spaced.skipped u with
      | nil => exact .inl rfl
      | cons x v =>
          right
          rintro y ⟨⟩
          constructor
          · rintro rfl
            have hend : '\n' ∉ u := hd ▸ not_mem_rest_of_run hrun' (halone ▸ hs')
            have hskipped : '\n' ∉ Mode.spaced.skipped u := Mode.not_mem_skipped hend
            rw [hu] at hskipped
            exact hskipped List.mem_cons_self
          · rintro rfl
            -- The content stops at the carriage return, so it ends the line.
            have hall := hkeeps.2
            rw [hleft, hu] at hall
            have hlength := congrArg List.length (hall rfl)
            simp at hlength
            omega
  | @passed c' ns r' hlt hlost =>
      have hle := hkeeps.1.length_le
      rw [leftover_eq hc hrun] at hle
      have hskipped := Mode.spaced.length_skipped_le c'.rest
      omega

/-! ## All lines of a script -/

/-- Lines are accepted one by one, from line number `n` on, with these statements in all. -/
def ReadLines (n : Nat) (lines : List (List Char)) (stmts : List Statement) : Prop :=
  ∃ parts, List.Forall₂ (fun p part => parseLine p.2 p.1 = .ok part) (lines.zipIdx n) parts ∧
    stmts = parts.flatten

theorem readLines_nil {n : Nat} {stmts : List Statement} : ReadLines n [] stmts ↔ stmts = [] := by
  simp [ReadLines]

theorem readLines_cons {n : Nat} {s : List Char} {lines : List (List Char)}
    {stmts : List Statement} : ReadLines n (s :: lines) stmts ↔
      ∃ a b, parseLine n s = .ok a ∧ ReadLines (n + 1) lines b ∧ stmts = a ++ b := by
  unfold ReadLines
  simp only [List.zipIdx_cons, List.forall₂_cons_left_iff]
  constructor
  · rintro ⟨parts, ⟨a, rest, ha, hrest, rfl⟩, rfl⟩
    exact ⟨a, rest.flatten, ha, ⟨rest, hrest, rfl⟩, rfl⟩
  · rintro ⟨a, b, ha, ⟨rest, hrest, rfl⟩, rfl⟩
    exact ⟨a :: rest, ⟨a, rest, ha, hrest, rfl⟩, rfl⟩

/-- An empty line after the last line separator makes no difference. -/
theorem readLines_empty {n : Nat} {stmts : List Statement} :
    ReadLines n [[]] stmts ↔ ReadLines n [] stmts := by
  have hempty : parseLine n [] = .ok [] := rfl
  simp [readLines_cons, readLines_nil, hempty]

/-- A line separator and the content of the line after it. -/
abbrev furtherLine : Expr := seq newline lineBody

/-- After the content of a line, whose nodes are given, a script is read to its end as further
lines are. -/
def ReadsOn (c : Cursor) (ns : List Node) (n : Nat) (lines : List (List Char)) : Prop :=
  ∀ att fuel, (∀ r, (furtherLine.run .spaced (Mode.spaced.skip c) att).2 = some r →
      r.1.rest.length < fuel) → ∀ stmts,
    let more := (repeatMatch (furtherLine.run .spaced) Mode.spaced.skip (fuel + 1) c att).2
    Mode.spaced.skipped more.1.rest = [] ∧
        (ns ++ more.2).filterMap (Node.statement? fun n => n.lineFeeds + 1) = stmts ↔
      ReadLines n lines stmts

theorem endsLine_separator {separator x : List Char}
    (hseparator : separator = ['\n'] ∨ separator = ['\r', '\n']) : EndsLine (separator ++ x) := by
  rcases hseparator with rfl | rfl
  · simp [EndsLine]
  · simp [EndsLine]

theorem run_newline {c : Cursor} {separator x : List Char} (mode : Mode) (att : Attempts)
    (hseparator : separator = ['\n'] ∨ separator = ['\r', '\n'])
    (hc : c.rest = separator ++ x) :
    ∃ c', (newline.run mode c att).2 = some (c', []) ∧ c'.rest = x ∧
      c'.lineFeeds = c.lineFeeds + 1 := by
  have hnewline : newline = alt (text ['\n']) (alt (text ['\r', '\n']) (text ['\r'])) := rfl
  rcases hseparator with rfl | rfl
  · have hrun : (text ['\n']).run mode c att = (att, some (c.advance '\n' x, [])) := by
      simp [Expr.run, Cursor.take?, hc]
    rw [hnewline, run_alt, hrun]
    exact ⟨_, rfl, rfl, rfl⟩
  · have hfeed : (text ['\n']).run mode c att = (att, none) := by
      simp [Expr.run, Cursor.take?, hc]
    have hrun : (text ['\r', '\n']).run mode c att =
        (att, some ((c.advance '\r' ('\n' :: x)).advance '\n' x, [])) := by
      simp [Expr.run, Cursor.take?, hc, Cursor.advance]
    rw [hnewline, run_alt, hfeed, run_alt, hrun]
    exact ⟨_, rfl, rfl, rfl⟩

theorem furtherLine_refused {c : Cursor} {att : Attempts}
    (h : ∀ x ∈ c.rest.head?, x ≠ '\n' ∧ x ≠ '\r') : (furtherLine.run .spaced c att).2 = none := by
  have hpeeks : newline.Peeks .spaced _ := peeks_newline
  have hnone : (newline.run .spaced c att).2 = none := by
    rw [← Option.isNone_iff_eq_none, ← Option.not_isSome, hpeeks c att]
    cases hhead : c.rest.head? with
    | none => rfl
    | some x =>
        obtain ⟨hfeed, hreturn⟩ := h x hhead
        simp [hfeed, hreturn]
  rw [run_seq, hnone]
  rfl

/-- A further line is read. -/
theorem furtherLine_taken {c c₁ c₂ : Cursor} {att : Attempts} {ns : List Node}
    (hnewline : (newline.run .spaced c att).2 = some (c₁, []))
    (hbody : (lineBody.run .spaced (Mode.spaced.skip c₁) (newline.run .spaced c att).1).2 =
      some (c₂, ns)) : (furtherLine.run .spaced c att).2 = some (c₂, ns) := by
  rw [run_seq, hnewline, Option.bind_some, hbody]
  rfl

/-- The statements of a line are those of the nodes that are made where it stands. -/
theorem ReadsLine.parseLine_eq_ok_iff {s t u : List Char} {c c' : Cursor} {ns ms : List Node}
    {stmts : List Statement} (h : ReadsLine s t c ns c' u ms) :
    parseLine (c.lineFeeds + 1) s = .ok stmts ↔ Mode.spaced.skipped u = [] ∧
      ns.filterMap (Node.statement? fun n => n.lineFeeds + 1) = stmts := by
  obtain ⟨d, hd, rfl⟩ := h.alone
  rw [Grammar.parseLine_eq_ok_iff hd, statements_of_copies h.copies]

/-- Where no further line begins, a script goes on no further. -/
theorem repeatMatch_refused {c : Cursor} {att : Attempts} {fuel : Nat}
    (h : ∀ x ∈ (Mode.spaced.skipped c.rest).head?, x ≠ '\n' ∧ x ≠ '\r') :
    (repeatMatch (furtherLine.run .spaced) Mode.spaced.skip (fuel + 1) c att).2 = (c, []) := by
  rw [← Mode.rest_skip_eq] at h
  rw [repeatMatch_succ, furtherLine_refused h, firstCopy_none]

/-- The last line of a script. -/
theorem readsOn_last {s u : List Char} {c c' : Cursor} {ns ms : List Node}
    (h : ReadsLine s [] c ns c' u ms) : ReadsOn c' ns (c.lineFeeds + 1) [s] := by
  have hrest : c'.rest = u := by rw [h.rest, List.append_nil]
  have hrefused : ∀ x ∈ (Mode.spaced.skipped c'.rest).head?, x ≠ '\n' ∧ x ≠ '\r' := by
    rw [hrest]
    rcases h.newline with hend | hnext
    · simp [hend]
    · simpa using hnext
  intro att fuel _ stmts
  simp only [repeatMatch_refused hrefused, hrest, List.append_nil, readLines_cons, readLines_nil]
  rw [← h.parseLine_eq_ok_iff]
  simp

/-- A line that is not the last one of a script. -/
theorem readsOn_more {s u separator x : List Char} {c c' : Cursor} {ns ms : List Node}
    {lines : List (List Char)} (hseparator : separator = ['\n'] ∨ separator = ['\r', '\n'])
    (h : ReadsLine s (separator ++ x) c ns c' u ms)
    (hmore : ∀ {c : Cursor} (att : Attempts), c.rest = x → ∃ c' ns,
      (lineBody.run .spaced (Mode.spaced.skip c) att).2 = some (c', ns) ∧
        ReadsOn c' ns (c.lineFeeds + 1) lines) :
    ReadsOn c' ns (c.lineFeeds + 1) (s :: lines) := by
  have hrest : Mode.spaced.skipped c'.rest = Mode.spaced.skipped u ++ (separator ++ x) := by
    rw [h.rest, Mode.skipped_append (endsLine_separator hseparator)]
  intro att fuel hfuel stmts
  rw [readLines_cons]
  by_cases hend : Mode.spaced.skipped u = []
  · have hskip : (Mode.spaced.skip c').rest = separator ++ x := by
      rw [Mode.rest_skip_eq, hrest, hend, List.nil_append]
    obtain ⟨c₁, hnewline, hx, hfeeds⟩ := run_newline .spaced att hseparator hskip
    obtain ⟨c₂, ns₂, hbody, hon⟩ := hmore (newline.run .spaced (Mode.spaced.skip c') att).1 hx
    have hcopy := furtherLine_taken hnewline hbody
    have hlt : c₂.rest.length < fuel := hfuel _ hcopy
    obtain ⟨fuel, rfl⟩ : ∃ f, fuel = f + 1 := ⟨fuel - 1, by omega⟩
    have hfuel₂ : ∀ r, (furtherLine.run .spaced (Mode.spaced.skip c₂)
        (furtherLine.run .spaced (Mode.spaced.skip c') att).1).2 = some r →
          r.1.rest.length < fuel := by
      intro r hr
      have hshorter := length_lt_of_run (e := furtherLine) rfl hr
      have hskipped := Mode.spaced.length_skipped_le c₂.rest
      rw [Mode.rest_skip_eq] at hshorter
      omega
    have hlines := hon (furtherLine.run .spaced (Mode.spaced.skip c') att).1 fuel hfuel₂
    rw [hfeeds, Mode.lineFeeds_skip, h.lineFeeds] at hlines
    rw [repeatMatch_succ, hcopy, firstCopy_some]
    constructor
    · rintro ⟨hlast, rfl⟩
      refine ⟨_, _, h.parseLine_eq_ok_iff.mpr ⟨hend, rfl⟩, (hlines _).mp ⟨hlast, rfl⟩, ?_⟩
      rw [List.filterMap_append]
    · rintro ⟨a, b, ha, hb, rfl⟩
      obtain ⟨-, rfl⟩ := h.parseLine_eq_ok_iff.mp ha
      obtain ⟨hlast, rfl⟩ := (hlines _).mpr hb
      exact ⟨hlast, List.filterMap_append⟩
  · have hrefused : ∀ x ∈ (Mode.spaced.skipped c'.rest).head?, x ≠ '\n' ∧ x ≠ '\r' := by
      rw [hrest]
      exact h.newline.resolve_left hend
    simp only [repeatMatch_refused hrefused, hrest]
    constructor
    · rintro ⟨hnil, -⟩
      exact absurd (List.append_eq_nil_iff.mp hnil).1 hend
    · rintro ⟨a, b, ha, -⟩
      exact absurd (h.parseLine_eq_ok_iff.mp ha).1 hend

/-- Every line of a text is read as it is read alone. -/
theorem readsOn_of_lined {x : List Char} {ls : List (List Char × List Char)}
    (hlined : Text.Lined x ls) (hkeeps : ∀ p ∈ ls, KeepsLine p.1 p.2) {c : Cursor}
    (att : Attempts) (hc : c.rest = x) :
    ∃ c' ns, (lineBody.run .spaced (Mode.spaced.skip c) att).2 = some (c', ns) ∧
      ReadsOn c' ns (c.lineFeeds + 1) (ls.map Prod.fst) := by
  induction hlined generalizing c att with
  | nil =>
      have hline : KeepsLine [] [] := by decide
      obtain ⟨c', ns, u, ms, hrun, hreads⟩ := readsLine_of_keeps List.not_mem_nil
        (by simp [EndsLine]) hline (by rw [hc, List.append_nil]) att
      refine ⟨c', ns, hrun, fun att fuel hfuel stmts => ?_⟩
      rw [List.map_nil, ← readLines_empty]
      exact readsOn_last hreads att fuel hfuel stmts
  | @last s hs =>
      have hline := hkeeps _ List.mem_cons_self
      obtain ⟨c', ns, u, ms, hrun, hreads⟩ := readsLine_of_keeps hs (by simp [EndsLine]) hline
        (by rw [hc, List.append_nil]) att
      exact ⟨c', ns, hrun, readsOn_last hreads⟩
  | @more s separator x ls hs hseparator _ ih =>
      have hline := hkeeps _ List.mem_cons_self
      obtain ⟨c', ns, u, ms, hrun, hreads⟩ :=
        readsLine_of_keeps hs (endsLine_separator hseparator) hline hc att
      exact ⟨c', ns, hrun,
        readsOn_more hseparator hreads (ih fun p hp => hkeeps p (List.mem_cons_of_mem _ hp))⟩

/-- A repetition goes on after its first copy as further copies do. -/
theorem run_star_skip (e : Expr) (mode : Mode) (c : Cursor) (att : Attempts) :
    ∃ r fuel, ((star e).run mode (mode.skip c) att).2 = some r ∧
      (∀ x, (e.run mode (mode.skip c) att).2 = some x → x.1.rest.length < fuel) ∧
      mode.skipped r.1.rest =
        mode.skipped (repeatMatch (e.run mode) mode.skip (fuel + 1) c att).2.1.rest ∧
      r.2 = (repeatMatch (e.run mode) mode.skip (fuel + 1) c att).2.2 := by
  rw [run_star]
  cases hcopy : (e.run mode (mode.skip c) att).2 with
  | none =>
      refine ⟨_, 0, rfl, nofun, ?_⟩
      rw [repeatMatch_succ, hcopy]
      simp only [firstCopy_none, mode.rest_skip_eq, mode.skipped_skipped, and_self]
  | some x =>
      refine ⟨_, x.1.rest.length + 1, rfl, ?_, ?_⟩
      · rintro y ⟨⟩
        exact Nat.lt_succ_self _
      · rw [repeatMatch_succ, hcopy]
        exact ⟨rfl, rfl⟩

/-- A script whose lines keep to themselves is accepted exactly when every line of it is accepted
alone; its statements are those of its lines in order, with the numbers of the lines. -/
theorem parseScript_eq_ok_iff {source : List Char} (hkeeps : KeepsLines source)
    {stmts : List Statement} :
    parseScript source = .ok stmts ↔
      ∃ parts, List.Forall₂ (fun p part => parseLine p.2 p.1 = .ok part)
        ((Text.lines source).zipIdx 1) parts ∧ stmts = parts.flatten := by
  have hlined := Text.lined_linesAhead List.not_mem_nil source
  obtain ⟨c', ns, hbody, hon⟩ := readsOn_of_lined hlined hkeeps (c := .start source) .none rfl
  rw [Text.map_fst_linesAhead] at hon
  refine statements_of_match.trans ?_
  change (∃ c ns, ((seq lineBody (seq (star furtherLine) endOfInput)).run .spaced
    (Mode.spaced.skip (.start source)) .none).2 = some (c, ns) ∧ _) ↔ _
  obtain ⟨r, fuel, hstar, hfuel, hend, hns⟩ := run_star_skip furtherLine .spaced c'
    (lineBody.run .spaced (Mode.spaced.skip (.start source)) .none).1
  rw [run_seq, hbody, Option.bind_some, run_seq_endOfInput, hstar, Option.bind_some]
  refine Iff.trans ?_ (hon _ fuel hfuel stmts)
  simp only [← hend, ← hns]
  have hnone (k : Nat) :
      (Node.mk .endOfInput k [] []).statement? (fun n => n.lineFeeds + 1) = none := rfl
  by_cases hrest : Mode.spaced.skipped r.1.rest = []
  · simp [hrest, hnone]
  · simp [hrest]

/-- A script with a quotation in a comment, an apostrophe that is never closed, an empty line, a
carriage return before a line feed, and a last line that nothing ends. -/
def keptScript : List Char :=
  "define t text \x22a b\x22; # it's\r\n\nhide t; # \x22x;y\x22; wait\nkill /q/".toList

theorem parseScript_of_kept :
    KeepsLines keptScript ∧
      parseScript keptScript = .ok [⟨.define, ["t", "text", "a b"], 1⟩, ⟨.hide, ["t"], 3⟩,
        ⟨.wait, [], 3⟩, ⟨.kill, ["/q/"], 4⟩] ∧
      ∃ parts, List.Forall₂ (fun p part => parseLine p.2 p.1 = .ok part)
          ((Text.lines keptScript).zipIdx 1) parts ∧
        [⟨.define, ["t", "text", "a b"], 1⟩, ⟨.hide, ["t"], 3⟩, ⟨.wait, [], 3⟩,
          ⟨.kill, ["/q/"], 4⟩] = parts.flatten := by
  have hkeeps : KeepsLines keptScript := by decide +kernel
  have hscript : parseScript keptScript = .ok [⟨.define, ["t", "text", "a b"], 1⟩,
      ⟨.hide, ["t"], 3⟩, ⟨.wait, [], 3⟩, ⟨.kill, ["/q/"], 4⟩] := by
    decide +kernel
  exact ⟨hkeeps, hscript, (parseScript_eq_ok_iff hkeeps).mp hscript⟩

/-- A quote in the comment of one line and a quote in the comment of the next one hide the
statement between them, although both lines are accepted alone. -/
theorem parseScript_ne_lines :
    parseScript "hide a; # don't\nhide b; # isn't".toList = .ok [⟨.hide, ["a"], 1⟩] ∧
      ((Text.lines "hide a; # don't\nhide b; # isn't".toList).zipIdx 1).map
          (fun p => parseLine p.2 p.1) =
        [.ok [⟨.hide, ["a"], 1⟩], .ok [⟨.hide, ["b"], 2⟩]] := by
  decide +kernel

end Grammar

end Storyboard
