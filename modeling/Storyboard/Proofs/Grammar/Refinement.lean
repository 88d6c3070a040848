import Storyboard.Proofs.Grammar.Spacing

/-!
# Strict lines read by words

A line that the strict grammar accepts is meant to be read by words in the same way. It is so
exactly if the tokens of each of its commands stand apart and its comments, in which the two
readings see quotations differently, hide nothing from the reader of words and show nothing to
it. A comment that does either leaves the two at different places of the line; then they agree
only if the statements found from there on happen to be the same.

Main results:

- Theorem `IsCommand.readStatement_eq_iff`: when a command is read as the grammar reads it.
- Theorem `statements_eq_ok_iff`: when an accepted line is.
- Theorem `readAlike_iff_of_unquoted`: it is enough to look at the commands of the line if its
  comments hold no quotes.
-/

namespace Storyboard.Grammar

open Lexer (scan goesOn leftover partsAfter readStatement)

/-! ## Verbs -/

/-- A word that selects a verb is no longer than its name. -/
theorem length_le_of_verb {v : Verb} {w : List Char} (h : Lexer.verb w = .ok v) :
    w.length ≤ v.name.toList.length := by
  have hword : Verb.ofWord? w = some v := by
    unfold Lexer.verb at h
    cases hfound : Verb.ofWord? w with
    | some v' =>
        rw [hfound] at h
        cases h
        rfl
    | none =>
        rw [hfound] at h
        simp only at h
        split at h
        · cases h
        · cases h
  have hselected := List.find?_some hword
  rw [Verb.selectedBy, Bool.and_eq_true, Verb.startsWith, List.isPrefixOf_iff_prefix] at hselected
  have hlength := hselected.2.length_le
  rwa [List.length_map] at hlength

/-! ## Commands -/

section Command

variable {v : Verb} {t b b' : List Char} {ns : List Node}

/-- The first token that is read in a command begins with its keyword. -/
theorem IsCommand.scan_eq (h : IsCommand v t ns) (hb : ∀ c ∈ b, IsGap c) (u : List Char) :
    ∃ kw ops x more, ns = kw :: ops ∧ kw.content.map Char.toLower = v.name.toList ∧
      (scan none none (b ++ (t ++ u))).1 = Option.map ((kw.content ++ x) :: ·) more := by
  obtain ⟨kw, ops, rfl, hrule, t', rfl⟩ := h.keyword
  have hplain : kw.Plain := (h.tokens kw List.mem_cons_self).plain (by simp [hrule])
  have hname : kw.text.map Char.toLower = v.name.toList := hplain.keyword v hrule
  have hordinary : ∀ c ∈ kw.text, ordinary c := by
    have hletters : v.name.toList.all ordinary := by
      cases v <;> decide
    intro c hc
    exact ordinary_of_toLower
      (List.all_eq_true.mp hletters _ (hname ▸ List.mem_map_of_mem hc))
  obtain ⟨c, w, htext⟩ := List.exists_cons_of_ne_nil hplain.ne_nil
  rw [htext] at hordinary
  have hc : ordinary c := hordinary c List.mem_cons_self
  have hw : ∀ x ∈ w, goesOn x :=
    fun x hx => goesOn_of_ordinary (hordinary x (List.mem_cons_of_mem c hx))
  have hcontent : kw.content = kw.text := hplain.content_eq
  refine ⟨kw, ops, (t' ++ u).takeWhile goesOn,
    (scan none none ((w ++ (t' ++ u)).dropWhile goesOn)).1, rfl, by rw [hcontent, hname], ?_⟩
  rw [scan_gap_append hb, hcontent, htext,
    List.append_assoc, List.cons_append,
    Lexer.scan_cons (unquoted_of_ordinary hc) (goesOn_of_ordinary hc), Lexer.scan_some_eq,
    List.takeWhile_append_of_pos hw]
  rfl

/-- The tokens of a command spell its statement. -/
theorem IsCommand.statement?_eq (h : IsCommand v t ns) (number : Nat) :
    Lexer.statement? number (ns.map Node.content) =
      .ok (some ⟨v, (ns.drop 1).map Node.argument, number⟩) := by
  obtain ⟨kw, ops, -, -, rfl, hname, -⟩ := h.scan_eq (b := []) (by simp) []
  have hargs : (ops.map Node.content).map String.ofList = ops.map Node.argument := by
    rw [List.map_map]
    exact List.map_congr_left fun n _ => String.ofList_toList
  rw [List.map_cons, Lexer.statement?, Lexer.verb_of_map_toLower hname, hargs]
  rfl

/-- Where a command is, a statement is read or an error is found. -/
theorem IsCommand.readStatement_ne (h : IsCommand v t ns) (number : Nat)
    (hb : ∀ c ∈ b, IsGap c) (u : List Char) :
    readStatement number (b ++ (t ++ u)) ≠ some none := by
  obtain ⟨kw, ops, x, more, -, -, hscan⟩ := h.scan_eq hb u
  rw [readStatement, isComment_gap_append hb, h.isComment_append, hscan]
  cases more with
  | none => simp
  | some more =>
      cases hverb : Lexer.verb (kw.content ++ x) with
      | error e => simp [Lexer.statement?, hverb, Except.map, Except.toOption]
      | ok v => simp [Lexer.statement?, hverb, Except.map, Except.toOption]

/-- A command is read by words as the grammar reads it exactly if its tokens stand apart. -/
theorem IsCommand.readStatement_eq_iff (h : IsCommand v t ns) (number : Nat)
    (hb : ∀ c ∈ b, IsGap c) (hb' : ∀ c ∈ b', IsGap c) (rest : Option (List Char)) :
    readStatement number (b ++ (t ++ (b' ++ leftover rest))) =
      some (some ⟨v, (ns.drop 1).map Node.argument, number⟩) ↔ Apart ns t := by
  rw [readStatement, isComment_gap_append hb, h.isComment_append]
  constructor
  · intro hread
    obtain ⟨ts, hscan, hstatement⟩ := Option.bind_eq_some_iff.mp hread
    obtain ⟨kw, ops, x, more, rfl, hname, hfirst⟩ := h.scan_eq hb (b' ++ leftover rest)
    obtain ⟨args, -, rfl⟩ := Option.map_eq_some_iff.mp (hfirst.symm.trans hscan)
    rw [Lexer.statement?] at hstatement
    cases hverb : Lexer.verb (kw.content ++ x) with
    | error e =>
        rw [hverb] at hstatement
        cases hstatement
    | ok v' =>
        rw [hverb] at hstatement
        injection hstatement with hstatement
        injection hstatement with hstatement
        injection hstatement with hv hargs
        subst hv
        -- The word read is no longer than the keyword, so it is the keyword.
        have hx : x = [] := by
          have hlength := length_le_of_verb hverb
          rw [← hname, List.length_map, List.length_append] at hlength
          exact List.length_eq_zero_iff.mp (by omega)
        have hcontents : args = ops.map fun n => n.argument.toList := by
          simpa [Function.comp_def] using congrArg (List.map String.toList) hargs
        rw [hx, List.append_nil, hcontents, scan_gap_append hb] at hscan
        exact apart_of_scan h.tokens h.apart h.woven hb' hscan
  · intro hapart
    have hscan := scan_of_apart h.tokens h.woven hapart hb' rest
    refine Option.bind_eq_some_iff.mpr ⟨ns.map Node.content, ?_, ?_⟩
    · rw [scan_gap_append hb, hscan]
    · rw [h.statement?_eq]
      rfl

end Command

/-! ## Reading on -/

/-- The statements that a reader of words finds from a place inside a line on, if it can read
them. -/
def reading (number : Nat) (line : List Char) : Option (List Statement) :=
  (Lexer.partStatements number (Lexer.parts line)).toOption

theorem reading_eq_some {number : Nat} {line : List Char} {stmts : List Statement} :
    reading number line = some stmts ↔
      Lexer.partStatements number (Lexer.parts line) = .ok stmts := by
  rw [reading]
  cases Lexer.partStatements number (Lexer.parts line) with
  | ok found => simp [Except.toOption]
  | error e => simp [Except.toOption]

/-- The statements of the first part and of the others. -/
theorem reading_eq_some_iff {number : Nat} {line : List Char} {stmts : List Statement} :
    reading number line = some stmts ↔
      ∃ first others, readStatement number line = some first ∧
        Lexer.partStatements number (partsAfter (scan none none line).2) = .ok others ∧
        stmts = first.toList ++ others :=
  reading_eq_some.trans (Lexer.partStatements_parts number line stmts)

theorem reading_gap_append {number : Nat} {b line : List Char} (hb : ∀ c ∈ b, IsGap c) :
    reading number (b ++ line) = reading number line := by
  refine Option.ext fun stmts => ?_
  rw [reading_eq_some_iff, reading_eq_some_iff, readStatement, readStatement,
    isComment_gap_append hb, scan_gap_append hb]

/-- A part without a statement is passed over. -/
theorem reading_of_readStatement_none {number : Nat} {line : List Char} {stmts : List Statement}
    (h : readStatement number line = some none) :
    reading number line = some stmts ↔
      Lexer.partStatements number (partsAfter (scan none none line).2) = .ok stmts := by
  rw [reading_eq_some_iff, h]
  constructor
  · rintro ⟨first, others, hfirst, hothers, rfl⟩
    cases hfirst
    exact hothers
  · intro hothers
    exact ⟨none, stmts, rfl, hothers, rfl⟩

/-- A blank part has no statement. -/
theorem reading_leftover {number : Nat} {b : List Char} {stmts : List Statement}
    (hb : ∀ c ∈ b, IsGap c) (rest : Option (List Char)) :
    reading number (b ++ leftover rest) = some stmts ↔
      Lexer.partStatements number (partsAfter rest) = .ok stmts := by
  have hread : readStatement number (b ++ leftover rest) = some none := by
    have hcomment : Lexer.isComment (leftover rest) = false := by
      cases rest with
      | none => rfl
      | some rest => exact Lexer.isComment_cons (by decide)
    rw [readStatement, isComment_gap_append hb, hcomment, scan_leftover hb]
    rfl
  rw [reading_of_readStatement_none hread, scan_leftover hb]

/-- A command is read by words with the statements after it exactly if its tokens stand apart. -/
theorem reading_command {number : Nat} {v : Verb} {t b b' : List Char} {ns : List Node}
    {others : List Statement} (h : IsCommand v t ns) (hb : ∀ c ∈ b, IsGap c)
    (hb' : ∀ c ∈ b', IsGap c) (rest : Option (List Char)) :
    reading number (b ++ (t ++ (b' ++ leftover rest))) =
        some (⟨v, (ns.drop 1).map Node.argument, number⟩ :: others) ↔
      Apart ns t ∧ reading number (b' ++ leftover rest) = some others := by
  have hread := h.readStatement_eq_iff number hb hb' rest
  have hscan : Apart ns t → (scan none none (b ++ (t ++ (b' ++ leftover rest)))).2 = rest := by
    intro hapart
    rw [scan_gap_append hb,
      scan_of_apart h.tokens h.woven hapart hb']
  rw [reading_leftover hb', reading_eq_some_iff]
  constructor
  · rintro ⟨first, found, hfirst, hfound, hstmts⟩
    cases first with
    | none => exact absurd hfirst (h.readStatement_ne number hb _)
    | some s =>
        injection hstmts with hs hothers
        subst hs hothers
        have hapart := hread.mp hfirst
        rw [hscan hapart] at hfound
        exact ⟨hapart, hfound⟩
  · rintro ⟨hapart, hothers⟩
    refine ⟨some _, others, hread.mpr hapart, ?_, rfl⟩
    rw [hscan hapart]
    exact hothers

/-! ## Lines -/

/-- The statements that nodes spell, all on one line. -/
def spelled (number : Nat) (ns : List Node) : List Statement :=
  ns.filterMap (Node.statement? fun _ => number)

/-- Whether a rule makes commands. -/
def Rule.isCommand : Rule → Bool
  | .command _ => true
  | _ => false

/-- A comment is inert in a line if a reader of words finds the same statements from it on as it
finds after it. -/
def Inert (number : Nat) (n : Node) (t : List Char) : Prop :=
  reading number (n.text ++ n.after t) = reading number (n.after t)

instance (number : Nat) (n : Node) (t : List Char) : Decidable (Inert number n t) :=
  inferInstanceAs (Decidable (_ = _))

/-- When the nodes of a line, given the text from somewhere before them on, are read by words as
the grammar reads them: the tokens of every command stand apart, up to the first comment that is
not inert, from which on the reader of words must find what the nodes after it spell. -/
def ReadAlike (number : Nat) : List Node → List Char → Prop
  | [], _ => True
  | n :: ns, t =>
      if n.rule = .comment ∧ ¬ Inert number n t then
        reading number (n.text ++ n.after t) = some (spelled number ns)
      else (n.rule.isCommand → Apart n.children n.text) ∧ ReadAlike number ns (n.after t)

instance decidableReadAlike (number : Nat) :
    (ns : List Node) → (t : List Char) → Decidable (ReadAlike number ns t)
  | [], _ => .isTrue trivial
  | n :: ns, t =>
      have := decidableReadAlike number ns (n.after t)
      inferInstanceAs (Decidable (if n.rule = .comment ∧ ¬ Inert number n t then
        reading number (n.text ++ n.after t) = some (spelled number ns)
        else (n.rule.isCommand → Apart n.children n.text) ∧ ReadAlike number ns (n.after t)))

/-- Separators in front of the nodes do not matter. -/
theorem readAlike_append {number : Nat} {ns : List Node} {s t : List Char}
    (hs : ∀ c ∈ s, isSeparator c) :
    ReadAlike number ns (s ++ t) ↔ ReadAlike number ns t := by
  cases ns with
  | nil => exact Iff.rfl
  | cons n ns =>
      have hafter : n.after (s ++ t) = n.after t := by
        rw [Node.after, Node.after, List.dropWhile_append_of_pos hs]
      have hinert : Inert number n (s ++ t) ↔ Inert number n t := by
        rw [Inert, Inert, hafter]
      simp only [ReadAlike, hinert, hafter]

/-- A last node that is neither a comment nor a command decides nothing. -/
theorem readAlike_concat {number : Nat} {ns : List Node} {n : Node} {t : List Char}
    (hcomment : n.rule ≠ .comment) (hcommand : n.rule.isCommand = false) :
    ReadAlike number (ns ++ [n]) t ↔ ReadAlike number ns t := by
  have hnone : n.statement? (fun _ => number) = none := by
    rw [Node.statement?]
    split
    · next v hrule =>
      rw [hrule] at hcommand
      cases hcommand
    · rfl
  induction ns generalizing t with
  | nil => simp [ReadAlike, hcomment, hcommand]
  | cons m ns ih =>
      simp [ReadAlike, spelled, hnone, ih]

/-- Statements do not begin with separators. -/
theorem exists_cons_of_statement {n : Node} (h : n.IsComment ∨ n.IsCommand) :
    ∃ c w, n.text = c :: w ∧ isSeparator c = false := by
  rcases h with hcomment | ⟨v, -, hcommand⟩
  · obtain ⟨u, hu⟩ := hcomment.mark
    exact ⟨'#', u, hu, by decide⟩
  · obtain ⟨kw, ops, hns, -, t, ht⟩ := hcommand.keyword
    have hkw : kw.IsToken := hcommand.tokens kw (by rw [hns]; exact List.mem_cons_self)
    obtain ⟨c, w, htext, hc⟩ := hkw.exists_cons
    exact ⟨c, w ++ t, by rw [← ht, htext, List.cons_append], hc⟩

/-- A segment in front of a text that is decided, with or without blanks in front of it. -/
theorem reading_segment {number : Nat} {ns ms : List Node} {t : List Char}
    {rest : Option (List Char)} (hsegment : Segment ns) (hwoven : Woven ns t)
    (hrest : ∀ b, (∀ c ∈ b, IsGap c) →
      (reading number (b ++ leftover rest) = some (spelled number ms) ↔
        ReadAlike number ms (b ++ leftover rest))) :
    reading number (t ++ leftover rest) = some (spelled number (ns ++ ms)) ↔
      ReadAlike number (ns ++ ms) (t ++ leftover rest) := by
  rcases hsegment with rfl | ⟨n, rfl, hn⟩
  · exact hrest t hwoven
  · obtain ⟨b, b', rfl, hb, hb'⟩ := hwoven
    have hafter : n.after (b ++ (n.text ++ (b' ++ leftover rest))) = b' ++ leftover rest :=
      Node.after_eq hb (exists_cons_of_statement hn)
    rw [List.append_assoc, List.append_assoc, List.singleton_append]
    simp only [ReadAlike, Inert, hafter]
    rcases hn with hcomment | ⟨v, hrule, hcommand⟩
    · have hrule := hcomment.rule_eq
      have hspelled : spelled number (n :: ms) = spelled number ms :=
        List.filterMap_cons_none (by simp [Node.statement?, hrule])
      rw [reading_gap_append hb, hspelled]
      split
      · exact Iff.rfl
      · next hinert =>
        have hinert : reading number (n.text ++ (b' ++ leftover rest)) =
            reading number (b' ++ leftover rest) := by
          by_contra hne
          exact hinert ⟨hrule, hne⟩
        rw [hinert, hrest b' hb']
        simp [hrule, Rule.isCommand]
    · have hspelled : spelled number (n :: ms) =
          ⟨v, (n.children.drop 1).map Node.argument, number⟩ :: spelled number ms :=
        List.filterMap_cons_some (by simp [Node.statement?, hrule])
      have hne : ¬ (n.rule = .comment ∧
          ¬ reading number (n.text ++ (b' ++ leftover rest)) =
            reading number (b' ++ leftover rest)) := by
        simp [hrule]
      rw [hspelled, reading_command hcommand hb hb', hrest b' hb', if_neg hne]
      simp [hrule, Rule.isCommand]

/-- Lines between semicolons. -/
theorem reading_segmented {number : Nat} {ns : List Node} {t : List Char} (h : Segmented t ns) :
    reading number t = some (spelled number ns) ↔ ReadAlike number ns t := by
  induction h with
  | @last t ns hsegment hwoven =>
      have hend : ∀ b, (∀ c ∈ b, IsGap c) →
          (reading number (b ++ leftover none) = some (spelled number []) ↔
            ReadAlike number [] (b ++ leftover none)) := by
        intro b hb
        rw [reading_leftover hb]
        exact iff_of_true rfl trivial
      have hline := reading_segment hsegment hwoven hend
      rwa [leftover, List.append_nil, List.append_nil] at hline
  | @more t ns u ms hsegment hwoven _ ih =>
      have hstep := @reading_segment number ns ms t (some u) hsegment hwoven
      refine hstep fun b hb => ?_
      have hseparators : ∀ c ∈ b ++ [';'], isSeparator c := by
        intro c hc
        rcases List.mem_append.mp hc with hc | hc
        · exact isSeparator_of_gap (hb c hc)
        · rw [List.mem_singleton.mp hc]
          decide
      rw [reading_leftover hb, partsAfter, ← reading_eq_some, ih, leftover, List.append_cons,
        readAlike_append hseparators]

/-- The nodes inside a line that the grammar accepts. -/
def lineNodes (text : List Char) : List Node :=
  match match? line text with
  | .ok nodes => nodes.flatMap Node.children
  | .error _ => []

/-- The nodes of a line, before the one that ends it, spell its statements. -/
theorem lineNodes_cases {number : Nat} {text : List Char} {stmts : List Statement}
    (h : parseLine number text = .ok stmts) :
    ∃ ns eoi, lineNodes text = ns ++ [eoi] ∧ eoi.rule = .endOfInput ∧ stmts = spelled number ns ∧
      ((∃ n, ns = [n] ∧ n.rule = .commentLine ∧ Lexer.isComment text) ∨
        Segmented text ns ∧ Lexer.isComment text = false) := by
  cases hmatch : match? line text with
  | error e =>
      rw [parseLine, hmatch] at h
      cases h
  | ok nodes =>
      obtain ⟨root, ns, eoi, rfl, hchildren, heoi, hcases⟩ := line_cases hmatch
      refine ⟨ns, eoi, ?_, heoi, ?_, hcases⟩
      · simp [lineNodes, hmatch, hchildren]
      · rw [parseLine, hmatch] at h
        injection h with h
        rw [← h]
        simp [statementsOf, spelled, hchildren, Node.statement?, heoi]

/-- A line that the grammar accepts is read by words as the grammar reads it exactly if its nodes
are: if the tokens of its commands stand apart, up to a comment that is not inert and from which
on the reader of words happens to find what comes after it. -/
theorem statements_eq_ok_iff {number : Nat} {text : List Char} {stmts : List Statement}
    (h : parseLine number text = .ok stmts) :
    Lexer.statements number text = .ok stmts ↔ ReadAlike number (lineNodes text) text := by
  obtain ⟨ns, eoi, hnodes, heoi, rfl, hcases⟩ := lineNodes_cases h
  rw [hnodes, readAlike_concat (by simp [heoi]) (by simp [heoi, Rule.isCommand]), Lexer.statements]
  rcases hcases with ⟨n, rfl, hrule, hcomment⟩ | ⟨hsegmented, hcomment⟩
  · rw [if_pos hcomment]
    simp [ReadAlike, spelled, Node.statement?, hrule, Rule.isCommand]
  · rw [hcomment, if_neg (by simp), ← reading_eq_some]
    exact reading_segmented hsegmented

/-- A line with a blank after every token, and an apostrophe in its comment. -/
theorem statements_of_spaced :
    parseLine 4 "hide /^b/; # it's done; define t text \x22a;b\x22 12 red".toList =
        .ok [⟨.hide, ["/^b/"], 4⟩, ⟨.define, ["t", "text", "a;b", "12", "red"], 4⟩] ∧
      Lexer.statements 4 "hide /^b/; # it's done; define t text \x22a;b\x22 12 red".toList =
        .ok [⟨.hide, ["/^b/"], 4⟩, ⟨.define, ["t", "text", "a;b", "12", "red"], 4⟩] := by
  have hparse : parseLine 4 "hide /^b/; # it's done; define t text \x22a;b\x22 12 red".toList =
      .ok [⟨.hide, ["/^b/"], 4⟩, ⟨.define, ["t", "text", "a;b", "12", "red"], 4⟩] := by
    decide +kernel
  exact ⟨hparse, (statements_eq_ok_iff hparse).mpr (by decide +kernel)⟩

/-- Without a blank before its operand a keyword is read as a longer word. -/
theorem statements_ne_of_unspaced :
    parseLine 1 "sleep-1".toList = .ok [⟨.sleep, ["-1"], 1⟩] ∧
      Lexer.statements 1 "sleep-1".toList ≠ .ok [⟨.sleep, ["-1"], 1⟩] := by
  decide +kernel

/-! ## Comments without quotes -/

/-- A pass goes over a text without quotes and semicolons. -/
theorem scan_unquoted {w b : List Char} (hw : Unquoted w) (hsemicolon : ';' ∉ w)
    (hb : ∀ c ∈ b, IsGap c) (token : Option (List Char)) (rest : Option (List Char)) :
    (scan token none (w ++ (b ++ leftover rest))).2 = rest := by
  induction w generalizing token with
  | nil =>
      cases token with
      | none => rw [List.nil_append, scan_leftover hb]
      | some t =>
          rw [List.nil_append, Lexer.scan_some_of_stop (goesOn_of_mem_head hb rest),
            scan_leftover hb]
  | cons c w ih =>
      have hquote : Lexer.isQuote c = false := hw c List.mem_cons_self
      have hc : c ≠ ';' := fun h => hsemicolon (h ▸ List.mem_cons_self)
      have hrest := ih (fun x hx => hw x (List.mem_cons_of_mem c hx))
        (fun h => hsemicolon (List.mem_cons_of_mem c h))
      by_cases hblank : Text.isBlank c
      · cases token with
        | none => simpa [scan, hquote, hc, hblank] using hrest none
        | some t => simpa [scan, hquote, hc, hblank] using hrest none
      · cases token with
        | none => simpa [scan, hquote, hc, hblank] using hrest (some [c])
        | some t => simpa [scan, hquote, hc, hblank] using hrest (some (c :: t))

/-- A comment without quotes is inert. -/
theorem reading_comment {number : Nat} {n : Node} {b : List Char} (hn : n.IsComment)
    (hunquoted : Unquoted n.text) (hb : ∀ c ∈ b, IsGap c) (rest : Option (List Char)) :
    reading number (n.text ++ (b ++ leftover rest)) = reading number (b ++ leftover rest) := by
  have hscan := scan_unquoted hunquoted (hn.semicolon hunquoted) hb none rest
  have hread : readStatement number (n.text ++ (b ++ leftover rest)) = some none := by
    obtain ⟨u, hu⟩ := hn.mark
    rw [readStatement, hu, List.cons_append, Lexer.isComment_cons (by decide)]
    rfl
  refine Option.ext fun stmts => ?_
  rw [reading_leftover hb, reading_of_readStatement_none hread, hscan]

/-- The tokens of every command stand apart. -/
def CommandsApart (ns : List Node) : Prop :=
  ∀ n ∈ ns, n.rule.isCommand → Apart n.children n.text

/-- The comments among nodes hold no quotes. -/
def CommentsUnquoted (ns : List Node) : Prop :=
  ∀ n ∈ ns, n.rule = .comment → Unquoted n.text

theorem readAlike_segment {number : Nat} {ns ms : List Node} {t : List Char}
    {rest : Option (List Char)} (hsegment : Segment ns) (hwoven : Woven ns t)
    (hunquoted : CommentsUnquoted ns) :
    ReadAlike number (ns ++ ms) (t ++ leftover rest) ↔
      CommandsApart ns ∧ ReadAlike number ms (leftover rest) := by
  rcases hsegment with rfl | ⟨n, rfl, hn⟩
  · rw [List.nil_append, readAlike_append fun c hc => isSeparator_of_gap (hwoven c hc)]
    simp [CommandsApart]
  · obtain ⟨b, b', rfl, hb, hb'⟩ := hwoven
    have hafter : n.after (b ++ (n.text ++ (b' ++ leftover rest))) = b' ++ leftover rest :=
      Node.after_eq hb (exists_cons_of_statement hn)
    have hinert : ¬ (n.rule = .comment ∧
        ¬ Inert number n (b ++ (n.text ++ (b' ++ leftover rest)))) := by
      rintro ⟨hrule, hinert⟩
      rw [Inert, hafter] at hinert
      rcases hn with hcomment | ⟨v, hcommand, -⟩
      · exact hinert
          (reading_comment hcomment (hunquoted n List.mem_cons_self hrule) hb' rest)
      · rw [hcommand] at hrule
        cases hrule
    rw [List.append_assoc, List.append_assoc, List.singleton_append, ReadAlike, if_neg hinert,
      hafter, readAlike_append fun c hc => isSeparator_of_gap (hb' c hc)]
    simp [CommandsApart]

theorem readAlike_segmented {number : Nat} {ns : List Node} {t : List Char}
    (h : Segmented t ns) (hunquoted : CommentsUnquoted ns) :
    ReadAlike number ns t ↔ CommandsApart ns := by
  induction h with
  | @last t ns hsegment hwoven =>
      have hline := @readAlike_segment number ns [] t none hsegment hwoven hunquoted
      rw [leftover, List.append_nil, List.append_nil] at hline
      exact hline.trans (and_iff_left trivial)
  | @more t ns u ms hsegment hwoven _ ih =>
      have hline := @readAlike_segment number ns ms t (some u) hsegment hwoven
        fun n hn => hunquoted n (List.mem_append_left ms hn)
      have hsemicolon : ∀ c ∈ [';'], isSeparator c := List.forall_mem_singleton.mpr (by decide)
      have hms := ih fun n hn => hunquoted n (List.mem_append_right ns hn)
      rw [← @readAlike_append number ms [';'] u hsemicolon] at hms
      refine hline.trans ((and_congr_right fun _ => hms).trans ?_)
      simp [CommandsApart, or_imp, forall_and]

/-- A line whose comments hold no quotes is read by words as the grammar reads it exactly if the
tokens of all its commands stand apart. -/
theorem readAlike_iff_of_unquoted {number : Nat} {text : List Char} {stmts : List Statement}
    (h : parseLine number text = .ok stmts) (hunquoted : CommentsUnquoted (lineNodes text)) :
    ReadAlike number (lineNodes text) text ↔ CommandsApart (lineNodes text) := by
  obtain ⟨ns, eoi, hnodes, heoi, -, hcases⟩ := lineNodes_cases h
  have hend : CommandsApart (ns ++ [eoi]) ↔ CommandsApart ns := by
    simp [CommandsApart, or_imp, forall_and, heoi, Rule.isCommand]
  rw [hnodes] at hunquoted ⊢
  rw [readAlike_concat (by simp [heoi]) (by simp [heoi, Rule.isCommand]), hend]
  rcases hcases with ⟨n, rfl, hrule, -⟩ | ⟨hsegmented, -⟩
  · simp [ReadAlike, CommandsApart, hrule, Rule.isCommand]
  · exact readAlike_segmented hsegmented fun n hn => hunquoted n (List.mem_append_left _ hn)

end Storyboard.Grammar
