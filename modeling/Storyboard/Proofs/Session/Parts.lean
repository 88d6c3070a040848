import Storyboard.Proofs.Session.Policies

/-!
# Lines part by part

A line that is read by words is cut at semicolons, and every part that is neither blank nor a
comment is meant as one statement. All parts are read before the first one is executed: a line has
one result for each of these parts if all of them can be read, but a single result if one cannot,
and then none of its statements is executed, whatever the policy.

Main results:

- Theorem `Lexer.partStatement?_eq_ok_none`: the parts that hold no statement.
- Theorem `Session.length_runParts`: run one by one, the parts have one result each.
- Theorem `Session.runLine_eq_runParts_iff`: when a line comes to what its parts come to, and what
  it comes to if it does not.
-/

namespace Storyboard

namespace Lexer

/-! ## Parts with statements -/

/-- Whether a part is neither blank nor a comment. -/
def isSpoken (part : List Char) : Bool := !isComment part && !part.all Text.isBlank

/-- The parts of a line that are neither blank nor comments. -/
def spokenParts (line : List Char) : List (List Char) := (parts line).filter isSpoken

variable {number : Nat} {part : List Char} {ps : List (List Char)} {e : LexError}

/-- A token that has been started is among the tokens. -/
theorem tokensFrom_some_ne_nil {offset : Nat} {token : List Char} {quote : Option (Char × Nat)} :
    tokensFrom offset (some token) quote part ≠ .ok [] := by
  induction part generalizing offset token quote with
  | nil => cases quote <;> simp [tokensFrom]
  | cons c rest ih =>
      cases quote with
      | some quote =>
          simp only [tokensFrom, Option.map_some]
          split
          · exact ih
          · exact ih
      | none =>
          simp only [tokensFrom]
          split
          · cases tokensFrom (offset + c.utf8Size) none none rest <;> simp [Except.map]
          · exact ih

theorem tokensFrom_eq_nil {offset : Nat} :
    tokensFrom offset none none part = .ok [] ↔ part.all Text.isBlank = true := by
  induction part generalizing offset with
  | nil => simp [tokensFrom]
  | cons c rest ih =>
      simp only [tokensFrom, List.all_cons, Bool.and_eq_true]
      split
      · next hquote =>
        have hc : Text.isBlank c = false := by
          rcases (by simpa [isQuote] using hquote : c = '\x22' ∨ c = '\x27') with rfl | rfl
          · decide
          · decide
        simp [tokensFrom_some_ne_nil, hc]
      · split
        · next hc => simp [ih, hc]
        · next hc => simp [tokensFrom_some_ne_nil, hc]

/-- Blank parts and comments hold no statement, and every other part is meant as one. -/
theorem partStatement?_eq_ok_none :
    partStatement? number part = .ok none ↔ isSpoken part = false := by
  unfold partStatement? isSpoken
  split
  · next hcomment => simp [hcomment]
  · next hcomment =>
    have hblank : tokens part = .ok [] ↔ part.all Text.isBlank = true := by
      simp [tokens, tokensFrom_eq_nil]
    rw [Bool.not_eq_true] at hcomment
    rw [hcomment]
    cases htokens : tokens part with
    | error e =>
        rw [htokens] at hblank
        simp_all [bind, Except.bind]
    | ok ts =>
        rw [htokens] at hblank
        cases ts with
        | nil => simp_all [bind, Except.bind, statement?]
        | cons word args =>
            simp only [bind, Except.bind, statement?]
            cases verb word <;> simp_all [Except.map]

/-- Only the parts with statements matter for the statements of a line. -/
theorem partStatements_filter (number : Nat) (ps : List (List Char)) :
    partStatements number (ps.filter isSpoken) = partStatements number ps := by
  induction ps with
  | nil => rfl
  | cons part rest ih =>
      cases hspoken : isSpoken part with
      | true =>
          rw [List.filter_cons_of_pos hspoken]
          simp only [partStatements, ih]
      | false =>
          rw [List.filter_cons_of_neg (by simp [hspoken]), ih, partStatements,
            partStatement?_eq_ok_none.mpr hspoken]
          cases partStatements number rest <;> rfl

theorem statements_eq_spokenParts {text : List Char} (h : isComment text = false) :
    statements number text = partStatements number (spokenParts text) := by
  rw [statements, h, spokenParts, partStatements_filter]
  rfl

/-- Parts that can all be read have statements. -/
theorem exists_partStatements (h : ∀ part ∈ ps, ∃ stmt, partStatement? number part = .ok stmt) :
    ∃ stmts, partStatements number ps = .ok stmts := by
  induction ps with
  | nil => exact ⟨[], rfl⟩
  | cons part rest ih =>
      obtain ⟨first, hfirst⟩ := h part List.mem_cons_self
      obtain ⟨others, hothers⟩ := ih fun p hp => h p (List.mem_cons_of_mem _ hp)
      refine ⟨first.toList ++ others, ?_⟩
      rw [partStatements, hfirst, hothers]
      rfl

/-- The first part that cannot be read says why the whole list cannot. -/
theorem partStatements_of_unreadable {before after : List (List Char)}
    (hbefore : ∀ p ∈ before, ∃ stmt, partStatement? number p = .ok stmt)
    (h : partStatement? number part = .error e) :
    partStatements number (before ++ part :: after) = .error e := by
  induction before with
  | nil =>
      rw [List.nil_append, partStatements, h]
      rfl
  | cons p rest ih =>
      obtain ⟨first, hfirst⟩ := hbefore p List.mem_cons_self
      rw [List.cons_append, partStatements, hfirst,
        ih fun q hq => hbefore q (List.mem_cons_of_mem _ hq)]
      rfl

/-- Either all parts can be read, or there is a first one that cannot. -/
theorem readable_or_exists_unreadable (number : Nat) (ps : List (List Char)) :
    (∀ p ∈ ps, ∃ stmt, partStatement? number p = .ok stmt) ∨
      ∃ before part after e, ps = before ++ part :: after ∧
        (∀ p ∈ before, ∃ stmt, partStatement? number p = .ok stmt) ∧
        partStatement? number part = .error e := by
  induction ps with
  | nil => exact .inl fun p hp => absurd hp List.not_mem_nil
  | cons p rest ih =>
      cases hp : partStatement? number p with
      | error e => exact .inr ⟨[], p, rest, e, rfl, by simp, hp⟩
      | ok stmt =>
          obtain hrest | ⟨before, part, after, e, rfl, hbefore, hpart⟩ := ih
          · exact .inl (List.forall_mem_cons.mpr ⟨⟨stmt, hp⟩, hrest⟩)
          · exact .inr ⟨p :: before, part, after, e, rfl,
              List.forall_mem_cons.mpr ⟨⟨stmt, hp⟩, hbefore⟩, hpart⟩

end Lexer

namespace Session

variable {s t : Session} {limit : Nat} {site : Site} {text : String} {part : List Char}
  {ps : List (List Char)} {results : List StatementResult}

/-! ## Running parts one by one -/

/-- Runs one part of a line: if it cannot be read, this is its result. -/
def runPart (limit : Nat) (site : Site) (s : Session) (part : List Char) :
    Option (Session × List StatementResult) :=
  match Lexer.partStatement? site.line part with
  | .error e => some (s, [.error (site.report (.lexical e))])
  | .ok stmt => s.runStatements limit site stmt.toList

/-- Runs parts one after another, whatever came of those before. -/
def runParts (limit : Nat) (site : Site) (s : Session) :
    List (List Char) → Option (Session × List StatementResult)
  | [] => some (s, [])
  | part :: rest =>
      match s.runPart limit site part with
      | none => none
      | some (t, results) =>
          (t.runParts limit site rest).map fun (u, more) => (u, results ++ more)

theorem policy_of_runPart (h : s.runPart limit site part = some (t, results)) :
    t.settings.policy = s.settings.policy := by
  unfold runPart at h
  split at h
  · cases h
    rfl
  · exact policy_of_runStatements h

theorem length_runStatements (hpolicy : s.settings.policy = .continue) {stmts : List Statement}
    (h : s.runStatements limit site stmts = some (t, results)) :
    results.length = stmts.length := by
  induction stmts generalizing s results with
  | nil =>
      cases h
      rfl
  | cons stmt rest ih =>
      obtain ⟨u, more, hexecute, hmore, rfl⟩ | ⟨f, -, habort, -⟩ |
        ⟨u, f, more, hexecute, -, hmore, rfl⟩ := runStatements_cons_cases h
      · simp only [List.length_cons, ih ((policy_of_execute hexecute).trans hpolicy) hmore]
      · rw [hpolicy] at habort
        cases habort
      · simp only [List.length_cons, ih ((policy_of_execute hexecute).trans hpolicy) hmore]

theorem length_runPart (hpolicy : s.settings.policy = .continue) (hspoken : Lexer.isSpoken part)
    (h : s.runPart limit site part = some (t, results)) : results.length = 1 := by
  unfold runPart at h
  split at h
  · cases h
    rfl
  · next stmt hread =>
    cases stmt with
    | none =>
        rw [Lexer.partStatement?_eq_ok_none.mp hread] at hspoken
        cases hspoken
    | some stmt => exact length_runStatements hpolicy h

/-- Run one by one, parts that are neither blank nor comments have one result each. -/
theorem length_runParts (hpolicy : s.settings.policy = .continue)
    (hspoken : ∀ part ∈ ps, Lexer.isSpoken part)
    (h : s.runParts limit site ps = some (t, results)) : results.length = ps.length := by
  induction ps generalizing s results with
  | nil =>
      cases h
      rfl
  | cons part rest ih =>
      unfold runParts at h
      split at h
      · cases h
      · next u first hfirst =>
        obtain ⟨⟨t', more⟩, hmore, hend⟩ := Option.map_eq_some_iff.mp h
        cases hend
        have hone := length_runPart hpolicy (hspoken part List.mem_cons_self) hfirst
        have hothers := ih ((policy_of_runPart hfirst).trans hpolicy)
          (fun p hp => hspoken p (List.mem_cons_of_mem _ hp)) hmore
        rw [List.length_append, hone, hothers, List.length_cons, Nat.add_comm]

/-- Parts that can all be read are run one by one as the statements of their line. -/
theorem runParts_eq_runStatements (hpolicy : s.settings.policy = .continue)
    {stmts : List Statement} (h : Lexer.partStatements site.line ps = .ok stmts) :
    s.runParts limit site ps = s.runStatements limit site stmts := by
  induction ps generalizing s stmts with
  | nil =>
      cases h
      rfl
  | cons part rest ih =>
      rw [Lexer.partStatements] at h
      obtain ⟨first, hfirst, h⟩ := exists_of_bind_eq_ok h
      obtain ⟨others, hothers, h⟩ := exists_of_bind_eq_ok h
      cases h
      have hpart : s.runPart limit site part = s.runStatements limit site first.toList := by
        rw [runPart, hfirst]
      rw [runParts, hpart, runStatements_append hpolicy]
      cases hfirst : s.runStatements limit site first.toList with
      | none => rfl
      | some done =>
          obtain ⟨u, results⟩ := done
          have hu : u.settings.policy = .continue := (policy_of_runStatements hfirst).trans hpolicy
          simp only [ih hu hothers, Option.bind_some]

/-! ## Lines and their parts -/

/-- The result of a line in which some part cannot be read. -/
theorem runLine_of_unreadable (hwords : s.settings.strict = false)
    (hline : Lexer.isComment text.toList = false) {before after : List (List Char)} {e : LexError}
    (hparts : Lexer.spokenParts text.toList = before ++ part :: after)
    (hbefore : ∀ p ∈ before, ∃ stmt, Lexer.partStatement? s.nextLine.line p = .ok stmt)
    (hpart : Lexer.partStatement? s.nextLine.line part = .error e) :
    s.runLine limit text =
      some (s.nextLine, [.error ((s.nextLine.site text).report (.lexical e))]) := by
  have hread : Lexer.statements s.nextLine.line text.toList = .error e := by
    rw [Lexer.statements_eq_spokenParts hline, hparts]
    exact Lexer.partStatements_of_unreadable hbefore hpart
  have hnext : s.nextLine.settings.strict = false := hwords
  simp only [runLine, statements, hnext, hread, Bool.false_eq_true, if_false]

/-- The results of a line in which every part can be read. -/
theorem runLine_of_readable (hwords : s.settings.strict = false)
    (hpolicy : s.settings.policy = .continue) (hline : Lexer.isComment text.toList = false)
    (hread : ∀ p ∈ Lexer.spokenParts text.toList,
      ∃ stmt, Lexer.partStatement? s.nextLine.line p = .ok stmt) :
    s.runLine limit text =
      s.nextLine.runParts limit (s.nextLine.site text) (Lexer.spokenParts text.toList) := by
  obtain ⟨stmts, hstmts⟩ := Lexer.exists_partStatements hread
  have hall : Lexer.statements s.nextLine.line text.toList = .ok stmts := by
    rw [Lexer.statements_eq_spokenParts hline, hstmts]
  have hnext : s.nextLine.settings.strict = false := hwords
  rw [runParts_eq_runStatements (s := s.nextLine) hpolicy hstmts]
  simp only [runLine, statements, hnext, hall, Bool.false_eq_true, if_false]

/-- A line that goes on after failures and is not a comment comes to what its parts come to one by
one, with one result for each part that is neither blank nor a comment, exactly if all of these
parts can be read or there is only one. Else the first part that cannot be read is the only result
of the line, and nothing of the line is executed. -/
theorem runLine_eq_runParts_iff (hwords : s.settings.strict = false)
    (hpolicy : s.settings.policy = .continue) (hline : Lexer.isComment text.toList = false) :
    (∀ t results, s.nextLine.runParts limit (s.nextLine.site text)
      (Lexer.spokenParts text.toList) = some (t, results) →
      results.length = (Lexer.spokenParts text.toList).length) ∧
    (s.runLine limit text =
        s.nextLine.runParts limit (s.nextLine.site text) (Lexer.spokenParts text.toList) ↔
      (∀ p ∈ Lexer.spokenParts text.toList,
        ∃ stmt, Lexer.partStatement? s.nextLine.line p = .ok stmt) ∨
      (Lexer.spokenParts text.toList).length = 1) ∧
    ∀ before part after e, Lexer.spokenParts text.toList = before ++ part :: after →
      (∀ p ∈ before, ∃ stmt, Lexer.partStatement? s.nextLine.line p = .ok stmt) →
      Lexer.partStatement? s.nextLine.line part = .error e →
      s.runLine limit text =
        some (s.nextLine, [.error ((s.nextLine.site text).report (.lexical e))]) := by
  have hone : ∀ t results, s.nextLine.runParts limit (s.nextLine.site text)
      (Lexer.spokenParts text.toList) = some (t, results) →
      results.length = (Lexer.spokenParts text.toList).length := fun t results =>
    length_runParts (s := s.nextLine) hpolicy fun p hp => (List.mem_filter.mp hp).2
  refine ⟨hone, ⟨fun hsame => ?_, ?_⟩, fun before part after e hparts =>
    runLine_of_unreadable hwords hline hparts⟩
  · obtain hread | ⟨before, part, after, e, hparts, hbefore, hpart⟩ :=
      Lexer.readable_or_exists_unreadable s.nextLine.line (Lexer.spokenParts text.toList)
    · exact .inl hread
    · -- The line has one result, so there is one part.
      rw [runLine_of_unreadable hwords hline hparts hbefore hpart] at hsame
      exact .inr (hone _ _ hsame.symm).symm
  · rintro (hread | hsingle)
    · exact runLine_of_readable hwords hpolicy hline hread
    · obtain hread | ⟨before, part, after, e, hparts, hbefore, hpart⟩ :=
        Lexer.readable_or_exists_unreadable s.nextLine.line (Lexer.spokenParts text.toList)
      · exact runLine_of_readable hwords hpolicy hline hread
      · obtain ⟨rfl, rfl⟩ : before = [] ∧ after = [] := by
          rw [hparts, List.length_append, List.length_cons] at hsingle
          exact ⟨List.length_eq_zero_iff.mp (by omega), List.length_eq_zero_iff.mp (by omega)⟩
        rw [runLine_of_unreadable hwords hline hparts hbefore hpart, hparts]
        simp only [List.nil_append, runParts, runPart]
        have hsite : (s.nextLine.site text).line = s.nextLine.line := rfl
        rw [hsite, hpart]
        rfl

open Scene.Reachable (drawing) in
/-- A line that comes to what its parts come to although a statement is refused, and one that does
not because a part cannot be read. -/
theorem runLine_eq_runParts_iff_drawing :
    (drawing.underPolicy .continue).runLine 1 "hide a; # both; hide zz; hide b" =
        (drawing.underPolicy .continue).nextLine.runParts 1
          ((drawing.underPolicy .continue).nextLine.site "hide a; # both; hide zz; hide b")
          (Lexer.spokenParts "hide a; # both; hide zz; hide b".toList) ∧
      (drawing.underPolicy .continue).runLine 1 "hide a; zap; hide b" =
        some ((drawing.underPolicy .continue).nextLine,
          [.error (((drawing.underPolicy .continue).nextLine.site "hide a; zap; hide b").report
            (.lexical (.unknownVerb "zap")))]) := by
  constructor
  · refine (runLine_eq_runParts_iff rfl rfl (by decide)).2.1.mpr (.inl ?_)
    intro p hp
    have hread : (Lexer.partStatement?
        (drawing.underPolicy .continue).nextLine.line p).toOption.isSome = true := by
      revert p
      decide +kernel
    cases hstmt : Lexer.partStatement? (drawing.underPolicy .continue).nextLine.line p with
    | ok stmt => exact ⟨stmt, rfl⟩
    | error e =>
        rw [hstmt] at hread
        cases hread
  · refine (runLine_eq_runParts_iff rfl rfl (by decide)).2.2 ["hide a".toList] " zap".toList
      [" hide b".toList] (.unknownVerb "zap") (by decide +kernel) ?_ (by decide +kernel)
    intro p hp
    obtain rfl := List.mem_singleton.mp hp
    exact ⟨some ⟨.hide, ["a"], drawing.nextLine.line⟩, by decide +kernel⟩

open Scene.Reachable (drawing) in
/-- A line with three parts of which the second cannot be read has one result, and hides nothing;
one by one its parts have three results. -/
theorem runLine_ne_runParts :
    (drawing.underPolicy .continue).settings.strict = false ∧
      (drawing.underPolicy .continue).settings.policy = .continue ∧
      Lexer.isComment "hide a; zap; hide b".toList = false ∧
      (Lexer.spokenParts "hide a; zap; hide b".toList).length = 3 ∧
      ((drawing.underPolicy .continue).runLine 1 "hide a; zap; hide b").map
        (fun r => (r.2.length, (r.1.scene.get? "a").map Entity.visible)) = some (1, some true) ∧
      ((drawing.underPolicy .continue).nextLine.runParts 1
        ((drawing.underPolicy .continue).nextLine.site "hide a; zap; hide b")
        (Lexer.spokenParts "hide a; zap; hide b".toList)).map
          (fun r => (r.2.length, (r.1.scene.get? "a").map Entity.visible)) =
        some (3, some false) := by
  decide +kernel

end Session

end Storyboard
