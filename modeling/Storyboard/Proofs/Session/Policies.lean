import Storyboard.Proofs.Session.Definitions

/-!
# The two error policies

The policy of a session says what happens after a failure and nothing else: no statement looks at
it. So a script runs alike under both policies up to its first failure. Under one policy the run
ends there; under the other it goes on from the same session with the statements that are left of
the line, and then with the lines after it.

A run has a limit on the ticks of a display. A larger limit never changes what a run comes to, so
the two runs may have different limits.

Main results:

- Theorem `Session.execute_underPolicy`: statements do not depend on the policy.
- Theorem `Session.runScript_of_le`: a larger limit does not change the result of a script.
- Definition `Session.FailsFirst`: where the first failure of a run is, and what is left to be run.
- Theorem `Session.policies_agree`: the two runs agree up to the first failure.
-/

namespace Storyboard

/-! ## Larger limits -/

namespace Scene

variable {s : Scene} {limit limit' : Nat}

/-- A display that ends within a limit ends alike within a larger one. -/
theorem settleFrames_of_le {order : List EntityId} {r : Recording} {frames : Nat} {d : Displayed}
    (h : s.settleFrames order r frames limit = some d) (hle : limit ≤ limit') :
    s.settleFrames order r frames limit' = some d := by
  induction limit generalizing s order r frames limit' with
  | zero => cases h
  | succ limit ih =>
      obtain ⟨more, rfl⟩ : ∃ more, limit' = more + 1 := ⟨limit' - 1, by omega⟩
      rw [settleFrames_succ] at h ⊢
      split at h
      · next hchanged =>
        rw [if_pos hchanged]
        exact ih h (by omega)
      · next hrest =>
        rw [if_neg hrest]
        exact h

theorem display_of_le {r : Recording} {d : Displayed} (h : s.display limit r = some d)
    (hle : limit ≤ limit') : s.display limit' r = some d := by
  obtain ⟨d', hd', rfl⟩ := Option.map_eq_some_iff.mp h
  rw [display, settleFrames_of_le hd' hle]
  rfl

end Scene

namespace Summary

theorem failures_append (results more : List StatementResult) :
    failures (results ++ more) = failures results ++ failures more :=
  List.filterMap_append

theorem errors_addLine (s : Summary) (results : List StatementResult) :
    (s.addLine results).errors = s.errors ++ failures results := rfl

end Summary

namespace Session

variable {s t u : Session} {limit limit' : Nat} {stmt : Statement} {stmts : List Statement}
  {text : String} {lines : List String} {results : List StatementResult} {summary : Summary}

theorem perform_of_le {a : Action} {result : Session × Option Fault}
    (h : s.perform limit a = some result) (hle : limit ≤ limit') :
    s.perform limit' a = some result := by
  cases a with
  | display =>
      obtain ⟨t, ht, rfl⟩ := Option.map_eq_some_iff.mp h
      unfold Session.display at ht
      split at ht
      · cases ht
      · next hcount =>
        obtain ⟨d, hd, rfl⟩ := Option.map_eq_some_iff.mp ht
        simp only [perform, Session.display, Scene.display_of_le hd hle, if_neg hcount,
          Option.map_some]
  | _ => exact h

theorem execute_of_le {result : Session × Option Fault}
    (h : s.execute limit stmt = some result) (hle : limit ≤ limit') :
    s.execute limit' stmt = some result := by
  unfold execute at h ⊢
  cases hread : Action.read s.stage stmt.verb stmt.args with
  | error f =>
      rw [hread] at h
      exact h
  | ok a =>
      rw [hread] at h
      obtain ⟨done, hdone, hend⟩ := Option.map_eq_some_iff.mp h
      simp only [perform_of_le hdone hle, Option.map_some, hend]

theorem runStatements_of_le {site : Site} {result : Session × List StatementResult}
    (h : s.runStatements limit site stmts = some result) (hle : limit ≤ limit') :
    s.runStatements limit' site stmts = some result := by
  induction stmts generalizing s result with
  | nil => exact h
  | cons stmt rest ih =>
      unfold runStatements at h ⊢
      cases hexecute : s.execute limit stmt with
      | none =>
          rw [hexecute] at h
          cases h
      | some done =>
          obtain ⟨t, refusal⟩ := done
          rw [hexecute] at h
          rw [execute_of_le hexecute hle]
          cases refusal with
          | none =>
              obtain ⟨more, hmore, hend⟩ := Option.map_eq_some_iff.mp h
              simp only [ih hmore, Option.map_some, hend]
          | some f =>
              simp only at h ⊢
              split at h
              · exact h
              · obtain ⟨more, hmore, hend⟩ := Option.map_eq_some_iff.mp h
                simp only [ih hmore, Option.map_some, hend]

theorem runLine_of_le {result : Session × List StatementResult}
    (h : s.runLine limit text = some result) (hle : limit ≤ limit') :
    s.runLine limit' text = some result := by
  unfold runLine at h ⊢
  simp only at h ⊢
  split at h
  · exact h
  · exact runStatements_of_le h hle

theorem runLines_of_le {result : Session × Except Diagnostic Summary}
    (h : s.runLines limit summary lines = some result) (hle : limit ≤ limit') :
    s.runLines limit' summary lines = some result := by
  induction lines generalizing s summary with
  | nil => exact h
  | cons text rest ih =>
      unfold runLines at h ⊢
      cases hline : s.runLine limit text with
      | none =>
          rw [hline] at h
          cases h
      | some done =>
          rw [hline] at h
          rw [runLine_of_le hline hle]
          simp only at h ⊢
          split at h
          · exact h
          · exact ih h

/-- A larger limit does not change the result of a script. -/
theorem runScript_of_le {source : String} {result : Session × Except Diagnostic Summary}
    (h : s.runScript limit source = some result) (hle : limit ≤ limit') :
    s.runScript limit' source = some result :=
  runLines_of_le h hle

/-! ## Statements under either policy -/

/-- The same session under a given policy. -/
def underPolicy (p : ErrorPolicy) (s : Session) : Session :=
  { s with settings := { s.settings with policy := p } }

@[simp] theorem policy_underPolicy (p : ErrorPolicy) (s : Session) :
    (s.underPolicy p).settings.policy = p := rfl

@[simp] theorem underPolicy_underPolicy (p q : ErrorPolicy) (s : Session) :
    (s.underPolicy p).underPolicy q = s.underPolicy q := rfl

theorem underPolicy_self : s.underPolicy s.settings.policy = s := rfl

theorem perform_underPolicy (p : ErrorPolicy) (limit : Nat) (s : Session) (a : Action) :
    (s.underPolicy p).perform limit a =
      (s.perform limit a).map fun result => (result.1.underPolicy p, result.2) := by
  cases a with
  | define name blueprint =>
      simp only [perform]
      change (if s.scene.canCreate (1 + blueprint.arrowheads.length) then _ else _) = _
      split <;> rfl
  | display =>
      simp only [perform, Session.display]
      change Option.map _ (if s.scene.config.statusOverlay && !s.scene.canCreate 1 then none
        else Option.map _ (s.scene.display limit s.recording)) = _
      split
      · rfl
      · cases s.scene.display limit s.recording <;> rfl
  | _ => rfl

/-- Statements do not depend on the policy, and do not change it. -/
theorem execute_underPolicy (p : ErrorPolicy) (limit : Nat) (s : Session) (stmt : Statement) :
    (s.underPolicy p).execute limit stmt =
      (s.execute limit stmt).map fun result => (result.1.underPolicy p, result.2) := by
  unfold execute
  have hstage : (s.underPolicy p).stage = s.stage := rfl
  rw [hstage]
  cases Action.read s.stage stmt.verb stmt.args with
  | error f => rfl
  | ok a =>
      simp only [perform_underPolicy]
      cases s.perform limit a with
      | none => rfl
      | some result =>
          obtain ⟨t, refusal⟩ := result
          cases refusal with
          | none =>
              have hremember : (t.underPolicy p).remember stmt =
                  (t.remember stmt).underPolicy p := by
                unfold remember
                split
                · rfl
                · change (if t.scene.contains _ then _ else _) = _
                  split <;> rfl
                · rfl
              simp only [Option.map_some, hremember]
          | some f => rfl

theorem policy_of_execute {refusal : Option Fault} (h : s.execute limit stmt = some (t, refusal)) :
    t.settings.policy = s.settings.policy := by
  have hsame := execute_underPolicy s.settings.policy limit s stmt
  rw [underPolicy_self, h, Option.map_some, Option.some.injEq, Prod.mk.injEq] at hsame
  exact congrArg (fun u => u.settings.policy) hsame.1

/-! ## Runs without failures -/

section Steps

variable {site : Site} {rest : List Statement} {f : Fault}

theorem runStatements_of_done (h : s.execute limit stmt = some (t, none)) :
    s.runStatements limit site (stmt :: rest) =
      (t.runStatements limit site rest).map fun r => (r.1, .ok () :: r.2) := by
  rw [runStatements, h]

theorem runStatements_of_refused (h : s.execute limit stmt = some (t, some f)) :
    s.runStatements limit site (stmt :: rest) =
      match s.settings.policy with
      | .abort => some (t, [.error (site.report f)])
      | .continue =>
          (t.runStatements limit site rest).map fun r => (r.1, .error (site.report f) :: r.2) := by
  have hpolicy : t.settings.policy = s.settings.policy := policy_of_execute h
  cases hs : s.settings.policy with
  | abort => simp only [runStatements, h, hpolicy.trans hs]
  | «continue» => simp only [runStatements, h, hpolicy.trans hs]

/-- What the first of several statements came to, and what was done with the others. -/
theorem runStatements_cons_cases
    (h : s.runStatements limit site (stmt :: rest) = some (t, results)) :
    (∃ u more, s.execute limit stmt = some (u, none) ∧
      u.runStatements limit site rest = some (t, more) ∧ results = .ok () :: more) ∨
    (∃ f, s.execute limit stmt = some (t, some f) ∧ s.settings.policy = .abort ∧
      results = [.error (site.report f)]) ∨
    ∃ u f more, s.execute limit stmt = some (u, some f) ∧ s.settings.policy = .continue ∧
      u.runStatements limit site rest = some (t, more) ∧
      results = .error (site.report f) :: more := by
  cases hexecute : s.execute limit stmt with
  | none =>
      rw [runStatements, hexecute] at h
      cases h
  | some step =>
      obtain ⟨u, refusal⟩ := step
      cases refusal with
      | none =>
          rw [runStatements_of_done hexecute] at h
          obtain ⟨⟨t', more⟩, hmore, hend⟩ := Option.map_eq_some_iff.mp h
          cases hend
          exact .inl ⟨u, more, rfl, hmore, rfl⟩
      | some f =>
          rw [runStatements_of_refused hexecute] at h
          split at h
          · next hpolicy =>
            cases h
            exact .inr (.inl ⟨f, rfl, hpolicy, rfl⟩)
          · next hpolicy =>
            obtain ⟨⟨t', more⟩, hmore, hend⟩ := Option.map_eq_some_iff.mp h
            cases hend
            exact .inr (.inr ⟨u, f, more, rfl, hpolicy, hmore, rfl⟩)

theorem policy_of_runStatements (h : s.runStatements limit site stmts = some (t, results)) :
    t.settings.policy = s.settings.policy := by
  induction stmts generalizing s results with
  | nil =>
      cases h
      rfl
  | cons stmt rest ih =>
      obtain ⟨u, more, hexecute, hmore, -⟩ | ⟨f, hexecute, -⟩ |
        ⟨u, f, more, hexecute, -, hmore, -⟩ := runStatements_cons_cases h
      · exact (ih hmore).trans (policy_of_execute hexecute)
      · exact policy_of_execute hexecute
      · exact (ih hmore).trans (policy_of_execute hexecute)

/-- Statements of which none fails are run alike under both policies. -/
theorem runStatements_underPolicy (p : ErrorPolicy)
    (h : s.runStatements limit site stmts = some (t, results))
    (hclean : Summary.failures results = []) :
    (s.underPolicy p).runStatements limit site stmts = some (t.underPolicy p, results) := by
  induction stmts generalizing s results with
  | nil =>
      cases h
      rfl
  | cons stmt rest ih =>
      obtain ⟨u, more, hexecute, hmore, rfl⟩ | ⟨f, -, -, rfl⟩ | ⟨u, f, more, -, -, -, rfl⟩ :=
        runStatements_cons_cases h
      · have hunder := execute_underPolicy p limit s stmt
        rw [hexecute, Option.map_some] at hunder
        rw [runStatements_of_done hunder, ih hmore hclean]
        rfl
      -- A failure is among the results under either policy.
      · cases hclean
      · cases hclean

/-- A run that goes on after failures may be cut anywhere. -/
theorem runStatements_append (hpolicy : s.settings.policy = .continue)
    (stmts rest : List Statement) :
    s.runStatements limit site (stmts ++ rest) =
      (s.runStatements limit site stmts).bind fun r =>
        (r.1.runStatements limit site rest).map fun r' => (r'.1, r.2 ++ r'.2) := by
  induction stmts generalizing s with
  | nil => simp [runStatements]
  | cons stmt stmts ih =>
      rw [List.cons_append]
      cases hexecute : s.execute limit stmt with
      | none => simp only [runStatements, hexecute, Option.bind_none]
      | some done =>
          obtain ⟨u, refusal⟩ := done
          have hu : u.settings.policy = .continue := (policy_of_execute hexecute).trans hpolicy
          cases refusal with
          | none =>
              simp only [runStatements_of_done hexecute, ih hu]
              cases u.runStatements limit site stmts with
              | none => rfl
              | some r => simp only [Option.bind_some, Option.map_some, Option.map_map]; rfl
          | some f =>
              simp only [runStatements_of_refused hexecute, hpolicy, ih hu]
              cases u.runStatements limit site stmts with
              | none => rfl
              | some r => simp only [Option.bind_some, Option.map_some, Option.map_map]; rfl

/-- Where a line stops that is not gone on with after a failure. -/
theorem exists_of_failure (hpolicy : s.settings.policy = .abort) {d : Diagnostic}
    {others : List Diagnostic} (h : s.runStatements limit site stmts = some (t, results))
    (hfailed : Summary.failures results = d :: others) :
    ∃ done stmt rest u before f, stmts = done ++ stmt :: rest ∧
      s.runStatements limit site done = some (u, before) ∧ Summary.failures before = [] ∧
      u.execute limit stmt = some (t, some f) ∧ d = site.report f := by
  induction stmts generalizing s results with
  | nil =>
      cases h
      cases hfailed
  | cons stmt rest ih =>
      obtain ⟨u, more, hexecute, hmore, rfl⟩ | ⟨f, hexecute, -, rfl⟩ | ⟨u, f, more, -, hgoes, -⟩ :=
        runStatements_cons_cases h
      · have hu : u.settings.policy = .abort := (policy_of_execute hexecute).trans hpolicy
        obtain ⟨done, stmt', rest', v, before, f, rfl, hdone, hclean, hrefused, hd⟩ :=
          ih hu hmore hfailed
        refine ⟨stmt :: done, stmt', rest', v, .ok () :: before, f, rfl, ?_, hclean, hrefused, hd⟩
        rw [runStatements_of_done hexecute, hdone]
        rfl
      · cases hfailed
        exact ⟨[], stmt, rest, s, [], f, rfl, rfl, rfl, hexecute, rfl⟩
      · rw [hpolicy] at hgoes
        cases hgoes

end Steps

/-! ## Lines under either policy -/

theorem policy_of_runLine (h : s.runLine limit text = some (t, results)) :
    t.settings.policy = s.settings.policy := by
  unfold runLine at h
  simp only at h
  split at h
  · cases h
    rfl
  · exact policy_of_runStatements (s := s.nextLine) h

/-- A line without failures is run alike under both policies. -/
theorem runLine_underPolicy (p : ErrorPolicy) (h : s.runLine limit text = some (t, results))
    (hclean : Summary.failures results = []) :
    (s.underPolicy p).runLine limit text = some (t.underPolicy p, results) := by
  unfold runLine at h ⊢
  simp only at h ⊢
  have hstatements : (s.underPolicy p).nextLine.statements (s.underPolicy p).nextLine.line text =
      s.nextLine.statements s.nextLine.line text := rfl
  rw [hstatements]
  cases hread : s.nextLine.statements s.nextLine.line text with
  | error f =>
      rw [hread] at h
      cases h
      cases hclean
  | ok stmts =>
      rw [hread] at h
      exact runStatements_underPolicy (s := s.nextLine) p h hclean

/-- The next line of a run whose lines so far had no failures. -/
theorem runLines_of_clean (h : s.runLine limit text = some (t, results))
    (hclean : Summary.failures results = []) :
    s.runLines limit summary (text :: lines) =
      t.runLines limit (summary.addLine results) lines := by
  rw [runLines, h]
  simp only [hclean]
  cases t.settings.policy <;> rfl

/-- What the first of several lines came to, and what was done with the others. -/
theorem runLines_cons_cases {result : Except Diagnostic Summary}
    (h : s.runLines limit summary (text :: lines) = some (t, result)) :
    ∃ u results, s.runLine limit text = some (u, results) ∧
      ((∃ d others, s.settings.policy = .abort ∧ Summary.failures results = d :: others ∧ t = u ∧
          result = .error d) ∨
        (s.settings.policy = .continue ∨ Summary.failures results = []) ∧
          u.runLines limit (summary.addLine results) lines = some (t, result)) := by
  cases hline : s.runLine limit text with
  | none =>
      rw [runLines, hline] at h
      cases h
  | some done =>
      obtain ⟨u, results⟩ := done
      refine ⟨u, results, rfl, ?_⟩
      rw [runLines, hline] at h
      rw [← policy_of_runLine hline]
      simp only at h
      cases hpolicy : u.settings.policy with
      | abort =>
          cases hfailures : Summary.failures results with
          | nil =>
              simp only [hpolicy, hfailures] at h
              exact .inr ⟨.inr rfl, h⟩
          | cons d others =>
              simp only [hpolicy, hfailures] at h
              cases h
              exact .inl ⟨d, others, rfl, rfl, rfl, rfl⟩
      | «continue» =>
          simp only [hpolicy] at h
          exact .inr ⟨.inl rfl, h⟩

/-- Where the first failure of a run is: the session and the diagnostic at this moment, the
statements of its line that have not been executed, and the lines that have not been read. -/
inductive FailsFirst (limit : Nat) :
    Session → List String → Session → Diagnostic → List Statement → List String → Prop
  /-- A line cannot be read. -/
  | unread {s : Session} {text : String} {later : List String} {f : Fault} :
      s.nextLine.statements s.nextLine.line text = .error f →
      FailsFirst limit s (text :: later) s.nextLine ((s.nextLine.site text).report f) [] later
  /-- A statement is refused. -/
  | refused {s u t : Session} {text : String} {later : List String} {stmt : Statement}
      {done rest : List Statement} {results : List StatementResult} {f : Fault} :
      s.nextLine.statements s.nextLine.line text = .ok (done ++ stmt :: rest) →
      s.nextLine.runStatements limit (s.nextLine.site text) done = some (u, results) →
      Summary.failures results = [] → u.execute limit stmt = some (t, some f) →
      FailsFirst limit s (text :: later) t ((s.nextLine.site text).report f) rest later
  /-- A line has no failure, and the lines after it have one. -/
  | after {s u t : Session} {text : String} {lines later : List String} {rest : List Statement}
      {results : List StatementResult} {d : Diagnostic} :
      s.runLine limit text = some (u, results) → Summary.failures results = [] →
      FailsFirst limit u lines t d rest later →
      FailsFirst limit s (text :: lines) t d rest later

namespace FailsFirst

variable {d : Diagnostic} {rest : List Statement} {later : List String}

/-- Both policies have the first failure at the same place. -/
theorem underPolicy (p : ErrorPolicy) (h : FailsFirst limit s lines t d rest later) :
    FailsFirst limit (s.underPolicy p) lines (t.underPolicy p) d rest later := by
  induction h with
  | unread hread => exact .unread (s := Session.underPolicy p _) hread
  | @refused s u t text later stmt done rest results f hread hdone hclean hrefused =>
      refine .refused (s := s.underPolicy p) hread
        (runStatements_underPolicy (s := s.nextLine) p hdone hclean) hclean ?_
      rw [execute_underPolicy, hrefused]
      rfl
  | after hline hclean _ ih => exact .after (runLine_underPolicy p hline hclean) hclean ih

/-- A run that is not gone on with after a failure ends with its first one. -/
theorem of_runLines (hpolicy : s.settings.policy = .abort)
    (h : s.runLines limit summary lines = some (t, .error d)) :
    ∃ rest later, FailsFirst limit s lines t d rest later := by
  induction lines generalizing s summary with
  | nil => cases h
  | cons text lines ih =>
      obtain ⟨u, results, hline, ⟨e, others, -, hfailures, rfl, hend⟩ | ⟨hclean, hmore⟩⟩ :=
        runLines_cons_cases h
      · cases hend
        unfold runLine at hline
        simp only at hline
        split at hline
        · next f hread =>
          cases hline
          cases hfailures
          exact ⟨[], lines, .unread hread⟩
        · next stmts hread =>
          obtain ⟨done, stmt, rest, v, before, f, rfl, hdone, hclean, hrefused, rfl⟩ :=
            exists_of_failure (s := s.nextLine) hpolicy hline hfailures
          exact ⟨rest, lines, .refused hread hdone hclean hrefused⟩
      · have hfailures : Summary.failures results = [] :=
          hclean.resolve_left fun hgoes => by
            rw [hpolicy] at hgoes
            cases hgoes
        obtain ⟨rest, later, hfails⟩ := ih ((policy_of_runLine hline).trans hpolicy) hmore
        exact ⟨rest, later, .after hline hfailures hfails⟩

/-- A run that goes on after failures goes on from its first one: with the statements that are
left of its line, and then with the lines after it. -/
theorem runLines_eq (hpolicy : s.settings.policy = .continue)
    (h : FailsFirst limit s lines t d rest later) (summary : Summary) :
    ∃ (site : Site) (before : Summary) (results : List StatementResult),
      before.errors = summary.errors ∧ Summary.failures results = [d] ∧
      s.runLines limit summary lines =
        (t.runStatements limit site rest).bind fun r =>
          r.1.runLines limit (before.addLine (results ++ r.2)) later := by
  induction h generalizing summary with
  | @unread s text later f hread =>
      refine ⟨s.nextLine.site text, summary, [.error ((s.nextLine.site text).report f)], rfl, rfl,
        ?_⟩
      have hline : s.runLine limit text =
          some (s.nextLine, [.error ((s.nextLine.site text).report f)]) := by
        simp only [runLine, hread]
      have hnext : s.nextLine.settings.policy = .continue := hpolicy
      rw [runLines, hline]
      simp only [hnext, runStatements, Option.bind_some, List.append_nil]
  | @refused s u t text later stmt done rest results f hread hdone hclean hrefused =>
      refine ⟨s.nextLine.site text, summary,
        results ++ [.error ((s.nextLine.site text).report f)], rfl, ?_, ?_⟩
      · rw [Summary.failures_append, hclean]
        rfl
      · have hu : u.settings.policy = .continue :=
          (policy_of_runStatements hdone).trans hpolicy
        have hline : s.runLine limit text =
            (t.runStatements limit (s.nextLine.site text) rest).map fun r =>
              (r.1, results ++ .error ((s.nextLine.site text).report f) :: r.2) := by
          simp only [runLine, hread, runStatements_append (s := s.nextLine) hpolicy, hdone,
            Option.bind_some, runStatements_of_refused hrefused, hu, Option.map_map]
          rfl
        rw [runLines, hline]
        cases hrest : t.runStatements limit (s.nextLine.site text) rest with
        | none => rfl
        | some r =>
            have ht : r.1.settings.policy = .continue :=
              (policy_of_runStatements hrest).trans ((policy_of_execute hrefused).trans hu)
            simp only [Option.map_some, ht, Option.bind_some, List.append_assoc,
              List.singleton_append]
  | @after s u t text lines later rest results d hline hclean _ ih =>
      obtain ⟨site, before, more, hbefore, hmore, hrun⟩ :=
        ih ((policy_of_runLine hline).trans hpolicy) (summary.addLine results)
      refine ⟨site, before, more, ?_, hmore, ?_⟩
      · rw [hbefore, Summary.errors_addLine, hclean, List.append_nil]
      · rw [runLines_of_clean hline hclean, hrun]

end FailsFirst

/-! ## Scripts under either policy -/

/-- A script that is gone on with after failures has a summary, which collects them in order. -/
theorem exists_summary (hpolicy : s.settings.policy = .continue)
    {result : Except Diagnostic Summary} (h : s.runLines limit summary lines = some (t, result)) :
    ∃ final, result = .ok final ∧ summary.errors <+: final.errors := by
  induction lines generalizing s summary with
  | nil =>
      cases h
      exact ⟨summary, rfl, List.prefix_rfl⟩
  | cons text lines ih =>
      obtain ⟨u, results, hline, ⟨d, others, habort, -⟩ | ⟨-, hmore⟩⟩ := runLines_cons_cases h
      · rw [hpolicy] at habort
        cases habort
      · obtain ⟨final, rfl, hprefix⟩ := ih ((policy_of_runLine hline).trans hpolicy) hmore
        exact ⟨final, rfl, (List.prefix_append _ _).trans hprefix⟩

/-- Lines that are run to their end although the first failure would end the run have no failure,
and are run alike under both policies. -/
theorem runLines_underPolicy (hpolicy : s.settings.policy = .abort) {final : Summary}
    (p : ErrorPolicy) (h : s.runLines limit summary lines = some (t, .ok final)) :
    final.errors = summary.errors ∧
      (s.underPolicy p).runLines limit summary lines = some (t.underPolicy p, .ok final) := by
  induction lines generalizing s summary with
  | nil =>
      cases h
      exact ⟨rfl, rfl⟩
  | cons text lines ih =>
      obtain ⟨u, results, hline, ⟨d, others, -, -, -, hend⟩ | ⟨hclean, hmore⟩⟩ :=
        runLines_cons_cases h
      · cases hend
      · have hfailures : Summary.failures results = [] :=
          hclean.resolve_left fun hgoes => by
            rw [hpolicy] at hgoes
            cases hgoes
        obtain ⟨herrors, hrun⟩ := ih ((policy_of_runLine hline).trans hpolicy) hmore
        rw [runLines_of_clean (runLine_underPolicy p hline hfailures) hfailures]
        refine ⟨?_, hrun⟩
        rw [herrors, Summary.errors_addLine, hfailures, List.append_nil]

/-- The policies agree up to the first failure. A script that is run to its end although the first
failure would end it has none, and comes to the same under the other policy. A script that ends
with a failure has it at the same place under the other policy, where the run goes on from the
same session; it is the first failure that is collected, at whatever limit that run ends. -/
theorem policies_agree (s : Session) (limit : Nat) (source : String) :
    (∀ t summary, (s.underPolicy .abort).runScript limit source = some (t, .ok summary) →
      summary.errors = [] ∧
      (s.underPolicy .continue).runScript limit source =
        some (t.underPolicy .continue, .ok summary)) ∧
    ∀ t d, (s.underPolicy .abort).runScript limit source = some (t, .error d) →
      (∃ rest later,
        FailsFirst limit (s.underPolicy .continue)
          ((Text.lines source.toList).map String.ofList) (t.underPolicy .continue) d rest later ∧
        ∃ (site : Site) (before : Summary) (results : List StatementResult),
          before.errors = [] ∧ Summary.failures results = [d] ∧
          (s.underPolicy .continue).runScript limit source =
            ((t.underPolicy .continue).runStatements limit site rest).bind fun r =>
              r.1.runLines limit (before.addLine (results ++ r.2)) later) ∧
      ∀ limit' u result, (s.underPolicy .continue).runScript limit' source = some (u, result) →
        ∃ summary, result = .ok summary ∧ summary.errors.head? = some d := by
  refine ⟨fun t summary h => runLines_underPolicy (s := s.underPolicy .abort) rfl .continue h, ?_⟩
  intro t d h
  -- The place of the first failure, at any limit that is large enough.
  have hfails : ∀ n, limit ≤ n → ∃ rest later, FailsFirst n (s.underPolicy .continue)
      ((Text.lines source.toList).map String.ofList) (t.underPolicy .continue) d rest later := by
    intro n hn
    obtain ⟨rest, later, hfails⟩ := FailsFirst.of_runLines rfl (runScript_of_le h hn)
    exact ⟨rest, later, hfails.underPolicy .continue⟩
  constructor
  · obtain ⟨rest, later, hfirst⟩ := hfails limit (Nat.le_refl limit)
    exact ⟨rest, later, hfirst, hfirst.runLines_eq rfl Summary.empty⟩
  · intro limit' u result hresult
    have hlarge := runScript_of_le hresult (Nat.le_max_right limit limit')
    obtain ⟨rest, later, hfirst⟩ := hfails _ (Nat.le_max_left limit limit')
    obtain ⟨site, before, results, hbefore, hfailures, hrun⟩ :=
      hfirst.runLines_eq rfl Summary.empty
    rw [runScript, hrun] at hlarge
    obtain ⟨r, hrest, hlater⟩ := Option.bind_eq_some_iff.mp hlarge
    have hr : r.1.settings.policy = .continue := policy_of_runStatements hrest
    obtain ⟨summary, rfl, hprefix⟩ := exists_summary hr hlater
    refine ⟨summary, rfl, ?_⟩
    rw [Summary.errors_addLine, hbefore, Summary.failures_append, hfailures] at hprefix
    obtain ⟨others, hothers⟩ := hprefix
    rw [← hothers]
    rfl

open Scene.Reachable (drawing) in
/-- A script with a failure in the middle of its second line, and one without failures. -/
theorem policies_agree_drawing :
    (∃ t d, (drawing.underPolicy .abort).runScript 1 "hide a\nhide b; hide c; unhide a\nhide a" =
        some (t, .error d) ∧
      (t.scene.get? "a").map Entity.visible = some false ∧
      ∃ rest later, FailsFirst 1 (drawing.underPolicy .continue)
        ["hide a", "hide b; hide c; unhide a", "hide a"] (t.underPolicy .continue) d rest later) ∧
    ∃ t summary, (drawing.underPolicy .abort).runScript 1 "hide a\nhide b" =
        some (t, .ok summary) ∧
      (drawing.underPolicy .continue).runScript 1 "hide a\nhide b" =
        some (t.underPolicy .continue, .ok summary) := by
  constructor
  · have hfails : ((drawing.underPolicy .abort).runScript 1
        "hide a\nhide b; hide c; unhide a\nhide a").any (fun r => r.2.toOption.isNone &&
          decide ((r.1.scene.get? "a").map Entity.visible = some false)) = true := by
      decide +kernel
    rcases hrun : (drawing.underPolicy .abort).runScript 1
        "hide a\nhide b; hide c; unhide a\nhide a" with _ | ⟨t, d | summary⟩
    · rw [hrun] at hfails
      cases hfails
    · simp only [hrun, Option.any_some, Bool.and_eq_true, decide_eq_true_eq] at hfails
      obtain ⟨⟨rest, later, hfirst, -⟩, -⟩ := (policies_agree drawing 1 _).2 t d hrun
      exact ⟨t, d, rfl, hfails.2, rest, later, hfirst⟩
    · rw [hrun] at hfails
      cases hfails
  · have hclean : ((drawing.underPolicy .abort).runScript 1 "hide a\nhide b").any
        (fun r => r.2.toOption.isSome) = true := by
      decide +kernel
    rcases hrun : (drawing.underPolicy .abort).runScript 1 "hide a\nhide b" with
      _ | ⟨t, d | summary⟩
    · rw [hrun] at hclean
      cases hclean
    · rw [hrun] at hclean
      cases hclean
    · exact ⟨t, summary, rfl, ((policies_agree drawing 1 _).1 t summary hrun).2⟩

end Session

end Storyboard
