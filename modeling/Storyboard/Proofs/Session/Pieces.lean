import Storyboard.Proofs.Session.Policies

/-!
# Scripts in pieces

A session keeps all that one line of a script leaves for the next: the scene, the palette, the name
referenced last and the number of the line. So a script may be cut after any of its lines. If the
front part is run to its end, the rest is run from there as it is run at the end of the whole
script: it comes to the same session, and fails with the same diagnostic, which counts lines from
the beginning. The summary of the whole is that of the front part joined with that of the rest.

Nothing is said about a cut inside a line. In particular the front part has to end with a line
feed, because a carriage return is dropped before one and kept at the end of a text.

Main results:

- Definition `Summary.join`: the summary of one script and of the next.
- Theorem `Session.runLines_append`: the lines of a run, cut anywhere.
- Theorem `Session.runLines_join`: what was run before has no influence.
- Definition `Session.Ends`: what a script comes to, whatever the limit.
- Theorem `Session.ends_in_pieces`: a script run at once and in two pieces.
-/

namespace Storyboard

namespace Text

/-- A text that is empty or ends with a line feed contributes its lines, whatever follows it. -/
theorem lines_append_of_closed {front : List Char}
    (hclosed : front = [] ∨ ∃ text, front = text ++ ['\n']) (rest : List Char) :
    lines (front ++ rest) = lines front ++ lines rest := by
  obtain rfl | ⟨text, rfl⟩ := hclosed
  · rfl
  · rw [List.append_assoc, List.singleton_append, lines_append]

end Text

namespace Summary

/-- The summary of two scripts that are run one after the other. -/
def join (first more : Summary) : Summary :=
  { lines := first.lines + more.lines
    statements := first.statements + more.statements
    errors := first.errors ++ more.errors }

@[simp] theorem join_empty (first : Summary) : first.join empty = first := by
  simp only [join, empty, Nat.add_zero, List.append_nil]

theorem addLine_join (first more : Summary) (results : List StatementResult) :
    (first.join more).addLine results = first.join (more.addLine results) := by
  simp only [addLine, join, Nat.add_assoc, List.append_assoc]

end Summary

namespace Session

variable {s t u : Session} {limit : Nat} {first : Summary}

/-! ## Lines -/

/-- A run may be cut between any two lines: it ends at the first failure of the front part, or goes
on with the summary and the session that the front part has come to. -/
theorem runLines_append (s : Session) (limit : Nat) (summary : Summary)
    (front rest : List String) :
    s.runLines limit summary (front ++ rest) =
      (s.runLines limit summary front).bind fun r =>
        match r.2 with
        | .ok final => r.1.runLines limit final rest
        | .error d => some (r.1, .error d) := by
  induction front generalizing s summary with
  | nil => rfl
  | cons text front ih =>
      rw [List.cons_append, runLines, runLines]
      cases s.runLine limit text with
      | none => rfl
      | some done =>
          obtain ⟨t, results⟩ := done
          simp only
          split
          · rfl
          · exact ih t (summary.addLine results)

/-- What was run before has no influence on the lines that follow, and its summary comes first in
theirs. -/
theorem runLines_join (s : Session) (limit : Nat) (first summary : Summary)
    (lines : List String) :
    s.runLines limit (first.join summary) lines =
      (s.runLines limit summary lines).map fun r => (r.1, r.2.map first.join) := by
  induction lines generalizing s summary with
  | nil => rfl
  | cons text lines ih =>
      rw [runLines, runLines]
      cases s.runLine limit text with
      | none => rfl
      | some done =>
          obtain ⟨t, results⟩ := done
          simp only [Summary.addLine_join]
          split
          · rfl
          · exact ih t (summary.addLine results)

/-! ## Scripts -/

/-- A script whose front part is run to its end within a limit. -/
theorem runScript_append {front : String}
    (hclosed : front = "" ∨ ∃ text, front = text ++ "\n")
    (h : s.runScript limit front = some (t, .ok first)) (rest : String) :
    s.runScript limit (front ++ rest) =
      (t.runScript limit rest).map fun r => (r.1, r.2.map first.join) := by
  have hlines : Text.lines (front ++ rest).toList =
      Text.lines front.toList ++ Text.lines rest.toList := by
    rw [String.toList_append]
    refine Text.lines_append_of_closed ?_ rest.toList
    obtain rfl | ⟨text, rfl⟩ := hclosed
    · exact .inl rfl
    · exact .inr ⟨text.toList, String.toList_append⟩
  have hfront : s.runLines limit Summary.empty
      ((Text.lines front.toList).map String.ofList) = some (t, .ok first) := h
  calc s.runScript limit (front ++ rest)
    _ = t.runLines limit first ((Text.lines rest.toList).map String.ofList) := by
        rw [runScript, hlines, List.map_append, runLines_append, hfront]
        rfl
    _ = t.runLines limit (first.join Summary.empty)
          ((Text.lines rest.toList).map String.ofList) := by
        rw [Summary.join_empty]
    _ = (t.runScript limit rest).map fun r => (r.1, r.2.map first.join) :=
        runLines_join t limit first Summary.empty _

/-- A script comes to a session and a result, at some limit on the ticks of a display. -/
def Ends (s : Session) (source : String) (t : Session) (result : Except Diagnostic Summary) :
    Prop :=
  ∃ limit, s.runScript limit source = some (t, result)

/-- A script comes to one session and one result, whatever the limits. -/
theorem Ends.unique {source : String} {result result' : Except Diagnostic Summary}
    (h : s.Ends source t result) (h' : s.Ends source u result') : t = u ∧ result = result' := by
  obtain ⟨n, hn⟩ := h
  obtain ⟨n', hn'⟩ := h'
  have hsame : some (t, result) = some (u, result') :=
    (runScript_of_le hn (Nat.le_max_left n n')).symm.trans
      (runScript_of_le hn' (Nat.le_max_right n n'))
  cases hsame
  exact ⟨rfl, rfl⟩

/-- What the whole of a script comes to, after its front part has been run to its end. -/
theorem ends_append_iff {front : String}
    (hclosed : front = "" ∨ ∃ text, front = text ++ "\n") (h : s.Ends front t (.ok first))
    (rest : String) (u : Session) (result : Except Diagnostic Summary) :
    s.Ends (front ++ rest) u result ↔
      ∃ more, t.Ends rest u more ∧ result = more.map first.join := by
  obtain ⟨n, hn⟩ := h
  constructor
  · rintro ⟨n', hn'⟩
    -- A limit within which both the front part and the whole script end.
    have hfront := runScript_of_le hn (Nat.le_max_left n n')
    have hwhole := runScript_of_le hn' (Nat.le_max_right n n')
    rw [runScript_append hclosed hfront] at hwhole
    obtain ⟨⟨v, more⟩, hrest, hend⟩ := Option.map_eq_some_iff.mp hwhole
    cases hend
    exact ⟨more, ⟨_, hrest⟩, rfl⟩
  · rintro ⟨more, ⟨n', hn'⟩, rfl⟩
    have hfront := runScript_of_le hn (Nat.le_max_left n n')
    have hrest := runScript_of_le hn' (Nat.le_max_right n n')
    refine ⟨max n n', ?_⟩
    rw [runScript_append hclosed hfront, hrest]
    rfl

/-- A script is run at once as it is run in two pieces, of which the first is empty or ends with a
line feed and is run to its end: the whole script fails exactly when the second piece does, in the
same session and with the same diagnostic, and otherwise comes to the same session as the second
piece, with the summaries of both joined. -/
theorem ends_in_pieces {front : String} (hclosed : front = "" ∨ ∃ text, front = text ++ "\n")
    (h : s.Ends front t (.ok first)) (rest : String) (u : Session) :
    (∀ d, s.Ends (front ++ rest) u (.error d) ↔ t.Ends rest u (.error d)) ∧
    ∀ total, s.Ends (front ++ rest) u (.ok total) ↔
      ∃ more, t.Ends rest u (.ok more) ∧ total = first.join more := by
  constructor
  · intro d
    rw [ends_append_iff hclosed h]
    constructor
    · rintro ⟨_ | more, hmore, hresult⟩
      · cases hresult
        exact hmore
      · cases hresult
    · exact fun hmore => ⟨.error d, hmore, rfl⟩
  · intro total
    rw [ends_append_iff hclosed h]
    constructor
    · rintro ⟨_ | more, hmore, hresult⟩
      · cases hresult
      · cases hresult
        exact ⟨more, hmore, rfl⟩
    · rintro ⟨more, hmore, rfl⟩
      exact ⟨.ok more, hmore, rfl⟩

open Scene.Reachable (drawing) in
/-- A script that fails on its third line, after a first piece of one line; and one that is gone on
with after a failure in each piece. -/
theorem ends_in_pieces_drawing :
    (∃ t first u d, (drawing.underPolicy .abort).Ends ("hide a" ++ "\n") t (.ok first) ∧
      t.Ends "hide b\nhide c" u (.error d) ∧ u.line = 3 ∧
      (drawing.underPolicy .abort).Ends ("hide a" ++ "\n" ++ "hide b\nhide c") u (.error d)) ∧
    ∃ t first u more,
      (drawing.underPolicy .continue).Ends ("hide a\r\nhide c" ++ "\n") t (.ok first) ∧
      t.Ends "hide c; hide b" u (.ok more) ∧
      (drawing.underPolicy .continue).Ends ("hide a\r\nhide c" ++ "\n" ++ "hide c; hide b") u
        (.ok (first.join more)) ∧
      (first.join more).lines = 3 ∧ (first.join more).statements = 2 ∧
      (first.join more).errors.map (fun d => d.site.line) = [2, 3] := by
  constructor
  · have hruns : ((drawing.underPolicy .abort).runScript 1 ("hide a" ++ "\n")).any (fun r =>
        r.2.toOption.isSome && (r.1.runScript 1 "hide b\nhide c").any fun r' =>
          r'.2.toOption.isNone && decide (r'.1.line = 3)) = true := by
      decide +kernel
    obtain ⟨⟨t, d | first⟩, hfront, hgoes⟩ := (Option.any_eq_true _ _).mp hruns
    · cases hgoes
    · obtain ⟨⟨u, d | more⟩, hrest, hline⟩ := (Option.any_eq_true _ _).mp hgoes
      · exact ⟨t, first, u, d, ⟨1, hfront⟩, ⟨1, hrest⟩, of_decide_eq_true hline,
          ((ends_in_pieces (.inr ⟨"hide a", rfl⟩) ⟨1, hfront⟩ "hide b\nhide c" u).1 d).mpr
            ⟨1, hrest⟩⟩
      · cases hline
  · have hruns : ((drawing.underPolicy .continue).runScript 1
        ("hide a\r\nhide c" ++ "\n")).any (fun r => r.2.toOption.any fun first =>
          (r.1.runScript 1 "hide c; hide b").any fun r' => r'.2.toOption.any fun more =>
            decide ((first.join more).lines = 3 ∧ (first.join more).statements = 2 ∧
              (first.join more).errors.map (fun d => d.site.line) = [2, 3])) = true := by
      decide +kernel
    obtain ⟨⟨t, d | first⟩, hfront, hgoes⟩ := (Option.any_eq_true _ _).mp hruns
    · cases hgoes
    · obtain ⟨_, ⟨⟩, hgoes⟩ := (Option.any_eq_true _ _).mp hgoes
      obtain ⟨⟨u, d | more⟩, hrest, hsum⟩ := (Option.any_eq_true _ _).mp hgoes
      · cases hsum
      · exact ⟨t, first, u, more, ⟨1, hfront⟩, ⟨1, hrest⟩,
          ((ends_in_pieces (.inr ⟨"hide a\r\nhide c", rfl⟩) ⟨1, hfront⟩ "hide c; hide b" u).2
            (first.join more)).mpr ⟨more, ⟨1, hrest⟩, rfl⟩,
          of_decide_eq_true hsum⟩

end Session

end Storyboard
