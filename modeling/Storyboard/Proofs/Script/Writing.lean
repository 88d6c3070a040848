import Mathlib.Data.List.Forall2
import Storyboard.Proofs.Script.Scan
import Storyboard.Proofs.Text

/-!
# Writing statements down

A statement is written as the full name of its verb and its arguments, each after a space and
between quotes of a kind that it does not hold; a line is written as its statements with semicolons
between them. Quotes are the only characters that an argument cannot have in any way: what is
between two of them may be empty, and may hold blanks, semicolons, the mark of a comment and quotes
of the other kind.

Main results:

- Theorem `writes_iff`: the statements that can be written are those whose arguments lack one of
  the two quotes.
- Theorem `scan_spells`: a written statement is read up to the semicolon that ends it.
- Theorem `statements_read_back`: a written line is read as the statements it was written from.
-/

namespace Storyboard

/-- The names of verbs consist of letters. -/
theorem Verb.isAlpha_of_mem_name {v : Verb} {c : Char} (h : c ∈ v.name.toList) : c.isAlpha := by
  have hall : v.name.toList.all Char.isAlpha := by
    cases v <;> decide
  exact List.all_eq_true.mp hall c h

theorem Verb.exists_cons_name (v : Verb) : ∃ c w, v.name.toList = c :: w := by
  apply List.exists_cons_of_ne_nil
  cases v <;> decide

namespace Lexer

/-! ## Written statements -/

/-- An argument between two equal quotes that it does not hold. -/
def Encloses (arg : String) (t : List Char) : Prop :=
  ∃ q, isQuote q ∧ q ∉ arg.toList ∧ t = q :: (arg.toList ++ [q])

/-- Texts with a space before each of them. -/
def spacedOut (toks : List (List Char)) : List Char := toks.flatMap (' ' :: ·)

/-- The full name of a verb, and the arguments between quotes, with a space before each. -/
def Spells (stmt : Statement) (t : List Char) : Prop :=
  ∃ toks, List.Forall₂ Encloses stmt.args toks ∧ t = stmt.verb.name.toList ++ spacedOut toks

/-- Statements with semicolons between them. -/
def Writes (stmts : List Statement) (line : List Char) : Prop :=
  ∃ ts, List.Forall₂ Spells stmts ts ∧ line = [';'].intercalate ts

/-- The items of a list have partners in order if each of them has one. -/
theorem exists_forall₂_iff {α β : Type} {R : α → β → Prop} {l : List α} :
    (∃ l', List.Forall₂ R l l') ↔ ∀ a ∈ l, ∃ b, R a b := by
  constructor
  · rintro ⟨l', h⟩
    induction h with
    | nil => simp
    | cons hab _ ih => exact List.forall_mem_cons.mpr ⟨⟨_, hab⟩, ih⟩
  · intro h
    induction l with
    | nil => exact ⟨[], .nil⟩
    | cons a l ih =>
        obtain ⟨⟨b, hab⟩, hl⟩ := List.forall_mem_cons.mp h
        obtain ⟨l', hl'⟩ := ih hl
        exact ⟨b :: l', .cons hab hl'⟩

theorem exists_encloses_iff {arg : String} :
    (∃ t, Encloses arg t) ↔ ∃ q, isQuote q ∧ q ∉ arg.toList := by
  constructor
  · rintro ⟨t, q, hq, hmem, -⟩
    exact ⟨q, hq, hmem⟩
  · rintro ⟨q, hq, hmem⟩
    exact ⟨_, q, hq, hmem, rfl⟩

theorem exists_spells_iff {stmt : Statement} :
    (∃ t, Spells stmt t) ↔ ∀ arg ∈ stmt.args, ∃ q, isQuote q ∧ q ∉ arg.toList := by
  simp only [← exists_encloses_iff]
  rw [← exists_forall₂_iff]
  constructor
  · rintro ⟨t, toks, htoks, -⟩
    exact ⟨toks, htoks⟩
  · rintro ⟨toks, htoks⟩
    exact ⟨_, toks, htoks, rfl⟩

/-- The statements that can be written are those whose arguments lack one of the two quotes. -/
theorem writes_iff {stmts : List Statement} :
    (∃ line, Writes stmts line) ↔
      ∀ stmt ∈ stmts, ∀ arg ∈ stmt.args, ∃ q, isQuote q ∧ q ∉ arg.toList := by
  simp only [← exists_spells_iff]
  rw [← exists_forall₂_iff]
  constructor
  · rintro ⟨line, ts, hts, -⟩
    exact ⟨ts, hts⟩
  · rintro ⟨ts, hts⟩
    exact ⟨_, ts, hts, rfl⟩

/-! ## Reading them -/

/-- A token may end before the arguments that follow it, and before the semicolon after them. -/
theorem goesOn_of_mem_head_spacedOut (toks : List (List Char)) (rest : Option (List Char)) :
    ∀ c ∈ (spacedOut toks ++ leftover rest).head?, goesOn c = false := by
  intro c hc
  cases toks with
  | nil =>
      cases rest with
      | none => cases hc
      | some rest =>
          cases hc
          decide
  | cons tok toks =>
      cases hc
      decide

/-- Arguments between quotes are read one by one. -/
theorem scan_spacedOut {args : List String} {toks : List (List Char)}
    (h : List.Forall₂ Encloses args toks) (rest : Option (List Char)) :
    scan none none (spacedOut toks ++ leftover rest) = (some (args.map String.toList), rest) := by
  induction h with
  | nil => cases rest <;> rfl
  | @cons arg tok args toks hfirst _ ih =>
      obtain ⟨q, hq, hmem, rfl⟩ := hfirst
      have hline : spacedOut ((q :: (arg.toList ++ [q])) :: toks) ++ leftover rest =
          [' '] ++ q :: (arg.toList ++ q :: (spacedOut toks ++ leftover rest)) := by
        simp [spacedOut]
      have hspace : ∀ c ∈ [' '], Text.isBlank c := by
        simp only [List.mem_singleton, forall_eq]
        decide
      rw [hline, scan_blanks hspace,
        scan_enclosed hq hmem (goesOn_of_mem_head_spacedOut toks rest), ih]
      rfl

/-- A letter belongs to a word, which it may begin. -/
theorem goesOn_of_isAlpha {c : Char} (h : c.isAlpha) : goesOn c ∧ isQuote c = false := by
  have hblank : Text.isBlank c = false := Text.not_isBlank_of_isAlpha h
  have hsemicolon : c ≠ ';' := by
    rintro rfl
    exact absurd h (by decide)
  refine ⟨by simp [goesOn, hblank, hsemicolon], ?_⟩
  rw [Bool.eq_false_iff]
  intro hq
  rcases (by simpa [isQuote] using hq : c = '\x22' ∨ c = '\x27') with rfl | rfl
  · exact absurd h (by decide)
  · exact absurd h (by decide)

variable {stmt : Statement} {t : List Char}

/-- A written statement is read up to the semicolon that ends it. -/
theorem scan_spells (h : Spells stmt t) (rest : Option (List Char)) :
    scan none none (t ++ leftover rest) =
      (some (stmt.verb.name.toList :: stmt.args.map String.toList), rest) := by
  obtain ⟨toks, htoks, rfl⟩ := h
  obtain ⟨c, w, hname⟩ := stmt.verb.exists_cons_name
  have hletters : ∀ x ∈ c :: w, x.isAlpha := by
    intro x hx
    exact Verb.isAlpha_of_mem_name (hname ▸ hx)
  have hgoes : ∀ x ∈ c :: w, goesOn x := fun x hx => (goesOn_of_isAlpha (hletters x hx)).1
  have hquote : isQuote c = false := (goesOn_of_isAlpha (hletters c List.mem_cons_self)).2
  rw [hname, List.append_assoc,
    scan_word hquote hgoes (goesOn_of_mem_head_spacedOut toks rest), scan_spacedOut htoks]
  rfl

/-- A written statement is no comment. -/
theorem isComment_spells (h : Spells stmt t) : isComment t = false := by
  obtain ⟨toks, -, rfl⟩ := h
  obtain ⟨c, w, hname⟩ := stmt.verb.exists_cons_name
  have hletter : c.isAlpha := Verb.isAlpha_of_mem_name (hname ▸ List.mem_cons_self)
  have hblank : Text.isBlank c = false := Text.not_isBlank_of_isAlpha hletter
  rw [hname, List.cons_append, isComment_cons hblank, decide_eq_false]
  rintro rfl
  exact absurd hletter (by decide)

/-- The full names of verbs select them, and arguments are what they were. -/
theorem readStatement_spells (h : Spells stmt t) (number : Nat) (rest : Option (List Char)) :
    readStatement number (t ++ leftover rest) = some (some { stmt with line := number }) := by
  have hlower : stmt.verb.name.toList.map Char.toLower = stmt.verb.name.toList := by
    cases stmt.verb <;> decide
  have hargs : (stmt.args.map String.toList).map String.ofList = stmt.args := by
    simp [Function.comp_def]
  rw [readStatement, isComment_append_leftover, isComment_spells h, scan_spells h]
  simp [statement?, verb_of_map_toLower hlower, hargs, Except.map, Except.toOption]

/-- The first statement of a written line ends the line, or a semicolon and a written line follow
it. -/
theorem Writes.exists_first {stmts : List Statement} {line : List Char}
    (h : Writes (stmt :: stmts) line) :
    ∃ t rest, Spells stmt t ∧ line = t ++ leftover rest ∧
      (rest = none → stmts = []) ∧ ∀ others, rest = some others → Writes stmts others := by
  obtain ⟨ts, hts, rfl⟩ := h
  cases hts with
  | @cons _ t _ ts hfirst hothers =>
      cases hothers with
      | nil => exact ⟨t, none, hfirst, by simp [List.intercalate, leftover], by simp, by simp⟩
      | @cons _ u _ ts hnext hrest =>
          refine ⟨t, some ([';'].intercalate (u :: ts)), hfirst, ?_, by simp, ?_⟩
          · simp [List.intercalate, leftover]
          · rintro others ⟨⟩
            exact ⟨u :: ts, .cons hnext hrest, rfl⟩

theorem isComment_writes {stmts : List Statement} {line : List Char} (h : Writes stmts line) :
    isComment line = false := by
  cases stmts with
  | nil =>
      obtain ⟨ts, hts, rfl⟩ := h
      cases hts
      rfl
  | cons stmt stmts =>
      obtain ⟨t, rest, hfirst, rfl, -⟩ := h.exists_first
      rw [isComment_append_leftover, isComment_spells hfirst]

/-- The parts of a written line are read as the statements it was written from. -/
theorem partStatements_writes {stmts : List Statement} {line : List Char}
    (h : Writes stmts line) (number : Nat) :
    partStatements number (parts line) = .ok (stmts.map ({ · with line := number })) := by
  induction stmts generalizing line with
  | nil =>
      obtain ⟨ts, hts, rfl⟩ := h
      cases hts
      rfl
  | cons stmt stmts ih =>
      obtain ⟨t, rest, hfirst, rfl, hlast, hmore⟩ := h.exists_first
      have hothers : partStatements number (partsAfter rest) =
          .ok (stmts.map ({ · with line := number })) := by
        cases rest with
        | none =>
            rw [hlast rfl]
            rfl
        | some others => exact ih (hmore others rfl)
      rw [partStatements_parts]
      refine ⟨_, _, readStatement_spells hfirst number rest, ?_, rfl⟩
      rw [scan_spells hfirst]
      exact hothers

/-- Statements can be written if each of their arguments lacks one of the two quotes, and only
then. However they are written, the line is read as these statements and no others, with the same
arguments in the same order. -/
theorem statements_read_back (number : Nat) (stmts : List Statement) :
    ((∀ stmt ∈ stmts, ∀ arg ∈ stmt.args, ∃ q, isQuote q ∧ q ∉ arg.toList) ↔
      ∃ line, Writes stmts line) ∧
    ∀ line, Writes stmts line →
      statements number line = .ok (stmts.map ({ · with line := number })) := by
  refine ⟨writes_iff.symm, ?_⟩
  intro line h
  rw [statements, isComment_writes h]
  exact partStatements_writes h number

/-- An empty argument, and arguments that hold a blank and a semicolon, the mark of a comment, and
either quote. -/
theorem statements_of_quoted :
    Writes [⟨.hide, ["", "a ;b"], 7⟩, ⟨.wait, [], 7⟩, ⟨.kill, ["#it's", "\x22"], 7⟩]
      "hide \x22\x22 'a ;b';wait;kill \x22#it's\x22 '\x22'".toList ∧
    statements 7 "hide \x22\x22 'a ;b';wait;kill \x22#it's\x22 '\x22'".toList =
      .ok [⟨.hide, ["", "a ;b"], 7⟩, ⟨.wait, [], 7⟩, ⟨.kill, ["#it's", "\x22"], 7⟩] := by
  have hhide : Spells ⟨.hide, ["", "a ;b"], 7⟩ "hide \x22\x22 'a ;b'".toList :=
    ⟨["\x22\x22".toList, "'a ;b'".toList],
      .cons ⟨'\x22', by decide⟩ (.cons ⟨'\x27', by decide⟩ .nil), by decide⟩
  have hwait : Spells ⟨.wait, [], 7⟩ "wait".toList := ⟨[], .nil, by decide⟩
  have hkill : Spells ⟨.kill, ["#it's", "\x22"], 7⟩ "kill \x22#it's\x22 '\x22'".toList :=
    ⟨["\x22#it's\x22".toList, "'\x22'".toList],
      .cons ⟨'\x22', by decide⟩ (.cons ⟨'\x27', by decide⟩ .nil), by decide⟩
  have hwrites : Writes [⟨.hide, ["", "a ;b"], 7⟩, ⟨.wait, [], 7⟩, ⟨.kill, ["#it's", "\x22"], 7⟩]
      "hide \x22\x22 'a ;b';wait;kill \x22#it's\x22 '\x22'".toList :=
    ⟨_, .cons hhide (.cons hwait (.cons hkill .nil)), by decide⟩
  exact ⟨hwrites, (statements_read_back 7 _).2 _ hwrites⟩

end Lexer

end Storyboard
