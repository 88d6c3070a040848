import Storyboard.Proofs.Script.Sweep
import Storyboard.Text.Bytes

/-!
# Where a line cannot be read

A line that cannot be read fails in one of its parts: a quotation is left open, or the word in
front selects no verb. This module finds the place in the whole line. The part stands after the
parts in front of it, each with the semicolon that ends it; the quote that is never closed stands
where a token may start; and a verb word without quotes is the first word of its part.

Main results:

- Theorem `statements_eq_error_iff`: a line fails where its first unreadable part does.
- Theorem `StopsAt.unclosed`: the quote that is never closed, in its part and in the line.
- Theorem `StopsAt.noVerb_firstWord`: the word that selects no verb.
-/

namespace Storyboard.Lexer

/-! ## The part that cannot be read -/

/-- What a line has before a part: the parts in front of it, each with its semicolon. -/
def passed (front : List (List Char)) : List Char := front.flatMap fun part => part ++ [';']

/-- Nothing has been passed only in front of the first part. -/
theorem passed_eq_nil_iff {front : List (List Char)} : passed front = [] ↔ front = [] := by
  cases front with
  | nil => exact iff_of_true rfl rfl
  | cons part front => simp [passed]

/-- A line can be read up to a part that cannot. -/
structure StopsAt (number : Nat) (line : List Char) (e : LexError) (front : List (List Char))
    (part : List Char) (back : List (List Char)) : Prop where
  parts_eq : parts line = front ++ part :: back
  front_read : ∀ p ∈ front, ∃ first, partStatement? number p = .ok first
  error : partStatement? number part = .error e

theorem intercalate_append (front : List (List Char)) (part : List Char)
    (back : List (List Char)) : [';'].intercalate (front ++ part :: back) =
      passed front ++ [';'].intercalate (part :: back) := by
  induction front with
  | nil => rfl
  | cons p front ih =>
      obtain ⟨q, rest, hrest⟩ := List.exists_cons_of_ne_nil
        (show front ++ part :: back ≠ [] by simp)
      have hfirst : [';'].intercalate (p :: q :: rest) =
          p ++ [';'] ++ [';'].intercalate (q :: rest) := by
        simp [List.intercalate]
      rw [List.cons_append, hrest, hfirst, ← hrest, ih, passed, passed, List.flatMap_cons,
        List.append_assoc (p ++ [';'])]

/-- Parts are read up to the first one that cannot be. -/
theorem partStatements_eq_error_iff {number : Nat} {ps : List (List Char)} {e : LexError} :
    partStatements number ps = .error e ↔ ∃ front part back, ps = front ++ part :: back ∧
      (∀ p ∈ front, ∃ first, partStatement? number p = .ok first) ∧
      partStatement? number part = .error e := by
  induction ps with
  | nil => simp [partStatements]
  | cons p ps ih =>
      rw [partStatements]
      cases hp : partStatement? number p with
      | error e' =>
          constructor
          · intro h
            cases h
            exact ⟨[], p, ps, rfl, by simp, hp⟩
          · rintro ⟨front, part, back, hps, hfront, hpart⟩
            cases front with
            | nil =>
                obtain ⟨rfl, rfl⟩ := List.cons.inj hps
                rw [hp] at hpart
                cases hpart
                rfl
            | cons q front =>
                obtain ⟨rfl, rfl⟩ := List.cons.inj hps
                obtain ⟨first, hfirst⟩ := hfront p List.mem_cons_self
                rw [hp] at hfirst
                cases hfirst
      | ok first =>
          have hrest : (do
              let others ← partStatements number ps
              Except.ok (first.toList ++ others) : Except LexError (List Statement)) = .error e ↔
              partStatements number ps = .error e := by
            cases partStatements number ps with
            | error e' => exact Iff.rfl
            | ok others => exact iff_of_false (fun h => by cases h) (fun h => by cases h)
          refine hrest.trans (ih.trans ?_)
          constructor
          · rintro ⟨front, part, back, rfl, hfront, hpart⟩
            exact ⟨p :: front, part, back, rfl,
              List.forall_mem_cons.mpr ⟨⟨first, hp⟩, hfront⟩, hpart⟩
          · rintro ⟨front, part, back, hps, hfront, hpart⟩
            cases front with
            | nil =>
                obtain ⟨rfl, rfl⟩ := List.cons.inj hps
                rw [hp] at hpart
                cases hpart
            | cons q front =>
                obtain ⟨rfl, rfl⟩ := List.cons.inj hps
                exact ⟨front, part, back, rfl, (List.forall_mem_cons.mp hfront).2, hpart⟩

/-- A line that is not a comment fails where its first unreadable part does. -/
theorem statements_eq_error_iff {number : Nat} {line : List Char} {e : LexError} :
    statements number line = .error e ↔
      isComment line = false ∧ ∃ front part back, StopsAt number line e front part back := by
  unfold statements
  cases isComment line with
  | true => simp
  | false =>
      rw [if_neg Bool.false_ne_true, partStatements_eq_error_iff]
      constructor
      · rintro ⟨front, part, back, hparts, hfront, hpart⟩
        exact ⟨rfl, front, part, back, hparts, hfront, hpart⟩
      · rintro ⟨-, front, part, back, hstop⟩
        exact ⟨front, part, back, hstop.parts_eq, hstop.front_read, hstop.error⟩

namespace StopsAt

variable {number : Nat} {line part : List Char} {e : LexError} {front back : List (List Char)}

/-- The part stands in the line after the parts in front of it. -/
theorem isPrefix (h : StopsAt number line e front part back) : passed front ++ part <+: line := by
  have hline : line = passed front ++ [';'].intercalate (part :: back) := by
    rw [← intercalate_append, ← h.parts_eq, parts, intercalate_partsFrom]
  rw [hline, List.prefix_append_right_inj]
  cases back with
  | nil => simp [List.intercalate]
  | cons p back => simp [List.intercalate]

end StopsAt

/-! ## The quote that is never closed -/

/-- The quote `q` opens a quotation after `before` that is still open at the end of the line. -/
structure Unclosed (line before : List Char) (q : Char) (after : List Char) : Prop where
  line_eq : line = before ++ q :: after
  quote : isQuote q
  /-- A token may start there, outside quotes. -/
  start : before.foldl Place.next .start = .start
  not_mem : q ∉ after

/-- Inside quotes a sweep stays as long as the quote does not come again. -/
theorem foldl_next_quoted {q : Char} {text : List Char} (h : q ∉ text) :
    text.foldl Place.next (.quoted q) = .quoted q := by
  induction text with
  | nil => rfl
  | cons c text ih =>
      obtain ⟨hc, htext⟩ := not_or.mp (List.mem_cons.not.mp h)
      rw [List.foldl_cons, Place.next, if_neg (Ne.symm hc), ih htext]

/-- A line has at most one quote that is never closed. -/
theorem Unclosed.unique {line before after before' after' : List Char} {q q' : Char}
    (h : Unclosed line before q after) (h' : Unclosed line before' q' after') :
    before = before' ∧ q = q' ∧ after = after' := by
  -- A quote that opened later would be inside the quotation of the other one.
  have hlater : ∀ {before before' after after' between : List Char} {q q' : Char},
      Unclosed line before q after → Unclosed line before' q' after' →
        before' = before ++ q :: between → False := by
    intro before before' after after' between q q' h h' hbefore
    have hafter : after = between ++ q' :: after' := by
      have hline := h.line_eq.symm.trans h'.line_eq
      rw [hbefore, List.append_assoc, List.cons_append] at hline
      exact (List.cons.inj (List.append_cancel_left hline)).2
    have hbetween : q ∉ between := fun hq => h.not_mem (hafter ▸ List.mem_append_left _ hq)
    have hplace := h'.start
    rw [hbefore, List.foldl_append, h.start, List.foldl_cons, Place.next, if_pos h.quote,
      foldl_next_quoted hbetween] at hplace
    cases hplace
  rcases List.append_eq_append_iff.mp (h.line_eq.symm.trans h'.line_eq) with
    ⟨mid, hmid, hrest⟩ | ⟨mid, hmid, hrest⟩
  · cases mid with
    | nil =>
        obtain ⟨rfl, rfl⟩ := List.cons.inj hrest
        exact ⟨by rw [hmid, List.append_nil], rfl, rfl⟩
    | cons c mid =>
        obtain ⟨rfl, -⟩ := List.cons.inj hrest
        exact (hlater h h' hmid).elim
  · cases mid with
    | nil =>
        obtain ⟨rfl, rfl⟩ := List.cons.inj hrest
        exact ⟨by rw [hmid, List.append_nil], rfl, rfl⟩
    | cons c mid =>
        obtain ⟨rfl, -⟩ := List.cons.inj hrest
        exact (hlater h' h hmid).elim

/-- The quotation that a sweep ends in opens in the line: its quote stands in the last piece, after
`inside`, and the error counts the bytes before it there. -/
structure OpensIn (offset : Nat) (place : Place) (line : List Char) (front : List Piece)
    (p : Piece) (inside : List Char) (q : Char) (after : List Char) : Prop where
  line_eq : line = passed (front.map Piece.text) ++ inside ++ q :: after
  text_eq : p.text = inside ++ q :: after
  quote : isQuote q
  start : (passed (front.map Piece.text) ++ inside).foldl Place.next place = .start
  not_mem : q ∉ after
  error : p.tokens = .error
    (.unterminatedQuote ((if front = [] then offset else 0) + Text.byteLength inside + 1))

/-- A piece that is left open is the last one, and its quotation is the one that is open already
or opens in the line. -/
def ReportsUnclosed (offset : Nat) (token : Option (List Char)) (quote : Option (Char × Nat))
    (line : List Char) (pieces : List Piece) : Prop :=
  ∀ front p back e, pieces = front ++ p :: back → p.tokens = .error e → back = [] ∧
    ((front = [] ∧ p.text = line ∧ ∃ q start, quote = some (q, start) ∧ q ∉ line ∧
        e = .unterminatedQuote (start + 1)) ∨
      ∃ inside q after, OpensIn offset (.of token quote) line front p inside q after)

namespace ReportsUnclosed

variable {offset : Nat} {token token' : Option (List Char)} {quote quote' : Option (Char × Nat)}
  {c : Char} {rest : List Char} {pieces : List Piece}

/-- A statement that has ended comes before. -/
theorem separate (h : ReportsUnclosed 0 none none rest pieces) (ts : List (List Char))
    (hplace : (Place.of token quote).next ';' = .start) :
    ReportsUnclosed offset token quote (';' :: rest) (⟨[], .ok ts⟩ :: pieces) := by
  intro front p back e hpieces herror
  cases front with
  | nil =>
      obtain ⟨rfl, -⟩ := List.cons.inj hpieces
      cases herror
  | cons r front =>
      obtain ⟨rfl, hrest⟩ := List.cons.inj hpieces
      obtain ⟨hback, ⟨-, -, q, start, hquote, -⟩ | ⟨inside, q, after, hopens⟩⟩ :=
        h front p back e hrest herror
      · cases hquote
      · have hpassed : passed ((⟨[], .ok ts⟩ :: front).map Piece.text) =
            ';' :: passed (front.map Piece.text) := rfl
        refine ⟨hback, .inr ⟨inside, q, after, ?_, hopens.text_eq, hopens.quote, ?_,
          hopens.not_mem, ?_⟩⟩
        · rw [hpassed, hopens.line_eq]
          rfl
        · rw [hpassed, List.cons_append, List.foldl_cons, hplace]
          exact hopens.start
        · rw [hopens.error, ite_self, if_neg (List.cons_ne_nil _ _)]

/-- One more character of the first piece, which opens no quotation. -/
theorem lead (h : ReportsUnclosed (offset + c.utf8Size) token' quote' rest pieces)
    (hplace : (Place.of token quote).next c = .of token' quote')
    (hquote : ∀ q start, quote' = some (q, start) →
      (quote = some (q, start) ∧ c ≠ q) ∨
        (token = none ∧ quote = none ∧ isQuote c ∧ q = c ∧ start = offset)) :
    ReportsUnclosed offset token quote (c :: rest) (Piece.lead c pieces) := by
  intro front p back e hpieces herror
  cases pieces with
  | nil => simp [Piece.lead] at hpieces
  | cons r pieces =>
      cases front with
      | nil =>
          obtain ⟨rfl, rfl⟩ := List.cons.inj hpieces
          obtain ⟨hback, ⟨-, htext, q, start, hq, hnot, rfl⟩ | ⟨inside, q, after, hopens⟩⟩ :=
            h [] r pieces e rfl herror
          · refine ⟨hback, ?_⟩
            obtain ⟨rfl, hne⟩ | ⟨rfl, rfl, hc, rfl, rfl⟩ := hquote q start hq
            · have hnot : q ∉ c :: rest := not_or.mpr ⟨Ne.symm hne, hnot⟩ ∘ List.mem_cons.mp
              exact .inl ⟨rfl, congrArg (c :: ·) htext, q, start, rfl, hnot, rfl⟩
            · exact .inr ⟨[], q, rest, rfl, congrArg (q :: ·) htext, hc, rfl, hnot, herror⟩
          · refine ⟨hback, .inr ⟨c :: inside, q, after, congrArg (c :: ·) hopens.line_eq,
              congrArg (c :: ·) hopens.text_eq, hopens.quote, ?_, hopens.not_mem, ?_⟩⟩
            · have hstart : inside.foldl Place.next (.of token' quote') = .start := hopens.start
              rw [← hstart, ← hplace]
              rfl
            · refine hopens.error.trans ?_
              simp [Nat.add_assoc]
      | cons r' front =>
          obtain ⟨rfl, rfl⟩ := List.cons.inj hpieces
          obtain ⟨hback, ⟨hfront, -⟩ | ⟨inside, q, after, hopens⟩⟩ :=
            h (r :: front) p back e rfl herror
          · cases hfront
          · refine ⟨hback, .inr ⟨inside, q, after, congrArg (c :: ·) hopens.line_eq,
              hopens.text_eq, hopens.quote, ?_, hopens.not_mem, hopens.error⟩⟩
            rw [← hopens.start, ← hplace]
            rfl

/-- The tokens of the first piece may be more. -/
theorem give (h : ReportsUnclosed offset token quote rest pieces) (t : List Char) :
    ReportsUnclosed offset token quote rest (Piece.give t pieces) := by
  intro front p back e hpieces herror
  cases pieces with
  | nil => simp [Piece.give] at hpieces
  | cons r pieces =>
      cases front with
      | nil =>
          obtain ⟨rfl, rfl⟩ := List.cons.inj hpieces
          have hr : r.tokens = .error e := by
            cases htokens : r.tokens with
            | ok ts =>
                simp [htokens, Except.map] at herror
            | error e' => simpa [htokens, Except.map] using herror
          obtain ⟨hback, ⟨-, htext, hopen⟩ | ⟨inside, q, after, hopens⟩⟩ :=
            h [] r pieces e rfl hr
          · exact ⟨hback, .inl ⟨rfl, htext, hopen⟩⟩
          · refine ⟨hback, .inr ⟨inside, q, after, hopens.line_eq, hopens.text_eq, hopens.quote,
              hopens.start, hopens.not_mem, ?_⟩⟩
            rw [herror, ← hr, hopens.error]
      | cons r' front =>
          obtain ⟨rfl, rfl⟩ := List.cons.inj hpieces
          obtain ⟨hback, ⟨hfront, -⟩ | ⟨inside, q, after, hopens⟩⟩ :=
            h (r :: front) p back e rfl herror
          · cases hfront
          · exact ⟨hback, .inr ⟨inside, q, after, hopens.line_eq, hopens.text_eq, hopens.quote,
              hopens.start, hopens.not_mem, hopens.error⟩⟩

end ReportsUnclosed

section Characters

variable {offset : Nat} {c : Char} {rest : List Char}
  (ih : ∀ {offset token} {quote : Option (Char × Nat)}, (quote ≠ none → token ≠ none) →
    ReportsUnclosed offset token quote rest (sweepFrom offset token quote rest))
include ih

/-- Inside quotes. -/
theorem reportsUnclosed_cons_quoted (t : List Char) (q : Char) (start : Nat) :
    ReportsUnclosed offset (some t) (some (q, start)) (c :: rest)
      (sweepFrom offset (some t) (some (q, start)) (c :: rest)) := by
  rw [sweepFrom]
  by_cases hc : c = q
  · rw [if_pos hc]
    exact (ih (by simp)).lead (by simp [Place.of, Place.next, hc]) (by simp)
  · rw [if_neg hc]
    refine (ih (by simp)).lead (by simp [Place.of, Place.next, hc]) ?_
    rintro q' start' ⟨rfl, rfl⟩
    exact .inl ⟨rfl, hc⟩

/-- Between tokens. -/
theorem reportsUnclosed_cons_between :
    ReportsUnclosed offset none none (c :: rest) (sweepFrom offset none none (c :: rest)) := by
  rw [sweepFrom]
  by_cases hq : isQuote c
  · rw [if_pos hq]
    refine (ih (by simp)).lead (by simp [Place.of, Place.next, hq]) ?_
    rintro q' start' ⟨rfl, rfl⟩
    exact .inr ⟨rfl, rfl, hq, rfl, rfl⟩
  · rw [if_neg hq]
    by_cases hc : c = ';'
    · subst hc
      rw [if_pos rfl]
      exact (ih (by simp)).separate [] (by decide)
    · rw [if_neg hc]
      by_cases hb : Text.isBlank c
      · rw [if_pos hb]
        exact (ih (by simp)).lead (by simp [Place.of, Place.next, hq, goesOn, hb]) (by simp)
      · rw [if_neg hb]
        exact (ih (by simp)).lead (by simp [Place.of, Place.next, hq, goesOn, hc, hb]) (by simp)

/-- Inside a token. -/
theorem reportsUnclosed_cons_token (t : List Char) :
    ReportsUnclosed offset (some t) none (c :: rest)
      (sweepFrom offset (some t) none (c :: rest)) := by
  rw [sweepFrom]
  by_cases hc : c = ';'
  · subst hc
    rw [if_pos rfl]
    exact (ih (by simp)).separate [t.reverse] (by simp [Place.of, Place.next, goesOn])
  · rw [if_neg hc]
    by_cases hb : Text.isBlank c
    · rw [if_pos hb]
      exact ((ih (by simp)).give t.reverse).lead (by simp [Place.of, Place.next, goesOn, hb])
        (by simp)
    · rw [if_neg hb]
      exact (ih (by simp)).lead (by simp [Place.of, Place.next, goesOn, hc, hb]) (by simp)

end Characters

/-- A sweep reports the quotation that it ends in. A quotation belongs to a token. -/
theorem reportsUnclosed_sweepFrom {offset : Nat} {token : Option (List Char)}
    {quote : Option (Char × Nat)} (h : quote ≠ none → token ≠ none) (line : List Char) :
    ReportsUnclosed offset token quote line (sweepFrom offset token quote line) := by
  induction line generalizing offset token quote with
  | nil =>
      intro front p back e hpieces herror
      have hlast : ∀ {r : Piece}, [r] = front ++ p :: back → front = [] ∧ r = p ∧ back = [] := by
        intro r hr
        obtain ⟨rfl, hrest⟩ | ⟨-, hrest⟩ := List.append_eq_singleton_iff.mp hr.symm
        · obtain ⟨rfl, rfl⟩ := List.cons.inj hrest
          exact ⟨rfl, rfl, rfl⟩
        · cases hrest
      cases quote with
      | none =>
          obtain ⟨-, rfl, -⟩ := hlast hpieces
          cases herror
      | some quote =>
          obtain ⟨rfl, rfl, rfl⟩ := hlast hpieces
          cases herror
          exact ⟨rfl, .inl ⟨rfl, rfl, quote.1, quote.2, rfl, List.not_mem_nil, rfl⟩⟩
  | cons c rest ih =>
      cases quote with
      | some quote =>
          obtain ⟨t, rfl⟩ := Option.ne_none_iff_exists'.mp (h (by simp))
          exact reportsUnclosed_cons_quoted ih t quote.1 quote.2
      | none =>
          cases token with
          | none => exact reportsUnclosed_cons_between ih
          | some t => exact reportsUnclosed_cons_token ih t

/-! ## What a part fails with -/

/-- The blanks in front of a text. -/
def indent (part : List Char) : List Char := part.takeWhile Text.isBlank

/-- The first word of a text. -/
def firstWord (part : List Char) : List Char :=
  (part.dropWhile Text.isBlank).takeWhile fun c => !Text.isBlank c

/-- A text begins with its first word, after the blanks in front. -/
theorem indent_append_firstWord (part : List Char) :
    part = indent part ++ firstWord part ++
      (part.dropWhile Text.isBlank).dropWhile fun c => !Text.isBlank c := by
  rw [indent, firstWord, List.append_assoc, List.takeWhile_append_dropWhile,
    List.takeWhile_append_dropWhile]

theorem not_isBlank_firstWord {part : List Char} : ∀ c ∈ firstWord part, Text.isBlank c = false :=
  fun _ hc => by simpa using List.mem_takeWhile_imp hc

/-- A token that has been begun goes up to the next blank. -/
theorem head?_tokensFrom {offset : Nat} {t line : List Char} {ts : List (List Char)}
    (h : tokensFrom offset (some t) none line = .ok ts) :
    ts.head? = some (t.reverse ++ line.takeWhile fun c => !Text.isBlank c) := by
  induction line generalizing offset t ts with
  | nil =>
      cases h
      simp
  | cons c line ih =>
      rw [tokensFrom] at h
      by_cases hb : Text.isBlank c
      · rw [if_pos hb] at h
        cases hrest : tokensFrom (offset + c.utf8Size) none none line with
        | error e =>
            rw [hrest] at h
            cases h
        | ok rest =>
            rw [hrest] at h
            cases h
            simp [hb]
      · rw [if_neg hb] at h
        rw [ih h]
        simp [hb]

/-- A command word that is written without quotes is the first word of its part. -/
theorem eq_firstWord_of_tokens {offset : Nat} {part word : List Char} {args : List (List Char)}
    (h : tokensFrom offset none none part = .ok (word :: args))
    (hquote : ∀ c ∈ (firstWord part).head?, isQuote c = false) :
    word = firstWord part ∧ word ≠ [] := by
  induction part generalizing offset with
  | nil => cases h
  | cons c part ih =>
      rw [tokensFrom] at h
      by_cases hb : Text.isBlank c
      · have hskip : firstWord (c :: part) = firstWord part := by
          simp [firstWord, hb]
        have hc : isQuote c = false := (isQuote_of_isBlank hb).1
        rw [hc, if_neg Bool.false_ne_true, if_pos hb] at h
        rw [hskip] at hquote ⊢
        exact ih h hquote
      · have hword : firstWord (c :: part) = c :: part.takeWhile fun c => !Text.isBlank c := by
          simp [firstWord, hb]
        have hc : isQuote c = false := hquote c (by rw [hword]; rfl)
        rw [hc, if_neg Bool.false_ne_true, if_neg hb] at h
        have hhead := head?_tokensFrom h
        rw [hword]
        cases hhead
        exact ⟨rfl, List.cons_ne_nil _ _⟩

/-- No verb is selected by a word. -/
def NoVerb (word : List Char) (e : LexError) : Prop :=
  e = .unknownVerb (String.ofList (word.map Char.toLower)) ∨
    ∃ candidates, e = .ambiguousVerb (String.ofList (word.map Char.toLower)) candidates

theorem noVerb_of_verb {word : List Char} {e : LexError} (h : verb word = .error e) :
    NoVerb word e := by
  unfold verb at h
  split at h
  · cases h
  · dsimp only at h
    split at h
    · cases h
      exact .inl rfl
    · cases h
      exact .inr ⟨_, rfl⟩

/-- Only a quotation that is left open keeps tokens from being read. -/
theorem error_of_tokensFrom {offset : Nat} {token : Option (List Char)}
    {quote : Option (Char × Nat)} {part : List Char} {e : LexError}
    (h : tokensFrom offset token quote part = .error e) :
    ∃ column, e = .unterminatedQuote column := by
  induction part generalizing offset token quote with
  | nil =>
      cases quote with
      | none => cases h
      | some quote =>
          cases h
          exact ⟨_, rfl⟩
  | cons c part ih =>
      unfold tokensFrom at h
      dsimp only at h
      split at h
      · split at h
        · exact ih h
        · exact ih h
      · split at h
        · exact ih h
        · split at h
          · exact ih h
          · exact ih h
      · split at h
        · next t _ =>
          cases hrest : tokensFrom (offset + c.utf8Size) none none part with
          | error e' =>
              rw [hrest] at h
              cases h
              exact ih hrest
          | ok ts =>
              rw [hrest] at h
              cases h
        · exact ih h

/-- A part fails because a quotation is left open or because its command word selects no verb. -/
theorem partStatement?_eq_error_cases {number : Nat} {part : List Char} {e : LexError}
    (h : partStatement? number part = .error e) :
    ((∃ column, e = .unterminatedQuote column) ∧ tokens part = .error e) ∨
      ∃ word args, tokens part = .ok (word :: args) ∧ NoVerb word e := by
  unfold partStatement? at h
  split at h
  · cases h
  · cases htokens : tokens part with
    | error e' =>
        rw [htokens] at h
        cases h
        exact .inl ⟨error_of_tokensFrom htokens, rfl⟩
    | ok ts =>
        rw [htokens] at h
        cases ts with
        | nil => cases h
        | cons word args =>
            refine .inr ⟨word, args, rfl, ?_⟩
            change (verb word).map _ = .error e at h
            cases hverb : verb word with
            | ok v =>
                rw [hverb] at h
                cases h
            | error e' =>
                rw [hverb] at h
                cases h
                exact noVerb_of_verb hverb

namespace StopsAt

variable {number : Nat} {line part : List Char} {e : LexError} {front back : List (List Char)}

/-- A quotation is left open by the last part, and the error counts the bytes that the part has
up to its quote. -/
theorem unclosed {column : Nat}
    (h : StopsAt number line (.unterminatedQuote column) front part back) :
    back = [] ∧ ∃ inside q after, part = inside ++ q :: after ∧
      Unclosed line (passed front ++ inside) q after ∧ column = Text.byteLength inside + 1 := by
  have htokens : (Piece.ofPart part).tokens = .error (.unterminatedQuote column) := by
    obtain ⟨-, htokens⟩ | ⟨word, args, -, hverb | ⟨candidates, hverb⟩⟩ :=
      partStatement?_eq_error_cases h.error
    · exact htokens
    · cases hverb
    · cases hverb
  have hsweep : sweepFrom 0 none none line =
      front.map Piece.ofPart ++ Piece.ofPart part :: back.map Piece.ofPart := by
    have hparts := sweep_eq line
    rw [h.parts_eq] at hparts
    simpa [sweep] using hparts
  have hfront : (front.map Piece.ofPart).map Piece.text = front := by
    rw [List.map_map]
    exact List.map_id front
  obtain ⟨hback, ⟨-, -, q, start, hquote, -⟩ | ⟨inside, q, after, hopens⟩⟩ :=
    reportsUnclosed_sweepFrom (by simp) line _ _ _ _ hsweep htokens
  · cases hquote
  · have hline := hopens.line_eq
    have hstart := hopens.start
    rw [hfront] at hline hstart
    refine ⟨List.map_eq_nil_iff.mp hback, inside, q, after, hopens.text_eq,
      ⟨hline, hopens.quote, hstart, hopens.not_mem⟩, ?_⟩
    have herror := htokens.symm.trans hopens.error
    simpa using herror

/-- A command word without quotes that selects no verb is the first word of the part. -/
theorem noVerb_firstWord (h : StopsAt number line e front part back)
    (hquote : ∀ c ∈ (firstWord part).head?, isQuote c = false)
    (he : ∀ column, e ≠ .unterminatedQuote column) :
    firstWord part ≠ [] ∧ NoVerb (firstWord part) e := by
  obtain ⟨⟨column, hcolumn⟩, -⟩ | ⟨word, args, htokens, hverb⟩ :=
    partStatement?_eq_error_cases h.error
  · exact (he column hcolumn).elim
  · obtain ⟨rfl, hne⟩ := eq_firstWord_of_tokens htokens hquote
    exact ⟨hne, hverb⟩

end StopsAt

end Storyboard.Lexer
