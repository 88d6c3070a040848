import Storyboard.Proofs.Text
import Storyboard.Script.Lexer

/-!
# Reading a statement in one pass

A line is cut twice, at semicolons and at blanks, and each cut keeps its own notion of when a
quote opens a quotation: after a blank or a semicolon in the first, outside a token in the
second. One pass over the characters that ends at the first semicolon outside quotes gives the
same tokens and leaves the same text, so a statement may be read without its part being cut out.

Main results:

- Theorem `passes_parts`: the first part of a line has the tokens of the pass, and the other
  parts are those of the text it leaves.
- Theorem `partStatements_parts`: the statements of a line by single passes.
- Theorems `scan_some_eq` and `scan_quoted`: how far a token and a quotation go.
- Theorems `scan_word` and `scan_enclosed`: tokens that end where they may are read one by one.
-/

namespace Storyboard.Lexer

/-- Reads a statement in one pass, given the token read so far, last character first, and the
open quotation. The answer is the tokens, unless a quotation is left open, and the text after
the semicolon that ends the statement, if one does. -/
def scan (token : Option (List Char)) (quote : Option Char) :
    List Char → Option (List (List Char)) × Option (List Char)
  | [] => (if quote.isSome then none else some (token.map List.reverse).toList, none)
  | c :: rest =>
      match quote, token with
      | some q, _ =>
          if c = q then scan token none rest else scan (token.map (c :: ·)) (some q) rest
      | none, none =>
          if isQuote c then scan (some []) (some c) rest
          else if c = ';' then (some [], some rest)
          else if Text.isBlank c then scan none none rest
          else scan (some [c]) none rest
      | none, some t =>
          if c = ';' then (some [t.reverse], some rest)
          else if Text.isBlank c then
            ((scan none none rest).1.map (t.reverse :: ·), (scan none none rest).2)
          else scan (some (c :: t)) none rest

/-! ## Parts by passes -/

/-- The parts after the semicolon that ends a statement. -/
def partsAfter : Option (List Char) → List (List Char)
  | none => []
  | some rest => parts rest

/-- The text after a statement, with its semicolon. -/
def leftover : Option (List Char) → List Char
  | none => []
  | some rest => ';' :: rest

/-- Where a token may start, the parts do not depend on the character before. -/
theorem partsFrom_of_startsToken {previous : Option Char} (h : startsToken previous)
    (line : List Char) : partsFrom previous none line = parts line := by
  cases line with
  | nil => rfl
  | cons c rest =>
      have hnone : startsToken none = true := rfl
      simp only [parts, partsFrom, h, hnone]

theorem not_startsToken_of_isQuote {c : Char} (h : isQuote c) : startsToken (some c) = false := by
  rcases (by simpa [isQuote] using h : c = '\x22' ∨ c = '\x27') with rfl | rfl
  · decide
  · decide

/-- What a pass says about the first part of a line and about the others. -/
def Passes (token : Option (List Char)) (quote : Option Char) (line : List Char)
    (cut : List (List Char)) : Prop :=
  ∃ part, cut = part :: partsAfter (scan token quote line).2 ∧
    line = part ++ leftover (scan token quote line).2 ∧
    ∀ offset start, (tokensFrom offset token (quote.map fun q => (q, start)) part).toOption =
      (scan token quote line).1

/-- Reading one more character of the first part. -/
theorem Passes.cons {token token' : Option (List Char)} {quote quote' : Option Char} {c : Char}
    {line : List Char} {cut : List (List Char)} (h : Passes token' quote' line cut)
    (hrest : (scan token quote (c :: line)).2 = (scan token' quote' line).2)
    (htokens : ∀ part, (∀ offset start,
      (tokensFrom offset token' (quote'.map fun q => (q, start)) part).toOption =
        (scan token' quote' line).1) →
      ∀ offset start,
        (tokensFrom offset token (quote.map fun q => (q, start)) (c :: part)).toOption =
          (scan token quote (c :: line)).1) :
    Passes token quote (c :: line) (extendFirst c cut) := by
  obtain ⟨part, rfl, hline, hpart⟩ := h
  refine ⟨c :: part, ?_, ?_, htokens part hpart⟩
  · rw [hrest, extendFirst]
  · rw [hrest, List.cons_append, ← hline]

/-- What keeps the two cuts in step with the pass: outside quotes a token may start exactly if
none is being read, and inside quotes one is being read. -/
def InStep (previous quote : Option Char) (token : Option (List Char)) : Prop :=
  match quote with
  | none => startsToken previous ↔ token = none
  | some q => isQuote q ∧ token ≠ none

section Steps

variable {previous : Option Char} {c : Char} {rest : List Char}
  (ih : ∀ {previous quote token}, InStep previous quote token →
    Passes token quote rest (partsFrom previous quote rest))
include ih

/-- Inside quotes. -/
theorem passes_cons_quoted {q : Char} (hq : isQuote q) (t : List Char) :
    Passes (some t) (some q) (c :: rest) (partsFrom previous (some q) (c :: rest)) := by
  rw [partsFrom]
  by_cases hc : c = q
  · -- The quotation ends and leaves the token open.
    subst hc
    rw [if_pos rfl]
    have hclosed : InStep (some c) none (some t) := by
      simp [InStep, not_startsToken_of_isQuote hq]
    refine (ih hclosed).cons (by simp [scan]) ?_
    intro part hpart offset start
    have hnext := hpart (offset + c.utf8Size) start
    simpa [tokensFrom, scan] using hnext
  · rw [if_neg hc]
    have hopen : InStep (some c) (some q) (some (c :: t)) := ⟨hq, by simp⟩
    refine (ih hopen).cons (by simp [scan, hc]) ?_
    intro part hpart offset start
    have hnext := hpart (offset + c.utf8Size) start
    simpa [tokensFrom, scan, hc] using hnext

/-- Between tokens. -/
theorem passes_cons_between (hstart : startsToken previous) :
    Passes none none (c :: rest) (partsFrom previous none (c :: rest)) := by
  rw [partsFrom, hstart, Bool.and_true]
  by_cases hq : isQuote c
  · rw [if_pos hq]
    have hopen : InStep (some c) (some c) (some []) := ⟨hq, by simp⟩
    refine (ih hopen).cons (by simp [scan, hq]) ?_
    intro part hpart offset start
    have hnext := hpart (offset + c.utf8Size) offset
    simpa [tokensFrom, scan, hq] using hnext
  · rw [if_neg hq]
    by_cases hc : c = ';'
    · subst hc
      rw [if_pos rfl, partsFrom_of_startsToken rfl]
      refine ⟨[], by simp [scan, hq, partsAfter], by simp [scan, hq, leftover], ?_⟩
      intro offset start
      simp [tokensFrom, scan, hq, Except.toOption]
    · rw [if_neg hc]
      by_cases hb : Text.isBlank c
      · have hagain : InStep (some c) none none := by
          simp [InStep, startsToken, hb]
        refine (ih hagain).cons (by simp [scan, hq, hc, hb]) ?_
        intro part hpart offset start
        have hnext := hpart (offset + c.utf8Size) start
        simpa [tokensFrom, scan, hq, hc, hb] using hnext
      · have hbegun : InStep (some c) none (some [c]) := by
          simp [InStep, startsToken, hb, hc]
        refine (ih hbegun).cons (by simp [scan, hq, hc, hb]) ?_
        intro part hpart offset start
        have hnext := hpart (offset + c.utf8Size) start
        simpa [tokensFrom, scan, hq, hc, hb] using hnext

/-- Inside a token, where a quote is a character like any other. -/
theorem passes_cons_token (hstart : startsToken previous = false) (t : List Char) :
    Passes (some t) none (c :: rest) (partsFrom previous none (c :: rest)) := by
  rw [partsFrom, hstart, Bool.and_false]
  simp only [Bool.false_eq_true, if_false]
  by_cases hc : c = ';'
  · subst hc
    rw [if_pos rfl, partsFrom_of_startsToken rfl]
    refine ⟨[], by simp [scan, partsAfter], by simp [scan, leftover], ?_⟩
    intro offset start
    simp [tokensFrom, scan, Except.toOption]
  · rw [if_neg hc]
    by_cases hb : Text.isBlank c
    · have hagain : InStep (some c) none none := by
        simp [InStep, startsToken, hb]
      refine (ih hagain).cons (by simp [scan, hc, hb]) ?_
      intro part hpart offset start
      have hnext := hpart (offset + c.utf8Size) start
      simp only [tokensFrom, scan, hc, hb, Option.map_none, if_true, if_false] at hnext ⊢
      rw [← hnext]
      cases tokensFrom (offset + c.utf8Size) none none part with
      | ok ts => rfl
      | error e => rfl
    · have hbegun : InStep (some c) none (some (c :: t)) := by
        simp [InStep, startsToken, hb, hc]
      refine (ih hbegun).cons (by simp [scan, hc, hb]) ?_
      intro part hpart offset start
      have hnext := hpart (offset + c.utf8Size) start
      simpa [tokensFrom, scan, hc, hb] using hnext

end Steps

/-- Cuts and passes that are in step agree. -/
theorem passes_partsFrom {previous quote : Option Char} {token : Option (List Char)}
    (h : InStep previous quote token) (line : List Char) :
    Passes token quote line (partsFrom previous quote line) := by
  induction line generalizing previous quote token with
  | nil =>
      refine ⟨[], rfl, rfl, ?_⟩
      intro offset start
      cases quote with
      | none => cases token <;> rfl
      | some q => rfl
  | cons c rest ih =>
      cases quote with
      | some q =>
          obtain ⟨hq, htoken⟩ := h
          obtain ⟨t, rfl⟩ := Option.ne_none_iff_exists'.mp htoken
          exact passes_cons_quoted ih hq t
      | none =>
          cases token with
          | none => exact passes_cons_between ih (h.mpr rfl)
          | some t =>
              have hstart : startsToken previous = false := by
                simpa [InStep] using h
              exact passes_cons_token ih hstart t

/-- The first part of a line and the others. -/
theorem passes_parts (line : List Char) : Passes none none line (parts line) := by
  have hstart : InStep none none none := iff_of_true rfl rfl
  exact passes_partsFrom hstart line

/-! ## Statements by passes -/

/-- Whether a part is a comment can be seen on the line that it begins. -/
theorem isComment_append_leftover (part : List Char) (rest : Option (List Char)) :
    isComment (part ++ leftover rest) = isComment part := by
  cases rest with
  | none => rw [leftover, List.append_nil]
  | some rest =>
      unfold isComment Text.trimStart leftover
      rw [List.dropWhile_append]
      split
      · next hblank =>
        rw [List.isEmpty_iff] at hblank
        have hsemicolon : Text.isBlank ';' = false := by decide
        rw [hblank, List.dropWhile_cons, hsemicolon]
        simp
      · next hne =>
        cases hpart : part.dropWhile Text.isBlank with
        | nil =>
            rw [hpart] at hne
            exact absurd rfl hne
        | cons c cs => rfl

/-- A text that does not begin with a blank is a comment if it begins with the mark. -/
theorem isComment_cons {c : Char} {t : List Char} (h : Text.isBlank c = false) :
    isComment (c :: t) = decide (c = '#') := by
  simp [isComment, Text.trimStart, h]

/-- The full name of a verb selects it, in any letter case. -/
theorem verb_of_map_toLower {v : Verb} {w : List Char} (h : w.map Char.toLower = v.name.toList) :
    verb w = .ok v := by
  have hword : Verb.ofWord? w = some v := by
    rw [Verb.ofWord?, h]
    cases v <;> decide
  rw [verb, hword]

/-- The statement at the front of a line, in one pass. -/
def readStatement (number : Nat) (line : List Char) : Option (Option Statement) :=
  if isComment line then some none
  else (scan none none line).1.bind fun ts => (statement? number ts).toOption

/-- The statements of a line are the first one and those of the text after it. -/
theorem partStatements_parts (number : Nat) (line : List Char) (stmts : List Statement) :
    partStatements number (parts line) = .ok stmts ↔
      ∃ first others, readStatement number line = some first ∧
        partStatements number (partsAfter (scan none none line).2) = .ok others ∧
        stmts = first.toList ++ others := by
  obtain ⟨part, hparts, hline, htokens⟩ := passes_parts line
  have hfirst : (partStatement? number part).toOption = readStatement number line := by
    have htokens : (tokens part).toOption = (scan none none line).1 := htokens 0 0
    have hcomment : isComment line = isComment part :=
      (congrArg isComment hline).trans (isComment_append_leftover part _)
    rw [readStatement, hcomment, partStatement?, ← htokens]
    split
    · rfl
    · cases tokens part with
      | ok ts => rfl
      | error e => rfl
  rw [hparts, partStatements, ← hfirst]
  cases partStatement? number part with
  | error e =>
      constructor
      · intro h
        cases h
      · rintro ⟨first, others, h, -⟩
        cases h
  | ok first =>
      cases partStatements number (partsAfter (scan none none line).2) with
      | error e =>
          constructor
          · intro h
            cases h
          · rintro ⟨first', others, -, h, -⟩
            cases h
      | ok others =>
          constructor
          · intro h
            cases h
            exact ⟨first, others, rfl, rfl, rfl⟩
          · rintro ⟨first', others', hfirst', hothers', rfl⟩
            cases hfirst'
            cases hothers'
            rfl

/-! ## Tokens in a pass -/

/-- A character that a token goes on with outside quotes. -/
def goesOn (c : Char) : Bool := !Text.isBlank c && c ≠ ';'

theorem isQuote_of_isBlank {c : Char} (h : Text.isBlank c) : isQuote c = false ∧ c ≠ ';' := by
  constructor
  · rw [Bool.eq_false_iff]
    intro hq
    rcases (by simpa [isQuote] using hq : c = '\x22' ∨ c = '\x27') with rfl | rfl
    · exact absurd h (by decide)
    · exact absurd h (by decide)
  · rintro rfl
    exact absurd h (by decide)

/-- Blanks before a token are skipped. -/
theorem scan_blanks {b : List Char} (hb : ∀ c ∈ b, Text.isBlank c) (line : List Char) :
    scan none none (b ++ line) = scan none none line := by
  induction b with
  | nil => rfl
  | cons c b ih =>
      have hc : Text.isBlank c := hb c List.mem_cons_self
      obtain ⟨hquote, hsemicolon⟩ := isQuote_of_isBlank hc
      rw [List.cons_append, scan]
      simp only [hquote, hsemicolon, hc, Bool.false_eq_true, if_false, if_true]
      exact ih fun x hx => hb x (List.mem_cons_of_mem c hx)

/-- A token ends before what it cannot go on with. -/
theorem scan_some_of_stop {token line : List Char} (h : ∀ c ∈ line.head?, goesOn c = false) :
    scan (some token) none line =
      ((scan none none line).1.map (token.reverse :: ·), (scan none none line).2) := by
  cases line with
  | nil => rfl
  | cons c rest =>
      have hc : goesOn c = false := h c rfl
      by_cases hsemicolon : c = ';'
      · subst hsemicolon
        simp [scan, isQuote]
      · have hblank : Text.isBlank c := by
          simpa [goesOn, hsemicolon] using hc
        obtain ⟨hquote, -⟩ := isQuote_of_isBlank hblank
        simp [scan, hsemicolon, hblank, hquote]

/-- A token goes on as long as it can, and is then the first one. -/
theorem scan_some_eq (token line : List Char) :
    scan (some token) none line =
      ((scan none none (line.dropWhile goesOn)).1.map
          ((token.reverse ++ line.takeWhile goesOn) :: ·),
        (scan none none (line.dropWhile goesOn)).2) := by
  induction line generalizing token with
  | nil => simp [scan]
  | cons c rest ih =>
      by_cases hc : goesOn c
      · have hgoes : c ≠ ';' ∧ Text.isBlank c = false := by
          simpa [goesOn, and_comm] using hc
        rw [scan]
        simp only [hgoes, if_false, Bool.false_eq_true]
        rw [ih, List.dropWhile_cons_of_pos hc, List.takeWhile_cons_of_pos hc, List.reverse_cons,
          List.append_assoc, List.singleton_append]
      · rw [scan_some_of_stop, List.dropWhile_cons_of_neg hc, List.takeWhile_cons_of_neg hc,
          List.append_nil]
        intro x hx
        cases hx
        simpa using hc

/-- A quotation takes everything up to its closing quote. -/
theorem scan_quoted {q : Char} {inner : List Char} (hq : q ∉ inner) (token line : List Char) :
    scan (some token) (some q) (inner ++ q :: line) =
      scan (some (inner.reverse ++ token)) none line := by
  induction inner generalizing token with
  | nil => simp [scan]
  | cons c inner ih =>
      have hc : c ≠ q := fun h => hq (h ▸ List.mem_cons_self)
      rw [List.cons_append, scan]
      simp only [hc, if_false, Option.map_some]
      rw [ih (fun h => hq (List.mem_cons_of_mem c h)), List.reverse_cons, List.append_assoc,
        List.singleton_append]

/-- A quotation that is not closed leaves no tokens. -/
theorem scan_unclosed {q : Char} {line : List Char} (hq : q ∉ line) (token : Option (List Char)) :
    (scan token (some q) line).1 = none := by
  induction line generalizing token with
  | nil => rfl
  | cons c rest ih =>
      have hc : c ≠ q := fun h => hq (h ▸ List.mem_cons_self)
      rw [scan]
      simp only [hc, if_false]
      exact ih (fun h => hq (List.mem_cons_of_mem c h)) _

/-- A token without quotes begins with a character that it can go on with. -/
theorem scan_cons {c : Char} (hquote : isQuote c = false) (hc : goesOn c) (line : List Char) :
    scan none none (c :: line) = scan (some [c]) none line := by
  have hgoes : c ≠ ';' ∧ Text.isBlank c = false := by
    simpa [goesOn, and_comm] using hc
  simp [scan, hquote, hgoes]

/-- A quoted token begins with its quote. -/
theorem scan_quote {q : Char} (hq : isQuote q) (line : List Char) :
    scan none none (q :: line) = scan (some []) (some q) line := by
  simp [scan, hq]

/-- A word that ends where a token may is read as it stands. -/
theorem scan_word {c : Char} {w line : List Char} (hquote : isQuote c = false)
    (hgoes : ∀ x ∈ c :: w, goesOn x) (hstop : ∀ x ∈ line.head?, goesOn x = false) :
    scan none none (c :: w ++ line) =
      ((scan none none line).1.map ((c :: w) :: ·), (scan none none line).2) := by
  obtain ⟨htake, hdrop⟩ := Text.span_append (fun x hx => hgoes x (List.mem_cons_of_mem c hx)) hstop
  rw [List.cons_append, scan_cons hquote (hgoes c List.mem_cons_self), scan_some_eq, hdrop, htake]
  rfl

/-- A text between quotes that ends where a token may is read without its quotes. -/
theorem scan_enclosed {q : Char} {inner line : List Char} (hq : isQuote q) (hinner : q ∉ inner)
    (hstop : ∀ x ∈ line.head?, goesOn x = false) :
    scan none none (q :: (inner ++ q :: line)) =
      ((scan none none line).1.map (inner :: ·), (scan none none line).2) := by
  rw [scan_quote hq, scan_quoted hinner, scan_some_of_stop hstop, List.append_nil,
    List.reverse_reverse]

end Storyboard.Lexer
