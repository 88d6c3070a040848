import Mathlib.Data.List.Basic
import Storyboard.Proofs.Script.Scan

/-!
# A line in one sweep

The cut at semicolons and the cut at blanks decide separately where quotations begin and end. Here
a line is read in a single sweep, which knows at every character whether a token may start, goes
on, or is quoted, and which gives the text and the tokens of every statement. The two cuts agree
with it at every character of every line, so what ends inside quotes for one ends so for the other.

Main results:

- Theorem `sweep_eq`: the statements of a sweep are the parts of the line with their tokens.
- Theorem `openAt_sweepFrom`: only the last statement of a sweep can be left open, and it is if the
  line ends inside a quotation.
- Theorem `cuts_agree_with_sweep`: parts, tokens and statements of a line are those of its sweep.
-/

namespace Storyboard.Lexer

/-! ## Places in a line -/

/-- Where a sweep stands. -/
inductive Place where
  /-- At the start of the line, after a blank, or after a semicolon that separates statements. -/
  | start
  /-- In a token, or after its closing quote. -/
  | word
  | quoted (quote : Char)
  deriving DecidableEq

namespace Place

/-- The place after one more character. A quote opens a quotation only where a token may start. -/
def next : Place → Char → Place
  | start, c => if isQuote c then quoted c else if goesOn c then word else start
  | word, c => if goesOn c then word else start
  | quoted q, c => if c = q then word else quoted q

/-- Whether a place is inside a quotation. -/
def isQuoted : Place → Bool
  | quoted _ => true
  | _ => false

/-- The place of a reader that has read a part of a token and may have a quotation open. -/
def of (token : Option (List Char)) : Option (Char × Nat) → Place
  | some (q, _) => quoted q
  | none => if token.isSome then word else start

end Place

/-- Whether a line ends inside a quotation. -/
def endsQuoted (line : List Char) : Bool := (line.foldl Place.next .start).isQuoted

/-! ## The sweep -/

/-- A statement as a sweep reads it. -/
structure Piece where
  text : List Char
  tokens : Except LexError (List (List Char))

namespace Piece

/-- A part and its tokens. -/
def ofPart (part : List Char) : Piece := ⟨part, Lexer.tokens part⟩

/-- Puts a character in front of the first piece. -/
def lead (c : Char) : List Piece → List Piece
  | [] => []
  | p :: ps => { p with text := c :: p.text } :: ps

/-- Puts a token in front of those of the first piece. -/
def give (t : List Char) : List Piece → List Piece
  | [] => []
  | p :: ps => { p with tokens := p.tokens.map (t :: ·) } :: ps

end Piece

/-- The statements of a line from a place on, given the bytes that its part has before it, the
token read so far, last character first, and the open quotation with the offset where it starts. -/
def sweepFrom (offset : Nat) (token : Option (List Char)) (quote : Option (Char × Nat)) :
    List Char → List Piece
  | [] =>
      match quote with
      | some (_, start) => [⟨[], .error (.unterminatedQuote (start + 1))⟩]
      | none => [⟨[], .ok (token.map List.reverse).toList⟩]
  | c :: rest =>
      let next := offset + c.utf8Size
      match quote, token with
      | some (q, start), _ =>
          if c = q then Piece.lead c (sweepFrom next token none rest)
          else Piece.lead c (sweepFrom next (token.map (c :: ·)) (some (q, start)) rest)
      | none, none =>
          if isQuote c then Piece.lead c (sweepFrom next (some []) (some (c, offset)) rest)
          else if c = ';' then ⟨[], .ok []⟩ :: sweepFrom 0 none none rest
          else if Text.isBlank c then Piece.lead c (sweepFrom next none none rest)
          else Piece.lead c (sweepFrom next (some [c]) none rest)
      | none, some t =>
          if c = ';' then ⟨[], .ok [t.reverse]⟩ :: sweepFrom 0 none none rest
          else if Text.isBlank c then
            Piece.lead c (Piece.give t.reverse (sweepFrom next none none rest))
          else Piece.lead c (sweepFrom next (some (c :: t)) none rest)

/-- The statements of a line, read in one sweep. -/
def sweep (line : List Char) : List Piece := sweepFrom 0 none none line

/-- The statement that the tokens of a piece spell. -/
def Piece.statement? (number : Nat) (p : Piece) : Except LexError (Option Statement) :=
  p.tokens >>= Lexer.statement? number

/-- The statements of pieces that are not comments. -/
def pieceStatements (number : Nat) (pieces : List Piece) : Except LexError (List Statement) :=
  ((pieces.filter fun p => !isComment p.text).mapM (Piece.statement? number)).map
    List.reduceOption

/-! ## The cuts and the sweep -/

section Steps

variable {offset : Nat} {token token' : Option (List Char)} {quote quote' : Option (Char × Nat)}
  {c : Char} {rest part : List Char} {others : List (List Char)} {cut : List (List Char)}

/-- The cut of a line that has been begun, and what the sweep reads in it. -/
def SweepsTo (offset : Nat) (token : Option (List Char)) (quote : Option (Char × Nat))
    (line : List Char) (cut : List (List Char)) : Prop :=
  ∃ part others, cut = part :: others ∧
    sweepFrom offset token quote line =
      ⟨part, tokensFrom offset token quote part⟩ :: others.map Piece.ofPart

/-- Reading one more character of the first part. -/
theorem SweepsTo.lead (h : SweepsTo (offset + c.utf8Size) token' quote' rest cut)
    (hsweep : sweepFrom offset token quote (c :: rest) =
      Piece.lead c (sweepFrom (offset + c.utf8Size) token' quote' rest))
    (htokens : ∀ part, tokensFrom offset token quote (c :: part) =
      tokensFrom (offset + c.utf8Size) token' quote' part) :
    SweepsTo offset token quote (c :: rest) (extendFirst c cut) := by
  obtain ⟨part, others, rfl, hrest⟩ := h
  refine ⟨c :: part, others, rfl, ?_⟩
  rw [hsweep, hrest, htokens, Piece.lead]

/-- A semicolon outside quotes ends the first part. -/
theorem SweepsTo.separate (h : SweepsTo 0 none none rest cut)
    (hsweep : sweepFrom offset token none (';' :: rest) =
      ⟨[], tokensFrom offset token none []⟩ :: sweepFrom 0 none none rest) :
    SweepsTo offset token none (';' :: rest) ([] :: cut) := by
  obtain ⟨part, others, rfl, hrest⟩ := h
  refine ⟨[], part :: others, rfl, ?_⟩
  rw [hsweep, hrest]
  rfl

end Steps

section Characters

variable {previous : Option Char} {offset : Nat} {c : Char} {rest : List Char}
  (ih : ∀ {previous token} (offset : Nat) (quote : Option (Char × Nat)),
    InStep previous (quote.map Prod.fst) token →
      SweepsTo offset token quote rest (partsFrom previous (quote.map Prod.fst) rest))
include ih

/-- Inside quotes. -/
theorem sweepsTo_cons_quoted {q : Char} {start : Nat} (hq : isQuote q) (t : List Char) :
    SweepsTo offset (some t) (some (q, start)) (c :: rest)
      (partsFrom previous (some q) (c :: rest)) := by
  rw [partsFrom]
  by_cases hc : c = q
  · -- The quotation ends and leaves the token open.
    subst hc
    have hclosed : InStep (some c) none (some t) := by
      simp [InStep, not_startsToken_of_isQuote hq]
    rw [if_pos rfl]
    exact (ih _ none hclosed).lead (by simp [sweepFrom]) (by simp [tokensFrom])
  · have hopen : InStep (some c) (some q) (some (c :: t)) := ⟨hq, by simp⟩
    rw [if_neg hc]
    exact (ih _ (some (q, start)) hopen).lead (by simp [sweepFrom, hc])
      (by simp [tokensFrom, hc])

/-- Between tokens. -/
theorem sweepsTo_cons_between (hstart : startsToken previous) :
    SweepsTo offset none none (c :: rest) (partsFrom previous none (c :: rest)) := by
  rw [partsFrom, hstart, Bool.and_true]
  by_cases hq : isQuote c
  · have hopen : InStep (some c) (some c) (some []) := ⟨hq, by simp⟩
    rw [if_pos hq]
    exact (ih _ (some (c, offset)) hopen).lead (by simp [sweepFrom, hq])
      (by simp [tokensFrom, hq])
  · rw [if_neg hq]
    by_cases hc : c = ';'
    · subst hc
      have hagain : InStep (some ';') none none := iff_of_true rfl rfl
      rw [if_pos rfl]
      exact (ih _ none hagain).separate (by simp [sweepFrom, tokensFrom, hq])
    · rw [if_neg hc]
      by_cases hb : Text.isBlank c
      · have hagain : InStep (some c) none none := by
          simp [InStep, startsToken, hb]
        exact (ih _ none hagain).lead (by simp [sweepFrom, hq, hc, hb])
          (by simp [tokensFrom, hq, hb])
      · have hbegun : InStep (some c) none (some [c]) := by
          simp [InStep, startsToken, hb, hc]
        exact (ih _ none hbegun).lead (by simp [sweepFrom, hq, hc, hb])
          (by simp [tokensFrom, hq, hb])

/-- Inside a token, where a quote is a character like any other. -/
theorem sweepsTo_cons_token (hstart : startsToken previous = false) (t : List Char) :
    SweepsTo offset (some t) none (c :: rest) (partsFrom previous none (c :: rest)) := by
  rw [partsFrom, hstart, Bool.and_false]
  simp only [Bool.false_eq_true, if_false]
  by_cases hc : c = ';'
  · subst hc
    have hagain : InStep (some ';') none none := iff_of_true rfl rfl
    rw [if_pos rfl]
    exact (ih _ none hagain).separate (by simp [sweepFrom, tokensFrom])
  · rw [if_neg hc]
    by_cases hb : Text.isBlank c
    · -- The blank ends the token, which is the first one of the part.
      have hagain : InStep (some c) none none := by
        simp [InStep, startsToken, hb]
      obtain ⟨part, others, hcut, hrest⟩ :=
        ih (offset + c.utf8Size) none hagain
      simp only [Option.map_none] at hcut
      refine ⟨c :: part, others, by rw [hcut, extendFirst], ?_⟩
      simp [sweepFrom, tokensFrom, hc, hb, hrest, Piece.give, Piece.lead]
    · have hbegun : InStep (some c) none (some (c :: t)) := by
        simp [InStep, startsToken, hb, hc]
      exact (ih _ none hbegun).lead (by simp [sweepFrom, hc, hb])
        (by simp [tokensFrom, hb])

end Characters

/-- As long as the cut at semicolons is in step with the tokens, a sweep reads its parts. -/
theorem sweepsTo_partsFrom {previous : Option Char} {token : Option (List Char)} (offset : Nat)
    (quote : Option (Char × Nat)) (h : InStep previous (quote.map Prod.fst) token)
    (line : List Char) :
    SweepsTo offset token quote line (partsFrom previous (quote.map Prod.fst) line) := by
  induction line generalizing previous token offset quote with
  | nil =>
      refine ⟨[], [], rfl, ?_⟩
      cases quote with
      | none => cases token <;> rfl
      | some q => rfl
  | cons c rest ih =>
      cases quote with
      | some quote =>
          obtain ⟨hq, htoken⟩ := h
          obtain ⟨t, rfl⟩ := Option.ne_none_iff_exists'.mp htoken
          exact sweepsTo_cons_quoted ih hq t
      | none =>
          cases token with
          | none => exact sweepsTo_cons_between ih (h.mpr rfl)
          | some t =>
              have hstart : startsToken previous = false := by
                simpa [InStep] using h
              exact sweepsTo_cons_token ih hstart t

/-- A sweep reads the parts of the line with their tokens. -/
theorem sweep_eq (line : List Char) : sweep line = (parts line).map Piece.ofPart := by
  have hstart : InStep none none none := iff_of_true rfl rfl
  obtain ⟨part, others, hparts, hsweep⟩ := sweepsTo_partsFrom 0 none hstart line
  simp only [Option.map_none] at hparts
  rw [parts, hparts, sweep, hsweep]
  rfl

/-! ## Where a line ends -/

/-- All pieces but the last one have tokens, and the last one is left open exactly if a place is
inside a quotation. -/
def OpenAt (p : Place) (pieces : List Piece) : Prop :=
  ∃ front last, pieces = front ++ [last] ∧ (∀ q ∈ front, ∃ ts, q.tokens = .ok ts) ∧
    ((∃ e, last.tokens = .error e) ↔ p.isQuoted)

namespace OpenAt

variable {p : Place} {pieces : List Piece}

/-- A statement that has ended comes before the last one. -/
theorem cons (h : OpenAt p pieces) (text : List Char) (ts : List (List Char)) :
    OpenAt p (⟨text, .ok ts⟩ :: pieces) := by
  obtain ⟨front, last, rfl, hfront, hlast⟩ := h
  refine ⟨⟨text, .ok ts⟩ :: front, last, rfl, ?_, hlast⟩
  intro q hq
  rcases List.mem_cons.mp hq with rfl | hq
  · exact ⟨ts, rfl⟩
  · exact hfront q hq

/-- The first statement may be told another text, and other tokens if it has any. -/
theorem head {q q' : Piece} (h : OpenAt p (q :: pieces))
    (hok : (∃ ts, q.tokens = .ok ts) → ∃ ts, q'.tokens = .ok ts)
    (herror : (∃ e, q'.tokens = .error e) ↔ ∃ e, q.tokens = .error e) :
    OpenAt p (q' :: pieces) := by
  obtain ⟨front, last, hpieces, hfront, hlast⟩ := h
  cases front with
  | nil =>
      obtain ⟨rfl, rfl⟩ := List.cons.inj hpieces
      exact ⟨[], q', rfl, by simp, herror.trans hlast⟩
  | cons r front =>
      obtain ⟨rfl, rfl⟩ := List.cons.inj hpieces
      refine ⟨q' :: front, last, rfl, ?_, hlast⟩
      intro r hr
      rcases List.mem_cons.mp hr with rfl | hr
      · exact hok (hfront q List.mem_cons_self)
      · exact hfront r (List.mem_cons_of_mem q hr)

theorem lead (h : OpenAt p pieces) (c : Char) : OpenAt p (Piece.lead c pieces) := by
  cases pieces with
  | nil => exact h
  | cons q pieces => exact h.head id Iff.rfl

theorem give (h : OpenAt p pieces) (t : List Char) : OpenAt p (Piece.give t pieces) := by
  cases pieces with
  | nil => exact h
  | cons q pieces =>
      apply h.head
      · rintro ⟨ts, hts⟩
        exact ⟨t :: ts, by rw [hts]; rfl⟩
      · cases hq : q.tokens <;> simp [Except.map]

end OpenAt

section Characters

variable {offset : Nat} {c : Char} {rest : List Char}
  (ih : ∀ {offset token} {quote : Option (Char × Nat)}, (quote ≠ none → token ≠ none) →
    OpenAt (rest.foldl Place.next (.of token quote)) (sweepFrom offset token quote rest))
include ih

/-- Inside quotes. -/
theorem openAt_cons_quoted (t : List Char) (q : Char) (start : Nat) :
    OpenAt (rest.foldl Place.next ((Place.of (some t) (some (q, start))).next c))
      (sweepFrom offset (some t) (some (q, start)) (c :: rest)) := by
  rw [sweepFrom]
  by_cases hc : c = q
  · have hplace : (Place.of (some t) (some (q, start))).next c = .of (some t) none := by
      simp [Place.of, Place.next, hc]
    rw [hplace, if_pos hc]
    exact (ih (by simp)).lead c
  · have hplace : (Place.of (some t) (some (q, start))).next c =
        .of (some (c :: t)) (some (q, start)) := by
      simp [Place.of, Place.next, hc]
    rw [hplace, if_neg hc]
    exact (ih (by simp)).lead c

/-- Between tokens. -/
theorem openAt_cons_between :
    OpenAt (rest.foldl Place.next ((Place.of none none).next c))
      (sweepFrom offset none none (c :: rest)) := by
  rw [sweepFrom]
  by_cases hq : isQuote c
  · have hplace : (Place.of none none).next c = .of (some []) (some (c, offset)) := by
      simp [Place.of, Place.next, hq]
    rw [hplace, if_pos hq]
    exact (ih (by simp)).lead c
  · rw [if_neg hq]
    by_cases hc : c = ';'
    · have hplace : (Place.of none none).next c = .of none none := by
        subst hc
        decide
      rw [hplace, if_pos hc]
      exact (ih (by simp)).cons [] []
    · rw [if_neg hc]
      by_cases hb : Text.isBlank c
      · have hplace : (Place.of none none).next c = .of none none := by
          simp [Place.of, Place.next, hq, goesOn, hb]
        rw [hplace, if_pos hb]
        exact (ih (by simp)).lead c
      · have hplace : (Place.of none none).next c = .of (some [c]) none := by
          simp [Place.of, Place.next, hq, goesOn, hc, hb]
        rw [hplace, if_neg hb]
        exact (ih (by simp)).lead c

/-- Inside a token. -/
theorem openAt_cons_token (t : List Char) :
    OpenAt (rest.foldl Place.next ((Place.of (some t) none).next c))
      (sweepFrom offset (some t) none (c :: rest)) := by
  rw [sweepFrom]
  by_cases hc : c = ';'
  · have hplace : (Place.of (some t) none).next c = .of none none := by
      simp [Place.of, Place.next, goesOn, hc]
    rw [hplace, if_pos hc]
    exact (ih (by simp)).cons [] [t.reverse]
  · rw [if_neg hc]
    by_cases hb : Text.isBlank c
    · have hplace : (Place.of (some t) none).next c = .of none none := by
        simp [Place.of, Place.next, goesOn, hb]
      rw [hplace, if_pos hb]
      exact ((ih (by simp)).give t.reverse).lead c
    · have hplace : (Place.of (some t) none).next c = .of (some (c :: t)) none := by
        simp [Place.of, Place.next, goesOn, hc, hb]
      rw [hplace, if_neg hb]
      exact (ih (by simp)).lead c

end Characters

/-- A sweep leaves its last statement open if the line ends inside a quotation. A quotation
belongs to a token. -/
theorem openAt_sweepFrom {offset : Nat} {token : Option (List Char)} {quote : Option (Char × Nat)}
    (h : quote ≠ none → token ≠ none) (line : List Char) :
    OpenAt (line.foldl Place.next (.of token quote)) (sweepFrom offset token quote line) := by
  induction line generalizing offset token quote with
  | nil =>
      cases quote with
      | none => exact ⟨[], _, rfl, by simp, by cases token <;> simp [Place.of, Place.isQuoted]⟩
      | some quote => exact ⟨[], _, rfl, by simp, by simp [Place.of, Place.isQuoted]⟩
  | cons c rest ih =>
      rw [List.foldl_cons]
      cases quote with
      | some quote =>
          obtain ⟨t, rfl⟩ := Option.ne_none_iff_exists'.mp (h (by simp))
          exact openAt_cons_quoted ih t quote.1 quote.2
      | none =>
          cases token with
          | none => exact openAt_cons_between ih
          | some t => exact openAt_cons_token ih t

/-! ## Lines -/

theorem extendFirst_ne_nil {c : Char} {cut : List (List Char)} : extendFirst c cut ≠ [] := by
  cases cut <;> simp [extendFirst]

/-- A line has at least one part. -/
theorem partsFrom_ne_nil {previous quote : Option Char} {line : List Char} :
    partsFrom previous quote line ≠ [] := by
  cases line with
  | nil => simp [partsFrom]
  | cons c rest =>
      unfold partsFrom
      split
      · exact extendFirst_ne_nil
      · split_ifs
        · exact extendFirst_ne_nil
        · simp
        · exact extendFirst_ne_nil

theorem intercalate_extendFirst {c : Char} {cut : List (List Char)} (h : cut ≠ []) :
    [';'].intercalate (extendFirst c cut) = c :: [';'].intercalate cut := by
  match cut, h with
  | [_], _ => simp [extendFirst, List.intercalate]
  | _ :: _ :: _, _ => simp [extendFirst, List.intercalate]

theorem intercalate_nil_cons {cut : List (List Char)} (h : cut ≠ []) :
    [';'].intercalate ([] :: cut) = ';' :: [';'].intercalate cut := by
  match cut, h with
  | _ :: _, _ => simp [List.intercalate]

/-- Joining the parts of a line by semicolons gives the line back. -/
theorem intercalate_partsFrom (previous quote : Option Char) (line : List Char) :
    [';'].intercalate (partsFrom previous quote line) = line := by
  induction line generalizing previous quote with
  | nil => rfl
  | cons c rest ih =>
      unfold partsFrom
      split
      · rw [intercalate_extendFirst partsFrom_ne_nil, ih]
      · split
        · rw [intercalate_extendFirst partsFrom_ne_nil, ih]
        · split
          · next hc => rw [intercalate_nil_cons partsFrom_ne_nil, ih, hc]
          · rw [intercalate_extendFirst partsFrom_ne_nil, ih]

/-- The statements of parts are those of their pieces. -/
theorem partStatements_eq (number : Nat) (ps : List (List Char)) :
    partStatements number ps = pieceStatements number (ps.map Piece.ofPart) := by
  induction ps with
  | nil => rfl
  | cons part rest ih =>
      rw [partStatements, ih, pieceStatements, pieceStatements, List.map_cons, partStatement?]
      cases hcomment : isComment part with
      | true =>
          rw [List.filter_cons_of_neg (by simp [Piece.ofPart, hcomment])]
          generalize List.mapM (Piece.statement? number) _ = read
          cases read <;> rfl
      | false =>
          rw [List.filter_cons_of_pos (by simp [Piece.ofPart, hcomment]), List.mapM_cons]
          generalize List.mapM (Piece.statement? number) _ = read
          simp only [Piece.ofPart, Piece.statement?, Bool.false_eq_true, if_false]
          cases tokens part >>= Lexer.statement? number with
          | error e => rfl
          | ok first => cases first <;> cases read <;> rfl

/-- The two cuts of a line agree with its sweep. Joining the parts gives the line back; all parts
but the last one have tokens, and the last one has none exactly if the line ends inside a
quotation; and the parts, their tokens, and the statements of the line, comments left out, are those
that the sweep reads. -/
theorem cuts_agree_with_sweep (line : List Char) :
    [';'].intercalate (parts line) = line ∧
    (∃ front last, parts line = front ++ [last] ∧
      (∀ part ∈ front, ∃ ts, tokens part = .ok ts) ∧
      ((∃ e, tokens last = .error e) ↔ endsQuoted line)) ∧
    parts line = (sweep line).map Piece.text ∧
    (parts line).map tokens = (sweep line).map Piece.tokens ∧
    ∀ number, statements number line =
      if isComment line then .ok [] else pieceStatements number (sweep line) := by
  have hsweep := sweep_eq line
  refine ⟨intercalate_partsFrom none none line, ?_, ?_, ?_, ?_⟩
  · have hopen : OpenAt (line.foldl Place.next .start) (sweep line) :=
      openAt_sweepFrom (by simp) line
    obtain ⟨front, last, hpieces, hfront, hlast⟩ := hopen
    rw [hsweep] at hpieces
    obtain ⟨ps, qs, hparts, rfl, hqs⟩ := List.map_eq_append_iff.mp hpieces
    obtain ⟨q, rfl, rfl⟩ := List.map_eq_singleton_iff.mp hqs
    refine ⟨ps, q, hparts, ?_, hlast⟩
    intro part hpart
    exact hfront (Piece.ofPart part) (List.mem_map_of_mem hpart)
  · rw [hsweep, List.map_map]
    exact (List.map_id (parts line)).symm
  · rw [hsweep, List.map_map]
    rfl
  · intro number
    rw [statements, hsweep, partStatements_eq]

/-- A quote inside a word quotes nothing; one that starts a token quotes semicolons as well. -/
example : (sweep "hide don't;fade 'a;b".toList).map Piece.tokens =
    [.ok ["hide".toList, "don't".toList], .error (.unterminatedQuote 6)] := by
  decide +kernel

end Storyboard.Lexer
