import Storyboard.Proofs.Grammar.Lines
import Storyboard.Proofs.Script.Scan

/-!
# Tokens that stand apart

The grammar does not require blanks between operands where their characters tell them apart, and
it knows spaces and tabs as blanks only. A reader of words requires a blank after every token,
and knows more of them. It reads the tokens of a command one by one exactly if they stand apart:
no token but a string holds a blank, and each is followed by a space or a tab.

Main results:

- Definition `Apart`: tokens that stand apart.
- Theorem `scan_of_apart`: tokens that stand apart are read one by one.
- Theorem `apart_of_scan`: tokens that are read one by one stand apart.
-/

namespace Storyboard.Grammar

open Lexer (scan goesOn leftover)
open Text (span_append)

/-! ## Tokens that stand apart -/

/-- A space, a tab, or a semicolon. -/
def isSeparator (c : Char) : Bool := c = ' ' || c = '\t' || c = ';'

/-- The text that follows a node, given the text from somewhere before it on. -/
def Node.after (n : Node) (t : List Char) : List Char :=
  (t.dropWhile isSeparator).drop n.text.length

/-- The tokens of a text stand apart: outside strings they hold no blanks, and each is followed
by a space or a tab, unless it ends the text. -/
def Apart : List Node → List Char → Prop
  | [], _ => True
  | n :: ns, t =>
      (n.rule ≠ .string → ∀ c ∈ n.text, Text.isBlank c = false) ∧
        (∀ c ∈ (n.after t).head?, IsGap c) ∧ Apart ns (n.after t)

instance : DecidablePred IsGap := fun _ => inferInstanceAs (Decidable (_ ∨ _))

instance decidableApart : (ns : List Node) → (t : List Char) → Decidable (Apart ns t)
  | [], _ => .isTrue trivial
  | n :: ns, t =>
      have : Decidable (∀ c ∈ n.text, Text.isBlank c = false) := List.decidableBAll _ n.text
      have : Decidable (∀ c ∈ (n.after t).head?, IsGap c) := Option.decidableForallMem _
      have := decidableApart ns (n.after t)
      inferInstanceAs (Decidable (_ ∧ _ ∧ _))

theorem isSeparator_of_gap {c : Char} (h : IsGap c) : isSeparator c := by
  rcases h with rfl | rfl
  · decide
  · decide

/-- The text after a node that does not begin with a separator. -/
theorem Node.after_eq {n : Node} {b u : List Char} (hb : ∀ c ∈ b, IsGap c)
    (hn : ∃ c w, n.text = c :: w ∧ isSeparator c = false) :
    n.after (b ++ (n.text ++ u)) = u := by
  obtain ⟨c, w, htext, hc⟩ := hn
  have hseparators : ∀ c ∈ b, isSeparator c := fun c hc => isSeparator_of_gap (hb c hc)
  rw [Node.after, List.dropWhile_append_of_pos hseparators, htext, List.cons_append,
    List.dropWhile_cons_of_neg (by simp [hc]), ← List.cons_append, ← htext, List.drop_left]

/-- Tokens do not begin with separators. -/
theorem Node.IsToken.exists_cons {n : Node} (h : n.IsToken) :
    ∃ c w, n.text = c :: w ∧ isSeparator c = false := by
  rcases h with hquoted | hplain
  · obtain ⟨q, inner, hq, -, htext, -⟩ := hquoted.quotes
    refine ⟨q, inner ++ [q], htext, ?_⟩
    rcases (by simpa [Lexer.isQuote] using hq : q = '\x22' ∨ q = '\x27') with rfl | rfl
    · decide
    · decide
  · obtain ⟨c, w, htext⟩ := List.exists_cons_of_ne_nil hplain.ne_nil
    obtain ⟨hsemicolon, hgap⟩ := hplain.inner c (by rw [htext]; exact List.mem_cons_self)
    refine ⟨c, w, htext, ?_⟩
    simpa [isSeparator, hsemicolon, IsGap] using hgap

/-- What a token stands for. -/
def Node.content (n : Node) : List Char := n.argument.toList

theorem Node.Plain.content_eq {n : Node} (h : n.Plain) : n.content = n.text := by
  rw [Node.content, Node.argument_of_ne_string h.not_string, String.toList_ofList]

theorem goesOn_of_inner {c : Char} (h : Inner c) (hblank : Text.isBlank c = false) :
    goesOn c := by
  simp [goesOn, h.1, hblank]

theorem goesOn_of_ordinary {c : Char} (h : ordinary c) : goesOn c :=
  goesOn_of_inner (inner_of_ordinary h) (not_blank_of_ordinary h)

/-- Gaps before a token are skipped. -/
theorem scan_gap_append {b : List Char} (hb : ∀ c ∈ b, IsGap c) (line : List Char) :
    scan none none (b ++ line) = scan none none line :=
  Lexer.scan_blanks (fun c hc => isBlank_of_gap (hb c hc)) line

/-- A token that ends where it may is read as it stands. -/
theorem scan_token {n : Node} (hn : n.IsToken)
    (hblank : n.rule ≠ .string → ∀ c ∈ n.text, Text.isBlank c = false) {line : List Char}
    (hstop : ∀ c ∈ line.head?, goesOn c = false) :
    scan none none (n.text ++ line) =
      ((scan none none line).1.map (n.content :: ·), (scan none none line).2) := by
  rcases hn with hquoted | hplain
  · obtain ⟨q, inner, hq, hinner, htext, hargument⟩ := hquoted.quotes
    have hcontent : n.content = inner := by
      rw [Node.content, hargument, String.toList_ofList]
    rw [htext, List.cons_append, List.append_assoc, List.singleton_append,
      Lexer.scan_enclosed hq hinner hstop, hcontent]
  · have hblank := hblank hplain.not_string
    obtain ⟨c, w, htext⟩ := List.exists_cons_of_ne_nil hplain.ne_nil
    have hgoes : ∀ x ∈ c :: w, goesOn x := by
      rw [← htext]
      intro x hx
      exact goesOn_of_inner (hplain.inner x hx) (hblank x hx)
    have hquote : Lexer.isQuote c = false := hplain.unquoted c (by rw [htext]; rfl)
    rw [hplain.content_eq, htext, Lexer.scan_word hquote hgoes hstop]

/-- What may follow a command and the blanks after it. -/
theorem goesOn_of_mem_head {b : List Char} (hb : ∀ c ∈ b, IsGap c) (rest : Option (List Char)) :
    ∀ c ∈ (b ++ leftover rest).head?, goesOn c = false := by
  intro c hc
  cases b with
  | nil =>
      cases rest with
      | none => cases hc
      | some rest =>
          cases hc
          decide
  | cons x b =>
      cases hc
      have hx : Text.isBlank c := isBlank_of_gap (hb c List.mem_cons_self)
      simp [goesOn, hx]

theorem scan_leftover {b : List Char} (hb : ∀ c ∈ b, IsGap c) (rest : Option (List Char)) :
    scan none none (b ++ leftover rest) = (some [], rest) := by
  rw [scan_gap_append hb]
  cases rest with
  | none => rfl
  | some rest => rfl

/-- Tokens that stand apart are read one by one. -/
theorem scan_of_apart {ns : List Node} {t b : List Char} (htokens : ∀ n ∈ ns, n.IsToken)
    (hwoven : Woven ns t) (hapart : Apart ns t) (hb : ∀ c ∈ b, IsGap c)
    (rest : Option (List Char)) :
    scan none none (t ++ (b ++ leftover rest)) = (some (ns.map Node.content), rest) := by
  induction ns generalizing t with
  | nil =>
      rw [scan_gap_append hwoven]
      exact scan_leftover hb rest
  | cons n ns ih =>
      obtain ⟨b₀, u, rfl, hb₀, hu⟩ := hwoven
      have hn : n.IsToken := htokens n List.mem_cons_self
      have hafter : n.after (b₀ ++ (n.text ++ u)) = u :=
        Node.after_eq hb₀ hn.exists_cons
      rw [Apart, hafter] at hapart
      obtain ⟨hblank, hhead, hapart⟩ := hapart
      have hstop : ∀ c ∈ (u ++ (b ++ leftover rest)).head?, goesOn c = false := by
        cases u with
        | nil => exact goesOn_of_mem_head hb rest
        | cons x u =>
            intro c hc
            simp [goesOn, isBlank_of_gap (hhead c hc)]
      have hrest := ih (fun m hm => htokens m (List.mem_cons_of_mem n hm)) hu hapart
      rw [List.append_assoc, List.append_assoc,
        scan_gap_append hb₀, scan_token hn hblank hstop, hrest]
      rfl

/-! ## Tokens that are read -/

/-- What is taken as a whole ends where it does not go on. -/
theorem of_takeWhile_append {p : Char → Bool} {w line : List Char}
    (h : (w ++ line).takeWhile p = w) : (∀ c ∈ w, p c) ∧ ∀ c ∈ line.head?, p c = false := by
  have hw : ∀ c ∈ w, p c := by
    rw [← h]
    exact List.all_eq_true.mp List.all_takeWhile
  refine ⟨hw, ?_⟩
  rw [List.takeWhile_append_of_pos hw] at h
  have hnil : line.takeWhile p = [] := List.append_cancel_left (h.trans (List.append_nil w).symm)
  intro c hc
  cases line with
  | nil => cases hc
  | cons x line =>
      cases hc
      rw [Bool.eq_false_iff]
      intro hx
      rw [List.takeWhile_cons_of_pos hx] at hnil
      cases hnil

/-- If blanks and a quotation after them are read as a text that begins with the blanks, then
a quotation comes next after that text. -/
theorem exists_of_quotation {q : Char} {b w line inner more rest : List Char}
    (hb : ∀ x ∈ b, Text.isBlank x) (hne : b ≠ []) (hinner : q ∉ inner)
    (hmore : ∀ x ∈ more, goesOn x) (hline : w ++ line = b ++ q :: (inner ++ q :: rest))
    (hread : w = inner ++ more) : ∃ b' u, line = b' ++ q :: u ∧ ∀ x ∈ b', Text.isBlank x := by
  have happart : ∀ x ∈ b, x ∉ more := by
    intro x hx hx'
    have hgoes := hmore x hx'
    simp [goesOn, hb x hx] at hgoes
  rcases List.append_eq_append_iff.mp hline with ⟨b', rfl, hrest⟩ | ⟨v, hw, hrest⟩
  · exact ⟨b', _, hrest, fun x hx => hb x (List.mem_append_right w hx)⟩
  cases v with
  | nil => exact ⟨[], _, hrest.symm, fun x hx => absurd hx List.not_mem_nil⟩
  | cons q' v =>
      injection hrest with hq hrest
      subst hq
      -- The text holds the blanks and the quote, so the quotation is as long as the blanks.
      have hsplit : inner = b ∧ more = q :: v := by
        rcases List.append_eq_append_iff.mp (hread.symm.trans hw) with
          ⟨a, rfl, rfl⟩ | ⟨a, rfl, htail⟩
        · cases a with
          | nil => exact ⟨(List.append_nil inner).symm, rfl⟩
          | cons x a => exact absurd List.mem_cons_self (happart x (by simp))
        · cases a with
          | nil => exact ⟨List.append_nil b, htail.symm⟩
          | cons x a =>
              injection htail with hx _
              subst hx
              exact absurd (List.mem_append_right b List.mem_cons_self) hinner
      obtain ⟨rfl, rfl⟩ := hsplit
      cases v with
      | nil => exact ⟨inner, _, hrest.symm, hb⟩
      | cons y v =>
          obtain ⟨x, b, rfl⟩ := List.exists_cons_of_ne_nil hne
          injection hrest with hx _
          subst hx
          exact absurd (by simp) (happart x List.mem_cons_self)

/-- A word that begins with a blank is not read as it stands, unless a quotation follows it. -/
theorem ne_of_blank_head {c : Char} {w line : List Char} (hc : Text.isBlank c)
    (hnext : ∀ x ∈ (line.dropWhile Text.isBlank).head?, Lexer.isQuote x = false)
    (more : List (List Char)) :
    (scan none none (c :: w ++ line)).1 ≠ some ((c :: w) :: more) := by
  intro h
  obtain ⟨b, u, hline, hb, hu⟩ : ∃ b u, c :: w ++ line = b ++ u ∧
      (∀ x ∈ b, Text.isBlank x) ∧ ∀ x ∈ u.head?, Text.isBlank x = false := by
    have hhead := List.head?_dropWhile_not Text.isBlank (c :: w ++ line)
    refine ⟨_, _, List.takeWhile_append_dropWhile.symm, List.all_eq_true.mp List.all_takeWhile, ?_⟩
    intro x hx
    rw [Option.mem_def.mp hx] at hhead
    exact hhead
  rw [hline, Lexer.scan_blanks hb] at h
  cases u with
  | nil => cases h
  | cons x u =>
      have hblank : Text.isBlank x = false := hu x rfl
      cases hquote : Lexer.isQuote x with
      | false =>
          by_cases hgoes : goesOn x
          · rw [Lexer.scan_cons hquote hgoes, Lexer.scan_some_eq, Option.map_eq_some_iff] at h
            obtain ⟨ts, -, hts⟩ := h
            cases hts
            rw [hblank] at hc
            cases hc
          · obtain rfl : x = ';' := by simpa [goesOn, hblank] using hgoes
            cases h
      | true =>
          rw [Lexer.scan_quote hquote] at h
          by_cases hx : x ∈ u
          · obtain ⟨inner, rest, rfl, hinner⟩ := List.eq_append_cons_of_mem hx
            rw [Lexer.scan_quoted hinner, Lexer.scan_some_eq, List.append_nil,
              List.reverse_reverse, Option.map_eq_some_iff] at h
            obtain ⟨ts, -, hts⟩ := h
            injection hts with hread _
            have hne : b ≠ [] := by
              rintro rfl
              injection hline with hcx _
              rw [hcx, hblank] at hc
              cases hc
            obtain ⟨b', v, rfl, hb'⟩ := exists_of_quotation hb hne hinner
              (List.all_eq_true.mp List.all_takeWhile) hline hread.symm
            rw [(span_append hb' fun y hy => by cases hy; exact hblank).2] at hnext
            rw [hnext x rfl] at hquote
            cases hquote
          · rw [Lexer.scan_unclosed hx] at h
            cases h

/-- A token that is read as it stands ends where it may. -/
theorem token_of_scan {n : Node} (hn : n.IsToken) {line : List Char} {more : List (List Char)}
    (hnext : n.rule = .word →
      ∀ c ∈ (line.dropWhile Text.isBlank).head?, Lexer.isQuote c = false)
    (h : (scan none none (n.text ++ line)).1 = some (n.content :: more)) :
    (n.rule ≠ .string → ∀ c ∈ n.text, Text.isBlank c = false) ∧
      (∀ c ∈ line.head?, goesOn c = false) ∧ (scan none none line).1 = some more := by
  rcases hn with hquoted | hplain
  · obtain ⟨q, inner, hq, hinner, htext, hargument⟩ := hquoted.quotes
    have hcontent : n.content = inner := by
      rw [Node.content, hargument, String.toList_ofList]
    rw [htext, List.cons_append, List.append_assoc, List.singleton_append, Lexer.scan_quote hq,
      Lexer.scan_quoted hinner, Lexer.scan_some_eq, List.append_nil, List.reverse_reverse,
      Option.map_eq_some_iff] at h
    obtain ⟨ts, hscan, hts⟩ := h
    injection hts with hfirst hmore
    have htake : ([] ++ line).takeWhile goesOn = [] :=
      List.append_cancel_left (hfirst.trans (hcontent.trans (List.append_nil inner).symm))
    obtain ⟨hnil, hstop⟩ := of_takeWhile_append htake
    have hdrop : line.dropWhile goesOn = line := (span_append hnil hstop).2
    rw [hdrop, hmore] at hscan
    exact ⟨fun h => absurd hquoted.is_string h, hstop, hscan⟩
  · obtain ⟨c, w, htext⟩ := List.exists_cons_of_ne_nil hplain.ne_nil
    have hquote : Lexer.isQuote c = false := hplain.unquoted c (by rw [htext]; rfl)
    have hinner : ∀ x ∈ c :: w, Inner x := htext ▸ hplain.inner
    rw [hplain.content_eq, htext] at h
    have hblank : Text.isBlank c = false := by
      rw [Bool.eq_false_iff]
      intro hblank
      have hword : n.rule = .word := by
        by_contra hword
        have hordinary := hplain.ordinary_head hword c (by rw [htext]; rfl)
        rw [not_blank_of_ordinary hordinary] at hblank
        cases hblank
      exact ne_of_blank_head hblank (hnext hword) more h
    have hgoes : goesOn c := goesOn_of_inner (hinner c List.mem_cons_self) hblank
    rw [List.cons_append, Lexer.scan_cons hquote hgoes, Lexer.scan_some_eq,
      Option.map_eq_some_iff] at h
    obtain ⟨ts, hscan, hts⟩ := h
    injection hts with hfirst hmore
    have htake : (w ++ line).takeWhile goesOn = w := by
      injection hfirst
    obtain ⟨hw, hstop⟩ := of_takeWhile_append htake
    rw [(span_append hw hstop).2, hmore] at hscan
    refine ⟨?_, hstop, hscan⟩
    intro _ x hx
    rw [htext] at hx
    rcases List.mem_cons.mp hx with rfl | hx
    · exact hblank
    · have hx := hw x hx
      simp only [goesOn, Bool.and_eq_true, Bool.not_eq_true'] at hx
      exact hx.1

/-- Where the next token or the end of the command comes, no quotation does, after a word. -/
theorem not_isQuote_after {ns : List Node} {u b : List Char} (htokens : ∀ m ∈ ns, m.IsToken)
    (hfirst : ∀ m ∈ ns.head?, m.rule ≠ .word ∧ m.rule ≠ .string) (hwoven : Woven ns u)
    (hb : ∀ c ∈ b, IsGap c) (rest : Option (List Char)) :
    ∀ c ∈ ((u ++ (b ++ leftover rest)).dropWhile Text.isBlank).head?, Lexer.isQuote c = false := by
  have hblanks : ∀ {g : List Char}, (∀ c ∈ g, IsGap c) → ∀ c ∈ g, Text.isBlank c :=
    fun hg c hc => isBlank_of_gap (hg c hc)
  cases ns with
  | nil =>
      rw [List.dropWhile_append_of_pos (hblanks hwoven), List.dropWhile_append_of_pos (hblanks hb)]
      cases rest with
      | none =>
          intro c hc
          cases hc
      | some rest =>
          intro c hc
          cases hc
          decide
  | cons m ms =>
      obtain ⟨b', u', rfl, hb', -⟩ := hwoven
      obtain ⟨hword, hstring⟩ := hfirst m rfl
      have hplain : m.Plain := (htokens m List.mem_cons_self).plain hstring
      obtain ⟨x, w, htext, hx⟩ := hplain.exists_cons hword
      have hx' : ¬ Text.isBlank x := by simp [not_blank_of_ordinary hx]
      rw [List.append_assoc, List.append_assoc, htext, List.cons_append,
        List.dropWhile_append_of_pos (hblanks hb'), List.dropWhile_cons_of_neg hx']
      intro c hc
      cases hc
      exact unquoted_of_ordinary hx

/-- What tokens that stand apart begin with is a gap, where a token ends. -/
theorem isGap_of_stop {ns : List Node} {u : List Char} (htokens : ∀ m ∈ ns, m.IsToken)
    (hwoven : Woven ns u) (hapart : Apart ns u) (hstop : ∀ c ∈ u.head?, goesOn c = false) :
    ∀ c ∈ u.head?, IsGap c := by
  intro c hc
  cases ns with
  | nil => exact hwoven c (List.mem_of_mem_head? hc)
  | cons m ms =>
      obtain ⟨b, u', rfl, hb, -⟩ := hwoven
      cases b with
      | cons x b =>
          cases hc
          exact hb c List.mem_cons_self
      | nil =>
          exfalso
          have hm : m.IsToken := htokens m List.mem_cons_self
          obtain ⟨x, w, htext, hx⟩ := hm.exists_cons
          rw [List.nil_append, htext] at hc hstop
          cases hc
          have hblank : Text.isBlank c := by
            have hgoes := hstop c rfl
            have hsemicolon : c ≠ ';' := by
              rintro rfl
              cases hx
            simpa [goesOn, hsemicolon] using hgoes
          rcases hm with hquoted | hplain
          · obtain ⟨q, inner, hq, -, hquotes, -⟩ := hquoted.quotes
            obtain rfl : c = q := by
              rw [htext] at hquotes
              injection hquotes
            rw [(Lexer.isQuote_of_isBlank hblank).1] at hq
            cases hq
          · have hnone := hapart.1 hplain.not_string c (by rw [htext]; exact List.mem_cons_self)
            rw [hblank] at hnone
            cases hnone

/-- Tokens that are read one by one stand apart. -/
theorem apart_of_scan {ns : List Node} {t b : List Char} (htokens : ∀ n ∈ ns, n.IsToken)
    (hchain : ns.IsChain fun n m => n.rule = .word → m.rule ≠ .word ∧ m.rule ≠ .string)
    (hwoven : Woven ns t) (hb : ∀ c ∈ b, IsGap c) {rest : Option (List Char)}
    (h : (scan none none (t ++ (b ++ leftover rest))).1 = some (ns.map Node.content)) :
    Apart ns t := by
  induction ns generalizing t with
  | nil => trivial
  | cons n ns ih =>
      obtain ⟨b₀, u, rfl, hb₀, hu⟩ := hwoven
      have hn : n.IsToken := htokens n List.mem_cons_self
      have hns : ∀ m ∈ ns, m.IsToken := fun m hm => htokens m (List.mem_cons_of_mem n hm)
      rw [List.append_assoc, List.append_assoc,
        scan_gap_append hb₀] at h
      rw [List.isChain_cons] at hchain
      obtain ⟨hblank, hstop, hscan⟩ := token_of_scan hn
        (fun hword => not_isQuote_after hns (fun m hm => hchain.1 m hm hword) hu hb rest) h
      have hapart : Apart ns u := ih hns hchain.2 hu hscan
      have hstop : ∀ c ∈ u.head?, goesOn c = false := by
        cases u with
        | nil =>
            intro c hc
            cases hc
        | cons x u => exact hstop
      rw [Apart, Node.after_eq hb₀ hn.exists_cons]
      exact ⟨hblank, isGap_of_stop hns hu hapart hstop, hapart⟩

end Storyboard.Grammar
