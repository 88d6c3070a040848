import Mathlib
import Storyboard.Proofs.Script.Failures
import Storyboard.Session.Run

/-!
# Where the error of an unreadable line points

A line that cannot be read has one result, an error with a span of bytes of the line. For a
quotation that is left open the span starts at the column that its quote has in its part, so it is
the quote itself only in the first part of the line. For a command word that selects no verb the
reader looks the word up in the line again: the first word between blanks that differs from it only
in letter case gives the spelling, and the first occurrence of that spelling the span.

Main results:

- Theorem `Text.find?_cases`: the search for a text finds its first occurrence, if there is one.
- Theorem `Site.span_word_eq_iff`: when the span of a word is a given occurrence of it.
- Theorem `Session.spans_of_unreadable`: when the error of an unreadable line points at the text
  that it is about.
-/

namespace Storyboard

/-! ## Occurrences -/

namespace Text

/-- A text is found after `before` in a line, and nowhere earlier. -/
structure FirstAt (line before text : List Char) : Prop where
  isPrefix : before ++ text <+: line
  first : ∀ earlier, earlier ++ text <+: line → before.length ≤ earlier.length

theorem FirstAt.cons {line before text : List Char} (h : FirstAt line before text) (c : Char)
    (hnot : ¬ text <+: c :: line) : FirstAt (c :: line) (c :: before) text := by
  refine ⟨List.cons_prefix_cons.mpr ⟨rfl, h.isPrefix⟩, ?_⟩
  intro earlier hearlier
  cases earlier with
  | nil => exact absurd hearlier hnot
  | cons c' earlier =>
      obtain ⟨-, hearlier⟩ := List.cons_prefix_cons.mp hearlier
      exact Nat.succ_le_succ (h.first earlier hearlier)

/-- The search for a text finds its first occurrence, if there is one. -/
theorem find?_cases (text line : List Char) :
    (∃ before, find? text line = some (byteLength before) ∧ FirstAt line before text) ∨
      (find? text line = none ∧ ∀ before, ¬ before ++ text <+: line) := by
  induction line with
  | nil =>
      cases text with
      | nil => exact .inl ⟨[], rfl, List.prefix_rfl, fun _ _ => Nat.zero_le _⟩
      | cons c text =>
          refine .inr ⟨rfl, fun before h => ?_⟩
          simpa using List.prefix_nil.mp h
  | cons c line ih =>
      rw [find?]
      by_cases hleads : text.isPrefixOf (c :: line)
      · rw [if_pos hleads]
        exact .inl ⟨[], rfl, List.isPrefixOf_iff_prefix.mp hleads, fun _ _ => Nat.zero_le _⟩
      · rw [if_neg hleads]
        have hnot : ¬ text <+: c :: line := fun h => hleads (List.isPrefixOf_iff_prefix.mpr h)
        obtain ⟨before, hfind, hfirst⟩ | ⟨hfind, hnone⟩ := ih
        · rw [hfind]
          exact .inl ⟨c :: before, rfl, hfirst.cons c hnot⟩
        · rw [hfind]
          refine .inr ⟨rfl, fun before h => ?_⟩
          cases before with
          | nil => exact hnot h
          | cons c' before => exact hnone before (List.cons_prefix_cons.mp h).2

/-- What begins a text is determined by its bytes. -/
theorem eq_of_prefix_of_byteLength {xs ys line : List Char} (hx : xs <+: line) (hy : ys <+: line)
    (h : byteLength xs = byteLength ys) : xs = ys := by
  obtain ⟨mid, hmid⟩ | ⟨mid, hmid⟩ := List.prefix_or_prefix_of_prefix hx hy
  · cases mid with
    | nil => simpa using hmid
    | cons c mid =>
        have hpos := c.utf8Size_pos
        rw [← hmid, byteLength_append, byteLength_cons] at h
        omega
  · cases mid with
    | nil => simpa using hmid.symm
    | cons c mid =>
        have hpos := c.utf8Size_pos
        rw [← hmid, byteLength_append, byteLength_cons] at h
        omega

theorem byteLength_eq_zero {xs : List Char} : byteLength xs = 0 ↔ xs = [] := by
  constructor
  · intro h
    exact eq_of_prefix_of_byteLength List.prefix_rfl List.nil_prefix h
  · rintro rfl
    rfl

/-- The bytes of a string are those of its characters. -/
theorem utf8ByteSize_ofList (cs : List Char) :
    (String.ofList cs).utf8ByteSize = byteLength cs := by
  induction cs with
  | nil => rfl
  | cons c cs ih =>
      rw [byteLength_cons, ← ih, ← String.utf8ByteSize_singleton (c := c),
        ← String.utf8ByteSize_append]
      simp

theorem utf8ByteSize_eq (text : String) : text.utf8ByteSize = byteLength text.toList := by
  rw [← utf8ByteSize_ofList, String.ofList_toList]

/-- A text without blanks is its only word. -/
theorem words_of_not_isBlank {w : List Char} (h : ∀ c ∈ w, isBlank c = false) (hne : w ≠ []) :
    words w = [w] := by
  have hpieces : pieces w = [w] := by
    clear hne
    induction w with
    | nil => rfl
    | cons c w ih =>
        obtain ⟨hc, hw⟩ := List.forall_mem_cons.mp h
        rw [pieces, hc, if_neg Bool.false_ne_true, ih hw, growWord]
  rw [words, hpieces]
  simpa using hne

/-- Of the words of a line that differ from `w` only in letter case the first one is `w` itself; if
there are none, `w` is in lower case. -/
def LeadsSpelling (line w : List Char) : Prop :=
  (∃ before after, words line = before ++ w :: after ∧
      ∀ u ∈ before, u.map Char.toLower ≠ w.map Char.toLower) ∨
    ((∀ u ∈ words line, u.map Char.toLower ≠ w.map Char.toLower) ∧ w.map Char.toLower = w)

end Text

/-! ## Spans -/

namespace Site

variable {site : Site}

/-- A byte of the line is not cut off. -/
theorem clampSpan_one {offset : Nat} (h : offset < site.text.utf8ByteSize) :
    site.clampSpan offset 1 = ⟨offset, 1⟩ := by
  simp only [clampSpan, Span.mk.injEq]
  omega

/-- The span of a text is that of its first occurrence, or else the whole line. -/
theorem tokenSpan_cases (site : Site) (text : List Char) :
    (∃ before, Text.FirstAt site.text.toList before text ∧
      site.tokenSpan (String.ofList text) = ⟨Text.byteLength before, Text.byteLength text⟩) ∨
    ((text = [] ∨ ∀ before, ¬ before ++ text <+: site.text.toList) ∧
      site.tokenSpan (String.ofList text) = ⟨0, Text.byteLength site.text.toList⟩) := by
  unfold tokenSpan
  rw [Text.utf8ByteSize_ofList, String.toList_ofList, wholeLine, Text.utf8ByteSize_eq]
  cases text with
  | nil => exact .inr ⟨.inl rfl, rfl⟩
  | cons c text =>
      have hne : (String.ofList (c :: text)).isEmpty = false := by
        simp
      rw [hne, if_neg Bool.false_ne_true]
      obtain ⟨before, hfind, hfirst⟩ | ⟨hfind, hnone⟩ :=
        Text.find?_cases (c :: text) site.text.toList
      · rw [hfind]
        exact .inl ⟨before, hfirst, rfl⟩
      · rw [hfind]
        exact .inr ⟨.inr hnone, rfl⟩

/-- When a word that is known in lower case gets back its spelling. -/
theorem spellingOf_eq_iff {w : List Char} :
    site.spellingOf (String.ofList (w.map Char.toLower)) = String.ofList w ↔
      Text.LeadsSpelling site.text.toList w := by
  have hlower : (w.map Char.toLower).map Char.toLower = w.map Char.toLower := by
    simp
  unfold spellingOf
  simp only [String.toList_ofList, hlower]
  have hsome : (∃ before after, Text.words site.text.toList = before ++ w :: after ∧
      ∀ u ∈ before, u.map Char.toLower ≠ w.map Char.toLower) ↔
      ((Text.words site.text.toList).find? fun u =>
        u.map Char.toLower == w.map Char.toLower) = some w := by
    simp [List.find?_eq_some_iff_append]
  have hnone : (∀ u ∈ Text.words site.text.toList, u.map Char.toLower ≠ w.map Char.toLower) ↔
      ((Text.words site.text.toList).find? fun u =>
        u.map Char.toLower == w.map Char.toLower) = none := by
    simp [List.find?_eq_none]
  rw [Text.LeadsSpelling, hsome, hnone]
  cases (Text.words site.text.toList).find? fun u =>
      u.map Char.toLower == w.map Char.toLower with
  | some u => simp [String.ofList_inj]
  | none => simp [String.ofList_inj]

/-- When the span of a word that is known in lower case is a given occurrence of it. -/
theorem span_word_eq_iff {before w : List Char} (hblank : ∀ c ∈ w, Text.isBlank c = false)
    (hne : w ≠ []) (hleads : before ++ w <+: site.text.toList) :
    site.span (.word (String.ofList (w.map Char.toLower))) =
        ⟨Text.byteLength before, Text.byteLength w⟩ ↔
      Text.LeadsSpelling site.text.toList w ∧ Text.FirstAt site.text.toList before w := by
  obtain ⟨u, hu⟩ : ∃ u, site.spellingOf (String.ofList (w.map Char.toLower)) = String.ofList u :=
    ⟨_, (String.ofList_toList (s := site.spellingOf _)).symm⟩
  rw [← spellingOf_eq_iff, hu, span, hu, String.ofList_inj]
  have hbefore : before <+: site.text.toList := (List.prefix_append _ _).trans hleads
  obtain ⟨start, hfirst, hspan⟩ | ⟨hnone, hspan⟩ := tokenSpan_cases site u
  · rw [hspan]
    constructor
    · intro h
      obtain ⟨hoffset, hlength⟩ := Span.mk.inj h
      have hstart : start = before := Text.eq_of_prefix_of_byteLength
        ((List.prefix_append _ _).trans hfirst.isPrefix) hbefore hoffset
      subst hstart
      have hsame : start ++ u = start ++ w := Text.eq_of_prefix_of_byteLength hfirst.isPrefix
        hleads (by rw [Text.byteLength_append, Text.byteLength_append, hlength])
      obtain rfl := List.append_cancel_left hsame
      exact ⟨rfl, hfirst⟩
    · rintro ⟨rfl, hat⟩
      have hlength : before.length = start.length :=
        le_antisymm (hat.first start hfirst.isPrefix) (hfirst.first before hleads)
      have hstart : before = start := (List.prefix_of_prefix_length_le hbefore
        ((List.prefix_append _ _).trans hfirst.isPrefix) hlength.le).eq_of_length hlength
      rw [hstart]
  · rw [hspan]
    constructor
    · -- The whole line would have to be the word, and then the word would have been found.
      intro h
      obtain ⟨hoffset, hlength⟩ := Span.mk.inj h
      obtain rfl := Text.byteLength_eq_zero.mp hoffset.symm
      have hline : w = site.text.toList :=
        Text.eq_of_prefix_of_byteLength hleads List.prefix_rfl hlength.symm
      have hspelling : Text.LeadsSpelling site.text.toList w := by
        refine .inl ⟨[], [], ?_, by simp⟩
        rw [← hline]
        exact Text.words_of_not_isBlank hblank hne
      rw [← spellingOf_eq_iff, hu, String.ofList_inj] at hspelling
      subst hspelling
      exact (hnone.resolve_left hne [] hleads).elim
    · rintro ⟨rfl, hat⟩
      exact (hnone.resolve_left hne before hat.isPrefix).elim

end Site

/-! ## Unreadable lines -/

namespace Session

open Lexer Text

variable {limit : Nat} {s : Session} {text : String} {e : LexError}

/-- A line that cannot be read has one result, an error with the message of the reader, and it
stops at one of its parts. If a quotation is left open, the span begins as far from the start of
the line as its quote is from the start of the part, so at the quote exactly if the part is the
first one. If a command word without quotes selects no verb, the span is the occurrence of the
word that begins the part exactly if the word has the spelling that comes first in the line and
occurs nowhere earlier. -/
theorem spans_of_unreadable (hwords : s.settings.strict = false)
    (herror : Lexer.statements (s.line + 1) text.toList = .error e) :
    ∃ d front part back, s.runLine limit text = some (s.nextLine, [.error d]) ∧
      d.message = e.message ∧ StopsAt (s.line + 1) text.toList e front part back ∧
      ((∃ column, e = .unterminatedQuote column) →
        (∃ before q after, Unclosed text.toList before q after) ∧
        ∀ before q after, Unclosed text.toList before q after →
          d.span.offset + byteLength (passed front) = byteLength before ∧ d.span.length = 1 ∧
          (d.span.offset = byteLength before ↔ front = [])) ∧
      ((∀ column, e ≠ .unterminatedQuote column) →
        (∀ c ∈ (firstWord part).head?, isQuote c = false) →
        NoVerb (firstWord part) e ∧
        (d.span = ⟨byteLength (passed front ++ indent part), byteLength (firstWord part)⟩ ↔
          LeadsSpelling text.toList (firstWord part) ∧
          FirstAt text.toList (passed front ++ indent part) (firstWord part))) := by
  obtain ⟨-, front, part, back, hstop⟩ := statements_eq_error_iff.mp herror
  refine ⟨(s.nextLine.site text).report (.lexical e), front, part, back, ?_, rfl, hstop, ?_, ?_⟩
  · have hread : s.nextLine.statements s.nextLine.line text = .error (.lexical e) := by
      have herror : Lexer.statements s.nextLine.line text.toList = .error e := herror
      have hwords : s.nextLine.settings.strict = false := hwords
      rw [statements, hwords, if_neg Bool.false_ne_true, herror]
    simp only [runLine, hread]
  · rintro ⟨column, rfl⟩
    obtain ⟨-, inside, q, after, -, hunclosed, rfl⟩ := hstop.unclosed
    refine ⟨⟨_, q, after, hunclosed⟩, ?_⟩
    intro before q' after' hunclosed'
    obtain ⟨rfl, -, -⟩ := hunclosed.unique hunclosed'
    have hspan : ((s.nextLine.site text).report
        (.lexical (.unterminatedQuote (byteLength inside + 1)))).span =
          ⟨byteLength inside, 1⟩ := by
      refine Site.clampSpan_one ?_
      have hline : (s.nextLine.site text).text.toList = passed front ++ inside ++ q :: after :=
        hunclosed.line_eq
      have hpos := q.utf8Size_pos
      rw [utf8ByteSize_eq, hline, byteLength_append, byteLength_append, byteLength_cons]
      omega
    rw [hspan, byteLength_append]
    refine ⟨Nat.add_comm _ _, rfl, ?_⟩
    have hfront : byteLength (passed front) = 0 ↔ front = [] :=
      byteLength_eq_zero.trans passed_eq_nil_iff
    rw [← hfront]
    exact eq_comm.trans Nat.add_eq_right
  · intro he hquote
    obtain ⟨hne, hverb⟩ := hstop.noVerb_firstWord hquote he
    refine ⟨hverb, ?_⟩
    have hword : Fault.lexicalAnchor e =
        .word (String.ofList ((firstWord part).map Char.toLower)) := by
      rcases hverb with rfl | ⟨candidates, rfl⟩
      · rfl
      · rfl
    have hoccurs : passed front ++ indent part ++ firstWord part <+: text.toList := by
      have hpart : indent part ++ firstWord part <+: part := by
        conv_rhs => rw [indent_append_firstWord part]
        exact List.prefix_append _ _
      rw [List.append_assoc]
      exact ((List.prefix_append_right_inj _).mpr hpart).trans hstop.isPrefix
    change (s.nextLine.site text).span (Fault.lexicalAnchor e) = _ ↔ _
    rw [hword]
    exact Site.span_word_eq_iff not_isBlank_firstWord hne hoccurs

/-- A session that has read nothing. -/
def unread : Session := Session.new default ⟨fun _ => false, fun _ => none⟩

/-- In a line of one part the span is the quote. -/
theorem spans_of_unreadable_opened : unread.settings.strict = false ∧
    Lexer.statements (unread.line + 1) "define t text 'oops".toList =
      .error (.unterminatedQuote 15) ∧
    ∃ d, unread.runLine 0 "define t text 'oops" = some (unread.nextLine, [.error d]) ∧
      d.span.offset = 14 ∧ d.span.length = 1 := by
  have herror : Lexer.statements (unread.line + 1) "define t text 'oops".toList =
      .error (.unterminatedQuote 15) := by decide +kernel
  obtain ⟨d, front, part, back, hrun, -, hstop, hquote, -⟩ := spans_of_unreadable rfl herror
  refine ⟨rfl, herror, d, hrun, ?_⟩
  have hfront : front = [] := by
    have hparts : parts "define t text 'oops".toList = ["define t text 'oops".toList] := by
      decide +kernel
    have hcut := hparts.symm.trans hstop.parts_eq
    obtain ⟨hfront, -⟩ | ⟨-, hrest⟩ := List.append_eq_singleton_iff.mp hcut.symm
    · exact hfront
    · cases hrest
  have hunclosed : Unclosed "define t text 'oops".toList "define t text ".toList '\x27'
      "oops".toList := ⟨by decide +kernel, by decide, by decide +kernel, by decide +kernel⟩
  obtain ⟨-, hlength, hoffset⟩ := (hquote ⟨15, rfl⟩).2 _ _ _ hunclosed
  refine ⟨?_, hlength⟩
  rw [hoffset.mpr hfront]
  decide +kernel

/-- After another statement the span of an open quotation is not its quote, and the span of a
command word may be an operand of the other statement. -/
theorem spans_apart :
    Unclosed "display; define t text 'oops".toList "display; define t text ".toList '\x27'
      "oops".toList ∧
    byteLength "display; define t text ".toList = 23 ∧
    (unread.runLine 0 "display; define t text 'oops").map
      (fun r => (Summary.failures r.2).map Diagnostic.span) = some [⟨15, 1⟩] ∧
    StopsAt 1 "hide zap; zap".toList (.unknownVerb "zap") ["hide zap".toList] " zap".toList [] ∧
    firstWord " zap".toList = "zap".toList ∧
    byteLength (passed ["hide zap".toList] ++ indent " zap".toList) = 10 ∧
    (unread.runLine 0 "hide zap; zap").map
      (fun r => (Summary.failures r.2).map Diagnostic.span) = some [⟨5, 3⟩] := by
  refine ⟨⟨by decide +kernel, by decide, by decide +kernel, by decide +kernel⟩, by decide +kernel,
    by decide +kernel, ⟨by decide +kernel, ?_, by decide +kernel⟩, by decide +kernel,
    by decide +kernel, by decide +kernel⟩
  intro p hp
  obtain rfl := List.mem_singleton.mp hp
  exact ⟨some ⟨.hide, ["zap"], 1⟩, by decide +kernel⟩

end Session

end Storyboard
