import Storyboard.Proofs.Grammar.Prefixes

/-!
# Where the grammar runs past the end of a line

In the strict grammar, texts between quotes and regular expressions do not stop at the end of the
line; all else does. A line that ends inside one of them is refused as an operand, but accepted as
a comment. So the content of a line either reads the same wherever the line stands, or is taken
past its end.

Main results:

- Theorem `Expr.tracks_between`: texts between two delimiters.
- Theorems `tracks_textOperand`, `tracks_pattern`: the operands that may run past the end of a line.
- Theorem `loose_lineBody`: the content of a line.
-/

namespace Storyboard.Grammar

open Storyboard.Grammar.Expr

namespace Expr

variable {e e₁ e₂ : Expr} {mode : Mode} {s : List Char} {p : Char → Prop}
  {lost : List Char → Option (List Char) → Prop}

/-! ## Refusals -/

theorem Rejects.seq (h : e₁.Rejects mode s) : (Expr.seq e₁ e₂).Rejects mode s := by
  intro c att hc
  rw [run_seq, h c att hc]
  rfl

theorem Rejects.alt (h₁ : e₁.Rejects mode s) (h₂ : e₂.Rejects mode s) :
    (Expr.alt e₁ e₂).Rejects mode s := by
  intro c att hc
  rw [run_alt, h₁ c att hc, h₂ c _ hc]
  rfl

theorem Rejects.rule {r : Rule} {style : Style} (h : e.Rejects (style.inner mode) s) :
    (Expr.rule r style e).Rejects mode s := by
  intro c att hc
  rw [run_rule, h c att hc]
  rfl

/-- A sequence is refused if its second part refuses whatever the first one may leave. -/
theorem rejects_seq (h : ∀ w ns u, Matched e₁ mode w ns u → s = w ++ u →
    e₂.Rejects mode (mode.skipped u)) : (Expr.seq e₁ e₂).Rejects mode s := by
  intro c att hc
  rw [run_seq]
  cases hrun : (e₁.run mode c att).2 with
  | none => rfl
  | some r =>
      obtain ⟨w, hw, hmatched⟩ := e₁.matched_of_run mode c att r.1 r.2 hrun
      rw [Option.bind_some, h w r.2 r.1.rest hmatched (hc ▸ hw) _ _ (mode.rest_skip_eq r.1)]
      rfl

theorem rejects_text {x : List Char} (h : ¬ x <+: s) : (text x).Rejects mode s := by
  intro c att hc
  cases hrun : ((text x).run mode c att).2 with
  | none => rfl
  | some r =>
      obtain ⟨c', ns⟩ := r
      obtain ⟨w, hw, hmatched⟩ := (text x).matched_of_run mode c att c' ns hrun
      cases hmatched
      exact absurd ⟨c'.rest, hc ▸ hw.symm⟩ h

theorem rejects_one {k : CharClass} (h : ∀ x ∈ s.head?, k.contains x = false) :
    (one k).Rejects mode s := by
  intro c att hc
  rw [Expr.run, hc]
  cases s with
  | nil => rfl
  | cons x s => simp [h x rfl]

theorem Peeks.rejects_absent {p : Option Char → Bool} (h : e.Peeks mode p) (hs : p s.head?) :
    (absent e).Rejects mode s := by
  intro c att hc
  rw [run_absent, h, hc, if_pos hs]

theorem Peeks.rejects_ahead {p : Option Char → Bool} (h : e.Peeks mode p)
    (hs : p s.head? = false) : (ahead e).Rejects mode s := by
  intro c att hc
  rw [run_ahead, h, hc, hs]
  rfl

/-! ## Lines that end inside an expression -/

/-- The line is refused and begins with a certain character. -/
def Cut (p : Char → Prop) (s : List Char) (r : Option (List Char)) : Prop :=
  r = none ∧ ∃ x ∈ s.head?, p x

/-- If the line is not refused, nothing of it is left. -/
def Emptied (r : Option (List Char)) : Prop := ∀ u ∈ r, u = []

namespace Tracks

theorem of_cut (h : e.Tracks (Cut p) mode) : e.Strict mode := h.mono fun _ _ hcut => hcut.1

/-- An expression after one that refuses the lines that it runs past the end of. -/
theorem cut_seq (h₁ : e₁.Tracks (Cut p) mode) (h₂ : e₂.Stays mode) :
    (Expr.seq e₁ e₂).Tracks (Cut p) mode := by
  refine h₁.seq h₂ ?_ fun _ => False.elim
  rintro s r ⟨rfl, hhead⟩
  exact .inl ⟨nofun, rfl, hhead⟩

/-- Two expressions that tell from the first character which of them is meant. -/
theorem cut_alt {q : Char → Prop} (h₁ : e₁.Tracks (Cut p) mode) (h₂ : e₂.Tracks lost mode)
    (hrejects : ∀ s, (∃ x ∈ s.head?, p x) → e₂.Rejects mode s) (hpq : ∀ x, p x → q x)
    (hover₂ : ∀ s r, lost s r → Cut q s r) : (Expr.alt e₁ e₂).Tracks (Cut q) mode := by
  refine h₁.alt h₂ ?_ hover₂
  rintro s r ⟨hr, x, hx, hp⟩
  exact .inl ⟨⟨hr, x, hx, hpq x hp⟩, hrejects s ⟨x, hx, hp⟩⟩

theorem strict_seq (h₁ : e₁.Strict mode) (h₂ : e₂.Loose mode) : (Expr.seq e₁ e₂).Loose mode := by
  refine h₁.seq h₂ ?_ fun _ _ => trivial
  rintro s r rfl
  exact .inl ⟨nofun, trivial⟩

theorem loose_seq (h₁ : e₁.Loose mode) (h₂ : e₂.Loose mode) (htotal : e₂.Total mode) :
    (Expr.seq e₁ e₂).Loose mode :=
  h₁.seq h₂ (fun _ _ _ => .inr ⟨htotal, fun _ => trivial⟩) fun _ _ => trivial

theorem loose_alt (h₁ : e₁.Loose mode) (h₂ : e₂.Loose mode) : (Expr.alt e₁ e₂).Loose mode :=
  h₁.alt h₂ (fun _ _ _ => .inr fun _ => trivial) fun _ _ _ => trivial

theorem loose_opt (h : e.Loose mode) : (Expr.opt e).Loose mode := h.opt fun _ _ _ => trivial

theorem loose_star (he : e.nonempty) (h : e.Loose mode) : (Expr.star e).Loose mode :=
  h.star he fun _ _ _ _ _ => trivial

end Tracks

theorem loose_first {es : List Expr} (hes : ∀ e ∈ es, e.Loose mode) : (first es).Loose mode := by
  induction es with
  | nil => exact (tracks_of_tame rfl).loose
  | cons e es ih =>
      have he := hes e List.mem_cons_self
      cases es with
      | nil => exact he
      | cons e' es => exact he.loose_alt (ih fun d hd => hes d (List.mem_cons_of_mem _ hd))

/-! ## Texts between delimiters -/

/-- The inside of a quotation runs past the end of a line only after all of the line. -/
theorem Peeks.tracks_star {p : Option Char → Bool} (h : e.Peeks .atomic p) :
    (star (anyBut e)).Tracks (fun _ => Emptied) .atomic := by
  refine h.tracks_anyBut.star rfl ?_
  rintro v r ⟨rfl, hr, -⟩ r' hlast
  obtain ⟨u, rfl, hu⟩ := hlast hr
  rintro u' ⟨⟩
  rcases hu with hu | hu
  · exact hu
  · exact hu

theorem Peeks.tracks_plus {p : Option Char → Bool} (h : e.Peeks .atomic p) :
    (plus (anyBut e)).Tracks (fun _ => Emptied) .atomic := by
  refine h.tracks_anyBut.seq h.tracks_star ?_ fun _ hr => hr
  rintro s r ⟨-, rfl, -⟩
  exact .inl ⟨nofun, nofun⟩

/-- A text between two delimiters, which are missing at the end of a line that ends inside. -/
theorem tracks_between {q : Char} (hq : q ≠ '\n' ∧ q ≠ '\r')
    (he : e.Tracks (fun _ => Emptied) mode) :
    (all [text [q], e, text [q]]).Tracks (Cut (· = q)) mode := by
  have hquote : (text [q]).Stays mode := by
    refine tracks_of_tame ?_
    simp [tame, hq.1.symm, hq.2.symm]
  have hrest : (Expr.seq e (text [q])).Strict mode := by
    refine he.seq hquote ?_ fun _ => False.elim
    intro s r hr
    refine .inl ⟨?_, rfl⟩
    rintro u rfl
    rw [hr u rfl]
    have hnil : mode.skipped [] = [] := by cases mode <;> rfl
    rw [hnil]
    exact rejects_text (by simp)
  refine hquote.seq hrest (fun _ _ => False.elim) ?_
  rintro w u ns t r hmatched rfl
  cases hmatched
  exact ⟨rfl, q, rfl, rfl⟩

/-- A text between two equal quotes of either kind. -/
theorem tracks_quotes (h₁ : e₁.Tracks (fun _ => Emptied) mode)
    (h₂ : e₂.Tracks (fun _ => Emptied) mode) :
    (first [all [lit "\x22", e₁, lit "\x22"], all [lit "\x27", e₂, lit "\x27"]]).Tracks
      (Cut fun x => x = '\x22' ∨ x = '\x27') mode := by
  have hdouble := tracks_between (q := '\x22') (by decide) h₁
  have hsingle := tracks_between (q := '\x27') (by decide) h₂
  refine hdouble.cut_alt hsingle ?_ (fun _ => .inl) ?_
  · rintro s ⟨x, hx, rfl⟩
    obtain ⟨s, rfl⟩ := List.head?_eq_some_iff.mp hx
    exact Rejects.seq (rejects_text (by simp))
  · rintro s r ⟨hr, x, hx, rfl⟩
    exact ⟨hr, _, hx, .inr rfl⟩

end Expr

/-! ## Operands -/

section Operands

variable {mode : Mode}

theorem tracks_string : string.Tracks (Cut fun x => x = '\x22' ∨ x = '\x27') mode :=
  (tracks_quotes (peeks_text _).tracks_star.rule (peeks_text _).tracks_star.rule).rule

/-- A word ends with the line at the latest. -/
theorem stays_word : word.Stays mode := by
  have hpeeks : (first [blank, newline, lit ";"]).Peeks .atomic _ :=
    ((peeks_text ' ').alt (peeks_text '\t')).alt (peeks_newline.alt (peeks_text ';'))
  have hchar := hpeeks.stays_anyBut ⟨by decide, by decide⟩
  have hopen : (absent (first [lit "\x22", lit "\x27"])).Stays .atomic := tracks_of_tame rfl
  exact (hopen.stays_seq (hchar.stays_seq (hchar.stays_star rfl))).rule

theorem tracks_textOperand :
    textOperand.Tracks (Cut fun x => x = '\x22' ∨ x = '\x27') mode := by
  refine tracks_string.cut_alt stays_word ?_ (fun _ => id) fun _ _ => False.elim
  rintro s ⟨x, hx, hquote⟩
  have hpeeks : (first [lit "\x22", lit "\x27"]).Peeks .atomic _ :=
    (peeks_text '\x22').alt (peeks_text '\x27')
  refine (hpeeks.rejects_absent ?_).seq.rule
  rw [Option.mem_def.mp hx]
  simpa using hquote

theorem tracks_sentinel : sentinel.Tracks (Cut (· = '/')) .atomic := by
  have hpeeks : (first [lit "/", blank, lit ";"]).Peeks .atomic _ :=
    (peeks_text '/').alt (((peeks_text ' ').alt (peeks_text '\t')).alt (peeks_text ';'))
  have hregex := tracks_between (q := '/') (by decide) hpeeks.tracks_plus
  have hnone : (lit "-").Stays .atomic := tracks_of_tame rfl
  have hlast : (lit "--").Stays .atomic := tracks_of_tame rfl
  refine hlast.alt ?_ (fun _ _ => False.elim) fun _ _ => id
  exact hnone.alt hregex (fun _ _ => False.elim) fun _ _ => id

/-- What may follow a pattern that is not a name. -/
theorem peeks_patternEnd : (first [blank, lit ";", endOfInput, newline]).Peeks mode fun y =>
    y = some ' ' || y = some '\t' ||
      (y = some ';' || (y.isNone || (y = some '\n' || y = some '\r'))) :=
  ((peeks_text ' ').alt (peeks_text '\t')).alt
    ((peeks_text ';').alt (peeks_endOfInput.alt peeks_newline))

theorem rejects_identifier {x : Char} {s : List Char} (hletter : x.isAlpha = false)
    (hlow : x ≠ '_') : identifier.Rejects mode (x :: s) := by
  refine Rejects.rule (Rejects.seq (.alt (rejects_one ?_) (rejects_text ?_)))
  · rintro y ⟨⟩
    exact hletter
  · simp [hlow.symm]

theorem tracks_pattern : pattern.Tracks (Cut (· = '/')) mode := by
  have hname : (seq identifier boundary).Stays .atomic := tracks_of_tame rfl
  have hsentinel := tracks_sentinel.cut_seq (peeks_patternEnd.stays_ahead ⟨by decide, by decide⟩)
  refine (hsentinel.cut_alt hname ?_ (fun _ => id) fun _ _ => False.elim).rule
  rintro s ⟨x, hx, rfl⟩
  obtain ⟨s, rfl⟩ := List.head?_eq_some_iff.mp hx
  exact (rejects_identifier (by decide) (by decide)).seq

/-- An option is not a pattern. -/
theorem rejects_pattern {s : List Char} : pattern.Rejects mode ('-' :: 'f' :: s) := by
  have hname : identifier.Rejects .atomic ('-' :: 'f' :: s) :=
    rejects_identifier (by decide) (by decide)
  have hother : (seq sentinel (ahead (first [blank, lit ";", endOfInput, newline]))).Rejects .atomic
      ('-' :: 'f' :: s) := by
    refine rejects_seq fun w ns u hmatched hs => ?_
    cases hmatched with
    | left h =>
        cases h
        cases hs
    | right _ h =>
        cases h with
        | left h =>
            cases h
            cases hs
            exact peeks_patternEnd.rejects_ahead rfl
        | right _ h =>
            cases h with
            | seq h _ _ =>
                cases h
                cases hs
  exact Rejects.rule (hother.alt hname.seq)

end Operands

/-! ## Objects and commands -/

section Commands

variable {mode : Mode}

theorem strict_of_tame {e : Expr} (he : e.tame) : e.Strict mode := (tracks_of_tame he).strict

theorem loose_of_tame {e : Expr} (he : e.tame) : e.Loose mode := (tracks_of_tame he).loose

theorem loose_shape : shape.Loose mode := by
  have hkind (k : ShapeKind) : (shapeWord k).Strict mode := strict_of_tame (by cases k <;> rfl)
  have hpattern : pattern.Strict mode := tracks_pattern.of_cut
  have htext : textOperand.Strict mode := tracks_textOperand.of_cut
  have hmore : (opt (seq number (opt placed))).Loose mode := loose_of_tame rfl
  have hcontent := (htext.strict_seq hmore).loose_opt
  refine loose_first ?_
  intro e he
  simp only [List.mem_cons, List.not_mem_nil, or_false] at he
  rcases he with rfl | rfl | rfl | rfl | rfl | rfl | rfl | rfl | rfl
  -- Only bitmaps, links and texts have operands that may run past the end of the line.
  all_goals try exact loose_of_tame rfl
  · exact (hkind .bitmap).strict_seq (htext.strict_seq (loose_of_tame rfl))
  · exact (hkind .link).strict_seq
      (hpattern.strict_seq (hpattern.strict_seq (loose_of_tame rfl)))
  · exact (hkind .text).strict_seq ((strict_of_tame rfl).strict_seq hcontent)

/-- One or more patterns, of which the last one may run past the end of the line. -/
theorem loose_patterns : (plus pattern).Loose mode :=
  tracks_pattern.of_cut.strict_seq (tracks_pattern.loose.loose_star rfl)

/-- Options of a spring layout. The line alone stops in front of an option whose text runs past
its end, and what is left of it is not a pattern. -/
theorem tracks_springOptions :
    (star (first [seq fillOption textOperand, seq turnOption number])).Tracks
      (fun _ r => ∃ u w, r = some u ∧ Mode.spaced.skipped u = '-' :: 'f' :: w) .spaced := by
  have hfill : (seq fillOption textOperand).Tracks
      (fun s r => r = none ∧ ∃ w, s = '-' :: 'f' :: w) .spaced := by
    have hoption : fillOption.Stays .spaced := tracks_of_tame rfl
    refine hoption.seq tracks_textOperand.of_cut (fun _ _ => False.elim) ?_
    rintro w u ns t r hmatched rfl
    cases hmatched with
    | silent houter => cases houter
    | rule _ _ hbody =>
        cases hbody with
        | seq htext hgap hend =>
            cases htext
            cases hgap
            cases hend
            exact ⟨rfl, _, rfl⟩
  have hcopy : (first [seq fillOption textOperand, seq turnOption number]).Tracks
      (fun s r => r = none ∧ ∃ w, s = '-' :: 'f' :: w) .spaced := by
    have hturn : (seq turnOption number).Stays .spaced := tracks_of_tame rfl
    refine hfill.alt hturn ?_ fun _ _ => False.elim
    rintro s r ⟨rfl, w, rfl⟩
    have hother : turnOption.Rejects .spaced ('-' :: 'f' :: w) :=
      (rejects_text (by simp)).seq.rule
    exact .inl ⟨⟨rfl, w, rfl⟩, hother.seq⟩
  refine hcopy.star rfl ?_
  rintro v r ⟨hr, w, rfl⟩ r' hlast
  obtain ⟨u, rfl, rfl | hu⟩ := hlast hr
  · exact ⟨_, w, rfl, rfl⟩
  · exact ⟨u, w, rfl, hu⟩

theorem loose_command (v : Verb) : (command v).Loose .spaced := by
  have hkeyword : (keyword v).Strict .spaced := strict_of_tame (by cases v <;> rfl)
  have hpattern : pattern.Strict .spaced := tracks_pattern.of_cut
  refine Tracks.rule ?_
  change (all (keyword v :: operands v)).Loose .spaced
  cases v
  case display | palette | sleep | wait => exact loose_of_tame rfl
  case alpha | animate | color | move | priority | resize | scale | shift =>
    exact hkeyword.strict_seq (hpattern.strict_seq (loose_of_tame rfl))
  case attach =>
    exact hkeyword.strict_seq (hpattern.strict_seq (hpattern.strict_seq (loose_of_tame rfl)))
  case define => exact hkeyword.strict_seq (hpattern.strict_seq loose_shape)
  case fade | fix | hide | kill | unhide => exact hkeyword.strict_seq loose_patterns
  case play => exact hkeyword.strict_seq tracks_textOperand.loose
  case spring =>
    have hregion : (opt region).Loose .spaced := loose_of_tame rfl
    have hrest := loose_patterns.loose_seq hregion (total_opt _ _)
    refine hkeyword.strict_seq (tracks_springOptions.seq hrest ?_ fun _ _ => trivial)
    rintro s r ⟨u, w, rfl, hu⟩
    refine .inl ⟨?_, trivial⟩
    rintro u' ⟨⟩
    rw [hu]
    exact rejects_pattern.seq.seq

end Commands

/-! ## Lines -/

/-- A comment that takes a whole line ends with it. -/
theorem stays_commentLine : commentLine.Stays .spaced := by
  have hpeeks : newline.Peeks .atomic _ := peeks_newline
  have hchar := hpeeks.stays_anyBut ⟨by decide, by decide⟩
  have hmark : (lit "#").Stays .atomic := tracks_of_tame rfl
  exact (hmark.stays_seq (hchar.stays_star rfl)).rule

theorem loose_comment : comment.Loose .spaced := by
  have hquotation : quotation.Tracks (Cut fun x => x = '\x22' ∨ x = '\x27') .atomic :=
    tracks_quotes (peeks_text _).tracks_star (peeks_text _).tracks_star
  have hpeeks : (first [lit ";", newline]).Peeks .atomic _ := (peeks_text ';').alt peeks_newline
  have hinside := hquotation.loose.loose_alt hpeeks.tracks_anyBut.loose
  exact ((strict_of_tame rfl).strict_seq (hinside.loose_star rfl)).rule

theorem loose_statement : statement.Loose .spaced := by
  refine loose_first ?_
  intro e he
  rcases List.mem_cons.mp he with rfl | he
  · exact loose_comment
  · obtain ⟨v, -, rfl⟩ := List.mem_map.mp he
    exact loose_command v

/-- The content of a line reads the same wherever the line stands, or is taken past its end. -/
theorem loose_lineBody : lineBody.Loose .spaced := by
  have hfirst : (opt statement).Loose .spaced := loose_statement.loose_opt
  have hmore : (star (seq (lit ";") (opt statement))).Loose .spaced :=
    ((strict_of_tame rfl).strict_seq hfirst).loose_star rfl
  exact stays_commentLine.loose.loose_alt (hfirst.loose_seq hmore (total_star _ _))

end Storyboard.Grammar
