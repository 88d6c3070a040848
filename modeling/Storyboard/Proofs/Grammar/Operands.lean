import Storyboard.Proofs.Grammar.Lines
import Storyboard.Script.Number
import Storyboard.Script.Options
import Storyboard.Script.Reference

/-!
# The arguments that a grammar spells

The arguments of a command are spelled by the operands of its verb: one argument for each rule
that is matched, in order, some of them optional and some of them repeated. What the argument of
a rule looks like to a reader that does not know the grammar follows from the expression of the
rule: which arguments are options, which are numbers, and which are names.

Main results:

- Definition `Expr.Spells`: the lists of arguments that an expression spells.
- Theorem `Matched.spells`: the nodes of a match are spelled by its expression.
- Theorem `spells_of_parseLine`: so are the arguments of every statement of an accepted line.
-/

namespace Storyboard.Grammar

open Storyboard.Grammar.Expr

/-! ## Spellings -/

/-- The lists of arguments that an expression spells where blanks are skipped. -/
def Expr.Spells : Expr → List String → Prop
  | rule r style body, args => ∃ lineFeeds t ns rest,
      Matched body (style.inner .spaced) t ns rest ∧ args = [(Node.mk r lineFeeds t ns).argument]
  | seq a b, args => ∃ front back, args = front ++ back ∧ a.Spells front ∧ b.Spells back
  | alt a b, args => a.Spells args ∨ b.Spells args
  | opt a, args => args = [] ∨ a.Spells args
  | star a, args => ∃ parts : List (List String), args = parts.flatten ∧ ∀ p ∈ parts, a.Spells p
  | text _, args | folded _, args | one _, args | finish, args | absent _, args
  | ahead _, args => args = []

/-- The nodes of a match are spelled by its expression. -/
theorem Matched.spells {e : Expr} {t : List Char} {ns : List Node} {rest : List Char}
    (h : Matched e .spaced t ns rest) : e.Spells (ns.map Node.argument) := by
  generalize hmode : Mode.spaced = mode at h
  induction h with
  | text | folded | one | finish | absent | ahead => rfl
  | seq _ _ _ ih₁ ih₂ => exact ⟨_, _, List.map_append, ih₁ hmode, ih₂ hmode⟩
  | left _ ih => exact .inl (ih hmode)
  | right _ _ ih => exact .inr (ih hmode)
  | here _ ih => exact .inr (ih hmode)
  | skip => exact .inl rfl
  | stop =>
      refine ⟨[], rfl, ?_⟩
      intro p hp
      cases hp
  | @more _ _ _ _ ns₁ ns₂ _ _ _ _ _ ih₁ ih₂ =>
      obtain ⟨parts, hparts, hall⟩ := ih₂ hmode
      refine ⟨ns₁.map Node.argument :: parts, ?_, List.forall_mem_cons.mpr ⟨ih₁ hmode, hall⟩⟩
      rw [List.map_append, hparts, List.flatten_cons]
  | @silent _ r style body t ns rest houter =>
      subst hmode
      cases style <;> cases houter
  | rule lineFeeds _ hbody =>
      subst hmode
      exact ⟨lineFeeds, _, _, _, hbody, rfl⟩

/-- What is optional may be left out. -/
theorem spells_opt_nil (e : Expr) : (opt e).Spells [] := .inl rfl

theorem spells_all_nil : (all []).Spells [] := rfl

/-! ### Single arguments -/

/-- The argument of an atomic rule is the text that its body takes. -/
theorem matched_of_spells {r : Rule} {body : Expr} {a : String} (hr : r ≠ .string)
    (h : (rule r .atomic body).Spells [a]) :
    ∃ ns rest, Matched body .atomic a.toList ns rest := by
  obtain ⟨lineFeeds, t, ns, rest, hbody, ha⟩ := h
  have hrule : (Node.mk r lineFeeds t ns).rule ≠ .string := hr
  rw [Node.argument_of_ne_string hrule, List.singleton_inj] at ha
  rw [ha]
  exact ⟨ns, rest, by rwa [String.toList_ofList]⟩

/-- What an expression spells is one argument. -/
def Expr.Single (e : Expr) : Prop := ∀ args, e.Spells args → ∃ a, args = [a]

namespace Expr.Single

variable {a b e : Expr}

theorem rule {r : Rule} {style : Style} {body : Expr} : (Expr.rule r style body).Single := by
  rintro args ⟨lineFeeds, t, ns, rest, -, rfl⟩
  exact ⟨_, rfl⟩

theorem alt (ha : a.Single) (hb : b.Single) : (Expr.alt a b).Single := by
  rintro args (h | h)
  · exact ha args h
  · exact hb args h

/-- One argument and what follows it. -/
theorem cons_of_seq (ha : a.Single) {args : List String} (h : (seq a e).Spells args) :
    ∃ x rest, args = x :: rest ∧ a.Spells [x] ∧ e.Spells rest := by
  obtain ⟨front, back, rfl, hfront, hback⟩ := h
  obtain ⟨x, rfl⟩ := ha front hfront
  exact ⟨x, back, rfl, hfront, hback⟩

end Expr.Single

/-! ## Names and numbers -/

/-- The two kinds of characters that a name may begin with. -/
theorem head_of_identifier {t : List Char} {ns : List Node} {rest : List Char}
    (h : Matched identifier .atomic t ns rest) : ∃ c u, t = c :: u ∧ (c.isAlpha ∨ c = '_') := by
  cases h with
  | rule _ houter => exact absurd rfl houter
  | silent _ hbody =>
      cases hbody with
      | seq hfirst hb _ =>
          cases hb
          cases hfirst with
          | left hletter =>
              cases hletter with
              | one hc => exact ⟨_, _, rfl, .inl hc⟩
          | right _ hunderscore =>
              cases hunderscore
              exact ⟨'_', _, rfl, .inr rfl⟩

/-- An expression that takes no sign takes a text without signs. -/
theorem countP_isSign_of_matched {e : Expr} {t : List Char} {ns : List Node} {rest : List Char}
    (h : Matched e .atomic t ns rest) (he : e.TakesOnly fun c => ¬ OffsetReference.isSign c) :
    t.countP OffsetReference.isSign = 0 :=
  List.countP_eq_zero.mpr (h.forall_chars he)

theorem not_isSign_of_isAlphanum {c : Char} (h : c.isAlphanum) : ¬ OffsetReference.isSign c := by
  intro hc
  rcases (by simpa [OffsetReference.isSign] using hc : c = '+' ∨ c = '-') with rfl | rfl
  · exact absurd h (by decide)
  · exact absurd h (by decide)

theorem takesOnly_one {k : CharClass} (hk : k ≠ .any) :
    (one k).TakesOnly fun c => ¬ OffsetReference.isSign c :=
  fun _ hc => not_isSign_of_isAlphanum (CharClass.isAlphanum_of_contains hk hc)

theorem takesOnly_text {x : Char} (hx : ¬ OffsetReference.isSign x) :
    (text [x]).TakesOnly fun c => ¬ OffsetReference.isSign c := by
  intro c hc
  rwa [List.mem_singleton.mp hc]

/-- At most one sign is in an exponent. -/
theorem countP_isSign_of_exponent {t : List Char} {ns : List Node} {rest : List Char}
    (h : Matched exponent .atomic t ns rest) : t.countP OffsetReference.isSign ≤ 1 := by
  have hdigit : (one .digit).TakesOnly fun c => ¬ OffsetReference.isSign c :=
    takesOnly_one (by decide)
  cases h with
  | @seq _ _ _ mark _ _ _ _ _ hmark hb htail =>
      cases hb
      have hmark : mark.countP OffsetReference.isSign = 0 :=
        countP_isSign_of_matched hmark ⟨takesOnly_text (by decide), takesOnly_text (by decide)⟩
      cases htail with
      | @seq _ _ _ sg ds _ _ _ _ hsign hb hdigits =>
          cases hb
          have hdigits : ds.countP OffsetReference.isSign = 0 :=
            countP_isSign_of_matched hdigits ⟨hdigit, hdigit⟩
          have hsign : sg.length ≤ 1 := by
            cases hsign with
            | skip => exact Nat.zero_le 1
            | here hsign =>
                cases hsign with
                | left hplus =>
                    cases hplus
                    exact Nat.le_refl 1
                | right _ hminus =>
                    cases hminus
                    exact Nat.le_refl 1
          have hcount : sg.countP OffsetReference.isSign ≤ sg.length := List.countP_le_length
          simp only [List.nil_append, List.countP_append]
          omega

/-- A number without its sign begins with a digit or a point, and no sign but that of an exponent
is in it. -/
theorem unsigned_of_matched {t : List Char} {ns : List Node} {rest : List Char}
    (h : Matched (first [hex, decimal]) .atomic t ns rest) :
    (∃ c u, t = c :: u ∧ (c.isDigit ∨ c = '.')) ∧ t.countP OffsetReference.isSign ≤ 1 := by
  have hdigit : (one .digit).TakesOnly fun c => ¬ OffsetReference.isSign c :=
    takesOnly_one (by decide)
  have hpoint : (lit ".").TakesOnly fun c => ¬ OffsetReference.isSign c :=
    takesOnly_text (by decide)
  cases h with
  | left hhex =>
      have hsigns : t.countP OffsetReference.isSign = 0 :=
        countP_isSign_of_matched hhex ⟨takesOnly_text (by decide),
          ⟨takesOnly_text (by decide), takesOnly_text (by decide)⟩,
          takesOnly_one (by decide), takesOnly_one (by decide)⟩
      cases hhex with
      | seq hzero hb _ =>
          cases hb
          cases hzero
          exact ⟨⟨'0', _, rfl, .inl (by decide)⟩, by omega⟩
  | right _ hdecimal =>
      cases hdecimal with
      | @seq _ _ _ m ex _ _ _ _ hmantissa hb hexponent =>
          cases hb
          have hsigns : m.countP OffsetReference.isSign = 0 :=
            countP_isSign_of_matched hmantissa
              ⟨⟨⟨hdigit, hdigit⟩, hpoint, hdigit⟩, hpoint, hdigit, hdigit⟩
          have hexponent : ex.countP OffsetReference.isSign ≤ 1 := by
            cases hexponent with
            | skip => exact Nat.zero_le 1
            | here hexponent => exact countP_isSign_of_exponent hexponent
          refine ⟨?_, by simp only [List.nil_append, List.countP_append]; omega⟩
          cases hmantissa with
          | left hwhole =>
              cases hwhole with
              | seq hdigits hb _ =>
                  cases hb
                  cases hdigits with
                  | seq hfirst hb _ =>
                      cases hb
                      cases hfirst with
                      | one hc => exact ⟨_, _, rfl, .inl hc⟩
          | right _ hfraction =>
              cases hfraction with
              | seq hdot hb _ =>
                  cases hb
                  cases hdot
                  exact ⟨'.', _, rfl, .inr rfl⟩

/-- A number is a number without sign after an optional sign. -/
theorem number_of_spells {a : String} (h : number.Spells [a]) :
    ∃ sg body, a.toList = sg ++ body ∧ (sg = [] ∨ sg = ['-'] ∨ sg = ['+']) ∧
      (∃ c u, body = c :: u ∧ (c.isDigit ∨ c = '.')) ∧
      body.countP OffsetReference.isSign ≤ 1 := by
  obtain ⟨ns, rest, hmatched⟩ := matched_of_spells (by decide) h
  generalize a.toList = t at hmatched ⊢
  cases hmatched with
  | @seq _ _ _ sg _ _ _ _ _ hsign hb htail =>
      cases hb
      cases htail with
      | @seq _ _ _ body _ _ _ _ _ hbody hb hboundary =>
          cases hb
          cases hboundary
          obtain ⟨hhead, hcount⟩ := unsigned_of_matched hbody
          refine ⟨sg, body, by simp, ?_, hhead, hcount⟩
          cases hsign with
          | skip => exact .inl rfl
          | here hsign =>
              cases hsign with
              | left hminus =>
                  cases hminus
                  exact .inr (.inl rfl)
              | right _ hplus =>
                  cases hplus
                  exact .inr (.inr rfl)

/-! ### Arguments for other readers -/

/-- Two offsets need two signs. -/
theorem two_le_countP_of_offsets? {t : List Char} {p : Float × Float}
    (h : OffsetReference.offsets? t = some p) : 2 ≤ t.countP OffsetReference.isSign := by
  unfold OffsetReference.offsets? at h
  split at h
  · cases h
  · next s₁ rest =>
    split at h
    · next hs₁ =>
      simp only at h
      split at h
      · cases h
      · next s₂ second hdrop =>
        have hs₂ : OffsetReference.isSign s₂ := by
          have hhead := List.head?_dropWhile_not (fun c => !OffsetReference.isSign c) rest
          rw [hdrop] at hhead
          simpa using hhead
        have hrest : rest =
            rest.takeWhile (fun c => !OffsetReference.isSign c) ++ s₂ :: second := by
          rw [← hdrop, List.takeWhile_append_dropWhile]
        have hsecond : 1 ≤ rest.countP OffsetReference.isSign := by
          rw [hrest, List.countP_append, List.countP_cons_of_pos hs₂]
          omega
        rw [List.countP_cons_of_pos hs₁]
        omega
    · cases h

/-- A number is not a name with offsets. -/
theorem offsetReference_of_number {a : String} (h : number.Spells [a]) :
    OffsetReference.ofToken? a = none := by
  obtain ⟨sg, body, ha, hsign, -, hcount⟩ := number_of_spells h
  unfold OffsetReference.ofToken? OffsetReference.ofChars?
  rw [ha]
  rcases hsign with rfl | rfl | rfl
  · simp only [List.nil_append]
    split
    · rfl
    · have hnone : OffsetReference.offsets? (body.dropWhile OffsetReference.isNameChar) = none := by
        rw [Option.eq_none_iff_forall_ne_some]
        intro p hp
        have htwo := two_le_countP_of_offsets? hp
        have hle : (body.dropWhile OffsetReference.isNameChar).countP OffsetReference.isSign ≤
            body.countP OffsetReference.isSign :=
          (List.dropWhile_sublist _).countP_le
        omega
      rw [hnone]
      rfl
  · rfl
  · rfl

theorem body?_eq_none {a : String} {c : Char} {u : List Char} (ha : a.toList = c :: u)
    (hc : c ≠ '-') : Options.body? a = none := by
  unfold Options.body?
  rw [ha]
  split
  · next heq =>
    cases heq
    exact absurd rfl hc
  · rfl

theorem ne_of_digit_or_point {c : Char} (h : c.isDigit ∨ c = '.') : c ≠ '-' ∧ ¬ c.isAlpha := by
  rcases h with h | rfl
  · refine ⟨?_, Text.not_isAlpha_of_isDigit h⟩
    rintro rfl
    exact absurd h (by decide)
  · decide

/-- A number is not an option. -/
theorem body?_of_number {a : String} (h : number.Spells [a]) : Options.body? a = none := by
  obtain ⟨sg, body, ha, hsign, ⟨c, u, rfl, hc⟩, -⟩ := number_of_spells h
  obtain ⟨hminus, hletter⟩ := ne_of_digit_or_point hc
  rcases hsign with rfl | rfl | rfl
  · exact body?_eq_none ha hminus
  · unfold Options.body?
    rw [ha]
    exact if_neg hletter
  · exact body?_eq_none ha (by decide)

theorem ne_of_letter_or_underscore {c : Char} (h : c.isAlpha ∨ c = '_') :
    c ≠ '-' ∧ c ≠ '+' ∧ c ≠ '.' ∧ ¬ c.isDigit := by
  have hne : ∀ x : Char, ¬ (x.isAlpha ∨ x = '_') → c ≠ x := by
    rintro x hx rfl
    exact hx h
  refine ⟨hne '-' (by decide), hne '+' (by decide), hne '.' (by decide), ?_⟩
  intro hdigit
  rcases h with h | rfl
  · exact Text.not_isAlpha_of_isDigit hdigit h
  · exact absurd hdigit (by decide)

/-- A text that begins like a name has no value. -/
theorem unsigned?_of_head {c : Char} {u : List Char} (hc : c.isAlpha ∨ c = '_') :
    Number.unsigned? (c :: u) = none := by
  obtain ⟨-, -, hpoint, hdigit⟩ := ne_of_letter_or_underscore hc
  have hhex : Number.hexBody? (c :: u) = none := by
    unfold Number.hexBody?
    split
    · next heq =>
      cases heq
      exact absurd rfl hdigit
    · next heq =>
      cases heq
      exact absurd rfl hdigit
    · rfl
  have hdecimal : Decimal.unsigned? (c :: u) = none := by
    unfold Decimal.unsigned?
    simp only [List.takeWhile_cons_of_neg hdigit, List.dropWhile_cons_of_neg hdigit]
    split
    · next heq =>
      cases heq
      exact absurd rfl hpoint
    · rfl
  unfold Number.unsigned?
  rw [hhex]
  simp [hdecimal]

/-- What begins like a name is not a number. -/
theorem isNumber_of_head {a : String} {c : Char} {u : List Char} (ha : a.toList = c :: u)
    (hc : c.isAlpha ∨ c = '_') (hblank : ∀ x ∈ a.toList, Text.isBlank x = false) :
    Number.isNumber a = false := by
  obtain ⟨hminus, hplus, -, -⟩ := ne_of_letter_or_underscore hc
  have hnone : Number.ofToken? a = none := by
    unfold Number.ofToken? Number.ofChars?
    rw [Text.trim_eq_self hblank, ha]
    split
    · next heq =>
      cases heq
      exact absurd rfl hminus
    · next heq =>
      cases heq
      exact absurd rfl hplus
    · exact unsigned?_of_head hc
  rw [Number.isNumber, hnone]
  rfl

/-- A name with or without offsets begins like a name, and no blanks are in it. -/
theorem reference_of_spells {a : String} (h : reference.Spells [a]) :
    (∃ c u, a.toList = c :: u ∧ (c.isAlpha ∨ c = '_')) ∧
      ∀ x ∈ a.toList, Text.isBlank x = false := by
  obtain ⟨ns, rest, hmatched⟩ := matched_of_spells (by decide) h
  have hordinary := hmatched.forall_chars (Expr.takesOnly_of_ordinaryOnly (by decide))
  refine ⟨?_, fun x hx => not_blank_of_ordinary (hordinary x hx)⟩
  generalize a.toList = t at hmatched ⊢
  cases hmatched with
  | seq hname hb _ =>
      cases hb
      obtain ⟨c, u, rfl, hc⟩ := head_of_identifier hname
      exact ⟨c, _, rfl, hc⟩

/-- A name is not an option. -/
theorem body?_of_reference {a : String} (h : reference.Spells [a]) : Options.body? a = none := by
  obtain ⟨⟨c, u, ha, hc⟩, -⟩ := reference_of_spells h
  exact body?_eq_none ha (ne_of_letter_or_underscore hc).1

/-- A name is not a number. -/
theorem isNumber_of_reference {a : String} (h : reference.Spells [a]) :
    Number.isNumber a = false := by
  obtain ⟨⟨c, u, ha, hc⟩, hblank⟩ := reference_of_spells h
  exact isNumber_of_head ha hc hblank

/-- A pattern is not an option. -/
theorem body?_of_pattern {a : String} (h : pattern.Spells [a]) : Options.body? a = none := by
  obtain ⟨ns, rest, hmatched⟩ := matched_of_spells (by decide) h
  generalize ht : a.toList = t at hmatched
  cases hmatched with
  | left hsentinel =>
      cases hsentinel with
      | seq hsentinel hb hahead =>
          cases hb
          cases hahead
          cases hsentinel with
          | left htwo =>
              cases htwo
              unfold Options.body?
              rw [ht]
              rfl
          | right _ hother =>
              cases hother with
              | left hone =>
                  cases hone
                  unfold Options.body?
                  rw [ht]
                  rfl
              | right _ hslashes =>
                  cases hslashes with
                  | seq hslash hb _ =>
                      cases hslash
                      exact body?_eq_none ht (by decide)
  | right _ hname =>
      cases hname with
      | seq hname hb _ =>
          cases hb
          obtain ⟨c, u, rfl, hc⟩ := head_of_identifier hname
          exact body?_eq_none ht (ne_of_letter_or_underscore hc).1

/-! ### Options -/

/-- A rule that takes nothing but one text. -/
theorem eq_of_literal {r : Rule} {text : String} {e : Expr} {a : String} (hr : r ≠ .string)
    (h : (rule r .atomic (seq (lit text) (absent e))).Spells [a]) : a = text := by
  obtain ⟨ns, rest, hmatched⟩ := matched_of_spells hr h
  generalize ht : a.toList = t at hmatched
  cases hmatched with
  | seq htext hb habsent =>
      cases hb
      cases habsent
      cases htext
      rw [List.append_nil, List.append_nil] at ht
      exact String.toList_inj.mp ht

/-- The option that names a frame colour or a layout tool. -/
theorem eq_of_fillOption {a : String} (h : fillOption.Spells [a]) : a = "-f" :=
  eq_of_literal (by decide) h

/-- The option that gives an angle. -/
theorem eq_of_turnOption {a : String} (h : turnOption.Spells [a]) : a = "-r" :=
  eq_of_literal (by decide) h

/-- A minus sign and one or more letters that an expression takes. -/
theorem body?_of_matched {e : Expr} {P : Char → Prop} (he : e.TakesOnly P) (hne : e.nonempty)
    (hP : ∀ c, P c → c.isAlpha) {a : String} {ns : List Node} {rest : List Char}
    (h : Matched (all [lit "-", plus e, absent wordChar]) .atomic a.toList ns rest) :
    ∃ body, Options.body? a = some body ∧ ∀ c ∈ body, P c := by
  generalize ht : a.toList = t at h
  cases h with
  | seq hminus hb htail =>
      cases hb
      cases hminus
      cases htail with
      | @seq _ _ _ body _ _ _ _ _ hletters hb habsent =>
          cases hb
          cases habsent
          have hplus : (plus e).TakesOnly P := by
            simp [plus, Expr.TakesOnly, he]
          have hbody : ∀ c ∈ body, P c := hletters.forall_chars hplus
          have hnil : body ≠ [] := hletters.ne_nil (by simp [plus, Expr.nonempty, hne])
          obtain ⟨c, u, rfl⟩ := List.exists_cons_of_ne_nil hnil
          refine ⟨c :: u, ?_, hbody⟩
          have htext : a.toList = '-' :: c :: u := by
            rw [ht]
            simp
          unfold Options.body?
          rw [htext]
          exact if_pos (hP c (hbody c List.mem_cons_self))

/-- The letters of the option that asks for arrowheads. -/
theorem body?_of_arrowOption {a : String} (h : arrowOption.Spells [a]) :
    ∃ body, Options.body? a = some body ∧ ∀ c ∈ body, c ∈ ['h', 't'] := by
  obtain ⟨ns, rest, hmatched⟩ := matched_of_spells (by decide) h
  have hletters : (first [lit "h", lit "t"]).TakesOnly (· ∈ ['h', 't']) := by
    simp [first, lit, Expr.TakesOnly]
  have halpha : ∀ c ∈ ['h', 't'], c.isAlpha := by
    simp
  exact body?_of_matched hletters (by decide) halpha hmatched

/-- The letters of the option that aligns a text. -/
theorem body?_of_alignOption {a : String} (h : alignOption.Spells [a]) :
    ∃ body, Options.body? a = some body ∧ ∀ c ∈ body, c ∈ ['l', 'c', 'r'] := by
  obtain ⟨ns, rest, hmatched⟩ := matched_of_spells (by decide) h
  have hletters : (first [lit "l", lit "c", lit "r"]).TakesOnly (· ∈ ['l', 'c', 'r']) := by
    simp [first, lit, Expr.TakesOnly]
  have halpha : ∀ c ∈ ['l', 'c', 'r'], c.isAlpha := by
    simp
  exact body?_of_matched hletters (by decide) halpha hmatched

/-- The type word of a shape kind selects the kind. -/
theorem ofWord?_of_shapeWord {k : ShapeKind} {a : String} (h : (shapeWord k).Spells [a]) :
    ShapeKind.ofWord? a.toList = some k := by
  obtain ⟨ns, rest, hmatched⟩ := matched_of_spells (by simp) h
  generalize a.toList = t at hmatched ⊢
  cases hmatched with
  | seq hfolded hb habsent =>
      cases hb
      cases habsent
      cases hfolded with
      | folded hname =>
          unfold ShapeKind.ofWord?
          rw [List.append_nil, List.append_nil, hname]
          cases k <;> decide

/-! ## Operands that are no options -/

/-- What an expression spells begins with an argument that is no option. -/
def Expr.Unflagged (e : Expr) : Prop :=
  ∀ args, e.Spells args → ∃ a rest, args = a :: rest ∧ Options.body? a = none

namespace Expr.Unflagged

theorem of_rule {r : Rule} {style : Style} {body : Expr}
    (h : ∀ a, (Expr.rule r style body).Spells [a] → Options.body? a = none) :
    (Expr.rule r style body).Unflagged := by
  intro args hargs
  obtain ⟨a, rfl⟩ := Single.rule args hargs
  exact ⟨a, [], rfl, h a hargs⟩

theorem seq {a b : Expr} (ha : a.Unflagged) : (Expr.seq a b).Unflagged := by
  rintro args ⟨front, back, rfl, hfront, -⟩
  obtain ⟨x, rest, rfl, hx⟩ := ha front hfront
  exact ⟨x, rest ++ back, rfl, hx⟩

theorem alt {a b : Expr} (ha : a.Unflagged) (hb : b.Unflagged) : (Expr.alt a b).Unflagged := by
  rintro args (h | h)
  · exact ha args h
  · exact hb args h

end Expr.Unflagged

theorem unflagged_number : number.Unflagged := .of_rule fun _ => body?_of_number

theorem unflagged_pattern : pattern.Unflagged := .of_rule fun _ => body?_of_pattern

theorem unflagged_position : position.Unflagged :=
  .alt unflagged_number.seq (.of_rule fun _ => body?_of_reference)

/-! ## Shapes -/

/-- The options and operands after a type word. -/
def shapeOperands : ShapeKind → Expr
  | .bitmap => seq textOperand (opt position)
  | .box | .ellipse => seq (opt (seq fillOption color)) sized
  | .line | .wire => seq (opt arrowOption) stroked
  | .link => all [pattern, pattern, opt (seq number (opt color))]
  | .polygon => seq (star (first [seq fillOption color, seq turnOption number])) sized
  | .spline => seq (opt arrowOption) (opt (seq position stroked))
  | .text => seq (opt alignOption) (opt (seq textOperand (opt (seq number (opt placed)))))

theorem shape_eq : shape = first (ShapeKind.all.map fun k => seq (shapeWord k) (shapeOperands k)) :=
  rfl

/-- The alternative that is spelled. -/
theorem exists_of_spells_first {es : List Expr} {args : List String} (hes : es ≠ [])
    (h : (first es).Spells args) : ∃ e ∈ es, e.Spells args := by
  induction es with
  | nil => exact absurd rfl hes
  | cons e es ih =>
      cases es with
      | nil => exact ⟨e, List.mem_cons_self, h⟩
      | cons e' es =>
          rcases h with h | h
          · exact ⟨e, List.mem_cons_self, h⟩
          · obtain ⟨e'', he, hspells⟩ := ih (by simp) h
            exact ⟨e'', List.mem_cons_of_mem e he, hspells⟩

/-- A shape is a type word with its options and operands. -/
theorem exists_of_shape {args : List String} (h : shape.Spells args) :
    ∃ k word rest, args = word :: rest ∧ ShapeKind.ofWord? word.toList = some k ∧
      (shapeOperands k).Spells rest := by
  rw [shape_eq] at h
  obtain ⟨e, he, hspells⟩ := exists_of_spells_first (by simp [ShapeKind.all]) h
  obtain ⟨k, -, rfl⟩ := List.mem_map.mp he
  obtain ⟨word, rest, rfl, hword, hrest⟩ := Single.rule.cons_of_seq hspells
  exact ⟨k, word, rest, rfl, ofWord?_of_shapeWord hword, hrest⟩

/-! ## Statements -/

/-- What a node of a command has been matched by. -/
def Node.IsMatched (n : Node) : Prop :=
  ∀ v, n.rule = .command v →
    ∃ t rest, Matched (all (keyword v :: operands v)) .spaced t n.children rest

theorem makes_first {P : Node → Prop} {es : List Expr} (h : ∀ e ∈ es, e.Makes P) :
    (first es).Makes P := by
  induction es with
  | nil => trivial
  | cons e es ih =>
      cases es with
      | nil => exact h e List.mem_cons_self
      | cons e' es =>
          exact ⟨h e List.mem_cons_self, ih fun e he => h e (List.mem_cons_of_mem _ he)⟩

/-- Only the rules of commands make commands. -/
theorem makes_statement : statement.Makes Node.IsMatched := by
  apply makes_first
  intro e he
  rcases List.mem_cons.mp he with rfl | he
  · intro lineFeeds t ns rest _ v hv
    cases hv
  · obtain ⟨w, -, rfl⟩ := List.mem_map.mp he
    intro lineFeeds t ns rest hbody v hv
    cases hv
    exact ⟨t, rest, hbody⟩

theorem makes_lineBody : lineBody.Makes Node.IsMatched := by
  refine ⟨?_, makes_statement, trivial, makes_statement⟩
  intro lineFeeds t ns rest _ v hv
  cases hv

/-- The arguments after the keyword are spelled by the operands. -/
theorem spells_drop_keyword {v : Verb} {args : List String}
    (h : (all (keyword v :: operands v)).Spells args) :
    (all (operands v)).Spells (args.drop 1) := by
  cases hops : operands v with
  | nil =>
      rw [hops] at h
      obtain ⟨kw, rfl⟩ := Single.rule args h
      rfl
  | cons e es =>
      rw [hops] at h
      obtain ⟨kw, rest, rfl, -, hrest⟩ := Single.rule.cons_of_seq h
      exact hrest

/-- The arguments of every statement of an accepted line are spelled by the operands of its
verb. -/
theorem spells_of_parseLine {number : Nat} {text : List Char} {stmts : List Statement}
    (h : parseLine number text = .ok stmts) {stmt : Statement} (hstmt : stmt ∈ stmts) :
    (all (operands stmt.verb)).Spells stmt.args := by
  obtain ⟨ns, b, t, b', rfl, -, -, -, hbody⟩ := lineBody_of_parseLine h
  obtain ⟨n, hn, hstatement⟩ := List.mem_filterMap.mp hstmt
  unfold Node.statement? at hstatement
  split at hstatement
  · next v hrule =>
    cases hstatement
    obtain ⟨u, rest, hmatched⟩ := hbody.forall_nodes makes_lineBody n hn v hrule
    have hdrop := spells_drop_keyword hmatched.spells
    rwa [← List.map_drop] at hdrop
  · cases hstatement

end Storyboard.Grammar
