import Storyboard.Proofs.Grammar.Weaving
import Storyboard.Proofs.Text
import Storyboard.Script.Lexer

/-!
# What tokens look like

The characters that a token may contain, and the character that it may begin with, are bounded
by calculations on its expression; from these follows how a reader of words, who knows nothing
of the grammar, sees the token. A string stands between two equal quotes; every other token is
free of spaces, tabs and semicolons and does not begin with a quote, and only the free texts
called words may begin with one of the rarer blanks.

Main results:

- Theorem `Matched.forall_chars`: the characters of a token are those its expression may take.
- Theorem `Matched.head_char`: so is its first character.
- Theorem `makes_isToken`: every operand of a command is a token in this sense.
-/

namespace Storyboard.Grammar

open Storyboard.Grammar.Expr

/-! ## Characters -/

/-- A character that neither separates nor quotes anything. -/
def ordinary (c : Char) : Bool := !Text.isBlank c && !Lexer.isQuote c && c ≠ ';'

/-- A character that may stand in a token without quotes. -/
def Inner (c : Char) : Prop := c ≠ ';' ∧ ¬ IsGap c

theorem ordinary_of_isAlphanum {c : Char} (h : c.isAlphanum) : ordinary c := by
  have hquote : Lexer.isQuote c = false := by
    rw [Bool.eq_false_iff]
    intro hc
    rcases (by simpa [Lexer.isQuote] using hc : c = '\x22' ∨ c = '\x27') with rfl | rfl
    · exact absurd h (by decide)
    · exact absurd h (by decide)
  have hsemicolon : c ≠ ';' := by
    rintro rfl
    exact absurd h (by decide)
  simp [ordinary, Text.not_isBlank_of_isAlphanum h, hquote, hsemicolon]

theorem inner_of_ordinary {c : Char} (h : ordinary c) : Inner c := by
  refine ⟨?_, ?_⟩
  · rintro rfl
    exact absurd h (by decide)
  · rintro (rfl | rfl)
    · exact absurd h (by decide)
    · exact absurd h (by decide)

/-- Only letters change when a character is put in lower case. -/
theorem ordinary_of_toLower {c : Char} (h : ordinary c.toLower) : ordinary c := by
  by_cases hc : 'A'.val ≤ c.val ∧ c.val ≤ 'Z'.val
  · have hupper : 65 ≤ c.toNat ∧ c.toNat ≤ 90 := by
      simpa [UInt32.le_iff_toNat_le] using hc
    exact ordinary_of_isAlphanum (Text.isAlphanum_iff.mpr (.inl hupper))
  · have hsame : c.toLower = c := dif_neg hc
    rwa [hsame] at h

/-- All classes but the first consist of letters and digits. -/
theorem CharClass.isAlphanum_of_contains {k : CharClass} {c : Char} (hk : k ≠ .any)
    (h : k.contains c) : c.isAlphanum := by
  cases k with
  | any => exact absurd rfl hk
  | digit => simp_all [CharClass.contains, Char.isAlphanum]
  | letter => simp_all [CharClass.contains, Char.isAlphanum]
  | alphanumeric => exact h
  | hexDigit =>
      have hrange : (48 ≤ c.toNat ∧ c.toNat ≤ 57) ∨ (97 ≤ c.toNat ∧ c.toNat ≤ 102) ∨
          (65 ≤ c.toNat ∧ c.toNat ≤ 70) := by
        simpa [CharClass.contains, Char.isDigit, Char.le_def, UInt32.le_iff_toNat_le, or_assoc]
          using h
      rw [Text.isAlphanum_iff]
      omega

theorem CharClass.ordinary_of_contains {k : CharClass} {c : Char} (hk : k ≠ .any)
    (h : k.contains c) : ordinary c :=
  ordinary_of_isAlphanum (isAlphanum_of_contains hk h)

/-! ## The characters of a token -/

namespace Expr

/-- Whether an expression takes at least one character. -/
def nonempty : Expr → Bool
  | text t | folded t => !t.isEmpty
  | one _ => true
  | seq a b => a.nonempty || b.nonempty
  | alt a b => a.nonempty && b.nonempty
  | rule _ _ a => a.nonempty
  | finish | opt _ | star _ | absent _ | ahead _ => false

/-- Every character that an atomic expression may take has a property. -/
def TakesOnly (P : Char → Prop) : Expr → Prop
  | text t => ∀ c ∈ t, P c
  | folded low => ∀ c, c.toLower ∈ low → P c
  | one k => ∀ c, k.contains c → P c
  | seq (absent a) (one .any) => ∀ c rest, a.Refused .atomic (c :: rest) → P c
  | seq a b | alt a b => a.TakesOnly P ∧ b.TakesOnly P
  | opt a | star a => a.TakesOnly P
  | rule _ style a => style ≠ .compound ∧ a.TakesOnly P
  | finish | absent _ | ahead _ => True

/-- Whether all characters that an atomic expression may take are ordinary. -/
def ordinaryOnly : Expr → Bool
  | text t | folded t => t.all ordinary
  | one k => k ≠ .any
  | seq a b | alt a b => a.ordinaryOnly && b.ordinaryOnly
  | opt a | star a => a.ordinaryOnly
  | rule _ style a => style ≠ .compound && a.ordinaryOnly
  | finish | absent _ | ahead _ => true

/-- Whether the first character that an atomic expression may take is ordinary. -/
def startsOrdinary : Expr → Bool
  | text t | folded t => t.head?.all ordinary
  | one k => k ≠ .any
  | seq a b => a.startsOrdinary && (a.nonempty || b.startsOrdinary)
  | alt a b => a.startsOrdinary && b.startsOrdinary
  | opt a | star a => a.startsOrdinary
  | rule _ style a => style ≠ .compound && a.startsOrdinary
  | finish | absent _ | ahead _ => true

theorem TakesOnly.mono {P Q : Char → Prop} (hPQ : ∀ c, P c → Q c) {e : Expr}
    (he : e.TakesOnly P) : e.TakesOnly Q := by
  induction e using TakesOnly.induct with
  | case1 t => exact fun c hc => hPQ c (he c hc)
  | case2 low => exact fun c hc => hPQ c (he c hc)
  | case3 k => exact fun c hc => hPQ c (he c hc)
  | case4 a => exact fun c rest hc => hPQ c (he c rest hc)
  | case5 a b hany iha ihb =>
      rw [TakesOnly] at he ⊢
      · exact ⟨iha he.1, ihb he.2⟩
      · exact hany
      · exact hany
  | case6 a b iha ihb => exact ⟨iha he.1, ihb he.2⟩
  | case7 a ih => exact ih he
  | case8 a ih => exact ih he
  | case9 r style a ih => exact ⟨he.1, ih he.2⟩
  | case10 => trivial
  | case11 a => trivial
  | case12 a => trivial

/-- The calculation on characters is right. -/
theorem takesOnly_of_ordinaryOnly {e : Expr} (he : e.ordinaryOnly) :
    e.TakesOnly fun c => ordinary c := by
  induction e using TakesOnly.induct with
  | case1 t => exact fun c hc => List.all_eq_true.mp he c hc
  | case2 low => exact fun c hc => ordinary_of_toLower (List.all_eq_true.mp he _ hc)
  | case3 k =>
      intro c hc
      exact CharClass.ordinary_of_contains (by simpa [ordinaryOnly] using he) hc
  | case4 a => cases he
  | case5 a b hany iha ihb =>
      rw [ordinaryOnly, Bool.and_eq_true] at he
      rw [TakesOnly]
      · exact ⟨iha he.1, ihb he.2⟩
      · exact hany
  | case6 a b iha ihb =>
      rw [ordinaryOnly, Bool.and_eq_true] at he
      exact ⟨iha he.1, ihb he.2⟩
  | case7 a ih => exact ih he
  | case8 a ih => exact ih he
  | case9 r style a ih =>
      rw [ordinaryOnly, Bool.and_eq_true, decide_eq_true_eq] at he
      exact ⟨he.1, ih he.2⟩
  | case10 => trivial
  | case11 a => trivial
  | case12 a => trivial

end Expr

theorem Matched.ne_nil {e : Expr} {mode : Mode} {t : List Char} {ns : List Node}
    {rest : List Char} (h : Matched e mode t ns rest) (he : e.nonempty) : t ≠ [] := by
  induction h with
  | text => simpa [Expr.nonempty] using he
  | folded hlow =>
      rintro rfl
      rw [← hlow] at he
      cases he
  | one => simp
  | seq _ _ _ ih₁ ih₂ =>
      rw [Expr.nonempty, Bool.or_eq_true] at he
      rcases he with he | he
      · simp [ih₁ he]
      · simp [ih₂ he]
  | left _ ih =>
      rw [Expr.nonempty, Bool.and_eq_true] at he
      exact ih he.1
  | right _ _ ih =>
      rw [Expr.nonempty, Bool.and_eq_true] at he
      exact ih he.2
  | silent _ _ ih => exact ih he
  | rule _ _ _ ih => exact ih he
  | finish | here | skip | stop | more | absent | ahead => cases he

/-- Inside an atomic rule nothing is skipped and no rule makes a node of its own. -/
theorem Style.atomic_of_ne {style : Style} (h : style ≠ .compound) :
    style.outer .atomic = .atomic ∧ style.inner .atomic = .atomic := by
  cases style with
  | inherited => exact ⟨rfl, rfl⟩
  | atomic => exact ⟨rfl, rfl⟩
  | compound => exact absurd rfl h

/-- What a negated expression before an arbitrary character says about the character. -/
theorem Matched.refused_of_anyBut {a : Expr} {t : List Char} {ns : List Node} {rest : List Char}
    (h : Matched (.seq (.absent a) (.one .any)) .atomic t ns rest) :
    ∃ x, t = [x] ∧ a.Refused .atomic (x :: rest) := by
  cases h with
  | seq habsent hb hone =>
      cases hb
      cases habsent with
      | absent hrefused =>
          cases hone with
          | one => exact ⟨_, rfl, hrefused⟩

/-- The characters that an atomic expression takes. -/
theorem Matched.forall_chars {P : Char → Prop} {e : Expr} {t : List Char} {ns : List Node}
    {rest : List Char} (h : Matched e .atomic t ns rest) (he : e.TakesOnly P) :
    ∀ c ∈ t, P c := by
  have happend : ∀ {t₁ t₂ b : List Char}, Mode.atomic.Gap b → (∀ c ∈ t₁, P c) →
      (∀ c ∈ t₂, P c) → ∀ c ∈ t₁ ++ (b ++ t₂), P c := by
    intro t₁ t₂ b hb h₁ h₂ c hc
    cases hb
    rcases List.mem_append.mp hc with hc | hc
    · exact h₁ c hc
    · exact h₂ c hc
  generalize hmode : Mode.atomic = mode at h
  induction h with
  | text => exact he
  | folded hlow =>
      intro c hc
      exact he c (hlow ▸ List.mem_map_of_mem hc)
  | one hk =>
      intro c hc
      rw [List.mem_singleton.mp hc]
      exact he _ hk
  | @seq _ e₁ e₂ t₁ t₂ ns₁ ns₂ b rest h₁ hb h₂ ih₁ ih₂ =>
      subst hmode
      by_cases hany : ∃ a, e₁ = .absent a ∧ e₂ = .one .any
      · obtain ⟨a, rfl, rfl⟩ := hany
        obtain ⟨x, hx, hrefused⟩ := (Matched.seq h₁ hb h₂).refused_of_anyBut
        rw [hx]
        intro c hc
        rw [List.mem_singleton.mp hc]
        exact he x rest hrefused
      · rw [Expr.TakesOnly] at he
        · exact happend hb (ih₁ he.1 rfl) (ih₂ he.2 rfl)
        · intro a h₁ h₂
          exact hany ⟨a, h₁, h₂⟩
  | left _ ih => exact ih he.1 hmode
  | right _ _ ih => exact ih he.2 hmode
  | here _ ih => exact ih he hmode
  | more _ hb _ ih₁ ih₂ =>
      subst hmode
      exact happend hb (ih₁ he rfl) (ih₂ he rfl)
  | silent _ _ ih =>
      subst hmode
      exact ih he.2 (Style.atomic_of_ne he.1).2.symm
  | rule _ houter _ ih =>
      subst hmode
      exact absurd (Style.atomic_of_ne he.1).1 houter
  | finish | skip | stop | absent | ahead =>
      intro c hc
      cases hc

/-- The first character that an atomic expression takes. -/
theorem Matched.ordinary_head {e : Expr} {t : List Char} {ns : List Node} {rest : List Char}
    (h : Matched e .atomic t ns rest) (he : e.startsOrdinary) :
    ∀ c ∈ t.head?, ordinary c := by
  have happend : ∀ {t₁ t₂ b : List Char}, Mode.atomic.Gap b → (∀ c ∈ t₁.head?, ordinary c) →
      (t₁ = [] → ∀ c ∈ t₂.head?, ordinary c) → ∀ c ∈ (t₁ ++ (b ++ t₂)).head?, ordinary c := by
    intro t₁ t₂ b hb h₁ h₂ c hc
    cases hb
    cases t₁ with
    | nil => exact h₂ rfl c hc
    | cons x t₁ => exact h₁ c hc
  generalize hmode : Mode.atomic = mode at h
  induction h with
  | text =>
      intro c hc
      rw [Expr.startsOrdinary, hc] at he
      exact he
  | @folded _ low t _ hlow =>
      intro c hc
      rw [Expr.startsOrdinary, ← hlow, List.head?_map, hc] at he
      exact ordinary_of_toLower he
  | one hk =>
      intro c hc
      cases hc
      exact CharClass.ordinary_of_contains (by simpa [Expr.startsOrdinary] using he) hk
  | seq h₁ hb _ ih₁ ih₂ =>
      subst hmode
      rw [Expr.startsOrdinary, Bool.and_eq_true, Bool.or_eq_true] at he
      refine happend hb (ih₁ he.1 rfl) ?_
      intro hnil
      rcases he.2 with hfirst | hsecond
      · exact absurd hnil (h₁.ne_nil hfirst)
      · exact ih₂ hsecond rfl
  | left _ ih =>
      rw [Expr.startsOrdinary, Bool.and_eq_true] at he
      exact ih he.1 hmode
  | right _ _ ih =>
      rw [Expr.startsOrdinary, Bool.and_eq_true] at he
      exact ih he.2 hmode
  | here _ ih => exact ih he hmode
  | more _ hb _ ih₁ ih₂ =>
      subst hmode
      exact happend hb (ih₁ he rfl) fun _ => ih₂ he rfl
  | silent _ _ ih =>
      subst hmode
      rw [Expr.startsOrdinary, Bool.and_eq_true, decide_eq_true_eq] at he
      exact ih he.2 (Style.atomic_of_ne he.1).2.symm
  | rule _ houter _ ih =>
      subst hmode
      rw [Expr.startsOrdinary, Bool.and_eq_true, decide_eq_true_eq] at he
      exact absurd (Style.atomic_of_ne he.1).1 houter
  | finish | skip | stop | absent | ahead =>
      intro c hc
      cases hc

/-! ## Operands -/

/-- A text between two equal quotes, which stands for what is between them. -/
structure Node.Quoted (n : Node) : Prop where
  is_string : n.rule = .string
  quotes : ∃ q inner, Lexer.isQuote q ∧ q ∉ inner ∧ n.text = q :: (inner ++ [q]) ∧
    n.argument = String.ofList inner

/-- A text that stands for itself. Only words may begin with a blank. -/
structure Node.Plain (n : Node) : Prop where
  not_string : n.rule ≠ .string
  ne_nil : n.text ≠ []
  inner : ∀ c ∈ n.text, Inner c
  unquoted : ∀ c ∈ n.text.head?, Lexer.isQuote c = false
  ordinary_head : n.rule ≠ .word → ∀ c ∈ n.text.head?, ordinary c
  /-- Keywords are the names of their verbs, in any letter case. -/
  keyword : ∀ v, n.rule = .keyword v → n.text.map Char.toLower = v.name.toList

/-- A keyword or an operand as a reader of words sees it. -/
def Node.IsToken (n : Node) : Prop := n.Quoted ∨ n.Plain

/-- What is not a string stands for its text. -/
theorem Node.argument_of_ne_string {n : Node} (h : n.rule ≠ .string) :
    n.argument = String.ofList n.text := by
  unfold Node.argument
  split
  · next hrule _ => exact absurd hrule h
  · rfl

theorem unquoted_of_ordinary {c : Char} (h : ordinary c) : Lexer.isQuote c = false := by
  simp only [ordinary, Bool.and_eq_true, Bool.not_eq_true'] at h
  exact h.1.2

theorem not_blank_of_ordinary {c : Char} (h : ordinary c) : Text.isBlank c = false := by
  simp only [ordinary, Bool.and_eq_true, Bool.not_eq_true'] at h
  exact h.1.1

section Operands

variable {r : Rule} {body : Expr} {t : List Char} {ns : List Node} {rest : List Char}
  {lineFeeds : Nat}

/-- A token with inner characters and an ordinary first one. -/
theorem plain_of_inner (hstring : r ≠ .string) (hne : body.nonempty)
    (hinner : body.TakesOnly Inner) (hhead : body.startsOrdinary)
    (h : Matched body .atomic t ns rest)
    (hkeyword : ∀ v, r = .keyword v → t.map Char.toLower = v.name.toList) :
    (Node.mk r lineFeeds t ns).Plain where
  not_string := hstring
  ne_nil := h.ne_nil hne
  inner := h.forall_chars hinner
  unquoted := fun c hc => unquoted_of_ordinary (h.ordinary_head hhead c hc)
  ordinary_head := fun _ => h.ordinary_head hhead
  keyword := hkeyword

/-- Rules all of whose characters are ordinary make tokens. -/
theorem makes_of_ordinary (hstring : r ≠ .string) (hkeyword : ∀ v, r ≠ .keyword v)
    (hne : body.nonempty) (hchars : body.ordinaryOnly) (hhead : body.startsOrdinary) :
    (Expr.rule r .atomic body).Makes Node.IsToken := by
  intro lineFeeds t ns rest h
  have hinner : body.TakesOnly Inner :=
    (Expr.takesOnly_of_ordinaryOnly hchars).mono fun c hc => inner_of_ordinary hc
  exact .inr (plain_of_inner hstring hne hinner hhead h fun v hv => absurd hv (hkeyword v))

end Operands

theorem makes_keyword (v : Verb) : (keyword v).Makes Node.IsToken := by
  intro lineFeeds t ns rest h
  have hname : v.name.toList ≠ [] ∧ v.name.toList.all ordinary := by
    cases v <;> decide
  have hhead : v.name.toList.head?.all ordinary := by
    cases v <;> decide
  refine .inr (plain_of_inner (by simp) ?_ ?_ ?_ h ?_)
  · simp [Expr.nonempty, hname.1]
  · refine ⟨?_, trivial⟩
    intro c hc
    exact inner_of_ordinary (ordinary_of_toLower (List.all_eq_true.mp hname.2 _ hc))
  · simp [Expr.startsOrdinary, Expr.nonempty, hhead]
  · intro v' hv
    cases hv
    cases h with
    | seq hfolded hb habsent =>
        cases hfolded with
        | folded hlow =>
            cases habsent
            cases hb
            rwa [List.append_nil, List.append_nil]

theorem makes_shapeWord (k : ShapeKind) : (shapeWord k).Makes Node.IsToken := by
  refine makes_of_ordinary (by simp) (by simp) ?_ ?_ ?_
  all_goals cases k <;> decide

/-- What a word or an expression goes on with is an inner character. -/
theorem inner_of_refused {c : Char} {t : List Char}
    (hblank : blank.Refused .atomic (c :: t)) (hend : (lit ";").Refused .atomic (c :: t)) :
    Inner c := by
  obtain ⟨hspace, htab⟩ := hblank.of_alt
  refine ⟨hend.ne_of_text, ?_⟩
  rintro (hc | hc)
  · exact hspace.ne_of_text hc
  · exact htab.ne_of_text hc

theorem makes_pattern : pattern.Makes Node.IsToken := by
  intro lineFeeds t ns rest h
  refine .inr (plain_of_inner (by simp) (by decide) ?_ (by decide) h (by simp))
  have hidentifier : identifier.TakesOnly Inner :=
    (Expr.takesOnly_of_ordinaryOnly (by decide)).mono fun c hc => inner_of_ordinary hc
  have hlit : ∀ s : String, s.toList.all ordinary → (lit s).TakesOnly Inner := by
    intro s hs c hc
    exact inner_of_ordinary (List.all_eq_true.mp hs c hc)
  have hregex : (anyBut (first [lit "/", blank, lit ";"])).TakesOnly Inner := by
    intro c u hrefused
    obtain ⟨-, hrest⟩ := hrefused.of_alt
    obtain ⟨hblank, hend⟩ := hrest.of_alt
    exact inner_of_refused hblank hend
  have hslashes : (all [lit "/", plus (anyBut (first [lit "/", blank, lit ";"])),
      lit "/"]).TakesOnly Inner :=
    ⟨hlit "/" (by decide), ⟨hregex, hregex⟩, hlit "/" (by decide)⟩
  exact ⟨⟨⟨hlit "--" (by decide), hlit "-" (by decide), hslashes⟩, trivial⟩, hidentifier, trivial⟩

theorem makes_word : word.Makes Node.IsToken := by
  intro lineFeeds t ns rest h
  have hany : (anyBut (first [blank, newline, lit ";"])).TakesOnly Inner := by
    intro c u hrefused
    obtain ⟨hblank, hrest⟩ := hrefused.of_alt
    obtain ⟨-, hend⟩ := hrest.of_alt
    exact inner_of_refused hblank hend
  have hquote : ∀ c ∈ t.head?, Lexer.isQuote c = false := by
    intro c hc
    cases h with
    | seq habsent hb _ =>
        cases hb
        cases habsent with
        | absent hrefused =>
            obtain ⟨u, rfl⟩ := List.head?_eq_some_iff.mp hc
            obtain ⟨hdouble, hsingle⟩ := hrefused.of_alt
            have hdouble : c ≠ '\x22' := hdouble.ne_of_text
            have hsingle : c ≠ '\x27' := hsingle.ne_of_text
            simp [Lexer.isQuote, hdouble, hsingle]
  exact .inr {
    not_string := by simp [Node.rule]
    ne_nil := h.ne_nil (by decide)
    inner := h.forall_chars ⟨trivial, hany, hany⟩
    unquoted := hquote
    ordinary_head := fun hword => absurd rfl hword
    keyword := by simp [Node.rule] }

/-- A rule between two equal quotes that takes everything but the quote. -/
theorem quoted_of_matched {q : Char} {r : Rule} {t : List Char} {ns : List Node}
    {rest : List Char} {lineFeeds : Nat} (hq : Lexer.isQuote q)
    (h : Matched (all [text [q], rule r .atomic (star (anyBut (text [q]))), text [q]])
      .compound t ns rest) : (Node.mk .string lineFeeds t ns).Quoted := by
  have hany : (anyBut (text [q])).TakesOnly (· ≠ q) := by
    intro c u hrefused
    exact hrefused.ne_of_text
  cases h with
  | seq hopen hb hrest =>
      cases hb
      cases hopen
      cases hrest with
      | seq hinner hb hclose =>
          cases hb
          cases hclose
          cases hinner with
          | silent houter => cases houter
          | rule _ _ hbody =>
              refine ⟨rfl, q, _, hq, ?_, rfl, rfl⟩
              intro hmem
              exact hbody.forall_chars hany q hmem rfl

theorem makes_string : string.Makes Node.IsToken := by
  intro lineFeeds t ns rest h
  cases h with
  | left h => exact .inl (quoted_of_matched rfl h)
  | right _ h => exact .inl (quoted_of_matched rfl h)

/-! ### Commands -/

theorem makes_number : number.Makes Node.IsToken :=
  makes_of_ordinary (by simp) (by simp) (by decide) (by decide) (by decide)

theorem makes_identifier : identifier.Makes Node.IsToken :=
  makes_of_ordinary (by simp) (by simp) (by decide) (by decide) (by decide)

theorem makes_reference : reference.Makes Node.IsToken :=
  makes_of_ordinary (by simp) (by simp) (by decide) (by decide) (by decide)

theorem makes_color : color.Makes Node.IsToken :=
  makes_of_ordinary (by simp) (by simp) (by decide) (by decide) (by decide)

theorem makes_position : position.Makes Node.IsToken :=
  ⟨⟨makes_number, makes_number⟩, makes_reference⟩

theorem makes_textOperand : textOperand.Makes Node.IsToken := ⟨makes_string, makes_word⟩

theorem makes_fillOption : fillOption.Makes Node.IsToken :=
  makes_of_ordinary (by simp) (by simp) (by decide) (by decide) (by decide)

theorem makes_turnOption : turnOption.Makes Node.IsToken :=
  makes_of_ordinary (by simp) (by simp) (by decide) (by decide) (by decide)

theorem makes_arrowOption : arrowOption.Makes Node.IsToken :=
  makes_of_ordinary (by simp) (by simp) (by decide) (by decide) (by decide)

theorem makes_alignOption : alignOption.Makes Node.IsToken :=
  makes_of_ordinary (by simp) (by simp) (by decide) (by decide) (by decide)

theorem makes_shape : shape.Makes Node.IsToken := by
  simp [shape, sized, stroked, placed, first, all, Makes, makes_shapeWord, makes_pattern,
    makes_number, makes_color, makes_position, makes_textOperand, makes_fillOption,
    makes_turnOption, makes_arrowOption, makes_alignOption]

/-- Keywords and operands of commands are tokens. -/
theorem makes_isToken (v : Verb) : (all (keyword v :: operands v)).Makes Node.IsToken := by
  cases v
  all_goals
    simp [operands, region, first, all, plus, Makes, makes_keyword, makes_pattern, makes_number,
      makes_color, makes_position, makes_identifier, makes_textOperand, makes_fillOption,
      makes_turnOption, makes_shape]

/-- A verb with its operands: the text is woven from the keyword and the tokens after it, and
no free text is followed by another text. -/
structure IsCommand (v : Verb) (t : List Char) (ns : List Node) : Prop where
  woven : Woven ns t
  tokens : ∀ n ∈ ns, n.IsToken
  keyword : ∃ kw ops, ns = kw :: ops ∧ kw.rule = .keyword v ∧ kw.text <+: t
  apart : ns.IsChain fun n m => n.rule = .word → m.rule ≠ .word ∧ m.rule ≠ .string

/-- A token that is not a string stands for itself. -/
theorem Node.IsToken.plain {n : Node} (h : n.IsToken) (hn : n.rule ≠ .string) : n.Plain := by
  rcases h with hquoted | hplain
  · exact absurd hquoted.is_string hn
  · exact hplain

/-- Tokens other than texts begin with an ordinary character. -/
theorem Node.Plain.exists_cons {n : Node} (h : n.Plain) (hn : n.rule ≠ .word) :
    ∃ c u, n.text = c :: u ∧ ordinary c := by
  obtain ⟨c, u, hc⟩ := List.exists_cons_of_ne_nil h.ne_nil
  exact ⟨c, u, hc, h.ordinary_head hn c (by rw [hc]; rfl)⟩

/-- What begins with a keyword makes its node first. -/
theorem keyword_first {v : Verb} {es : List Expr} {t : List Char} {ns : List Node}
    {rest : List Char} (h : Matched (all (Grammar.keyword v :: es)) .spaced t ns rest) :
    ∃ kw ops, ns = kw :: ops ∧ kw.rule = .keyword v ∧ kw.text <+: t := by
  have hnode : ∀ {t ns rest}, Matched (Grammar.keyword v) .spaced t ns rest →
      ∃ kw : Node, ns = [kw] ∧ kw.rule = .keyword v ∧ kw.text = t := by
    intro t ns rest h
    cases h with
    | silent houter => cases houter
    | rule lineFeeds _ _ => exact ⟨_, rfl, rfl, rfl⟩
  cases es with
  | nil =>
      obtain ⟨kw, rfl, hrule, rfl⟩ := hnode h
      exact ⟨kw, [], rfl, hrule, List.prefix_rfl⟩
  | cons e es =>
      cases h with
      | seq hkeyword _ _ =>
          obtain ⟨kw, rfl, hrule, rfl⟩ := hnode hkeyword
          exact ⟨kw, _, rfl, hrule, List.prefix_append _ _⟩

/-- What the body of a command rule takes is a command. -/
theorem isCommand_of_matched {v : Verb} {t : List Char} {ns : List Node} {rest : List Char}
    (h : Matched (all (Grammar.keyword v :: operands v)) .spaced t ns rest) :
    IsCommand v t ns where
  woven := h.woven (by cases v <;> decide)
  tokens := h.forall_nodes (makes_isToken v)
  keyword := keyword_first h
  apart := by
    have hpairs : ∀ p ∈ (all (Grammar.keyword v :: operands v)).pairs,
        p.1 = .word → p.2 ≠ .word ∧ p.2 ≠ .string := by
      cases v <;> decide
    exact h.rules_bounded.pairs.imp fun n m hnm => hpairs _ hnm

end Storyboard.Grammar
