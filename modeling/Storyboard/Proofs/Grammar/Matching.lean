import Storyboard.Grammar.Parse

/-!
# Derivations of matches

The matcher walks a text with a cursor and keeps a record of failures. What it accepts is
described here without either: a derivation says which text an expression takes, which nodes it
makes of it, and which text is left. Choices that are not the first carry the refusal of the
ones before them, so that what an expression cannot take is known as well.

Main results:

- Definition `Matched`: the derivations.
- Theorem `Expr.matched_of_run`: every match of the matcher has a derivation.
- Theorem `matched_of_match?`: so does every text that is accepted as a whole.
-/

namespace Storyboard.Grammar

/-! ## Derivations -/

/-- The matcher refuses an expression at some cursor in front of the text. -/
def Expr.Refused (e : Expr) (mode : Mode) (text : List Char) : Prop :=
  ∃ c a, c.rest = text ∧ (e.run mode c a).2 = none

/-- A space or a tab. -/
def IsGap (c : Char) : Prop := c = ' ' ∨ c = '\t'

/-- What may stand between the parts of a sequence. -/
def Mode.Gap : Mode → List Char → Prop
  | .spaced, b => ∀ c ∈ b, IsGap c
  | _, b => b = []

/-- An expression takes a text in some context, makes nodes of it, and leaves another text. -/
inductive Matched : Expr → Mode → List Char → List Node → List Char → Prop
  | text {mode t rest} : Matched (.text t) mode t [] rest
  | folded {mode low t rest} : t.map Char.toLower = low → Matched (.folded low) mode t [] rest
  | one {mode k x rest} : k.contains x → Matched (.one k) mode [x] [] rest
  | finish {mode} : Matched .finish mode [] [] []
  | seq {mode e₁ e₂ t₁ t₂ ns₁ ns₂ b rest} :
      Matched e₁ mode t₁ ns₁ (b ++ (t₂ ++ rest)) → mode.Gap b → Matched e₂ mode t₂ ns₂ rest →
      Matched (.seq e₁ e₂) mode (t₁ ++ (b ++ t₂)) (ns₁ ++ ns₂) rest
  | left {mode e₁ e₂ t ns rest} :
      Matched e₁ mode t ns rest → Matched (.alt e₁ e₂) mode t ns rest
  | right {mode e₁ e₂ t ns rest} :
      e₁.Refused mode (t ++ rest) → Matched e₂ mode t ns rest →
      Matched (.alt e₁ e₂) mode t ns rest
  | here {mode e t ns rest} : Matched e mode t ns rest → Matched (.opt e) mode t ns rest
  | skip {mode e rest} : e.Refused mode rest → Matched (.opt e) mode [] [] rest
  | stop {mode e rest} : Matched (.star e) mode [] [] rest
  | more {mode e t₁ t₂ ns₁ ns₂ b rest} :
      Matched e mode t₁ ns₁ (b ++ (t₂ ++ rest)) → mode.Gap b →
      Matched (.star e) mode t₂ ns₂ rest →
      Matched (.star e) mode (t₁ ++ (b ++ t₂)) (ns₁ ++ ns₂) rest
  | absent {mode e rest} : e.Refused mode rest → Matched (.absent e) mode [] [] rest
  | ahead {mode e rest} : Matched (.ahead e) mode [] [] rest
  | silent {mode r style body t ns rest} :
      style.outer mode = .atomic → Matched body (style.inner mode) t ns rest →
      Matched (.rule r style body) mode t [] rest
  | rule {mode r style body t ns rest} (lineFeeds : Nat) :
      style.outer mode ≠ .atomic → Matched body (style.inner mode) t ns rest →
      Matched (.rule r style body) mode t [.mk r lineFeeds t ns] rest

/-! ## Matches have derivations -/

theorem Cursor.rest_of_take? {fold : Char → Char} {t : List Char} {c c' : Cursor}
    (h : c.take? fold t = some c') : ∃ u, u.map fold = t ∧ c.rest = u ++ c'.rest := by
  induction t generalizing c with
  | nil =>
      cases h
      exact ⟨[], rfl, rfl⟩
  | cons x t ih =>
      unfold Cursor.take? at h
      split at h
      · next y rest hrest =>
        split at h
        · next hy =>
          obtain ⟨u, hu, hc⟩ := ih h
          have hadvance : rest = u ++ c'.rest := hc
          exact ⟨y :: u, by rw [List.map_cons, hy, hu], by rw [hrest, hadvance, List.cons_append]⟩
        · cases h
      · cases h

/-- Skipping goes over blanks that the context allows. -/
theorem Mode.rest_skip (mode : Mode) (c : Cursor) :
    ∃ b, mode.Gap b ∧ c.rest = b ++ (mode.skip c).rest := by
  cases mode with
  | spaced =>
      let blank (x : Char) : Bool := x = ' ' || x = '\t'
      refine ⟨c.rest.takeWhile blank, ?_, List.takeWhile_append_dropWhile.symm⟩
      intro x hx
      have hblank : blank x = true := List.all_eq_true.mp (List.all_takeWhile) x hx
      simpa [blank, IsGap] using hblank
  | compound => exact ⟨[], rfl, rfl⟩
  | atomic => exact ⟨[], rfl, rfl⟩

theorem Mode.gap_nil (mode : Mode) : mode.Gap [] := by
  cases mode with
  | spaced =>
      intro c hc
      cases hc
  | compound => rfl
  | atomic => rfl

/-- The text between a cursor and a later one is what was taken. -/
theorem Cursor.upTo_eq {c c' : Cursor} {t : List Char} (h : c.rest = t ++ c'.rest) :
    c.upTo c' = t := by
  unfold Cursor.upTo
  rw [h, List.length_append, Nat.add_sub_cancel, List.take_left]

/-- Whatever a matcher takes is derived from an expression. -/
def Derived (e : Expr) (mode : Mode) (f : Cursor → Attempts → Outcome) : Prop :=
  ∀ c a c' ns, (f c a).2 = some (c', ns) →
    ∃ t, c.rest = t ++ c'.rest ∧ Matched e mode t ns c'.rest

/-- What further copies take after the first is a gap and a repetition. -/
theorem matched_of_repeatMatch {e : Expr} {mode : Mode} {f : Cursor → Attempts → Outcome}
    (hf : Derived e mode f) (fuel : Nat) (c : Cursor) (a : Attempts) :
    ∃ b t, mode.Gap b ∧ c.rest = b ++ (t ++ (repeatMatch f mode.skip fuel c a).2.1.rest) ∧
      Matched (.star e) mode t (repeatMatch f mode.skip fuel c a).2.2
        (repeatMatch f mode.skip fuel c a).2.1.rest := by
  induction fuel generalizing c a with
  | zero => exact ⟨[], [], mode.gap_nil, rfl, .stop⟩
  | succ fuel ih =>
      unfold repeatMatch
      obtain ⟨b, hb, hskip⟩ := mode.rest_skip c
      split
      · exact ⟨[], [], mode.gap_nil, rfl, .stop⟩
      · next a' c' ns hrun =>
        have hcopy : (f (mode.skip c) a).2 = some (c', ns) := by rw [hrun]
        obtain ⟨t₁, ht₁, hmatched⟩ := hf _ _ _ _ hcopy
        obtain ⟨b', t₂, hb', hrest, hmore⟩ := ih c' a'
        refine ⟨b, t₁ ++ (b' ++ t₂), hb, ?_, .more (hrest ▸ hmatched) hb' hmore⟩
        rw [hskip, ht₁, hrest]
        simp only [List.append_assoc]

/-- Every match of the matcher has a derivation. -/
theorem Expr.matched_of_run (e : Expr) (mode : Mode) : Derived e mode (e.run mode) := by
  induction e generalizing mode with
  | text t =>
      intro c a c' ns h
      obtain ⟨c'', htake, hpair⟩ := Option.map_eq_some_iff.mp h
      cases hpair
      obtain ⟨u, hu, hrest⟩ := Cursor.rest_of_take? htake
      rw [List.map_id] at hu
      exact ⟨u, hrest, hu ▸ .text⟩
  | folded low =>
      intro c a c' ns h
      obtain ⟨c'', htake, hpair⟩ := Option.map_eq_some_iff.mp h
      cases hpair
      obtain ⟨u, hu, hrest⟩ := Cursor.rest_of_take? htake
      exact ⟨u, hrest, .folded hu⟩
  | one k =>
      intro c a c' ns h
      unfold Expr.run at h
      split at h
      · next x rest hrest =>
        simp only at h
        split at h
        · next hk =>
          cases h
          exact ⟨[x], hrest, .one hk⟩
        · cases h
      · cases h
  | finish =>
      intro c a c' ns h
      unfold Expr.run at h
      simp only at h
      split at h
      · next hempty =>
        cases h
        rw [List.isEmpty_iff] at hempty
        refine ⟨[], rfl, ?_⟩
        rw [hempty]
        exact .finish
      · cases h
  | seq e₁ e₂ ih₁ ih₂ =>
      intro c a c' ns h
      unfold Expr.run at h
      split at h
      · cases h
      · next a₁ c₁ ns₁ h₁ =>
        split at h
        · cases h
        · next a₂ c₂ ns₂ h₂ =>
          cases h
          obtain ⟨t₁, ht₁, hm₁⟩ := ih₁ mode c a _ _ (by rw [h₁])
          obtain ⟨b, hb, hskip⟩ := mode.rest_skip c₁
          obtain ⟨t₂, ht₂, hm₂⟩ := ih₂ mode (mode.skip c₁) a₁ _ _ (by rw [h₂])
          rw [ht₂] at hskip
          rw [hskip] at ht₁ hm₁
          refine ⟨t₁ ++ (b ++ t₂), ?_, .seq hm₁ hb hm₂⟩
          rw [ht₁]
          simp only [List.append_assoc]
  | alt e₁ e₂ ih₁ ih₂ =>
      intro c a c' ns h
      unfold Expr.run at h
      split at h
      · next a₁ result h₁ =>
        cases h
        obtain ⟨t, ht, hm⟩ := ih₁ mode c a _ _ (by rw [h₁])
        exact ⟨t, ht, .left hm⟩
      · next a₁ h₁ =>
        obtain ⟨t, ht, hm⟩ := ih₂ mode _ _ _ _ h
        exact ⟨t, ht, .right ⟨c, a, ht, by rw [h₁]⟩ hm⟩
  | opt e ih =>
      intro c a c' ns h
      unfold Expr.run at h
      split at h
      · next a₁ result h₁ =>
        cases h
        obtain ⟨t, ht, hm⟩ := ih mode c a _ _ (by rw [h₁])
        exact ⟨t, ht, .here hm⟩
      · next a₁ h₁ =>
        cases h
        exact ⟨[], rfl, .skip ⟨c, a, rfl, by rw [h₁]⟩⟩
  | star e ih =>
      intro c a c' ns h
      unfold Expr.run at h
      split at h
      · cases h
        exact ⟨[], rfl, .stop⟩
      · next a₁ c₁ ns₁ h₁ =>
        obtain ⟨t₁, ht₁, hm₁⟩ := ih mode c a _ _ (by rw [h₁])
        obtain ⟨b, t₂, hb, hrest, hm₂⟩ :=
          matched_of_repeatMatch (ih mode) (c₁.rest.length + 1) c₁ a₁
        generalize repeatMatch (e.run mode) mode.skip (c₁.rest.length + 1) c₁ a₁ = last
          at h hrest hm₂
        cases h
        rw [hrest] at ht₁ hm₁
        refine ⟨t₁ ++ (b ++ t₂), ?_, .more hm₁ hb hm₂⟩
        rw [ht₁]
        simp only [List.append_assoc]
  | absent e ih =>
      intro c a c' ns h
      unfold Expr.run at h
      split at h
      · cases h
      · next a₁ h₁ =>
        cases h
        exact ⟨[], rfl, .absent ⟨c, a, rfl, by rw [h₁]⟩⟩
  | ahead e ih =>
      intro c a c' ns h
      unfold Expr.run at h
      split at h
      · cases h
        exact ⟨[], rfl, .ahead⟩
      · cases h
  | rule r style body ih =>
      intro c a c' ns h
      unfold Expr.run at h
      simp only at h
      split at h
      · cases h
      · next a₁ c₁ ns₁ h₁ =>
        obtain ⟨t, ht, hm⟩ := ih (style.inner mode) c a _ _ (by rw [h₁])
        split at h
        · next houter =>
          cases h
          exact ⟨t, ht, .silent houter hm⟩
        · next houter =>
          cases h
          rw [Cursor.upTo_eq ht]
          exact ⟨t, ht, .rule c.lineFeeds houter hm⟩

/-! ## Refusals -/

namespace Expr.Refused

variable {a b e : Expr} {mode : Mode} {t : List Char}

/-- A choice is refused only if both alternatives are. -/
theorem of_alt (h : (Expr.alt a b).Refused mode t) : a.Refused mode t ∧ b.Refused mode t := by
  obtain ⟨c, att, hc, hrun⟩ := h
  unfold Expr.run at hrun
  split at hrun
  · cases hrun
  · next att' ha => exact ⟨⟨c, att, hc, by rw [ha]⟩, ⟨c, att', hc, hrun⟩⟩

/-- A sequence is refused only if its first part is, or its second one somewhere after it. -/
theorem of_seq (h : (Expr.seq a b).Refused mode t) :
    a.Refused mode t ∨ ∃ u, b.Refused mode u := by
  obtain ⟨c, att, hc, hrun⟩ := h
  unfold Expr.run at hrun
  split at hrun
  · next att' ha => exact .inl ⟨c, att, hc, by rw [ha]⟩
  · next att' c' ns ha =>
    split at hrun
    · next att'' hb => exact .inr ⟨_, mode.skip c', att', rfl, by rw [hb]⟩
    · cases hrun

/-- A repetition is never refused. -/
theorem not_star : ¬ (Expr.star e).Refused mode t := by
  rintro ⟨c, att, hc, hrun⟩
  unfold Expr.run at hrun
  split at hrun
  · cases hrun
  · cases hrun

/-- A rule is refused only if its body is. -/
theorem of_rule {r : Rule} {style : Style} (h : (Expr.rule r style e).Refused mode t) :
    e.Refused (style.inner mode) t := by
  obtain ⟨c, att, hc, hrun⟩ := h
  unfold Expr.run at hrun
  simp only at hrun
  split at hrun
  · next att' he => exact ⟨c, att, hc, by rw [he]⟩
  · split at hrun
    · cases hrun
    · cases hrun

/-- A refused character is not the next one. -/
theorem ne_of_text {x c : Char} (h : (Expr.text [x]).Refused mode (c :: t)) : c ≠ x := by
  obtain ⟨cur, att, hcur, hrun⟩ := h
  rintro rfl
  simp [Expr.run, Cursor.take?, hcur] at hrun

end Expr.Refused

/-! ## Whole texts -/

/-- A text that is accepted as a whole has a derivation. -/
theorem matched_of_match? {e : Expr} {text : List Char} {ns : List Node}
    (h : match? e text = .ok ns) :
    ∃ t rest, text = t ++ rest ∧ Matched e .spaced t ns rest := by
  unfold match? at h
  split at h
  · next a c ns' hrun =>
    cases h
    obtain ⟨t, ht, hm⟩ := e.matched_of_run .spaced (.start text) .none _ _ (by rw [hrun])
    exact ⟨t, c.rest, ht, hm⟩
  · cases h

end Storyboard.Grammar
