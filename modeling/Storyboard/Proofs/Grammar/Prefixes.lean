import Storyboard.Proofs.Grammar.Runs

/-!
# Reading a line where it stands

A line may be matched alone, or where it stands in a longer text, with a line separator after it.
Expressions that never take a line separator and look at one as they look at the end of the text
come to the same in both cases. Texts between delimiters do not stop at the end of the line; an
expression with such a text may run past it, and then the line alone is refused by it or left
unread where the text begins.

Main results:

- Definition `Expr.Tracks`: the ways in which the two readings are related.
- Theorems `Expr.Tracks.seq`, `Expr.Tracks.alt`, `Expr.Tracks.star` and others: how the relation is
  composed.
- Theorem `Expr.tracks_of_tame`: most expressions never run past the end of a line.
-/

namespace Storyboard.Grammar

open Storyboard.Grammar.Expr

/-! ## Two readings -/

/-- Nodes of the same rules and texts, which may stand in different lines. -/
inductive Node.Copy : Node → Node → Prop
  | mk {r m n t cs ds} : List.Forall₂ Node.Copy cs ds → Node.Copy (.mk r m t cs) (.mk r n t ds)

/-- Two readings of a line, the first where the text `t` follows it and the second alone. They
come to the same, or the first one runs past the end of the line; then something is known of what
the second one leaves, if it does not fail. Nodes of the first reading are made in line `k`. -/
inductive Alike (k : Nat) (t : List Char) (lost : Option (List Char) → Prop) :
    Option (Cursor × List Node) → Option (Cursor × List Node) → Prop
  | refused : Alike k t lost none none
  | taken {u c d ns ms} : c.rest = u ++ t → d.rest = u → c.lineFeeds = k →
      List.Forall₂ (fun n m => n.lineFeeds = k ∧ n.Copy m) ns ms →
      Alike k t lost (some (c, ns)) (some (d, ms))
  | passed {c ns r} : c.rest.length < t.length → lost (r.map fun x => x.1.rest) →
      Alike k t lost (some (c, ns)) r

namespace Alike

variable {k : Nat} {s t : List Char} {c d : Cursor} {ns ms : List Node}
  {lost lost' : Option (List Char) → Prop} {r r' : Option (Cursor × List Node)}

theorem mono (h : Alike k t lost r r') (hlost : ∀ x, lost x → lost' x) :
    Alike k t lost' r r' := by
  cases h with
  | refused => exact .refused
  | taken hc hd hk hns => exact .taken hc hd hk hns
  | passed hlt hx => exact .passed hlt (hlost _ hx)

/-- Copies in front of what is read. -/
theorem append (h : Alike k t lost r r')
    (hns : List.Forall₂ (fun n m => n.lineFeeds = k ∧ n.Copy m) ns ms) :
    Alike k t lost (r.map fun x => (x.1, ns ++ x.2)) (r'.map fun x => (x.1, ms ++ x.2)) := by
  cases h with
  | refused => exact .refused
  | taken hc hd hk hms => exact .taken hc hd hk (List.rel_append hns hms)
  | passed hlt hx =>
      refine .passed hlt ?_
      rw [Option.map_map]
      exact hx

/-- What is taken after the end of the line has been passed is past it as well. -/
theorem past (hpast : c.rest.length < t.length)
    (hle : ∀ x, r = some x → x.1.rest.length ≤ c.rest.length) (hnone : r = none → r' = none)
    (hlost : lost (r'.map fun x => x.1.rest)) :
    Alike k t lost (r.map fun x => (x.1, ns ++ x.2)) r' := by
  cases r with
  | none =>
      rw [hnone rfl]
      exact .refused
  | some x => exact .passed (Nat.lt_of_le_of_lt (hle x rfl) hpast) hlost

/-- A first copy and those after it. If the first one runs past the end of the line and refuses the
line alone, nothing of it is taken there. -/
theorem firstCopy {more more' : Cursor → Cursor × List Node} (h : Alike k t lost r r')
    (hc : c.rest = s ++ t) (hd : d.rest = s) (hk : c.lineFeeds = k)
    (hmore : ∀ {c₁ d₁ u ns ms}, r = some (c₁, ns) → r' = some (d₁, ms) → c₁.rest = u ++ t →
      d₁.rest = u → Alike c₁.lineFeeds t lost' (some (more c₁)) (some (more' d₁)))
    (hle : ∀ c₁, (more c₁).1.rest.length ≤ c₁.rest.length)
    (hover : ∀ x, lost x → ∀ x', (x = none → x' = some s) → lost' x') :
    Alike k t lost' (some (firstCopy c more r)) (some (firstCopy d more' r')) := by
  cases h with
  | refused => exact .taken hc hd hk .nil
  | taken hc₁ hd₁ hk₁ hns =>
      have hrest := hmore rfl rfl hc₁ hd₁
      rw [hk₁] at hrest
      exact hrest.append hns
  | @passed c₁ ns r' hlt hlost =>
      refine .passed (Nat.lt_of_le_of_lt (hle c₁) hlt) (hover _ hlost _ fun hnone => ?_)
      cases r' with
      | none => exact congrArg some hd
      | some x => cases hnone

end Alike

namespace Expr

/-- The readings of every line by an expression are alike. `lost s` says what the expression makes
of the line `s` alone if it runs past its end otherwise. -/
def Tracks (lost : List Char → Option (List Char) → Prop) (e : Expr) (mode : Mode) : Prop :=
  ∀ (s t : List Char) (c d : Cursor) (att att' : Attempts), EndsLine t → '\n' ∉ s →
    c.rest = s ++ t → d.rest = s →
    Alike c.lineFeeds t (lost s) (e.run mode c att).2 (e.run mode d att').2

/-- An expression that never runs past the end of a line. -/
abbrev Stays (e : Expr) (mode : Mode) : Prop := e.Tracks (fun _ _ => False) mode

/-- An expression that refuses every line that it may run past the end of. -/
abbrev Strict (e : Expr) (mode : Mode) : Prop := e.Tracks (fun _ r => r = none) mode

/-- An expression of which nothing is known if it runs past the end of a line. -/
abbrev Loose (e : Expr) (mode : Mode) : Prop := e.Tracks (fun _ _ => True) mode

/-- An expression refuses a text wherever it stands. -/
def Rejects (e : Expr) (mode : Mode) (s : List Char) : Prop :=
  ∀ (c : Cursor) (att : Attempts), c.rest = s → (e.run mode c att).2 = none

/-- An expression is never refused. -/
def Total (e : Expr) (mode : Mode) : Prop :=
  ∀ (c : Cursor) (att : Attempts), (e.run mode c att).2 ≠ none

variable {lost lost₁ lost₂ : List Char → Option (List Char) → Prop} {e e₁ e₂ : Expr} {mode : Mode}

theorem total_opt (e : Expr) (mode : Mode) : (opt e).Total mode := by
  intro c att
  rw [run_opt]
  exact Option.some_ne_none _

theorem total_star (e : Expr) (mode : Mode) : (star e).Total mode :=
  fun c att h => Refused.not_star ⟨c, att, rfl, h⟩

theorem Total.seq (h₁ : e₁.Total mode) (h₂ : e₂.Total mode) : (Expr.seq e₁ e₂).Total mode := by
  intro c att h
  rw [run_seq] at h
  obtain ⟨r₁, hr₁⟩ := Option.ne_none_iff_exists'.mp (h₁ c att)
  rw [hr₁, Option.bind_some, Option.map_eq_none_iff] at h
  exact h₂ _ _ h

theorem Total.alt (h₂ : e₂.Total mode) : (Expr.alt e₁ e₂).Total mode := by
  intro c att h
  rw [run_alt, Option.or_eq_none_iff] at h
  exact h₂ _ _ h.2

namespace Tracks

theorem mono (h : e.Tracks lost₁ mode) (hlost : ∀ s r, lost₁ s r → lost₂ s r) :
    e.Tracks lost₂ mode :=
  fun s t c d att att' ht hs hc hd => (h s t c d att att' ht hs hc hd).mono (hlost s)

theorem strict (h : e.Stays mode) : e.Strict mode := h.mono fun _ _ => False.elim

theorem loose (h : e.Tracks lost mode) : e.Loose mode := h.mono fun _ _ _ => trivial

/-! ## Compositions -/

/-- One expression after another. If the first one runs past the end of the line, the line alone
has to be refused, or the second one to go on from wherever the first one stops. -/
theorem seq (h₁ : e₁.Tracks lost₁ mode) (h₂ : e₂.Tracks lost₂ mode)
    (hover₁ : ∀ s r, lost₁ s r →
      (∀ u, r = some u → e₂.Rejects mode (mode.skipped u)) ∧ lost s none ∨
        e₂.Total mode ∧ ∀ r', lost s r')
    (hover₂ : ∀ {w u ns t r}, Matched e₁ mode w ns (u ++ t) → lost₂ (mode.skipped u) r →
      lost (w ++ u) r) : (Expr.seq e₁ e₂).Tracks lost mode := by
  intro s t c d att att' ht hs hc hd
  rw [run_seq, run_seq]
  have hfirst := h₁ s t c d att att' ht hs hc hd
  generalize hr : (e₁.run mode c att).2 = r at hfirst
  generalize hr' : (e₁.run mode d att').2 = r' at hfirst
  cases hfirst with
  | refused => exact .refused
  | @taken u c₁ d₁ ns ms hc₁ hd₁ hk hns =>
      obtain ⟨w, hw, hmatched⟩ := e₁.matched_of_run mode c att c₁ ns hr
      have hsu : s = w ++ u := by
        rw [hc, hc₁, ← List.append_assoc] at hw
        exact List.append_cancel_right hw
      have hu : '\n' ∉ u := hd₁ ▸ not_mem_rest_of_run hr' (hd ▸ hs)
      have hrest : (mode.skip c₁).rest = mode.skipped u ++ t := by
        rw [mode.rest_skip_eq, hc₁, mode.skipped_append ht]
      have hrest' : (mode.skip d₁).rest = mode.skipped u := by rw [mode.rest_skip_eq, hd₁]
      have hsecond := h₂ _ _ _ _ (e₁.run mode c att).1 (e₁.run mode d att').1 ht
        (mode.not_mem_skipped hu) hrest hrest'
      rw [mode.lineFeeds_skip, hk] at hsecond
      rw [hc₁] at hmatched
      subst hsu
      exact (hsecond.mono fun _ => hover₂ hmatched).append hns
  | @passed c₁ ns r' hlt hlost =>
      -- Past the end of the line, the second expression does not come back to it.
      have hle : ∀ x, (e₂.run mode (mode.skip c₁) (e₁.run mode c att).1).2 = some x →
          x.1.rest.length ≤ c₁.rest.length :=
        fun x hx => (length_le_of_run hx).trans (mode.length_skip_le c₁)
      rcases hover₁ s _ hlost with ⟨hrejects, hnone⟩ | ⟨htotal, hany⟩
      · have halone : (r'.bind fun r₁ =>
            (e₂.run mode (mode.skip r₁.1) (e₁.run mode d att').1).2.map fun r₂ =>
              (r₂.1, r₁.2 ++ r₂.2)) = none := by
          cases r' with
          | none => rfl
          | some r₁ =>
              have hreject := hrejects r₁.1.rest rfl (mode.skip r₁.1) (e₁.run mode d att').1
                (mode.rest_skip_eq r₁.1)
              simp [hreject]
        rw [halone]
        exact .past hlt hle (fun _ => rfl) hnone
      · exact .past hlt hle (fun hrefused => absurd hrefused (htotal _ _)) (hany _)

theorem stays_seq (h₁ : e₁.Stays mode) (h₂ : e₂.Stays mode) : (Expr.seq e₁ e₂).Stays mode :=
  h₁.seq h₂ (fun _ _ => False.elim) fun _ => False.elim

/-- A choice. If the first alternative runs past the end of the line and refuses the line alone,
the second one has to refuse it, too. -/
theorem alt (h₁ : e₁.Tracks lost₁ mode) (h₂ : e₂.Tracks lost₂ mode)
    (hover₁ : ∀ s r, lost₁ s r → lost s r ∧ e₂.Rejects mode s ∨ ∀ r', lost s r')
    (hover₂ : ∀ s r, lost₂ s r → lost s r) : (Expr.alt e₁ e₂).Tracks lost mode := by
  intro s t c d att att' ht hs hc hd
  rw [run_alt, run_alt]
  have hfirst := h₁ s t c d att att' ht hs hc hd
  have hsecond := h₂ s t c d (e₁.run mode c att).1 (e₁.run mode d att').1 ht hs hc hd
  generalize (e₁.run mode c att).2 = r at hfirst ⊢
  generalize hr' : (e₁.run mode d att').2 = r' at hfirst ⊢
  cases hfirst with
  | refused => exact hsecond.mono (hover₂ s)
  | taken hc₁ hd₁ hk hns => exact .taken hc₁ hd₁ hk hns
  | passed hlt hlost =>
      refine .passed hlt ?_
      rcases hover₁ s _ hlost with ⟨hr, hrejects⟩ | hany
      · rw [hrejects d _ hd, Option.or_none]
        exact hr
      · exact hany _

/-- What may be there or not. -/
theorem opt (h : e.Tracks lost₁ mode)
    (hover : ∀ s r, lost₁ s r → lost s (some (r.getD s))) : (Expr.opt e).Tracks lost mode := by
  intro s t c d att att' ht hs hc hd
  rw [run_opt, run_opt]
  have hsame := h s t c d att att' ht hs hc hd
  generalize (e.run mode c att).2 = r at hsame ⊢
  generalize (e.run mode d att').2 = r' at hsame ⊢
  cases hsame with
  | refused => exact .taken hc hd rfl .nil
  | taken hc₁ hd₁ hk hns => exact .taken hc₁ hd₁ hk hns
  | passed hlt hlost =>
      refine .passed hlt ?_
      have hrest := hover s _ hlost
      cases r' with
      | none => simpa [hd] using hrest
      | some x => simpa using hrest

/-- Further copies in both readings. If one of them runs past the end of the line and refuses what
is left of the line alone, this is what the line alone is left with. -/
theorem copies (he : e.nonempty) (h : e.Tracks lost₁ mode) {last : Option (List Char) → Prop}
    (hover : ∀ v r, lost₁ v r →
      ∀ r', (r = none → ∃ u, r' = some u ∧ (u = v ∨ mode.skipped u = v)) → last r')
    {fuel fuel' : Nat} {s t : List Char} {c d : Cursor} {att att' : Attempts} (ht : EndsLine t)
    (hs : '\n' ∉ s) (hc : c.rest = s ++ t) (hd : d.rest = s) (hfuel : c.rest.length < fuel)
    (hfuel' : d.rest.length < fuel') :
    Alike c.lineFeeds t last (some (repeatMatch (e.run mode) mode.skip fuel c att).2)
      (some (repeatMatch (e.run mode) mode.skip fuel' d att').2) := by
  induction fuel generalizing fuel' s c d att att' with
  | zero => omega
  | succ fuel ih =>
      obtain ⟨fuel', rfl⟩ : ∃ n, fuel' = n + 1 := ⟨fuel' - 1, by omega⟩
      have hrest : (mode.skip c).rest = mode.skipped s ++ t := by
        rw [mode.rest_skip_eq, hc, mode.skipped_append ht]
      have hrest' : (mode.skip d).rest = mode.skipped s := by rw [mode.rest_skip_eq, hd]
      have hs' := mode.not_mem_skipped hs
      have hcopy := h _ _ _ _ att att' ht hs' hrest hrest'
      rw [mode.lineFeeds_skip] at hcopy
      rw [repeatMatch_succ, repeatMatch_succ]
      refine hcopy.firstCopy hc hd rfl ?_ (fun _ => length_repeatMatch_le fuel) ?_
      · intro c₁ d₁ u ns ms hr hr' hc₁ hd₁
        have hu : '\n' ∉ u := hd₁ ▸ not_mem_rest_of_run hr' (hrest' ▸ hs')
        have hlt := length_lt_of_run he hr
        have hlt' := length_lt_of_run he hr'
        have hle := mode.length_skip_le c
        have hle' := mode.length_skip_le d
        exact ih hu hc₁ hd₁ (by omega) (by omega)
      · exact fun r hr r' hr' => hover _ r hr r' fun hnone => ⟨s, hr' hnone, .inr rfl⟩

/-- Repetitions. -/
theorem star (he : e.nonempty) (h : e.Tracks lost₁ mode) {last : Option (List Char) → Prop}
    (hover : ∀ v r, lost₁ v r →
      ∀ r', (r = none → ∃ u, r' = some u ∧ (u = v ∨ mode.skipped u = v)) → last r') :
    (Expr.star e).Tracks (fun _ => last) mode := by
  intro s t c d att att' ht hs hc hd
  rw [run_star, run_star]
  have hcopy := h s t c d att att' ht hs hc hd
  refine hcopy.firstCopy hc hd rfl ?_ (fun _ => length_repeatMatch_le _) ?_
  · intro c₁ d₁ u ns ms hr hr' hc₁ hd₁
    have hu : '\n' ∉ u := hd₁ ▸ not_mem_rest_of_run hr' (hd ▸ hs)
    exact copies he h hover ht hu hc₁ hd₁ (Nat.lt_succ_self _) (Nat.lt_succ_self _)
  · exact fun r hr r' hr' => hover _ r hr r' fun hnone => ⟨s, hr' hnone, .inl rfl⟩

theorem stays_star (he : e.nonempty) (h : e.Stays mode) : (Expr.star e).Stays mode :=
  h.star he fun _ _ => False.elim

/-- Rules. -/
theorem rule {r : Rule} {style : Style} (h : e.Tracks lost (style.inner mode)) :
    (Expr.rule r style e).Tracks lost mode := by
  intro s t c d att att' ht hs hc hd
  rw [run_rule, run_rule]
  have hbody := h s t c d att att' ht hs hc hd
  generalize hr : (e.run (style.inner mode) c att).2 = b at hbody
  generalize hr' : (e.run (style.inner mode) d att').2 = b' at hbody
  cases hbody with
  | refused => exact .refused
  | @taken u c₁ d₁ ns ms hc₁ hd₁ hk hns =>
      obtain ⟨w, hw, -⟩ := e.matched_of_run _ _ _ _ _ hr
      obtain ⟨w', hw', -⟩ := e.matched_of_run _ _ _ _ _ hr'
      have hsame : w = w' := by
        rw [hd, hd₁] at hw'
        rw [hc, hc₁, hw', List.append_assoc] at hw
        exact (List.append_cancel_right hw).symm
      simp only [Option.map_some]
      split
      · exact .taken hc₁ hd₁ hk .nil
      · refine .taken hc₁ hd₁ hk (.cons ⟨rfl, ?_⟩ .nil)
        rw [Cursor.upTo_eq hw, Cursor.upTo_eq hw', hsame]
        exact .mk (hns.imp fun _ _ hn => hn.2)
  | passed hlt hlost =>
      refine .passed hlt ?_
      rw [Option.map_map]
      exact hlost

end Tracks

/-! ## Expressions that stay in their line -/

/-- A given text without line separators. -/
theorem alike_take {fold : Char → Char} {x : List Char} {s t : List Char} {c d : Cursor}
    {last : Option (List Char) → Prop} (ht : EndsLine t)
    (hx : fold '\n' ∉ x ∧ fold '\r' ∉ x) (hc : c.rest = s ++ t) (hd : d.rest = s) :
    Alike c.lineFeeds t last ((c.take? fold x).map fun c' => (c', []))
      ((d.take? fold x).map fun c' => (c', [])) := by
  induction x generalizing s c d with
  | nil => exact .taken hc hd rfl .nil
  | cons y x ih =>
      obtain ⟨hfeed, hreturn⟩ := hx
      cases s with
      | nil =>
          have halone : d.take? fold (y :: x) = none := by rw [Cursor.take?, hd]
          have hend : c.take? fold (y :: x) = none := by
            rw [Cursor.take?, hc]
            cases t with
            | nil => rfl
            | cons z t =>
                have hne : fold z ≠ y := by
                  rintro rfl
                  rcases ht z rfl with rfl | rfl
                  · exact hfeed List.mem_cons_self
                  · exact hreturn List.mem_cons_self
                simp [hne]
          rw [halone, hend]
          exact .refused
      | cons z s =>
          rw [Cursor.take?, Cursor.take?, hc, hd]
          simp only [List.cons_append]
          by_cases hz : fold z = y
          · rw [if_pos hz, if_pos hz]
            have hfeeds : (c.advance z (s ++ t)).lineFeeds = c.lineFeeds := by
              have hne : z ≠ '\n' := by
                rintro rfl
                exact hfeed (hz ▸ List.mem_cons_self)
              simp [Cursor.advance, hne]
            rw [← hfeeds]
            exact ih ⟨fun h => hfeed (List.mem_cons_of_mem _ h),
              fun h => hreturn (List.mem_cons_of_mem _ h)⟩ rfl rfl
          · rw [if_neg hz, if_neg hz]
            exact .refused

theorem stays_one {k : CharClass} (hk : k ≠ .any) : (one k).Stays mode := by
  intro s t c d att att' ht hs hc hd
  cases s with
  | nil =>
      have hend : ((one k).run mode c att).2 = none := by
        rw [Expr.run, hc]
        cases t with
        | nil => rfl
        | cons x t =>
            have hx : k.contains x = false := by
              rcases ht x rfl with rfl | rfl
              · cases k <;> first | rfl | exact absurd rfl hk
              · cases k <;> first | rfl | exact absurd rfl hk
            simp [hx]
      have halone : ((one k).run mode d att').2 = none := by rw [Expr.run, hd]
      rw [hend, halone]
      exact .refused
  | cons x s =>
      rw [Expr.run, Expr.run, hc, hd]
      simp only [List.cons_append]
      have hx : x ≠ '\n' := fun h => hs (h ▸ List.mem_cons_self)
      split
      · exact .taken rfl rfl (if_neg hx) .nil
      · exact .refused

/-- Looking whether something is absent. -/
theorem stays_absent (h : e.Stays mode) : (absent e).Stays mode := by
  intro s t c d att att' ht hs hc hd
  rw [run_absent, run_absent]
  have hsame := h s t c d att att' ht hs hc hd
  generalize (e.run mode c att).2 = r at hsame ⊢
  generalize (e.run mode d att').2 = r' at hsame ⊢
  cases hsame with
  | refused => exact .taken hc hd rfl .nil
  | taken => exact .refused
  | passed _ hlost => cases hlost

/-- An expression without line separators and classes that hold them, which does not ask where a
text ends. -/
def tame : Expr → Bool
  | text t | folded t => '\n' ∉ t ∧ '\r' ∉ t
  | one k => k ≠ .any
  | finish | ahead _ => false
  | seq a b | alt a b => a.tame && b.tame
  | opt a | absent a | rule _ _ a => a.tame
  | star a => a.nonempty && a.tame

/-- Most expressions never run past the end of a line. -/
theorem tracks_of_tame (he : e.tame) : e.Stays mode := by
  induction e generalizing mode with
  | text x =>
      intro s t c d att att' ht hs hc hd
      exact alike_take ht (by simpa [tame] using he) hc hd
  | folded x =>
      intro s t c d att att' ht hs hc hd
      exact alike_take ht (by simpa [tame] using he) hc hd
  | one k => exact stays_one (by simpa [tame] using he)
  | finish | ahead _ _ => cases he
  | seq a b iha ihb =>
      obtain ⟨ha, hb⟩ := Bool.and_eq_true_iff.mp he
      exact (iha ha).stays_seq (ihb hb)
  | alt a b iha ihb =>
      obtain ⟨ha, hb⟩ := Bool.and_eq_true_iff.mp he
      exact (iha ha).alt (ihb hb) (fun _ _ => False.elim) fun _ _ => False.elim
  | opt a ih => exact (ih he).opt fun _ _ => False.elim
  | star a ih =>
      obtain ⟨hne, ha⟩ := Bool.and_eq_true_iff.mp he
      exact Tracks.stays_star hne (ih ha)
  | absent a ih => exact stays_absent (ih he)
  | rule r style a ih => exact (ih he).rule

/-! ## Looking at the next character -/

/-- Whether an expression is taken depends on the next character only. -/
def Peeks (e : Expr) (mode : Mode) (p : Option Char → Bool) : Prop :=
  ∀ (c : Cursor) (att : Attempts), (e.run mode c att).2.isSome = p c.rest.head?

theorem peeks_text (x : Char) : (text [x]).Peeks mode fun y => y = some x := by
  intro c att
  rw [Expr.run, Option.isSome_map]
  simp only [Cursor.take?]
  rcases c.rest with _ | ⟨y, rest⟩
  · rfl
  · by_cases hy : y = x
    · simp [hy]
    · simp [hy]

theorem Peeks.alt {p q : Option Char → Bool} (h₁ : e₁.Peeks mode p) (h₂ : e₂.Peeks mode q) :
    (Expr.alt e₁ e₂).Peeks mode fun y => p y || q y := by
  intro c att
  rw [run_alt, Option.isSome_or, h₁, h₂]

/-- A separator of two characters begins with one that is a separator, too. -/
theorem peeks_newline : newline.Peeks mode fun y => y = some '\n' || y = some '\r' := by
  have hpair : ∀ c att, ((text ['\r', '\n']).run mode c att).2.isSome →
      c.rest.head? = some '\r' := by
    intro c att h
    rw [Expr.run, Option.isSome_map] at h
    simp only [Cursor.take?] at h
    rcases hrest : c.rest with _ | ⟨y, rest⟩
    · simp [hrest] at h
    · by_cases hy : y = '\r'
      · rw [hy, List.head?_cons]
      · simp [hrest, hy] at h
  intro c att
  have hnewline : newline = alt (text ['\n']) (alt (text ['\r', '\n']) (text ['\r'])) := rfl
  rw [hnewline, run_alt, run_alt, Option.isSome_or, Option.isSome_or, peeks_text, peeks_text]
  cases hrun : ((text ['\r', '\n']).run mode c ((text ['\n']).run mode c att).1).2.isSome with
  | false => rfl
  | true => simp [hpair _ _ hrun]

theorem peeks_endOfInput : endOfInput.Peeks mode Option.isNone := by
  intro c att
  rw [endOfInput, run_rule, Option.isSome_map, Expr.run]
  rcases c.rest with _ | ⟨y, rest⟩
  · rfl
  · rfl

/-- What the line is followed by is seen like the end of the text. -/
theorem Peeks.stays_ahead {p : Option Char → Bool} (h : e.Peeks mode p)
    (hp : p (some '\n') = p none ∧ p (some '\r') = p none) : (ahead e).Stays mode := by
  intro s t c d att att' ht hs hc hd
  have hsame : p c.rest.head? = p d.rest.head? := by
    rw [hc, hd]
    cases s with
    | nil =>
        cases t with
        | nil => rfl
        | cons x t =>
            rcases ht x rfl with rfl | rfl
            · exact hp.1
            · exact hp.2
    | cons x s => rfl
  rw [run_ahead, run_ahead, h, h, hsame]
  split
  · exact .taken hc hd rfl .nil
  · exact .refused

theorem run_anyBut {p : Option Char → Bool} (h : e.Peeks .atomic p) {c : Cursor}
    {att : Attempts} : ((anyBut e).run .atomic c att).2 =
      match c.rest with
      | [] => none
      | x :: rest => if p (some x) then none else some (c.advance x rest, []) := by
  have hpeek := h c att
  rw [anyBut, run_seq, run_absent, hpeek]
  rcases hrest : c.rest with _ | ⟨x, rest⟩
  · split <;> simp [Mode.skip, Expr.run, hrest]
  · split
    · next hx => simp [List.head?] at hx; simp [hx]
    · next hx => simp [List.head?] at hx; simp [hx, Mode.skip, Expr.run, hrest, CharClass.contains]

/-- Any character but some runs past the end of a line only where the line alone ends, and only
if it may be a line separator. -/
theorem Peeks.tracks_anyBut {p : Option Char → Bool} (h : e.Peeks .atomic p) :
    (anyBut e).Tracks (fun s r => s = [] ∧ r = none ∧ ¬ (p (some '\n') ∧ p (some '\r')))
      .atomic := by
  intro s t c d att att' ht hs hc hd
  rw [run_anyBut h, run_anyBut h, hc, hd]
  cases s with
  | nil =>
      cases t with
      | nil => exact .refused
      | cons x t =>
          change Alike _ _ _ (if p (some x) then none else some (c.advance x t, [])) none
          split
          · exact .refused
          · next hx =>
            refine .passed (Nat.lt_succ_self _) ⟨rfl, rfl, ?_⟩
            rintro ⟨hfeed, hreturn⟩
            rcases ht x rfl with rfl | rfl
            · exact hx hfeed
            · exact hx hreturn
  | cons x s =>
      have hx : x ≠ '\n' := fun h => hs (h ▸ List.mem_cons_self)
      simp only [List.cons_append]
      split
      · exact .refused
      · exact .taken rfl rfl (if_neg hx) .nil

/-- Any character but those that end a line, and some others. -/
theorem Peeks.stays_anyBut {p : Option Char → Bool} (h : e.Peeks .atomic p)
    (hp : p (some '\n') ∧ p (some '\r')) : (anyBut e).Stays .atomic :=
  h.tracks_anyBut.mono fun _ _ hlost => hlost.2.2 hp

end Expr

end Storyboard.Grammar
