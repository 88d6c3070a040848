import Storyboard.Proofs.Grammar.Transcript

/-!
# What the matcher takes

The matcher is followed here one kind of expression at a time. Nothing is put back, and neither the
place of a text nor the record of failures decides what is taken of it.

Main results:

- Theorems `run_seq`, `run_alt`, `run_star` and others: one equation for each kind of expression.
- Theorem `Mode.skipped_append`: blanks are skipped up to the end of a line.
- Theorem `Expr.sameRest_run`: what is taken depends on the text only.
-/

namespace Storyboard.Grammar

open Storyboard.Grammar.Expr

/-! ## One equation for each kind of expression -/

section Equations

variable {e e₁ e₂ : Expr} {mode : Mode} {c : Cursor} {att : Attempts}

theorem run_seq : ((seq e₁ e₂).run mode c att).2 =
    (e₁.run mode c att).2.bind fun r₁ =>
      (e₂.run mode (mode.skip r₁.1) (e₁.run mode c att).1).2.map fun r₂ =>
        (r₂.1, r₁.2 ++ r₂.2) := by
  rw [Expr.run]
  rcases e₁.run mode c att with ⟨att₁, _ | ⟨c₁, ns₁⟩⟩
  · rfl
  · rcases h₂ : e₂.run mode (mode.skip c₁) att₁ with ⟨att₂, _ | ⟨c₂, ns₂⟩⟩
    · simp [h₂]
    · simp [h₂]

theorem run_alt : ((alt e₁ e₂).run mode c att).2 =
    (e₁.run mode c att).2.or (e₂.run mode c (e₁.run mode c att).1).2 := by
  rw [Expr.run]
  rcases e₁.run mode c att with ⟨att₁, _ | r⟩
  · rfl
  · rfl

theorem run_opt : ((opt e).run mode c att).2 = some ((e.run mode c att).2.getD (c, [])) := by
  rw [Expr.run]
  rcases e.run mode c att with ⟨att₁, _ | r⟩
  · rfl
  · rfl

theorem run_absent : ((absent e).run mode c att).2 =
    if (e.run mode c att).2.isSome then none else some (c, []) := by
  rw [Expr.run]
  rcases e.run mode c att with ⟨att₁, _ | r⟩
  · rfl
  · rfl

theorem run_ahead : ((ahead e).run mode c att).2 =
    if (e.run mode c att).2.isSome then some (c, []) else none := by
  rw [Expr.run]
  rcases e.run mode c att with ⟨att₁, _ | r⟩
  · rfl
  · rfl

theorem run_rule {r : Rule} {style : Style} : ((Expr.rule r style e).run mode c att).2 =
    (e.run (style.inner mode) c att).2.map fun x =>
      (x.1, if style.outer mode = .atomic then []
        else [.mk r c.lineFeeds (c.upTo x.1) x.2]) := by
  rw [Expr.run]
  rcases e.run (style.inner mode) c att with ⟨att₁, _ | x⟩
  · rfl
  · simp only [Option.map_some]
    split <;> rfl

/-- The outcome of a first copy and of those after it. -/
def firstCopy (c : Cursor) (more : Cursor → Cursor × List Node) :
    Option (Cursor × List Node) → Cursor × List Node
  | none => (c, [])
  | some x => ((more x.1).1, x.2 ++ (more x.1).2)

@[simp] theorem firstCopy_none {more : Cursor → Cursor × List Node} :
    firstCopy c more none = (c, []) := rfl

@[simp] theorem firstCopy_some {more : Cursor → Cursor × List Node} {x : Cursor × List Node} :
    firstCopy c more (some x) = ((more x.1).1, x.2 ++ (more x.1).2) := rfl

theorem repeatMatch_succ {f : Cursor → Attempts → Outcome} {skip : Cursor → Cursor} {fuel : Nat} :
    (repeatMatch f skip (fuel + 1) c att).2 =
      firstCopy c (fun c' => (repeatMatch f skip fuel c' (f (skip c) att).1).2)
        (f (skip c) att).2 := by
  rw [repeatMatch]
  rcases f (skip c) att with ⟨att₁, _ | x⟩
  · rfl
  · rfl

theorem run_star : ((star e).run mode c att).2 =
    some (firstCopy c (fun c' => (repeatMatch (e.run mode) mode.skip (c'.rest.length + 1) c'
      (e.run mode c att).1).2) (e.run mode c att).2) := by
  rw [Expr.run]
  rcases e.run mode c att with ⟨att₁, _ | x⟩
  · rfl
  · rfl

/-- Nothing is put back. -/
theorem length_le_of_run {c' : Cursor} {ns : List Node}
    (h : (e.run mode c att).2 = some (c', ns)) : c'.rest.length ≤ c.rest.length := by
  obtain ⟨t, ht, -⟩ := e.matched_of_run mode c att c' ns h
  rw [ht, List.length_append]
  omega

/-- Every copy of an expression that takes some text leaves less than there was. -/
theorem length_lt_of_run (he : e.nonempty) {c' : Cursor} {ns : List Node}
    (h : (e.run mode c att).2 = some (c', ns)) : c'.rest.length < c.rest.length := by
  obtain ⟨t, ht, hmatched⟩ := e.matched_of_run mode c att c' ns h
  have hpos : 0 < t.length := List.length_pos_iff.mpr (hmatched.ne_nil he)
  rw [ht, List.length_append]
  omega

theorem length_repeatMatch_le (fuel : Nat) :
    (repeatMatch (e.run mode) mode.skip fuel c att).2.1.rest.length ≤ c.rest.length := by
  obtain ⟨b, t, -, ht, -⟩ := matched_of_repeatMatch (e.matched_of_run mode) fuel c att
  rw [ht, List.length_append, List.length_append]
  omega

/-- What is left is part of what there was. -/
theorem not_mem_rest_of_run {x : Char} {c' : Cursor} {ns : List Node}
    (h : (e.run mode c att).2 = some (c', ns)) (hx : x ∉ c.rest) : x ∉ c'.rest := by
  obtain ⟨t, ht, -⟩ := e.matched_of_run mode c att c' ns h
  rw [ht] at hx
  exact fun hmem => hx (List.mem_append_right t hmem)

end Equations

/-! ## Skipping at the end of a line -/

/-- What follows a line: nothing, or a line separator. -/
def EndsLine (t : List Char) : Prop := ∀ c ∈ t.head?, c = '\n' ∨ c = '\r'

/-- A text without the blanks in front that are skipped. -/
def Mode.skipped : Mode → List Char → List Char
  | .spaced, s => s.dropWhile fun x => x = ' ' || x = '\t'
  | _, s => s

namespace Mode

variable {mode : Mode} {s t : List Char}

theorem rest_skip_eq (mode : Mode) (c : Cursor) : (mode.skip c).rest = mode.skipped c.rest := by
  cases mode <;> rfl

theorem length_skipped_le (mode : Mode) (s : List Char) : (mode.skipped s).length ≤ s.length := by
  cases mode with
  | spaced => exact (List.dropWhile_sublist _).length_le
  | _ => exact Nat.le_refl _

theorem length_skip_le (mode : Mode) (c : Cursor) :
    (mode.skip c).rest.length ≤ c.rest.length := by
  rw [mode.rest_skip_eq]
  exact mode.length_skipped_le c.rest

theorem lineFeeds_skip (mode : Mode) (c : Cursor) : (mode.skip c).lineFeeds = c.lineFeeds := by
  cases mode <;> rfl

/-- Skipping stops at the end of the line. -/
theorem skipped_append (ht : EndsLine t) : mode.skipped (s ++ t) = mode.skipped s ++ t := by
  cases mode with
  | spaced =>
      induction s with
      | nil =>
          cases t with
          | nil => rfl
          | cons x t =>
              rcases ht x (by simp) with rfl | rfl <;> rfl
      | cons x s ih =>
          simp only [skipped] at ih ⊢
          rw [List.cons_append, List.dropWhile_cons, List.dropWhile_cons]
          split
          · exact ih
          · rfl
  | _ => rfl

theorem not_mem_skipped {x : Char} (h : x ∉ s) : x ∉ mode.skipped s := by
  cases mode with
  | spaced => exact fun hx => h (List.dropWhile_sublist _ |>.subset hx)
  | _ => exact h

theorem skipped_skipped (mode : Mode) (s : List Char) :
    mode.skipped (mode.skipped s) = mode.skipped s := by
  cases mode with
  | spaced =>
      simp only [skipped]
      cases hs : s.dropWhile fun x => x = ' ' || x = '\t' with
      | nil => rfl
      | cons x u =>
          have hx := List.head?_dropWhile_not (fun x => x = ' ' || x = '\t') s
          rw [hs] at hx
          simp only [List.head?_cons] at hx
          rw [List.dropWhile_cons, if_neg (by simpa using hx)]
  | _ => rfl

end Mode

/-! ## The text decides what is taken -/

/-- Two readings that leave the same text. -/
inductive SameRest : Option (Cursor × List Node) → Option (Cursor × List Node) → Prop
  | refused : SameRest none none
  | taken {c d ns ms} : c.rest = d.rest → SameRest (some (c, ns)) (some (d, ms))

theorem SameRest.rest_eq {x y : Cursor × List Node} (h : SameRest (some x) (some y)) :
    x.1.rest = y.1.rest := by
  obtain ⟨c, ns⟩ := x
  obtain ⟨d, ms⟩ := y
  cases h with
  | taken h => exact h

theorem SameRest.of_rest_eq {x y : Cursor × List Node} (h : x.1.rest = y.1.rest) :
    SameRest (some x) (some y) := .taken h

theorem SameRest.of_take {fold : Char → Char} {x : List Char} {c d : Cursor}
    (h : c.rest = d.rest) : SameRest ((c.take? fold x).map fun c' => (c', []))
      ((d.take? fold x).map fun c' => (c', [])) := by
  induction x generalizing c d with
  | nil => exact .taken h
  | cons y x ih =>
      rw [Cursor.take?, Cursor.take?, h]
      rcases d.rest with _ | ⟨z, rest⟩
      · exact .refused
      · by_cases hz : fold z = y
        · simp only [if_pos hz]
          exact ih rfl
        · simp only [if_neg hz]
          exact .refused

theorem SameRest.firstCopy {c d : Cursor} {more more' : Cursor → Cursor × List Node}
    {r r' : Option (Cursor × List Node)} (h : SameRest r r') (hc : c.rest = d.rest)
    (hmore : ∀ {c₁ d₁ : Cursor}, c₁.rest = d₁.rest → (more c₁).1.rest = (more' d₁).1.rest) :
    (firstCopy c more r).1.rest = (firstCopy d more' r').1.rest := by
  cases h with
  | refused => exact hc
  | taken h₁ => exact hmore h₁

theorem SameRest.repeatMatch {f : Cursor → Attempts → Outcome} {mode : Mode}
    (hf : ∀ {c d : Cursor} (att att' : Attempts), c.rest = d.rest →
      SameRest (f c att).2 (f d att').2) (fuel : Nat) {c d : Cursor} (att att' : Attempts)
    (h : c.rest = d.rest) : (repeatMatch f mode.skip fuel c att).2.1.rest =
      (repeatMatch f mode.skip fuel d att').2.1.rest := by
  induction fuel generalizing c d att att' with
  | zero => exact h
  | succ fuel ih =>
      rw [repeatMatch_succ, repeatMatch_succ]
      have hskip : (mode.skip c).rest = (mode.skip d).rest := by
        rw [mode.rest_skip_eq, mode.rest_skip_eq, h]
      exact (hf att att' hskip).firstCopy h fun h₁ => ih _ _ h₁

/-- Neither the place of a text nor earlier failures decide what is taken of it. -/
theorem Expr.sameRest_run (e : Expr) (mode : Mode) {c d : Cursor} (att att' : Attempts)
    (h : c.rest = d.rest) : SameRest (e.run mode c att).2 (e.run mode d att').2 := by
  induction e generalizing mode c d att att' with
  | text x | folded x => exact .of_take h
  | one k =>
      rw [Expr.run, Expr.run, h]
      rcases d.rest with _ | ⟨x, rest⟩
      · exact .refused
      · simp only
        split
        · exact .taken rfl
        · exact .refused
  | finish =>
      rw [Expr.run, Expr.run, h]
      simp only
      split
      · exact .taken h
      · exact .refused
  | seq a b iha ihb =>
      rw [run_seq, run_seq]
      have hfirst := iha mode att att' h
      generalize (a.run mode c att).2 = r at hfirst ⊢
      generalize (a.run mode d att').2 = r' at hfirst ⊢
      cases hfirst with
      | refused => exact .refused
      | @taken c₁ d₁ ns ms h₁ =>
          have hskip : (mode.skip c₁).rest = (mode.skip d₁).rest := by
            rw [mode.rest_skip_eq, mode.rest_skip_eq, h₁]
          have hsecond := ihb mode (a.run mode c att).1 (a.run mode d att').1 hskip
          simp only [Option.bind_some]
          generalize (b.run mode (mode.skip c₁) (a.run mode c att).1).2 = r at hsecond ⊢
          generalize (b.run mode (mode.skip d₁) (a.run mode d att').1).2 = r' at hsecond ⊢
          cases hsecond with
          | refused => exact .refused
          | taken h₂ => exact .taken h₂
  | alt a b iha ihb =>
      rw [run_alt, run_alt]
      have hfirst := iha mode att att' h
      have hsecond := ihb mode (a.run mode c att).1 (a.run mode d att').1 h
      generalize (a.run mode c att).2 = r at hfirst ⊢
      generalize (a.run mode d att').2 = r' at hfirst ⊢
      cases hfirst with
      | refused => exact hsecond
      | taken h₁ => exact .taken h₁
  | opt a ih =>
      rw [run_opt, run_opt]
      have hsame := ih mode att att' h
      generalize (a.run mode c att).2 = r at hsame ⊢
      generalize (a.run mode d att').2 = r' at hsame ⊢
      cases hsame with
      | refused => exact .taken h
      | taken h₁ => exact .taken h₁
  | star a ih =>
      rw [run_star, run_star]
      refine .of_rest_eq ((ih mode att att' h).firstCopy h fun {c₁ d₁} h₁ => ?_)
      rw [h₁]
      exact SameRest.repeatMatch (f := a.run mode) (ih mode) _ _ _ h₁
  | absent a ih =>
      rw [run_absent, run_absent]
      have hsame := ih mode att att' h
      generalize (a.run mode c att).2 = r at hsame ⊢
      generalize (a.run mode d att').2 = r' at hsame ⊢
      cases hsame with
      | refused => exact .taken h
      | taken => exact .refused
  | ahead a ih =>
      rw [run_ahead, run_ahead]
      have hsame := ih mode att att' h
      generalize (a.run mode c att).2 = r at hsame ⊢
      generalize (a.run mode d att').2 = r' at hsame ⊢
      cases hsame with
      | refused => exact .refused
      | taken => exact .taken h
  | rule r style a ih =>
      rw [run_rule, run_rule]
      have hbody := ih (style.inner mode) att att' h
      generalize (a.run (style.inner mode) c att).2 = r at hbody ⊢
      generalize (a.run (style.inner mode) d att').2 = r' at hbody ⊢
      cases hbody with
      | refused => exact .refused
      | taken h₁ => exact .taken h₁

end Storyboard.Grammar
