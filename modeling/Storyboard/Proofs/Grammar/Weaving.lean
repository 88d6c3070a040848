import Mathlib.Data.List.Chain
import Storyboard.Proofs.Grammar.Matching

/-!
# Texts woven from nodes

Where blanks are skipped, an expression all of whose characters belong to rules takes a text
that consists of the texts of its nodes, in order, with spaces and tabs around them. What an
expression can put next to each other is bounded by a calculation on the expression alone: the
rules that may come first and last in it, and the pairs of rules that may follow one another.

Main results:

- Theorem `Matched.woven`: the text of a match is woven from its nodes.
- Theorem `Matched.forall_nodes`: every node of a match was made by a rule of the expression.
- Theorem `Matched.rules_bounded`: the rules of the nodes are within the calculated bounds.
-/

namespace Storyboard.Grammar

/-! ## Weaving -/

/-- A text is woven from nodes if it is their texts in order, with gaps around them. -/
def Woven : List Node → List Char → Prop
  | [], t => ∀ c ∈ t, IsGap c
  | n :: ns, t => ∃ b u, t = b ++ (n.text ++ u) ∧ (∀ c ∈ b, IsGap c) ∧ Woven ns u

theorem Woven.nil : Woven [] [] := by
  intro c hc
  cases hc

theorem Woven.singleton (n : Node) : Woven [n] n.text :=
  ⟨[], [], by rw [List.append_nil, List.nil_append], fun _ hc => absurd hc List.not_mem_nil, .nil⟩

theorem Woven.gap_append {ns : List Node} {b t : List Char} (hb : ∀ c ∈ b, IsGap c)
    (ht : Woven ns t) : Woven ns (b ++ t) := by
  cases ns with
  | nil =>
      intro c hc
      rcases List.mem_append.mp hc with hc | hc
      · exact hb c hc
      · exact ht c hc
  | cons n ns =>
      obtain ⟨b', u, rfl, hb', hu⟩ := ht
      refine ⟨b ++ b', u, by rw [List.append_assoc], ?_, hu⟩
      intro c hc
      rcases List.mem_append.mp hc with hc | hc
      · exact hb c hc
      · exact hb' c hc

/-- Woven texts may be put after one another. -/
theorem Woven.append {ns₁ ns₂ : List Node} {t₁ t₂ : List Char} (h₁ : Woven ns₁ t₁)
    (h₂ : Woven ns₂ t₂) : Woven (ns₁ ++ ns₂) (t₁ ++ t₂) := by
  induction ns₁ generalizing t₁ with
  | nil => exact Woven.gap_append h₁ h₂
  | cons n ns₁ ih =>
      obtain ⟨b, u, rfl, hb, hu⟩ := h₁
      refine ⟨b, u ++ t₂, ?_, hb, ih hu⟩
      simp only [List.append_assoc]

namespace Expr

/-- Whether all characters that an expression takes belong to rules. -/
def inRules : Expr → Bool
  | text t | folded t => t.isEmpty
  | one _ => false
  | finish | absent _ | ahead _ | rule .. => true
  | seq a b | alt a b => a.inRules && b.inRules
  | opt a | star a => a.inRules

end Expr

/-- The text of a match is woven from its nodes. -/
theorem Matched.woven {e : Expr} {t : List Char} {ns : List Node} {rest : List Char}
    (h : Matched e .spaced t ns rest) (he : e.inRules) : Woven ns t := by
  generalize hmode : Mode.spaced = mode at h
  induction h with
  | text =>
      rw [Expr.inRules, List.isEmpty_iff] at he
      exact he ▸ Woven.nil
  | folded hlow =>
      rw [Expr.inRules, List.isEmpty_iff] at he
      rw [he, List.map_eq_nil_iff] at hlow
      exact hlow ▸ Woven.nil
  | one => cases he
  | finish => exact .nil
  | seq _ hb _ ih₁ ih₂ =>
      subst hmode
      rw [Expr.inRules, Bool.and_eq_true] at he
      exact (ih₁ he.1 rfl).append ((ih₂ he.2 rfl).gap_append hb)
  | left _ ih =>
      rw [Expr.inRules, Bool.and_eq_true] at he
      exact ih he.1 hmode
  | right _ _ ih =>
      rw [Expr.inRules, Bool.and_eq_true] at he
      exact ih he.2 hmode
  | here _ ih => exact ih he hmode
  | skip => exact .nil
  | stop => exact .nil
  | more _ hb _ ih₁ ih₂ =>
      subst hmode
      exact (ih₁ he rfl).append ((ih₂ he rfl).gap_append hb)
  | absent => exact .nil
  | ahead => exact .nil
  | @silent mode r style body t ns rest houter =>
      subst hmode
      cases style <;> cases houter
  | rule => exact .singleton (.mk ..)

/-! ## Where nodes come from -/

namespace Expr

/-- Every node that an expression makes where blanks are skipped has a property. -/
def Makes (P : Node → Prop) : Expr → Prop
  | rule r style body => ∀ lineFeeds t ns rest, Matched body (style.inner .spaced) t ns rest →
      P (.mk r lineFeeds t ns)
  | seq a b | alt a b => a.Makes P ∧ b.Makes P
  | opt a | star a => a.Makes P
  | text _ | folded _ | one _ | finish | absent _ | ahead _ => True

end Expr

/-- Every node of a match was made by a rule of the expression. -/
theorem Matched.forall_nodes {P : Node → Prop} {e : Expr} {t : List Char} {ns : List Node}
    {rest : List Char} (h : Matched e .spaced t ns rest) (he : e.Makes P) : ∀ n ∈ ns, P n := by
  have happend : ∀ {ns₁ ns₂ : List Node}, (∀ n ∈ ns₁, P n) → (∀ n ∈ ns₂, P n) →
      ∀ n ∈ ns₁ ++ ns₂, P n := by
    intro ns₁ ns₂ h₁ h₂ n hn
    rcases List.mem_append.mp hn with hn | hn
    · exact h₁ n hn
    · exact h₂ n hn
  generalize hmode : Mode.spaced = mode at h
  induction h with
  | seq _ _ _ ih₁ ih₂ => exact happend (ih₁ he.1 hmode) (ih₂ he.2 hmode)
  | left _ ih => exact ih he.1 hmode
  | right _ _ ih => exact ih he.2 hmode
  | here _ ih => exact ih he hmode
  | more _ _ _ ih₁ ih₂ => exact happend (ih₁ he hmode) (ih₂ he hmode)
  | rule lineFeeds _ hbody =>
      subst hmode
      intro n hn
      rw [List.mem_singleton.mp hn]
      exact he lineFeeds _ _ _ hbody
  | text | folded | one | finish | skip | stop | absent | ahead | silent =>
      intro n hn
      cases hn

/-! ## Neighbours -/

namespace Expr

/-- Whether an expression may match without making a node. -/
def nodeless : Expr → Bool
  | rule .. => false
  | seq a b => a.nodeless && b.nodeless
  | alt a b => a.nodeless || b.nodeless
  | text _ | folded _ | one _ | finish | absent _ | ahead _ | opt _ | star _ => true

/-- The rules of the nodes that may come first. -/
def firsts : Expr → List Rule
  | rule r _ _ => [r]
  | seq a b => a.firsts ++ if a.nodeless then b.firsts else []
  | alt a b => a.firsts ++ b.firsts
  | opt a | star a => a.firsts
  | text _ | folded _ | one _ | finish | absent _ | ahead _ => []

/-- The rules of the nodes that may come last. -/
def lasts : Expr → List Rule
  | rule r _ _ => [r]
  | seq a b => b.lasts ++ if b.nodeless then a.lasts else []
  | alt a b => a.lasts ++ b.lasts
  | opt a | star a => a.lasts
  | text _ | folded _ | one _ | finish | absent _ | ahead _ => []

/-- The rules of two nodes that may follow one another. -/
def pairs : Expr → List (Rule × Rule)
  | seq a b => a.pairs ++ b.pairs ++ a.lasts.flatMap fun r => b.firsts.map fun s => (r, s)
  | alt a b => a.pairs ++ b.pairs
  | opt a => a.pairs
  | star a => a.pairs ++ a.lasts.flatMap fun r => a.firsts.map fun s => (r, s)
  | rule .. | text _ | folded _ | one _ | finish | absent _ | ahead _ => []

end Expr

/-- The rules of a list of nodes are within the bounds of an expression. -/
structure Bounded (e : Expr) (ns : List Node) : Prop where
  nodeless : ns = [] → e.nodeless
  first : ∀ n ∈ ns.head?, n.rule ∈ e.firsts
  last : ∀ n ∈ ns.getLast?, n.rule ∈ e.lasts
  pairs : ns.IsChain fun n m => (n.rule, m.rule) ∈ e.pairs

namespace Bounded

variable {a b e : Expr} {ns ns₁ ns₂ : List Node}

/-- No nodes are within the bounds of an expression that may match without any. -/
theorem nil (he : e.nodeless) : Bounded e [] where
  nodeless := fun _ => he
  first := by
    intro n hn
    cases hn
  last := by
    intro n hn
    cases hn
  pairs := .nil

/-- Wider bounds. -/
theorem mono (h : Bounded a ns) (hnodeless : a.nodeless → e.nodeless)
    (hfirst : a.firsts ⊆ e.firsts) (hlast : a.lasts ⊆ e.lasts) (hpairs : a.pairs ⊆ e.pairs) :
    Bounded e ns where
  nodeless := fun hns => hnodeless (h.nodeless hns)
  first := fun n hn => hfirst (h.first n hn)
  last := fun n hn => hlast (h.last n hn)
  pairs := h.pairs.imp fun _ _ hnm => hpairs hnm

/-- Nodes after one another, within bounds that allow for what meets in the middle. -/
theorem append (h₁ : Bounded a ns₁) (h₂ : Bounded b ns₂)
    (hnodeless : a.nodeless → b.nodeless → e.nodeless)
    (hfirst : a.firsts ⊆ e.firsts) (hfirst' : a.nodeless → b.firsts ⊆ e.firsts)
    (hlast : b.lasts ⊆ e.lasts) (hlast' : b.nodeless → a.lasts ⊆ e.lasts)
    (hpairs : a.pairs ⊆ e.pairs) (hpairs' : b.pairs ⊆ e.pairs)
    (hmeet : ∀ r ∈ a.lasts, ∀ s ∈ b.firsts, (r, s) ∈ e.pairs) : Bounded e (ns₁ ++ ns₂) where
  nodeless := by
    intro hns
    obtain ⟨hns₁, hns₂⟩ := List.append_eq_nil_iff.mp hns
    exact hnodeless (h₁.nodeless hns₁) (h₂.nodeless hns₂)
  first := by
    intro n hn
    cases ns₁ with
    | nil => exact hfirst' (h₁.nodeless rfl) (h₂.first n hn)
    | cons m ms => exact hfirst (h₁.first n hn)
  last := by
    intro n hn
    rw [List.getLast?_append] at hn
    cases hlast₂ : ns₂.getLast? with
    | none =>
        rw [hlast₂, Option.none_or] at hn
        exact hlast' (h₂.nodeless (List.getLast?_eq_none_iff.mp hlast₂)) (h₁.last n hn)
    | some m =>
        rw [hlast₂, Option.some_or] at hn
        cases hn
        exact hlast (h₂.last n hlast₂)
  pairs := by
    refine List.isChain_append.mpr ⟨h₁.pairs.imp fun _ _ h => hpairs h,
      h₂.pairs.imp fun _ _ h => hpairs' h, ?_⟩
    intro n hn m hm
    exact hmeet _ (h₁.last n hn) _ (h₂.first m hm)

theorem mem_pairs {rs ss : List Rule} {r s : Rule} (hr : r ∈ rs) (hs : s ∈ ss) :
    (r, s) ∈ rs.flatMap fun r => ss.map fun s => (r, s) :=
  List.mem_flatMap.mpr ⟨r, hr, List.mem_map.mpr ⟨s, hs, rfl⟩⟩

theorem seq (h₁ : Bounded a ns₁) (h₂ : Bounded b ns₂) : Bounded (.seq a b) (ns₁ ++ ns₂) := by
  refine h₁.append h₂ ?_ ?_ ?_ ?_ ?_ ?_ ?_ ?_
  · intro ha hb
    simp [Expr.nodeless, ha, hb]
  · simp [Expr.firsts]
  · intro ha
    simp [Expr.firsts, ha]
  · simp [Expr.lasts]
  · intro hb
    simp [Expr.lasts, hb]
  · simp [Expr.pairs]
  · simp [Expr.pairs]
  · intro r hr s hs
    exact List.mem_append_right _ (mem_pairs hr hs)

theorem left (h : Bounded a ns) : Bounded (.alt a b) ns := by
  refine h.mono ?_ ?_ ?_ ?_
  · intro ha
    simp [Expr.nodeless, ha]
  · simp [Expr.firsts]
  · simp [Expr.lasts]
  · simp [Expr.pairs]

theorem right (h : Bounded b ns) : Bounded (.alt a b) ns := by
  refine h.mono ?_ ?_ ?_ ?_
  · intro hb
    simp [Expr.nodeless, hb]
  · simp [Expr.firsts]
  · simp [Expr.lasts]
  · simp [Expr.pairs]

theorem here (h : Bounded a ns) : Bounded (.opt a) ns := by
  refine h.mono ?_ ?_ ?_ ?_
  · intro _
    rfl
  · simp [Expr.firsts]
  · simp [Expr.lasts]
  · simp [Expr.pairs]

theorem more (h₁ : Bounded a ns₁) (h₂ : Bounded (.star a) ns₂) :
    Bounded (.star a) (ns₁ ++ ns₂) := by
  refine h₁.append h₂ ?_ ?_ ?_ ?_ ?_ ?_ ?_ ?_
  · intro _ _
    rfl
  · simp [Expr.firsts]
  · simp [Expr.firsts]
  · simp [Expr.lasts]
  · simp [Expr.lasts]
  · simp [Expr.pairs]
  · simp [Expr.pairs]
  · intro r hr s hs
    exact List.mem_append_right _ (mem_pairs hr hs)

theorem rule (n : Node) (style : Style) (body : Expr) : Bounded (.rule n.rule style body) [n] where
  nodeless := by
    intro hns
    cases hns
  first := by
    intro m hm
    cases hm
    exact List.mem_singleton.mpr rfl
  last := by
    intro m hm
    cases hm
    exact List.mem_singleton.mpr rfl
  pairs := .singleton n

end Bounded

/-- The rules of the nodes of a match are within the bounds of its expression. -/
theorem Matched.rules_bounded {e : Expr} {t : List Char} {ns : List Node} {rest : List Char}
    (h : Matched e .spaced t ns rest) : Bounded e ns := by
  generalize hmode : Mode.spaced = mode at h
  induction h with
  | text | folded | one | finish | skip | stop | absent | ahead => exact .nil rfl
  | seq _ _ _ ih₁ ih₂ => exact (ih₁ hmode).seq (ih₂ hmode)
  | left _ ih => exact (ih hmode).left
  | right _ _ ih => exact (ih hmode).right
  | here _ ih => exact (ih hmode).here
  | more _ _ _ ih₁ ih₂ => exact (ih₁ hmode).more (ih₂ hmode)
  | @silent _ r style body t ns rest houter =>
      subst hmode
      cases style <;> cases houter
  | rule lineFeeds _ _ => exact .rule (.mk _ lineFeeds _ _) _ _

end Storyboard.Grammar
