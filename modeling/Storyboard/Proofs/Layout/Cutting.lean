import Mathlib.Data.List.Chain
import Mathlib.Data.List.Infix
import Mathlib.Data.List.TakeWhile
import Storyboard.Layout.Dot

/-!
# Cutting texts

The reader of graphs has no tokens. It joins continued lines, cuts the text at closing brackets,
and cuts each piece again at its last opening bracket and at the ends of statements. Here it is
said what each of these cuts does to a text that is put together from others.

Main results:

- Theorem `Dot.splitAt_append_cons`: a character that is cut at separates the pieces before it from
  those after it.
- Theorem `Dot.splitLast?_append_cons`: the last occurrence of a character is where it does not
  occur again.
- Theorem `Dot.joinLines_eq_self`: a text none of whose lines is continued is left alone.
- Theorem `Dot.trimChar_between`: marks around a text are taken off again.
-/

namespace Storyboard.Dot

variable {cut : Char → Bool} {x : Char} {a b cs needle : List Char}

theorem splitAt_ne_nil : splitAt cut cs ≠ [] := by
  cases cs with
  | nil => simp [splitAt]
  | cons c cs =>
      unfold splitAt
      split
      · simp
      · cases splitAt cut cs <;> simp [Text.growWord]

/-- A cut separates the pieces before it from those after it. -/
theorem splitAt_append_cons (hx : cut x) (a b : List Char) :
    splitAt cut (a ++ x :: b) = splitAt cut a ++ splitAt cut b := by
  induction a with
  | nil => simp [splitAt, hx]
  | cons c a ih =>
      rw [List.cons_append, splitAt, splitAt]
      split
      · rw [ih, List.cons_append]
      · rw [ih]
        cases hpieces : splitAt cut a with
        | nil => exact absurd hpieces splitAt_ne_nil
        | cons piece pieces => rfl

theorem splitAt_of_forall (h : ∀ c ∈ cs, cut c = false) : splitAt cut cs = [cs] := by
  induction cs with
  | nil => rfl
  | cons c cs ih =>
      rw [splitAt, if_neg (by simp [h c List.mem_cons_self]),
        ih fun d hd => h d (List.mem_cons_of_mem c hd)]
      rfl

/-- The pieces are made of characters that are not cut at. -/
theorem mem_of_mem_splitAt {piece : List Char} (h : piece ∈ splitAt cut cs) :
    ∀ c ∈ piece, c ∈ cs ∧ cut c = false := by
  induction cs generalizing piece with
  | nil =>
      rw [splitAt, List.mem_singleton] at h
      simp [h]
  | cons d cs ih =>
      have hrest : ∀ {p}, p ∈ splitAt cut cs → ∀ c ∈ p, c ∈ d :: cs ∧ cut c = false := fun hp c hc =>
        ⟨List.mem_cons_of_mem d (ih hp c hc).1, (ih hp c hc).2⟩
      unfold splitAt at h
      split at h
      · rcases List.mem_cons.mp h with rfl | h
        · simp
        · exact hrest h
      · next hd =>
        cases hpieces : splitAt cut cs with
        | nil => exact absurd hpieces splitAt_ne_nil
        | cons first others =>
            rw [hpieces] at h hrest
            rcases List.mem_cons.mp h with rfl | h
            · intro c hc
              rcases List.mem_cons.mp hc with rfl | hc
              · exact ⟨List.mem_cons_self, by simpa using hd⟩
              · exact hrest List.mem_cons_self c hc
            · exact hrest (List.mem_cons_of_mem first h)

/-- The last piece does not depend on what is before a cut. -/
theorem getLast?_splitAt_append_cons (hx : cut x) (a b : List Char) :
    (splitAt cut (a ++ x :: b)).getLast? = (splitAt cut b).getLast? := by
  rw [splitAt_append_cons hx, List.getLast?_append_of_ne_nil _ splitAt_ne_nil]

theorem splitLast?_eq_none (h : x ∉ cs) : splitLast? x cs = none := by
  have hnone : cs.reverse.dropWhile (· ≠ x) = [] := by
    rw [List.dropWhile_eq_nil_iff]
    intro c hc
    simp only [ne_eq, decide_eq_true_eq]
    rintro rfl
    exact h (List.mem_reverse.mp hc)
  simp only [splitLast?, hnone]

theorem splitLast?_append_cons (h : x ∉ b) (a : List Char) :
    splitLast? x (a ++ x :: b) = some (a, b) := by
  have hback : ∀ c ∈ b.reverse, decide (c ≠ x) = true := by
    intro c hc
    simp only [ne_eq, decide_eq_true_eq]
    rintro rfl
    exact h (List.mem_reverse.mp hc)
  have hdrop : (a ++ x :: b).reverse.dropWhile (· ≠ x) = x :: a.reverse := by
    rw [List.reverse_append, List.reverse_cons, List.append_assoc, List.dropWhile_append_of_pos hback]
    simp
  have htake : (a ++ x :: b).reverse.takeWhile (· ≠ x) = b.reverse := by
    rw [List.reverse_append, List.reverse_cons, List.append_assoc, List.takeWhile_append_of_pos hback]
    simp
  simp only [splitLast?, hdrop, htake, List.reverse_reverse]

/-- Every text either does not have a character or can be cut at the last one. -/
theorem exists_last (h : x ∈ cs) : ∃ a b, cs = a ++ x :: b ∧ x ∉ b := by
  induction cs with
  | nil => cases h
  | cons c cs ih =>
      by_cases hmem : x ∈ cs
      · obtain ⟨a, b, rfl, hb⟩ := ih hmem
        exact ⟨c :: a, b, rfl, hb⟩
      · rcases List.mem_cons.mp h with rfl | h
        · exact ⟨[], cs, rfl, hmem⟩
        · exact absurd h hmem

theorem mentions_iff : mentions needle cs ↔ needle <:+: cs := by
  induction cs with
  | nil => cases needle <;> simp [mentions, after?]
  | cons c cs ih =>
      rw [List.infix_cons_iff, mentions, after?]
      split
      · next hfront => exact iff_of_true rfl (.inl (List.isPrefixOf_iff_prefix.mp hfront))
      · next hfront =>
        rw [← ih, mentions, List.isPrefixOf_iff_prefix] at *
        simp [hfront]

/-- Nothing is removed that does not occur. -/
theorem removeAll_eq_self (h : ¬ needle <:+: cs) (fuel : Nat) : removeAll needle fuel cs = cs := by
  induction cs generalizing fuel with
  | nil => cases fuel <;> rfl
  | cons c cs ih =>
      rw [List.infix_cons_iff, not_or] at h
      cases fuel with
      | zero => rfl
      | succ fuel =>
          rw [removeAll, if_neg, ih h.2]
          rw [List.isPrefixOf_iff_prefix]
          exact h.1

/-- No line of a text ends in a backslash, or would without a carriage return. -/
def Uncontinued (cs : List Char) : Prop :=
  cs.IsChain fun c d => d = '\n' → c ∉ ['\\', '\r']

theorem uncontinued_nil : Uncontinued [] := List.IsChain.nil

/-- A line that ends in another character may be put in front. -/
theorem Uncontinued.line {line rest : List Char} (hline : '\n' ∉ line) (hx : x ∉ ['\\', '\r', '\n'])
    (hrest : Uncontinued rest) : Uncontinued (line ++ x :: '\n' :: rest) := by
  have hcons : ∀ {c : Char} {cs : List Char}, (cs.head? = some '\n' → c ∉ ['\\', '\r']) →
      Uncontinued cs → Uncontinued (c :: cs) := by
    intro c cs hc hcs
    refine List.isChain_cons.mpr ⟨?_, hcs⟩
    rintro d hd rfl
    exact hc hd
  induction line with
  | nil => exact hcons (fun _ => by simp_all) (hcons (fun _ => by decide) hrest)
  | cons c line ih =>
      rw [List.mem_cons, not_or] at hline
      refine hcons ?_ (ih hline.2)
      intro hhead
      cases line with
      | nil =>
          cases hhead
          exact absurd hx (by decide)
      | cons d line =>
          cases hhead
          exact absurd List.mem_cons_self hline.2

/-- Lines are joined only where one is continued. -/
theorem joinLines_eq_self (h : Uncontinued cs) : joinLines cs = cs := by
  have hbare : ¬ ['\\', '\n'] <:+: cs := by
    intro hoccurs
    have hchain := h.infix hoccurs
    simp at hchain
  have hreturn : ¬ ['\\', '\r', '\n'] <:+: cs := by
    intro hoccurs
    have hchain := h.infix hoccurs
    simp at hchain
  simp only [joinLines]
  rw [removeAll_eq_self hreturn, removeAll_eq_self hbare]

theorem infix_trimChar (x : Char) (cs : List Char) : trimChar x cs <:+: cs := by
  have hback : ∀ u : List Char, (u.reverse.dropWhile (· = x)).reverse <+: u := by
    intro u
    rw [← List.reverse_suffix, List.reverse_reverse]
    exact List.dropWhile_suffix _
  exact (hback _).isInfix.trans (List.dropWhile_suffix _).isInfix

/-- A trimmed text begins and ends with other characters. -/
theorem trimChar_ends (x : Char) (cs : List Char) :
    (trimChar x cs).head? ≠ some x ∧ (trimChar x cs).getLast? ≠ some x := by
  have hfront : ∀ u : List Char, (u.dropWhile (· = x)).head? ≠ some x := by
    intro u hu
    have hnot := List.head?_dropWhile_not (· = x) u
    rw [hu] at hnot
    simp at hnot
  constructor
  · intro hhead
    have hstart : trimChar x cs <+: cs.dropWhile (· = x) := by
      rw [trimChar, ← List.reverse_suffix, List.reverse_reverse]
      exact List.dropWhile_suffix _
    obtain ⟨more, hmore⟩ := hstart
    apply hfront cs
    rw [← hmore, List.head?_append, hhead]
    rfl
  · rw [trimChar, List.getLast?_reverse]
    exact hfront _

/-- A text between two characters that it neither begins nor ends with. -/
theorem trimChar_between (hhead : cs.head? ≠ some x) (hlast : cs.getLast? ≠ some x) :
    trimChar x (x :: (cs ++ [x])) = cs := by
  have hdrop : ∀ u : List Char, u.head? ≠ some x → u.dropWhile (· = x) = u := by
    intro u hu
    cases u with
    | nil => rfl
    | cons c u =>
        apply List.dropWhile_cons_of_neg
        simpa using hu
  cases cs with
  | nil => simp [trimChar]
  | cons c cs =>
      have hfront : (x :: (c :: cs ++ [x])).dropWhile (· = x) = c :: cs ++ [x] := by
        rw [List.dropWhile_cons_of_pos (by simp)]
        exact hdrop _ (by simpa using hhead)
      rw [trimChar, hfront, List.reverse_append, List.reverse_singleton, List.singleton_append,
        List.dropWhile_cons_of_pos (by simp), hdrop _ (by rwa [List.head?_reverse]),
        List.reverse_reverse]

theorem prefix_append_cons (hx : x ∉ needle) (h : needle <+: a ++ x :: b) : needle <+: a := by
  induction a generalizing needle with
  | nil =>
      rcases List.prefix_cons_iff.mp h with rfl | ⟨t, rfl, -⟩
      · exact List.nil_prefix
      · exact absurd List.mem_cons_self hx
  | cons c a ih =>
      rcases List.prefix_cons_iff.mp h with rfl | ⟨t, rfl, ht⟩
      · exact List.nil_prefix
      · exact (List.prefix_cons_inj c).mpr (ih (fun hmem => hx (List.mem_cons_of_mem c hmem)) ht)

/-- What occurs in a text is on one side of a character that it does not have itself. -/
theorem infix_append_cons (hx : x ∉ needle) (h : needle <:+: a ++ x :: b) :
    needle <:+: a ∨ needle <:+: b := by
  induction a with
  | nil =>
      rcases List.infix_cons_iff.mp h with h | h
      · exact .inl (prefix_append_cons hx (a := []) h).isInfix
      · exact .inr h
  | cons c a ih =>
      rcases List.infix_cons_iff.mp h with h | h
      · exact .inl (prefix_append_cons hx (a := c :: a) h).isInfix
      · exact (ih h).imp_left fun ha => ha.trans (List.suffix_cons c a).isInfix

theorem after?_append (h : needle ≠ []) (rest : List Char) :
    after? needle (needle ++ rest) = some rest := by
  cases needle with
  | nil => exact absurd rfl h
  | cons c needle =>
      have hfront : (c :: needle).isPrefixOf (c :: (needle ++ rest)) = true :=
        List.isPrefixOf_iff_prefix.mpr (List.prefix_append (c :: needle) rest)
      rw [List.cons_append, after?, if_pos hfront, ← List.cons_append, List.drop_left]

/-- The pieces of a text that goes on without a cut after the last one. -/
theorem exists_mem_splitAt {s : List Char} (front : List Char) (hs : ∀ c ∈ s, cut c = false) :
    ∃ t, t ++ s ∈ splitAt cut (front ++ s) := by
  induction front with
  | nil =>
      refine ⟨[], ?_⟩
      rw [List.nil_append, splitAt_of_forall hs]
      exact List.mem_singleton.mpr rfl
  | cons c front ih =>
      obtain ⟨t, ht⟩ := ih
      rw [List.cons_append, splitAt]
      split
      · exact ⟨t, List.mem_cons_of_mem _ ht⟩
      · cases hpieces : splitAt cut (front ++ s) with
        | nil => exact absurd hpieces splitAt_ne_nil
        | cons first others =>
            rw [hpieces] at ht
            rcases List.mem_cons.mp ht with rfl | ht
            · exact ⟨c :: t, List.mem_cons_self⟩
            · exact ⟨t, List.mem_cons_of_mem _ ht⟩

end Storyboard.Dot
