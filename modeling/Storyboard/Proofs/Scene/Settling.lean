import Storyboard.Proofs.Scene.Forest
import Storyboard.Scene.Hierarchy

/-!
# Walks through the hierarchy

Moving an object settles what is below it: every descendant is put at its offset from its
parent. The walk visits the children of an object, last one first, and below each of them goes
on in the same way; in a forest no visit undoes another, because a visit moves nothing but
descendants, and the parent of a descendant that is settled is settled before it.

Main results:

- Theorem `Objects.settlesBelow_settle`: the walk down changes the positions of the descendants
  and nothing else, and leaves each of them at its offset.
- Theorem `Scene.climbsTo_iff`: the walk up meets an object exactly if it starts at or below it.
-/

namespace Storyboard

open Relation

/-- An object without its position. -/
def Entity.unplaced (e : Entity) : Entity := { e with pos := Point.zero }

namespace Objects

variable {t u v : Objects} {id x : EntityId}

/-! ## Objects at their offsets -/

/-- An object stands at its offset from its parent, if it has one. -/
def AtOffset (t : Objects) (c : EntityId) : Prop :=
  ∀ e p parent, t.get? c = some e → e.parent = some p → t.get? p = some parent →
    e.pos = parent.pos + e.offset

/-- Whether an object stands at its offset depends on itself and its parent only. -/
theorem AtOffset.congr (h : t.AtOffset x) (hx : u.get? x = t.get? x)
    (hp : ∀ p, t.IsParent p x → u.get? p = t.get? p) : u.AtOffset x := by
  intro e p parent he hparent hget
  rw [hx] at he
  rw [hp p ⟨e, he, hparent⟩] at hget
  exact h e p parent he hparent hget

/-! ## The walk down -/

/-- From the first table to the second, nothing but positions below the given objects changes,
and all objects below them are put at their offsets. -/
structure SettlesBelow (roots : List EntityId) (t u : Objects) : Prop where
  unplaced : Table.Agree Entity.unplaced u t
  outside : ∀ x, (∀ r ∈ roots, ¬ t.Below r x) → u.get? x = t.get? x
  inside : ∀ r ∈ roots, ∀ x, t.Below r x → u.AtOffset x

/-- Tables that differ in positions only have the same hierarchy. -/
theorem isParent_of_unplaced (h : Table.Agree Entity.unplaced u t) : u.IsParent = t.IsParent :=
  isParent_congr (h.mono Entity.ties)

theorem Tied.of_unplaced (ht : t.Tied) (h : Table.Agree Entity.unplaced u t) : u.Tied :=
  ht.of_agree (h.symm.mono Entity.ties)

theorem Forest.of_unplaced (ht : t.Forest) (h : Table.Agree Entity.unplaced u t) : u.Forest :=
  ht.of_agree (h.symm.mono Entity.ties)

/-- Settling below one object after another settles below all of them. -/
theorem settlesBelow_foldl {step : Objects → EntityId → Objects} (roots : List EntityId)
    (hstep : ∀ r ∈ roots, ∀ u, Table.Agree Entity.unplaced u t → SettlesBelow [r] u (step u r)) :
    SettlesBelow roots t (roots.foldl step t) := by
  induction roots generalizing t with
  | nil => exact ⟨.refl _ t, fun _ _ => rfl, by simp⟩
  | cons r roots ih =>
      have hfirst : SettlesBelow [r] t (step t r) := hstep r List.mem_cons_self t (.refl _ t)
      have hsame : (step t r).IsParent = t.IsParent := isParent_of_unplaced hfirst.unplaced
      have hrest : SettlesBelow roots (step t r) (roots.foldl step (step t r)) :=
        ih fun r' hr' u hu => hstep r' (List.mem_cons_of_mem r hr') u (hu.trans hfirst.unplaced)
      refine ⟨hrest.unplaced.trans hfirst.unplaced, ?_, ?_⟩
      · intro x hx
        rw [List.foldl_cons, hrest.outside x, hfirst.outside x]
        · intro r' hr'
          rw [List.mem_singleton.mp hr']
          exact hx r List.mem_cons_self
        · intro r' hr'
          rw [Below, hsame]
          exact hx r' (List.mem_cons_of_mem r hr')
      · intro r' hr' x hx
        rw [List.foldl_cons]
        by_cases hagain : ∃ r'' ∈ roots, t.Below r'' x
        · obtain ⟨r'', hr'', hx''⟩ := hagain
          exact hrest.inside r'' hr'' x (by rwa [Below, hsame])
        · -- No later visit reaches `x`, hence none reaches its parent.
          push Not at hagain
          have hr : r' = r := by
            rcases List.mem_cons.mp hr' with hr' | hr'
            · exact hr'
            · exact absurd hx (hagain r' hr')
          subst hr
          refine (hfirst.inside r' (List.mem_singleton.mpr rfl) x hx).congr ?_ ?_
          · apply hrest.outside
            intro r'' hr''
            rw [Below, hsame]
            exact hagain r'' hr''
          · intro p hp
            apply hrest.outside
            intro r'' hr'' hbelow
            rw [Below, hsame] at hbelow
            rw [hsame] at hp
            exact hagain r'' hr'' (hbelow.tail hp)

/-- The given objects, put at their offsets from a point. -/
def gather (origin : Point) (cs : List EntityId) (t : Objects) : Objects :=
  cs.foldl (fun t c => t.modify c (Scene.follow origin)) t

theorem get?_gather (origin : Point) (cs : List EntityId) (t : Objects) (x : EntityId) :
    (t.gather origin cs).get? x =
      if x ∈ cs then (t.get? x).map (Scene.follow origin) else t.get? x :=
  Table.get?_foldl_modify (by intro e; rfl) cs t x

theorem gather_agree (origin : Point) (cs : List EntityId) (t : Objects) :
    Table.Agree Entity.unplaced (t.gather origin cs) t := by
  unfold gather
  apply Table.Agree.foldl
  intro t c
  apply Table.Agree.modify
  intro e
  rfl

/-- The walk down changes nothing but positions, whatever the ties are. -/
theorem agree_settle (fuel : Nat) (id : EntityId) (t : Objects) :
    Table.Agree Entity.unplaced (Scene.settle fuel id t) t := by
  induction fuel generalizing id t with
  | zero => exact .refl _ t
  | succ fuel ih =>
      rw [Scene.settle]
      split
      · exact .refl _ t
      · exact (Table.Agree.foldl (fun t c => ih c t) _ _).trans (gather_agree _ _ t)

/-- Putting the children of an object at their offsets and then settling below each of them
settles below the object. -/
theorem settlesBelow_of_children {parent : Entity} {cs : List EntityId} (ht : t.Tied)
    (hparent : t.get? id = some parent) (hcs : ∀ c, c ∈ cs ↔ t.IsParent id c)
    (hu : SettlesBelow cs.reverse (t.gather parent.pos cs) u) : SettlesBelow [id] t u := by
  have hagree := gather_agree parent.pos cs t
  have hsame : (t.gather parent.pos cs).IsParent = t.IsParent := isParent_of_unplaced hagree
  have houtside : ∀ x, (∀ c ∈ cs, ¬ t.Below c x) → u.get? x = (t.gather parent.pos cs).get? x := by
    intro x hx
    apply hu.outside
    intro c hc
    rw [Below, hsame]
    exact hx c (List.mem_reverse.mp hc)
  have hid : u.get? id = some parent := by
    rw [houtside id, get?_gather, if_neg, hparent]
    · intro hc
      exact ht.ne ((hcs id).mp hc) rfl
    · intro c hc hbelow
      exact ht.acyclic id (.head ((hcs c).mp hc) hbelow)
  refine ⟨hu.unplaced.trans hagree, ?_, ?_⟩
  · intro x hx
    have hx : ¬ t.Below id x := hx id (List.mem_singleton.mpr rfl)
    rw [houtside x, get?_gather, if_neg]
    · intro hc
      exact hx (.single ((hcs x).mp hc))
    · intro c hc hbelow
      exact hx (.head ((hcs c).mp hc) hbelow)
  · intro r hr x hx
    rw [List.mem_singleton.mp hr] at hx
    by_cases hdeep : ∃ c ∈ cs, t.Below c x
    · obtain ⟨c, hc, hbelow⟩ := hdeep
      exact hu.inside c (List.mem_reverse.mpr hc) x (by rwa [Below, hsame])
    · -- What is below the object but below none of its children is one of its children.
      push Not at hdeep
      obtain ⟨c, hc, hrest⟩ := TransGen.head'_iff.mp hx
      have hx : t.IsParent id x := by
        rcases ReflTransGen.cases_head hrest with rfl | ⟨d, hd, hrest⟩
        · exact hc
        · exact absurd (TransGen.head' hd hrest) (hdeep c ((hcs c).mpr hc))
      intro e p e' he hp he'
      rw [houtside x hdeep, get?_gather, if_pos ((hcs x).mpr hx)] at he
      obtain ⟨old, hold, rfl⟩ := Option.map_eq_some_iff.mp he
      have hpid : p = id := IsParent.unique ⟨old, hold, hp⟩ hx
      rw [hpid, hid] at he'
      cases he'
      rfl

/-- The listed objects that are alive are the children of an object. -/
theorem Tied.mem_live_iff (ht : t.Tied) {parent : Entity} (hparent : t.get? id = some parent)
    (c : EntityId) : c ∈ parent.children.filter t.contains ↔ t.IsParent id c := by
  rw [List.mem_filter, ← lists_iff hparent, ht.lists_iff_isParent id c]
  constructor
  · exact fun h => h.1
  · intro hc
    obtain ⟨e, he⟩ := hc.child_live
    exact ⟨hc, by simp [Table.contains, he]⟩

/-- The walk down, if it may go deep enough, settles what is below an object. -/
theorem settlesBelow_settle {fuel : Nat} (ht : t.Tied)
    (hfuel : (t.reach t.IsParent id).card < fuel) :
    SettlesBelow [id] t (Scene.settle fuel id t) := by
  induction fuel generalizing t id with
  | zero => omega
  | succ fuel ih =>
      rw [Scene.settle]
      split
      · next hdead =>
        -- An object that is not alive has no children.
        have hnone : ∀ x, ¬ t.Below id x := by
          intro x hx
          obtain ⟨c, hc, -⟩ := TransGen.head'_iff.mp hx
          obtain ⟨e, he⟩ := ht.parent_live hc
          rw [hdead] at he
          cases he
        exact ⟨.refl _ t, fun _ _ => rfl, by simpa using fun x hx => absurd hx (hnone x)⟩
      · next parent hparent =>
        have hchild := ht.mem_live_iff hparent
        apply settlesBelow_of_children ht hparent hchild
        apply settlesBelow_foldl
        intro c hc u hu
        have hc : t.IsParent id c := (hchild c).mp (List.mem_reverse.mp hc)
        have hu : Table.Agree Entity.unplaced u t := hu.trans (gather_agree _ _ t)
        apply ih (ht.of_unplaced hu)
        rw [isParent_of_unplaced hu, reach_congr hu]
        have hlt := card_reach_lt ht.acyclic hc hc.child_live
        omega

end Objects

namespace Scene

variable {s : Scene}

open Objects

/-- Moving the descendants of an object after it settles what is below it. -/
theorem settlesBelow_repositionChildren (hs : Tied s.entities) (id : EntityId) :
    SettlesBelow [id] s.entities (s.repositionChildren id).entities := by
  apply settlesBelow_settle hs
  have hle := card_reach_le_size s.entities (IsParent s.entities) id
  rw [count]
  omega

theorem agree_repositionChildren (s : Scene) (id : EntityId) :
    Table.Agree Entity.unplaced (s.repositionChildren id).entities s.entities :=
  agree_settle (s.count + 1) id s.entities

theorem agree_putAt (s : Scene) (id : EntityId) (pos : Point) :
    Table.Agree Entity.unplaced (s.modify id (putAt pos)).entities s.entities := by
  apply Table.Agree.modify
  intro e
  rfl

/-- A move changes nothing but positions. -/
theorem agree_moveId {u : Scene} {id : EntityId} {pos : Point} (h : s.moveId id pos = .ok u) :
    Table.Agree Entity.unplaced u.entities s.entities ∧ u.names = s.names ∧
      u.nextId = s.nextId := by
  unfold moveId at h
  split at h
  · cases h
    exact ⟨.refl _ _, rfl, rfl⟩
  · split at h
    · cases h
    · cases h
      exact ⟨(agree_repositionChildren _ id).trans (agree_putAt s id pos), rfl, rfl⟩

/-! ## The walk up -/

/-- Fewer objects are above the parent of an object than above the object. -/
theorem card_reach_parent_lt (hs : Tied s.entities) {p c : EntityId}
    (h : IsParent s.entities p c) :
    (reach s.entities (Function.swap (IsParent s.entities)) p).card <
      (reach s.entities (Function.swap (IsParent s.entities)) c).card := by
  have hswap : ∀ x, ¬ TransGen (Function.swap (IsParent s.entities)) x x := by
    intro x hx
    exact hs.acyclic x (transGen_swap.mp hx)
  exact card_reach_lt hswap (x := c) (y := p) h (hs.parent_live h)

/-- The walk up, if it may be long enough, meets exactly the objects that its start is at or
below. -/
theorem climbsTo_iff_of_card_lt (hs : Tied s.entities) (goal : EntityId) {fuel : Nat}
    {id : EntityId}
    (hfuel : (reach s.entities (Function.swap (IsParent s.entities)) id).card < fuel) :
    s.climbsTo goal fuel (some id) = true ↔ AtOrBelow s.entities goal id := by
  induction fuel generalizing id with
  | zero => omega
  | succ fuel ih =>
      rw [climbsTo, Bool.or_eq_true, beq_iff_eq, AtOrBelow, ReflTransGen.cases_tail_iff]
      apply or_congr Iff.rfl
      cases hparent : (s.entity? id).bind Entity.parent with
      | none =>
          have hstop : s.climbsTo goal fuel none = false := by cases fuel <;> rfl
          rw [hstop]
          constructor
          · intro h
            cases h
          · rintro ⟨p, -, e, he, hp⟩
            rw [entity?, he, Option.bind_some, hp] at hparent
            cases hparent
      | some p =>
          obtain ⟨e, he, hp⟩ := Option.bind_eq_some_iff.mp hparent
          have hpid : IsParent s.entities p id := ⟨e, he, hp⟩
          have hlt := card_reach_parent_lt hs hpid
          rw [ih (by omega)]
          constructor
          · intro hgoal
            exact ⟨p, hgoal, hpid⟩
          · rintro ⟨q, hgoal, hq⟩
            rwa [hpid.unique hq]

/-- The walk up from an object meets exactly the objects that it is at or below. -/
theorem climbsTo_iff (hs : Tied s.entities) (goal id : EntityId) :
    s.climbsTo goal (s.count + 1) (some id) = true ↔ AtOrBelow s.entities goal id := by
  apply climbsTo_iff_of_card_lt hs
  have hle := card_reach_le_size s.entities (Function.swap (IsParent s.entities)) id
  rw [count]
  omega

end Scene

end Storyboard
