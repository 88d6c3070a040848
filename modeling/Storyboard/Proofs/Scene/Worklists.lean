import Mathlib.Data.Multiset.AddSub
import Storyboard.Proofs.Scene.Assembly
import Storyboard.Proofs.Scene.Ticking

/-!
# Walks in any order

The walk down from an object can be run from a worklist. Any pending object is taken off; if it is
alive, its living children are put at their offsets from it, and they are pending from then on. On a
forest it does not matter which object is taken off: an object comes onto the worklist once, after
it has been put in its place, so it is visited once, and nothing that it stands at an offset from is
moved later. Every descendant is written once, and the walk ends where the bounded one does.

What has happened so far is determined by the objects that have been visited: an object has been
written exactly if its parent has been visited. This invariant carries all of the rest.

Main results:

- Definitions `Worklist.Step` and `Worklist.Walk`: one visit, and the walks of a number of visits.
- Theorem `Worklist.Walk.underway`: what every walk has done at any time.
- Theorem `Objects.SettlesBelow.unique`: there is one way to settle what is below an object.
- Theorem `Scene.descendants_written_once`: walks end, whatever their order, and all of them where
  the bounded walk does.
-/

namespace Storyboard

open Relation

/-! ## One way to settle -/

namespace Objects

variable {t u v : Objects} {id x : EntityId}

/-- Where an object is settled follows from where its parent is. -/
theorem get?_eq_of_parent (ht : t.Tied) (hu : SettlesBelow [id] t u) (hv : SettlesBelow [id] t v)
    (hx : t.Below id x) {p : EntityId} (hp : t.IsParent p x) (hsame : u.get? p = v.get? p) :
    u.get? x = v.get? x := by
  obtain ⟨e, he, hparent⟩ := hp
  obtain ⟨parent, hlive⟩ := ht.parent_live ⟨e, he, hparent⟩
  obtain ⟨a, ha, -⟩ := hu.unplaced.symm.exists_of_get? hlive
  obtain ⟨y, hy, hyt⟩ := hu.unplaced.symm.exists_of_get? he
  obtain ⟨z, hz, hzt⟩ := hv.unplaced.symm.exists_of_get? he
  have hties : ∀ w : Entity, w.unplaced = e.unplaced → w.parent = some p ∧ w.offset = e.offset := by
    intro w hw
    have hwparent : w.unplaced.parent = e.unplaced.parent := congrArg Entity.parent hw
    have hwoffset : w.unplaced.offset = e.unplaced.offset := congrArg Entity.offset hw
    exact ⟨hwparent.trans hparent, hwoffset⟩
  have hypos : y.pos = a.pos + y.offset :=
    hu.inside id (List.mem_singleton.mpr rfl) x hx y p a hy (hties y hyt).1 ha
  have hzpos : z.pos = a.pos + z.offset :=
    hv.inside id (List.mem_singleton.mpr rfl) x hx z p a hz (hties z hzt).1 (hsame ▸ ha)
  rw [hy, hz, Entity.eq_of_unplaced (hyt.trans hzt.symm)]
  rw [hypos, hzpos, (hties y hyt).2, (hties z hzt).2]

/-- What is below an object can be settled in one way only. -/
theorem SettlesBelow.unique (ht : t.Tied) (hu : SettlesBelow [id] t u)
    (hv : SettlesBelow [id] t v) : u = v := by
  have houtside : ∀ x, ¬ t.Below id x → u.get? x = v.get? x := by
    intro x hx
    rw [hu.outside x (by simpa using hx), hv.outside x (by simpa using hx)]
  apply Table.ext_get?
  intro x
  by_cases hx : t.Below id x
  · induction hx with
    | single hp =>
        exact get?_eq_of_parent ht hu hv (.single hp) hp (houtside id (ht.acyclic id))
    | tail hb hp ih => exact get?_eq_of_parent ht hu hv (hb.tail hp) hp ih
  · exact houtside x hx

end Objects

/-! ## Worklists -/

/-- A walk on its way: the objects whose children are still to be moved, in no order, the objects as
they are, and the writes that have been made, each of an object and the point that it was put at its
offset from. -/
structure Worklist where
  pending : Multiset EntityId
  objects : Objects
  writes : List (EntityId × Point)

namespace Worklist

open Objects

variable {t : Objects} {id : EntityId} {n : Nat} {w w' : Worklist}

/-- Nothing but one object is pending, and nothing has been written. -/
def start (id : EntityId) (t : Objects) : Worklist := ⟨{id}, t, []⟩

/-- Puts an object at its offset from a point. -/
def write (t : Objects) (entry : EntityId × Point) : Objects :=
  t.modify entry.1 (Scene.follow entry.2)

/-- The objects that have been written, as often as they have been. -/
def written (w : Worklist) : List EntityId := w.writes.map Prod.fst

/-- The writes that a visit of an object makes: one for each living child. -/
def childWrites (t : Objects) (parent : Entity) : List (EntityId × Point) :=
  (parent.children.filter t.contains).map fun c => (c, parent.pos)

/-- Any pending object is taken off. If it is alive, its living children are put at their offsets
from it, one after the other, and they are pending. -/
inductive Step : Worklist → Worklist → Prop
  | gone {id : EntityId} {rest : Multiset EntityId} {t : Objects}
      {writes : List (EntityId × Point)} : t.get? id = none →
      Step ⟨id ::ₘ rest, t, writes⟩ ⟨rest, t, writes⟩
  | visit {id : EntityId} {rest : Multiset EntityId} {t : Objects}
      {writes : List (EntityId × Point)} {parent : Entity} : t.get? id = some parent →
      Step ⟨id ::ₘ rest, t, writes⟩
        ⟨↑((childWrites t parent).map Prod.fst) + rest, (childWrites t parent).foldl write t,
          writes ++ childWrites t parent⟩

/-- A walk of so many steps down from an object. -/
inductive Walk (id : EntityId) (t : Objects) : Nat → Worklist → Prop
  | start : Walk id t 0 (start id t)
  | next {n : Nat} {w w' : Worklist} : Walk id t n w → Step w w' → Walk id t (n + 1) w'

/-- A walk can go on while anything is pending. -/
theorem exists_step (h : w.pending ≠ 0) : ∃ w', Step w w' := by
  obtain ⟨pending, t, writes⟩ := w
  obtain ⟨id, hid⟩ := Multiset.exists_mem_of_ne_zero h
  obtain ⟨rest, rfl⟩ := Multiset.exists_cons_of_mem hid
  cases hlive : t.get? id with
  | none => exact ⟨_, .gone hlive⟩
  | some parent => exact ⟨_, .visit hlive⟩

/-! ## Writes -/

theorem map_fst_childWrites (t : Objects) (parent : Entity) :
    (childWrites t parent).map Prod.fst = parent.children.filter t.contains := by
  rw [childWrites, List.map_map]
  exact List.map_id _

theorem foldl_childWrites (t : Objects) (parent : Entity) :
    (childWrites t parent).foldl write t =
      t.gather parent.pos (parent.children.filter t.contains) := by
  rw [childWrites, List.foldl_map]
  rfl

/-- Writes change positions only. -/
theorem agree_foldl_write (writes : List (EntityId × Point)) (t : Objects) :
    Table.Agree Entity.unplaced (writes.foldl write t) t := by
  apply Table.Agree.foldl
  intro t entry
  apply Table.Agree.modify
  intro e
  rfl

/-- What has not been written is as it was. -/
theorem get?_foldl_write {writes : List (EntityId × Point)} {x : EntityId}
    (hx : x ∉ writes.map Prod.fst) (t : Objects) : (writes.foldl write t).get? x = t.get? x := by
  induction writes generalizing t with
  | nil => rfl
  | cons entry writes ih =>
      rw [List.map_cons, List.mem_cons, not_or] at hx
      rw [List.foldl_cons, ih hx.2, write, Table.get?_modify, if_neg hx.1]

/-! ## The invariant -/

/-- The walk has come to an object and is done with it: it is the first one, or it has been written,
and it is not pending. -/
def Visited (id : EntityId) (w : Worklist) (x : EntityId) : Prop :=
  x ∈ id :: w.written ∧ x ∉ w.pending

/-- What a walk down from an object has done after a number of steps. -/
structure Underway (id : EntityId) (t : Objects) (n : Nat) (w : Worklist) : Prop where
  objects_eq : w.objects = w.writes.foldl write t
  /-- Nothing has been written twice, and the first object not at all. -/
  nodup : (id :: w.written).Nodup
  /-- What is pending has been put in its place, and is pending once. -/
  pending_le : w.pending ≤ ↑(id :: w.written)
  /-- An object has been written exactly if its parent has been visited. -/
  written_iff : ∀ c, c ∈ w.written ↔ ∃ p, t.IsParent p c ∧ w.Visited id p
  below : ∀ c ∈ w.written, t.Below id c
  atOffset : ∀ c ∈ w.written, w.objects.AtOffset c
  /-- Each step has taken one object off. -/
  count : n + w.pending.card = w.written.length + 1

theorem underway_start (id : EntityId) (t : Objects) : Underway id t 0 (start id t) where
  objects_eq := rfl
  nodup := by simp [start, written]
  pending_le := by simp [start, written]
  written_iff := by simp [start, written, Visited]
  below := by simp [start, written]
  atOffset := by simp [start, written]
  count := by simp [start, written]

namespace Underway

theorem unplaced (h : Underway id t n w) : Table.Agree Entity.unplaced w.objects t :=
  h.objects_eq ▸ agree_foldl_write w.writes t

/-- What is pending is the first object or has been written. -/
theorem mem_of_pending {x : EntityId} {rest : Multiset EntityId} {u : Objects}
    {writes : List (EntityId × Point)} (h : Underway id t n ⟨x ::ₘ rest, u, writes⟩) :
    x ∈ id :: writes.map Prod.fst :=
  Multiset.mem_coe.mp (Multiset.mem_of_le h.pending_le (Multiset.mem_cons_self x rest))

/-- The children of what is pending are below the first object. -/
theorem below_of_pending {x c : EntityId} {rest : Multiset EntityId} {u : Objects}
    {writes : List (EntityId × Point)} (h : Underway id t n ⟨x ::ₘ rest, u, writes⟩)
    (hc : t.IsParent x c) : t.Below id c := by
  rcases List.mem_cons.mp h.mem_of_pending with rfl | hx
  · exact .single hc
  · exact (h.below x hx).tail hc

/-- What has been taken off counts as visited, besides what has been visited before. -/
theorem visited_iff {x : EntityId} {rest : Multiset EntityId} {u : Objects}
    {writes : List (EntityId × Point)} (h : Underway id t n ⟨x ::ₘ rest, u, writes⟩)
    (p : EntityId) : p ∈ id :: writes.map Prod.fst ∧ p ∉ rest ↔
      p = x ∨ Visited id ⟨x ::ₘ rest, u, writes⟩ p := by
  have hpending : (x ::ₘ rest).Nodup := Multiset.nodup_of_le h.pending_le h.nodup
  have hx : x ∉ rest := (Multiset.nodup_cons.mp hpending).1
  by_cases hp : p = x
  · subst hp
    simp [hx, h.mem_of_pending]
  · simp [Visited, written, hp]

/-- An object that is not alive has no children to move. -/
theorem gone {x : EntityId} {rest : Multiset EntityId} {u : Objects}
    {writes : List (EntityId × Point)} (ht : t.Tied)
    (h : Underway id t n ⟨x ::ₘ rest, u, writes⟩) (hdead : u.get? x = none) :
    Underway id t (n + 1) ⟨rest, u, writes⟩ where
  objects_eq := h.objects_eq
  nodup := h.nodup
  pending_le := (Multiset.le_cons_self rest x).trans h.pending_le
  written_iff := by
    intro c
    refine (h.written_iff c).trans (exists_congr fun p => and_congr_right fun hp => ?_)
    have hne : p ≠ x := by
      rintro rfl
      obtain ⟨parent, hlive⟩ := ht.parent_live hp
      obtain ⟨e, he, -⟩ := h.unplaced.symm.exists_of_get? hlive
      rw [hdead] at he
      cases he
    exact ((h.visited_iff p).trans (or_iff_right hne)).symm
  below := h.below
  atOffset := h.atOffset
  count := by
    have hcount := h.count
    rw [Multiset.card_cons] at hcount
    simp only [written] at hcount ⊢
    omega

section Visit

variable {x : EntityId} {rest : Multiset EntityId} {u : Objects}
  {writes : List (EntityId × Point)} {parent : Entity} (ht : t.Tied)
  (h : Underway id t n ⟨x ::ₘ rest, u, writes⟩) (hlive : u.get? x = some parent)

include ht h hlive

/-- A visit writes the children of an object. -/
theorem mem_childWrites_iff (c : EntityId) :
    c ∈ (childWrites u parent).map Prod.fst ↔ t.IsParent x c := by
  rw [map_fst_childWrites, (ht.of_unplaced h.unplaced).mem_live_iff hlive,
    isParent_of_unplaced h.unplaced]

/-- The children of a pending object have not been written. -/
theorem not_mem_of_mem_childWrites {c : EntityId} (hc : c ∈ (childWrites u parent).map Prod.fst) :
    c ∉ id :: writes.map Prod.fst := by
  have hxc : t.IsParent x c := (h.mem_childWrites_iff ht hlive c).mp hc
  rw [List.mem_cons, not_or]
  constructor
  · rintro rfl
    -- The first object is not below itself.
    exact ht.acyclic c (h.below_of_pending hxc)
  · intro hwritten
    obtain ⟨p, hp, -, hpending⟩ := (h.written_iff c).mp hwritten
    rw [hp.unique hxc] at hpending
    exact hpending (Multiset.mem_cons_self x rest)

/-- After a visit the object counts as visited, and its children do not. -/
theorem visited_visit_iff (p : EntityId) :
    Visited id ⟨↑((childWrites u parent).map Prod.fst) + rest, (childWrites u parent).foldl write u,
        writes ++ childWrites u parent⟩ p ↔
      p = x ∨ Visited id ⟨x ::ₘ rest, u, writes⟩ p := by
  rw [← h.visited_iff p]
  have hnew := h.not_mem_of_mem_childWrites ht hlive (c := p)
  simp only [Visited, written, List.map_append, Multiset.mem_add, Multiset.mem_coe] at hnew ⊢
  constructor
  · rintro ⟨hp, hpending⟩
    rw [not_or] at hpending
    rw [← List.cons_append, List.mem_append] at hp
    exact ⟨hp.resolve_right hpending.1, hpending.2⟩
  · rintro ⟨hp, hpending⟩
    rw [← List.cons_append, List.mem_append]
    exact ⟨.inl hp, not_or.mpr ⟨fun hc => hnew hc hp, hpending⟩⟩

/-- The children of an object are at their offsets after it has been visited. -/
theorem atOffset_visit {c : EntityId} (hc : c ∈ (childWrites u parent).map Prod.fst) :
    ((childWrites u parent).foldl write u).AtOffset c := by
  have hxc : t.IsParent x c := (h.mem_childWrites_iff ht hlive c).mp hc
  have hx : ((childWrites u parent).foldl write u).get? x = some parent := by
    have hself : x ∉ (childWrites u parent).map Prod.fst := by
      intro hself
      exact ht.ne ((h.mem_childWrites_iff ht hlive x).mp hself) rfl
    rw [get?_foldl_write hself, hlive]
  intro e p a he hp ha
  rw [map_fst_childWrites] at hc
  rw [foldl_childWrites, get?_gather, if_pos hc] at he
  obtain ⟨old, hold, rfl⟩ := Option.map_eq_some_iff.mp he
  have hpx : p = x := by
    rw [← isParent_of_unplaced h.unplaced] at hxc
    exact IsParent.unique ⟨old, hold, hp⟩ hxc
  rw [hpx, hx] at ha
  cases ha
  rfl

/-- What was at its offset stays there, because neither it nor its parent is written again. -/
theorem atOffset_kept {c : EntityId} (hc : c ∈ writes.map Prod.fst) :
    ((childWrites u parent).foldl write u).AtOffset c := by
  obtain ⟨p, hp, hfound, -⟩ := (h.written_iff c).mp hc
  have hkept : ∀ y ∈ id :: writes.map Prod.fst,
      ((childWrites u parent).foldl write u).get? y = u.get? y := by
    intro y hy
    apply get?_foldl_write
    intro hvisit
    exact h.not_mem_of_mem_childWrites ht hlive hvisit hy
  refine (h.atOffset c hc).congr (hkept c (List.mem_cons_of_mem id hc)) ?_
  intro q hq
  rw [isParent_of_unplaced h.unplaced] at hq
  rw [hq.unique hp]
  exact hkept p hfound

/-- Visiting an object keeps the invariant. -/
theorem visit (hnodup : ∀ {p e}, t.get? p = some e → e.children.Nodup) :
    Underway id t (n + 1)
      ⟨↑((childWrites u parent).map Prod.fst) + rest, (childWrites u parent).foldl write u,
        writes ++ childWrites u parent⟩ where
  objects_eq := by
    have hsofar : u = writes.foldl write t := h.objects_eq
    rw [List.foldl_append, ← hsofar]
  nodup := by
    obtain ⟨e, he, hsame⟩ := h.unplaced.exists_of_get? hlive
    have hunplaced : e.unplaced.children = parent.unplaced.children :=
      congrArg Entity.children hsame
    have hchildren : e.children = parent.children := hunplaced
    have hlisted : parent.children.Nodup := hchildren ▸ hnodup he
    rw [written, List.map_append, ← List.cons_append]
    refine h.nodup.append (map_fst_childWrites u parent ▸ hlisted.filter _) ?_
    intro c hold hc
    exact h.not_mem_of_mem_childWrites ht hlive hc hold
  pending_le := by
    have hrest : rest ≤ ↑(id :: writes.map Prod.fst) :=
      (Multiset.le_cons_self rest x).trans h.pending_le
    have hfound : (↑(id :: (writes ++ childWrites u parent).map Prod.fst) : Multiset EntityId) =
        ↑((childWrites u parent).map Prod.fst) + ↑(id :: writes.map Prod.fst) := by
      rw [List.map_append, ← List.cons_append, ← Multiset.coe_add, Multiset.add_comm]
    rw [written, hfound]
    exact Multiset.add_le_add_left hrest
  written_iff := by
    intro c
    rw [written, List.map_append, List.mem_append, h.mem_childWrites_iff ht hlive]
    simp only [h.visited_visit_iff ht hlive]
    rw [show c ∈ writes.map Prod.fst ↔ _ from h.written_iff c]
    constructor
    · rintro (⟨p, hp, hvisited⟩ | hx)
      · exact ⟨p, hp, .inr hvisited⟩
      · exact ⟨x, hx, .inl rfl⟩
    · rintro ⟨p, hp, rfl | hvisited⟩
      · exact .inr hp
      · exact .inl ⟨p, hp, hvisited⟩
  below := by
    intro c hc
    rw [written, List.map_append, List.mem_append] at hc
    rcases hc with hc | hc
    · exact h.below c hc
    · exact h.below_of_pending ((h.mem_childWrites_iff ht hlive c).mp hc)
  atOffset := by
    intro c hc
    rw [written, List.map_append, List.mem_append] at hc
    rcases hc with hc | hc
    · exact h.atOffset_kept ht hlive hc
    · exact h.atOffset_visit ht hlive hc
  count := by
    have hcount := h.count
    rw [Multiset.card_cons] at hcount
    simp only [written, List.map_append, List.length_append, List.length_map, Multiset.card_add,
      Multiset.coe_card] at hcount ⊢
    omega

end Visit

end Underway

/-- What every walk has done at any time. -/
theorem Walk.underway (ht : t.Tied) (hnodup : ∀ {p e}, t.get? p = some e → e.children.Nodup)
    (h : Walk id t n w) : Underway id t n w := by
  induction h with
  | start => exact underway_start id t
  | next _ hstep ih =>
      cases hstep with
      | gone hdead => exact ih.gone ht hdead
      | visit hlive => exact ih.visit ht hlive hnodup

namespace Underway

/-- No walk has more steps than there are descendants, and one for the object. -/
theorem le_card (h : Underway id t n w) : n ≤ (t.reach t.IsParent id).card + 1 := by
  classical
  have hsubset : w.written.toFinset ⊆ t.reach t.IsParent id := by
    intro x hx
    have hbelow : t.Below id x := h.below x (List.mem_toFinset.mp hx)
    obtain ⟨p, -, hp⟩ := TransGen.tail'_iff.mp hbelow
    simp only [reach, Finset.mem_filter, List.mem_toFinset]
    exact ⟨(t.mem_keys_iff x).mpr hp.child_live, hbelow⟩
  have hle := Finset.card_le_card hsubset
  rw [List.toFinset_card_of_nodup h.nodup.of_cons] at hle
  have hcount := h.count
  omega

/-- When nothing is pending any more, all descendants have been written. -/
theorem mem_written (h : Underway id t n w) (hdone : w.pending = 0) {x : EntityId}
    (hx : t.Below id x) : x ∈ w.written := by
  have hvisited : ∀ {p c}, p ∈ id :: w.written → t.IsParent p c → c ∈ w.written := by
    intro p c hp hpc
    exact (h.written_iff c).mpr ⟨p, hpc, hp, by simp [hdone]⟩
  induction hx with
  | single hp => exact hvisited List.mem_cons_self hp
  | tail _ hp ih => exact hvisited (List.mem_cons_of_mem id ih) hp

/-- Then what is below the object is settled. -/
theorem settlesBelow (h : Underway id t n w) (hdone : w.pending = 0) :
    SettlesBelow [id] t w.objects where
  unplaced := h.unplaced
  outside := by
    intro x hx
    rw [h.objects_eq]
    apply get?_foldl_write
    intro hwritten
    exact hx id (List.mem_singleton.mpr rfl) (h.below x hwritten)
  inside := by
    intro r hr x hx
    rw [List.mem_singleton.mp hr] at hx
    exact h.atOffset x (h.mem_written hdone hx)

end Underway

/-- Every walk can be gone on with to its end. -/
theorem Walk.exists_end (ht : t.Tied) (hnodup : ∀ {p e}, t.get? p = some e → e.children.Nodup)
    (h : Walk id t n w) : ∃ m u, Walk id t m u ∧ u.pending = 0 := by
  -- The steps that are left are bounded.
  induction hleft : (t.reach t.IsParent id).card + 1 - n generalizing n w with
  | zero =>
      by_cases hdone : w.pending = 0
      · exact ⟨n, w, h, hdone⟩
      · obtain ⟨w', hstep⟩ := exists_step hdone
        have hle := ((h.next hstep).underway ht hnodup).le_card
        omega
  | succ left ih =>
      by_cases hdone : w.pending = 0
      · exact ⟨n, w, h, hdone⟩
      · obtain ⟨w', hstep⟩ := exists_step hdone
        exact ih (h.next hstep) (by omega)

end Worklist

/-! ## The bounded walk -/

namespace Scene

open Objects Worklist

/-- Where the descendants of an object were before makes no difference to where they are moved. -/
theorem repositionChildren_of_agree {s : Scene} {id : EntityId} (ht : Tied s.entities) {t : Objects}
    (hunplaced : Table.Agree Entity.unplaced t s.entities)
    (houtside : ∀ x, ¬ Below s.entities id x → t.get? x = s.entity? x) :
    repositionChildren { s with entities := t } id = s.repositionChildren id := by
  have hsame : IsParent t = IsParent s.entities := isParent_of_unplaced hunplaced
  have hother : SettlesBelow [id] t (repositionChildren { s with entities := t } id).entities :=
    settlesBelow_repositionChildren (s := { s with entities := t }) (ht.of_unplaced hunplaced) id
  have hagain : SettlesBelow [id] s.entities
      (repositionChildren { s with entities := t } id).entities := by
    refine ⟨hother.unplaced.trans hunplaced, ?_, ?_⟩
    · intro x hx
      rw [hother.outside x (by rwa [Below, hsame]), houtside x (by simpa using hx)]
      rfl
    · intro r hr x hx
      exact hother.inside r hr x (by rwa [Below, hsame])
  exact congrArg (fun objects : Objects => { s with entities := objects })
    (hagain.unique ht (settlesBelow_repositionChildren ht id))

/-- If both directions of the hierarchy agree, nothing is listed twice and there is no cycle, then
all that is below an object is moved after it, in whatever order the pending objects are taken off:
no walk has more steps than there are descendants and one, and a walk ends only when nothing is
pending; it never writes anything but descendants, nor any of them twice; and at its end it has
written them all, and the objects are those of the bounded walk. Each descendant is then at its
offset from its parent, everything else is as it was, and it makes no difference where the
descendants were before. -/
theorem descendants_written_once (s : Scene) (id : EntityId)
    (hsymmetric : ∀ p c, Lists s.entities p c ↔ IsParent s.entities p c)
    (hnodup : ∀ p e, s.entity? p = some e → e.children.Nodup)
    (hacyclic : ∀ p, ¬ Below s.entities p p) :
    (∀ n w, Walk id s.entities n w →
      n ≤ (reach s.entities (IsParent s.entities) id).card + 1 ∧
      (w.pending ≠ 0 → ∃ w', Step w w') ∧
      w.objects = w.writes.foldl write s.entities ∧
      w.written.Nodup ∧ (∀ x ∈ w.written, Below s.entities id x) ∧
      (w.pending = 0 → (∀ x, Below s.entities id x → x ∈ w.written) ∧
        w.objects = (s.repositionChildren id).entities)) ∧
    (∃ n w, Walk id s.entities n w ∧ w.pending = 0) ∧
    (∀ d, Below s.entities id d → ∃ p a e, (s.repositionChildren id).entity? p = some a ∧
      (s.repositionChildren id).entity? d = some e ∧ e.parent = some p ∧
      e.pos = a.pos + e.offset) ∧
    (∀ x, ¬ Below s.entities id x → (s.repositionChildren id).entity? x = s.entity? x) ∧
    Table.Agree Entity.unplaced (s.repositionChildren id).entities s.entities ∧
    ∀ t, Table.Agree Entity.unplaced t s.entities →
      (∀ x, ¬ Below s.entities id x → t.get? x = s.entity? x) →
      repositionChildren { s with entities := t } id = s.repositionChildren id := by
  have ht : Tied s.entities := ⟨hsymmetric, hacyclic⟩
  have hsettled := settlesBelow_repositionChildren ht id
  refine ⟨?_, ?_, ?_, ?_, hsettled.unplaced, ?_⟩
  · intro n w hwalk
    have h := hwalk.underway ht fun hp => hnodup _ _ hp
    refine ⟨h.le_card, exists_step, h.objects_eq, h.nodup.of_cons, h.below, fun hdone => ?_⟩
    exact ⟨fun x hx => h.mem_written hdone hx, (h.settlesBelow hdone).unique ht hsettled⟩
  · exact Walk.start.exists_end ht fun hp => hnodup _ _ hp
  · intro d hd
    have hafter := ht.of_unplaced hsettled.unplaced
    have hbelow : Below (s.repositionChildren id).entities id d := by
      rwa [Below, isParent_of_unplaced hsettled.unplaced]
    obtain ⟨p, -, hp⟩ := TransGen.tail'_iff.mp hbelow
    obtain ⟨a, ha⟩ := hafter.parent_live hp
    obtain ⟨e, he, hparent⟩ := hp
    exact ⟨p, a, e, ha, he, hparent,
      hsettled.inside id (List.mem_singleton.mpr rfl) d hd e p a he hparent ha⟩
  · intro x hx
    exact hsettled.outside x (by simpa using hx)
  · exact fun t hunplaced houtside => repositionChildren_of_agree ht hunplaced houtside

/-- A row of three objects, each of which follows the one before, with the first and the last of
them put somewhere else. -/
def scattered : Scene :=
  let row := ((((Scene.empty default).add (spot 1 "a")).add (spot 2 "b")).add (spot 3 "c"))
  (((row.tether "b" "a").tether "c" "b").modify 1 (putAt ⟨5, 5⟩)).modify 3 (putAt ⟨9, 9⟩)

theorem Sound.tether {s : Scene} (hs : s.Sound) (child parent : String) :
    (s.tether child parent).Sound := by
  unfold Scene.tether
  split
  · next h => exact hs.attach h
  · exact hs

theorem forest_scattered : Forest scattered.entities := by
  have hrow :
      Sound ((((Scene.empty default).add (spot 1 "a")).add (spot 2 "b")).add (spot 3 "c")) :=
    (((Sound.empty default).add rfl rfl rfl rfl).add rfl rfl rfl rfl).add rfl rfl rfl rfl
  have htied := (hrow.tether "b" "a").tether "c" "b"
  exact (htied.objects.forest.of_unplaced (agree_putAt _ 1 ⟨5, 5⟩)).of_unplaced
    (agree_putAt _ 3 ⟨9, 9⟩)

/-- A walk from the first object writes the last one, which comes to stand where the first is. -/
theorem descendants_written_once_scattered :
    (∀ p c, Lists scattered.entities p c ↔ IsParent scattered.entities p c) ∧
    (∀ p e, scattered.entity? p = some e → e.children.Nodup) ∧
    (∀ p, ¬ Below scattered.entities p p) ∧
    (∃ n w, Walk 1 scattered.entities n w ∧ w.pending = 0 ∧ w.written.Nodup ∧ 3 ∈ w.written ∧
      w.objects = (scattered.repositionChildren 1).entities) ∧
    ((scattered.repositionChildren 1).entity? 3).map Entity.pos = some ⟨5, 5⟩ := by
  have hforest := forest_scattered
  obtain ⟨hwalks, ⟨n, w, hwalk, hdone⟩, -⟩ := descendants_written_once scattered 1
    hforest.lists_iff_isParent (fun _ _ hp => hforest.nodup_children hp) hforest.acyclic
  obtain ⟨-, -, -, hnodup, -, hend⟩ := hwalks n w hwalk
  obtain ⟨hwritten, hobjects⟩ := hend hdone
  have hsecond : (scattered.entity? 2).map Entity.parent = some (some 1) := by decide +kernel
  have hthird : (scattered.entity? 3).map Entity.parent = some (some 2) := by decide +kernel
  have hbelow : Below scattered.entities 1 3 :=
    .tail (.single (Option.map_eq_some_iff.mp hsecond)) (Option.map_eq_some_iff.mp hthird)
  exact ⟨hforest.lists_iff_isParent, fun _ _ hp => hforest.nodup_children hp, hforest.acyclic,
    ⟨n, w, hwalk, hdone, hnodup, hwritten 3 hbelow, hobjects⟩, by decide +kernel⟩

end Scene

end Storyboard
