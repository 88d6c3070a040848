import Mathlib.Data.Finset.Card
import Mathlib.Logic.Relation
import Storyboard.Proofs.Table
import Storyboard.Scene.Basic

/-!
# The hierarchy as a forest

Every object names its parent and lists its children. The two directions are kept by separate
updates, so that they agree is a property of the table of objects, not of its type. The ties of a
table are in order if the directions agree and the parent relation has no cycle; the table is a
forest if, besides, nothing is listed twice and free objects have no offset.

The walks through the hierarchy are bounded by the number of objects. That this is enough
follows from a measure: a step away from an object strictly shrinks the set of objects that
can still be reached, and this set has no more members than the table.

Main results:

- Theorems `Tied.of_agree` and `Forest.of_agree`: being tied and being a forest depend on parents,
  offsets and children only.
- Theorem `card_reach_lt`: one step along an acyclic relation shrinks what can be reached.
- Theorem `card_reach_le_size`: what can be reached is no more than the table holds.
-/

namespace Storyboard

open Relation

/-- The objects of a scene by identifier. -/
abbrev Objects := Table EntityId Entity

namespace Objects

variable {t u : Objects} {p c : EntityId}

/-- The first object is alive and lists the second as a child. -/
def Lists (t : Objects) (p c : EntityId) : Prop := ∃ e, t.get? p = some e ∧ c ∈ e.children

/-- The second object is alive and names the first as its parent. -/
def IsParent (t : Objects) (p c : EntityId) : Prop := ∃ e, t.get? c = some e ∧ e.parent = some p

/-- The second object is below the first, at any depth. -/
abbrev Below (t : Objects) : EntityId → EntityId → Prop := TransGen t.IsParent

/-- The second object is the first or below it. -/
abbrev AtOrBelow (t : Objects) : EntityId → EntityId → Prop := ReflTransGen t.IsParent

/-- An object has one parent at most. -/
theorem IsParent.unique {p p' : EntityId} (h : t.IsParent p c) (h' : t.IsParent p' c) :
    p = p' := by
  obtain ⟨e, he, hp⟩ := h
  obtain ⟨e', he', hp'⟩ := h'
  rw [he] at he'
  cases he'
  rw [hp] at hp'
  cases hp'
  rfl

/-- The parent that a live object names. -/
theorem isParent_iff {e : Entity} (he : t.get? c = some e) :
    t.IsParent p c ↔ e.parent = some p := by
  constructor
  · rintro ⟨e', he', hp⟩
    rw [he] at he'
    cases he'
    exact hp
  · intro hp
    exact ⟨e, he, hp⟩

/-- The children that a live object lists. -/
theorem lists_iff {e : Entity} (he : t.get? p = some e) : t.Lists p c ↔ c ∈ e.children := by
  constructor
  · rintro ⟨e', he', hc⟩
    rw [he] at he'
    cases he'
    exact hc
  · intro hc
    exact ⟨e, he, hc⟩

end Objects

/-! ## Ties -/

/-- What an object says about its place in the hierarchy. -/
structure Ties where
  parent : Option EntityId
  offset : Point
  children : List EntityId

/-- The ties of an object. -/
def Entity.ties (e : Entity) : Ties := ⟨e.parent, e.offset, e.children⟩

namespace Objects

variable {t u : Objects} {p c : EntityId}

theorem Lists.of_agree (h : Table.Agree Entity.ties t u) (hc : t.Lists p c) : u.Lists p c := by
  obtain ⟨e, he, hmem⟩ := hc
  obtain ⟨e', he', hties⟩ := h.exists_of_get? he
  have hchildren : e'.children = e.children := congrArg Ties.children hties
  exact ⟨e', he', hchildren ▸ hmem⟩

theorem IsParent.of_agree (h : Table.Agree Entity.ties t u) (hc : t.IsParent p c) :
    u.IsParent p c := by
  obtain ⟨e, he, hp⟩ := hc
  obtain ⟨e', he', hties⟩ := h.exists_of_get? he
  have hparent : e'.parent = e.parent := congrArg Ties.parent hties
  exact ⟨e', he', hparent.trans hp⟩

/-- Tables that agree in their ties have the same hierarchy. -/
theorem isParent_congr (h : Table.Agree Entity.ties t u) : t.IsParent = u.IsParent := by
  ext p c
  exact ⟨IsParent.of_agree h, IsParent.of_agree h.symm⟩

/-- Both directions of the hierarchy agree, and there is no cycle in it. -/
structure Tied (t : Objects) : Prop where
  /-- An object is listed by another exactly if it names it as its parent. -/
  lists_iff_isParent : ∀ p c, t.Lists p c ↔ t.IsParent p c
  acyclic : ∀ p, ¬ t.Below p p

namespace Tied

/-- Being tied depends on the ties of the objects only. -/
theorem of_agree (ht : t.Tied) (h : Table.Agree Entity.ties t u) : u.Tied where
  lists_iff_isParent := by
    intro p c
    constructor
    · intro hc
      exact IsParent.of_agree h ((ht.lists_iff_isParent p c).mp (Lists.of_agree h.symm hc))
    · intro hc
      exact Lists.of_agree h ((ht.lists_iff_isParent p c).mpr (IsParent.of_agree h.symm hc))
  acyclic := by
    intro p hp
    rw [Below, ← isParent_congr h] at hp
    exact ht.acyclic p hp

/-- The parent of a live object is alive. -/
theorem parent_live (ht : t.Tied) (h : t.IsParent p c) : ∃ e, t.get? p = some e := by
  obtain ⟨e, he, -⟩ := (ht.lists_iff_isParent p c).mpr h
  exact ⟨e, he⟩

theorem ne (ht : t.Tied) (h : t.IsParent p c) : p ≠ c := by
  rintro rfl
  exact ht.acyclic p (.single h)

end Tied

/-- The ties are in order, no child is listed twice, and nothing is at an offset from nothing. -/
structure Forest (t : Objects) : Prop where
  /-- An object is listed by another exactly if it names it as its parent. -/
  lists_iff_isParent : ∀ p c, t.Lists p c ↔ t.IsParent p c
  nodup_children : ∀ {p e}, t.get? p = some e → e.children.Nodup
  acyclic : ∀ p, ¬ t.Below p p
  /-- A free object has no offset. -/
  offset_of_free : ∀ {c e}, t.get? c = some e → e.parent = none → e.offset = Point.zero

theorem Forest.tied (ht : t.Forest) : t.Tied := ⟨ht.lists_iff_isParent, ht.acyclic⟩

/-- Being a forest depends on the ties of the objects only. -/
theorem Forest.of_agree (ht : t.Forest) (h : Table.Agree Entity.ties t u) : u.Forest where
  lists_iff_isParent := (ht.tied.of_agree h).lists_iff_isParent
  nodup_children := by
    intro p e he
    obtain ⟨e', he', hties⟩ := h.symm.exists_of_get? he
    have hchildren : e'.children = e.children := congrArg Ties.children hties
    exact hchildren ▸ ht.nodup_children he'
  acyclic := (ht.tied.of_agree h).acyclic
  offset_of_free := by
    intro c e he hfree
    obtain ⟨e', he', hties⟩ := h.symm.exists_of_get? he
    have hparent : e'.parent = e.parent := congrArg Ties.parent hties
    have hoffset : e'.offset = e.offset := congrArg Ties.offset hties
    rw [← hoffset]
    exact ht.offset_of_free he' (hparent.trans hfree)

/-- The child of a live object is alive. -/
theorem IsParent.child_live (h : t.IsParent p c) : ∃ e, t.get? c = some e := by
  obtain ⟨e, he, -⟩ := h
  exact ⟨e, he⟩

/-! ## How far the hierarchy extends -/

open Classical in
/-- The live objects that a relation leads to from an object. -/
noncomputable def reach (t : Objects) (r : EntityId → EntityId → Prop) (x : EntityId) :
    Finset EntityId :=
  t.keys.toFinset.filter (TransGen r x)

/-- What can be reached depends on the relation and on which objects are alive. -/
theorem reach_congr {β : Type} {f : Entity → β} (h : Table.Agree f t u)
    (r : EntityId → EntityId → Prop) (x : EntityId) : t.reach r x = u.reach r x := by
  have hlive : ∀ y, y ∈ t.keys ↔ y ∈ u.keys := by
    intro y
    rw [Table.mem_keys_iff, Table.mem_keys_iff]
    constructor
    · rintro ⟨e, he⟩
      obtain ⟨e', he', -⟩ := h.exists_of_get? he
      exact ⟨e', he'⟩
    · rintro ⟨e, he⟩
      obtain ⟨e', he', -⟩ := h.symm.exists_of_get? he
      exact ⟨e', he'⟩
  ext y
  simp [reach, hlive]

/-- What can be reached is no more than the table holds. -/
theorem card_reach_le_size (t : Objects) (r : EntityId → EntityId → Prop) (x : EntityId) :
    (t.reach r x).card ≤ t.size := by
  classical
  calc
    (t.reach r x).card ≤ t.keys.toFinset.card := by
      unfold reach
      exact Finset.card_filter_le _ _
    _ ≤ t.keys.length := List.toFinset_card_le t.keys
    _ = t.size := t.length_keys

/-- A step along an acyclic relation to a live object shrinks what can be reached. -/
theorem card_reach_lt {r : EntityId → EntityId → Prop} (hr : ∀ x, ¬ TransGen r x x)
    {x y : EntityId} (hxy : r x y) (hlive : ∃ e, t.get? y = some e) :
    (t.reach r y).card < (t.reach r x).card := by
  apply Finset.card_lt_card
  rw [Finset.ssubset_iff_of_subset]
  · refine ⟨y, ?_, ?_⟩
    · simp only [reach, Finset.mem_filter, List.mem_toFinset]
      exact ⟨(t.mem_keys_iff y).mpr hlive, .single hxy⟩
    · simp only [reach, Finset.mem_filter, not_and]
      intro _
      exact hr y
  · intro z hz
    simp only [reach, Finset.mem_filter] at hz ⊢
    exact ⟨hz.1, .head hxy hz.2⟩

end Objects

end Storyboard
