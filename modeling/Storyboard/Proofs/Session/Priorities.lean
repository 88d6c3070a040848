import Storyboard.Proofs.Decimal.Order
import Storyboard.Proofs.Decimal.Range
import Storyboard.Proofs.Scene.Rounds
import Storyboard.Proofs.Session.Reachable
import Storyboard.Proofs.Session.Targets

/-!
# Priorities and the render order

The priorities of a script are finite: those that objects are created with are, and the numbers of
a script are, whatever its tokens say. So the visible objects are listed by ascending priority, and
those of one priority by creation, but for one case: an object of priority negative zero comes
before all objects of priority zero, those created before it included, though the two priorities
are equal numbers.

Main results:

- Theorem `Number.isFinite_of_ofToken?`: the numbers of a script are finite.
- Theorem `Scene.Reachable.finitePriorities`: the priorities of reachable scenes are finite.
- Theorem `Scene.Registered.sublist_renderOrder_iff`: which of two visible objects comes first.
- Theorem `Scene.Reachable.render_order_iff`: the render order of reachable scenes.
-/

namespace Storyboard

/-! ## Numbers -/

namespace Number

theorem isFinite_of_unsigned? {body : List Char} {x : Float} (h : unsigned? body = some x) :
    x.isFinite := by
  unfold unsigned? at h
  split at h
  · obtain ⟨n, hn, rfl⟩ := Option.map_eq_some_iff.mp h
    have hsize : n < 2 ^ 64 := by
      have hfilter := (Option.filter_eq_some_iff.mp hn).2
      simpa using hfilter
    rw [Decimal.isFinite_nearest, zpow_zero, mul_one]
    calc
      (n : ℚ) < 2 ^ 64 := by exact_mod_cast hsize
      _ ≤ Decimal.overflow := Decimal.two_pow_le_overflow (by norm_num)
  · exact (Option.filter_eq_some_iff.mp h).2

/-- The numbers of a script are finite. -/
theorem isFinite_of_ofToken? {token : String} {x : Float} (h : ofToken? token = some x) :
    x.isFinite := by
  unfold ofToken? ofChars? at h
  split at h
  · obtain ⟨y, hy, rfl⟩ := Option.map_eq_some_iff.mp h
    exact Decimal.isFinite_neg (isFinite_of_unsigned? hy)
  · exact isFinite_of_unsigned? h
  · exact isFinite_of_unsigned? h

end Number

theorem Shape.isFinite_defaultPriority (shape : Shape) : shape.defaultPriority.isFinite := by
  unfold defaultPriority
  split <;> decide

/-! ## The order of a list -/

/-- Of two members of a list one comes first. -/
theorem pair_sublist_or {α : Type} {l : List α} {a b : α} (ha : a ∈ l) (hb : b ∈ l) (hne : a ≠ b) :
    [a, b].Sublist l ∨ [b, a].Sublist l := by
  obtain ⟨front, back, rfl⟩ := List.append_of_mem ha
  rcases List.mem_append.mp hb with hb | hb
  · right
    have hrest : [a].Sublist (a :: back) := List.singleton_sublist.mpr List.mem_cons_self
    exact (List.singleton_sublist.mpr hb).append hrest
  · left
    have hrest : b ∈ back := (List.mem_cons.mp hb).resolve_left (Ne.symm hne)
    exact ((List.singleton_sublist.mpr hrest).cons_cons a).trans (List.sublist_append_right _ _)

/-- In a list without repetitions at most one comes first. -/
theorem not_pair_sublist {α : Type} {l : List α} {a b : α} (hl : l.Nodup) (h : [a, b].Sublist l) :
    ¬ [b, a].Sublist l := by
  intro h'
  induction l with
  | nil => cases h
  | cons x l ih =>
      obtain ⟨hx, hnodup⟩ := List.nodup_cons.mp hl
      cases h with
      | cons _ h =>
          cases h' with
          | cons _ h' => exact ih hnodup h h'
          | cons_cons _ h' => exact hx (h.subset (by simp))
      | cons_cons _ h =>
          have hb : b ∈ l := h.subset (by simp)
          cases h' with
          | cons _ h' => exact hx (h'.subset (by simp))
          | cons_cons _ h' => exact hx hb

/-! ## Objects -/

namespace Objects

/-- The priorities of all objects are finite. -/
def FinitePriorities (t : Objects) : Prop := ∀ id e, t.get? id = some e → e.priority.isFinite

namespace FinitePriorities

variable {t u : Objects}

/-- What changes no priority. -/
theorem of_agree (ht : t.FinitePriorities) (h : Table.Agree Entity.priority u t) :
    u.FinitePriorities := by
  intro id e he
  obtain ⟨e', he', hsame⟩ := h.exists_of_get? he
  rw [← hsame]
  exact ht id e' he'

theorem modify (ht : t.FinitePriorities) (id : EntityId) {f : Entity → Entity}
    (hf : ∀ e, e.priority.isFinite → (f e).priority.isFinite) :
    FinitePriorities (t.modify id f) := by
  intro x e he
  rw [Table.get?_modify] at he
  split at he
  · obtain ⟨e', he', rfl⟩ := Option.map_eq_some_iff.mp he
    exact hf e' (ht x e' he')
  · exact ht x e he

theorem erase (ht : t.FinitePriorities) (id : EntityId) : FinitePriorities (t.erase id) := by
  intro x e he
  rw [Table.get?_erase] at he
  split at he
  · cases he
  · exact ht x e he

theorem insert (ht : t.FinitePriorities) (id : EntityId) {e : Entity} (he : e.priority.isFinite) :
    FinitePriorities (t.insert id e) := by
  intro x e' he'
  rw [Table.get?_insert] at he'
  split at he'
  · cases he'
    exact he
  · exact ht x e' he'

end FinitePriorities

end Objects

namespace Scene

open Objects

variable {s u : Scene}

/-- Leaving a parent changes no priority. -/
theorem agree_priority_leave (id : EntityId) (parent : Option EntityId) (t : Objects) :
    Table.Agree Entity.priority (leave id parent t) t := by
  cases parent with
  | none => exact .refl _ _
  | some p => exact .modify t p fun _ => rfl

/-- A removal changes the priority of no object that stays. -/
theorem finitePriorities_remove (hs : FinitePriorities s.entities) (id : EntityId) :
    FinitePriorities (s.remove id).entities := by
  unfold remove
  split
  · exact hs
  · next e _ =>
    have horphan : ∀ (t : Objects) c, Table.Agree Entity.priority (t.modify c orphan) t :=
      fun t c => .modify t c fun _ => rfl
    exact (hs.erase id).of_agree
      ((Table.Agree.foldl horphan e.children _).trans (agree_priority_leave id e.parent _))

theorem finitePriorities_update (hs : FinitePriorities s.entities) {name : String}
    {f : Entity → Entity} (h : s.update name f = .ok u)
    (hf : ∀ e, e.priority.isFinite → (f e).priority.isFinite) : FinitePriorities u.entities := by
  obtain ⟨id, e, -, -, rfl⟩ := update_eq_ok h
  exact hs.modify id hf

theorem finitePriorities_add (hs : FinitePriorities s.entities) {e : Entity}
    (he : e.priority.isFinite) : FinitePriorities (s.add e).entities := by
  have hvacated : FinitePriorities (s.vacate e.name).entities :=
    vacate_induction (P := fun s => FinitePriorities s.entities)
      (fun id hs => finitePriorities_remove hs id) hs e.name
  rw [add_eq]
  exact hvacated.insert e.id he

/-- A new object comes with a finite priority. -/
theorem finitePriorities_create (hs : FinitePriorities s.entities) (name : Option String)
    (pos : Point) (shape : Shape) (color : ColorSpec) (frameColor : Option ColorSpec) :
    FinitePriorities (s.create name pos shape color frameColor).2.entities := by
  have hdrawn : FinitePriorities { s with nextId := s.nextId + 1 }.entities := hs
  exact finitePriorities_add hdrawn shape.isFinite_defaultPriority

/-- The operations that change no setting keep the priorities finite. -/
theorem buildStable_finitePriorities : BuildStable fun s => FinitePriorities s.entities where
  halt id hs := hs.modify id fun _ he => he
  move id pos hs h := hs.of_agree ((agree_moveId h).1.mono Entity.priority)
  fade id alpha hs := hs.modify id fun _ he => he
  remove id hs := finitePriorities_remove hs id
  countFrame hs := hs
  animate hs h := by
    unfold Scene.animate at h
    split at h
    · cases h
    · split at h
      · cases h
      · exact finitePriorities_update hs h fun _ he => he
  resize hs h := finitePriorities_update hs h fun _ he => he
  attach hs h := by
    obtain ⟨child, -, h⟩ := exists_of_bind_eq_ok h
    obtain ⟨parent, -, h⟩ := exists_of_bind_eq_ok h
    split at h
    · cases h
    · cases h
      refine hs.of_agree (((agree_repositionChildren _ _).mono Entity.priority).trans ?_)
      unfold retie
      refine .trans (.modify _ _ fun _ => rfl) (.trans (.modify _ _ fun _ => rfl) ?_)
      exact agree_priority_leave _ _ _
  create name pos _ color frameColor hs _ _ :=
    finitePriorities_create hs name pos _ color frameColor
  setLastName _ hs := hs

/-- A change of a setting keeps the priorities finite unless it sets one that is not. -/
theorem keeps_finitePriorities {c : Change} (hc : ∀ v, c = .priority v → v.isFinite) :
    Keeps (fun s => FinitePriorities s.entities) c := by
  intro s u name hs h
  refine finitePriorities_update hs h ?_
  intro e he
  cases c with
  | priority v => exact hc v rfl
  | _ => exact he

/-! ## The render order -/

namespace Registered

variable {a b : Entity} (hs : s.Registered) (ha : s.entity? a.id = some a)
  (hb : s.entity? b.id = some b) (hvisible : a.visible) (hvisible' : b.visible)

include hs ha hb hvisible hvisible'

/-- A visible object comes before another one if its key is less, or if the keys are equal and it
was created earlier. -/
theorem sublist_renderOrder (hbefore : orderKey a.priority < orderKey b.priority ∨
      orderKey a.priority = orderKey b.priority ∧ a.id < b.id) :
    [a.id, b.id].Sublist s.renderOrder := by
  have hmem : ∀ {e : Entity}, s.entity? e.id = some e → e.visible →
      e ∈ s.objects.filter Entity.visible := fun he hvisible =>
    List.mem_filter.mpr ⟨(Table.mem_values_iff s.entities _).mpr ⟨_, he⟩, hvisible⟩
  have htrans : ∀ x y z : Entity, decide (orderKey x.priority ≤ orderKey y.priority) →
      decide (orderKey y.priority ≤ orderKey z.priority) →
      decide (orderKey x.priority ≤ orderKey z.priority) := by
    intro x y z hxy hyz
    simp only [decide_eq_true_eq] at *
    omega
  have htotal : ∀ x y : Entity, (decide (orderKey x.priority ≤ orderKey y.priority) ||
      decide (orderKey y.priority ≤ orderKey x.priority)) := by
    intro x y
    simp only [Bool.or_eq_true, decide_eq_true_eq]
    omega
  have hne : a ≠ b := by
    rintro rfl
    rcases hbefore with hless | ⟨-, hless⟩
    · exact absurd hless (lt_irrefl _)
    · exact absurd hless (UInt64.lt_irrefl _)
  suffices h : [a, b].Sublist ((s.objects.filter Entity.visible).mergeSort fun x y =>
      decide (orderKey x.priority ≤ orderKey y.priority)) from h.map Entity.id
  rcases pair_sublist_or (List.mem_mergeSort.mpr (hmem ha hvisible))
      (List.mem_mergeSort.mpr (hmem hb hvisible')) hne with h | h
  · exact h
  · -- The sort puts them the other way round only if the keys are equal, and then it keeps the
    -- order that the objects have.
    have hle : orderKey b.priority ≤ orderKey a.priority := by
      have hpair := List.pairwise_iff_forall_sublist.mp
        (List.pairwise_mergeSort htrans htotal (s.objects.filter Entity.visible)) h
      simpa using hpair
    obtain ⟨hsame, hid⟩ : orderKey a.priority = orderKey b.priority ∧ a.id < b.id :=
      hbefore.resolve_left (by omega)
    apply List.pair_sublist_mergeSort htrans htotal (by simp [hsame])
    refine (pair_sublist_or (hmem ha hvisible) (hmem hb hvisible') hne).resolve_right ?_
    intro h'
    have hless := List.pairwise_iff_forall_sublist.mp (hs.pairwise_objects.filter _) h'
    exact UInt64.lt_asymm hid hless

/-- Which of two visible objects comes first. -/
theorem sublist_renderOrder_iff : [a.id, b.id].Sublist s.renderOrder ↔
    orderKey a.priority < orderKey b.priority ∨
      orderKey a.priority = orderKey b.priority ∧ a.id < b.id := by
  refine ⟨fun h => ?_, hs.sublist_renderOrder ha hb hvisible hvisible'⟩
  by_contra hnot
  have hnodup := hs.nodup_renderOrder
  by_cases hid : a.id = b.id
  · rw [hid] at h
    exact List.nodup_iff_sublist.mp hnodup b.id h
  · refine not_pair_sublist hnodup h (hs.sublist_renderOrder hb ha hvisible' hvisible ?_)
    obtain ⟨hle, hlast⟩ := not_or.mp hnot
    rcases lt_or_eq_of_le (not_lt.mp hle) with hless | hsame
    · exact .inl hless
    · refine .inr ⟨hsame, ?_⟩
      have hnotless : ¬ a.id < b.id := fun hless => hlast ⟨hsame.symm, hless⟩
      rcases UInt64.lt_or_lt_of_ne hid with hless | hless
      · exact absurd hless hnotless
      · exact hless

end Registered

/-- The priorities of reachable scenes are finite. -/
theorem Reachable.finitePriorities (hs : s.Reachable) : FinitePriorities s.entities := by
  have hexecute : ∀ {limit : Nat} {t t' : Session} {stmt : Statement} {fault : Option Fault},
      FinitePriorities t.scene.entities → t.execute limit stmt = some (t', fault) →
        FinitePriorities t'.scene.entities := by
    intro limit t t' stmt fault ht h
    refine buildStable_finitePriorities.execute ht ?_ h
    intro c names hread
    apply keeps_finitePriorities
    rintro v rfl
    obtain ⟨token, htoken⟩ := Action.numberOf_of_read hread
    unfold Operands.numberOf at htoken
    split at htoken
    · next v' hv =>
      cases htoken
      exact Number.isFinite_of_ofToken? hv
    · cases htoken
  induction hs with
  | empty config =>
      intro id e he
      cases he
  | line _ h ih =>
      exact Session.runLine_induction (P := fun s => FinitePriorities s.entities) hexecute ih h
  | statement _ h ih => exact hexecute ih h

/-- The render order of a reachable scene lists every visible object exactly once and nothing else,
an object of a lesser priority before one of a greater. Of two objects with equal priorities the
one created first comes first, unless its priority is zero and that of the other negative zero. -/
theorem Reachable.render_order_iff (hs : s.Reachable) :
    s.renderOrder.Nodup ∧
    (∀ id, id ∈ s.renderOrder ↔ ∃ e, s.entity? id = some e ∧ e.visible) ∧
    (∀ id e, s.entity? id = some e → e.priority.isFinite) ∧
    ∀ a b, s.entity? a.id = some a → s.entity? b.id = some b → a.visible → b.visible →
      (a.priority < b.priority → [a.id, b.id].Sublist s.renderOrder) ∧
      (a.priority == b.priority → a.id < b.id →
        ([a.id, b.id].Sublist s.renderOrder ↔ ¬ (a.priority = 0.0 ∧ b.priority = -0.0))) := by
  have hregistered := hs.sound.registered
  refine ⟨hregistered.nodup_renderOrder, hregistered.mem_renderOrder, hs.finitePriorities, ?_⟩
  intro a b ha hb hvisible hvisible'
  have hfinite := hs.finitePriorities _ a ha
  have hfinite' := hs.finitePriorities _ b hb
  rw [hregistered.sublist_renderOrder_iff ha hb hvisible hvisible']
  refine ⟨fun hless => .inl (orderKey_lt_of_lt hfinite hfinite' hless), ?_⟩
  intro hsame hid
  rw [← orderKey_le_iff_of_beq hfinite hfinite' hsame, le_iff_lt_or_eq]
  simp [hid]

namespace Reachable

/-- Two boxes of priority zero are drawn in the order of their creation. -/
theorem render_order_followed : followed.Reachable ∧ [1, 2].Sublist followed.renderOrder := by
  have hreachable : followed.Reachable := reachable_afterLine _
  have hfirst : (followed.entity? 1).map (fun e => (e.id, e.visible, e.priority)) =
      some (1, true, 0.0) := by decide +kernel
  have hsecond : (followed.entity? 2).map (fun e => (e.id, e.visible, e.priority)) =
      some (2, true, 0.0) := by decide +kernel
  obtain ⟨a, ha, hlook⟩ := Option.map_eq_some_iff.mp hfirst
  obtain ⟨b, hb, hlook'⟩ := Option.map_eq_some_iff.mp hsecond
  simp only [Prod.mk.injEq] at hlook hlook'
  obtain ⟨hid, hvisible, hpriority⟩ := hlook
  obtain ⟨hid', hvisible', hpriority'⟩ := hlook'
  obtain ⟨-, -, -, horder⟩ := render_order_iff hreachable
  obtain ⟨-, htie⟩ := horder a b (hid ▸ ha) (hid' ▸ hb) hvisible hvisible'
  refine ⟨hreachable, ?_⟩
  rw [← hid, ← hid', htie (by rw [hpriority, hpriority']; decide) (by rw [hid, hid']; decide),
    hpriority']
  rintro ⟨-, hzero⟩
  exact absurd hzero (by decide)

/-- Two boxes, the second of which has been given the priority negative zero. -/
def reordered : Scene := afterLine "define a box; define b box; priority b -0"

/-- The box of priority negative zero comes before the one of priority zero, which was created
first, though their priorities are equal numbers. -/
theorem renderOrder_reordered : reordered.Reachable ∧ ∃ a b, reordered.entity? 1 = some a ∧
    reordered.entity? 2 = some b ∧ a.id = 1 ∧ b.id = 2 ∧ a.visible ∧ b.visible ∧
    a.priority == b.priority ∧ ¬ [1, 2].Sublist reordered.renderOrder := by
  have hreachable : reordered.Reachable := reachable_afterLine _
  have hfirst : (reordered.entity? 1).map (fun e => (e.id, e.visible, e.priority)) =
      some (1, true, 0.0) := by decide +kernel
  have hsecond : (reordered.entity? 2).map (fun e => (e.id, e.visible, e.priority)) =
      some (2, true, -0.0) := by decide +kernel
  obtain ⟨a, ha, hlook⟩ := Option.map_eq_some_iff.mp hfirst
  obtain ⟨b, hb, hlook'⟩ := Option.map_eq_some_iff.mp hsecond
  simp only [Prod.mk.injEq] at hlook hlook'
  obtain ⟨hid, hvisible, hpriority⟩ := hlook
  obtain ⟨hid', hvisible', hpriority'⟩ := hlook'
  refine ⟨hreachable, a, b, ha, hb, hid, hid', hvisible, hvisible', ?_, ?_⟩
  · rw [hpriority, hpriority']
    decide
  · rw [← hid, ← hid', hreachable.sound.registered.sublist_renderOrder_iff (hid ▸ ha) (hid' ▸ hb)
      hvisible hvisible', hpriority, hpriority']
    exact not_or.mpr ⟨by decide, fun h => absurd h.1 (by decide)⟩

end Reachable

end Scene

end Storyboard
