import Storyboard.Proofs.Scene.Ties

/-!
# The registry

A scene finds its objects by identifier and the identifiers by name. The two tables are updated
one after the other; in a registered scene they say the same, and the counter is not behind
any identifier.

Main results:

- Theorem `Scene.Registered.of_agree`: being registered depends on identifiers and names only.
- Theorem `Scene.Registered.remove`: removing an object takes it out of both tables.
- Theorem `Scene.Registered.add`: so does registering one under an identifier that is free when
  the object that has its name has gone.
- Theorem `Scene.Registered.nodup_liveNames`: no two objects have one name.
-/

namespace Storyboard

open Objects

/-- What the registry knows about an object. -/
def Entity.label (e : Entity) : EntityId × String := (e.id, e.name)

namespace Scene

variable {s u : Scene}

/-- Removing an object gives no identifier back. -/
theorem nextId_remove (s : Scene) (id : EntityId) : (s.remove id).nextId = s.nextId := by
  unfold remove
  split <;> rfl

/-- The scene without the object that has a name. -/
def vacate (s : Scene) (name : String) : Scene :=
  match s.id? name with
  | some old => s.remove old
  | none => s

/-- An object is registered when the one that has its name has gone. -/
theorem add_eq (s : Scene) (e : Entity) : s.add e = { s.vacate e.name with
    nextId := max (s.vacate e.name).nextId e.id
    names := (s.vacate e.name).names.insert e.name e.id
    entities := (s.vacate e.name).entities.insert e.id e } :=
  rfl

/-- What removing an object keeps is kept when a name is vacated. -/
theorem vacate_induction {P : Scene → Prop} (hremove : ∀ {s : Scene} id, P s → P (s.remove id))
    (hs : P s) (name : String) : P (s.vacate name) := by
  unfold vacate
  split
  · exact hremove _ hs
  · exact hs

/-- What removing an object keeps is kept when the object with a name is removed. -/
theorem delete_induction {P : Scene → Prop} (hremove : ∀ {s : Scene} id, P s → P (s.remove id))
    (hs : P s) {name : String} (h : (s.delete name).map Prod.snd = .ok u) : P u := by
  unfold delete at h
  split at h
  · cases h
  · split at h
    · cases h
    · cases h
      exact hremove _ hs

theorem nextId_vacate (s : Scene) (name : String) : (s.vacate name).nextId = s.nextId :=
  vacate_induction (P := fun u => u.nextId = s.nextId)
    (fun id h => (nextId_remove _ id).trans h) rfl name

/-- Registering an object brings the counter up to its identifier. -/
theorem nextId_add (s : Scene) (e : Entity) :
    (s.add e).nextId = if s.nextId ≤ e.id then e.id else s.nextId := by
  rw [add_eq, nextId_vacate]
  rfl

/-- The counter goes up while it has an identifier left. -/
theorem toNat_next {n : Nat} (hcount : s.canCreate (n + 1)) :
    (s.nextId + 1).toNat = s.nextId.toNat + 1 := by
  simp only [canCreate, decide_eq_true_eq, UInt64.size] at hcount
  rw [UInt64.toNat_add, UInt64.toNat_one]
  omega

/-- The name index and the objects are inverse to each other, and no identifier exceeds the
counter. -/
structure Registered (s : Scene) : Prop where
  id_eq : ∀ {id e}, s.entity? id = some e → e.id = id
  id_le : ∀ {id e}, s.entity? id = some e → id ≤ s.nextId
  /-- Every object is found by its name. -/
  id?_name : ∀ {id e}, s.entity? id = some e → s.id? e.name = some id
  /-- Every name in use is the name of the object it leads to. -/
  name_eq : ∀ {name id}, s.id? name = some id → ∃ e, s.entity? id = some e ∧ e.name = name

namespace Registered

/-- Being registered depends on the index, the counter, and the labels of the objects only. -/
theorem of_agree (hs : s.Registered) (h : Table.Agree Entity.label u.entities s.entities)
    (hnames : u.names = s.names) (hnext : u.nextId = s.nextId) : u.Registered where
  id_eq := by
    intro id e he
    obtain ⟨e', he', hlabel⟩ := h.exists_of_get? he
    have hid : e'.id = e.id := congrArg Prod.fst hlabel
    rw [← hid]
    exact hs.id_eq he'
  id_le := by
    intro id e he
    obtain ⟨e', he', -⟩ := h.exists_of_get? he
    rw [hnext]
    exact hs.id_le he'
  id?_name := by
    intro id e he
    obtain ⟨e', he', hlabel⟩ := h.exists_of_get? he
    have hname : e'.name = e.name := congrArg Prod.snd hlabel
    rw [id?, hnames, ← hname]
    exact hs.id?_name he'
  name_eq := by
    intro name id hid
    rw [id?, hnames] at hid
    obtain ⟨e, he, hname⟩ := hs.name_eq hid
    obtain ⟨e', he', hlabel⟩ := h.symm.exists_of_get? he
    have hname' : e'.name = e.name := congrArg Prod.snd hlabel
    exact ⟨e', he', hname'.trans hname⟩

/-- A name leads to the object that has it. -/
theorem id?_eq_some_iff (hs : s.Registered) (name : String) (id : EntityId) :
    s.id? name = some id ↔ ∃ e, s.entity? id = some e ∧ e.name = name := by
  constructor
  · exact hs.name_eq
  · rintro ⟨e, he, rfl⟩
    exact hs.id?_name he

/-- Objects with one name are one object. -/
theorem id_unique (hs : s.Registered) {a b : EntityId} {x y : Entity}
    (hx : s.entity? a = some x) (hy : s.entity? b = some y) (hname : x.name = y.name) :
    a = b := by
  have ha := hs.id?_name hx
  rw [hname, hs.id?_name hy] at ha
  cases ha
  rfl

/-- A name that is in use leads to a live object. -/
theorem entity_of_id? (hs : s.Registered) {name : String} {id : EntityId}
    (h : s.id? name = some id) : ∃ e, s.entity? id = some e := by
  obtain ⟨e, he, -⟩ := hs.name_eq h
  exact ⟨e, he⟩

/-- Removing an object frees its name and no other. -/
theorem id?_remove (hs : s.Registered) {id : EntityId} {e : Entity}
    (he : s.entity? id = some e) (name : String) :
    (s.remove id).id? name = if name = e.name then none else s.id? name := by
  have hindex := hs.id?_name he
  have hnames : (s.remove id).names = s.names.erase e.name := by
    simp only [Scene.remove, he]
    rw [if_pos hindex]
  rw [id?, hnames, Table.get?_erase]
  rfl

/-- A registered scene that an object leaves is registered. -/
theorem remove (hs : s.Registered) (htied : Tied s.entities) (id : EntityId) :
    (s.remove id).Registered := by
  cases hid : s.entity? id with
  | none =>
      have hsame : s.remove id = s := by simp [Scene.remove, hid]
      rwa [hsame]
  | some e =>
      -- An object that is left was there before, under the same label.
      have hold : ∀ {x y}, (s.remove id).entity? x = some y →
          x ≠ id ∧ ∃ z, s.entity? x = some z ∧ y = z.without id := by
        intro x y hy
        rw [entity?_remove htied] at hy
        split at hy
        · cases hy
        · next hx =>
          obtain ⟨z, hz, rfl⟩ := Option.map_eq_some_iff.mp hy
          exact ⟨hx, z, hz, rfl⟩
      constructor
      · intro x y hy
        obtain ⟨-, z, hz, rfl⟩ := hold hy
        rw [Entity.id_without]
        exact hs.id_eq hz
      · intro x y hy
        obtain ⟨-, z, hz, rfl⟩ := hold hy
        rw [nextId_remove]
        exact hs.id_le hz
      · intro x y hy
        obtain ⟨hx, z, hz, rfl⟩ := hold hy
        rw [Entity.name_without, hs.id?_remove hid, if_neg]
        · exact hs.id?_name hz
        · intro hname
          exact hx (hs.id_unique hz hid hname)
      · intro name x hname
        rw [hs.id?_remove hid] at hname
        split at hname
        · cases hname
        · next hne =>
          obtain ⟨z, hz, hzname⟩ := hs.name_eq hname
          have hx : x ≠ id := by
            rintro rfl
            rw [hid] at hz
            cases hz
            exact hne hzname.symm
          refine ⟨z.without id, ?_, (Entity.name_without id z).trans hzname⟩
          rw [entity?_remove htied, if_neg hx, hz, Option.map_some]

/-- Registering an object under a free name and identifier. -/
theorem insert (hs : s.Registered) {e : Entity} (hid : s.entity? e.id = none)
    (hname : s.id? e.name = none)
    (hentities : u.entities = s.entities.insert e.id e)
    (hnames : u.names = s.names.insert e.name e.id)
    (hnext : s.nextId ≤ u.nextId) (hlast : e.id ≤ u.nextId) : u.Registered := by
  have hget : ∀ x, u.entity? x = if x = e.id then some e else s.entity? x := by
    intro x
    rw [entity?, hentities, Table.get?_insert]
    rfl
  have hindex : ∀ n, u.id? n = if n = e.name then some e.id else s.id? n := by
    intro n
    rw [id?, hnames, Table.get?_insert]
    rfl
  constructor
  · intro x y hy
    rw [hget] at hy
    split at hy
    · next hx =>
      cases hy
      exact hx.symm
    · exact hs.id_eq hy
  · intro x y hy
    rw [hget] at hy
    split at hy
    · next hx => exact hx ▸ hlast
    · exact UInt64.le_trans (hs.id_le hy) hnext
  · intro x y hy
    rw [hget] at hy
    rw [hindex]
    split at hy
    · next hx =>
      cases hy
      rw [if_pos rfl, hx]
    · have hindexed := hs.id?_name hy
      rw [if_neg, hindexed]
      intro hsame
      rw [hsame, hname] at hindexed
      cases hindexed
  · intro n x hn
    rw [hindex] at hn
    split at hn
    · next hsame =>
      cases hn
      exact ⟨e, by rw [hget, if_pos rfl], hsame.symm⟩
    · obtain ⟨y, hy, hyname⟩ := hs.name_eq hn
      refine ⟨y, ?_, hyname⟩
      rw [hget, if_neg, hy]
      rintro rfl
      rw [hid] at hy
      cases hy

/-- A vacated name is free, and all others are as they were. -/
theorem id?_vacate (hs : s.Registered) (name other : String) :
    (s.vacate name).id? other = if other = name then none else s.id? other := by
  unfold vacate
  split
  · next old hold =>
    obtain ⟨e, he, rfl⟩ := hs.name_eq hold
    exact hs.id?_remove he other
  · next hnone =>
    split
    · next hsame => rw [hsame, hnone]
    · rfl

/-- The identifiers that are free when a name is vacated: those that were free before, and the one
that had the name. -/
theorem entity?_vacate_eq_none_iff (hs : s.Registered) (htied : Tied s.entities) {name : String}
    {id : EntityId} :
    (s.vacate name).entity? id = none ↔ ∀ e, s.entity? id = some e → e.name = name := by
  unfold vacate
  split
  · next old hold =>
    rw [entity?_remove htied]
    split
    · next hid =>
      obtain ⟨x, hx, hname⟩ := hs.name_eq hold
      rw [hid, hx]
      simpa using hname
    · next hid =>
      rw [Option.map_eq_none_iff]
      constructor
      · intro hnone e he
        rw [hnone] at he
        cases he
      · intro h
        cases he : s.entity? id with
        | none => rfl
        | some e =>
            have hindexed := hs.id?_name he
            rw [h e he, hold] at hindexed
            cases hindexed
            exact absurd rfl hid
  · next hnone =>
    constructor
    · intro hdead e he
      rw [hdead] at he
      cases he
    · intro h
      cases he : s.entity? id with
      | none => rfl
      | some e =>
          have hindexed := hs.id?_name he
          rw [h e he, hnone] at hindexed
          cases hindexed

/-- Registering an object under an identifier that is free when its name is. -/
theorem add (hs : s.Registered) (htied : Tied s.entities) {e : Entity}
    (hfree : (s.vacate e.name).entity? e.id = none) : (s.add e).Registered := by
  have hvacated : (s.vacate e.name).Registered ∧ Tied (s.vacate e.name).entities :=
    vacate_induction (P := fun s => s.Registered ∧ Tied s.entities)
      (fun id h => ⟨h.1.remove h.2 id, h.2.without (entity?_remove h.2 id)⟩) ⟨hs, htied⟩ e.name
  have hmax : (s.add e).nextId =
      if (s.vacate e.name).nextId ≤ e.id then e.id else (s.vacate e.name).nextId := rfl
  have hle : (s.vacate e.name).nextId ≤ (s.add e).nextId ∧ e.id ≤ (s.add e).nextId := by
    rw [hmax]
    split
    · next hle => exact ⟨hle, UInt64.le_refl e.id⟩
    · next hlt => exact ⟨UInt64.le_refl _, UInt64.le_of_lt (UInt64.not_le.mp hlt)⟩
  exact hvacated.1.insert hfree (by rw [hs.id?_vacate, if_pos rfl]) rfl rfl hle.1 hle.2

/-- Drawing an identifier. -/
theorem draw (hs : s.Registered) {n : Nat} (hcount : s.canCreate (n + 1)) :
    Registered { s with nextId := s.nextId + 1 } where
  id_eq := hs.id_eq
  id_le := by
    intro id e he
    refine UInt64.le_trans (hs.id_le he) ?_
    rw [UInt64.le_iff_toNat_le]
    exact toNat_next hcount ▸ Nat.le_succ _
  id?_name := hs.id?_name
  name_eq := hs.name_eq

/-- The next identifier of a scene whose counter has one left is greater than all in use. -/
theorem lt_next (hs : s.Registered) {n : Nat} (hcount : s.canCreate (n + 1)) {id : EntityId}
    {e : Entity} (he : s.entity? id = some e) : id < s.nextId + 1 := by
  have hle := UInt64.le_iff_toNat_le.mp (hs.id_le he)
  rw [UInt64.lt_iff_toNat_lt, toNat_next hcount]
  omega

theorem entity?_next (hs : s.Registered) {n : Nat} (hcount : s.canCreate (n + 1)) :
    s.entity? (s.nextId + 1) = none := by
  cases hget : s.entity? (s.nextId + 1) with
  | none => rfl
  | some e => exact absurd (hs.lt_next hcount hget) (UInt64.lt_irrefl _)

/-- The objects are listed by ascending identifier. -/
theorem pairwise_objects (hs : s.Registered) : s.objects.Pairwise (fun a b => a.id < b.id) := by
  refine List.pairwise_map.mpr (s.entities.ascending.imp_of_mem ?_)
  intro a b ha hb hlt
  have hida : a.2.id = a.1 := hs.id_eq ((Table.mem_entries_iff _ _ _).mp ha)
  have hidb : b.2.id = b.1 := hs.id_eq ((Table.mem_entries_iff _ _ _).mp hb)
  rw [hida, hidb]
  exact Std.compare_eq_lt.mp hlt

/-- No two objects have one name. -/
theorem nodup_liveNames (hs : s.Registered) : s.liveNames.Nodup := by
  refine List.pairwise_map.mpr (hs.pairwise_objects.imp_of_mem ?_)
  intro a b ha hb hlt hname
  obtain ⟨i, hi⟩ := (Table.mem_values_iff s.entities a).mp ha
  obtain ⟨j, hj⟩ := (Table.mem_values_iff s.entities b).mp hb
  have hij : i = j := hs.id_unique hi hj hname
  subst hij
  rw [hi] at hj
  cases hj
  exact absurd hlt (UInt64.lt_irrefl a.id)

end Registered

end Scene

end Storyboard
