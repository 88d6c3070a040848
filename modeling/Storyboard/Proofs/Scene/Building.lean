import Storyboard.Proofs.Scene.Departures
import Storyboard.Proofs.Scene.Operations

/-!
# Building

A blueprint is built one object after another, each in place of the object that had its name.
The identifiers are drawn in the same order, so no object of the blueprint takes the place of
another one of it if their names differ, and what the building leaves of the older objects can
be said at once for all of them.

Main results:

- Theorem `Scene.Sound.entity?_add`: every object after another one has been registered.
- Theorem `Scene.Registers.create`: creating one object more.
- Theorem `Scene.Sound.registers_build`: building a blueprint.
-/

namespace Storyboard

open Objects

namespace Scene

variable {s u v : Scene} {created : List Entity} {e : Entity} {n : Nat}

/-! ## One object -/

/-- Creating an object changes nothing but the registry and the counter. -/
theorem create_eq (s : Scene) (name : Option String) (pos : Point) (shape : Shape)
    (color : ColorSpec) (frameColor : Option ColorSpec) :
    (s.create name pos shape color frameColor).2 = { s with
      entities := (s.create name pos shape color frameColor).2.entities
      names := (s.create name pos shape color frameColor).2.names
      nextId := (s.create name pos shape color frameColor).2.nextId } := by
  simp only [create, newEntity, add, remove]
  split
  · split <;> rfl
  · rfl

/-- An object is registered when the one that has its name has gone. -/
theorem entity?_add_eq (s : Scene) (e : Entity) (x : EntityId) :
    (s.add e).entity? x =
      if x = e.id then some e else ((s.id? e.name).toList.foldl remove s).entity? x := by
  cases hid : s.id? e.name with
  | none =>
      simp only [add, hid, entity?, Table.get?_insert]
      rfl
  | some old =>
      simp only [add, hid, entity?, Table.get?_insert]
      rfl

/-- Registering a new object takes away the one that has its name, and leaves every other object
without that one. -/
theorem Sound.entity?_add (hs : s.Sound) (hfresh : s.entity? e.id = none) (x : EntityId) :
    (s.add e).entity? x =
      if x = e.id then some e
      else ((s.entity? x).filter fun y => decide (y.name ≠ e.name)).map
        (Entity.among (s.add e).isLive) := by
  have hforest := hs.objects.forest
  generalize hgone : (s.id? e.name).toList = gone
  have hmem : ∀ {y z}, s.entity? y = some z → (y ∈ gone ↔ z.name = e.name) := by
    intro y z hz
    rw [← hgone, Option.mem_toList]
    constructor
    · intro hy
      obtain ⟨z', hz', hname⟩ := hs.registered.name_eq hy
      rw [hz] at hz'
      cases hz'
      exact hname
    · intro hname
      rw [← hname]
      exact hs.registered.id?_name hz
  have hlive : ∀ y, s.isLive y → (s.add e).isLive y = decide (y ∉ gone) := by
    intro y hy
    have hne : y ≠ e.id := by
      rintro rfl
      rw [isLive, hfresh] at hy
      cases hy
    rw [isLive, entity?_add_eq, if_neg hne, hgone]
    exact (isLive_foldl_remove hforest gone y).trans (by rw [hy, Bool.true_and])
  rw [entity?_add_eq, hgone]
  split
  · rfl
  · rw [entity?_foldl_remove hforest]
    cases hget : s.entity? x with
    | none => simp
    | some z =>
        have hties := among_congr_of_isLive hforest hget hlive
        by_cases hx : x ∈ gone
        · simp [hx, (hmem hget).mp hx]
        · have hname : z.name ≠ e.name := fun hname => hx ((hmem hget).mpr hname)
          simp [hx, hname, hties]

/-- Creating an object registers it under the next identifier. -/
theorem Sound.entity?_create (hs : s.Sound) (hcount : s.canCreate (n + 1)) (name : Option String)
    (pos : Point) (shape : Shape) (color : ColorSpec) (frameColor : Option ColorSpec)
    (x : EntityId) :
    (s.create name pos shape color frameColor).2.entity? x =
      if x = s.nextId + 1 then some (s.create name pos shape color frameColor).1
      else ((s.entity? x).filter fun y =>
        decide (y.name ≠ (s.create name pos shape color frameColor).1.name)).map
          (Entity.among (s.create name pos shape color frameColor).2.isLive) :=
  (hs.draw hcount).entity?_add (e := (s.create name pos shape color frameColor).1)
    (hs.entity?_next hcount).1 x

/-! ## A list of objects -/

/-- From one scene to another a list of objects has been registered, which had not been there,
and nothing else has been done. -/
structure Registers (s : Scene) (created : List Entity) (u : Scene) : Prop where
  /-- The new objects have the next identifiers, in order. -/
  ids : created.map (fun e => e.id.toNat) = List.range' (s.nextId.toNat + 1) created.length
  nextId : u.nextId.toNat = s.nextId.toNat + created.length
  /-- The new objects are tied to no others. -/
  free : ∀ e ∈ created, e.parent = none ∧ e.children = []
  found : ∀ e ∈ created, u.entity? e.id = some e
  /-- The objects are gone that had one of the new names; the others have lost the ties to them. -/
  kept : ∀ x e, s.entity? x = some e → u.entity? x =
    if e.name ∈ created.map Entity.name then none else some (e.among u.isLive)
  only : ∀ x e, u.entity? x = some e → e ∈ created ∨ s.isLive x
  config : u.config = s.config
  frameCount : u.frameCount = s.frameCount

namespace Registers

/-- Nothing has been registered yet. -/
theorem nil (hs : s.Sound) : Registers s [] s where
  ids := rfl
  nextId := rfl
  free := by simp
  found := by simp
  kept := by
    intro x e he
    simp [he, among_isLive hs.objects.forest he]
  only := by
    intro x e he
    simp [isLive, he]
  config := rfl
  frameCount := rfl

/-- The name referenced last is none of the objects' business. -/
theorem setLastName (h : Registers s created u) (name : String) :
    Registers s created (u.setLastName name) where
  ids := h.ids
  nextId := h.nextId
  free := h.free
  found := h.found
  kept := h.kept
  only := h.only
  config := h.config
  frameCount := h.frameCount

/-- The new identifiers are greater than those given out before. -/
theorem lt_id (h : Registers s created u) (he : e ∈ created) :
    s.nextId.toNat < e.id.toNat ∧ e.id.toNat ≤ u.nextId.toNat := by
  have hmem : e.id.toNat ∈ created.map (fun e => e.id.toNat) :=
    List.mem_map_of_mem (f := fun e : Entity => e.id.toNat) he
  rw [h.ids, List.mem_range'_1] at hmem
  rw [h.nextId]
  omega

/-- The new objects have no ties to lose. -/
theorem among_eq_self (h : Registers s created u) (he : e ∈ created) (live : EntityId → Bool) :
    e.among live = e := by
  obtain ⟨hparent, hchildren⟩ := h.free e he
  apply Entity.among_eq_self
  · simp [hparent]
  · simp [hchildren]

/-! ### One object more -/

section Snoc

variable (h : Registers s created u) (hid : e.id.toNat = u.nextId.toNat + 1)
  (hget : ∀ x, v.entity? x = if x = e.id then some e
    else ((u.entity? x).filter fun y => decide (y.name ≠ e.name)).map (Entity.among v.isLive))

include h hid in
/-- The older objects do not have the next identifier. -/
theorem ne_id (hs : s.Sound) {x : EntityId} {y : Entity} (hy : s.entity? x = some y) :
    x ≠ e.id := by
  rintro rfl
  have hle := UInt64.le_iff_toNat_le.mp (hs.registered.id_le hy)
  have hnext := h.nextId
  omega

include h hid hget in
/-- The next object takes the place of none of the new ones. -/
theorem found_snoc (hname : e.name ∉ created.map Entity.name) :
    ∀ c ∈ created ++ [e], v.entity? c.id = some c := by
  intro c hc
  rcases List.mem_append.mp hc with hc | hc
  · have hne : c.id ≠ e.id := by
      intro hsame
      have hle := (h.lt_id hc).2
      rw [hsame] at hle
      omega
    have hcname : c.name ≠ e.name := by
      intro hsame
      exact hname (hsame ▸ List.mem_map_of_mem hc)
    rw [hget, if_neg hne, h.found c hc]
    simp [hcname, h.among_eq_self hc]
  · rw [List.mem_singleton.mp hc, hget, if_pos rfl]

include h hid hget in
/-- The next object takes the place of the older one that has its name. -/
theorem kept_snoc (hs : s.Sound) (x : EntityId) (y : Entity) (hy : s.entity? x = some y) :
    v.entity? x = if y.name ∈ (created ++ [e]).map Entity.name then none
      else some (y.among v.isLive) := by
  rw [hget, if_neg (h.ne_id hid hs hy), h.kept x y hy, List.map_append, List.map_singleton]
  by_cases hgone : y.name ∈ created.map Entity.name
  · simp [hgone]
  · by_cases hsame : y.name = e.name
    · simp [hsame, Entity.among]
    · have hties : (y.among u.isLive).among v.isLive = y.among v.isLive := by
        apply among_among_of_isLive hs.objects.forest hy
        intro z hz hlive
        obtain ⟨w, hw⟩ := Option.isSome_iff_exists.mp hz
        rw [isLive, hget, if_neg (h.ne_id hid hs hw), Option.isSome_map] at hlive
        exact Option.isSome_of_isSome_filter _ _ hlive
      have hkeeps : (y.among u.isLive).name ≠ e.name := hsame
      simp [hgone, hsame, hkeeps, hties]

include h hget in
/-- Nothing else comes with the next object. -/
theorem only_snoc (x : EntityId) (y : Entity) (hy : v.entity? x = some y) :
    y ∈ created ++ [e] ∨ s.isLive x := by
  rw [hget] at hy
  split at hy
  · cases hy
    exact .inl (List.mem_append_right _ (List.mem_singleton.mpr rfl))
  · obtain ⟨z, hz, rfl⟩ := Option.map_eq_some_iff.mp hy
    have hz := (Option.filter_eq_some_iff.mp hz).1
    rcases h.only x z hz with hnew | hlive
    · rw [h.among_eq_self hnew]
      exact .inl (List.mem_append_left _ hnew)
    · exact .inr hlive

include h hid hget in
/-- One more object, with the next identifier and a name that none of the new ones has. -/
theorem snoc (hs : s.Sound) (hfree : e.parent = none ∧ e.children = [])
    (hname : e.name ∉ created.map Entity.name) (hnext : v.nextId = e.id)
    (hconfig : v.config = u.config) (hframes : v.frameCount = u.frameCount) :
    Registers s (created ++ [e]) v where
  ids := by
    rw [List.map_append, h.ids, List.length_append, List.length_singleton, List.map_singleton,
      ← List.range'_append_1, List.range'_one, hid, h.nextId, Nat.add_right_comm]
  nextId := by
    rw [hnext, hid, h.nextId, List.length_append, List.length_singleton, Nat.add_assoc]
  free := by
    intro c hc
    rcases List.mem_append.mp hc with hc | hc
    · exact h.free c hc
    · rw [List.mem_singleton.mp hc]
      exact hfree
  found := h.found_snoc hid hget hname
  kept := h.kept_snoc hid hget hs
  only := h.only_snoc hget
  config := hconfig.trans h.config
  frameCount := hframes.trans h.frameCount

end Snoc

/-- Creating one object more, with a name that none of the others has. -/
theorem create (h : Registers s created u) (hs : s.Sound) (hu : u.Sound)
    (hcount : u.canCreate (n + 1)) (name : Option String) (pos : Point) (shape : Shape)
    (color : ColorSpec) (frameColor : Option ColorSpec)
    (hname : (u.create name pos shape color frameColor).1.name ∉ created.map Entity.name) :
    Registers s (created ++ [(u.create name pos shape color frameColor).1])
      (u.create name pos shape color frameColor).2 := by
  obtain ⟨-, hid⟩ := hu.entity?_next hcount
  apply h.snoc hid (hu.entity?_create hcount name pos shape color frameColor) hs ⟨rfl, rfl⟩ hname
  · exact nextId_create ..
  · rw [create_eq]
  · rw [create_eq]

/-- Registering arrowheads, if all names are different. -/
theorem foldl_addArrowhead (h : Registers s created u) (hs : s.Sound) (hu : u.Sound)
    {arrowheads : List Arrowhead} (hcount : u.canCreate arrowheads.length) {owner : String}
    {color : ColorSpec}
    (hnames : (created.map Entity.name ++ arrowheads.map fun a => owner ++ a.suffix).Nodup) :
    ∃ more, Registers s (created ++ more) (arrowheads.foldl (addArrowhead owner color) u) ∧
      more.map Entity.name = arrowheads.map (fun a => owner ++ a.suffix) ∧
      more.map Entity.shape = arrowheads.map Arrowhead.shape := by
  induction arrowheads generalizing created u with
  | nil => exact ⟨[], by simpa using h, rfl, rfl⟩
  | cons a arrowheads ih =>
      rw [List.length_cons] at hcount
      have hname : owner ++ a.suffix ∉ created.map Entity.name := by
        intro hmem
        exact (List.nodup_append.mp hnames).2.2 _ hmem _ (List.mem_cons_self ..) rfl
      have hnext := h.create hs hu hcount (some (owner ++ a.suffix)) a.tip a.shape color none hname
      have hsound := hu.create hcount (some (owner ++ a.suffix)) a.tip a.shape color none
      have hleft := canCreate_create hcount (some (owner ++ a.suffix)) a.tip a.shape color none
      generalize he : (u.create (some (owner ++ a.suffix)) a.tip a.shape color none).1 = e at hnext
      have hlabel : e.name = owner ++ a.suffix := he ▸ rfl
      have hshape : e.shape = a.shape := he ▸ rfl
      have hdistinct : ((created ++ [e]).map Entity.name ++
          arrowheads.map fun a => owner ++ a.suffix).Nodup := by
        rw [List.map_append, List.map_singleton, hlabel, List.append_assoc]
        exact hnames
      obtain ⟨more, hmore, hlabels, hshapes⟩ := ih hnext hsound hleft hdistinct
      rw [List.append_assoc] at hmore
      refine ⟨e :: more, hmore, ?_, ?_⟩
      · rw [List.map_cons, List.map_cons, hlabel, hlabels]
      · rw [List.map_cons, List.map_cons, hshape, hshapes]

end Registers

/-- Building a blueprint whose arrowheads have names of their own registers the object and its
arrowheads. -/
theorem Sound.registers_build (hs : s.Sound) (name : Option String) {b : Blueprint}
    (hcount : s.canCreate (1 + b.arrowheads.length))
    (hsuffixes : ("" :: b.arrowheads.map Arrowhead.suffix).Nodup) :
    ∃ more, Registers s ((s.build name b).1 :: more) (s.build name b).2 ∧
      more.map Entity.name = b.arrowheads.map (fun a => (s.build name b).1.name ++ a.suffix) ∧
      more.map Entity.shape = b.arrowheads.map Arrowhead.shape := by
  rw [Nat.add_comm] at hcount
  have hmain := (Registers.nil hs).create hs hs hcount name b.pos b.shape b.color b.frameColor
    List.not_mem_nil
  apply hmain.foldl_addArrowhead hs (hs.create hcount ..) (canCreate_create hcount ..)
  have hinjective : Function.Injective ((s.build name b).1.name ++ ·) :=
    fun _ _ h => (String.append_right_inj _).mp h
  have hnodup := hsuffixes.map hinjective
  rw [List.map_cons, String.append_empty, List.map_map] at hnodup
  exact hnodup

end Scene

end Storyboard
