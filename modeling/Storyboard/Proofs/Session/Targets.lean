import Storyboard.Proofs.Session.Definitions

/-!
# Statements for several objects

Many statements do one thing to each of a list of objects. The names are looked up before
anything is done; then one object is changed after another, up to the first that cannot be
changed, and what has been done by then stays done. Whether an object can be changed does not
depend on what is done to the objects before it, so it is known before the first of them is
changed.

Main results:

- Definition `Scene.Blocks`: the names that an action is refused for.
- Theorem `Scene.Steps.forEach_refused`: where a list of steps stops.
- Theorem `Action.exists_steps_of_read`: statements for several objects take such steps.
- Theorem `Scene.Reachable.failed_targets`: what a statement for several objects leaves when it
  fails.
-/

namespace Storyboard

open Relation Objects

/-! ## Steps of an action -/

namespace Action

/-- The names that an action takes one after the other. -/
def targets : Action → List String
  | .change _ names | .animate _ names | .attach _ _ names | .move _ names | .shift _ names
  | .resize _ names | .kill names => names
  | _ => []

/-- The same for other names. -/
def onto (names : List String) : Action → Action
  | .change c _ => .change c names
  | .animate goal _ => .animate goal names
  | .attach parent offset _ => .attach parent offset names
  | .move pos _ => .move pos names
  | .shift delta _ => .shift delta names
  | .resize size _ => .resize size names
  | .kill _ => .kill names
  | a => a

/-- What an action does for each of its names. -/
def step? : Action → Option (Scene → String → Except SceneError Scene)
  | .change c _ => some fun s name => s.update name c.apply
  | .animate goal _ => some fun s name => s.animate name goal
  | .attach parent offset _ => some fun s name => s.attach name parent offset
  | .move pos _ => some fun s name => s.moveTo name pos
  | .shift delta _ => some fun s name => s.shift name delta
  | .resize size _ => some fun s name => s.resize name size
  | .kill _ => some fun s name => (s.delete name).map Prod.snd
  | _ => none

/-- Performing an action is taking its step for each of its names. -/
theorem perform_onto {a : Action} {step : Scene → String → Except SceneError Scene}
    (h : a.step? = some step) (limit : Nat) (s : Session) (names : List String) :
    s.perform limit (a.onto names) = some (s.each names step) := by
  cases a <;> cases h <;> rfl

theorem onto_targets (a : Action) : a.onto a.targets = a := by
  cases a <;> rfl

end Action

namespace Scene

variable {s u : Scene} {name : String}

/-- There is no free object with a name. -/
def Unmovable (s : Scene) (name : String) : Prop := ∀ e, s.get? name = some e → e.parent ≠ none

/-- The names that an action is refused for: those that no object has, those of attached objects
for moves, and those of objects that the new parent is at or below. -/
def Blocks (s : Scene) : Action → String → Prop
  | .animate .., name | .move .., name | .shift .., name => s.Unmovable name
  | .attach parent _ _, name => ∀ id parentId, s.id? name = some id →
      s.id? parent = some parentId → AtOrBelow s.entities id parentId
  | _, name => s.get? name = none

/-- A step that is refused for the blocked names only, and that does not change whether the names
that come after it are blocked. `Apart` says which names may do so. -/
structure Steps (Inv : Scene → Prop) (Blocked : Scene → String → Prop)
    (Apart : String → String → Prop) (step : Scene → String → Except SceneError Scene) : Prop where
  refused : ∀ {s name e}, Inv s → step s name = .error e →
    Blocked s name ∧ e.object? = some name
  taken : ∀ {s name u}, Inv s → step s name = .ok u →
    Inv u ∧ ¬ Blocked s name ∧ ∀ other, Apart name other → (Blocked u other ↔ Blocked s other)

namespace Steps

variable {Inv : Scene → Prop} {Blocked : Scene → String → Prop} {Apart : String → String → Prop}
  {step : Scene → String → Except SceneError Scene}

/-- A list of steps that is refused stops at the first name that was blocked before the first of
them was taken. -/
theorem forEach_refused (h : Steps Inv Blocked Apart step) (hs : Inv s) {names : List String}
    (hnames : names.Pairwise Apart) {e : SceneError} (he : (s.forEach step names).2 = some e) :
    ∃ done name rest, names = done ++ name :: rest ∧
      s.forEach step done = ((s.forEach step names).1, none) ∧ e.object? = some name ∧
      Blocked s name ∧ ∀ n ∈ done, ¬ Blocked s n := by
  induction names generalizing s with
  | nil => cases he
  | cons n names ih =>
      obtain ⟨hfirst, hnames⟩ := List.pairwise_cons.mp hnames
      cases hstep : step s n with
      | error e' =>
          simp only [forEach, hstep] at he ⊢
          cases he
          obtain ⟨hblocked, hobject⟩ := h.refused hs hstep
          exact ⟨[], n, names, rfl, rfl, hobject, hblocked, by simp⟩
      | ok u =>
          simp only [forEach, hstep] at he ⊢
          obtain ⟨hu, hopen, hkept⟩ := h.taken hs hstep
          obtain ⟨done, name, rest, rfl, hdone, hobject, hblocked, hrest⟩ := ih hu hnames he
          refine ⟨n :: done, name, rest, rfl, ?_, hobject, ?_, ?_⟩
          · simp only [forEach, hstep, hdone]
          · exact (hkept name (hfirst name (by simp))).mp hblocked
          · intro m hm
            rcases List.mem_cons.mp hm with rfl | hm
            · exact hopen
            · rw [← hkept m (hfirst m (by simp [hm]))]
              exact hrest m hm

end Steps

/-! ## Changes that leave the hierarchy alone -/

/-- The objects keep their names and their parents. -/
structure SameParents (s u : Scene) : Prop where
  names : u.names = s.names
  parents : Table.Agree Entity.parent u.entities s.entities

namespace SameParents

theorem get? (h : SameParents s u) (name : String) :
    (u.get? name).map Entity.parent = (s.get? name).map Entity.parent := by
  have hid : u.id? name = s.id? name := by rw [id?, id?, h.names]
  unfold Scene.get?
  rw [hid]
  cases s.id? name with
  | none => rfl
  | some id => exact h.parents id

/-- The same names are in use. -/
theorem get?_eq_none_iff (h : SameParents s u) (name : String) :
    u.get? name = none ↔ s.get? name = none := by
  rw [← Option.map_eq_none_iff (f := Entity.parent), h.get?, Option.map_eq_none_iff]

/-- The same names are those of free objects. -/
theorem unmovable_iff (h : SameParents s u) (name : String) :
    u.Unmovable name ↔ s.Unmovable name := by
  have hparents : ∀ v : Scene, v.Unmovable name ↔ (v.get? name).map Entity.parent ≠ some none := by
    intro v
    unfold Unmovable
    cases v.get? name with
    | none => simp
    | some e => simp
  rw [hparents, hparents, h.get?]

end SameParents

theorem sameParents_modify (s : Scene) (id : EntityId) {f : Entity → Entity}
    (hf : ∀ e, (f e).parent = e.parent) : SameParents s (s.modify id f) :=
  ⟨rfl, Table.Agree.modify s.entities id hf⟩

/-- Moving an object leaves the hierarchy alone. -/
theorem sameParents_moveId {id : EntityId} {pos : Point} (h : s.moveId id pos = .ok u) :
    SameParents s u := by
  obtain ⟨hagree, hnames, -⟩ := agree_moveId h
  exact ⟨hnames, hagree.mono Entity.parent⟩

/-! ## The steps of each action -/

theorem get?_of_id? {id : EntityId} (h : s.id? name = some id) :
    s.get? name = s.entity? id := by
  rw [Scene.get?, h, Option.bind_some]

theorem get?_of_id?_none (h : s.id? name = none) : s.get? name = none := by
  rw [Scene.get?, h, Option.bind_none]

theorem idOf_eq_error {e : SceneError} (h : s.idOf name = .error e) :
    s.id? name = none ∧ e.object? = some name := by
  unfold idOf at h
  split at h
  · cases h
  · next hid =>
    cases h
    exact ⟨hid, rfl⟩

theorem update_eq_ok {f : Entity → Entity} (h : s.update name f = .ok u) :
    ∃ id e, s.id? name = some id ∧ s.entity? id = some e ∧ u = s.modify id f := by
  unfold update at h
  split at h
  · cases h
  · next id hid =>
    split at h
    · next hlive =>
      cases h
      obtain ⟨e, he⟩ := Option.isSome_iff_exists.mp hlive
      exact ⟨id, e, hid, he, rfl⟩
    · cases h

theorem update_eq_error {f : Entity → Entity} {e : SceneError} (h : s.update name f = .error e) :
    s.get? name = none ∧ e.object? = some name := by
  unfold update at h
  split at h
  · next hid =>
    cases h
    exact ⟨get?_of_id?_none hid, rfl⟩
  · next id hid =>
    split at h
    · cases h
    · next hdead =>
      cases h
      have hnone : s.entities.get? id = none := by simpa [Table.contains] using hdead
      exact ⟨(get?_of_id? hid).trans hnone, rfl⟩

/-- Updates that leave parents alone are refused for names that are not in use. -/
theorem steps_update {f : Entity → Entity} (hparent : ∀ e, (f e).parent = e.parent)
    (hsound : ∀ {s u : Scene} {name}, s.Sound → s.update name f = .ok u → u.Sound) :
    Steps Sound (fun s name => s.get? name = none) (fun _ _ => True)
      fun s name => s.update name f where
  refused := fun _ h => update_eq_error h
  taken := by
    intro s name u hs h
    obtain ⟨id, e, hid, he, rfl⟩ := update_eq_ok h
    refine ⟨hsound hs h, by simp [get?_of_id? hid, he], ?_⟩
    intro other _
    exact (sameParents_modify s id hparent).get?_eq_none_iff other

/-- Removals are refused for names that are not in use, and end the use of one name. -/
theorem steps_delete : Steps Sound (fun s name => s.get? name = none) (· ≠ ·)
    fun s name => (s.delete name).map Prod.snd where
  refused := by
    intro s name e hs h
    simp only [delete] at h
    split at h
    · next hid =>
      cases h
      exact ⟨get?_of_id?_none hid, rfl⟩
    · next id hid =>
      split at h
      · next hdead =>
        cases h
        exact ⟨(get?_of_id? hid).trans hdead, rfl⟩
      · cases h
  taken := by
    intro s name u hs h
    refine ⟨hs.delete h, ?_⟩
    simp only [delete] at h
    split at h
    · cases h
    · next id hid =>
      split at h
      · cases h
      · next e he =>
        cases h
        refine ⟨by simp [get?_of_id? hid, he], ?_⟩
        intro other hne
        obtain ⟨e', he', hname⟩ := hs.registered.name_eq hid
        rw [he] at he'
        cases he'
        have hother : (s.remove id).id? other = s.id? other := by
          rw [hs.registered.id?_remove he, if_neg]
          rw [hname]
          exact fun h => hne h.symm
        cases hid' : s.id? other with
        | none => rw [get?_of_id?_none hid', get?_of_id?_none (hother.trans hid')]
        | some id' =>
            have hids : id' ≠ id := by
              rintro rfl
              obtain ⟨e', he', hname'⟩ := hs.registered.name_eq hid'
              rw [he] at he'
              cases he'
              exact hne (hname.symm.trans hname')
            rw [get?_of_id? hid', get?_of_id? (hother.trans hid'),
              entity?_remove hs.tied, if_neg hids, Option.map_eq_none_iff]

/-- Free objects only are sent to a goal. -/
theorem steps_animate (goal : Point) :
    Steps Sound Unmovable (fun _ _ => True) fun s name => s.animate name goal where
  refused := by
    intro s name e hs h
    unfold Unmovable
    simp only [animate] at h
    split at h
    · next hnone =>
      cases h
      simp [hnone, SceneError.object?]
    · next e' he' =>
      split at h
      · next hattached =>
        cases h
        simpa [he', SceneError.object?, Option.isSome_iff_ne_none] using hattached
      · rw [(update_eq_error h).1] at he'
        cases he'
  taken := by
    intro s name u hs h
    refine ⟨hs.animate h, ?_⟩
    simp only [animate] at h
    split at h
    · cases h
    · next e he =>
      split at h
      · cases h
      · next hfree =>
        obtain ⟨id, -, -, -, rfl⟩ := update_eq_ok h
        refine ⟨fun hblocked => hblocked e he (by simpa using hfree), ?_⟩
        intro other _
        refine (sameParents_modify s id ?_).unmovable_iff other
        intro e
        rfl

/-- Free objects only are moved, wherever they are moved to. -/
theorem steps_moveId (place : Scene → EntityId → Point) :
    Steps Sound Unmovable (fun _ _ => True)
      fun s name => (s.idOf name).bind fun id => s.moveId id (place s id) where
  refused := by
    intro s name e hs h
    unfold Unmovable
    cases hidOf : s.idOf name with
    | error e' =>
        rw [hidOf] at h
        cases h
        obtain ⟨hnone, hobject⟩ := idOf_eq_error hidOf
        simp [get?_of_id?_none hnone, hobject]
    | ok id =>
        rw [hidOf] at h
        have hid := idOf_eq_ok hidOf
        obtain ⟨e', he', hname⟩ := hs.registered.name_eq hid
        simp only [Except.bind, moveId, he'] at h
        split at h
        · next hattached =>
          cases h
          simpa [get?_of_id? hid, he', hname, SceneError.object?, Option.isSome_iff_ne_none]
            using hattached
        · cases h
  taken := by
    intro s name u hs h
    cases hidOf : s.idOf name with
    | error e =>
        rw [hidOf] at h
        cases h
    | ok id =>
        rw [hidOf] at h
        have hid := idOf_eq_ok hidOf
        obtain ⟨e, he, -⟩ := hs.registered.name_eq hid
        refine ⟨hs.moveId h, ?_, fun other _ => (sameParents_moveId h).unmovable_iff other⟩
        intro hblocked
        have hattached : e.parent ≠ none := hblocked e ((get?_of_id? hid).trans he)
        simp only [Except.bind, moveId, he] at h
        split at h
        · cases h
        · next hfree => exact hattached (by simpa using hfree)

/-- Handing an object over to another does not change what the other is at or below, unless it
is the object itself. -/
theorem atOrBelow_retie_iff (hs : Tied s.entities) {child parent : EntityId} {e : Entity}
    (hchild : s.entity? child = some e) (offset : Point)
    (hfree : ¬ AtOrBelow s.entities child parent) (x : EntityId) :
    AtOrBelow (s.retie child parent offset).entities x parent ↔ AtOrBelow s.entities x parent := by
  constructor
  · intro h
    rcases reflTransGen_iff_eq_or_transGen.mp h with rfl | h
    · exact .refl
    · rcases below_of_below_retie hs hchild h with h | ⟨-, h⟩
      · exact h.to_reflTransGen
      · exact absurd h hfree
  · intro h
    induction h using ReflTransGen.head_induction_on with
    | refl => exact .refl
    | @head a c hac hc ih =>
        -- The object that is handed over is not above the new parent, so no link is missing.
        have hne : c ≠ child := by
          rintro rfl
          exact hfree hc
        have hlink : IsParent (s.retie child parent offset).entities a c := by
          rw [isParent_retie_iff hs hchild, if_neg hne]
          exact hac
        exact .head hlink ih

/-- Objects are attached unless the parent is at or below them. -/
theorem steps_attach (parent : String) (offset : Point) :
    Steps (fun s => s.Sound ∧ ∃ parentId, s.id? parent = some parentId)
      (fun s name => ∀ id parentId, s.id? name = some id → s.id? parent = some parentId →
        AtOrBelow s.entities id parentId)
      (fun _ _ => True) fun s name => s.attach name parent offset where
  refused := by
    rintro s name e ⟨hs, parentId, hparent⟩ h
    rcases (attach_eq_error_iff hs.tied).mp h with
      ⟨hnone, rfl⟩ | ⟨-, hnone, -⟩ | ⟨id, p, hchild, hp, hbelow, rfl⟩
    · simp [hnone, SceneError.object?]
    · rw [hparent] at hnone
      cases hnone
    · rw [hparent] at hp
      cases hp
      simpa [hchild, hparent, SceneError.object?] using hbelow
  taken := by
    rintro s name u ⟨hs, parentId, hparent⟩ h
    have hsound : u.Sound := hs.attach h
    obtain ⟨id, p, e, -, hchild, hp, he, -, hfree, rfl⟩ := hs.registered.attach_eq_ok hs.tied h
    rw [hparent] at hp
    cases hp
    have hagree := agree_repositionChildren (s.retie id parentId offset) parentId
    have hids : ∀ other, ((s.retie id parentId offset).repositionChildren parentId).id? other =
        s.id? other := fun _ => rfl
    refine ⟨⟨hsound, parentId, hparent⟩, ?_, ?_⟩
    · intro hblocked
      exact hfree (hblocked id parentId hchild hparent)
    · intro other _
      refine forall_congr' fun x => forall_congr' fun q => ?_
      rw [hids, hids, hparent, AtOrBelow, isParent_of_unplaced hagree]
      refine imp_congr_right fun _ => imp_congr_right fun hq => ?_
      cases hq
      exact atOrBelow_retie_iff hs.tied he offset hfree x

end Scene

/-! ## Statements for several objects -/

/-- Nothing is repeated when repeated items have been dropped. -/
theorem nodup_eraseDups (l : List String) : l.eraseDups.Nodup := by
  induction hn : l.length using Nat.strong_induction_on generalizing l with
  | _ n ih =>
      cases l with
      | nil => simp
      | cons a l =>
          have hlt : (l.filter fun b => !b == a).length < n := by
            have hle := List.length_filter_le (fun b => !b == a) l
            rw [List.length_cons] at hn
            omega
          rw [List.eraseDups_cons, List.nodup_cons, List.mem_eraseDups]
          exact ⟨by simp, ih _ hlt _ rfl⟩

namespace Action

/-- The verbs whose statements do one thing to each of a list of objects. -/
def targetVerbs : List Verb :=
  [.fade, .fix, .hide, .unhide, .kill, .move, .shift, .animate, .attach]

/-- A statement for several objects takes steps that are refused for blocked names only. -/
theorem exists_steps_of_read {s : Stage} {verb : Verb} (hverb : verb ∈ targetVerbs)
    {args : List String} {action : Action} (h : Action.read s verb args = .ok action)
    (hs : s.scene.Sound) :
    ∃ Inv Apart step, action.step? = some step ∧ Inv s.scene ∧ action.targets.Pairwise Apart ∧
      Scene.Steps Inv (fun t name => t.Blocks action name) Apart step := by
  have hany : ∀ names : List String, names.Pairwise fun _ _ => True :=
    fun names => List.pairwise_of_forall fun _ _ => trivial
  have hchange : ∀ (c : Change) names, action = .change c names →
      ∃ Inv Apart step, action.step? = some step ∧ Inv s.scene ∧ action.targets.Pairwise Apart ∧
        Scene.Steps Inv (fun t name => t.Blocks action name) Apart step := by
    rintro c names rfl
    have hparent : ∀ e, (c.apply e).parent = e.parent := by
      intro e
      cases c <;> rfl
    exact ⟨Scene.Sound, _, _, rfl, hs, hany names, Scene.steps_update hparent fun hs h => hs.change h⟩
  simp only [targetVerbs, List.mem_cons, List.not_mem_nil, or_false] at hverb
  rcases hverb with rfl | rfl | rfl | rfl | rfl | rfl | rfl | rfl | rfl
  · obtain ⟨names, haction⟩ := readSwitch_eq_ok h
    exact hchange _ _ haction
  · obtain ⟨names, haction⟩ := readSwitch_eq_ok h
    exact hchange _ _ haction
  · obtain ⟨names, haction⟩ := readSwitch_eq_ok h
    exact hchange _ _ haction
  · obtain ⟨names, haction⟩ := readSwitch_eq_ok h
    exact hchange _ _ haction
  · obtain ⟨names, rfl⟩ := readKill_eq_ok h
    exact ⟨_, _, _, rfl, hs, nodup_eraseDups names, Scene.steps_delete⟩
  · obtain ⟨place, -, rfl⟩ := exists_of_map_eq_ok h
    exact ⟨_, _, _, rfl, hs, hany _, Scene.steps_moveId fun _ _ => place.1⟩
  · obtain ⟨delta, names, rfl⟩ := readShift_eq_ok h
    exact ⟨_, _, _, rfl, hs, hany names, Scene.steps_moveId fun t id =>
      ((t.entity? id).map Entity.pos).getD Point.zero + delta⟩
  · obtain ⟨place, -, rfl⟩ := exists_of_map_eq_ok h
    exact ⟨_, _, _, rfl, hs, hany _, Scene.steps_animate place.1⟩
  · obtain ⟨parent, offset, names, id, rfl, hid⟩ := readAttach_eq_ok h
    exact ⟨_, _, _, rfl, ⟨hs, id, Scene.idOf_eq_ok hid⟩, hany names,
      Scene.steps_attach parent offset⟩

end Action

/-! ## Failures -/

namespace Scene

variable {s u v : Scene}

/-- Nothing has changed but the objects and the index of their names. -/
def SameFrame (s u : Scene) : Prop := u = { s with entities := u.entities, names := u.names }

theorem SameFrame.refl (s : Scene) : SameFrame s s := rfl

theorem SameFrame.trans (h : SameFrame s u) (h' : SameFrame u v) : SameFrame s v := by
  unfold SameFrame at h h' ⊢
  rw [h', h]

theorem sameFrame_moveId {id : EntityId} {pos : Point} (h : s.moveId id pos = .ok u) :
    SameFrame s u := by
  unfold moveId at h
  split at h
  · cases h
    rfl
  · split at h
    · cases h
    · cases h
      rfl

theorem sameFrame_update {name : String} {f : Entity → Entity} (h : s.update name f = .ok u) :
    SameFrame s u := by
  obtain ⟨id, -, -, -, rfl⟩ := update_eq_ok h
  rfl

theorem sameFrame_attach {name parent : String} {offset : Point}
    (h : s.attach name parent offset = .ok u) : SameFrame s u := by
  obtain ⟨id, -, h⟩ := exists_of_bind_eq_ok h
  obtain ⟨parentId, -, h⟩ := exists_of_bind_eq_ok h
  split at h
  · cases h
  · cases h
    rfl

theorem sameFrame_remove (s : Scene) (id : EntityId) : SameFrame s (s.remove id) := by
  cases he : s.entity? id with
  | none => simp [SameFrame, remove, he]
  | some e => simp [SameFrame, remove, he]

theorem sameFrame_delete {name : String} (h : (s.delete name).map Prod.snd = .ok u) :
    SameFrame s u := by
  obtain ⟨⟨e, v⟩, h, rfl⟩ := exists_of_map_eq_ok h
  unfold delete at h
  split at h
  · cases h
  · next id hid =>
    split at h
    · cases h
    · cases h
      exact sameFrame_remove s id

/-- The step of an action changes nothing but objects. -/
theorem sameFrame_of_step? {a : Action} {step : Scene → String → Except SceneError Scene}
    {name : String} (ha : a.step? = some step) (h : step s name = .ok u) : SameFrame s u := by
  cases a with
  | change c _ =>
      cases ha
      exact sameFrame_update h
  | resize size _ =>
      cases ha
      exact sameFrame_update h
  | animate goal _ =>
      cases ha
      simp only [animate] at h
      split at h
      · cases h
      · split at h
        · cases h
        · exact sameFrame_update h
  | attach parent offset _ =>
      cases ha
      exact sameFrame_attach h
  | move pos _ =>
      cases ha
      obtain ⟨id, -, h⟩ := exists_of_bind_eq_ok h
      exact sameFrame_moveId h
  | shift delta _ =>
      cases ha
      obtain ⟨id, -, h⟩ := exists_of_bind_eq_ok h
      exact sameFrame_moveId h
  | kill _ =>
      cases ha
      exact sameFrame_delete h
  | define | defineColor | play | display | wait | sleep | spring => cases ha

end Scene

namespace Scene.Reachable

/-- A statement for several objects that fails changes nothing but objects. Either it cannot be
read, and then it changes nothing at all; or one of its names is blocked, and then it leaves what
the statement does for the names before the first blocked one. Which names are blocked depends on
the scene before the statement only. -/
theorem failed_targets {s s' : Session} (hs : s.scene.Reachable) {limit line : Nat} {verb : Verb}
    (hverb : verb ∈ Action.targetVerbs) {args : List String} {f : Fault}
    (h : s.execute limit ⟨verb, args, line⟩ = some (s', some f)) :
    s' = { s with scene :=
      { s.scene with entities := s'.scene.entities, names := s'.scene.names } } ∧
    (s' = s ∧ Action.read s.stage verb args = .error f ∨
      ∃ action done name rest, Action.read s.stage verb args = .ok action ∧
        action.targets = done ++ name :: rest ∧
        s.perform limit (action.onto done) = some (s', none) ∧ (done = [] → s' = s) ∧
        (∃ e, f = .scene e ∧ e.object? = some name) ∧
        s.scene.Blocks action name ∧ ∀ n ∈ done, ¬ s.scene.Blocks action n) := by
  unfold Session.execute at h
  cases hread : Action.read s.stage verb args with
  | error f' =>
      rw [hread] at h
      cases h
      exact ⟨rfl, .inl ⟨rfl, rfl⟩⟩
  | ok action =>
      obtain ⟨Inv, Apart, step, hstep, hinv, hapart, hsteps⟩ :=
        Action.exists_steps_of_read hverb hread hs.sound
      have hperform : s.perform limit action = some (s.each action.targets step) := by
        rw [← Action.perform_onto hstep, Action.onto_targets]
      have hinv : Inv s.scene := hinv
      have hframe : SameFrame s.scene (s.scene.forEach step action.targets).1 :=
        forEach_induction (P := SameFrame s.scene)
          (fun hu h => hu.trans (sameFrame_of_step? hstep h)) (SameFrame.refl s.scene) _
      rw [hread] at h
      simp only [hperform, Option.map_some, Option.some.injEq, Session.each,
        Session.withScene] at h
      cases hrefusal : (s.scene.forEach step action.targets).2 with
      | none =>
          rw [hrefusal] at h
          cases h
      | some e =>
          rw [hrefusal] at h
          obtain ⟨done, name, rest, htargets, hdone, hobject, hblocked, hopen⟩ :=
            hsteps.forEach_refused hinv hapart hrefusal
          cases h
          refine ⟨congrArg (fun t => { s with scene := t }) hframe, .inr ⟨action, done, name, rest,
            rfl, htargets, ?_, ?_, ⟨e, rfl, hobject⟩, hblocked, hopen⟩⟩
          · rw [Action.perform_onto hstep, Session.each, hdone]
            rfl
          · rintro rfl
            have hsame : s.scene = (s.scene.forEach step action.targets).1 :=
              congrArg Prod.fst hdone
            rw [← hsame]

/-- The first box is hidden before the step for the second name is refused: no object has a number
as its name, but numbers pass as they are. -/
theorem hidden_before_failure : drawing.scene.Reachable ∧
    (drawing.scene.get? "a").map Entity.visible = some true ∧
    (drawing.execute 1 ⟨.hide, ["a", "12"], 1⟩).any (fun r => r.2.isSome &&
      decide ((r.1.scene.get? "a").map Entity.visible = some false)) = true :=
  ⟨reachable_drawing, by decide +kernel, by decide +kernel⟩

/-- The statement has done what it does for the first name alone. -/
theorem failed_targets_drawing : drawing.scene.Reachable ∧ Verb.hide ∈ Action.targetVerbs ∧
    ∃ s' f, drawing.execute 1 ⟨.hide, ["a", "12"], 1⟩ = some (s', some f) ∧
      drawing.perform 1 (.change .hide ["a"]) = some (s', none) := by
  have hverb : Verb.hide ∈ Action.targetVerbs := by decide
  have hread : Action.read drawing.stage .hide ["a", "12"] = .ok (.change .hide ["a", "12"]) := by
    decide +kernel
  have hopen : (drawing.scene.get? "a").isSome = true := by decide +kernel
  have hdead : (drawing.scene.get? "12").isSome = false := by decide +kernel
  have hfails : (drawing.execute 1 ⟨.hide, ["a", "12"], 1⟩).any (fun r => r.2.isSome) = true := by
    decide +kernel
  refine ⟨reachable_drawing, hverb, ?_⟩
  rcases hexecute : drawing.execute 1 ⟨.hide, ["a", "12"], 1⟩ with _ | ⟨s', _ | f⟩
  · rw [hexecute] at hfails
    cases hfails
  · rw [hexecute] at hfails
    cases hfails
  · refine ⟨s', f, rfl, ?_⟩
    obtain ⟨-, ⟨-, herror⟩ | ⟨action, done, name, rest, hok, htargets, hdone, -, -, hblocked, -⟩⟩ :=
      failed_targets reachable_drawing hverb hexecute
    · rw [hread] at herror
      cases herror
    · rw [hread] at hok
      cases hok
      -- The first name is not blocked, so it is not the one that the statement is refused for.
      have hname : name ≠ "a" := by
        rintro rfl
        have hnone : drawing.scene.get? "a" = none := hblocked
        rw [hnone] at hopen
        cases hopen
      have hone : done = ["a"] := by
        rcases done with _ | ⟨n, _ | ⟨m, done⟩⟩
        · cases htargets
          exact absurd rfl hname
        · cases htargets
          rfl
        · simp [Action.targets] at htargets
      rwa [hone] at hdone

end Scene.Reachable

end Storyboard
