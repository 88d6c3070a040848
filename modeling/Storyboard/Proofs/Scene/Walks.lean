import Storyboard.Proofs.Scene.Settling

/-!
# Walks without bounds

The walk up the parents of an object and the walk down to its descendants are bounded by the number
of objects. Here they are without bounds, as loops that go on until they have an answer: the walk up
has a cursor, and the walk down a stack of objects whose children are still to be moved, with the
last one on top. On a forest both come to an end, and where they end is where the bounded ones do.

Main results:

- Definitions `Scene.Climb` and `Objects.Descent`: the two loops.
- Theorems `Scene.existsUnique_climb` and `Scene.existsUnique_descent`: both end.
- Theorem `Scene.climb_climbsTo`: the walk up has the answer of the bounded one.
- Theorem `Scene.descent_repositionChildren`: the walk down ends where the bounded one does.
-/

namespace Storyboard

open Relation

/-! ## The walk up -/

namespace Scene

variable {s : Scene} {goal : EntityId} {start : Option EntityId} {met met' : Bool}

open Objects

/-- The walk from a cursor up through the parents, until it meets a goal or comes to an object
without a parent. The answer is whether the goal was met. -/
inductive Climb (s : Scene) (goal : EntityId) : Option EntityId → Bool → Prop
  | top : Climb s goal none false
  | met : Climb s goal (some goal) true
  | up {id : EntityId} {met : Bool} : id ≠ goal →
      Climb s goal ((s.entity? id).bind Entity.parent) met → Climb s goal (some id) met

/-- The walk has one answer at most. -/
theorem Climb.unique (h : s.Climb goal start met) (h' : s.Climb goal start met') : met = met' := by
  induction h generalizing met' with
  | top =>
      cases h'
      rfl
  | met =>
      cases h' with
      | met => rfl
      | up hne => exact absurd rfl hne
  | up hne _ ih =>
      cases h' with
      | met => exact absurd rfl hne
      | up _ hrest => exact ih hrest

/-- The walk has the answer of one that is long enough. -/
theorem climb_climbsTo_of_card_lt (hs : Tied s.entities) (goal : EntityId) {fuel : Nat}
    {id : EntityId}
    (hfuel : (reach s.entities (Function.swap (IsParent s.entities)) id).card < fuel) :
    s.Climb goal (some id) (s.climbsTo goal fuel (some id)) := by
  induction fuel generalizing id with
  | zero => omega
  | succ fuel ih =>
      rw [climbsTo]
      by_cases hid : id = goal
      · subst hid
        rw [beq_self_eq_true, Bool.true_or]
        exact .met
      · rw [beq_false_of_ne hid, Bool.false_or]
        apply Climb.up hid
        cases hparent : (s.entity? id).bind Entity.parent with
        | none =>
            have hstop : s.climbsTo goal fuel none = false := by cases fuel <;> rfl
            rw [hstop]
            exact .top
        | some p =>
            obtain ⟨e, he, hp⟩ := Option.bind_eq_some_iff.mp hparent
            have hlt := card_reach_parent_lt hs ⟨e, he, hp⟩
            exact ih (by omega)

/-- The walk has the answer of the bounded one. -/
theorem climb_climbsTo (hs : Tied s.entities) (goal id : EntityId) :
    s.Climb goal (some id) (s.climbsTo goal (s.count + 1) (some id)) := by
  apply climb_climbsTo_of_card_lt hs
  have hle := card_reach_le_size s.entities (Function.swap (IsParent s.entities)) id
  rw [count]
  omega

/-- The walk ends. -/
theorem existsUnique_climb (hs : Tied s.entities) (goal id : EntityId) :
    ∃! met, s.Climb goal (some id) met :=
  ⟨_, climb_climbsTo hs goal id, fun _ h => h.unique (climb_climbsTo hs goal id)⟩

end Scene

/-! ## The walk down -/

namespace Objects

variable {t u v : Objects} {id : EntityId} {stack rest : List EntityId}

/-- The walk down from the objects on a stack, until the stack is empty: the object on top is taken
off, its living children are put at their offsets, and they come onto the stack. -/
inductive Descent : List EntityId → Objects → Objects → Prop
  | done (t : Objects) : Descent [] t t
  | gone {id : EntityId} {rest : List EntityId} {t u : Objects} :
      t.get? id = none → Descent rest t u → Descent (id :: rest) t u
  | down {id : EntityId} {rest : List EntityId} {t u : Objects} {parent : Entity} :
      t.get? id = some parent →
      Descent ((parent.children.filter t.contains).reverse ++ rest)
        (t.gather parent.pos (parent.children.filter t.contains)) u →
      Descent (id :: rest) t u

/-- The walk ends in one table at most. -/
theorem Descent.unique (h : Descent stack t u) (h' : Descent stack t v) : u = v := by
  induction h with
  | done t =>
      cases h'
      rfl
  | gone hdead _ ih =>
      cases h' with
      | gone _ hrest => exact ih hrest
      | down hparent => cases hdead.symm.trans hparent
  | down hparent _ ih =>
      cases h' with
      | gone hdead => cases hdead.symm.trans hparent
      | down hparent' hrest =>
          cases hparent.symm.trans hparent'
          exact ih hrest

/-- A stack whose objects are settled one after another. -/
theorem descent_of_foldl {step : Objects → EntityId → Objects}
    (hplaced : ∀ c v, Table.Agree Entity.unplaced (step v c) v) {cs : List EntityId}
    (hstep : ∀ c ∈ cs, ∀ v, Table.Agree Entity.unplaced v t → ∀ stack u,
      Descent stack (step v c) u → Descent (c :: stack) v u)
    (h : Descent rest (cs.foldl step t) u) : Descent (cs ++ rest) t u := by
  induction cs generalizing t with
  | nil => exact h
  | cons c cs ih =>
      apply hstep c List.mem_cons_self t (.refl _ t)
      apply ih _ h
      intro d hd v hv
      exact hstep d (List.mem_cons_of_mem c hd) v (hv.trans (hplaced c t))

/-- The walk goes on where one that goes deep enough ends. -/
theorem descent_of_settle {fuel : Nat} (ht : t.Forest)
    (hfuel : (t.reach t.IsParent id).card < fuel)
    (h : Descent rest (Scene.settle fuel id t) u) : Descent (id :: rest) t u := by
  induction fuel generalizing t id rest u with
  | zero => omega
  | succ fuel ih =>
      rw [Scene.settle] at h
      split at h
      · next hdead => exact .gone hdead h
      · next parent hparent =>
        apply Descent.down hparent
        apply descent_of_foldl (agree_settle fuel) _ h
        intro c hc v hv stack w hw
        have hc : t.IsParent id c :=
          (ht.tied.mem_live_iff hparent c).mp (List.mem_reverse.mp hc)
        have hv : Table.Agree Entity.unplaced v t := hv.trans (gather_agree _ _ t)
        apply ih (ht.of_unplaced hv) _ hw
        rw [isParent_of_unplaced hv, reach_congr hv]
        have hlt := card_reach_lt ht.acyclic hc hc.child_live
        omega

end Objects

namespace Scene

variable {s : Scene}

open Objects

/-- The walk down from an object ends where the bounded one does. -/
theorem descent_repositionChildren (hs : Forest s.entities) (id : EntityId) :
    Descent [id] s.entities (s.repositionChildren id).entities := by
  have hfuel : (reach s.entities (IsParent s.entities) id).card < s.count + 1 := by
    have hle := card_reach_le_size s.entities (IsParent s.entities) id
    rw [count]
    omega
  exact descent_of_settle hs hfuel (.done _)

/-- The walk down ends. -/
theorem existsUnique_descent (hs : Forest s.entities) (id : EntityId) :
    ∃! t, Descent [id] s.entities t :=
  ⟨_, descent_repositionChildren hs id, fun _ h => h.unique (descent_repositionChildren hs id)⟩

end Scene

end Storyboard
