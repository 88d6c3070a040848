import Mathlib.Data.List.Induction
import Storyboard.Table

/-!
# Agreement of tables

Most updates of a scene leave a part of every object alone: moving an object changes positions
only, hiding it changes its visibility only. Two tables agree through a function if it takes the
same value on both at every key; such a function selects the part that was left alone.

Main results:

- Theorem `Table.get?_foldl_modify`: updating a list of keys by an idempotent function changes
  each of these keys once, whatever their order.
- Theorems `Table.Agree.modify` and `Table.Agree.mono`: updates that preserve a part of the
  values, and smaller parts.
- Theorem `Table.mem_keys_iff`: the keys are those with a value.
- Theorem `Table.get?_ofList_eq_some_iff`: of the entries with one key the last one counts.
- Theorem `Table.get?_ofList_map`: the table of a function on a list of keys.
-/

namespace Storyboard.Table

variable {κ α β γ : Type} [Ord κ]

/-! ## Repeated updates -/

section Updates

variable [Std.LawfulEqOrd κ]

/-- Updating keys one after another by an idempotent function updates each of them. -/
theorem get?_foldl_modify [DecidableEq κ] {f : α → α} (hf : ∀ a, f (f a) = f a) (ks : List κ)
    (t : Table κ α) (j : κ) :
    (ks.foldl (fun t k => t.modify k f) t).get? j =
      if j ∈ ks then (t.get? j).map f else t.get? j := by
  induction ks generalizing t with
  | nil => simp
  | cons k ks ih =>
      rw [List.foldl_cons, ih, get?_modify]
      by_cases hk : j = k
      · subst hk
        have hmap : ((t.get? j).map f).map f = (t.get? j).map f := by
          cases t.get? j <;> simp [hf]
        simp [hmap]
      · simp [hk]

/-- A key belongs to the keys of a table exactly if it has a value. -/
theorem mem_keys_iff (t : Table κ α) (k : κ) : k ∈ t.keys ↔ ∃ v, t.get? k = some v := by
  constructor
  · intro hk
    obtain ⟨⟨k', v⟩, hmem, rfl⟩ := List.mem_map.mp hk
    exact ⟨v, (mem_entries_iff t k' v).mp hmem⟩
  · rintro ⟨v, hv⟩
    exact List.mem_map.mpr ⟨(k, v), (mem_entries_iff t k v).mpr hv, rfl⟩

/-- A value belongs to the values of a table exactly if some key has it. -/
theorem mem_values_iff (t : Table κ α) (v : α) : v ∈ t.values ↔ ∃ k, t.get? k = some v := by
  constructor
  · intro hv
    obtain ⟨⟨k, v'⟩, hmem, rfl⟩ := List.mem_map.mp hv
    exact ⟨k, (mem_entries_iff t k v').mp hmem⟩
  · rintro ⟨k, hk⟩
    exact List.mem_map.mpr ⟨(k, v), (mem_entries_iff t k v).mpr hk, rfl⟩

/-! ## Lists of entries -/

/-- An entry at the end of a list replaces those with its key. -/
theorem ofList_append_singleton [Std.TransOrd κ] (l : List (κ × α)) (e : κ × α) :
    ofList (l ++ [e]) = (ofList l).insert e.1 e.2 := by
  rw [ofList, List.foldl_append]
  rfl

theorem mem_of_get?_ofList [Std.TransOrd κ] {l : List (κ × α)} {k : κ} {v : α}
    (h : (ofList l).get? k = some v) : (k, v) ∈ l := by
  classical
  induction l using List.reverseRecOn with
  | nil => cases h
  | append_singleton l e ih =>
      rw [ofList_append_singleton, get?_insert] at h
      split at h
      · next hk =>
        cases h
        exact List.mem_append_right l (by simp [hk])
      · exact List.mem_append_left _ (ih h)

/-- A key in a list of entries has a value, if not always the one listed with it. -/
theorem exists_get?_ofList [Std.TransOrd κ] {l : List (κ × α)} {k : κ} {v : α} (h : (k, v) ∈ l) :
    ∃ w, (ofList l).get? k = some w := by
  classical
  induction l using List.reverseRecOn with
  | nil => cases h
  | append_singleton l e ih =>
      rw [ofList_append_singleton, get?_insert]
      split
      · exact ⟨e.2, rfl⟩
      · next hk =>
        rcases List.mem_append.mp h with h | h
        · exact ih h
        · cases List.mem_singleton.mp h
          exact absurd rfl hk

/-- Entries with other keys leave the value at a key alone. -/
theorem get?_ofList_append_of_ne [Std.TransOrd κ] {front back : List (κ × α)} {k : κ}
    (h : ∀ e ∈ back, e.1 ≠ k) : (ofList (front ++ back)).get? k = (ofList front).get? k := by
  classical
  induction back using List.reverseRecOn with
  | nil => rw [List.append_nil]
  | append_singleton back e ih =>
      obtain ⟨hback, he⟩ := List.forall_mem_append.mp h
      rw [← List.append_assoc, ofList_append_singleton, get?_insert,
        if_neg (he e List.mem_cons_self).symm, ih hback]

/-- Of the entries of a list with one key the last one counts. -/
theorem get?_ofList_eq_some_iff [Std.TransOrd κ] {l : List (κ × α)} {k : κ} {v : α} :
    (ofList l).get? k = some v ↔
      ∃ front back, l = front ++ (k, v) :: back ∧ ∀ e ∈ back, e.1 ≠ k := by
  classical
  constructor
  · intro h
    induction l using List.reverseRecOn with
    | nil => cases h
    | append_singleton l e ih =>
        rw [ofList_append_singleton, get?_insert] at h
        split at h
        · next hk =>
          cases h
          exact ⟨l, [], by rw [hk], by simp⟩
        · next hk =>
          obtain ⟨front, back, rfl, hback⟩ := ih h
          refine ⟨front, back ++ [e], by simp, ?_⟩
          exact List.forall_mem_append.mpr ⟨hback, by simpa using Ne.symm hk⟩
  · rintro ⟨front, back, rfl, hback⟩
    rw [List.append_cons, get?_ofList_append_of_ne hback, ofList_append_singleton, get?_insert,
      if_pos rfl]

/-- The table of a function on a list of keys. -/
theorem get?_ofList_map [Std.TransOrd κ] [DecidableEq κ] (f : κ → α) (ks : List κ) (k : κ) :
    (ofList (ks.map fun j => (j, f j))).get? k = if k ∈ ks then some (f k) else none := by
  induction ks using List.reverseRecOn with
  | nil => rfl
  | append_singleton ks j ih =>
      rw [List.map_append, List.map_singleton, ofList_append_singleton, get?_insert, ih]
      by_cases hk : k = j
      · simp [hk]
      · simp [hk]

/-- One more entry leaves the table of a function as it is exactly if it belongs to it. -/
theorem get?_ofList_map_append_iff [Std.TransOrd κ] [DecidableEq κ] {f : κ → α} {ks : List κ}
    {extra : Option (κ × α)} :
    (∀ k, (ofList (ks.map (fun j => (j, f j)) ++ extra.toList)).get? k =
        if k ∈ ks then some (f k) else none) ↔
      ∀ e ∈ extra, e.1 ∈ ks ∧ f e.1 = e.2 := by
  cases extra with
  | none => simp [get?_ofList_map]
  | some e =>
      simp only [Option.toList_some, ofList_append_singleton, get?_insert, get?_ofList_map,
        Option.mem_def, Option.some.injEq, forall_eq']
      constructor
      · intro h
        have hlast := h e.1
        rw [if_pos rfl] at hlast
        split at hlast
        · next hmem => exact ⟨hmem, (Option.some.inj hlast).symm⟩
        · cases hlast
      · rintro ⟨hmem, hvalue⟩ k
        split
        · next hk => rw [hk, if_pos hmem, hvalue]
        · rfl

end Updates

theorem length_keys (t : Table κ α) : t.keys.length = t.size := by
  simp [keys, size]

/-! ## Agreement -/

/-- Two tables have values at the same keys, and a function takes the same value on both. -/
def Agree (f : α → β) (t u : Table κ α) : Prop :=
  ∀ k, (t.get? k).map f = (u.get? k).map f

namespace Agree

variable {f : α → β} {t u v : Table κ α}

@[refl] theorem refl (f : α → β) (t : Table κ α) : Agree f t t := fun _ => rfl

theorem symm (h : Agree f t u) : Agree f u t := fun k => (h k).symm

theorem trans (h : Agree f t u) (h' : Agree f u v) : Agree f t v :=
  fun k => (h k).trans (h' k)

/-- Agreement on a part of the values is agreement on every smaller part. -/
theorem mono (h : Agree f t u) (g : β → γ) : Agree (g ∘ f) t u := by
  intro k
  have hk := congrArg (Option.map g) (h k)
  simpa using hk

/-- A value of one table has a counterpart in the other. -/
theorem exists_of_get? (h : Agree f t u) {k : κ} {a : α} (ha : t.get? k = some a) :
    ∃ b, u.get? k = some b ∧ f b = f a := by
  have hk := h k
  rw [ha, Option.map_some] at hk
  obtain ⟨b, hb, hfb⟩ := Option.map_eq_some_iff.mp hk.symm
  exact ⟨b, hb, hfb⟩

/-- An update that preserves a part of the values agrees with the table before it. -/
theorem modify [Std.LawfulEqOrd κ] [DecidableEq κ] (t : Table κ α) (k : κ) {m : α → α}
    (hm : ∀ a, f (m a) = f a) : Agree f (t.modify k m) t := by
  intro j
  rw [get?_modify]
  split
  · cases t.get? j <;> simp [hm]
  · rfl

/-- Steps that each preserve a part of the values preserve it together. -/
theorem foldl {ι : Type} {step : Table κ α → ι → Table κ α}
    (hstep : ∀ t i, Agree f (step t i) t) (is : List ι) (t : Table κ α) :
    Agree f (is.foldl step t) t := by
  induction is generalizing t with
  | nil => exact .refl f t
  | cons i is ih => exact (ih (step t i)).trans (hstep t i)

end Agree

end Storyboard.Table
