/-!
# Tables

A table is a finite map whose entries are kept in strictly ascending key order.
Because the order is part of the type, a table has exactly one representation:
two tables that answer every lookup alike are equal, whatever updates built them.
The scene keeps its entities in a table by id, its name index in a table by name,
and palettes, options and layout positions are tables as well.

Main results:

- `Table.get?_insert`, `Table.get?_erase`, `Table.get?_modify`: what each update does
  to every lookup.
- `Table.ext_get?`: tables with the same lookups are equal.
-/

namespace Storyboard

/-- A finite map as a list of entries in strictly ascending key order. -/
structure Table (κ : Type) (α : Type) [Ord κ] where
  /-- The entries, smallest key first. -/
  entries : List (κ × α)
  /-- Every key is smaller than all keys that follow it. -/
  ascending : entries.Pairwise (fun a b => compare a.1 b.1 = .lt)

namespace Table

variable {κ α : Type} [Ord κ]

/-! ## Entry lists -/

/-- The value at a key in an entry list. -/
def lookup (k : κ) : List (κ × α) → Option α
  | [] => none
  | (k', v) :: rest => if compare k k' = .eq then some v else lookup k rest

/-- Places an entry by its key, replacing an entry with an equal key. -/
def place (k : κ) (v : α) : List (κ × α) → List (κ × α)
  | [] => [(k, v)]
  | (k', v') :: rest =>
      match compare k k' with
      | .lt => (k, v) :: (k', v') :: rest
      | .eq => (k, v) :: rest
      | .gt => (k', v') :: place k v rest

/-- Adjusts the value at a key and leaves every other entry alone. -/
def adjust (k : κ) (f : α → α) : List (κ × α) → List (κ × α)
  | [] => []
  | (k', v) :: rest =>
      if compare k k' = .eq then (k', f v) :: rest else (k', v) :: adjust k f rest

/-- Drops the entry at a key. -/
def drop (k : κ) : List (κ × α) → List (κ × α)
  | [] => []
  | (k', v) :: rest => if compare k k' = .eq then rest else (k', v) :: drop k rest

theorem mem_place {k : κ} {v : α} {e : κ × α} {l : List (κ × α)} (h : e ∈ place k v l) :
    e = (k, v) ∨ e ∈ l := by
  induction l with
  | nil => simpa [place] using h
  | cons head rest ih =>
    obtain ⟨k', v'⟩ := head
    rw [place] at h
    split at h <;> simp only [List.mem_cons] at h ⊢ <;> grind

theorem map_fst_adjust (k : κ) (f : α → α) (l : List (κ × α)) :
    (adjust k f l).map Prod.fst = l.map Prod.fst := by
  induction l with
  | nil => rfl
  | cons head rest ih =>
    obtain ⟨k', v⟩ := head
    rw [adjust]
    split <;> simp [ih]

theorem drop_sublist (k : κ) (l : List (κ × α)) : (drop k l).Sublist l := by
  induction l with
  | nil => exact .slnil
  | cons head rest ih =>
    obtain ⟨k', v⟩ := head
    rw [drop]
    split
    · exact (List.Sublist.refl rest).cons _
    · exact ih.cons_cons _

theorem pairwise_place [Std.TransOrd κ] [Std.LawfulEqOrd κ] (k : κ) (v : α) {l : List (κ × α)}
    (h : l.Pairwise (fun a b => compare a.1 b.1 = .lt)) :
    (place k v l).Pairwise (fun a b => compare a.1 b.1 = .lt) := by
  induction l with
  | nil => simp [place]
  | cons head rest ih =>
    obtain ⟨k', v'⟩ := head
    rw [List.pairwise_cons] at h
    obtain ⟨hhead, hrest⟩ := h
    rw [place]
    split
    · next hlt =>
      refine List.pairwise_cons.2 ⟨fun e he => ?_, List.pairwise_cons.2 ⟨hhead, hrest⟩⟩
      rcases List.mem_cons.1 he with rfl | he
      · exact hlt
      · exact Std.TransCmp.lt_trans hlt (hhead e he)
    · next heq =>
      have hk : k = k' := Std.LawfulEqCmp.eq_of_compare heq
      subst hk
      exact List.pairwise_cons.2 ⟨hhead, hrest⟩
    · next hgt =>
      refine List.pairwise_cons.2 ⟨fun e he => ?_, ih hrest⟩
      rcases mem_place he with rfl | he
      · exact Std.OrientedCmp.lt_of_gt hgt
      · exact hhead e he

theorem pairwise_adjust (k : κ) (f : α → α) {l : List (κ × α)}
    (h : l.Pairwise (fun a b => compare a.1 b.1 = .lt)) :
    (adjust k f l).Pairwise (fun a b => compare a.1 b.1 = .lt) := by
  have hl : (l.map Prod.fst).Pairwise (fun a b => compare a b = .lt) := List.pairwise_map.2 h
  rw [← map_fst_adjust k f l] at hl
  exact List.pairwise_map.1 hl

theorem pairwise_drop (k : κ) {l : List (κ × α)}
    (h : l.Pairwise (fun a b => compare a.1 b.1 = .lt)) :
    (drop k l).Pairwise (fun a b => compare a.1 b.1 = .lt) :=
  h.sublist (drop_sublist k l)

/-! ## Operations -/

/-- The table without entries. -/
def empty : Table κ α := ⟨[], .nil⟩

instance : Inhabited (Table κ α) := ⟨empty⟩

/-- The value at a key. -/
def get? (t : Table κ α) (k : κ) : Option α := lookup k t.entries

/-- Whether a key has a value. -/
def contains (t : Table κ α) (k : κ) : Bool := (t.get? k).isSome

/-- Sets the value at a key. -/
def insert [Std.TransOrd κ] [Std.LawfulEqOrd κ] (t : Table κ α) (k : κ) (v : α) : Table κ α :=
  ⟨place k v t.entries, pairwise_place k v t.ascending⟩

/-- Removes a key. -/
def erase (t : Table κ α) (k : κ) : Table κ α :=
  ⟨drop k t.entries, pairwise_drop k t.ascending⟩

/-- Updates the value at a key, if there is one. -/
def modify (t : Table κ α) (k : κ) (f : α → α) : Table κ α :=
  ⟨adjust k f t.entries, pairwise_adjust k f t.ascending⟩

/-- The keys in ascending order. -/
def keys (t : Table κ α) : List κ := t.entries.map Prod.fst

/-- The values in ascending key order. -/
def values (t : Table κ α) : List α := t.entries.map Prod.snd

/-- The number of entries. -/
def size (t : Table κ α) : Nat := t.entries.length

/-- The table of a list of entries; of two entries with one key the later wins. -/
def ofList [Std.TransOrd κ] [Std.LawfulEqOrd κ] (l : List (κ × α)) : Table κ α :=
  l.foldl (fun t e => t.insert e.1 e.2) empty

/-! ## Lookups -/

@[simp] theorem get?_empty (k : κ) : (empty : Table κ α).get? k = none := rfl

theorem lookup_eq_none_of_lt {k : κ} {l : List (κ × α)}
    (h : ∀ e ∈ l, compare k e.1 = .lt) : lookup k l = none := by
  induction l with
  | nil => rfl
  | cons head rest ih =>
    obtain ⟨k', v⟩ := head
    have hk : compare k k' = .lt := h (k', v) List.mem_cons_self
    rw [lookup, hk]
    simpa using ih fun e he => h e (List.mem_cons_of_mem _ he)

theorem lookup_place [Std.LawfulEqOrd κ] [DecidableEq κ] (k j : κ) (v : α) (l : List (κ × α)) :
    lookup j (place k v l) = if j = k then some v else lookup j l := by
  induction l with
  | nil => simp [place, lookup, Std.LawfulEqCmp.compare_eq_iff_eq]
  | cons head rest ih =>
    obtain ⟨k', v'⟩ := head
    rw [place]
    split
    · simp [lookup, Std.LawfulEqCmp.compare_eq_iff_eq]
    · next heq =>
      have hk : k = k' := Std.LawfulEqCmp.eq_of_compare heq
      subst hk
      simp only [lookup, Std.LawfulEqCmp.compare_eq_iff_eq]
      split <;> simp_all
    · next hgt =>
      have hk : k ≠ k' := by
        rintro rfl
        simp at hgt
      simp only [lookup, Std.LawfulEqCmp.compare_eq_iff_eq, ih]
      grind

theorem lookup_adjust [Std.LawfulEqOrd κ] [DecidableEq κ] (k j : κ) (f : α → α)
    (l : List (κ × α)) :
    lookup j (adjust k f l) = if j = k then (lookup j l).map f else lookup j l := by
  induction l with
  | nil => simp [adjust, lookup]
  | cons head rest ih =>
    obtain ⟨k', v⟩ := head
    rw [adjust]
    simp only [Std.LawfulEqCmp.compare_eq_iff_eq, lookup]
    split <;> simp only [lookup, Std.LawfulEqCmp.compare_eq_iff_eq, ih] <;> grind

section Lookups

variable [Std.LawfulEqOrd κ]

theorem lookup_drop [DecidableEq κ] (k j : κ) {l : List (κ × α)}
    (h : l.Pairwise (fun a b => compare a.1 b.1 = .lt)) :
    lookup j (drop k l) = if j = k then none else lookup j l := by
  induction l with
  | nil => simp [drop, lookup]
  | cons head rest ih =>
    obtain ⟨k', v⟩ := head
    rw [List.pairwise_cons] at h
    rw [drop]
    simp only [Std.LawfulEqCmp.compare_eq_iff_eq, lookup]
    split
    · next hk =>
      subst hk
      split
      · next hj =>
        subst hj
        exact lookup_eq_none_of_lt h.1
      · rfl
    · next hk =>
      simp only [lookup, Std.LawfulEqCmp.compare_eq_iff_eq, ih h.2]
      grind

/-- After an insertion the new key has the new value and every other key its old one. -/
theorem get?_insert [Std.TransOrd κ] [DecidableEq κ] (t : Table κ α) (k j : κ) (v : α) :
    (t.insert k v).get? j = if j = k then some v else t.get? j :=
  lookup_place k j v t.entries

/-- After an erasure the key has no value and every other key its old one. -/
theorem get?_erase [DecidableEq κ] (t : Table κ α) (k j : κ) :
    (t.erase k).get? j = if j = k then none else t.get? j :=
  lookup_drop k j t.ascending

/-- An update changes the value at its key only. -/
theorem get?_modify [DecidableEq κ] (t : Table κ α) (k j : κ) (f : α → α) :
    (t.modify k f).get? j = if j = k then (t.get? j).map f else t.get? j :=
  lookup_adjust k j f t.entries

theorem lookup_eq_some_iff {k : κ} {v : α} {l : List (κ × α)}
    (h : l.Pairwise (fun a b => compare a.1 b.1 = .lt)) :
    lookup k l = some v ↔ (k, v) ∈ l := by
  induction l with
  | nil => simp [lookup]
  | cons head rest ih =>
    obtain ⟨k', v'⟩ := head
    rw [List.pairwise_cons] at h
    simp only [lookup]
    split
    · next hk =>
      have hk : k = k' := Std.LawfulEqCmp.eq_of_compare hk
      subst hk
      constructor
      · intro hv
        simp_all
      · intro hm
        rcases List.mem_cons.1 hm with heq | hm
        · simp_all
        · have hlt := h.1 _ hm
          simp at hlt
    · next hk =>
      have hne : k ≠ k' := by
        rintro rfl
        simp at hk
      rw [ih h.2]
      simp [hne]

/-- An entry is in the table exactly if its key looks up its value. -/
theorem mem_entries_iff (t : Table κ α) (k : κ) (v : α) :
    (k, v) ∈ t.entries ↔ t.get? k = some v :=
  (lookup_eq_some_iff t.ascending).symm

/-- Two tables with the same lookups are the same table. -/
theorem ext_get? [Std.TransOrd κ] {s t : Table κ α} (h : ∀ k, s.get? k = t.get? k) : s = t := by
  have hmem : ∀ e, e ∈ s.entries ↔ e ∈ t.entries := fun (k, v) => by
    rw [mem_entries_iff, mem_entries_iff, h]
  have hnodup : ∀ {r : Table κ α}, r.entries.Nodup := fun {r} =>
    r.ascending.imp fun {a b} hab => by
      rintro rfl
      simp at hab
  have hperm : s.entries.Perm t.entries :=
    (List.perm_ext_iff_of_nodup hnodup hnodup).2 hmem
  have heq : s.entries = t.entries :=
    hperm.eq_of_pairwise
      (fun a b _ _ hab hba => by
        rw [Std.OrientedCmp.gt_of_lt hab] at hba
        cases hba)
      s.ascending t.ascending
  cases s
  cases t
  simp_all

end Lookups

end Table

end Storyboard
