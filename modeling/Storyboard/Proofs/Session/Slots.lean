import Storyboard.Proofs.Grammar.Operands
import Storyboard.Proofs.Session.Definitions

/-!
# Slots for operands

The operands of a statement are described twice: by the grammar, which says what they look like,
and by the readers, which take them off the front of a list slot after slot. Here the two are
brought together, one kind of slot at a time: a reader that is given what the grammar spells for
its slot leaves what the grammar spells for the slots after it.

They disagree about one thing. The grammar takes a position of two numbers by their characters, but
a number that is too big has no value, and then a reader takes it for a name. If an object has this
name, the second number is left over. What follows is read without regard to the grammar from then
on, which is why this reason for a failure is carried along.

Main results:

- Definition `Fault.isArity`: the faults about the number of operands.
- Definition `Operands.Leaves`: what a reader makes of the arguments it is given.
- Theorem `Operands.leaves_position`: a position slot takes what the grammar spells for it.
- Theorem `Operands.fits_readAll`: nothing is left over in the end, unless there is that reason.
-/

namespace Storyboard

open Grammar Grammar.Expr

/-! ## Faults about the number of operands -/

/-- Whether a fault says that operands are missing or left over. -/
def Fault.isArity : Fault → Bool
  | usage _ | missing _ | extra _ | colorCount _ | missingCoordinate _
  | badOption (.missingValue _) _ => true
  | _ => false

/-- Two arguments in a row are numbers for the grammar, but the first of them has no value, and an
object has it as its name. -/
def Scene.Misnames (s : Scene) (args : List String) : Prop :=
  ∃ x y, [x, y] <:+: args ∧ number.Spells [x] ∧ number.Spells [y] ∧
    Number.isNumber x = false ∧ s.contains x

theorem Scene.Misnames.mono {s : Scene} {args rest : List String} (h : s.Misnames rest)
    (hrest : rest <:+ args) : s.Misnames args := by
  obtain ⟨x, y, hxy, hspelled⟩ := h
  exact ⟨x, y, hxy.trans hrest.isInfix, hspelled⟩

/-- A fault is not about the number of operands, or operands are left over for a reason. -/
def Fault.Excused (reason : Prop) (f : Fault) : Prop :=
  f.isArity → reason ∧ ∃ token, f = extra token

/-- Whatever fails does so with an excused fault. -/
def Fits {α : Type} (reason : Prop) (x : Except Fault α) : Prop :=
  ∀ f, x = .error f → f.Excused reason

section Fits

variable {α β : Type} {reason : Prop}

theorem fits_ok (a : α) : Fits reason (.ok a) := by
  intro f h
  cases h

theorem fits_error {f : Fault} (hf : f.isArity = false) :
    Fits reason (.error f : Except Fault α) := by
  intro f' h harity
  cases h
  rw [hf] at harity
  cases harity

theorem Fits.bind {x : Except Fault α} {g : α → Except Fault β} (hx : Fits reason x)
    (hg : ∀ a, Fits reason (g a)) : Fits reason (x >>= g) := by
  intro f h
  cases x with
  | error f' =>
      cases h
      exact hx _ rfl
  | ok a => exact hg a f h

theorem Fits.bind_of_ok {x : Except Fault α} {g : α → Except Fault β} {a : α} (hx : x = .ok a)
    (hg : Fits reason (g a)) : Fits reason (x >>= g) := by
  rw [hx]
  exact hg

theorem Fits.map {x : Except Fault α} {g : α → β} (hx : Fits reason x) :
    Fits reason (x.map g) := by
  intro f h
  cases x with
  | error f' =>
      cases h
      exact hx _ rfl
  | ok a => cases h

theorem fits_numberOf (token : String) : Fits reason (Operands.numberOf token) := by
  unfold Operands.numberOf
  split
  · exact fits_ok _
  · exact fits_error rfl

theorem fits_parseColor (p : Palette) (token : String) : Fits reason (p.parseColor token) := by
  unfold Palette.parseColor
  split
  · split
    · exact fits_ok _
    · exact fits_error rfl
  · split
    · exact fits_ok _
    · exact fits_error rfl

theorem fits_expandObject (s : Scene) (token name : String) :
    Fits reason (s.expandObject token name) := by
  unfold Scene.expandObject
  split
  · split
    · exact fits_ok _
    · exact fits_error rfl
  · exact fits_error rfl

theorem fits_expandReference (s : Scene) (token : String) :
    Fits reason (s.expandReference token) := by
  unfold Scene.expandReference
  split
  · exact (fits_expandObject s token _).map
  · exact fits_expandObject s token token

/-- Two tokens are enough for a position. -/
theorem fits_expandPosition (s : Scene) (first second : String) :
    Fits reason (s.expandPosition first (some second)) := by
  unfold Scene.expandPosition
  split
  · exact fits_expandReference s first
  · next heq => cases heq
  · split
    · exact fits_ok _
    · exact fits_error rfl

theorem fits_expandName (s : Scene) (mode : NameMode) (token : String) :
    Fits reason (s.expandName mode token) := by
  unfold Scene.expandName
  split
  · exact fits_ok _
  · split
    · exact fits_ok _
    · exact fits_error rfl
  · unfold Scene.expandRegex
    split
    · exact fits_error rfl
    · simp only
      split
      · exact fits_error rfl
      · exact fits_ok _
  · split
    · exact fits_ok _
    · exact fits_error rfl

theorem fits_expandNames (s : Scene) (mode : NameMode) (args : List String) :
    Fits reason (s.expandNames mode args) := by
  induction args with
  | nil => exact fits_ok _
  | cons token args ih =>
      exact (fits_expandName s mode token).bind fun _ => ih.bind fun _ => fits_ok _

theorem fits_definedName (s : Scene) (token : String) : Fits reason (s.definedName token) := by
  unfold Scene.definedName
  split
  · exact fits_ok _
  · refine (fits_expandName s .create token).bind ?_
    intro names
    cases names with
    | nil => exact fits_error rfl
    | cons name names => exact fits_ok _

end Fits

/-! ## Readers of operands -/

/-- What is left of the arguments is spelled by an expression, and a misnamed number in it is the
reason for what may go wrong. -/
def Exact (s : Scene) (reason : Prop) (e : Expr) (args : List String) : Prop :=
  e.Spells args ∧ (s.Misnames args → reason)

/-- What is at the end of the arguments is misnamed for the same reason. -/
theorem Exact.of_suffix {s : Scene} {reason : Prop} {e : Expr} {args rest : List String}
    (hspells : e.Spells rest) (hreason : s.Misnames args → reason) (hrest : rest <:+ args) :
    Exact s reason e rest :=
  ⟨hspells, fun h => hreason (h.mono hrest)⟩

/-- The same, unless a misnamed number has been read already. -/
def Spelled (s : Scene) (reason : Prop) (e : Expr) (args : List String) : Prop :=
  reason ∨ Exact s reason e args

namespace Operands

variable {α β : Type} {s : Scene} {reason : Prop} {P P' Q R : List String → Prop} {e : Expr}

/-- A reader leaves arguments with a property of those it is given, and it does not fail for their
number. -/
def LeavesAt (reason : Prop) (Q : List String → Prop) (reader : Operands α)
    (args : List String) : Prop :=
  Fits reason (reader.read args).1 ∧ ∀ a rest, reader.read args = (.ok a, rest) → Q rest

/-- The same for all arguments with some other property. -/
def Leaves (reason : Prop) (P Q : List String → Prop) (reader : Operands α) : Prop :=
  ∀ args, P args → reader.LeavesAt reason Q args

theorem leavesAt_of_read {reader : Operands α} {args rest : List String} {x : Except Fault α}
    (hread : reader.read args = (x, rest)) (hx : Fits reason x) (hrest : ∀ a, x = .ok a → Q rest) :
    reader.LeavesAt reason Q args := by
  unfold LeavesAt
  rw [hread]
  refine ⟨hx, ?_⟩
  intro a left h
  obtain ⟨hok, rfl⟩ := Prod.mk.inj h
  exact hrest a hok

theorem leaves_pure (a : α) : Leaves reason P P (pure a) :=
  fun _ hargs => leavesAt_of_read rfl (fits_ok a) fun _ _ => hargs

theorem leaves_lift {x : Except Fault α} (hx : Fits reason x) :
    Leaves reason P P (liftM x : Operands α) :=
  fun args hargs => leavesAt_of_read (read_lift x args) hx fun _ _ => hargs

/-- One reader after another. -/
theorem Leaves.bind {reader : Operands α} {next : α → Operands β}
    (hreader : Leaves reason P Q reader) (hnext : ∀ a, Leaves reason Q R (next a)) :
    Leaves reason P R (reader >>= next) := by
  intro args hargs
  obtain ⟨hfits, hok⟩ := hreader args hargs
  unfold LeavesAt
  rw [read_bind]
  rcases hread : reader.read args with ⟨f | a, rest⟩
  · rw [hread] at hfits
    refine ⟨?_, ?_⟩
    · intro f' h
      cases h
      exact hfits f rfl
    · intro b left h
      cases h
  · exact hnext a rest (hok a rest hread)

theorem Leaves.mono {reader : Operands α} (h : Leaves reason P Q reader)
    (hP : ∀ args, P' args → P args) : Leaves reason P' Q reader :=
  fun args hargs => h args (hP args hargs)

theorem Leaves.weaken {reader : Operands α} (h : Leaves reason P Q reader)
    (hQ : ∀ args, Q args → R args) : Leaves reason P R reader := by
  intro args hargs
  obtain ⟨hfits, hok⟩ := h args hargs
  exact ⟨hfits, fun a rest hread => hQ rest (hok a rest hread)⟩

theorem leaves_required {a : Expr} (ha : a.Single) (what : String) :
    Leaves reason (Exact s reason (seq a e)) (Exact s reason e) (required what) := by
  rintro args ⟨hspells, hmisnamed⟩
  obtain ⟨token, rest, rfl, -, hrest⟩ := ha.cons_of_seq hspells
  refine leavesAt_of_read rfl (fits_ok token) ?_
  intro _ _
  exact .of_suffix hrest hmisnamed (List.suffix_cons _ _)

/-! ### Slots for one argument -/

/-- A reader of one argument, if there is one. -/
def TakesOne (reader : Operands α) : Prop :=
  ∀ args, ∃ x : Except Fault α, reader.read args = (x, args.tail) ∧ ∀ reason, Fits reason x

theorem read_number (default : Float) (token : String) (rest : List String) :
    (number default).read (token :: rest) = (numberOf token, rest) :=
  read_lift (numberOf token) rest

theorem takesOne_number (default : Float) : (number default).TakesOne := by
  rintro (_ | ⟨token, rest⟩)
  · exact ⟨.ok default, rfl, fun _ => fits_ok default⟩
  · exact ⟨numberOf token, read_number default token rest, fun _ => fits_numberOf token⟩

theorem takesOne_color (p : Palette) (default : String) : (color p default).TakesOne := by
  rintro (_ | ⟨token, rest⟩)
  · exact ⟨p.parseColor default, read_lift _ _, fun _ => fits_parseColor p default⟩
  · exact ⟨p.parseColor token, read_lift _ _, fun _ => fits_parseColor p token⟩

theorem takesOne_text (default : String) : (text default).TakesOne := by
  rintro (_ | ⟨token, rest⟩)
  · exact ⟨.ok default, rfl, fun _ => fits_ok default⟩
  · exact ⟨.ok token, rfl, fun _ => fits_ok token⟩

theorem TakesOne.leaves {reader : Operands α} (h : reader.TakesOne)
    (hPQ : ∀ args, P args → Q args.tail) : Leaves reason P Q reader := by
  intro args hargs
  obtain ⟨x, hread, hfits⟩ := h args
  exact leavesAt_of_read hread (hfits reason) fun _ _ => hPQ args hargs

/-- An optional slot for one argument. -/
theorem TakesOne.leaves_slot {reader : Operands α} (h : reader.TakesOne) {a : Expr}
    (ha : a.Single) (he : e.Spells []) :
    Leaves reason (Spelled s reason (opt (seq a e))) (Spelled s reason e) reader := by
  apply h.leaves
  rintro args (hreason | ⟨rfl | hspells, hmisnamed⟩)
  · exact .inl hreason
  · exact .inr ⟨he, hmisnamed⟩
  · obtain ⟨token, rest, rfl, -, hrest⟩ := ha.cons_of_seq hspells
    exact .inr (.of_suffix hrest hmisnamed (List.suffix_cons _ _))

theorem leaves_number {default : Float} (he : e.Spells []) :
    Leaves reason (Spelled s reason (opt (seq Grammar.number e))) (Spelled s reason e)
      (number default) :=
  (takesOne_number default).leaves_slot .rule he

theorem leaves_color {p : Palette} {default : String} (he : e.Spells []) :
    Leaves reason (Spelled s reason (opt (seq Grammar.color e))) (Spelled s reason e)
      (color p default) :=
  (takesOne_color p default).leaves_slot .rule he

theorem leaves_text {default : String} (he : e.Spells []) :
    Leaves reason (Spelled s reason (opt (seq textOperand e))) (Spelled s reason e)
      (text default) :=
  (takesOne_text default).leaves_slot (.alt .rule .rule) he

theorem leaves_pair {dx dy : Float} (he : e.Spells []) :
    Leaves reason (Spelled s reason (opt (seq Grammar.number (opt (seq Grammar.number e)))))
      (Spelled s reason e) (pair s dx dy) :=
  (leaves_number (spells_opt_nil _)).bind fun _ => (leaves_number he).bind fun _ => leaves_pure _

/-- A number that is read as a name and is a position is misnamed. -/
theorem misnames_of_expandReference {x : String} {rest : List String} {pos : Point}
    (hnumber : Grammar.number.Spells [x]) (hrest : (seq Grammar.number e).Spells rest)
    (hx : Number.isNumber x = false) (h : s.expandReference x = .ok pos) :
    s.Misnames (x :: rest) := by
  obtain ⟨y, left, rfl, hy, -⟩ := Single.rule.cons_of_seq hrest
  refine ⟨x, y, (List.prefix_append [x, y] left).isInfix, hnumber, hy, hx, ?_⟩
  unfold Scene.expandReference at h
  rw [offsetReference_of_number hnumber] at h
  by_contra hcontains
  simp only [Scene.expandObject, if_neg hcontains] at h
  cases h

/-- A number at the front is the first of two coordinates, anything else is a name. -/
theorem read_position_cons (dx dy : Float) (x : String) (rest : List String) :
    (position s dx dy).read (x :: rest) =
      if Number.isNumber x then (pair s dx dy).read (x :: rest)
      else (s.expandReference x, rest) := by
  have hread : (position s dx dy).read (x :: rest) =
      (if Number.isNumber x then pair s dx dy
      else do
        discard next?
        s.expandReference x : Operands Point).read (x :: rest) := rfl
  rw [hread]
  split
  · rfl
  · exact read_lift (s.expandReference x) rest

/-- A position is a name or two numbers. -/
theorem position_cases {x : String} {rest : List String}
    (h : (seq Grammar.position e).Spells (x :: rest)) :
    Number.isNumber x = false ∧ e.Spells rest ∨
      Grammar.number.Spells [x] ∧ (seq Grammar.number e).Spells rest := by
  obtain ⟨front, back, hargs, hnumbers | hname, hback⟩ := h
  · obtain ⟨y, ys, rfl, hy, hys⟩ := Single.rule.cons_of_seq hnumbers
    cases hargs
    exact .inr ⟨hy, ys, back, rfl, hys, hback⟩
  · obtain ⟨y, rfl⟩ := Single.rule front hname
    cases hargs
    exact .inl ⟨isNumber_of_reference hname, hback⟩

/-- A position slot takes one argument or two. A number that has no value is read as a name; if it
is one, what should have been its second coordinate is left over. -/
theorem leaves_position {dx dy : Float} (he : e.Spells []) :
    Leaves reason (Spelled s reason (opt (seq Grammar.position e))) (Spelled s reason e)
      (position s dx dy) := by
  intro args hargs
  cases args with
  | nil => exact leavesAt_of_read rfl (fits_ok _) fun _ _ => hargs.imp_right fun h => ⟨he, h.2⟩
  | cons x rest =>
      have hread := read_position_cons dx dy x rest (s := s)
      cases hx : Number.isNumber x with
      | true =>
          rw [hx, if_pos rfl] at hread
          unfold LeavesAt
          rw [hread]
          -- The grammar has two numbers here as well, because names are not numbers.
          apply leaves_pair he
          refine hargs.imp_right ?_
          rintro ⟨hspells, hmisnamed⟩
          refine ⟨.inr ?_, hmisnamed⟩
          rcases position_cases (hspells.resolve_left (by simp)) with
            ⟨hname, -⟩ | ⟨hnumber, hrest⟩
          · rw [hname] at hx
            cases hx
          · exact ⟨[x], rest, rfl, hnumber, .inr hrest⟩
      | false =>
          rw [hx, if_neg Bool.false_ne_true] at hread
          refine leavesAt_of_read hread (fits_expandReference s x) ?_
          intro pos hpos
          -- One argument is taken: a name, or the first of two numbers.
          rcases hargs with hreason | ⟨hspells, hmisnamed⟩
          · exact .inl hreason
          · rcases position_cases (hspells.resolve_left (by simp)) with
              ⟨-, hrest⟩ | ⟨hnumber, hrest⟩
            · exact .inr (.of_suffix hrest hmisnamed (List.suffix_cons _ _))
            · exact .inl (hmisnamed (misnames_of_expandReference hnumber hrest hx hpos))

/-- Nothing has to follow the last slot. -/
theorem Leaves.last {reader : Operands α} {a : Expr}
    (h : Leaves reason (Spelled s reason (opt (seq a (all [])))) Q reader) :
    Leaves reason (Spelled s reason (opt a)) Q reader := by
  refine h.mono ?_
  rintro args (hreason | ⟨hspells, hmisnamed⟩)
  · exact .inl hreason
  · exact .inr ⟨hspells.imp_right fun h => ⟨args, [], by simp, h, rfl⟩, hmisnamed⟩

/-- If something is left over in the end, there is a reason for it. -/
theorem fits_readAll {reader : Operands α} (h : Leaves reason P (Spelled s reason (all [])) reader)
    {args : List String} (hargs : P args) : Fits reason (reader.readAll args) := by
  have hfinish : Leaves reason (Spelled s reason (all [])) (fun _ => True) finish := by
    rintro (_ | ⟨token, rest⟩) hrest
    · exact ⟨fits_ok _, fun _ _ _ => trivial⟩
    · refine ⟨?_, fun _ _ _ => trivial⟩
      rcases hrest with hreason | ⟨hspells, -⟩
      · intro f hf harity
        cases hf
        exact ⟨hreason, token, rfl⟩
      · cases hspells
  exact ((h.bind fun a => hfinish.bind fun _ => leaves_pure a) args hargs).1

/-! ### Positions that have to be there -/

theorem read_requiredPosition_cons (what x : String) (rest : List String) :
    (requiredPosition s what).read (x :: rest) =
      if Number.isNumber x then
        (do s.expandPosition x (some (← required what)) : Operands Point).read rest
      else (s.expandReference x, rest) := by
  have hread : (requiredPosition s what).read (x :: rest) =
      (if Number.isNumber x then do
        let second ← required what
        s.expandPosition x (some second)
      else s.expandPosition x none : Operands Point).read rest := rfl
  rw [hread]
  split
  · rfl
  · next hx =>
    have hnone : Number.ofToken? x = none := by
      simpa [Number.isNumber] using hx
    have hname : s.expandPosition x none = s.expandReference x := by
      unfold Scene.expandPosition
      rw [hnone]
    rw [hname]
    exact read_lift (s.expandReference x) rest

/-- A position that has to be there is complete, with the same exception. -/
theorem leaves_requiredPosition (what : String) :
    Leaves reason (Exact s reason Grammar.position) (Spelled s reason (all []))
      (requiredPosition s what) := by
  rintro args ⟨hspells, hmisnamed⟩
  obtain ⟨x, rest, rfl, -⟩ := unflagged_position args hspells
  have hcases : Number.isNumber x = false ∧ (all []).Spells rest ∨
      Grammar.number.Spells [x] ∧ (seq Grammar.number (all [])).Spells rest :=
    position_cases ⟨_, [], by simp, hspells, rfl⟩
  have hread := read_requiredPosition_cons what x rest (s := s)
  cases hx : Number.isNumber x with
  | true =>
      rw [hx, if_pos rfl] at hread
      rcases hcases with ⟨hname, -⟩ | ⟨-, hrest⟩
      · rw [hname] at hx
        cases hx
      · obtain ⟨y, left, rfl, -, hleft⟩ := Single.rule.cons_of_seq hrest
        have hsecond := hread.trans (read_lift (s.expandPosition x (some y)) left)
        refine leavesAt_of_read hsecond (fits_expandPosition s x y) ?_
        intro _ _
        exact .inr (.of_suffix hleft hmisnamed (List.suffix_append [x, y] _))
  | false =>
      rw [hx, if_neg Bool.false_ne_true] at hread
      refine leavesAt_of_read hread (fits_expandReference s x) ?_
      intro pos hpos
      rcases hcases with ⟨-, hrest⟩ | ⟨hnumber, hrest⟩
      · exact .inr (.of_suffix hrest hmisnamed (List.suffix_cons _ _))
      · exact .inl (hmisnamed (misnames_of_expandReference hnumber hrest hx hpos))

/-! ### Few arguments -/

/-- At most so many arguments are left. -/
def AtMost (n : Nat) (args : List String) : Prop := args.length ≤ n

theorem TakesOne.leaves_atMost {reader : Operands α} (h : reader.TakesOne) {n m : Nat}
    (hnm : n ≤ m + 1) : Leaves reason (AtMost n) (AtMost m) reader := by
  apply h.leaves
  intro args hargs
  rw [AtMost, List.length_tail]
  exact Nat.sub_le_of_le_add (hargs.trans hnm)

theorem spelled_of_atMost {args : List String} (he : e.Spells []) (h : AtMost 0 args) :
    Spelled s reason e args := by
  rw [AtMost, Nat.le_zero, List.length_eq_zero_iff] at h
  subst h
  refine .inr ⟨he, ?_⟩
  rintro ⟨x, y, hxy, -⟩
  cases List.infix_nil.mp hxy

/-- A position slot takes a single argument. -/
theorem leaves_position_atMost {dx dy : Float} :
    Leaves reason (AtMost 1) (AtMost 0) (position s dx dy) := by
  intro args hargs
  cases args with
  | nil => exact leavesAt_of_read rfl (fits_ok _) fun _ _ => Nat.le_refl 0
  | cons x rest =>
      have hread := read_position_cons dx dy x rest (s := s)
      split at hread
      · have hpair : Leaves reason (AtMost 1) (AtMost 0) (pair s dx dy) := by
          refine ((takesOne_number dx).leaves_atMost (Nat.le_refl 1)).bind fun x => ?_
          refine ((takesOne_number dy).leaves_atMost (Nat.zero_le 1)).bind fun y => ?_
          exact leaves_pure _
        unfold LeavesAt
        rw [hread]
        exact hpair (x :: rest) hargs
      · refine leavesAt_of_read hread (fits_expandReference s x) ?_
        intro _ _
        exact Nat.le_of_succ_le_succ hargs

end Operands

end Storyboard
