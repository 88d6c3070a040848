import Storyboard.Session.Action

/-!
# Readers

What is known about the answer of a reader. A reader of operands is a list of slots, and what it
answers follows from what its slots answer; a reader of a statement answers an action of one form,
whatever its arguments are.

Main results:

- Theorem `Operands.read_bind`: what is left by one reader is read by the next.
- Theorem `Operands.Yields.of_readAll`: the answer of a reader that has to use up its arguments.
- Theorem `Action.readDefine_eq_ok`: the arguments of a definition that has been read.
- Theorem `Action.readSpring_eq_ok`: the arguments of a layout that has been read.
- Theorem `Action.verb_of_read`: what has been read is an action of the verb.
- Theorem `Action.readDefine_of_read`: only definitions ask for new objects.
-/

namespace Storyboard

/-! ## Results -/

section Results

variable {ε α β : Type}

/-- A step after another has an answer only if the first one has. -/
theorem exists_of_bind_eq_ok {x : Except ε α} {f : α → Except ε β} {b : β}
    (h : x >>= f = .ok b) : ∃ a, x = .ok a ∧ f a = .ok b := by
  cases x with
  | error e => cases h
  | ok a => exact ⟨a, rfl, h⟩

/-- What an answer has been made of. -/
theorem exists_of_map_eq_ok {x : Except ε α} {f : α → β} {b : β} (h : x.map f = .ok b) :
    ∃ a, x = .ok a ∧ f a = b := by
  cases x with
  | error e => cases h
  | ok a =>
      cases h
      exact ⟨a, rfl, rfl⟩

end Results

/-! ## Operands -/

namespace Operands

variable {α β : Type}

/-- What is left by one reader is read by the next, unless the first one fails. -/
theorem read_bind (reader : Operands α) (next : α → Operands β) (args : List String) :
    (reader >>= next).read args =
      match reader.read args with
      | (.ok a, rest) => (next a).read rest
      | (.error f, rest) => (.error f, rest) := by
  unfold read
  rw [ExceptT.run_bind, StateT.run_bind]
  rcases StateT.run (ExceptT.run reader) args with ⟨a | f, rest⟩
  · rfl
  · rfl

/-- What needs no arguments leaves all of them. -/
theorem read_lift (x : Except Fault α) (args : List String) :
    read (liftM x) args = (x, args) := by
  cases x <;> rfl

/-- Whatever a reader answers has a property. -/
def Yields (P : α → Prop) (reader : Operands α) : Prop :=
  ∀ args a rest, reader.read args = (.ok a, rest) → P a

theorem yields_pure {P : α → Prop} {a : α} (ha : P a) : Yields P (pure a) := by
  intro args b rest h
  cases h
  exact ha

/-- A result that does not depend on the arguments. -/
theorem yields_lift {P : α → Prop} {x : Except Fault α} (hx : ∀ a, x = .ok a → P a) :
    Yields P (liftM x) := by
  intro args a rest h
  rw [read_lift] at h
  exact hx a (congrArg Prod.fst h)

/-- One reader after another. -/
theorem Yields.bind {P : α → Prop} {Q : β → Prop} {reader : Operands α} {next : α → Operands β}
    (hreader : Yields P reader) (hnext : ∀ a, P a → Yields Q (next a)) :
    Yields Q (reader >>= next) := by
  intro args b rest h
  rw [read_bind] at h
  split at h
  · next a left hread => exact hnext a (hreader args a left hread) left b rest h
  · cases h

/-- Nothing has to be known about a reader whose answer does not matter. -/
theorem yields_bind {Q : β → Prop} {reader : Operands α} {next : α → Operands β}
    (hnext : ∀ a, Yields Q (next a)) : Yields Q (reader >>= next) :=
  Yields.bind (P := fun _ => True) (fun _ _ _ _ => trivial) fun a _ => hnext a

/-- The answer of a reader that has to use up its arguments. -/
theorem Yields.of_readAll {P : α → Prop} {reader : Operands α} (h : Yields P reader)
    {args : List String} {a : α} (hread : reader.readAll args = .ok a) : P a := by
  have hall : Yields P (do let a ← reader; finish; return a) :=
    h.bind fun _ ha => yields_bind fun _ => yields_pure ha
  exact hall args a _ (Prod.ext hread rfl)

/-- What a reader of all arguments answers is what it answers before the end is checked. -/
theorem exists_of_readAll {reader : Operands α} {args : List String} {value : α}
    (h : reader.readAll args = .ok value) : ∃ rest, reader.read args = (.ok value, rest) := by
  unfold readAll at h
  rw [read_bind] at h
  split at h
  · next found rest hread =>
    rw [read_bind] at h
    split at h
    · cases h
      exact ⟨rest, hread⟩
    · cases h
  · cases h

/-- A slot that has to be filled takes the first argument. -/
theorem exists_of_required {what : String} {next : String → Operands α} {value : α}
    {args rest : List String} (h : (required what >>= next).read args = (.ok value, rest)) :
    ∃ token others, args = token :: others ∧ (next token).read others = (.ok value, rest) := by
  cases args with
  | nil => cases h
  | cons token others => exact ⟨token, others, rfl, h⟩

/-- What needs no arguments has to be there for what is read after it. -/
theorem exists_of_lift {x : Except Fault β} {next : β → Operands α} {args rest : List String}
    {value : α} (h : ((liftM x : Operands β) >>= next).read args = (.ok value, rest)) :
    ∃ b, x = .ok b ∧ (next b).read args = (.ok value, rest) := by
  rw [read_bind, read_lift] at h
  cases x with
  | error f => cases h
  | ok b => exact ⟨b, rfl, h⟩

end Operands

/-! ## Actions -/

namespace Action

variable {s : Stage} {args : List String} {action : Action}

theorem named_eq_ok {pattern : String} {names : List String}
    (h : named s pattern = .ok names) : s.scene.expandNames .existing [pattern] = .ok names := by
  rw [named] at h
  simp [Scene.expandNames, h, bind, Except.bind]

theorem readSetting_eq_ok {usage : String} {value : String → Except Fault Change}
    (h : readSetting s usage value args = .ok action) :
    ∃ token c names, value token = .ok c ∧ action = .change c names ∧
      s.scene.expandNames .existing (args.take 1) = .ok names := by
  unfold readSetting at h
  split at h
  · next pattern token =>
    obtain ⟨c, hc, h⟩ := exists_of_bind_eq_ok h
    obtain ⟨names, hnames, h⟩ := exists_of_bind_eq_ok h
    cases h
    exact ⟨token, c, names, hc, rfl, named_eq_ok hnames⟩
  · cases h

theorem readSwitch_eq_ok {c : Change}
    (h : readSwitch s c args = .ok action) : ∃ names, action = .change c names := by
  unfold readSwitch at h
  split at h
  · cases h
  · obtain ⟨names, -, rfl⟩ := exists_of_map_eq_ok h
    exact ⟨names, rfl⟩

theorem readKill_eq_ok
    (h : readKill s args = .ok action) : ∃ names : List String, action = .kill names.eraseDups := by
  unfold readKill at h
  split at h
  · cases h
  · obtain ⟨names, -, rfl⟩ := exists_of_map_eq_ok h
    exact ⟨names, rfl⟩

theorem readShift_eq_ok
    (h : readShift s args = .ok action) : ∃ delta names, action = .shift delta names := by
  unfold readShift at h
  split at h
  · obtain ⟨x, -, h⟩ := exists_of_bind_eq_ok h
    obtain ⟨y, -, h⟩ := exists_of_bind_eq_ok h
    obtain ⟨names, -, h⟩ := exists_of_bind_eq_ok h
    cases h
    exact ⟨_, names, rfl⟩
  · cases h

/-- The parent of an attachment that has been read is in use. -/
theorem readAttach_eq_ok
    (h : readAttach s args = .ok action) :
    ∃ parent offset names id, action = .attach parent offset names ∧
      s.scene.idOf parent = .ok id := by
  unfold readAttach at h
  obtain ⟨⟨pattern, parent, offset⟩, -, h⟩ := exists_of_bind_eq_ok h
  simp only at h
  split at h
  · cases h
  · next id hid =>
    obtain ⟨names, -, h⟩ := exists_of_bind_eq_ok h
    cases h
    exact ⟨parent, offset, names, id, rfl, hid⟩

/-- The arguments of a definition that has been read. -/
theorem readDefine_eq_ok
    (h : readDefine s args = .ok action) :
    ∃ token word operands given kind b, args = token :: word :: operands ∧
      s.scene.definedName token = .ok given ∧ ShapeKind.ofWord? word.toList = some kind ∧
      Blueprint.read s kind operands = .ok b ∧ action = .define given b := by
  unfold readDefine at h
  split at h
  · next token word operands =>
    cases hgiven : s.scene.definedName token with
    | error f => rw [hgiven] at h; cases h
    | ok given =>
        rw [hgiven] at h
        simp only [Bind.bind, Except.bind] at h
        split at h
        · cases h
        · next kind hkind =>
          cases hb : Blueprint.read s kind operands with
          | error f => rw [hb] at h; cases h
          | ok b =>
              rw [hb] at h
              cases h
              exact ⟨token, word, operands, given, kind, b, rfl, hgiven, hkind, hb, rfl⟩
  · cases h

/-- The arguments of a layout that has been read: options, and names that may end in a
rectangle. -/
theorem readSpring_eq_ok
    (h : readSpring s args = .ok action) :
    ∃ options operands rotation names start finish,
      Options.read "f:r:" args = .ok (options, operands) ∧
      s.scene.expandNames .existing operands = .ok names ∧
      action = .spring start finish ((splitRegion? names.reverse).getD (names, [])).1 rotation
        (options.value? 'f') := by
  unfold readSpring at h
  split at h
  · cases h
  · next options operands hoptions =>
    obtain ⟨rotation, -, h⟩ := exists_of_bind_eq_ok h
    obtain ⟨names, hnames, h⟩ := exists_of_bind_eq_ok h
    obtain ⟨⟨start, finish⟩, -, h⟩ := exists_of_bind_eq_ok h
    cases h
    exact ⟨options, operands, rotation, names, start, finish, hoptions, hnames, rfl⟩

end Action

/-! ## Actions and their verbs -/

/-- The verb that asks for a change. -/
def Change.verb : Change → Verb
  | alpha _ => .alpha
  | color _ => .color
  | priority _ => .priority
  | scale _ => .scale
  | fade => .fade
  | fix => .fix
  | hide => .hide
  | unhide => .unhide

namespace Action

/-- The verb that asks for an action. -/
def verb : Action → Verb
  | change c _ => c.verb
  | animate .. => .animate
  | attach .. => .attach
  | move .. => .move
  | shift .. => .shift
  | resize .. => .resize
  | kill .. => .kill
  | define .. => .define
  | defineColor .. => .palette
  | play .. => .play
  | display => .display
  | wait => .wait
  | sleep .. => .sleep
  | spring .. => .spring

variable {s : Stage} {args : List String} {action : Action}

theorem readPalette_eq_ok
    (h : readPalette args = .ok action) : ∃ name rgba, action = .defineColor name rgba := by
  unfold readPalette at h
  split at h
  · obtain ⟨rgba, -, rfl⟩ := exists_of_map_eq_ok h
    exact ⟨_, rgba, rfl⟩
  · cases h

theorem readPlay_eq_ok (h : readPlay s args = .ok action) : ∃ path, action = .play path := by
  unfold readPlay at h
  split at h
  · split at h
    · next path _ =>
      cases h
      exact ⟨path, rfl⟩
    · cases h
  · cases h

theorem readSleep_eq_ok (h : readSleep args = .ok action) : ∃ seconds, action = .sleep seconds := by
  unfold readSleep at h
  split at h
  · obtain ⟨seconds, -, h⟩ := exists_of_bind_eq_ok h
    split at h
    · cases h
    · cases h
      exact ⟨seconds, rfl⟩
  · cases h

theorem readBare_eq_ok {a : Action} (h : readBare a args = .ok action) : action = a := by
  unfold readBare at h
  split at h
  · cases h
    rfl
  · cases h

/-- A statement that has been read asks for an action of its verb. -/
theorem verb_of_read {verb : Verb} (h : Action.read s verb args = .ok action) :
    action.verb = verb := by
  cases verb
  case define =>
    obtain ⟨token, word, operands, given, kind, b, -, -, -, -, rfl⟩ := readDefine_eq_ok h
    rfl
  case alpha | color | priority | scale =>
    obtain ⟨token, c, names, hc, rfl, -⟩ := readSetting_eq_ok h
    obtain ⟨v, -, rfl⟩ := exists_of_map_eq_ok hc
    rfl
  case fade | fix | hide | unhide =>
    obtain ⟨names, rfl⟩ := readSwitch_eq_ok h
    rfl
  case animate | move | resize =>
    obtain ⟨place, -, rfl⟩ := exists_of_map_eq_ok h
    rfl
  case attach =>
    obtain ⟨parent, offset, names, id, rfl, -⟩ := readAttach_eq_ok h
    rfl
  case shift =>
    obtain ⟨delta, names, rfl⟩ := readShift_eq_ok h
    rfl
  case kill =>
    obtain ⟨names, rfl⟩ := readKill_eq_ok h
    rfl
  case palette =>
    obtain ⟨name, rgba, rfl⟩ := readPalette_eq_ok h
    rfl
  case play =>
    obtain ⟨path, rfl⟩ := readPlay_eq_ok h
    rfl
  case sleep =>
    obtain ⟨seconds, rfl⟩ := readSleep_eq_ok h
    rfl
  case spring =>
    obtain ⟨options, operands, rotation, names, start, finish, -, -, rfl⟩ := readSpring_eq_ok h
    rfl
  case display =>
    obtain rfl := readBare_eq_ok h
    rfl
  case wait =>
    obtain rfl := readBare_eq_ok h
    rfl

/-- Only definitions ask for new objects. -/
theorem readDefine_of_read {verb : Verb} {name : Option String} {b : Blueprint}
    (h : Action.read s verb args = .ok (.define name b)) :
    readDefine s args = .ok (.define name b) := by
  obtain rfl : Verb.define = verb := verb_of_read h
  exact h

/-- Only settings ask for a new priority, and it is the number of a token. -/
theorem numberOf_of_read {verb : Verb} {v : Float} {names : List String}
    (h : Action.read s verb args = .ok (.change (.priority v) names)) :
    ∃ token, Operands.numberOf token = .ok v := by
  obtain rfl : Verb.priority = verb := verb_of_read h
  obtain ⟨token, c, names', hc, hsame, -⟩ := readSetting_eq_ok h
  obtain ⟨v', hv, rfl⟩ := exists_of_map_eq_ok hc
  cases hsame
  exact ⟨token, hv⟩

end Action

end Storyboard
