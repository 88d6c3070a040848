import Storyboard.Proofs.Session.Slots

/-!
# The number of operands

A statement of a line that the strict grammar accepts has as many operands as it reads, whatever the
session is, unless a number without value is the name of an object. What the grammar allows for a
verb or for a kind of shape is matched with what is read, options first. Options end where operands
begin; only the content of a text and the file of a bitmap, which may be any texts, can look like
options themselves.

Main results:

- Definition `Options.Flags`: what the grammar spells is read as options.
- Theorem `Blueprint.fits_read_of_spells`: definitions of all kinds of shapes.
- Theorem `Action.fits_read`: statements of all verbs.
- Theorem `Session.arity_of_parseLine`: statements of accepted lines.
-/

namespace Storyboard

open Grammar Grammar.Expr

/-! ## Options -/

namespace Options

variable {template : List Char} {a b e tail : Expr}

/-- What an expression spells is read as options, whatever follows it. -/
def Flags (template : List Char) (e : Expr) : Prop :=
  ∀ args, e.Spells args → ∀ (o : Options) (rest : List String),
    ∃ o', readFrom template o none (args ++ rest) = readFrom template o' none rest

/-- What an expression spells does not begin with an option. -/
def Stops (e : Expr) : Prop := ∀ args, e.Spells args → ∀ a ∈ args.head?, body? a = none

theorem Flags.alt (ha : Flags template a) (hb : Flags template b) :
    Flags template (Expr.alt a b) := by
  rintro args (h | h)
  · exact ha args h
  · exact hb args h

theorem Flags.opt (ha : Flags template a) : Flags template (Expr.opt a) := by
  rintro args (rfl | h) o rest
  · exact ⟨o, rfl⟩
  · exact ha args h o rest

theorem Flags.star (ha : Flags template a) : Flags template (Expr.star a) := by
  rintro args ⟨parts, rfl, hparts⟩ o rest
  induction parts generalizing o with
  | nil => exact ⟨o, rfl⟩
  | cons part parts ih =>
      obtain ⟨hpart, hparts⟩ := List.forall_mem_cons.mp hparts
      rw [List.flatten_cons, List.append_assoc]
      obtain ⟨o₁, h₁⟩ := ha part hpart o (parts.flatten ++ rest)
      obtain ⟨o₂, h₂⟩ := ih hparts o₁
      exact ⟨o₂, h₁.trans h₂⟩

/-- A letter that takes a value, and its value. -/
theorem flags_valued {flag : Char} {token : String} (hbody : body? token = some [flag])
    (husage : usage? flag template = some .valued) (ha : a.Single) (hb : b.Single)
    (htoken : ∀ x, a.Spells [x] → x = token) : Flags template (seq a b) := by
  intro args hargs o rest
  obtain ⟨x, back, rfl, hx, hback⟩ := ha.cons_of_seq hargs
  obtain ⟨value, rfl⟩ := hb back hback
  cases htoken x hx
  refine ⟨o.insert flag (.value value), ?_⟩
  have hbundle : readBundle template o [flag] = .ok (o, some flag) := by
    rw [readBundle, husage]
    rfl
  rw [List.cons_append, readFrom_cons hbody, hbundle]
  rfl

/-- Letters without values may share a token. -/
theorem readBundle_of_bare {body : List Char} (o : Options)
    (h : ∀ c ∈ body, usage? c template = some .bare) :
    ∃ o', readBundle template o body = .ok (o', none) := by
  induction body generalizing o with
  | nil => exact ⟨o, rfl⟩
  | cons c body ih =>
      obtain ⟨hc, hbody⟩ := List.forall_mem_cons.mp h
      obtain ⟨o', ho'⟩ := ih (o.insert c .present) hbody
      refine ⟨o', ?_⟩
      rw [readBundle, hc]
      exact ho'

theorem flags_bare {letters : List Char} (ha : a.Single)
    (hbody : ∀ x, a.Spells [x] → ∃ body, body? x = some body ∧ ∀ c ∈ body, c ∈ letters)
    (husage : ∀ c ∈ letters, usage? c template = some .bare) : Flags template a := by
  intro args hargs o rest
  obtain ⟨x, rfl⟩ := ha args hargs
  obtain ⟨body, hx, hletters⟩ := hbody x hargs
  obtain ⟨o', ho'⟩ := readBundle_of_bare o fun c hc => husage c (hletters c hc)
  refine ⟨o', ?_⟩
  rw [List.cons_append, readFrom_cons hx, ho']
  rfl

theorem Stops.of_unflagged (h : e.Unflagged) : Stops e := by
  intro args hargs a ha
  obtain ⟨x, rest, rfl, hx⟩ := h args hargs
  cases ha
  exact hx

theorem Stops.opt (h : e.Unflagged) : Stops (Expr.opt e) := by
  rintro args (rfl | hargs)
  · intro a ha
    cases ha
  · exact of_unflagged h args hargs

/-- Reading ends before an argument that is no option. -/
theorem readFrom_of_stops (h : Stops e) {args : List String} (hargs : e.Spells args)
    (o : Options) : readFrom template o none args = .ok (o, args) := by
  cases args with
  | nil => rfl
  | cons x rest => rw [readFrom, h _ hargs x rfl]

/-- Options are read up to what follows them. -/
theorem exists_read {template : String} (he : Flags template.toList e) (hstops : Stops tail)
    {args : List String} (hargs : (seq e tail).Spells args) :
    ∃ o rest, read template args = .ok (o, rest) ∧ tail.Spells rest ∧ rest <:+ args := by
  obtain ⟨front, back, rfl, hfront, hback⟩ := hargs
  obtain ⟨o, ho⟩ := he front hfront Table.empty back
  exact ⟨o, back, ho.trans (readFrom_of_stops hstops hback o), hback, List.suffix_append ..⟩

/-- Where no letter takes a value, a token is refused for one of its letters or read to its end. -/
theorem readBundle_cases (htemplate : ∀ flag, usage? flag template ≠ some .valued) (o : Options)
    (body : List Char) : (∃ flag, readBundle template o body = .error (.unknown flag)) ∨
      ∃ o', readBundle template o body = .ok (o', none) := by
  induction body generalizing o with
  | nil => exact .inr ⟨o, rfl⟩
  | cons c body ih =>
      unfold readBundle
      split
      · exact ih (o.insert c .present)
      · next husage => exact absurd husage (htemplate c)
      · exact .inl ⟨c, rfl⟩

/-- An argument that looks like an option is refused then, or it is read without those after it. -/
theorem readFrom_cons_cases (htemplate : ∀ flag, usage? flag template ≠ some .valued)
    (o : Options) (rest : List String) {token : String} {body : List Char}
    (hbody : body? token = some body) :
    (∃ flag, readFrom template o none (token :: rest) = .error (.unknown flag)) ∨
      ∃ o', readFrom template o none (token :: rest) = readFrom template o' none rest := by
  rw [readFrom_cons hbody]
  rcases readBundle_cases htemplate o body with ⟨flag, hbundle⟩ | ⟨o', hbundle⟩
  · rw [hbundle]
    exact .inl ⟨flag, rfl⟩
  · rw [hbundle]
    exact .inr ⟨o', rfl⟩

/-! ### The options of the grammar -/

theorem flags_fillOption (husage : usage? 'f' template = some .valued) (ha : a.Single) :
    Flags template (seq fillOption a) :=
  flags_valued (by decide) husage .rule ha fun _ => eq_of_fillOption

theorem flags_turnOption (husage : usage? 'r' template = some .valued) (ha : a.Single) :
    Flags template (seq turnOption a) :=
  flags_valued (by decide) husage .rule ha fun _ => eq_of_turnOption

theorem flags_arrowOption : Flags "ht".toList arrowOption :=
  flags_bare .rule (fun _ => body?_of_arrowOption) (by simp [usage?])

theorem flags_alignOption : Flags "lcr".toList alignOption :=
  flags_bare .rule (fun _ => body?_of_alignOption) (by simp [usage?])

end Options

/-! ## Definitions -/

namespace Blueprint

open Operands

variable {s : Stage} {options : Options} {reason : Prop}

theorem fits_asset (file : String) : Fits reason (s.asset file) := by
  unfold Stage.asset
  split
  · exact fits_ok _
  · exact fits_error rfl

theorem fits_linkEnd (name : String) : Fits reason (s.linkEnd name) := by
  unfold Stage.linkEnd
  split
  · exact fits_ok _
  · exact fits_error rfl

theorem fits_frameColor : Fits reason (s.frameColor options) := by
  unfold Stage.frameColor
  split
  · exact fits_ok _
  · exact (fits_parseColor s.palette _).map

theorem fits_sideCount (v : Float) : Fits reason (sideCount v) := by
  unfold sideCount
  split
  · exact fits_ok _
  · exact fits_error rfl

theorem fits_rotation : Fits reason (rotation options) := by
  unfold rotation
  split
  · exact fits_ok _
  · split
    · exact fits_ok _
    · exact fits_error rfl

/-- A definition is read in full if its operands are, whatever its options are. -/
theorem fits_read {kind : ShapeKind} {args rest : List String} {P : List String → Prop}
    (hoptions : Options.read kind.optionTemplate args = .ok (options, rest))
    (hreader : Leaves reason P (Spelled s.scene reason (all [])) (operands s options kind))
    (hrest : P rest) : Fits reason (read s kind args) := by
  unfold read
  rw [hoptions]
  exact fits_readAll hreader hrest

theorem fits_read_of_unknown {kind : ShapeKind} {args : List String} {flag : Char}
    (hoptions : Options.read kind.optionTemplate args = .error (.unknown flag)) :
    Fits reason (read s kind args) := by
  unfold read
  rw [hoptions]
  exact fits_error rfl

/-- The colour of a shape that has a position after it. -/
theorem leaves_placed : Leaves reason (Spelled s.scene reason (opt placed))
    (Spelled s.scene reason (opt Grammar.position)) (colorSlot s) :=
  leaves_color (spells_opt_nil _)

theorem leaves_anchorSlot : Leaves reason (Spelled s.scene reason (opt Grammar.position))
    (Spelled s.scene reason (all [])) (anchorSlot s) :=
  (leaves_position spells_all_nil).last

theorem leaves_box : Leaves reason (Spelled s.scene reason sized) (Spelled s.scene reason (all []))
    (box s options) := by
  refine (leaves_pair (spells_opt_nil _)).bind fun size => ?_
  refine leaves_placed.bind fun color => ?_
  refine leaves_anchorSlot.bind fun pos => ?_
  refine (leaves_lift fits_frameColor).bind fun frameColor => ?_
  exact leaves_pure _

theorem leaves_ellipse : Leaves reason (Spelled s.scene reason sized)
    (Spelled s.scene reason (all [])) (ellipse s options) := by
  refine (leaves_pair (spells_opt_nil _)).bind fun radii => ?_
  refine leaves_placed.bind fun color => ?_
  refine leaves_anchorSlot.bind fun pos => ?_
  refine (leaves_lift fits_frameColor).bind fun frameColor => ?_
  exact leaves_pure _

theorem leaves_polygon : Leaves reason (Spelled s.scene reason sized)
    (Spelled s.scene reason (all [])) (polygon s options) := by
  refine (leaves_number (spells_opt_nil _)).bind fun v => ?_
  refine (leaves_lift (fits_sideCount v)).bind fun sides => ?_
  refine (leaves_number (spells_opt_nil _)).bind fun radius => ?_
  refine leaves_placed.bind fun color => ?_
  refine leaves_anchorSlot.bind fun pos => ?_
  refine (leaves_lift fits_rotation).bind fun rotation => ?_
  refine (leaves_lift fits_frameColor).bind fun frameColor => ?_
  exact leaves_pure _

/-- The last operand of lines, wires, splines and links. -/
theorem leaves_colorSlot : Leaves reason (Spelled s.scene reason (opt Grammar.color))
    (Spelled s.scene reason (all [])) (colorSlot s) :=
  (leaves_color spells_all_nil).last

theorem leaves_strokeSlot :
    Leaves reason (Spelled s.scene reason (opt (seq number (opt Grammar.color))))
      (Spelled s.scene reason (opt Grammar.color)) strokeSlot :=
  leaves_number (spells_opt_nil _)

theorem leaves_line : Leaves reason (Spelled s.scene reason stroked)
    (Spelled s.scene reason (all [])) (line s options) := by
  refine (leaves_position (spells_opt_nil _)).bind fun start => ?_
  refine (leaves_position (spells_opt_nil _)).bind fun finish => ?_
  refine leaves_strokeSlot.bind fun stroke => ?_
  refine leaves_colorSlot.bind fun color => ?_
  exact leaves_pure _

theorem leaves_wire : Leaves reason (Spelled s.scene reason stroked)
    (Spelled s.scene reason (all [])) (wire s options) := by
  refine (leaves_position (spells_opt_nil _)).bind fun start => ?_
  refine (leaves_position (spells_opt_nil _)).bind fun finish => ?_
  refine leaves_strokeSlot.bind fun stroke => ?_
  refine leaves_colorSlot.bind fun color => ?_
  exact leaves_pure _

theorem leaves_spline :
    Leaves reason (Spelled s.scene reason (opt (seq Grammar.position stroked)))
      (Spelled s.scene reason (all [])) (spline s options) := by
  refine (leaves_position (spells_opt_nil _)).bind fun start => ?_
  refine (leaves_position (spells_opt_nil _)).bind fun control => ?_
  refine (leaves_position (spells_opt_nil _)).bind fun finish => ?_
  refine leaves_strokeSlot.bind fun stroke => ?_
  refine leaves_colorSlot.bind fun color => ?_
  exact leaves_pure _

theorem leaves_bitmap :
    Leaves reason (Exact s.scene reason (shapeOperands .bitmap)) (Spelled s.scene reason (all []))
      (bitmap s) := by
  refine (leaves_required (.alt .rule .rule) _).bind fun file => ?_
  refine (leaves_lift (fits_asset file)).bind fun path => ?_
  refine (leaves_anchorSlot.mono fun _ => .inr).bind fun pos => ?_
  exact leaves_pure _

theorem leaves_link :
    Leaves reason (Exact s.scene reason (shapeOperands .link)) (Spelled s.scene reason (all []))
      (link s) := by
  refine (leaves_required .rule _).bind fun source => ?_
  refine (leaves_required .rule _).bind fun target => ?_
  refine (leaves_lift (fits_linkEnd source)).bind fun sourceId => ?_
  refine (leaves_lift (fits_linkEnd target)).bind fun targetId => ?_
  refine (leaves_strokeSlot.mono fun _ => .inr).bind fun stroke => ?_
  refine leaves_colorSlot.bind fun color => ?_
  exact leaves_pure _

/-- A text whose content has not been read as options. -/
theorem leaves_text :
    Leaves reason
      (Spelled s.scene reason (opt (seq textOperand (opt (seq number (opt placed))))))
      (Spelled s.scene reason (all [])) (text s options) := by
  refine (Operands.leaves_text (spells_opt_nil _)).bind fun content => ?_
  refine (leaves_number (spells_opt_nil _)).bind fun size => ?_
  refine leaves_placed.bind fun color => ?_
  refine leaves_anchorSlot.bind fun pos => ?_
  exact leaves_pure _

/-- If its content has been read as options, four arguments are left at most, and there are slots
for four. -/
theorem leaves_text_atMost :
    Leaves reason (AtMost 4) (Spelled s.scene reason (all [])) (text s options) := by
  have hslots : Leaves reason (AtMost 4) (AtMost 0) (text s options) := by
    refine ((takesOne_text _).leaves_atMost (Nat.le_refl 4)).bind fun content => ?_
    refine ((takesOne_number _).leaves_atMost (Nat.le_refl 3)).bind fun size => ?_
    refine ((takesOne_color _ _).leaves_atMost (Nat.le_refl 2)).bind fun color => ?_
    refine leaves_position_atMost.bind fun pos => ?_
    exact leaves_pure _
  exact hslots.weaken fun _ => spelled_of_atMost spells_all_nil

/-- No more than four arguments follow the content of a text. -/
theorem atMost_of_spells {args : List String} (h : (opt (seq number (opt placed))).Spells args) :
    AtMost 4 args := by
  rcases h with rfl | h
  · exact Nat.zero_le 4
  · obtain ⟨size, rest, rfl, -, hrest⟩ := Single.rule.cons_of_seq h
    rcases hrest with rfl | hrest
    · simp [AtMost]
    · obtain ⟨color, rest, rfl, -, hrest⟩ := Single.rule.cons_of_seq hrest
      rcases hrest with rfl | hnumbers | hname
      · simp [AtMost]
      · obtain ⟨x, rest, rfl, -, hrest⟩ := Single.rule.cons_of_seq hnumbers
        obtain ⟨y, rfl⟩ := Single.rule rest hrest
        simp [AtMost]
      · obtain ⟨x, rfl⟩ := Single.rule rest hname
        simp [AtMost]

section Options

variable {args : List String} (hreason : s.scene.Misnames args → reason)

include hreason

/-- Kinds of shapes whose options end where their operands begin. -/
theorem fits_read_of_stops {kind : ShapeKind} {e tail : Expr}
    (hspells : (seq e tail).Spells args) (he : Options.Flags kind.optionTemplate.toList e)
    (hstops : Options.Stops tail)
    (hreader : ∀ options, Leaves reason (Exact s.scene reason tail)
      (Spelled s.scene reason (all [])) (operands s options kind)) :
    Fits reason (read s kind args) := by
  obtain ⟨options, rest, hoptions, hrest, hsuffix⟩ := Options.exists_read he hstops hspells
  exact fits_read hoptions (hreader options) (.of_suffix hrest hreason hsuffix)

/-- The file of a bitmap may look like an option, which is refused then. -/
theorem fits_read_bitmap (h : (shapeOperands .bitmap).Spells args) :
    Fits reason (read s .bitmap args) := by
  obtain ⟨file, rest, rfl, -, -⟩ := (Single.alt .rule .rule).cons_of_seq h
  cases hbody : Options.body? file with
  | none =>
      have hoptions : Options.read "" (file :: rest) = .ok (Table.empty, file :: rest) := by
        rw [Options.read, Options.readFrom, hbody]
      exact fits_read hoptions leaves_bitmap ⟨h, hreason⟩
  | some body =>
      obtain ⟨flag, hoptions⟩ := Options.read_of_no_template hbody
      exact fits_read_of_unknown hoptions

/-- The content of a text may look like an option. It is refused then, or the slots before those of
the operands after it are filled by these operands. -/
theorem fits_read_text (h : (shapeOperands .text).Spells args) :
    Fits reason (read s .text args) := by
  obtain ⟨front, back, rfl, hfront, hback⟩ := h
  have hreason : s.scene.Misnames back → reason :=
    fun h => hreason (h.mono (List.suffix_append _ _))
  obtain ⟨o, ho⟩ := Options.flags_alignOption.opt front hfront Table.empty back
  rcases hback with rfl | hback
  · exact fits_read ho leaves_text (.inr ⟨spells_opt_nil _, hreason⟩)
  · obtain ⟨content, rest, rfl, hcontent, hrest⟩ := (Single.alt .rule .rule).cons_of_seq hback
    cases hbody : Options.body? content with
    | none =>
        have hoptions :
            Options.read "lcr" (front ++ content :: rest) = .ok (o, content :: rest) := by
          rw [Options.read, ho, Options.readFrom, hbody]
        exact fits_read hoptions leaves_text (.inr ⟨.inr hback, hreason⟩)
    | some body =>
        have hbare : ∀ flag, Options.usage? flag "lcr".toList ≠ some .valued := by
          intro flag
          show (if 'l' = flag then some Options.Usage.bare
            else if 'c' = flag then some .bare
            else if 'r' = flag then some .bare else none) ≠ some .valued
          split_ifs <;> decide
        -- What follows the content is a number, so the options end with the content at the latest.
        rcases Options.readFrom_cons_cases hbare o rest hbody with
          ⟨flag, hrefused⟩ | ⟨o', ho'⟩
        · exact fits_read_of_unknown (ho.trans hrefused)
        · have hstops : Options.readFrom "lcr".toList o' none rest = .ok (o', rest) :=
            Options.readFrom_of_stops (.opt unflagged_number.seq) hrest o'
          exact fits_read (ho.trans (ho'.trans hstops)) leaves_text_atMost (atMost_of_spells hrest)

/-- The definition of a shape has no operands missing or left over. -/
theorem fits_read_of_spells {kind : ShapeKind} (h : (shapeOperands kind).Spells args) :
    Fits reason (read s kind args) := by
  cases kind with
  | bitmap => exact fits_read_bitmap hreason h
  | box =>
      exact fits_read_of_stops hreason h (Options.flags_fillOption (by decide) .rule).opt
        (.opt unflagged_number.seq) fun _ => leaves_box.mono fun _ => .inr
  | ellipse =>
      exact fits_read_of_stops hreason h (Options.flags_fillOption (by decide) .rule).opt
        (.opt unflagged_number.seq) fun _ => leaves_ellipse.mono fun _ => .inr
  | line =>
      exact fits_read_of_stops hreason h Options.flags_arrowOption.opt
        (.opt unflagged_position.seq) fun _ => leaves_line.mono fun _ => .inr
  | link =>
      have hstops : Options.Stops (shapeOperands .link) := .of_unflagged unflagged_pattern.seq
      exact fits_read (Options.readFrom_of_stops hstops h Table.empty) leaves_link ⟨h, hreason⟩
  | polygon =>
      exact fits_read_of_stops hreason h (.star (.alt (Options.flags_fillOption (by decide) .rule)
        (Options.flags_turnOption (by decide) .rule)))
        (.opt unflagged_number.seq) fun _ => leaves_polygon.mono fun _ => .inr
  | spline =>
      exact fits_read_of_stops hreason h Options.flags_arrowOption.opt
        (.opt unflagged_position.seq) fun _ => leaves_spline.mono fun _ => .inr
  | text => exact fits_read_text hreason h
  | wire =>
      exact fits_read_of_stops hreason h Options.flags_arrowOption.opt
        (.opt unflagged_position.seq) fun _ => leaves_wire.mono fun _ => .inr

end Options

end Blueprint

/-! ## Colours of the palette -/

namespace Palette

variable {reason : Prop}

/-- One component is read from each argument. -/
theorem readComponents_cases (args : List String) :
    (∃ f, readComponents args = .error f ∧ f.isArity = false) ∨
      ∃ vs, readComponents args = .ok vs ∧ vs.length = args.length := by
  induction args with
  | nil => exact .inr ⟨[], rfl, rfl⟩
  | cons token rest ih =>
      unfold readComponents
      split
      · exact .inl ⟨_, rfl, rfl⟩
      · next v _ =>
        rcases ih with ⟨f, hf, harity⟩ | ⟨vs, hvs, hlength⟩
        · exact .inl ⟨f, by rw [hf]; rfl, harity⟩
        · exact .inr ⟨v :: vs, by rw [hvs]; rfl, by simp [hlength]⟩

/-- A colour has one component, three or four. -/
theorem fits_readColor {args : List String}
    (h : args.length = 1 ∨ args.length = 3 ∨ args.length = 4) : Fits reason (readColor args) := by
  unfold readColor
  rcases readComponents_cases args with ⟨f, hf, harity⟩ | ⟨vs, hvs, hlength⟩
  · rw [hf]
    exact fits_error harity
  · refine .bind_of_ok hvs ?_
    rcases h with h | h | h
    · obtain ⟨token, rfl⟩ := List.length_eq_one_iff.mp h
      obtain ⟨v, rfl⟩ := List.length_eq_one_iff.mp (hlength.trans h)
      simp only
      split
      · exact fits_ok _
      · exact fits_error rfl
    · obtain ⟨r, g, b, rfl⟩ := List.length_eq_three.mp (hlength.trans h)
      obtain ⟨x, y, z, rfl⟩ := List.length_eq_three.mp h
      exact fits_ok _
    · obtain ⟨r, g, b, a, rfl⟩ := List.length_eq_four.mp (hlength.trans h)
      obtain ⟨x, y, z, w, rfl⟩ := List.length_eq_four.mp h
      exact fits_ok _

end Palette

namespace Action

open Operands

variable {s : Stage} {reason : Prop} {args : List String}

/-- Reads a pattern and a value. -/
theorem fits_readSetting {usage : String} {value : String → Except Fault Change} {a : Expr}
    (hvalue : ∀ token, Fits reason (value token)) (ha : a.Single)
    (h : (seq pattern a).Spells args) : Fits reason (readSetting s usage value args) := by
  obtain ⟨token, rest, rfl, -, hrest⟩ := Single.rule.cons_of_seq h
  obtain ⟨v, rfl⟩ := ha rest hrest
  exact (hvalue v).bind fun _ => (fits_expandName _ _ _).bind fun _ => fits_ok _

theorem isEmpty_of_plus (h : (plus pattern).Spells args) : args.isEmpty = false := by
  obtain ⟨token, rest, rfl, -, -⟩ := Single.rule.cons_of_seq h
  rfl

theorem fits_readSwitch (c : Change) (h : (plus pattern).Spells args) :
    Fits reason (readSwitch s c args) := by
  unfold readSwitch
  rw [isEmpty_of_plus h]
  exact (fits_expandNames s.scene _ args).map

theorem fits_readKill (h : (plus pattern).Spells args) : Fits reason (readKill s args) := by
  unfold readKill
  rw [isEmpty_of_plus h]
  exact (fits_expandNames s.scene _ args).map

/-- Reads a pattern and a position. -/
theorem fits_readPlace {what : String} (h : (seq pattern Grammar.position).Spells args)
    (hreason : s.scene.Misnames args → reason) : Fits reason (readPlace s what args) := by
  have hslots : Leaves reason (Exact s.scene reason (seq pattern Grammar.position))
      (Spelled s.scene reason (all []))
      (do
        let pattern ← required "object name"
        let point ← requiredPosition s.scene what
        return (pattern, point)) := by
    refine (leaves_required .rule _).bind fun pattern => ?_
    refine (leaves_requiredPosition what).bind fun point => ?_
    exact leaves_pure _
  refine (fits_readAll hslots ⟨h, hreason⟩).bind fun p => ?_
  exact (fits_expandName _ _ _).bind fun _ => fits_ok _

theorem fits_readAttach (h : (all (operands .attach)).Spells args)
    (hreason : s.scene.Misnames args → reason) : Fits reason (readAttach s args) := by
  have hpair : Leaves reason
      (Spelled s.scene reason (opt (seq Grammar.number (opt Grammar.number))))
      (Spelled s.scene reason (all [])) (pair s.scene 0.0 0.0) := by
    refine (leaves_number (spells_opt_nil _)).bind fun x => ?_
    refine (leaves_number spells_all_nil).last.bind fun y => ?_
    exact leaves_pure _
  have hslots : Leaves reason (Exact s.scene reason (all (operands .attach)))
      (Spelled s.scene reason (all []))
      (do
        let pattern ← required "object name"
        let parent ← required "parent name"
        let offset ← pair s.scene 0.0 0.0
        return (pattern, parent, offset)) := by
    refine (leaves_required .rule _).bind fun pattern => ?_
    refine (leaves_required .rule _).bind fun parent => ?_
    refine (hpair.mono fun _ => .inr).bind fun offset => ?_
    exact leaves_pure _
  refine (fits_readAll hslots ⟨h, hreason⟩).bind fun (pattern, parent, offset) => ?_
  simp only
  split
  · exact fits_error rfl
  · exact (fits_expandName _ _ _).bind fun _ => fits_ok _

theorem fits_readShift (h : (all (operands .shift)).Spells args) :
    Fits reason (readShift s args) := by
  obtain ⟨token, rest, rfl, -, hrest⟩ := Single.rule.cons_of_seq h
  obtain ⟨dx, rest, rfl, -, hrest⟩ := Single.rule.cons_of_seq hrest
  obtain ⟨dy, rfl⟩ := Single.rule rest hrest
  exact (fits_numberOf dx).bind fun _ => (fits_numberOf dy).bind fun _ =>
    (fits_expandName _ _ _).bind fun _ => fits_ok _

theorem fits_readDefine (h : (all (operands .define)).Spells args)
    (hreason : s.scene.Misnames args → reason) : Fits reason (readDefine s args) := by
  obtain ⟨token, rest, rfl, -, hrest⟩ := Single.rule.cons_of_seq h
  obtain ⟨kind, word, rest, rfl, hword, hspells⟩ := exists_of_shape hrest
  have hreason : s.scene.Misnames rest → reason :=
    fun h => hreason (h.mono (List.suffix_append [token, word] rest))
  refine (fits_definedName s.scene token).bind fun name => ?_
  rw [hword]
  exact (Blueprint.fits_read_of_spells hreason hspells).bind fun _ => fits_ok _

theorem fits_readPalette (h : (all (operands .palette)).Spells args) :
    Fits reason (readPalette args) := by
  obtain ⟨name, values, rfl, -, hrest⟩ := Single.rule.cons_of_seq h
  refine (Palette.fits_readColor ?_).map
  obtain ⟨v, rest, rfl, -, hrest⟩ := Single.rule.cons_of_seq hrest
  rcases hrest with rfl | hrest
  · exact .inl rfl
  · obtain ⟨v', rest, rfl, -, hrest⟩ := Single.rule.cons_of_seq hrest
    obtain ⟨v'', rest, rfl, -, hrest⟩ := Single.rule.cons_of_seq hrest
    rcases hrest with rfl | hrest
    · exact .inr (.inl rfl)
    · obtain ⟨a, rfl⟩ := Single.rule rest hrest
      exact .inr (.inr rfl)

theorem fits_readBare (a : Action) (h : (all []).Spells args) : Fits reason (readBare a args) := by
  cases h
  exact fits_ok a

theorem fits_readPlay (h : textOperand.Spells args) : Fits reason (readPlay s args) := by
  obtain ⟨file, rfl⟩ := Single.alt .rule .rule args h
  unfold readPlay
  simp only
  split
  · exact fits_ok _
  · exact fits_error rfl

theorem fits_readSleep (h : number.Spells args) : Fits reason (readSleep args) := by
  obtain ⟨token, rfl⟩ := Single.rule args h
  refine (fits_numberOf token).bind fun seconds => ?_
  cases durationError? seconds with
  | none => exact fits_ok _
  | some e => exact fits_error rfl

theorem fits_springRotation {options : Options} : Fits reason (springRotation options) := by
  unfold springRotation
  split
  · exact fits_ok _
  · exact (fits_numberOf _).map

theorem fits_regionCorners (scene : Scene) (region : List String) :
    Fits reason (regionCorners scene region) := by
  unfold regionCorners
  split
  · exact (fits_expandPosition _ _ _).bind fun _ => (fits_expandPosition _ _ _).bind
      fun _ => fits_ok _
  · exact fits_ok _

theorem fits_readSpring (h : (all (operands .spring)).Spells args) :
    Fits reason (readSpring s args) := by
  have hflags : Options.Flags "f:r:".toList
      (star (first [seq fillOption textOperand, seq turnOption Grammar.number])) :=
    .star (.alt (Options.flags_fillOption (by decide) (.alt .rule .rule))
      (Options.flags_turnOption (by decide) .rule))
  obtain ⟨options, rest, hoptions, -, -⟩ :=
    Options.exists_read hflags (.of_unflagged unflagged_pattern.seq.seq) h
  unfold readSpring
  rw [hoptions]
  refine fits_springRotation.bind fun rotation => ?_
  refine (fits_expandNames s.scene _ rest).bind fun all => ?_
  refine (fits_regionCorners s.scene _).bind fun corners => ?_
  exact fits_ok _

/-- Statements of the grammar have no operands missing or left over. -/
theorem fits_read {verb : Verb} (h : (all (operands verb)).Spells args)
    (hreason : s.scene.Misnames args → reason) : Fits reason (read s verb args) := by
  cases verb with
  | alpha => exact fits_readSetting (fun token => (fits_numberOf token).map) .rule h
  | animate => exact (fits_readPlace h hreason).map
  | attach => exact fits_readAttach h hreason
  | color => exact fits_readSetting (fun token => (fits_parseColor _ token).map) .rule h
  | define => exact fits_readDefine h hreason
  | display => exact fits_readBare .display h
  | fade => exact fits_readSwitch .fade h
  | fix => exact fits_readSwitch .fix h
  | hide => exact fits_readSwitch .hide h
  | kill => exact fits_readKill h
  | move => exact (fits_readPlace h hreason).map
  | palette => exact fits_readPalette h
  | play => exact fits_readPlay h
  | priority => exact fits_readSetting (fun token => (fits_numberOf token).map) .rule h
  | resize => exact (fits_readPlace h hreason).map
  | scale => exact fits_readSetting (fun token => (fits_numberOf token).map) .rule h
  | shift => exact fits_readShift h
  | sleep => exact fits_readSleep h
  | spring => exact fits_readSpring h
  | unhide => exact fits_readSwitch .unhide h
  | wait => exact fits_readBare .wait h

end Action

/-! ## Sessions -/

namespace Session

theorem isArity_of_each {s s' : Session} {names : List String}
    {step : Scene → String → Except SceneError Scene} {f : Fault}
    (h : s.each names step = (s', some f)) : f.isArity = false := by
  obtain ⟨-, hfault⟩ := Prod.mk.inj h
  obtain ⟨e, -, rfl⟩ := Option.map_eq_some_iff.mp hfault
  rfl

/-- What goes wrong when an action is performed is not about its operands. -/
theorem isArity_of_perform {limit : Nat} {s s' : Session} {a : Action} {f : Fault}
    (h : s.perform limit a = some (s', some f)) : f.isArity = false := by
  cases a with
  | change | animate | attach | move | shift | resize | kill =>
      exact isArity_of_each (Option.some.inj h)
  | define name blueprint =>
      unfold perform at h
      simp only at h
      split at h
      · cases h
      · cases h
  | defineColor | play | wait | sleep => cases h
  | display =>
      obtain ⟨u, -, hpair⟩ := Option.map_eq_some_iff.mp h
      cases hpair
  | spring start finish names rotation tool =>
      obtain ⟨-, hfault⟩ := Prod.mk.inj (Option.some.inj h)
      obtain ⟨e, -, rfl⟩ := Option.map_eq_some_iff.mp hfault
      rfl

/-- A statement of an accepted line has as many operands as it reads, with one exception: if the
first of two numbers has no value, it is a name for the statement, and if an object has this name,
the second number may be left over. -/
theorem arity_of_parseLine {number : Nat} {text : List Char} {stmts : List Statement}
    (h : parseLine number text = .ok stmts) {stmt : Statement} (hstmt : stmt ∈ stmts)
    {limit : Nat} {s s' : Session} {f : Fault} (hrun : s.execute limit stmt = some (s', some f))
    (harity : f.isArity) :
    (∃ token, f = .extra token) ∧ ∃ x y, [x, y] <:+: stmt.args ∧ Grammar.number.Spells [x] ∧
      Grammar.number.Spells [y] ∧ Number.isNumber x = false ∧ s.scene.contains x := by
  have hfits : Fits (s.scene.Misnames stmt.args) (Action.read s.stage stmt.verb stmt.args) :=
    Action.fits_read (spells_of_parseLine h hstmt) id
  unfold execute at hrun
  cases hread : Action.read s.stage stmt.verb stmt.args with
  | error f' =>
      rw [hread] at hrun
      cases hrun
      exact (hfits f hread harity).symm
  | ok action =>
      rw [hread] at hrun
      obtain ⟨⟨u, fault⟩, hperform, hpair⟩ := Option.map_eq_some_iff.mp hrun
      cases fault with
      | none => cases hpair
      | some f' =>
          cases hpair
          rw [isArity_of_perform hperform] at harity
          cases harity

/-- A session with an object whose name is a number for the grammar. -/
def misnamed : Session :=
  { Scene.Reachable.drawing with
    scene := Scene.Reachable.afterLine "define a box; define 1e999 box" }

/-- The first coordinate names an object, so the second one is left over. -/
theorem extra_of_misnamed :
    parseLine 1 "move a 1e999 5".toList = .ok [⟨.move, ["a", "1e999", "5"], 1⟩] ∧
    (misnamed.execute 1 ⟨.move, ["a", "1e999", "5"], 1⟩).map Prod.snd = some (some (.extra "5")) ∧
    (Fault.extra "5").isArity = true :=
  ⟨by decide +kernel, by decide +kernel, rfl⟩

/-- The statement is refused for the name. -/
theorem arity_of_misnamed :
    parseLine 1 "move a 1e999 5".toList = .ok [⟨.move, ["a", "1e999", "5"], 1⟩] ∧
    ∃ s', misnamed.execute 1 ⟨.move, ["a", "1e999", "5"], 1⟩ = some (s', some (.extra "5")) ∧
      ∃ x y, [x, y] <:+: ["a", "1e999", "5"] ∧ Grammar.number.Spells [x] ∧
        Grammar.number.Spells [y] ∧ Number.isNumber x = false ∧ misnamed.scene.contains x := by
  have hline : parseLine 1 "move a 1e999 5".toList = .ok [⟨.move, ["a", "1e999", "5"], 1⟩] := by
    decide +kernel
  have hextra : (misnamed.execute 1 ⟨.move, ["a", "1e999", "5"], 1⟩).map Prod.snd =
      some (some (.extra "5")) := by
    decide +kernel
  obtain ⟨⟨s', f⟩, hrun, rfl⟩ := Option.map_eq_some_iff.mp hextra
  exact ⟨hline, s', hrun, (arity_of_parseLine hline List.mem_cons_self hrun rfl).2⟩

end Session

end Storyboard
