import Storyboard.Proofs.Session.Definitions
import Storyboard.Proofs.Text

/-!
# Names that are taken

A definition looks up what it refers to before its object is registered, and registering takes away
the object that has the name. A link that is defined under the name of one of its ends loses that
end. A generated name is taken only if a script has chosen it: the names that were generated
before tell other identifiers.

Main results:

- Theorem `Entity.autoName_inj`: a generated name tells the kind and the identifier.
- Theorem `Scene.Registers.oneMore_iff`: registering an object leaves all others as they were if its
  name is free, and only then.
- Theorem `Scene.Reachable.link_ends_iff`: the ends of a new link are alive unless it has been given
  the name of one of them.
- Theorem `Scene.Reachable.one_more_iff_free`: an object under a generated name is one more unless a script
  has chosen the name.
-/

namespace Storyboard

/-! ## Generated names -/

namespace ShapeKind

/-- The full spelling of a kind selects it. -/
theorem ofWord?_name (kind : ShapeKind) : ofWord? kind.name.toList = some kind := by
  cases kind <;> decide

theorem name_injective : Function.Injective name := by
  intro kind kind' h
  have hselects := ofWord?_name kind
  rw [h, ofWord?_name] at hselects
  exact (Option.some.inj hselects).symm

theorem isAlpha_of_mem_name (kind : ShapeKind) : ∀ c ∈ kind.name.toList, c.isAlpha := by
  have hall : kind.name.toList.all Char.isAlpha = true := by cases kind <;> decide
  exact List.all_eq_true.mp hall

end ShapeKind

namespace Entity

variable {kind kind' : ShapeKind} {id id' : EntityId}

/-- Identifiers are written in digits. -/
theorem toList_toString (id : EntityId) : (toString id).toList = Nat.toDigits 10 id.toNat :=
  Nat.toList_repr

theorem not_isAlpha_of_mem {c : Char} (hc : c ∈ (toString id).toList) : c.isAlpha = false := by
  rw [toList_toString] at hc
  have hdigit := Nat.isDigit_of_mem_toDigits (by decide) (by decide) hc
  simpa using Text.not_isAlpha_of_isDigit hdigit

/-- No two identifiers are written alike. -/
theorem toString_injective : Function.Injective (toString : EntityId → String) := by
  intro id id' h
  have hdigits : Nat.toDigits 10 id.toNat = Nat.toDigits 10 id'.toNat := by
    rw [← toList_toString, ← toList_toString, h]
  apply UInt64.toNat_inj.mp
  calc
    id.toNat = Nat.ofDigitChars 10 (Nat.toDigits 10 id.toNat) 0 :=
      Nat.ofDigitChars_ten_toDigits.symm
    _ = Nat.ofDigitChars 10 (Nat.toDigits 10 id'.toNat) 0 := by rw [hdigits]
    _ = id'.toNat := Nat.ofDigitChars_ten_toDigits

/-- A generated name tells the kind and the identifier: the kind ends where the letters do. -/
theorem autoName_inj : autoName kind id = autoName kind' id' ↔ kind = kind' ∧ id = id' := by
  constructor
  · intro h
    have htexts : kind.name.toList ++ (toString id).toList =
        kind'.name.toList ++ (toString id').toList := by
      simpa [autoName] using congrArg String.toList h
    have hstop : ∀ (id : EntityId), ∀ c ∈ (toString id).toList.head?, c.isAlpha = false :=
      fun id c hc => not_isAlpha_of_mem (List.mem_of_mem_head? hc)
    obtain ⟨hletters, hdigits⟩ := Text.span_append kind.isAlpha_of_mem_name (hstop id)
    obtain ⟨hletters', hdigits'⟩ := Text.span_append kind'.isAlpha_of_mem_name (hstop id')
    rw [htexts] at hletters hdigits
    have hkind : kind.name = kind'.name := String.toList_inj.mp (hletters.symm.trans hletters')
    have hnumber : toString id = toString id' := String.toList_inj.mp (hdigits.symm.trans hdigits')
    exact ⟨ShapeKind.name_injective hkind, toString_injective hnumber⟩
  · rintro ⟨rfl, rfl⟩
    rfl

end Entity

/-! ## Registering one object -/

namespace Scene

variable {s u : Scene} {e : Entity} {name : String} {id : EntityId} {created : List Entity}

theorem mem_liveNames_iff (s : Scene) (name : String) :
    name ∈ s.liveNames ↔ ∃ id e, s.entity? id = some e ∧ e.name = name := by
  rw [liveNames, List.mem_map]
  constructor
  · rintro ⟨e, he, rfl⟩
    obtain ⟨id, hid⟩ := (Table.mem_values_iff s.entities e).mp he
    exact ⟨id, e, hid, rfl⟩
  · rintro ⟨id, e, he, rfl⟩
    exact ⟨e, (Table.mem_values_iff s.entities e).mpr ⟨id, he⟩, rfl⟩

/-- There are as many objects as names. -/
theorem Registered.card_liveNames (hs : s.Registered) : s.liveNames.toFinset.card = s.count := by
  rw [List.toFinset_card_of_nodup hs.nodup_liveNames, liveNames, List.length_map]
  simp [objects, count, Table.values, Table.size]

/-- A name is free if no object has it. -/
theorem Registered.id?_eq_none_iff (hs : s.Registered) : s.id? name = none ↔ name ∉ s.liveNames := by
  rw [mem_liveNames_iff]
  constructor
  · rintro hnone ⟨id, e, he, rfl⟩
    rw [hs.id?_name he] at hnone
    cases hnone
  · intro hfree
    by_contra hne
    obtain ⟨id, hid⟩ := Option.ne_none_iff_exists'.mp hne
    obtain ⟨e, he, hname⟩ := hs.name_eq hid
    exact hfree ⟨id, e, he, hname⟩

/-- Every object is as it was, and there is one more. -/
def OneMore (s u : Scene) : Prop :=
  (∀ id e, s.entity? id = some e → u.entity? id = some e) ∧ u.count = s.count + 1

namespace Registers

/-- A name is in use if it was or if it is one of the new ones. -/
theorem mem_liveNames_iff (h : Registers s created u) :
    name ∈ u.liveNames ↔ name ∈ s.liveNames ∨ name ∈ created.map Entity.name := by
  simp only [Scene.mem_liveNames_iff]
  constructor
  · rintro ⟨id, e, he, rfl⟩
    rcases h.only id e he with hnew | hlive
    · exact .inr (List.mem_map_of_mem hnew)
    · obtain ⟨old, hold⟩ := Option.isSome_iff_exists.mp hlive
      have hkept := h.kept id old hold
      rw [he] at hkept
      split at hkept
      · cases hkept
      · cases hkept
        exact .inl ⟨id, old, hold, rfl⟩
  · rintro (⟨id, e, he, rfl⟩ | hnew)
    · by_cases htaken : e.name ∈ created.map Entity.name
      · obtain ⟨c, hc, hname⟩ := List.mem_map.mp htaken
        exact ⟨c.id, c, h.found c hc, hname⟩
      · exact ⟨id, _, (h.kept id e he).trans (if_neg htaken), rfl⟩
    · obtain ⟨c, hc, hname⟩ := List.mem_map.mp hnew
      exact ⟨c.id, c, h.found c hc, hname⟩

/-- The object that had a name is alive unless the name is one of the new ones. -/
theorem isLive_iff (h : Registers s created u) (hs : s.Registered) (hid : s.id? name = some id) :
    u.isLive id ↔ name ∉ created.map Entity.name := by
  obtain ⟨e, he, rfl⟩ := hs.name_eq hid
  rw [isLive, h.kept id e he]
  by_cases htaken : e.name ∈ created.map Entity.name
  · simp [htaken]
  · simp [htaken]

/-- There is one object more if the name of the new one is free. -/
theorem count_eq (h : Registers s [e] u) (hs : s.Registered) (hu : u.Registered) :
    u.count = if s.id? e.name = none then s.count + 1 else s.count := by
  have hnames : u.liveNames.toFinset = insert e.name s.liveNames.toFinset := by
    ext name
    simp [h.mem_liveNames_iff, or_comm]
  simp only [hs.id?_eq_none_iff]
  rw [← hu.card_liveNames, ← hs.card_liveNames, hnames]
  split
  · next hfree =>
    exact Finset.card_insert_of_notMem fun hmem => hfree (List.mem_toFinset.mp hmem)
  · next htaken =>
    exact congrArg Finset.card
      (Finset.insert_eq_of_mem (List.mem_toFinset.mpr (not_not.mp htaken)))

/-- Registering an object leaves all others as they were if its name is free, and only then. -/
theorem oneMore_iff (h : Registers s [e] u) (hs : s.Sound) (hu : u.Registered) :
    OneMore s u ↔ s.id? e.name = none := by
  constructor
  · rintro ⟨hkeeps, -⟩
    by_contra hne
    obtain ⟨id, hid⟩ := Option.ne_none_iff_exists'.mp hne
    obtain ⟨old, hold, -⟩ := hs.registered.name_eq hid
    have hlive : u.isLive id := by
      rw [isLive, hkeeps id old hold]
      rfl
    exact (h.isLive_iff hs.registered hid).mp hlive (List.mem_singleton.mpr rfl)
  · intro hfree
    have hkept : ∀ id old, s.entity? id = some old →
        u.entity? id = some (old.among u.isLive) := by
      intro id old hold
      rw [h.kept id old hold, if_neg]
      intro hname
      rw [List.map_singleton, List.mem_singleton] at hname
      rw [← hname, hs.registered.id?_name hold] at hfree
      cases hfree
    have hlive : ∀ id, s.isLive id → u.isLive id = s.isLive id := by
      intro id hid
      obtain ⟨old, hold⟩ := Option.isSome_iff_exists.mp hid
      rw [hid, isLive, hkept id old hold]
      rfl
    refine ⟨?_, ?_⟩
    · intro id old hold
      rw [hkept id old hold, among_congr_of_isLive hs.objects.forest hold hlive,
        among_isLive hs.objects.forest hold]
    · rw [h.count_eq hs.registered hu, if_pos hfree]

end Registers

/-! ## Building one object -/

/-- A blueprint without arrowheads is one object. -/
theorem Sound.registers_single (hs : s.Sound) {b : Blueprint} (hbare : b.arrowheads = [])
    (hcount : s.canCreate (1 + b.arrowheads.length)) (given : Option String) :
    Registers s [(s.build given b).1] (s.build given b).2 := by
  rw [hbare] at hcount
  have hone := (Registers.nil hs).create hs hs hcount given b.pos b.shape b.color
    b.frameColor List.not_mem_nil
  simpa [build, hbare] using hone

end Scene

/-! ## Reading a link -/

/-- Without options all arguments are operands. -/
theorem Options.rest_eq_of_no_template {args rest : List String} {options : Options}
    (h : read "" args = .ok (options, rest)) : rest = args := by
  cases args with
  | nil =>
      cases h
      rfl
  | cons token args =>
      cases hbody : body? token with
      | none =>
          rw [read, readFrom, hbody] at h
          cases h
          rfl
      | some body =>
          obtain ⟨flag, hrefused⟩ := read_of_no_template hbody
          rw [hrefused] at h
          cases h

open Operands in
/-- The first two operands of a link are names in use, and the link stores their identifiers. -/
theorem Blueprint.link_of_read {s : Stage} {args : List String} {b : Blueprint}
    (h : read s .link args = .ok b) :
    ∃ src dst more source target stroke, args = src :: dst :: more ∧
      s.scene.id? src = some source ∧ s.scene.id? dst = some target ∧
      b.shape = .link source target stroke ∧ b.arrowheads = [] := by
  unfold read at h
  split at h
  · cases h
  · next options rest hoptions =>
    cases Options.rest_eq_of_no_template hoptions
    obtain ⟨left, hread⟩ := exists_of_readAll h
    obtain ⟨src, rest, rfl, hafter⟩ := exists_of_required hread
    obtain ⟨dst, more, rfl, hends⟩ := exists_of_required hafter
    obtain ⟨source, hsource, hend⟩ := exists_of_lift hends
    obtain ⟨target, htarget, hrest⟩ := exists_of_lift hend
    have hyields : Yields (fun b : Blueprint => ∃ stroke, b.shape = .link source target stroke ∧
        b.arrowheads = []) (do
          let stroke ← strokeSlot
          let color ← colorSlot s
          return { shape := .link source target stroke, pos := Point.zero, color }) :=
      yields_bind fun stroke => yields_bind fun _ => yields_pure ⟨stroke, rfl, rfl⟩
    obtain ⟨stroke, hshape, hbare⟩ := hyields more b left hrest
    exact ⟨src, dst, more, source, target, stroke, rfl, Stage.linkEnd_eq_ok hsource,
      Stage.linkEnd_eq_ok htarget, hshape, hbare⟩

/-! ## Statements -/

/-- A definition succeeds if it can be read and there are identifiers for its objects. -/
theorem Session.execute_define_iff {s s' : Session} {limit line : Nat} {args : List String} :
    s.execute limit ⟨.define, args, line⟩ = some (s', none) ↔
      ∃ given b, Action.readDefine s.stage args = .ok (.define given b) ∧
        s.scene.canCreate (1 + b.arrowheads.length) ∧
        s' = { s with scene :=
          (s.scene.build given b).2.setLastName (s.scene.build given b).1.name } := by
  cases hread : Action.readDefine s.stage args with
  | error f => simp [execute_of_readDefine_error hread]
  | ok action =>
      obtain ⟨token, word, operands, given, kind, b, -, -, -, -, rfl⟩ :=
        Action.readDefine_eq_ok hread
      rw [execute_of_readDefine_ok hread]
      constructor
      · intro h
        split at h
        · next hcount =>
          cases h
          exact ⟨given, b, rfl, hcount, rfl⟩
        · cases h
      · rintro ⟨given', b', hsame, hcount, rfl⟩
        cases hsame
        rw [if_pos hcount]

/-- A definition that has succeeded has built what its arguments spell. -/
theorem Session.exists_of_execute_define {s s' : Session} {limit line : Nat} {token word : String}
    {operands : List String} {kind : ShapeKind}
    (h : s.execute limit ⟨.define, token :: word :: operands, line⟩ = some (s', none))
    (hkind : ShapeKind.ofWord? word.toList = some kind) :
    ∃ given b, s.scene.definedName token = .ok given ∧
      Blueprint.read s.stage kind operands = .ok b ∧
      s.scene.canCreate (1 + b.arrowheads.length) ∧
      s'.scene = (s.scene.build given b).2.setLastName (s.scene.build given b).1.name := by
  obtain ⟨given, b, hread, hcount, rfl⟩ := execute_define_iff.mp h
  obtain ⟨token', word', operands', given', kind', b', hargs, hgiven, hkind', hb, hsame⟩ :=
    Action.readDefine_eq_ok hread
  cases hargs
  cases hsame
  rw [hkind] at hkind'
  cases hkind'
  exact ⟨given, b, hgiven, hb, hcount, rfl⟩

/-- A result without a fault is a session. -/
theorem Session.exists_of_any {result : Option (Session × Option Fault)}
    (h : result.any fun r => r.2.isNone) : ∃ s', result = some (s', none) := by
  rcases result with _ | ⟨s', _ | f⟩
  · cases h
  · exact ⟨s', rfl⟩
  · cases h

namespace Scene.Reachable

variable {s s' : Session} {limit line : Nat} {word : String} {operands : List String}

/-- The ends of a link that has just been defined are the objects that were found under the first
two operands. Each of them is alive unless the link has taken its name. -/
theorem link_ends_iff (hs : s.scene.Reachable) {token : String}
    (hkind : ShapeKind.ofWord? word.toList = some .link)
    (h : s.execute limit ⟨.define, token :: word :: operands, line⟩ = some (s', none)) :
    ∃ given src dst more source target stroke l,
      s.scene.definedName token = .ok given ∧ operands = src :: dst :: more ∧
      s.scene.id? src = some source ∧ s.scene.id? dst = some target ∧
      s'.scene.entity? (s.scene.nextId + 1) = some l ∧ s'.scene.lastName = some l.name ∧
      l.name = given.getD (Entity.autoName .link (s.scene.nextId + 1)) ∧
      l.shape = .link source target stroke ∧
      (s'.scene.isLive source ↔ src ≠ l.name) ∧ (s'.scene.isLive target ↔ dst ≠ l.name) := by
  obtain ⟨given, b, hgiven, hb, hcount, hscene⟩ := Session.exists_of_execute_define h hkind
  obtain ⟨src, dst, more, source, target, stroke, rfl, hsource, htarget, hshape, hbare⟩ :=
    Blueprint.link_of_read hb
  have hregisters : s.scene.Registers [(s.scene.build given b).1] s'.scene := by
    rw [hscene]
    exact (hs.sound.registers_single hbare hcount given).setLastName _
  have hlive : ∀ {name id}, s.scene.id? name = some id →
      (s'.scene.isLive id ↔ name ≠ (s.scene.build given b).1.name) := by
    intro name id hid
    rw [hregisters.isLive_iff hs.sound.registered hid, List.map_singleton, List.mem_singleton]
  refine ⟨given, src, dst, more, source, target, stroke, (s.scene.build given b).1, hgiven, rfl,
    hsource, htarget, ?_, ?_, ?_, hshape, hlive hsource, hlive htarget⟩
  · exact hregisters.found _ (List.mem_singleton.mpr rfl)
  · rw [hscene]
    rfl
  · have hlink : b.shape.kind = .link := by rw [hshape]; rfl
    rw [← hlink]
    rfl

/-- The ends of a link with a name of its own are alive. -/
theorem link_ends_drawing : drawing.scene.Reachable ∧ ∃ s',
    drawing.execute 1 ⟨.define, ["l", "link", "a", "b"], 1⟩ = some (s', none) ∧
    s'.scene.isLive 1 ∧ s'.scene.isLive 2 := by
  have hreachable : drawing.scene.Reachable := reachable_drawing
  obtain ⟨hdone, ha, hb⟩ :
      (drawing.execute 1 ⟨.define, ["l", "link", "a", "b"], 1⟩).any (fun r => r.2.isNone) = true ∧
      drawing.scene.id? "a" = some 1 ∧ drawing.scene.id? "b" = some 2 := by decide +kernel
  have hcalled : drawing.scene.definedName "l" = .ok (some "l") := by decide +kernel
  obtain ⟨s', hexecute⟩ := Session.exists_of_any hdone
  obtain ⟨given, src, dst, more, source, target, stroke, l, hgiven, hoperands, hsource, htarget,
    -, -, hname, -, hlive⟩ := link_ends_iff hreachable (by decide) hexecute
  cases hoperands
  cases hcalled.symm.trans hgiven
  cases ha.symm.trans hsource
  cases hb.symm.trans htarget
  rw [Option.getD_some] at hname
  refine ⟨hreachable, s', hexecute, hlive.1.mpr ?_, hlive.2.mpr ?_⟩
  · rw [hname]
    decide
  · rw [hname]
    decide

/-- A link that is given the name of the box at its first end loses this end. -/
theorem link_ends_overwritten : drawing.scene.Reachable ∧ ∃ s' l stroke,
    drawing.execute 1 ⟨.define, ["a", "link", "a", "b"], 1⟩ = some (s', none) ∧
    s'.scene.entity? 3 = some l ∧ l.shape = .link 1 2 stroke ∧ s'.scene.isLive 1 = false := by
  have hdone : (drawing.execute 1 ⟨.define, ["a", "link", "a", "b"], 1⟩).map (fun r =>
      (r.2.isNone, (r.1.scene.entity? 3).map Entity.shape, r.1.scene.isLive 1)) =
        some (true, some (.link 1 2 1), false) := by decide +kernel
  obtain ⟨⟨s', fault⟩, hexecute, hfields⟩ := Option.map_eq_some_iff.mp hdone
  simp only [Prod.mk.injEq, Option.isNone_iff_eq_none, Option.map_eq_some_iff] at hfields
  obtain ⟨rfl, ⟨l, hl, hshape⟩, hdead⟩ := hfields
  exact ⟨reachable_drawing, s', l, 1, hexecute, hl, hshape, hdead⟩

/-- An object without arrowheads under a generated name is one more, and leaves all others as they
were, exactly if no object has the name. Otherwise it takes the place of the object that has it,
which has not been given it by generating a name. -/
theorem one_more_iff_free (hs : s.scene.Reachable) {kind : ShapeKind} {options : Options}
    {rest : List String} (hkind : ShapeKind.ofWord? word.toList = some kind)
    (hoptions : Options.read kind.optionTemplate operands = .ok (options, rest))
    (hbare : options.arrowheadSuffixes = [])
    (h : s.execute limit ⟨.define, "-" :: word :: operands, line⟩ = some (s', none)) :
    ∃ e, s'.scene.entity? (s.scene.nextId + 1) = some e ∧ e.kind = kind ∧
      e.name = Entity.autoName kind (s.scene.nextId + 1) ∧
      (s.scene.OneMore s'.scene ↔ s.scene.id? e.name = none) ∧
      ∀ id, s.scene.id? e.name = some id →
        s'.scene.entity? id = none ∧ s'.scene.count = s.scene.count ∧
        ∀ kind', e.name ≠ Entity.autoName kind' id := by
  obtain ⟨given, b, hgiven, hb, hcount, hscene⟩ := Session.exists_of_execute_define h hkind
  cases hgiven
  obtain ⟨options', rest', hoptions', hshape, hsuffixes⟩ := Blueprint.spells_of_read hb
  rw [hoptions] at hoptions'
  cases hoptions'
  have harrowheads : b.arrowheads = [] := List.map_eq_nil_iff.mp (hsuffixes.trans hbare)
  have hregistered : s.scene.Registered := hs.sound.registered
  have hafter : s'.scene.Registered := (Reachable.statement hs h).sound.registered
  have hregisters : s.scene.Registers [(s.scene.build none b).1] s'.scene := by
    rw [hscene]
    exact (hs.sound.registers_single harrowheads hcount none).setLastName _
  have hname : (s.scene.build none b).1.name = Entity.autoName kind (s.scene.nextId + 1) := by
    rw [← hshape]
    rfl
  refine ⟨(s.scene.build none b).1, ?_, hshape, hname,
    hregisters.oneMore_iff hs.sound hafter, ?_⟩
  · exact hregisters.found _ (List.mem_singleton.mpr rfl)
  · intro id hid
    obtain ⟨old, hold, hlabel⟩ := hregistered.name_eq hid
    refine ⟨?_, ?_, ?_⟩
    · rw [hregisters.kept id old hold, hlabel]
      exact if_pos (List.mem_singleton.mpr rfl)
    · rw [hregisters.count_eq hregistered hafter, hid]
      rfl
    · intro kind' hgenerated
      -- The identifier in the name is the next one, which no object has.
      rw [hname, Entity.autoName_inj] at hgenerated
      rw [harrowheads] at hcount
      have hnext := hregistered.entity?_next hcount
      rw [hgenerated.2, hold] at hnext
      cases hnext

/-- A third box comes to the two that are there. -/
theorem one_more_drawing : drawing.scene.Reachable ∧ ∃ s',
    drawing.execute 1 ⟨.define, ["-", "box"], 1⟩ = some (s', none) ∧
    drawing.scene.OneMore s'.scene := by
  have hreachable : drawing.scene.Reachable := reachable_drawing
  obtain ⟨hdone, hfree⟩ :
      (drawing.execute 1 ⟨.define, ["-", "box"], 1⟩).any (fun r => r.2.isNone) = true ∧
      drawing.scene.id? (Entity.autoName .box (drawing.scene.nextId + 1)) = none := by
    decide +kernel
  obtain ⟨s', hexecute⟩ := Session.exists_of_any hdone
  have hkind : ShapeKind.ofWord? "box".toList = some .box := by decide
  have hoptions : Options.read ShapeKind.box.optionTemplate [] = .ok (Table.empty, []) := rfl
  obtain ⟨e, -, -, hname, hone, -⟩ := one_more_iff_free hreachable hkind hoptions rfl hexecute
  exact ⟨hreachable, s', hexecute, hone.mpr (hname ▸ hfree)⟩

/-- A session whose only object has been given the name that is generated for the next box. -/
def forestalled : Session :=
  { drawing with scene := afterLine "define _box2 box" }

/-- The next box takes the place of the object that has its name. -/
theorem one_more_forestalled : forestalled.scene.Reachable ∧ ∃ s' old,
    forestalled.execute 1 ⟨.define, ["-", "box"], 1⟩ = some (s', none) ∧
    forestalled.scene.entity? 1 = some old ∧ s'.scene.entity? 1 = none ∧
    forestalled.scene.count = 1 ∧ s'.scene.count = 1 := by
  have hscene : (afterLine "define _box2 box").Reachable := reachable_afterLine _
  have hreachable : forestalled.scene.Reachable := by
    rw [forestalled]
    exact hscene
  obtain ⟨hdone, hlive, hcount⟩ :
      (forestalled.execute 1 ⟨.define, ["-", "box"], 1⟩).map (fun r =>
        (r.2.isNone, (r.1.scene.entity? 1).isNone, r.1.scene.count)) = some (true, true, 1) ∧
      (forestalled.scene.entity? 1).isSome = true ∧ forestalled.scene.count = 1 := by
    decide +kernel
  obtain ⟨⟨s', fault⟩, hexecute, hfields⟩ := Option.map_eq_some_iff.mp hdone
  simp only [Prod.mk.injEq, Option.isNone_iff_eq_none] at hfields
  obtain ⟨rfl, hgone, hafter⟩ := hfields
  obtain ⟨old, hold⟩ := Option.isSome_iff_exists.mp hlive
  exact ⟨hreachable, s', old, hexecute, hold, hgone, hcount, hafter⟩

end Scene.Reachable

end Storyboard
