import Storyboard.Proofs.Script.Numerals
import Storyboard.Script.Reference

/-!
# Names with offsets

A name with two offsets is cut at the first character that names do not have, and the offsets are
cut at the second sign. As offsets have no sign but their first character, there is one way to cut.
An offset has the value that its text has as a number; but where the text is not a number because
it is too great, the offset is infinite.

Main results:

- Theorem `OffsetReference.offsets?_eq_some_iff`: where two offsets are cut.
- Theorem `OffsetReference.ofToken?_of_signedDecimal`: which offsets are numbers.
- Theorem `OffsetReference.reads_iff`: which tokens are names with offsets, and their values.
-/

namespace Storyboard

namespace OffsetReference

/-- The value of a text with its sign. -/
def signed (sign : Char) (x : Float) : Float := if sign = '-' then -x else x

/-- A sign and a decimal without an exponent, with the digits before and after its point. -/
inductive SignedDecimal (text : String) : Char → List Char → List Char → Prop
  | intro {sign mantissa whole places} (hsign : isSign sign) (ht : text.toList = sign :: mantissa)
      (h : Decimal.Mantissa mantissa whole places) : SignedDecimal text sign whole places

/-- The grammar of offsets, with their values. An offset that is too great for a number is
infinite. -/
inductive Offset (text : String) : Float → Prop
  | number {sign whole places x} (h : SignedDecimal text sign whole places)
      (hx : Number.ofToken? text = some x) : Offset text x
  | infinite {sign whole places} (h : SignedDecimal text sign whole places)
      (hover : Decimal.overflow ≤ Decimal.exactValue whole places 0)
      (hnone : Number.ofToken? text = none) :
      Offset text (signed sign (Float.ofBits 0x7ff0000000000000))

theorem isOffsetChar_of_mantissa {mantissa whole places : List Char}
    (h : Decimal.Mantissa mantissa whole places) : ∀ c ∈ mantissa, isOffsetChar c := by
  have hdigit : ∀ {c : Char}, c.isDigit → isOffsetChar c := fun h => by simp [isOffsetChar, h]
  cases h with
  | whole h => exact fun c hc => hdigit (h c hc)
  | pointed h hf =>
      intro c hc
      rcases List.mem_append.mp hc with hc | hc
      · exact hdigit (h c hc)
      · rcases List.mem_cons.mp hc with rfl | hc
        · rfl
        · exact hdigit (hf c hc)

theorem not_isSign_of_isOffsetChar {c : Char} (h : isOffsetChar c) : !isSign c := by
  rw [Bool.not_eq_true', ← Bool.not_eq_true]
  intro hsign
  simp only [isSign, Bool.or_eq_true, decide_eq_true_eq] at hsign
  rcases hsign with rfl | rfl <;> exact absurd h (by decide)

/-- What is read as an offset. -/
theorem offset?_eq_some_iff {sign : Char} {body : List Char} {x : Float} :
    offset? sign body = some x ↔ ∃ whole places, Decimal.Mantissa body whole places ∧
      x = signed sign (Decimal.rounded whole places 0) := by
  unfold offset?
  rw [Option.ite_none_right_eq_some, List.all_eq_true, Option.map_eq_some_iff]
  constructor
  · rintro ⟨hall, y, hy, rfl⟩
    obtain ⟨mantissa, whole, places, tail, e, rfl, h, he, rfl⟩ :=
      Decimal.unsigned?_eq_some_iff.mp hy
    have hmark : ∀ {mark more}, tail = mark :: more → ¬ (mark = 'e' ∨ mark = 'E') := by
      rintro mark more rfl hmark
      have hchar := hall mark (by simp)
      rcases hmark with rfl | rfl <;> exact absurd hchar (by decide)
    cases he with
    | absent =>
        rw [List.append_nil]
        exact ⟨whole, places, h, rfl⟩
    | bare h => exact absurd h (hmark rfl)
    | plus h => exact absurd h (hmark rfl)
    | minus h => exact absurd h (hmark rfl)
  · rintro ⟨whole, places, h, rfl⟩
    refine ⟨isOffsetChar_of_mantissa h, _, ?_, rfl⟩
    exact Decimal.unsigned?_eq_some_iff.mpr
      ⟨body, whole, places, [], 0, (List.append_nil _).symm, h, .absent, rfl⟩

/-- Two offsets are cut at the second sign. -/
theorem offsets?_eq_some_iff {cs : List Char} {dx dy : Float} :
    offsets? cs = some (dx, dy) ↔ ∃ s₁ s₂ first second, isSign s₁ ∧ isSign s₂ ∧
      cs = s₁ :: (first ++ s₂ :: second) ∧ offset? s₁ first = some dx ∧
      offset? s₂ second = some dy := by
  constructor
  · intro h
    unfold offsets? at h
    split at h
    · cases h
    · next s₁ rest =>
      rw [Option.ite_none_right_eq_some] at h
      obtain ⟨hs₁, h⟩ := h
      simp only at h
      split at h
      · cases h
      · next s₂ second hdrop =>
        have hs₂ : isSign s₂ := by
          have hhead := List.head?_dropWhile_not (fun c => !isSign c) rest
          rw [hdrop] at hhead
          simpa using hhead
        simp only [Option.bind_eq_bind, Option.bind_eq_some_iff, Option.some.injEq,
          Prod.mk.injEq] at h
        obtain ⟨x, hx, y, hy, rfl, rfl⟩ := h
        refine ⟨s₁, s₂, _, second, hs₁, hs₂, ?_, hx, hy⟩
        rw [← hdrop, List.takeWhile_append_dropWhile]
  · rintro ⟨s₁, s₂, first, second, hs₁, hs₂, rfl, hx, hy⟩
    have hfirst : ∀ c ∈ first, !isSign c := fun c hc =>
      not_isSign_of_isOffsetChar (List.all_eq_true.mp (Option.ite_none_right_eq_some.mp hx).1 c hc)
    have hstop : ∀ c ∈ (s₂ :: second).head?, (!isSign c) = false := by
      rintro c ⟨⟩
      rw [hs₂]
      rfl
    obtain ⟨htake, hdrop⟩ := Text.span_append hfirst hstop
    simp only [offsets?, if_pos hs₁, htake, hdrop, hx, hy]
    rfl

/-- A signed decimal without an exponent is a number unless it overflows. -/
theorem ofToken?_of_signedDecimal {text : String} {sign : Char} {whole places : List Char}
    (h : SignedDecimal text sign whole places) :
    Number.ofToken? text =
      if Decimal.exactValue whole places 0 < Decimal.overflow then
        some (signed sign (Decimal.rounded whole places 0))
      else none := by
  obtain ⟨hsign, ht, h⟩ := h
  next mantissa =>
  have hread := Number.unsigned?_decimal h .absent
  rw [List.append_nil] at hread
  have hblank : ∀ c ∈ text.toList, Text.isBlank c = false := by
    rw [ht, List.forall_mem_cons]
    refine ⟨Decimal.not_isBlank_of_isPlain ?_, fun c hc => Decimal.not_isBlank_of_isPlain ?_⟩
    · simp only [isSign, Bool.or_eq_true, decide_eq_true_eq] at hsign
      rcases hsign with rfl | rfl <;> rfl
    · have hchar := isOffsetChar_of_mantissa h c hc
      simp only [isOffsetChar, Bool.or_eq_true, decide_eq_true_eq] at hchar
      rcases hchar with hdigit | rfl
      · exact Decimal.isPlain_of_isDigit hdigit
      · rfl
  unfold Number.ofToken? Number.ofChars?
  rw [Text.trim_eq_self hblank, ht]
  simp only [isSign, Bool.or_eq_true, decide_eq_true_eq] at hsign
  rcases hsign with rfl | rfl
  · simp only [hread]
    rfl
  · simp only [hread]
    split <;> rfl

theorem offset_iff {text : String} {x : Float} :
    Offset text x ↔ ∃ sign whole places, SignedDecimal text sign whole places ∧
      x = signed sign (Decimal.rounded whole places 0) := by
  constructor
  · intro h
    cases h with
    | number h hx =>
        rw [ofToken?_of_signedDecimal h, Option.ite_none_right_eq_some] at hx
        exact ⟨_, _, _, h, (Option.some.inj hx.2).symm⟩
    | infinite h hover =>
        refine ⟨_, _, _, h, ?_⟩
        rw [Decimal.rounded_of_overflow hover]
  · rintro ⟨sign, whole, places, h, rfl⟩
    by_cases hover : Decimal.exactValue whole places 0 < Decimal.overflow
    · refine .number h ?_
      rw [ofToken?_of_signedDecimal h, if_pos hover]
    · have hnone := ofToken?_of_signedDecimal h
      rw [if_neg hover] at hnone
      rw [Decimal.rounded_of_overflow (not_lt.mp hover)]
      exact .infinite h (not_lt.mp hover) hnone

theorem not_isNameChar_of_isSign {c : Char} (h : isSign c) : isNameChar c = false := by
  simp only [isSign, Bool.or_eq_true, decide_eq_true_eq] at h
  rcases h with rfl | rfl <;> rfl

/-- A name is read up to its first character that names do not have. -/
theorem ofToken?_eq_some_iff (token name : String) (dx dy : Float) :
    ofToken? token = some ⟨name, dx, dy⟩ ↔ name ≠ "" ∧ (∀ c ∈ name.toList, isNameChar c) ∧
      ∃ rest, token.toList = name.toList ++ rest ∧ offsets? rest = some (dx, dy) := by
  unfold ofToken? ofChars?
  simp only [Option.ite_none_left_eq_some, Option.map_eq_some_iff, OffsetReference.mk.injEq]
  constructor
  · rintro ⟨hne, ⟨x, y⟩, hread, rfl, rfl, rfl⟩
    refine ⟨?_, ?_, token.toList.dropWhile isNameChar, ?_, hread⟩
    · simpa using hne
    · intro c hc
      rw [String.toList_ofList] at hc
      exact List.mem_takeWhile_imp hc
    · rw [String.toList_ofList, List.takeWhile_append_dropWhile]
  · rintro ⟨hne, hname, rest, htoken, hread⟩
    have hstop : ∀ c ∈ rest.head?, isNameChar c = false := by
      obtain ⟨s₁, s₂, first, second, hs₁, -, rfl, -⟩ := offsets?_eq_some_iff.mp hread
      rintro c ⟨⟩
      exact not_isNameChar_of_isSign hs₁
    obtain ⟨htake, hdrop⟩ := Text.span_append hname hstop
    rw [htoken, htake, hdrop]
    refine ⟨?_, (dx, dy), hread, String.ofList_toList, rfl, rfl⟩
    simpa using hne

/-- The first of two offsets ends where the second begins. -/
theorem SignedDecimal.toList_eq {a b : String} {s s' : Char} {w w' p p' : List Char}
    (ha : SignedDecimal a s w p) (hb : SignedDecimal b s' w' p') :
    a.toList = (a ++ b).toList.take 1 ++
      ((a ++ b).toList.drop 1).takeWhile (fun c => !isSign c) := by
  obtain ⟨-, hfirst, h⟩ := ha
  obtain ⟨hs', hsecond, -⟩ := hb
  next mantissa mantissa' =>
  have hstop : ∀ c ∈ (s' :: mantissa').head?, (!isSign c) = false := by
    rintro c ⟨⟩
    rw [hs']
    rfl
  have hinner : ∀ c ∈ mantissa, !isSign c := fun c hc =>
    not_isSign_of_isOffsetChar (isOffsetChar_of_mantissa h c hc)
  have htake := (Text.span_append hinner hstop).1
  rw [String.toList_append, hfirst, hsecond, List.cons_append]
  simp only [List.take_succ_cons, List.take_zero, List.drop_succ_cons, List.drop_zero, htake]
  rfl

theorem SignedDecimal.append_inj {a b a' b' : String} {s t s' t' : Char}
    {w x w' x' p q p' q' : List Char} (ha : SignedDecimal a s w p) (hb : SignedDecimal b t x q)
    (ha' : SignedDecimal a' s' w' p') (hb' : SignedDecimal b' t' x' q') (h : a ++ b = a' ++ b') :
    a = a' ∧ b = b' := by
  have hfirst : a = a' := by
    apply String.toList_injective
    rw [ha.toList_eq hb, ha'.toList_eq hb', h]
  subst hfirst
  exact ⟨rfl, String.append_right_inj a |>.mp h⟩

/-- What the grammar spells is read. -/
theorem ofToken?_of_split {name a b : String} {s s' : Char} {w p w' p' : List Char}
    (hne : name ≠ "") (hname : ∀ c ∈ name.toList, isNameChar c) (ha : SignedDecimal a s w p)
    (hb : SignedDecimal b s' w' p') :
    ofToken? (name ++ a ++ b) =
      some ⟨name, signed s (Decimal.rounded w p 0), signed s' (Decimal.rounded w' p' 0)⟩ := by
  obtain ⟨hs, hfirst, h⟩ := ha
  obtain ⟨hs', hsecond, h'⟩ := hb
  refine (ofToken?_eq_some_iff ..).mpr ⟨hne, hname, a.toList ++ b.toList, by simp, ?_⟩
  refine offsets?_eq_some_iff.mpr ⟨s, s', _, _, hs, hs', ?_, offset?_eq_some_iff.mpr ⟨_, _, h, rfl⟩,
    offset?_eq_some_iff.mpr ⟨_, _, h', rfl⟩⟩
  rw [hfirst, hsecond, List.cons_append]

/-- What is read is spelled by the grammar. -/
theorem exists_split_of_ofToken? {token name : String} {dx dy : Float}
    (h : ofToken? token = some ⟨name, dx, dy⟩) :
    name ≠ "" ∧ (∀ c ∈ name.toList, isNameChar c) ∧ ∃ a b s s' w p w' p',
      token = name ++ a ++ b ∧ SignedDecimal a s w p ∧ SignedDecimal b s' w' p' ∧
      dx = signed s (Decimal.rounded w p 0) ∧ dy = signed s' (Decimal.rounded w' p' 0) := by
  obtain ⟨hne, hname, rest, htoken, hread⟩ := (ofToken?_eq_some_iff ..).mp h
  obtain ⟨s, s', first, second, hs, hs', rfl, hx, hy⟩ := offsets?_eq_some_iff.mp hread
  obtain ⟨w, p, h, hdx⟩ := offset?_eq_some_iff.mp hx
  obtain ⟨w', p', h', hdy⟩ := offset?_eq_some_iff.mp hy
  refine ⟨hne, hname, String.ofList (s :: first), String.ofList (s' :: second), s, s', w, p, w', p',
    ?_, .intro hs String.toList_ofList h, .intro hs' String.toList_ofList h', hdx, hdy⟩
  apply String.toList_injective
  simp [htoken]

/-! ## Tokens that are read -/

/-- A token is spelled like a name with two offsets, which have these values. -/
inductive Spelled : String → String → Float → Float → Prop
  | intro {name a b : String} {sign sign' : Char} {whole places whole' places' : List Char}
      (hne : name ≠ "") (hname : ∀ c ∈ name.toList, isNameChar c)
      (ha : SignedDecimal a sign whole places) (hb : SignedDecimal b sign' whole' places') :
      Spelled (name ++ a ++ b) name (signed sign (Decimal.rounded whole places 0))
        (signed sign' (Decimal.rounded whole' places' 0))

section Spellings

variable {token name : String} {dx dy : Float}

theorem spelled_iff_read : Spelled token name dx dy ↔ ofToken? token = some ⟨name, dx, dy⟩ := by
  constructor
  · rintro ⟨hne, hname, ha, hb⟩
    exact ofToken?_of_split hne hname ha hb
  · intro h
    obtain ⟨hne, hname, a, b, sign, sign', whole, places, whole', places', rfl, ha, hb, rfl, rfl⟩ :=
      exists_split_of_ofToken? h
    exact .intro hne hname ha hb

theorem ofToken?_eq_none (h : ∀ name dx dy, ¬ Spelled token name dx dy) :
    ofToken? token = none :=
  Option.eq_none_iff_forall_ne_some.mpr fun r hr => h r.name r.dx r.dy (spelled_iff_read.mpr hr)

theorem SignedDecimal.exists_isSign {text : String} {sign : Char} {whole places : List Char}
    (h : SignedDecimal text sign whole places) : ∃ c ∈ text.toList, isSign c := by
  obtain ⟨hsign, htext, -⟩ := h
  exact ⟨_, by simp [htext], hsign⟩

/-- What can carry offsets has no sign, so it is not spelled like a name that carries them. -/
theorem not_spelled_of_name (h : ∀ c ∈ token.toList, isNameChar c) (name : String)
    (dx dy : Float) : ¬ Spelled token name dx dy := by
  rintro ⟨-, -, ha, -⟩
  obtain ⟨c, hc, hsign⟩ := ha.exists_isSign
  have hname : isNameChar c := h c (by simp [hc])
  rw [not_isNameChar_of_isSign hsign] at hname
  cases hname

/-- The name is another one without its offsets. -/
theorem Spelled.ne (h : Spelled token name dx dy) : name ≠ token := by
  obtain ⟨-, hname, -⟩ := (ofToken?_eq_some_iff ..).mp (spelled_iff_read.mp h)
  rintro rfl
  exact not_spelled_of_name hname name dx dy h

end Spellings

/-- A token is read as a name with two offsets if it is spelled by the grammar, and the offsets
are the numbers of their texts unless they overflow. There is one way to split it. -/
theorem reads_iff (token name : String) (dx dy : Float) :
    ofToken? token = some ⟨name, dx, dy⟩ ↔
      name ≠ "" ∧ (∀ c ∈ name.toList, isNameChar c) ∧
        ∃! offsets : String × String, token = name ++ offsets.1 ++ offsets.2 ∧
          Offset offsets.1 dx ∧ Offset offsets.2 dy := by
  constructor
  · intro h
    obtain ⟨hne, hname, a, b, s, s', w, p, w', p', rfl, ha, hb, rfl, rfl⟩ :=
      exists_split_of_ofToken? h
    refine ⟨hne, hname, (a, b), ⟨rfl, offset_iff.mpr ⟨_, _, _, ha, rfl⟩,
      offset_iff.mpr ⟨_, _, _, hb, rfl⟩⟩, ?_⟩
    rintro ⟨a', b'⟩ ⟨hsplit, ha', hb'⟩
    obtain ⟨_, _, _, ha', -⟩ := offset_iff.mp ha'
    obtain ⟨_, _, _, hb', -⟩ := offset_iff.mp hb'
    rw [String.append_assoc, String.append_assoc, String.append_right_inj] at hsplit
    obtain ⟨rfl, rfl⟩ := ha.append_inj hb ha' hb' hsplit
    rfl
  · rintro ⟨hne, hname, ⟨a, b⟩, ⟨rfl, ha, hb⟩, -⟩
    obtain ⟨s, w, p, hfirst, rfl⟩ := offset_iff.mp ha
    obtain ⟨s', w', p', hsecond, rfl⟩ := offset_iff.mp hb
    exact ofToken?_of_split hne hname hfirst hsecond

/-- An offset that is too great: `1` and 400 zeros. -/
def greatOffset : String := String.ofList ('+' :: '1' :: List.replicate 400 '0')

theorem signedDecimal_greatOffset :
    SignedDecimal greatOffset '+' ('1' :: List.replicate 400 '0') [] := by
  refine .intro rfl String.toList_ofList (.whole (List.forall_mem_cons.mpr ⟨rfl, ?_⟩)
    (List.cons_ne_nil _ _))
  intro c hc
  rw [List.eq_of_mem_replicate hc]
  rfl

theorem overflow_le_greatOffset :
    Decimal.overflow ≤ Decimal.exactValue ('1' :: List.replicate 400 '0') [] 0 := by
  have hvalue : ∀ n, Nat.ofDigitChars 10 ('1' :: List.replicate n '0') 0 = 10 ^ n := by
    intro n
    rw [Nat.ofDigitChars_cons, Nat.ofDigitChars_replicate_zero]
    exact Nat.mul_one _
  have hexact : ∀ n, Decimal.exactValue ('1' :: List.replicate n '0') [] 0 = 10 ^ (n : Int) := by
    intro n
    rw [Decimal.exactValue, List.append_nil, hvalue, zpow_natCast]
    simp
  rw [hexact]
  exact Decimal.overflow_le_ten_pow (by norm_num)

/-- An offset that is too great is read as infinite, though its text is not a number. -/
theorem reads_greatOffset :
    (∃ dy, ofToken? ("a" ++ greatOffset ++ "+1") =
        some ⟨"a", Float.ofBits 0x7ff0000000000000, dy⟩) ∧
      ¬ ∃ name a b s s' w p w' p', "a" ++ greatOffset ++ "+1" = name ++ a ++ b ∧
        name ≠ "" ∧ (∀ c ∈ name.toList, isNameChar c) ∧
        SignedDecimal a s w p ∧ SignedDecimal b s' w' p' ∧
        Number.isNumber a ∧ Number.isNumber b := by
  have ha : ∀ c ∈ ("a" : String).toList, isNameChar c := by
    intro c hc
    rw [List.mem_singleton.mp hc]
    decide
  have hone : SignedDecimal "+1" '+' ['1'] [] :=
    .intro rfl rfl (.whole (List.forall_mem_singleton.mpr rfl) (by simp))
  have hread := ofToken?_of_split (by decide) ha signedDecimal_greatOffset hone
  have hnone : Number.ofToken? greatOffset = none := by
    rw [ofToken?_of_signedDecimal signedDecimal_greatOffset,
      if_neg (not_lt.mpr overflow_le_greatOffset)]
  rw [Decimal.rounded_of_overflow overflow_le_greatOffset] at hread
  refine ⟨⟨_, hread⟩, ?_⟩
  rintro ⟨name, a, b, s, s', w, p, w', p', hsplit, hne, hname, ha, hb, hnumber, -⟩
  have hsame := ofToken?_of_split hne hname ha hb
  rw [← hsplit, hread] at hsame
  simp only [Option.some.injEq, OffsetReference.mk.injEq] at hsame
  obtain ⟨rfl, -, -⟩ := hsame
  rw [String.append_assoc, String.append_assoc, String.append_right_inj] at hsplit
  obtain ⟨rfl, -⟩ := signedDecimal_greatOffset.append_inj hone ha hb hsplit
  rw [Number.isNumber, hnone] at hnumber
  cases hnumber

end OffsetReference

end Storyboard
