import Storyboard.Proofs.Decimal.Range
import Storyboard.Proofs.Text
import Storyboard.Script.Number

/-!
# Numerals of scripts

A decimal has digits, at least one of them, with an optional point and an optional exponent; a
number is a decimal that does not overflow, or hexadecimal digits for at most 64 bits, with an
optional sign. The readers cut a text into runs of digits. What they read is what these grammars
spell, but for one thing: a hexadecimal number may have a plus sign after its mark.

Main results:

- Definitions `Decimal.Mantissa`, `Decimal.Exponent` and `Number.Numeral`: the grammars.
- Theorem `Decimal.unsigned?_eq_some_iff`: which texts are read as decimals, and their values.
- Theorem `Number.ofChars?_eq_some_iff`: which tokens are numbers, and their values.
- Theorem `Number.isNumber_iff`: which tokens are numbers.
-/

namespace Storyboard

/-! ## Decimals -/

namespace Decimal

/-- Decimal digits. -/
def Digits (ds : List Char) : Prop := ∀ c ∈ ds, c.isDigit

/-- A decimal without an exponent, with its digits before and after the point: there is at least
one digit. -/
inductive Mantissa : List Char → List Char → List Char → Prop
  | whole {ds} (h : Digits ds) (hne : ds ≠ []) : Mantissa ds ds []
  | pointed {ds fs} (h : Digits ds) (hf : Digits fs) (hne : ds ≠ [] ∨ fs ≠ []) :
      Mantissa (ds ++ '.' :: fs) ds fs

/-- An optional exponent: a mark, an optional sign and at least one digit. -/
inductive Exponent : List Char → Int → Prop
  | absent : Exponent [] 0
  | bare {mark ds} (hmark : mark = 'e' ∨ mark = 'E') (h : Digits ds) (hne : ds ≠ []) :
      Exponent (mark :: ds) (Nat.ofDigitChars 10 ds 0)
  | plus {mark ds} (hmark : mark = 'e' ∨ mark = 'E') (h : Digits ds) (hne : ds ≠ []) :
      Exponent (mark :: '+' :: ds) (Nat.ofDigitChars 10 ds 0)
  | minus {mark ds} (hmark : mark = 'e' ∨ mark = 'E') (h : Digits ds) (hne : ds ≠ []) :
      Exponent (mark :: '-' :: ds) (-Nat.ofDigitChars 10 ds 0)

/-- The exact value of a decimal. -/
def exactValue (whole places : List Char) (e : Int) : ℚ :=
  Nat.ofDigitChars 10 (whole ++ places) 0 * 10 ^ (e - places.length)

/-- The double that a decimal is read as. -/
def rounded (whole places : List Char) (e : Int) : Float :=
  nearest (Nat.ofDigitChars 10 (whole ++ places) 0) (e - places.length)

theorem isFinite_rounded (whole places : List Char) (e : Int) :
    (rounded whole places e).isFinite ↔ exactValue whole places e < overflow :=
  isFinite_nearest _ _

/-- A decimal that overflows is read as infinite. -/
theorem rounded_of_overflow {whole places : List Char} {e : Int}
    (h : overflow ≤ exactValue whole places e) :
    rounded whole places e = Float.ofBits 0x7ff0000000000000 :=
  nearest_of_overflow h

theorem valueFrom_eq (start : Nat) (ds : List Char) :
    valueFrom start ds = Nat.ofDigitChars 10 ds start := by
  simp only [valueFrom, Nat.ofDigitChars, digitValue, mul_comm 10]

/-- What is read after the mark of an exponent. -/
theorem exponent?_eq_some_iff {mark : Char} (hmark : mark = 'e' ∨ mark = 'E') {cs : List Char}
    {e : Int} : exponent? cs = some e ↔ Exponent (mark :: cs) e := by
  have hsign : ∀ {sign : Char} {ds : List Char}, sign.isDigit = false → ¬ Digits (sign :: ds) :=
    fun hsign h => by simpa [hsign] using h _ List.mem_cons_self
  have hread : ∀ {ds : List Char} {value : Int},
      (if (!ds.isEmpty && ds.all Char.isDigit) = true then some value else none) = some e ↔
        (ds ≠ [] ∧ Digits ds) ∧ value = e := by
    intro ds value
    rw [Option.ite_none_right_eq_some, Bool.and_eq_true, List.all_eq_true, Option.some_inj,
      Bool.not_eq_true', List.isEmpty_eq_false_iff]
    rfl
  unfold exponent?
  simp only [valueFrom_eq]
  split
  · next ds =>
    rw [hread]
    constructor
    · rintro ⟨⟨hne, h⟩, rfl⟩
      exact .minus hmark h hne
    · intro h
      cases h with
      | bare _ h => exact absurd h (hsign rfl)
      | minus _ h hne => exact ⟨⟨hne, h⟩, rfl⟩
  · next ds =>
    rw [hread]
    constructor
    · rintro ⟨⟨hne, h⟩, rfl⟩
      exact .plus hmark h hne
    · intro h
      cases h with
      | bare _ h => exact absurd h (hsign rfl)
      | plus _ h hne => exact ⟨⟨hne, h⟩, rfl⟩
  · next hminus hplus =>
    rw [hread]
    constructor
    · rintro ⟨⟨hne, h⟩, rfl⟩
      exact .bare hmark h hne
    · intro h
      cases h with
      | bare _ h hne => exact ⟨⟨hne, h⟩, rfl⟩
      | plus => exact absurd rfl (hplus _)
      | minus => exact absurd rfl (hminus _)

/-- What follows the digits of a decimal is its exponent. -/
def scaled? (n places : Nat) : List Char → Option Float
  | [] => some (nearest n (-(places : Int)))
  | mark :: more =>
      if mark = 'e' ∨ mark = 'E' then (exponent? more).map fun e => nearest n (e - places) else none

theorem scaled?_eq_some_iff {n places : Nat} {tail : List Char} {x : Float} :
    scaled? n places tail = some x ↔ ∃ e, Exponent tail e ∧ x = nearest n (e - places) := by
  cases tail with
  | nil =>
      constructor
      · intro h
        refine ⟨0, .absent, ?_⟩
        rw [zero_sub]
        exact (Option.some.inj h).symm
      · rintro ⟨e, he, rfl⟩
        cases he
        simp [scaled?]
  | cons mark more =>
      constructor
      · intro h
        simp only [scaled?, Option.ite_none_right_eq_some, Option.map_eq_some_iff] at h
        obtain ⟨hmark, e, he, rfl⟩ := h
        exact ⟨e, (exponent?_eq_some_iff hmark).mp he, rfl⟩
      · rintro ⟨e, he, rfl⟩
        have hmark : mark = 'e' ∨ mark = 'E' := by cases he <;> assumption
        simp only [scaled?, if_pos hmark, (exponent?_eq_some_iff hmark).mpr he, Option.map_some]

/-- Neither digits nor a point go on with the exponent. -/
theorem Exponent.head {tail : List Char} {e : Int} (h : Exponent tail e) :
    ∀ c ∈ tail.head?, c.isDigit = false ∧ c ≠ '.' := by
  intro c hc
  have hmark : c = 'e' ∨ c = 'E' := by cases h <;> simp_all
  rcases hmark with rfl | rfl <;> decide

section

variable {ds fs tail : List Char}

theorem unsigned?_whole (h : Digits ds) (htail : ∀ c ∈ tail.head?, c.isDigit = false ∧ c ≠ '.') :
    unsigned? (ds ++ tail) =
      if ds = [] then none else scaled? (Nat.ofDigitChars 10 ds 0) 0 tail := by
  obtain ⟨htake, hdrop⟩ := Text.span_append h fun c hc => (htail c hc).1
  unfold unsigned?
  simp only [htake, hdrop]
  cases tail with
  | nil => simp [scaled?, valueFrom_eq]
  | cons c tail =>
      split
      · next heq => exact absurd (List.cons.inj heq).1 (htail c rfl).2
      · simp [scaled?, valueFrom_eq]

theorem unsigned?_pointed (h : Digits ds) (hf : Digits fs)
    (htail : ∀ c ∈ tail.head?, c.isDigit = false) :
    unsigned? (ds ++ '.' :: (fs ++ tail)) =
      if ds = [] ∧ fs = [] then none
      else scaled? (Nat.ofDigitChars 10 (ds ++ fs) 0) fs.length tail := by
  have hpoint : ∀ c ∈ ('.' :: (fs ++ tail)).head?, c.isDigit = false := by
    rintro c ⟨⟩
    rfl
  obtain ⟨htake, hdrop⟩ := Text.span_append h hpoint
  obtain ⟨hplaces, hrest⟩ := Text.span_append hf htail
  unfold unsigned?
  simp only [htake, hdrop, hplaces, hrest]
  cases tail <;> simp [scaled?, valueFrom_eq]

/-- A text begins with digits, and perhaps with a point and more digits. -/
theorem exists_digits (cs : List Char) : ∃ ds tail, Digits ds ∧
    ((cs = ds ++ tail ∧ ∀ c ∈ tail.head?, c.isDigit = false ∧ c ≠ '.') ∨
      ∃ fs, Digits fs ∧ cs = ds ++ '.' :: (fs ++ tail) ∧ ∀ c ∈ tail.head?, c.isDigit = false) := by
  have hcut : ∀ cs : List Char, ∃ ds tail, cs = ds ++ tail ∧ Digits ds ∧
      ∀ c ∈ tail.head?, c.isDigit = false := by
    intro cs
    refine ⟨cs.takeWhile Char.isDigit, cs.dropWhile Char.isDigit,
      List.takeWhile_append_dropWhile.symm, fun c hc => List.mem_takeWhile_imp hc, ?_⟩
    intro c hc
    have hnot := List.head?_dropWhile_not Char.isDigit cs
    rw [Option.mem_def.mp hc] at hnot
    exact hnot
  obtain ⟨ds, rest, rfl, hds, hrest⟩ := hcut cs
  by_cases hpoint : rest.head? = some '.'
  · obtain ⟨more, rfl⟩ := List.head?_eq_some_iff.mp hpoint
    obtain ⟨fs, tail, rfl, hfs, htail⟩ := hcut more
    exact ⟨ds, tail, hds, .inr ⟨fs, hfs, rfl, htail⟩⟩
  · exact ⟨ds, rest, hds, .inl ⟨rfl, fun c hc => ⟨hrest c hc, fun h => hpoint (h ▸ hc)⟩⟩⟩

end

/-- What is read as a decimal. -/
theorem unsigned?_eq_some_iff {cs : List Char} {x : Float} :
    unsigned? cs = some x ↔ ∃ mantissa whole places tail e, cs = mantissa ++ tail ∧
      Mantissa mantissa whole places ∧ Exponent tail e ∧
      x = rounded whole places e := by
  constructor
  · intro h
    obtain ⟨ds, tail, hds, ⟨rfl, htail⟩ | ⟨fs, hfs, rfl, htail⟩⟩ := exists_digits cs
    · rw [unsigned?_whole hds htail, Option.ite_none_left_eq_some, scaled?_eq_some_iff] at h
      obtain ⟨hne, e, he, rfl⟩ := h
      exact ⟨ds, ds, [], tail, e, rfl, .whole hds hne, he, by simp [rounded]⟩
    · rw [unsigned?_pointed hds hfs htail, Option.ite_none_left_eq_some, scaled?_eq_some_iff] at h
      obtain ⟨hne, e, he, rfl⟩ := h
      exact ⟨ds ++ '.' :: fs, ds, fs, tail, e, by simp, .pointed hds hfs (not_and_or.mp hne), he,
        rfl⟩
  · rintro ⟨mantissa, whole, places, tail, e, rfl, hmantissa, he, rfl⟩
    cases hmantissa with
    | whole h hne =>
        rw [unsigned?_whole h he.head, if_neg hne, scaled?_eq_some_iff]
        exact ⟨e, he, by simp [rounded]⟩
    | pointed h hf hne =>
        rw [List.append_assoc, List.cons_append,
          unsigned?_pointed h hf fun c hc => (he.head c hc).1, if_neg (not_and_or.mpr hne),
          scaled?_eq_some_iff]
        exact ⟨e, he, rfl⟩

end Decimal

/-! ## Numbers -/

namespace Number

/-- One or more hexadecimal digits. -/
def HexDigits (ds : List Char) : Prop := ds ≠ [] ∧ ∀ c ∈ ds, (hexValue? c).isSome

/-- The value of hexadecimal digits. -/
def hexNumber (ds : List Char) : Nat := ds.foldl (fun n c => n * 16 + (hexValue? c).getD 0) 0

/-- The grammar of numbers without a sign, with their values: `0x` and hexadecimal digits for a
number of at most 64 bits, or a decimal that does not overflow. -/
inductive Numeral : List Char → Float → Prop
  | hexadecimal {mark ds} (hmark : mark = 'x' ∨ mark = 'X') (h : HexDigits ds)
      (hbound : hexNumber ds < 2 ^ 64) :
      Numeral ('0' :: mark :: ds) (Decimal.nearest (hexNumber ds) 0)
  | decimal {mantissa whole places tail e} (h : Decimal.Mantissa mantissa whole places)
      (he : Decimal.Exponent tail e)
      (hbound : Decimal.exactValue whole places e < Decimal.overflow) :
      Numeral (mantissa ++ tail) (Decimal.rounded whole places e)

/-- What is read besides: hexadecimal digits may have a plus sign of their own. -/
inductive Marked : List Char → Float → Prop
  | hexadecimal {mark ds} (hmark : mark = 'x' ∨ mark = 'X') (h : HexDigits ds)
      (hbound : hexNumber ds < 2 ^ 64) :
      Marked ('0' :: mark :: '+' :: ds) (Decimal.nearest (hexNumber ds) 0)

/-- A text with an optional sign and blanks around it. -/
inductive Signed (R : List Char → Float → Prop) (t : List Char) : Float → Prop
  | plain {x} (h : R (Text.trim t) x) : Signed R t x
  | plus {body x} (ht : Text.trim t = '+' :: body) (h : R body x) : Signed R t x
  | minus {body x} (ht : Text.trim t = '-' :: body) (h : R body x) : Signed R t (-x)

theorem Signed.imp {R R' : List Char → Float → Prop} {t : List Char} {x : Float}
    (h : Signed R t x) (hR : ∀ body y, R body y → R' body y) : Signed R' t x := by
  cases h with
  | plain h => exact .plain (hR _ _ h)
  | plus ht h => exact .plus ht (hR _ _ h)
  | minus ht h => exact .minus ht (hR _ _ h)

theorem hexFrom?_eq_some_iff {start n : Nat} {ds : List Char} :
    hexFrom? start ds = some n ↔ (∀ c ∈ ds, (hexValue? c).isSome) ∧
      ds.foldl (fun n c => n * 16 + (hexValue? c).getD 0) start = n := by
  induction ds generalizing start with
  | nil => simp [hexFrom?]
  | cons c ds ih =>
      cases hc : hexValue? c with
      | none => simp [hexFrom?, hc]
      | some d => simp [hexFrom?, hc, ih]

theorem hexDigits?_eq_some_iff {n : Nat} {ds : List Char} :
    hexDigits? ds = some n ↔ HexDigits ds ∧ hexNumber ds = n := by
  rw [hexDigits?, Option.ite_none_left_eq_some, hexFrom?_eq_some_iff, List.isEmpty_iff]
  exact and_assoc.symm

theorem not_hexDigits_plus (ds : List Char) : ¬ HexDigits ('+' :: ds) := fun h =>
  absurd (h.2 '+' List.mem_cons_self) (by decide)

theorem hexWord?_eq_some_iff {n : Nat} {cs : List Char} :
    hexWord? cs = some n ↔
      n < 2 ^ 64 ∧ ∃ ds, (cs = ds ∨ cs = '+' :: ds) ∧ HexDigits ds ∧ hexNumber ds = n := by
  have hread : ∀ ds, (hexDigits? ds).filter (· < 0x10000000000000000) = some n ↔
      n < 2 ^ 64 ∧ HexDigits ds ∧ hexNumber ds = n := by
    intro ds
    rw [Option.filter_eq_some_iff, hexDigits?_eq_some_iff, decide_eq_true_eq, and_comm]
    norm_num
  unfold hexWord?
  simp only
  split
  · next ds =>
    rw [hread]
    constructor
    · rintro ⟨hbound, h⟩
      exact ⟨hbound, ds, .inr rfl, h⟩
    · rintro ⟨hbound, ds', rfl | heq, h⟩
      · exact absurd h.1 (not_hexDigits_plus ds)
      · obtain rfl := (List.cons.inj heq).2
        exact ⟨hbound, h⟩
  · next hne =>
    rw [hread]
    constructor
    · rintro ⟨hbound, h⟩
      exact ⟨hbound, cs, .inl rfl, h⟩
    · rintro ⟨hbound, ds, rfl | rfl, h⟩
      · exact ⟨hbound, h⟩
      · exact absurd rfl (hne ds)

theorem hexBody?_eq_some_iff {body ds : List Char} :
    hexBody? body = some ds ↔ ∃ mark, (mark = 'x' ∨ mark = 'X') ∧ body = '0' :: mark :: ds := by
  unfold hexBody?
  split <;> simp_all

/-- What begins like a hexadecimal number is not a decimal. -/
theorem unsigned?_of_hexBody? {body ds : List Char} (h : hexBody? body = some ds) :
    Decimal.unsigned? body = none := by
  obtain ⟨mark, hmark, rfl⟩ := hexBody?_eq_some_iff.mp h
  have hzero : Decimal.Digits ['0'] := by
    intro c hc
    rw [List.mem_singleton.mp hc]
    rfl
  have hstop : ∀ c ∈ (mark :: ds).head?, c.isDigit = false ∧ c ≠ '.' := by
    rintro c ⟨⟩
    rcases hmark with rfl | rfl <;> decide
  have hexponent : ¬ (mark = 'e' ∨ mark = 'E') := by
    rcases hmark with rfl | rfl <;> decide
  rw [← List.singleton_append, Decimal.unsigned?_whole hzero hstop, Decimal.scaled?,
    if_neg hexponent, ite_self]

theorem unsigned?_hexadecimal {mark : Char} {digits ds : List Char}
    (hmark : mark = 'x' ∨ mark = 'X') (hdigits : digits = ds ∨ digits = '+' :: ds)
    (h : HexDigits ds) (hbound : hexNumber ds < 2 ^ 64) :
    unsigned? ('0' :: mark :: digits) = some (Decimal.nearest (hexNumber ds) 0) := by
  have hbody : hexBody? ('0' :: mark :: digits) = some digits :=
    hexBody?_eq_some_iff.mpr ⟨mark, hmark, rfl⟩
  have hword : hexWord? digits = some (hexNumber ds) :=
    hexWord?_eq_some_iff.mpr ⟨hbound, ds, hdigits, h, rfl⟩
  simp only [unsigned?, hbody, hword, Option.map_some]

theorem unsigned?_decimal {mantissa whole places tail : List Char} {e : Int}
    (h : Decimal.Mantissa mantissa whole places) (he : Decimal.Exponent tail e) :
    unsigned? (mantissa ++ tail) =
      if Decimal.exactValue whole places e < Decimal.overflow then
        some (Decimal.rounded whole places e)
      else none := by
  have hread : Decimal.unsigned? (mantissa ++ tail) = some (Decimal.rounded whole places e) :=
    Decimal.unsigned?_eq_some_iff.mpr ⟨mantissa, whole, places, tail, e, rfl, h, he, rfl⟩
  unfold unsigned?
  split
  · next ds hbody =>
    rw [unsigned?_of_hexBody? hbody] at hread
    cases hread
  · simp only [hread, Option.filter_some, Decimal.isFinite_rounded]

theorem unsigned?_eq_some_iff {body : List Char} {x : Float} :
    unsigned? body = some x ↔ Numeral body x ∨ Marked body x := by
  constructor
  · unfold unsigned?
    intro h
    split at h
    · next ds hbody =>
      obtain ⟨mark, hmark, rfl⟩ := hexBody?_eq_some_iff.mp hbody
      obtain ⟨n, hword, rfl⟩ := Option.map_eq_some_iff.mp h
      obtain ⟨hbound, ds, rfl | rfl, hds, rfl⟩ := hexWord?_eq_some_iff.mp hword
      · exact .inl (.hexadecimal hmark hds hbound)
      · exact .inr (.hexadecimal hmark hds hbound)
    · rw [Option.filter_eq_some_iff, Decimal.unsigned?_eq_some_iff] at h
      obtain ⟨⟨mantissa, whole, places, tail, e, rfl, h, he, rfl⟩, hfinite⟩ := h
      exact .inl (.decimal h he ((Decimal.isFinite_rounded ..).mp hfinite))
  · rintro (h | h)
    · cases h with
      | hexadecimal hmark h hbound => exact unsigned?_hexadecimal hmark (.inl rfl) h hbound
      | decimal h he hbound => rw [unsigned?_decimal h he, if_pos hbound]
    · cases h with
      | hexadecimal hmark h hbound => exact unsigned?_hexadecimal hmark (.inr rfl) h hbound

theorem unsigned?_of_sign {c : Char} {body : List Char} (hc : c = '+' ∨ c = '-') :
    unsigned? (c :: body) = none := by
  have hstop : ∀ x ∈ (c :: body).head?, x.isDigit = false ∧ x ≠ '.' := by
    rintro x ⟨⟩
    rcases hc with rfl | rfl <;> decide
  have hnone : Decimal.Digits [] := by simp [Decimal.Digits]
  have hdecimal : Decimal.unsigned? (c :: body) = none := Decimal.unsigned?_whole hnone hstop
  unfold unsigned?
  split
  · next ds hbody =>
    obtain ⟨mark, -, heq⟩ := hexBody?_eq_some_iff.mp hbody
    obtain rfl := (List.cons.inj heq).1
    exact absurd hc (by decide)
  · rw [hdecimal]
    rfl

/-- A number is read after its sign. -/
theorem ofChars?_eq_some_iff_signed {t : List Char} {x : Float} :
    ofChars? t = some x ↔ Signed (fun body y => unsigned? body = some y) t x := by
  unfold ofChars?
  constructor
  · intro h
    split at h
    · next body ht =>
      obtain ⟨y, hy, rfl⟩ := Option.map_eq_some_iff.mp h
      exact .minus ht hy
    · next body ht => exact .plus ht h
    · exact .plain h
  · intro h
    cases h with
    | plain h =>
        split
        · next body ht =>
          rw [ht, unsigned?_of_sign (.inr rfl)] at h
          cases h
        · next body ht =>
          rw [ht, unsigned?_of_sign (.inl rfl)] at h
          cases h
        · exact h
    | plus ht h => simp only [ht, h]
    | minus ht h => simp only [ht, h, Option.map_some]

/-- The value of a numeric token. -/
theorem ofChars?_eq_some_iff {t : List Char} {x : Float} :
    ofChars? t = some x ↔ Signed Numeral t x ∨ Signed Marked t x := by
  rw [ofChars?_eq_some_iff_signed]
  simp only [unsigned?_eq_some_iff]
  constructor
  · intro h
    cases h with
    | plain h => exact h.imp .plain .plain
    | plus ht h => exact h.imp (.plus ht) (.plus ht)
    | minus ht h => exact h.imp (.minus ht) (.minus ht)
  · rintro (h | h)
    · exact h.imp fun _ _ => .inl
    · exact h.imp fun _ _ => .inr

/-- A token is spelled like a number. -/
def Spelled (token : String) : Prop :=
  ∃ x, Signed Numeral token.toList x ∨ Signed Marked token.toList x

theorem spelled_iff_exists (token : String) : Spelled token ↔ ∃ x, ofToken? token = some x :=
  exists_congr fun _ => ofChars?_eq_some_iff.symm

theorem ofToken?_eq_none_iff (token : String) : ofToken? token = none ↔ ¬ Spelled token := by
  rw [spelled_iff_exists, Option.eq_none_iff_forall_ne_some, not_exists]

/-- A token is a number if it is spelled by the grammar, or if it is hexadecimal with a second sign
after its mark. -/
theorem isNumber_iff (t : String) :
    isNumber t ↔ (∃ x, Signed Numeral t.toList x) ∨ ∃ x, Signed Marked t.toList x := by
  rw [isNumber, Option.isSome_iff_exists, ← exists_or]
  exact exists_congr fun x => ofChars?_eq_some_iff

/-- The grammar has no second sign. -/
theorem Marked.not_numeral {body : List Char} {x y : Float} (h : Marked body x) :
    ¬ Numeral body y := by
  obtain ⟨hmark, hds, -⟩ := h
  next mark ds =>
  generalize hbody : '0' :: mark :: '+' :: ds = body
  intro hnumeral
  cases hnumeral with
  | hexadecimal _ h =>
      obtain rfl := (List.cons.inj (List.cons.inj hbody).2).2
      exact not_hexDigits_plus ds h
  | decimal h he =>
      have hread := Decimal.unsigned?_eq_some_iff.mpr ⟨_, _, _, _, _, hbody, h, he, rfl⟩
      rw [unsigned?_of_hexBody? (hexBody?_eq_some_iff.mpr ⟨mark, hmark, rfl⟩)] at hread
      cases hread

/-- `0x+ff` is a number, which the grammar does not spell. -/
theorem isNumber_marked : isNumber "0x+ff" ∧ ¬ ∃ x, Signed Numeral "0x+ff".toList x := by
  have htrim : Text.trim "0x+ff".toList = ['0', 'x', '+', 'f', 'f'] := by decide
  have hdigits : HexDigits ['f', 'f'] := by
    refine ⟨by simp, fun c hc => ?_⟩
    simp only [List.mem_cons, List.not_mem_nil, or_false, or_self] at hc
    rw [hc]
    decide
  have hmarked := Marked.hexadecimal (.inl rfl) hdigits (by decide)
  have hread : ofToken? "0x+ff" = some _ :=
    ofChars?_eq_some_iff.mpr (.inr (.plain (htrim ▸ hmarked)))
  refine ⟨Option.isSome_of_eq_some hread, ?_⟩
  rintro ⟨x, h | ht | ht⟩
  · rw [htrim] at h
    exact hmarked.not_numeral h
  · rw [htrim] at ht
    cases ht
  · rw [htrim] at ht
    cases ht

end Number

end Storyboard
