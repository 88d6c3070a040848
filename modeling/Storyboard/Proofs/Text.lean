import Mathlib.Data.List.Infix
import Mathlib.Data.List.TakeWhile
import Storyboard.Decimal.Numeral
import Storyboard.Text.Blank

/-!
# Texts

Facts about texts that do not depend on what reads or writes them: what is left when the ends of
a text are trimmed, where a run of characters ends, and which characters numerals are made of.

Main results:

- Theorem `Text.infix_trim`: trimming leaves a part of the text.
- Theorem `Text.span_append`: a run of characters ends where the text does not go on.
- Theorem `Decimal.isPlain_of_numeral?`: numerals have no blanks, quotes, brackets or commas.
-/

namespace Storyboard

/-! ## Trimming and cutting -/

namespace Text

theorem infix_trim (t : List Char) : trim t <:+: t := by
  have hback : ∀ u : List Char, trimEnd u <+: u := by
    intro u
    rw [trimEnd, ← List.reverse_suffix, List.reverse_reverse]
    exact List.dropWhile_suffix isBlank
  exact (hback _).isInfix.trans (List.dropWhile_suffix isBlank).isInfix

/-- Nothing is trimmed off a text without blanks. -/
theorem trim_eq_self {t : List Char} (h : ∀ c ∈ t, isBlank c = false) : trim t = t := by
  have hdrop : ∀ u : List Char, (∀ c ∈ u, isBlank c = false) → u.dropWhile isBlank = u := by
    intro u hu
    cases u with
    | nil => rfl
    | cons c u => exact List.dropWhile_cons_of_neg (by simp [hu c List.mem_cons_self])
  unfold trim trimEnd trimStart
  rw [hdrop t h, hdrop t.reverse fun c hc => h c (List.mem_reverse.mp hc), List.reverse_reverse]

/-- What ends where it does not go on is taken as a whole. -/
theorem span_append {p : Char → Bool} {w line : List Char} (hw : ∀ c ∈ w, p c)
    (hline : ∀ c ∈ line.head?, p c = false) :
    (w ++ line).takeWhile p = w ∧ (w ++ line).dropWhile p = line := by
  rw [List.takeWhile_append_of_pos hw, List.dropWhile_append_of_pos hw]
  cases line with
  | nil => exact ⟨List.append_nil w, rfl⟩
  | cons x line =>
      have hx : ¬ p x := by simp [hline x rfl]
      rw [List.takeWhile_cons_of_neg hx, List.dropWhile_cons_of_neg hx, List.append_nil]
      exact ⟨rfl, rfl⟩

/-- Letters and digits by their code points. -/
theorem isAlphanum_iff {c : Char} : c.isAlphanum ↔
    (65 ≤ c.toNat ∧ c.toNat ≤ 90) ∨ (97 ≤ c.toNat ∧ c.toNat ≤ 122) ∨
      (48 ≤ c.toNat ∧ c.toNat ≤ 57) := by
  have hranges : c.isAlphanum = (decide ('A'.val ≤ c.val ∧ c.val ≤ 'Z'.val) ||
      (decide ('a'.val ≤ c.val) && decide (c.val ≤ 'z'.val)) ||
      (decide ('0'.val ≤ c.val) && decide (c.val ≤ '9'.val))) := rfl
  rw [hranges]
  simp [UInt32.le_iff_toNat_le, or_assoc]

theorem not_isAlpha_of_isDigit {c : Char} (h : c.isDigit) : ¬ c.isAlpha := by
  have hrange : 48 ≤ c.toNat ∧ c.toNat ≤ 57 := by
    simpa [Char.isDigit, UInt32.le_iff_toNat_le] using h
  intro hletter
  have hranges : c.isAlpha = (decide ('A'.val ≤ c.val ∧ c.val ≤ 'Z'.val) ||
      (decide ('a'.val ≤ c.val) && decide (c.val ≤ 'z'.val))) := rfl
  have hletters : (65 ≤ c.toNat ∧ c.toNat ≤ 90) ∨ (97 ≤ c.toNat ∧ c.toNat ≤ 122) := by
    rw [hranges] at hletter
    simpa [UInt32.le_iff_toNat_le] using hletter
  omega

theorem not_isBlank_of_isAlphanum {c : Char} (h : c.isAlphanum) : isBlank c = false := by
  have hrange := isAlphanum_iff.mp h
  simp only [isBlank, Bool.or_eq_false_iff, Bool.and_eq_false_iff, decide_eq_false_iff_not,
    beq_eq_false_iff_ne]
  omega

theorem not_isBlank_of_isAlpha {c : Char} (h : c.isAlpha) : isBlank c = false :=
  not_isBlank_of_isAlphanum (by simp [Char.isAlphanum, h])

end Text

/-! ## Bytes -/

namespace Text

theorem toList_byteArray (bs : ByteArray) : bs.toList = bs.data.toList := by
  have hloop : ∀ (i : Nat) (r : List UInt8),
      ByteArray.toList.loop bs i r = r.reverse ++ bs.data.toList.drop i := by
    intro i r
    fun_induction ByteArray.toList.loop bs i r with
    | case1 i r hi ih =>
        have hdata : i < bs.data.toList.length := by simpa using hi
        have hget : bs.get! i = bs.data.toList[i] := by
          rw [Array.getElem_toList]
          exact getElem!_pos bs.data i _
        rw [ih, List.drop_eq_getElem_cons hdata, hget]
        simp
    | case2 i r hi =>
        have hdata : bs.data.toList.length ≤ i := by simpa using hi
        rw [List.drop_eq_nil_of_le hdata, List.append_nil]
  exact hloop 0 []

/-- The bytes of a text are read as the text. -/
theorem fromUTF8?_toUTF8 (text : String) :
    String.fromUTF8? ⟨text.toUTF8.toList.toArray⟩ = some text := by
  rw [toList_byteArray, Array.toArray_toList]
  exact dif_pos text.isValidUTF8

end Text

/-! ## Numerals -/

namespace Decimal

/-- The characters of numerals: letters, digits, signs and points. -/
def isPlain (c : Char) : Bool := c.isAlphanum || c == '.' || c == '+' || c == '-'

theorem isPlain_of_isDigit {c : Char} (h : c.isDigit) : isPlain c := by
  simp [isPlain, Char.isAlphanum, h]

theorem isPlain_of_isAlpha {c : Char} (h : c.isAlpha) : isPlain c := by
  simp [isPlain, Char.isAlphanum, h]

theorem not_isBlank_of_isPlain {c : Char} (h : isPlain c) : Text.isBlank c = false := by
  simp only [isPlain, Bool.or_eq_true, beq_iff_eq] at h
  rcases h with ((h | rfl) | rfl) | rfl
  · exact Text.not_isBlank_of_isAlphanum h
  · decide
  · decide
  · decide

theorem isAlpha_of_toLower {c : Char} (h : c.toLower.isAlpha) : c.isAlpha := by
  by_cases hupper : c.isUpper
  · change (c.isUpper || c.isLower) = true
    rw [hupper, Bool.true_or]
  · have hrange : ¬ (c.val ≥ 'A'.val ∧ c.val ≤ 'Z'.val) := fun hrange =>
      hupper (decide_eq_true hrange)
    have hsame : c.toLower = c := dif_neg hrange
    rwa [hsame] at h

theorem isPlain_of_exponent? {cs : List Char} {e : Int} (h : exponent? cs = some e) :
    ∀ c ∈ cs, isPlain c := by
  have hdigits : ∀ {ds : List Char}, (!ds.isEmpty && ds.all Char.isDigit) = true →
      ∀ c ∈ ds, isPlain c := by
    intro ds hds c hc
    rw [Bool.and_eq_true, List.all_eq_true] at hds
    exact isPlain_of_isDigit (hds.2 c hc)
  unfold exponent? at h
  split at h
  · split at h
    · next hds =>
      intro c hc
      rcases List.mem_cons.mp hc with rfl | hc
      · rfl
      · exact hdigits hds c hc
    · cases h
  · split at h
    · next hds =>
      intro c hc
      rcases List.mem_cons.mp hc with rfl | hc
      · rfl
      · exact hdigits hds c hc
    · cases h
  · split at h
    · next hds => exact hdigits hds
    · cases h

theorem isPlain_of_unsigned? {cs : List Char} {x : Float} (h : unsigned? cs = some x) :
    ∀ c ∈ cs, isPlain c := by
  have htake : ∀ {ds : List Char} {c}, c ∈ ds.takeWhile Char.isDigit → isPlain c := fun hc =>
    isPlain_of_isDigit (List.mem_takeWhile_imp hc)
  have hexponent : ∀ {letter : Char} {more : List Char} {value : Int → Float},
      (if letter = 'e' ∨ letter = 'E' then (exponent? more).map value else none) = some x →
        ∀ c ∈ letter :: more, isPlain c := by
    intro letter more value h c hc
    split at h
    · next hletter =>
      obtain ⟨e, he, -⟩ := Option.map_eq_some_iff.mp h
      rcases List.mem_cons.mp hc with rfl | hc
      · rcases hletter with rfl | rfl <;> rfl
      · exact isPlain_of_exponent? he c hc
    · cases h
  have hwhole : (∀ c ∈ cs.dropWhile Char.isDigit, isPlain c) → ∀ c ∈ cs, isPlain c := by
    intro hrest c hc
    rw [← List.takeWhile_append_dropWhile (p := Char.isDigit) (l := cs)] at hc
    rcases List.mem_append.mp hc with hc | hc
    · exact htake hc
    · exact hrest c hc
  apply hwhole
  unfold unsigned? at h
  simp only at h
  split at h
  · next more hpoint =>
    dsimp only at h
    split at h
    · cases h
    · intro c hc
      rw [hpoint] at hc
      rcases List.mem_cons.mp hc with rfl | hc
      · rfl
      · rw [← List.takeWhile_append_dropWhile (p := Char.isDigit) (l := more)] at hc
        rcases List.mem_append.mp hc with hc | hc
        · exact htake hc
        · split at h
          · next hend =>
            rw [hend] at hc
            cases hc
          · next hend =>
            rw [hend] at hc
            exact hexponent h c hc
  · dsimp only at h
    split at h
    · cases h
    · split at h
      · next hend =>
        rw [hend]
        intro c hc
        cases hc
      · next hend =>
        rw [hend]
        exact hexponent h

theorem isPlain_of_special? {cs : List Char} {x : Float} (h : special? cs = some x) :
    ∀ c ∈ cs, isPlain c := by
  have hword : ∀ c ∈ cs.map Char.toLower, c.isAlpha := by
    unfold special? at h
    simp only at h
    split at h
    · next hword =>
      rcases hword with hword | hword
      · rw [hword]
        exact List.all_eq_true.mp (by decide)
      · rw [hword]
        exact List.all_eq_true.mp (by decide)
    · split at h
      · next hword =>
        rw [hword]
        exact List.all_eq_true.mp (by decide)
      · cases h
  intro c hc
  exact isPlain_of_isAlpha (isAlpha_of_toLower (hword _ (List.mem_map_of_mem hc)))

/-- Numerals are made of plain characters. -/
theorem isPlain_of_numeral? {cs : List Char} {x : Float} (h : numeral? cs = some x) :
    ∀ c ∈ cs, isPlain c := by
  have hbody : ∀ {body : List Char} {y : Float},
      (unsigned? body).or (special? body) = some y → ∀ c ∈ body, isPlain c := by
    intro body y hy
    rcases Option.or_eq_some_iff.mp hy with hy | ⟨-, hy⟩
    · exact isPlain_of_unsigned? hy
    · exact isPlain_of_special? hy
  unfold numeral? at h
  simp only at h
  split at h
  · obtain ⟨y, hy, -⟩ := Option.map_eq_some_iff.mp h
    intro c hc
    rcases List.mem_cons.mp hc with rfl | hc
    · rfl
    · exact hbody hy c hc
  · intro c hc
    rcases List.mem_cons.mp hc with rfl | hc
    · rfl
    · exact hbody h c hc
  · exact hbody h

end Decimal

end Storyboard
