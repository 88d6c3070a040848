import Mathlib.Tactic.IntervalCases
import Storyboard.Session.Colors

/-!
# Colours written and read

A colour is shown as a hash sign and the eight digits of its packed word, red first, and leading
zeros are written. That is one of the forms in which a script may give a colour, so what is shown
can be read again; a name is shown as it is.

Main results:

- Theorem `Rgba.ofPacked_packed`: packing loses nothing.
- Theorem `Rgba.hexDigits?_digits`: the digits of a colour spell its packed word.
- Theorem `Palette.parseColor_toText`: a colour is shown as it can be read.
-/

namespace Storyboard

/-! ## Digits -/

namespace Number

theorem hexFrom?_append (start : Nat) (cs ds : List Char) :
    hexFrom? start (cs ++ ds) = (hexFrom? start cs).bind fun n => hexFrom? n ds := by
  induction cs generalizing start with
  | nil => rfl
  | cons c cs ih =>
      rw [List.cons_append, hexFrom?, hexFrom?]
      cases hexValue? c with
      | none => rfl
      | some d => exact ih _

/-- A digit has the value that it is written for. -/
theorem hexValue?_digitChar {d : Nat} (h : d < 16) : hexValue? d.digitChar = some d := by
  interval_cases d <;> decide

end Number

namespace Rgba

/-- A byte is written with two digits. -/
theorem hexByte_eq (v : UInt8) :
    hexByte v = [(v.toNat / 16).digitChar, (v.toNat % 16).digitChar] := by
  have hbound := v.toNat_lt
  unfold hexByte Text.hexDigits
  by_cases hsmall : v.toNat < 16
  · have hzero : v.toNat / 16 = 0 := by omega
    have hself : v.toNat % 16 = v.toNat := by omega
    simp [Nat.toDigits_of_lt_base hsmall, hzero, hself]
  · have hdigits : Nat.toDigits 16 v.toNat =
        Nat.toDigits 16 (v.toNat / 16) ++ [(v.toNat % 16).digitChar] :=
      Nat.toDigits_of_base_le (by decide) (by omega)
    simp [hdigits, Nat.toDigits_of_lt_base (show v.toNat / 16 < 16 by omega)]

/-- A byte is read as it is written. -/
theorem hexFrom?_hexByte (start : Nat) (v : UInt8) :
    Number.hexFrom? start (hexByte v) = some (start * 256 + v.toNat) := by
  have hbound := v.toNat_lt
  rw [hexByte_eq]
  simp only [Number.hexFrom?, Number.hexValue?_digitChar (show v.toNat / 16 < 16 by omega),
    Number.hexValue?_digitChar (show v.toNat % 16 < 16 by omega), Option.bind_some]
  congr 1
  omega

/-! ## Packed colours -/

/-- Red is the most significant byte of a packed colour. -/
theorem toNat_packed (c : Rgba) :
    c.packed.toNat = ((c.r.toNat * 256 + c.g.toNat) * 256 + c.b.toNat) * 256 + c.a.toNat := by
  have hr := c.r.toNat_lt
  have hg := c.g.toNat_lt
  have hb := c.b.toNat_lt
  have ha := c.a.toNat_lt
  have hred : (c.r.toUInt32 <<< 24).toNat = 2 ^ 24 * c.r.toNat := by
    simp [UInt32.toNat_shiftLeft, Nat.shiftLeft_eq]
    omega
  have hgreen : (c.g.toUInt32 <<< 16).toNat = 2 ^ 16 * c.g.toNat := by
    simp [UInt32.toNat_shiftLeft, Nat.shiftLeft_eq]
    omega
  have hblue : (c.b.toUInt32 <<< 8).toNat = 2 ^ 8 * c.b.toNat := by
    simp [UInt32.toNat_shiftLeft, Nat.shiftLeft_eq]
    omega
  have halpha : c.a.toUInt32.toNat = c.a.toNat := by simp
  have hhigh : 2 ^ 24 * c.r.toNat ||| 2 ^ 16 * c.g.toNat =
      2 ^ 16 * (2 ^ 8 * c.r.toNat + c.g.toNat) := by
    rw [← Nat.two_pow_add_eq_or_of_lt (by omega)]
    omega
  have hmiddle : 2 ^ 16 * (2 ^ 8 * c.r.toNat + c.g.toNat) ||| 2 ^ 8 * c.b.toNat =
      2 ^ 8 * (2 ^ 8 * (2 ^ 8 * c.r.toNat + c.g.toNat) + c.b.toNat) := by
    rw [← Nat.two_pow_add_eq_or_of_lt (by omega)]
    omega
  rw [packed, UInt32.toNat_or, UInt32.toNat_or, UInt32.toNat_or, hred, hgreen, hblue, halpha,
    hhigh, hmiddle, ← Nat.two_pow_add_eq_or_of_lt ha]
  omega

/-- Packing loses nothing. -/
theorem ofPacked_packed (c : Rgba) : ofPacked c.packed = c := by
  have hr := c.r.toNat_lt
  have hg := c.g.toNat_lt
  have hb := c.b.toNat_lt
  have ha := c.a.toNat_lt
  have hpacked := toNat_packed c
  have hred : (c.packed >>> 24).toUInt8 = c.r := by
    rw [← UInt8.toNat_inj]
    simp [Nat.shiftRight_eq_div_pow, hpacked]
    omega
  have hgreen : (c.packed >>> 16).toUInt8 = c.g := by
    rw [← UInt8.toNat_inj]
    simp [Nat.shiftRight_eq_div_pow, hpacked]
    omega
  have hblue : (c.packed >>> 8).toUInt8 = c.b := by
    rw [← UInt8.toNat_inj]
    simp [Nat.shiftRight_eq_div_pow, hpacked]
    omega
  have halpha : c.packed.toUInt8 = c.a := by
    rw [← UInt8.toNat_inj]
    simp [hpacked]
  rw [ofPacked, hred, hgreen, hblue, halpha]

/-! ## The form that is shown -/

/-- The eight digits of a colour. -/
def digits (c : Rgba) : List Char := hexByte c.r ++ hexByte c.g ++ hexByte c.b ++ hexByte c.a

theorem toList_toText (c : Rgba) : c.toText.toList = '#' :: c.digits := String.toList_ofList

theorem length_digits (c : Rgba) : c.digits.length = 8 := by
  simp [digits, hexByte_eq]

/-- The digits spell the packed colour. -/
theorem hexDigits?_digits (c : Rgba) : Number.hexDigits? c.digits = some c.packed.toNat := by
  have hne : c.digits.isEmpty = false := by
    simp [digits, hexByte_eq]
  rw [Number.hexDigits?, hne, toNat_packed]
  simp [digits, Number.hexFrom?_append, hexFrom?_hexByte]

end Rgba

namespace Palette

theorem hex?_digits (c : Rgba) : hex? c.digits = some c := by
  rw [hex?, c.length_digits, c.hexDigits?_digits]
  have hword : c.packed.toNat.toUInt32 = c.packed := UInt32.ofNat_toNat
  simp only [hword, Rgba.ofPacked_packed]

theorem parseColor_hex (p : Palette) (c : Rgba) : p.parseColor c.toText = .ok (.literal c) := by
  rw [parseColor, c.toList_toText, ColorForm.ofChars]
  simp only [ColorForm.rgba?, hex?_digits]

/-- A colour that has been read as a name is shown by the token it was read from. -/
theorem eq_of_parseColor_named {p : Palette} {token name : String}
    (h : p.parseColor token = .ok (.named name)) : name = token := by
  unfold parseColor at h
  split at h
  · split at h
    · cases h
      rfl
    · cases h
  · split at h
    · cases h
    · cases h

/-- Whatever a token says of a colour, the colour is shown as it can be read again, to the same
effect. Colours that no palette has a name for are shown by the eight digits of their packed word,
and they are read as themselves. -/
theorem parseColor_toText (p : Palette) :
    (∀ token c, p.parseColor token = .ok c → p.parseColor c.toText = .ok c) ∧
    ∀ rgba : Rgba, p.parseColor rgba.toText = .ok (.literal rgba) ∧
      ∃ digits, rgba.toText.toList = '#' :: digits ∧ digits.length = 8 ∧
        Number.hexDigits? digits = some rgba.packed.toNat := by
  refine ⟨?_, ?_⟩
  · intro token c h
    cases c with
    | named name =>
        cases eq_of_parseColor_named h
        exact h
    | literal rgba => exact p.parseColor_hex rgba
  · intro rgba
    exact ⟨p.parseColor_hex rgba, rgba.digits, rgba.toList_toText, rgba.length_digits,
      rgba.hexDigits?_digits⟩

/-- A colour that is opaque because it was given by six digits. -/
theorem parseColor_toText_opaque :
    empty.parseColor "#05ff00" = .ok (.literal ⟨5, 255, 0, 255⟩) ∧
      (ColorSpec.literal ⟨5, 255, 0, 255⟩).toText = "#05ff00ff" ∧
      empty.parseColor "#05ff00ff" = .ok (.literal ⟨5, 255, 0, 255⟩) := by
  have hread : empty.parseColor "#05ff00" = .ok (.literal ⟨5, 255, 0, 255⟩) := by decide +kernel
  have hshown : (ColorSpec.literal ⟨5, 255, 0, 255⟩).toText = "#05ff00ff" := by decide +kernel
  exact ⟨hread, hshown, hshown ▸ (parseColor_toText empty).1 _ _ hread⟩

end Palette

end Storyboard
