import Storyboard.Proofs.Script.Numerals
import Storyboard.Proofs.Session.Colors
import Storyboard.Proofs.Session.Overwriting
import Storyboard.Proofs.Session.Settings

/-!
# Colours that a script defines

A palette statement gives a colour to any token, but a token stands for a colour in several ways:
what begins with a hash sign, has a comma or is spelled like a number says a colour itself, and the
palette is not asked about it. So a colour can be used by its name if the name is plain, and a
colour that is given to another token is never found. In no case does a definition change what other
tokens stand for.

Main results:

- Theorem `Palette.ofChars_eq_name_iff`: the tokens that the palette is asked about.
- Theorem `Palette.parseColor_congr`: what a token stands for depends on its own colour only.
- Theorem `Session.palette_defines`: what a palette statement does.
-/

namespace Storyboard

namespace Palette

/-- A token that says no colour itself. -/
structure Plain (token : String) : Prop where
  unmarked : token.toList.head? ≠ some '#'
  unlisted : ',' ∉ token.toList
  unnumbered : ¬ Number.Spelled token

/-- The palette is asked about plain tokens. -/
theorem ofChars_eq_name_iff (token : String) :
    ColorForm.ofChars token.toList = .name ↔ Plain token := by
  have hnumber : Number.ofChars? token.toList = none ↔ ¬ Number.Spelled token :=
    Number.ofToken?_eq_none_iff token
  unfold ColorForm.ofChars
  constructor
  · intro h
    split at h
    · cases h
    · next hmark =>
      split at h
      · cases h
      · next hcomma =>
        split at h
        · cases h
        · next hnone =>
          refine ⟨?_, by simpa using hcomma, hnumber.mp hnone⟩
          intro hhead
          obtain ⟨digits, hdigits⟩ := List.head?_eq_some_iff.mp hhead
          exact hmark digits hdigits
  · rintro ⟨hmark, hcomma, hnone⟩
    split
    · next digits hdigits =>
      rw [hdigits] at hmark
      exact absurd rfl hmark
    · rw [if_neg (by simpa using hcomma), hnumber.mpr hnone]

/-- A plain token stands for the colour that the palette has under it. -/
theorem parseColor_of_plain {token : String} (h : Plain token) (p : Palette) :
    p.parseColor token =
      if p.contains token then .ok (.named token) else .error (.undefinedColor token) := by
  rw [parseColor, (ofChars_eq_name_iff token).mpr h]

/-- Any other token stands for a colour that it says itself, or for none. -/
theorem parseColor_of_not_plain {token : String} (h : ¬ Plain token) (p : Palette) :
    p.parseColor token =
      match (ColorForm.ofChars token.toList).rgba? with
      | some rgba => .ok (.literal rgba)
      | none => .error (.badColor token) := by
  rw [← ofChars_eq_name_iff] at h
  unfold parseColor
  split
  · next hname => exact absurd hname h
  · rfl

/-- What a token stands for depends on its own colour only. -/
theorem parseColor_congr {p q : Palette} {token : String} (h : p.rgba? token = q.rgba? token) :
    p.parseColor token = q.parseColor token := by
  by_cases hplain : Plain token
  · have hcontains : p.contains token = q.contains token := congrArg Option.isSome h
    rw [parseColor_of_plain hplain, parseColor_of_plain hplain, hcontains]
  · rw [parseColor_of_not_plain hplain, parseColor_of_not_plain hplain]

theorem rgba?_define (p : Palette) (name : String) (rgba : Rgba) (token : String) :
    (p.define name rgba).rgba? token = if token = name then some rgba else p.rgba? token :=
  Table.get?_insert ..

end Palette

namespace Session

variable {s s' : Session} {limit line : Nat} {args : List String}

/-- A palette statement that succeeds gives its first argument the colour that the others spell,
and changes nothing else but the name referenced last. -/
theorem execute_palette (h : s.execute limit ⟨.palette, args, line⟩ = some (s', none)) :
    ∃ name values rgba, args = name :: values ∧ Palette.readColor values = .ok rgba ∧
      s' = { s with
        palette := s.palette.define name rgba
        scene := { s.scene with lastName := s'.scene.lastName } } := by
  unfold execute at h
  cases hread : Action.read s.stage .palette args with
  | error f =>
      rw [hread] at h
      cases h
  | ok action =>
      have hpalette : Action.readPalette args = .ok action := hread
      unfold Action.readPalette at hpalette
      split at hpalette
      · next name values =>
        obtain ⟨rgba, hrgba, rfl⟩ := exists_of_map_eq_ok hpalette
        rw [hread] at h
        cases h
        exact ⟨name, values, rgba, rfl, hrgba, remember_eq _ _⟩
      · cases hpalette

/-- A colour that a palette statement defines is used by its name exactly if the name is plain;
otherwise the name stands for what it stood for before, and not for the colour that it has been
given. Other tokens stand for what they stood for, and have the colours that they had. -/
theorem palette_defines (h : s.execute limit ⟨.palette, args, line⟩ = some (s', none)) :
    ∃ name values rgba, args = name :: values ∧ Palette.readColor values = .ok rgba ∧
      s'.palette.rgba? name = some rgba ∧
      (Palette.Plain name → s'.palette.parseColor name = .ok (.named name)) ∧
      (¬ Palette.Plain name → s'.palette.parseColor name = s.palette.parseColor name ∧
        ∀ other, s'.palette.parseColor name ≠ .ok (.named other)) ∧
      ∀ token, token ≠ name → s'.palette.parseColor token = s.palette.parseColor token ∧
        s'.palette.rgba? token = s.palette.rgba? token := by
  obtain ⟨name, values, rgba, hargs, hrgba, hs'⟩ := execute_palette h
  have hcolor : ∀ token, s'.palette.rgba? token =
      if token = name then some rgba else s.palette.rgba? token := by
    rw [hs']
    exact s.palette.rgba?_define name rgba
  have hown : s'.palette.rgba? name = some rgba := (hcolor name).trans (if_pos rfl)
  refine ⟨name, values, rgba, hargs, hrgba, hown, ?_, ?_, ?_⟩
  · intro hplain
    have hcontains : s'.palette.contains name := Option.isSome_of_eq_some hown
    rw [Palette.parseColor_of_plain hplain, if_pos hcontains]
  · intro hliteral
    have hsame := Palette.parseColor_of_not_plain hliteral
    refine ⟨(hsame s'.palette).trans (hsame s.palette).symm, fun other hnamed => ?_⟩
    rw [hsame] at hnamed
    split at hnamed <;> cases hnamed
  · intro token htoken
    have hkept : s'.palette.rgba? token = s.palette.rgba? token :=
      (hcolor token).trans (if_neg htoken)
    exact ⟨Palette.parseColor_congr hkept, hkept⟩

open Scene.Reachable

/-- A name for orange. -/
theorem palette_defines_brand : ∃ s' rgba,
    drawing.execute 1 ⟨.palette, ["brand", "255", "128", "0"], 1⟩ = some (s', none) ∧
    Palette.readColor ["255", "128", "0"] = .ok rgba ∧
    s'.palette.parseColor "brand" = .ok (.named "brand") ∧
    s'.palette.rgba? "brand" = some rgba ∧
    s'.palette.parseColor "white" = drawing.palette.parseColor "white" := by
  have hdone : (drawing.execute 1 ⟨.palette, ["brand", "255", "128", "0"], 1⟩).any
      (fun r => r.2.isNone) = true := by decide +kernel
  obtain ⟨s', hexecute⟩ := exists_of_any hdone
  obtain ⟨name, values, rgba, hargs, hrgba, hown, hplain, -, hothers⟩ := palette_defines hexecute
  cases hargs
  have hbrand : Palette.Plain "brand" := by
    rw [← Palette.ofChars_eq_name_iff]
    decide +kernel
  exact ⟨s', rgba, hexecute, hrgba, hplain hbrand, hown, (hothers "white" (by decide)).1⟩

/-- Colours that are given to a number and to a list are not found: the number is a packed colour,
and the list is wrong. -/
theorem unused_palette_names :
    (∃ s', drawing.execute 1 ⟨.palette, ["12", "255", "0", "0"], 1⟩ = some (s', none) ∧
      (s'.palette.rgba? "12").isSome ∧ s'.palette.parseColor "12" ≠ .ok (.named "12")) ∧
    ∃ s', drawing.execute 1 ⟨.palette, ["x,y", "255", "0", "0"], 1⟩ = some (s', none) ∧
      (s'.palette.rgba? "x,y").isSome ∧
      s'.palette.parseColor "x,y" = .error (.badColor "x,y") := by
  have hnumber : ¬ Palette.Plain "12" := by
    rw [← Palette.ofChars_eq_name_iff]
    decide +kernel
  have hlist : ¬ Palette.Plain "x,y" := by
    rw [← Palette.ofChars_eq_name_iff]
    decide +kernel
  have hwrong : (Palette.ColorForm.ofChars ("x,y" : String).toList).rgba? = none := by
    decide +kernel
  have hdone : ∀ name ∈ ["12", "x,y"],
      (drawing.execute 1 ⟨.palette, [name, "255", "0", "0"], 1⟩).any (fun r => r.2.isNone) =
        true := by decide +kernel
  have hdefined : ∀ {name s'}, drawing.execute 1 ⟨.palette, [name, "255", "0", "0"], 1⟩ =
      some (s', none) → (s'.palette.rgba? name).isSome := by
    intro name s' h
    obtain ⟨name', values, rgba, hargs, -, hs'⟩ := execute_palette h
    cases hargs
    rw [hs']
    simp only [Palette.rgba?_define, if_true, Option.isSome_some]
  obtain ⟨s', hexecute⟩ := exists_of_any (hdone "12" (by simp))
  obtain ⟨s'', hexecute'⟩ := exists_of_any (hdone "x,y" (by simp))
  refine ⟨⟨s', hexecute, hdefined hexecute, ?_⟩, s'', hexecute', hdefined hexecute', ?_⟩
  · rw [Palette.parseColor_of_not_plain hnumber]
    split <;> simp
  · rw [Palette.parseColor_of_not_plain hlist, hwrong]

end Session

end Storyboard
