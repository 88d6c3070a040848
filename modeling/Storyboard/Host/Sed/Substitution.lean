import Storyboard.Host.Sed.Script

/-!
# Replacing text

A substitution looks through a line from left to right and replaces matches by the pieces of its
replacement. An empty match right after another match is none. After an empty match the search
moves on by a character, or by a byte if the pattern can be matched byte by byte. A change of
letter case that concerns the first character waits for the next piece when it meets an empty
group.
-/

namespace Storyboard.Sed

/-! ## Letter case -/

/-- A character in the case asked for. -/
def CaseChange.apply : CaseChange → Char → Char
  | keep, c => c
  | upper, c => Text.toUpper c
  | lower, c => Text.toLower c

/-- A text in the case asked for. -/
def CaseStyle.apply (s : CaseStyle) : List Char → List Char
  | [] => []
  | c :: rest =>
      (if s.first = .keep then s.all else s.first).apply c :: rest.map s.all.apply

/-! ## Replacements -/

/-- The text of a replacement, given the texts of groups and the change of a first character
that is still waiting. -/
def replacementText (groupText : Nat → List Char) (waiting : CaseChange) :
    List ReplacementPiece → List Char
  | [] => []
  | piece :: rest =>
      let style : CaseStyle :=
        if piece.style.first = .keep then { piece.style with first := waiting } else piece.style
      let front := style.apply piece.text
      let style : CaseStyle := if piece.text.isEmpty then style else { style with first := .keep }
      match piece.group with
      | none => front ++ replacementText groupText .keep rest
      | some n =>
          let found := groupText n
          let waiting :=
            if found.isEmpty && piece.style.first ≠ .keep then style.first else .keep
          front ++ style.apply found ++ replacementText groupText waiting rest

/-- The text of a group of a match that begins at a place; zero is the whole match. -/
def Spot.groupText (s : Spot) (start : Place) (n : Nat) : List Char :=
  if n = 0 then start.upTo s.place else (s.groups.lookup n).getD []

/-! ## Lines -/

/-- Replaces matches from a place on, given how many came before and whether one has just ended
here. There is no answer if nothing is replaced; `fuel` bounds the steps. -/
def replaceFrom (s : Search) (t : Substitution) (seen : Nat) (justMatched : Bool) :
    Nat → Place → Option (List Char)
  | 0, _ => none
  | fuel + 1, p =>
      match s.find? p with
      | none => none
      | some (start, spot) =>
          let skipped := p.upTo start
          let found := start.upTo spot.place
          let isRepeat := found.isEmpty && justMatched && skipped.isEmpty
          let seen := if isRepeat then seen else seen + 1
          let isReplaced := !isRepeat && t.first ≤ seen
          let new :=
            if isReplaced then replacementText (spot.groupText start) .keep t.replacement else found
          let front := skipped ++ new
          if isReplaced && !t.everywhere then some (front ++ spot.place.after)
          else
            let more : Option (List Char) :=
              if !found.isEmpty then
                (replaceFrom s t seen true fuel spot.place).map (front ++ ·)
              else
                match spot.place.after with
                | [] => none
                | c :: rest =>
                    let (c, next) :=
                      if s.isBytewise then spot.place.overByte c rest
                      else (c, spot.place.past c rest)
                    (replaceFrom s t seen false fuel next).map (front ++ c :: ·)
            match more with
            | some text => some text
            | none => if isReplaced then some (front ++ spot.place.after) else none

/-- Replaces matches in a line, if there are any to replace. -/
def Substitution.replace? (t : Substitution) (s : Search) (line : List Char) :
    Option (List Char) :=
  (replaceFrom s t 0 false (Characters.length line + 2) (.front line)).map Characters.rejoin

end Storyboard.Sed
