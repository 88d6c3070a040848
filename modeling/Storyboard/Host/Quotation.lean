import Storyboard.Text.Printable

/-!
# Operands in messages

A program that complains about an operand quotes it, so that it can be told from the message.
One way of quoting is that of a command interpreter, which could read the quoted word again and
leaves a plain word as it is; the other one sets the operand between curved marks.
-/

namespace Storyboard.Quotation

/-- Whether a character at a position of a word means nothing to a command interpreter. -/
def isPlain (first alone : Bool) (c : Char) : Bool :=
  if c = '\x7b' || c = '\x7d' then !alone
  else if c = '#' || c = '~' then !first
  else if c.isAlphanum then true
  else if c.toNat < 128 then ['%', '+', ',', '-', '.', '/', '@', ']', '_'].contains c
  else Text.isPrintable c

/-- Whether a word needs no quotes. -/
def isPlainWord (cs : List Char) : Bool :=
  match cs with
  | [] => false
  | c :: rest => isPlain true rest.isEmpty c && rest.all (isPlain false false)

/-- Whether a character stands for itself between double quotes. -/
def isHarmless (first alone : Bool) (c : Char) : Bool :=
  if c = '\x7b' || c = '\x7d' then alone
  else if c = '#' || c = '~' then first
  else c = ' ' || c = '\'' || c = ':' || isPlain first alone c

/-- Whether every character of a word stands for itself between double quotes. -/
def isHarmlessWord (cs : List Char) : Bool :=
  match cs with
  | [] => true
  | c :: rest => isHarmless true rest.isEmpty c && rest.all (isHarmless false false)

/-- The three octal digits of a byte. -/
def octal (b : UInt8) : List Char :=
  let n := b.toNat
  [n / 64, n / 8 % 8, n % 8].map fun d => Char.ofNat (d + 48)

/-- A character that cannot be shown, written after a backslash. -/
def escape (c : Char) : List Char :=
  match c with
  | '\x07' => ['\\', 'a']
  | '\x08' => ['\\', 'b']
  | '\t' => ['\\', 't']
  | '\n' => ['\\', 'n']
  | '\x0b' => ['\\', 'v']
  | '\x0c' => ['\\', 'f']
  | '\r' => ['\\', 'r']
  | c => (String.ofList [c]).toUTF8.toList.flatMap fun b => '\\' :: octal b

/-- The rest of a word between single quotes; `escaping` tells whether an escaped part is open. -/
def singleQuoted (escaping : Bool) : List Char → List Char
  | [] => ['\'']
  | c :: rest =>
      if !Text.isPrintable c then
        (if escaping then [] else ['\'', '$', '\'']) ++ escape c ++ singleQuoted true rest
      else if c = '\'' then ['\'', '\\', '\'', '\''] ++ singleQuoted false rest
      else (if escaping then ['\'', '\''] else []) ++ c :: singleQuoted false rest

/-- A word as a command interpreter reads it. -/
def asWord (s : String) : String :=
  let cs := s.toList
  if isPlainWord cs then s
  else if cs.contains '\'' && isHarmlessWord cs then "\x22" ++ s ++ "\x22"
  else String.ofList ('\'' :: singleQuoted false cs)

/-- A word between curved marks. -/
def marked (s : String) : String :=
  let body := s.toList.flatMap fun c =>
    if c = '\\' || c = '’' then ['\\', c] else if Text.isPrintable c then [c] else escape c
  "‘" ++ String.ofList body ++ "’"

end Storyboard.Quotation
