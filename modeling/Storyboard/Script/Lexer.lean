import Storyboard.Script.Statement
import Storyboard.Text.Blank

/-!
# Reading lines by words

A line is cut at semicolons outside quotes, and each part into tokens at blanks outside
quotes. A quote character opens a quotation only at the start of a token, so `don't` is a
plain word; the quotation ends at the same character, which leaves the token open for more.
A line or part whose first visible character is `#` is a comment. The first token of a part
selects its verb.

Both cuts walk the characters once and keep their own state: the previous character while
cutting at semicolons, the token read so far while cutting at blanks.
-/

namespace Storyboard

/-- Why a line cannot be cut into statements. -/
inductive LexError where
  /-- A quotation is never closed; its part has it at this column, counted in bytes from one. -/
  | unterminatedQuote (column : Nat)
  | unknownVerb (word : String)
  | ambiguousVerb (word : String) (candidates : List Verb)
  deriving DecidableEq, Repr

/-- The wording of a lexical error. -/
def LexError.message : LexError → String
  | unterminatedQuote column => "unterminated string starting at column " ++ toString column
  | unknownVerb word => "illegal command '" ++ word ++ "'"
  | ambiguousVerb word candidates =>
      "ambiguous command '" ++ word ++ "' (could be "
        ++ ", ".intercalate (candidates.map Verb.name) ++ ")"

namespace Lexer

/-- The two characters that quote a token. -/
def isQuote (c : Char) : Bool := c = '\x22' || c = '\x27'

/-! ## Cutting at semicolons -/

/-- Whether a token may start after the given character. -/
def startsToken : Option Char → Bool
  | none => true
  | some c => Text.isBlank c || c = ';'

/-- Adds a character to the first of the parts that follow it. -/
def extendFirst (c : Char) : List (List Char) → List (List Char)
  | [] => [[c]]
  | part :: rest => (c :: part) :: rest

/-- The parts of a line, given the character before it and the quotation it starts in. -/
def partsFrom (previous quote : Option Char) : List Char → List (List Char)
  | [] => [[]]
  | c :: rest =>
      match quote with
      | some q => extendFirst c (partsFrom (some c) (if c = q then none else some q) rest)
      | none =>
          if isQuote c && startsToken previous then
            extendFirst c (partsFrom (some c) (some c) rest)
          else if c = ';' then [] :: partsFrom (some c) none rest
          else extendFirst c (partsFrom (some c) none rest)

/-- The parts of a line between semicolons outside quotes, blanks included. -/
def parts (line : List Char) : List (List Char) := partsFrom none none line

/-! ## Cutting at blanks -/

/-- The tokens of a part from a byte offset on, given the token read so far, last character
first, and the open quotation with the offset where it starts. -/
def tokensFrom (offset : Nat) (token : Option (List Char)) (quote : Option (Char × Nat)) :
    List Char → Except LexError (List (List Char))
  | [] =>
      match quote with
      | some (_, start) => .error (.unterminatedQuote (start + 1))
      | none => .ok (match token with | some t => [t.reverse] | none => [])
  | c :: rest =>
      let next := offset + c.utf8Size
      match quote, token with
      | some (q, start), _ =>
          if c = q then tokensFrom next token none rest
          else tokensFrom next (token.map (c :: ·)) (some (q, start)) rest
      | none, none =>
          if isQuote c then tokensFrom next (some []) (some (c, offset)) rest
          else if Text.isBlank c then tokensFrom next none none rest
          else tokensFrom next (some [c]) none rest
      | none, some t =>
          if Text.isBlank c then (tokensFrom next none none rest).map (t.reverse :: ·)
          else tokensFrom next (some (c :: t)) none rest

/-- The tokens of a part, with their quotes removed. -/
def tokens (part : List Char) : Except LexError (List (List Char)) := tokensFrom 0 none none part

/-! ## Statements -/

/-- Whether a line or part is a comment. -/
def isComment (part : List Char) : Bool := (Text.trimStart part).head? = some '#'

/-- The verb that a command word selects. -/
def verb (word : List Char) : Except LexError Verb :=
  match Verb.ofWord? word with
  | some v => .ok v
  | none =>
      let lower := word.map Char.toLower
      match Verb.candidates lower with
      | [] => .error (.unknownVerb (String.ofList lower))
      | c :: cs => .error (.ambiguousVerb (String.ofList lower) (c :: cs))

/-- The statement that a list of tokens spells; there is none in an empty list. -/
def statement? (line : Nat) : List (List Char) → Except LexError (Option Statement)
  | [] => .ok none
  | word :: args => (verb word).map fun v => some ⟨v, args.map String.ofList, line⟩

/-- The statement of one part; comments and blank parts have none. -/
def partStatement? (line : Nat) (part : List Char) : Except LexError (Option Statement) :=
  if isComment part then .ok none else tokens part >>= statement? line

/-- The statements of a list of parts, up to the first that cannot be read. -/
def partStatements (line : Nat) : List (List Char) → Except LexError (List Statement)
  | [] => .ok []
  | part :: rest => do
      let first ← partStatement? line part
      let others ← partStatements line rest
      .ok (first.toList ++ others)

/-- The statements of a line. -/
def statements (line : Nat) (text : List Char) : Except LexError (List Statement) :=
  if isComment text then .ok [] else partStatements line (parts text)

end Lexer

end Storyboard
