import Storyboard.Session.Fault
import Storyboard.Text.Bytes

/-!
# Diagnostics

A fault is reported together with the line it occurred in: the number and text of the line,
and the span of bytes that it points at. An explicit span is cut to the line.
-/

namespace Storyboard

namespace ErrorKind

/-- The name of a kind. -/
def name : ErrorKind → String
  | malformed => "syntax"
  | reference => "reference"
  | argument => "argument"
  | resource => "resource"
  | externalTool => "external-tool"

/-- The code by which a reader can look up a kind. -/
def code : ErrorKind → String
  | malformed => "cellx::syntax"
  | reference => "cellx::reference"
  | argument => "cellx::argument"
  | resource => "cellx::resource"
  | externalTool => "cellx::external_tool"

/-- The label of the span of a fault. -/
def label : ErrorKind → String
  | malformed => "here"
  | reference => "not found"
  | argument => "invalid argument"
  | resource => "no such file"
  | externalTool => "while running this"

/-- Advice on how to avoid a fault. -/
def help? : ErrorKind → Option String
  | externalTool =>
      some "the layout tool must read a DOT graph on stdin and print positions on stdout"
  | _ => none

end ErrorKind

/-- A number of bytes at an offset. -/
structure Span where
  offset : Nat
  length : Nat
  deriving DecidableEq, Repr

/-- Where a statement stands: the name of its script, its line number and the line. -/
structure Site where
  script : String
  line : Nat
  text : String
  deriving DecidableEq, Repr

/-- A reported error. -/
structure Diagnostic where
  kind : ErrorKind
  message : String
  site : Site
  span : Span
  deriving DecidableEq, Repr

namespace Site

/-- The span of the whole line. -/
def wholeLine (s : Site) : Span := ⟨0, s.text.utf8ByteSize⟩

/-- The span of the first occurrence of a text, or of the whole line if there is none. -/
def tokenSpan (s : Site) (token : String) : Span :=
  if token.isEmpty then s.wholeLine
  else
    match Text.find? token.toList s.text.toList with
    | some offset => ⟨offset, token.utf8ByteSize⟩
    | none => s.wholeLine

/-- A span cut to the line. -/
def clampSpan (s : Site) (offset length : Nat) : Span :=
  let size := s.text.utf8ByteSize
  let offset := min offset size
  ⟨offset, min length (size - offset)⟩

/-- The first word of the line that differs from a text only in letter case, or the text. -/
def spellingOf (s : Site) (word : String) : String :=
  let lower := word.toList.map Char.toLower
  match (Text.words s.text.toList).find? fun w => w.map Char.toLower == lower with
  | some w => String.ofList w
  | none => word

/-- The bytes that a fault points at. -/
def span (s : Site) : Anchoring → Span
  | .line => s.wholeLine
  | .token text => s.tokenSpan text
  | .word text => s.tokenSpan (s.spellingOf text)
  | .bytes offset length => s.clampSpan offset length

/-- Reports a fault. -/
def report (s : Site) (f : Fault) : Diagnostic := ⟨f.kind, f.message, s, s.span f.anchor⟩

end Site

namespace Diagnostic

/-- The error in one line. -/
def display (d : Diagnostic) : String :=
  "line " ++ toString d.site.line ++ ": " ++ d.message

/-- The name under which the line is shown. -/
def source (d : Diagnostic) : String := d.site.script ++ ":" ++ toString d.site.line

end Diagnostic

end Storyboard
