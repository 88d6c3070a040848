import Storyboard.Host.Basic
import Storyboard.Host.ByteText
import Storyboard.Host.Options
import Storyboard.Host.Quotation

/-!
# The program that translates bytes

Bytes of the first set are replaced by those at the same place in the second, whose last byte
is repeated as needed; with options they are deleted or repeated ones squeezed instead. A set
is written as bytes, ranges, escapes, named classes and repetitions, and the order in which it
is written counts.
-/

namespace Storyboard.Tr

/-! ## Sets -/

/-- An element of a set as it is written. -/
inductive Element where
  | char (c : Char)
  | range (first last : Char)
  | named (name : String) (set : CharSet)
  /-- The characters that count as equal to a character, which is alone among bytes. -/
  | equal (c : Char)
  /-- A byte as often as needed, or a number of times. -/
  | repeated (c : Char) (count : Option Nat)
  deriving DecidableEq, Repr

/-- Why a set or a pair of sets is refused. -/
inductive SetError where
  | reversedRange (first last : Char)
  | missingClass
  | missingEqual
  | invalidClass (name : List Char)
  | invalidEqual (text : List Char)
  | invalidCount (text : List Char)
  | tooLong
  | repeatInFirst
  | repeatedTwice
  | repeatInSecond
  | equalInSecond
  | classInSecond
  | misalignedCase
  | emptySecond
  | classAtEnd
  | complementedClass
  deriving DecidableEq, Repr

/-- A byte in a message. -/
def shown (c : Char) : List Char :=
  if ' ' ≤ c && c ≤ '~' then [c] else '\\' :: Quotation.octal c.toNat.toUInt8

/-- Bytes in a message, the usual control characters by their letters. -/
def shownAll (cs : List Char) : String :=
  String.ofList (cs.flatMap fun c =>
    match c with
    | '\x07' => ['\\', 'a']
    | '\x08' => ['\\', 'b']
    | '\t' => ['\\', 't']
    | '\n' => ['\\', 'n']
    | '\x0b' => ['\\', 'v']
    | '\x0c' => ['\\', 'f']
    | '\r' => ['\\', 'r']
    | c => shown c)

/-- The wording of a refusal. -/
def SetError.message : SetError → String
  | reversedRange first last =>
      "range-endpoints of '" ++ String.ofList (shown first ++ '-' :: shown last)
        ++ "' are in reverse collating sequence order"
  | missingClass => "missing character class name '[::]'"
  | missingEqual => "missing equivalence class character '[==]'"
  | invalidClass name => "invalid character class " ++ Quotation.marked (shownAll name)
  | invalidEqual text =>
      shownAll text ++ ": equivalence class operand must be a single character"
  | invalidCount text =>
      "invalid repeat count " ++ Quotation.marked (shownAll text) ++ " in [c*n] construct"
  | tooLong => "too many characters in set"
  | repeatInFirst => "the [c*] repeat construct may not appear in string1"
  | repeatedTwice => "only one [c*] repeat construct may appear in string2"
  | repeatInSecond => "the [c*] construct may appear in string2 only when translating"
  | equalInSecond => "[=c=] expressions may not appear in string2 when translating"
  | classInSecond =>
      "when translating, the only character classes that may appear in"
        ++ "\nstring2 are 'upper' and 'lower'"
  | misalignedCase => "misaligned [:upper:] and/or [:lower:] construct"
  | emptySecond => "when not truncating set1, string2 must be non-empty"
  | classAtEnd =>
      "when translating with string1 longer than string2,"
        ++ "\nthe latter string must not end with a character class"
  | complementedClass =>
      "when translating with complemented character classes,"
        ++ "\nstring2 must map all characters in the domain to one"

/-! ## Reading sets -/

/-- A character of a set: whether it was escaped, and what it is. -/
abbrev SetChar := Bool × Char

/-- An escape that can be understood in several ways. -/
inductive Warning where
  /-- Three octal digits that do not fit into a byte. -/
  | ambiguousOctal (a b c : Char)
  | loneBackslash
  deriving DecidableEq, Repr

/-- The wording of a warning. -/
def Warning.message : Warning → String
  | ambiguousOctal a b c =>
      "warning: the ambiguous octal escape \\" ++ String.ofList [a, b, c]
        ++ " is being\n\tinterpreted as the 2-byte sequence \\0" ++ String.ofList [a, b]
        ++ ", " ++ String.ofList [c]
  | loneBackslash => "warning: an unescaped backslash at end of string is not portable"

/-- The byte of an octal escape of at most three digits, how many it takes, and a warning if a
third one does not fit into a byte. -/
def octal? (cs : List Char) : Option (Char × Nat × List Warning) :=
  let value (ds : List Char) : Nat := ds.foldl (fun n c => n * 8 + ByteText.digitValue c) 0
  match (cs.take 3).takeWhile ByteText.isOctal with
  | [] => none
  | [a, b, c] =>
      if value [a, b, c] < 256 then some (Char.ofNat (value [a, b, c]), 3, [])
      else some (Char.ofNat (value [a, b]), 2, [.ambiguousOctal a b c])
  | ds => some (Char.ofNat (value ds), ds.length, [])

/-- The character that a letter stands for after a backslash. -/
def escaped (c : Char) : Char :=
  if c = 'b' then '\x08' else (ByteText.control? c).getD c

/-- Replaces escapes by the characters they stand for; `skip` characters have been read. -/
def unescape (skip : Nat) : List Char → List SetChar × List Warning
  | [] => ([], [])
  | c :: rest =>
      match skip with
      | n + 1 => unescape n rest
      | 0 =>
          if c ≠ '\\' then
            let (cs, warnings) := unescape 0 rest
            ((false, c) :: cs, warnings)
          else
            match rest with
            | [] => ([(false, '\\')], [.loneBackslash])
            | d :: _ =>
                let (x, taken, more) := (octal? rest).getD (escaped d, 1, [])
                let (cs, warnings) := unescape taken rest
                ((true, x) :: cs, more ++ warnings)

/-- The characters up to a mark and a closing bracket, and what follows them. -/
def upToClose? (mark : Char) : List SetChar → Option (List Char × List SetChar)
  | x :: y :: rest =>
      if x = (false, mark) && y = (false, ']') then some ([], rest)
      else (upToClose? mark (y :: rest)).map fun (t, rest) => (x.2 :: t, rest)
  | _ => none

/-- The greatest count of a repetition, and the greatest size of a set. -/
def greatestCount : Nat := 18446744073709551613

/-- The count of a repetition: octal if it starts with a zero, and as often as needed if it is
zero or left out. -/
def countOf? (text : List Char) : Option (Option Nat) :=
  let digits := match text with
    | '+' :: c :: rest => c :: rest
    | _ => text
  let octal := text.head? == some '0'
  let value := digits.foldl (fun n c => n * (if octal then 8 else 10) + ByteText.digitValue c) 0
  if !digits.all (if octal then ByteText.isOctal else Char.isDigit) || greatestCount < value then
    none
  else some (if value = 0 then none else some value)

/-- Reads a repetition after its opening bracket, if it is one. -/
def repetition? : List SetChar → Option (Except SetError (Element × List SetChar))
  | (_, c) :: (false, '*') :: rest =>
      let isPlain (u : SetChar) : Bool := !u.1 && u.2 ≠ ']'
      match rest.dropWhile isPlain with
      | (false, _) :: more =>
          let text := (rest.takeWhile isPlain).map Prod.snd
          some (match countOf? text with
            | some count => .ok (.repeated c count, more)
            | none => .error (.invalidCount text))
      | _ => none
  | _ => none

/-- Whether a text starts with a star, digits and a closing bracket. -/
def isCount : List SetChar → Bool
  | (false, '*') :: rest => (rest.dropWhile fun u => u.2.isDigit).head? == some (false, ']')
  | _ => false

/-- Reads a class after its opening bracket and its mark, which is a colon or an equals sign,
if it is one. -/
def class? (mark : Char) (cs : List SetChar) : Option (Except SetError (Element × List SetChar)) :=
  match upToClose? mark cs with
  | none => none
  | some ([], _) => some (.error (if mark = ':' then .missingClass else .missingEqual))
  | some (text, rest) =>
      let element := match mark, text with
        | '=', [c] => some (.equal c)
        | '=', _ => none
        | _, _ =>
            let name := String.ofList text
            (ByteText.classOf? name).map fun s => .named name s
      match element with
      | some element => some (.ok (element, rest))
      | none =>
          if isCount cs then none
          else some (.error (if mark = ':' then .invalidClass text else .invalidEqual text))

/-- Reads a construct after its opening bracket, if it is one. -/
def bracket? (cs : List SetChar) : Option (Except SetError (Element × List SetChar)) :=
  match cs with
  | (false, mark) :: rest =>
      if mark = ':' || mark = '=' then (class? mark rest).orElse fun _ => repetition? cs
      else repetition? cs
  | _ => repetition? cs

/-- Reads the elements of a set; `fuel` bounds their number. No construct and no range has less
than three characters. -/
def readElements : Nat → List SetChar → Except SetError (List Element)
  | 0, _ => .ok []
  | _, [] => .ok []
  | fuel + 1, (isEscaped, c) :: rest =>
      match if !isEscaped && c = '[' && 2 ≤ rest.length then bracket? rest else none with
      | some (.error e) => .error e
      | some (.ok (element, rest)) => do
          let others ← readElements fuel rest
          .ok (element :: others)
      | none =>
          match rest with
          | (false, '-') :: (_, d) :: more =>
              if d < c then .error (.reversedRange c d)
              else do
                let others ← readElements fuel more
                .ok (.range c d :: others)
          | _ => do
              let others ← readElements fuel rest
              .ok (.char c :: others)

/-- The elements that an operand writes. -/
def elements (cs : List SetChar) : Except SetError (List Element) :=
  readElements (cs.length + 1) cs

/-! ## The characters of a set -/

/-- A letter case. -/
inductive LetterCase where
  | lower
  | upper
  deriving DecidableEq, Repr

/-- The letter case whose class an element is. -/
def Element.letterCase? : Element → Option LetterCase
  | named "lower" _ => some .lower
  | named "upper" _ => some .upper
  | _ => none

/-- Whether an element is a named class. -/
def Element.isClass : Element → Bool
  | named .. => true
  | _ => false

/-- The number of characters of an element; a repetition without count has none. -/
def Element.size : Element → Nat
  | char _ | equal _ => 1
  | range first last => last.toNat + 1 - first.toNat
  | named _ s => (ByteText.members s).length
  | repeated _ count => count.getD 0

/-- The characters of an element. -/
def Element.expand : Element → List Char
  | char c | equal c => [c]
  | range first last =>
      (List.range (last.toNat + 1 - first.toNat)).map fun i => Char.ofNat (first.toNat + i)
  | named _ s => ByteText.members s
  | repeated c count => List.replicate (count.getD 0) c

/-- The number of characters of a set. -/
def size (es : List Element) : Nat := (es.map Element.size).foldr (· + ·) 0

/-- The characters of a set in the order in which it is written. -/
def expand (es : List Element) : List Char := es.flatMap Element.expand

/-- How many repetitions of a set have no count. -/
def openRepetitions (es : List Element) : Nat :=
  es.countP fun e => match e with
    | .repeated _ none => true
    | _ => false

/-- Gives the repetitions without count a number of characters. -/
def fill (n : Nat) (es : List Element) : List Element :=
  es.map fun e => match e with
    | .repeated c none => .repeated c (some n)
    | e => e

/-- The characters outside a set. -/
def complement (s : List Char) : List Char :=
  (ByteText.members .any).filter fun x => !s.contains x

/-! ## Translating -/

/-- Drops a character of a set that repeats the one before it. -/
def squeeze (s : List Char) : Option Char → List Char → List Char
  | _, [] => []
  | previous, c :: rest =>
      if previous == some c && s.contains c then squeeze s previous rest
      else c :: squeeze s (some c) rest

/-- The options of a call. -/
structure Call where
  complement : Bool := false
  delete : Bool := false
  squeeze : Bool := false
  truncate : Bool := false
  operands : List String := []
  deriving DecidableEq, Repr

/-- A character of a set together with the element that it belongs to: whether it is the first
one of it, and the letter case whose class the element is. -/
structure Slot where
  char : Char
  isFirst : Bool
  letterCase : Option LetterCase
  deriving DecidableEq, Repr

/-- The characters of a set with their elements. -/
def slots (es : List Element) : List Slot :=
  es.flatMap fun e =>
    match e.expand with
    | [] => []
    | c :: rest => ⟨c, true, e.letterCase?⟩ :: rest.map fun d => ⟨d, false, e.letterCase?⟩

/-- The slots after the rest of an element. -/
def afterElement (ss : List Slot) : List Slot := ss.dropWhile fun s => !s.isFirst

/-- Whether every class of a letter case in the second set stands where one begins in the first.
`fuel` bounds the length. -/
def isAligned : Nat → List Slot → List Slot → Bool
  | 0, _, _ => true
  | _, _, [] => true
  | _, [], b :: _ => b.letterCase.isNone
  | fuel + 1, a :: as, b :: bs =>
      if b.letterCase.isSome then
        a.isFirst && a.letterCase.isSome && isAligned fuel (afterElement as) (afterElement bs)
      else isAligned fuel as bs

/-- The letters of a case with their forms in the other one. -/
def casePairs (c : LetterCase) : List (Char × Char) :=
  (List.range 26).map fun i =>
    let small := Char.ofNat (97 + i)
    let capital := Char.ofNat (65 + i)
    match c with
    | .lower => (small, capital)
    | .upper => (capital, small)

/-- What each character of the first set is replaced by; later pairs count more. `fuel` bounds
the length. -/
def pairs : Nat → List Slot → List Slot → List (Char × Char)
  | 0, _, _ => []
  | fuel + 1, a :: as, b :: bs =>
      let here := match a.letterCase, b.letterCase with
        | some c, some d => if c = d then [(a.char, b.char)] else casePairs c
        | _, _ => [(a.char, b.char)]
      if b.letterCase.isSome then here ++ pairs fuel (afterElement as) (afterElement bs)
      else here ++ pairs fuel as bs
  | _, _, _ => []

/-- The last element of a set repeated so that the set grows by a number of characters. -/
def lengthen (es : List Element) (n : Nat) : Except SetError (List Element) :=
  match es.getLast? with
  | none => .error .emptySecond
  | some (.named ..) => .error .classAtEnd
  | some (.char c) | some (.equal c) | some (.range _ c) | some (.repeated c _) =>
      if size es = 0 then .error .emptySecond else .ok (es ++ [.repeated c (some n)])

/-- The number of characters of the first set, complemented if the call says so. -/
def Call.domainSize (c : Call) (first : List Element) : Nat :=
  if c.complement then (Tr.complement (expand first)).length else size first

/-- The second set of a translation, checked against the first and made as long. -/
def Call.image (c : Call) (first second : List Element) : Except SetError (List Element) := do
  let needed := c.domainSize first
  if second.any fun e => e matches .equal _ then .error .equalInSecond
  if second.any fun e => e.isClass && e.letterCase?.isNone then .error .classInSecond
  let isWrong := !c.complement && second.any Element.isClass
    && !isAligned (size first + size second + 1) (slots first) (slots second)
  if isWrong then .error .misalignedCase
  let image ←
    if !c.truncate && size second < needed then lengthen second (needed - size second)
    else .ok second
  let isUniform := match expand image with
    | [] => false
    | x :: rest => rest.all (· = x)
  if c.complement && first.any Element.isClass && !(size image = needed && isUniform) then
    .error .complementedClass
  .ok image

/-- What each byte is replaced by. -/
def Call.table (c : Call) (first image : List Element) : List (Char × Char) :=
  if c.complement then (Tr.complement (expand first)).zip (expand image)
  else (pairs (size first + 1) (slots first) (slots image)).reverse

/-- Processes a text with the sets of a call. -/
def Call.process (c : Call) (first : List Element) (second : Option (List Element))
    (input : List Char) : Except SetError (List Char) := do
  if greatestCount < size first then .error .tooLong
  if 0 < openRepetitions first then .error .repeatInFirst
  let members : List Char :=
    let s := (expand first).eraseDups
    if c.complement then Tr.complement s else s
  let kept := input.filter fun x => !members.contains x
  match second with
  | none => .ok (if c.delete then kept else Tr.squeeze members none input)
  | some second =>
      if greatestCount < size second then .error .tooLong
      if 1 < openRepetitions second then .error .repeatedTwice
      if c.delete then
        if 0 < openRepetitions second then .error .repeatInSecond
        .ok (Tr.squeeze (expand second).eraseDups none kept)
      else
        let image ← c.image first (fill (c.domainSize first - size second) second)
        let table := c.table first image
        let output := input.map fun x => (table.lookup x).getD x
        .ok (if c.squeeze then Tr.squeeze (expand image).eraseDups none output else output)

/-! ## The program -/

/-- Why a call does not come to translating. -/
inductive CallError where
  | option (e : ArgumentError)
  | missingOperand
  | missingSecond (first : String) (squeezing : Bool)
  | extraOperand (text : String) (whenDeleting : Bool)
  /-- Information about the program is asked for. -/
  | information
  deriving DecidableEq, Repr

/-- The wording of a refused call. -/
def CallError.message : CallError → String
  | option e => e.message
  | missingOperand => "missing operand"
  | missingSecond first squeezing =>
      "missing operand after " ++ Quotation.marked first ++ "\nTwo strings must be given when "
        ++ (if squeezing then "both deleting and squeezing repeats." else "translating.")
  | extraOperand text whenDeleting =>
      "extra operand " ++ Quotation.marked text
        ++ (if whenDeleting then
          "\nOnly one string may be given when deleting without squeezing repeats."
        else "")
  | information => ""

/-- What the program leaves if a call does not come to translating. -/
def CallError.result : CallError → ProgramResult
  | information => ⟨0, [], ""⟩
  | e => ⟨1, [], "tr: " ++ e.message ++ "\nTry 'tr --help' for more information."⟩

/-- The options of the program, which stand before its operands. -/
def options : OptionTable where
  letters := "AcCdst".toList.map fun c => (c, .none)
  words :=
    [("complement", 'c', .none), ("delete", 'd', .none), ("squeeze-repeats", 's', .none),
     ("truncate-set1", 't', .none), ("help", 'h', .none), ("version", 'h', .none)]
  mixed := false

/-- Sets the option of a letter. -/
def Call.set (c : Call) : FoundOption → Except CallError Call
  | .error e => .error (.option e)
  | .ok (letter, _) =>
      match letter with
      | 'c' | 'C' => .ok { c with complement := true }
      | 'd' => .ok { c with delete := true }
      | 'h' => .error .information
      | 's' => .ok { c with squeeze := true }
      | 't' => .ok { c with truncate := true }
      | _ => .ok c

/-- Checks the number of operands. -/
def Call.checkOperands (c : Call) : Except CallError Unit :=
  let deletesOnly := c.delete && !c.squeeze
  match c.operands with
  | [] => .error .missingOperand
  | [a] => if c.delete = c.squeeze then .error (.missingSecond a c.squeeze) else .ok ()
  | [_, b] => if deletesOnly then .error (.extraOperand b true) else .ok ()
  | _ :: b :: x :: _ => .error (.extraOperand (if deletesOnly then b else x) false)

/-- Reads and checks the arguments of a call. -/
def Call.read (args : List String) : Except CallError Call := do
  let (found, operands) := options.read args
  let c ← found.foldlM Call.set {}
  let c := { c with operands := operands }
  c.checkOperands
  .ok c

/-- The sets of a call, with the warnings up to the first that is wrong. -/
def readSets : List String → List Warning × Except SetError (List (List Element))
  | [] => ([], .ok [])
  | operand :: rest =>
      let (cs, warnings) := unescape 0 (ByteText.ofString operand)
      match elements cs with
      | .error e => (warnings, .error e)
      | .ok es =>
          let (more, others) := readSets rest
          (warnings ++ more, others.map fun others => es :: others)

/-- Runs the program. -/
def run : Program := fun args input =>
  match Call.read args with
  | .error e => e.result
  | .ok c =>
      let (warnings, sets) := readSets c.operands
      let output := do
        let sets ← sets
        c.process (sets.head?.getD []) sets.tail.head? (ByteText.ofBytes input)
      let lines (es : List String) : String := "\n".intercalate (es.map fun e => "tr: " ++ e)
      match output with
      | .error e => ⟨1, [], lines (warnings.map Warning.message ++ [e.message])⟩
      | .ok output => ⟨0, ByteText.toBytes output, lines (warnings.map Warning.message)⟩

end Storyboard.Tr
