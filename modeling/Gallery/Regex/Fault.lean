import Gallery.Text.Basic

/-!
# Faults of regular expressions

What can be wrong with a regular expression, and the report that shows where.  A position in the
text of an expression is a line and a column, both counted from one; a span is what lies between
two positions.
-/

namespace Gallery.Regex

/-! ### Positions -/

/-- A position in a text. -/
structure Position where
  line : Nat
  column : Nat
  deriving DecidableEq, Repr, Inhabited

/-- The start of a text. -/
def Position.start : Position :=
  ⟨1, 1⟩

/-- The position behind a character. -/
def Position.after (p : Position) (c : Char) : Position :=
  if c = '\n' then ⟨p.line + 1, 1⟩ else ⟨p.line, p.column + 1⟩

/-- What lies between two positions. -/
structure Span where
  start : Position
  stop : Position
  deriving DecidableEq, Repr, Inhabited

/-- The span lies on one line. -/
def Span.isOneLine (s : Span) : Bool :=
  s.start.line = s.stop.line

/-- The span starts before another one. -/
def Span.startsBefore (s t : Span) : Bool :=
  s.start.line < t.start.line
    || (s.start.line = t.start.line && s.start.column ≤ t.start.column)

/-! ### Faults -/

/-- What is wrong with a regular expression. -/
inductive Fault where
  | misplacedEscape
  | reversedRange
  | rangeOfClass
  | openClass
  | emptyNumber
  | hugeNumber
  | emptyHex
  | hexOutOfRange
  | badHexDigit
  | openEscape
  | unknownEscape
  | danglingNegation
  | repeatedFlag
  | repeatedNegation
  | openFlags
  | unknownFlag
  | repeatedName
  | emptyName
  | badNameChar
  | openName
  | openGroup
  | unopenedGroup
  /-- Groups, classes and the like are nested more deeply than the given limit. -/
  | tooDeep (limit : Nat)
  | reversedCounts
  | missingCount
  | openCount
  | nothingToRepeat
  | openBoundary
  | unknownBoundary
  | openBoundaryOrCount
  | badProperty
  | backreference
  | lookAround
  /-- A character beyond ASCII stands where only bytes are known. -/
  | unicodeRefused
  /-- Something would match a part of a character. -/
  | partOfCharacter
  | unknownProperty
  | unknownPropertyValue
  deriving DecidableEq, Repr

/-- The text of a fault. -/
def Fault.message : Fault → String
  | .misplacedEscape => "invalid escape sequence found in character class"
  | .reversedRange => "invalid character class range, the start must be <= the end"
  | .rangeOfClass => "invalid range boundary, must be a literal"
  | .openClass => "unclosed character class"
  | .emptyNumber => "decimal literal empty"
  | .hugeNumber => "decimal literal invalid"
  | .emptyHex => "hexadecimal literal empty"
  | .hexOutOfRange => "hexadecimal literal is not a Unicode scalar value"
  | .badHexDigit => "invalid hexadecimal digit"
  | .openEscape => "incomplete escape sequence, reached end of pattern prematurely"
  | .unknownEscape => "unrecognized escape sequence"
  | .danglingNegation => "dangling flag negation operator"
  | .repeatedFlag => "duplicate flag"
  | .repeatedNegation => "flag negation operator repeated"
  | .openFlags => "expected flag but got end of regex"
  | .unknownFlag => "unrecognized flag"
  | .repeatedName => "duplicate capture group name"
  | .emptyName => "empty capture group name"
  | .badNameChar => "invalid capture group character"
  | .openName => "unclosed capture group name"
  | .openGroup => "unclosed group"
  | .unopenedGroup => "unopened group"
  | .tooDeep limit =>
    "exceed the maximum number of nested parentheses/brackets (" ++ Nat.repr limit ++ ")"
  | .reversedCounts => "invalid repetition count range, the start must be <= the end"
  | .missingCount => "repetition quantifier expects a valid decimal"
  | .openCount => "unclosed counted repetition"
  | .nothingToRepeat => "repetition operator missing expression"
  | .openBoundary =>
    "special word boundary assertion is either unclosed or contains an invalid character"
  | .unknownBoundary =>
    "unrecognized special word boundary assertion, valid choices are: "
      ++ "start, end, start-half or end-half"
  | .openBoundaryOrCount =>
    "found either the beginning of a special word boundary or a bounded repetition on a \\b "
      ++ "with an opening brace, but no closing brace"
  | .badProperty => "invalid Unicode character class"
  | .backreference => "backreferences are not supported"
  | .lookAround => "look-around, including look-ahead and look-behind, is not supported"
  | .unicodeRefused => "Unicode not allowed here"
  | .partOfCharacter => "pattern can match invalid UTF-8"
  | .unknownProperty => "Unicode property not found"
  | .unknownPropertyValue => "Unicode property value not found"

/-- A fault with the place where it is. -/
structure SyntaxError where
  fault : Fault
  span : Span
  /-- An earlier place with which the fault is in conflict. -/
  earlier : Option Span
  deriving DecidableEq, Repr

namespace SyntaxError

/-- The places that a report marks, in their order. -/
def spans (e : SyntaxError) : List Span :=
  match e.earlier with
  | none => [e.span]
  | some o => if o.startsBefore e.span then [o, e.span] else [e.span, o]

/-- The line without a carriage return at its end. -/
def chomp (line : String) : String :=
  if line.toList.getLast? = some '\r' then String.ofList line.toList.dropLast else line

/-- The lines of a text; what follows the last line feed is a line unless it is empty. -/
def linesOf (s : String) : List String :=
  match (Text.splitOn '\n' s).reverse with
  | [] => []
  | last :: ended => (ended.map chomp).reverse ++ (if last = "" then [] else [last])

/-- The number of digits that line numbers take, none for a text of one line. -/
def numberWidth (pattern : String) : Nat :=
  let count := (Text.splitOn '\n' pattern).length
  if count ≤ 1 then 0 else (Nat.repr count).length

/-- A text of blanks. -/
def blanks (n : Nat) : String :=
  String.ofList (List.replicate n ' ')

/-- The marks for spans of one line, from the given column on; every span has at least one. -/
def marks (column : Nat) : List Span → String
  | [] => ""
  | s :: rest =>
    let width := max 1 (s.stop.column - s.start.column)
    let gap := s.start.column - column
    blanks gap ++ String.ofList (List.replicate width '^') ++ marks (column + gap + width) rest

/-- A line of the expression, and the line that marks the places in it. -/
def markedLine (e : SyntaxError) (width : Nat) (number : Nat) (line : String) : String :=
  let label :=
    if width = 0 then blanks 4
    else blanks (width - (Nat.repr number).length) ++ Nat.repr number ++ ": "
  let here := e.spans.filter fun s => s.isOneLine && s.start.line = number
  label ++ line ++ "\n"
    ++ (if here.isEmpty then ""
      else blanks (if width = 0 then 4 else width + 2) ++ marks 1 here ++ "\n")

/-- The lines of the expression with their marks. -/
def markedLines (e : SyntaxError) (width : Nat) (number : Nat) : List String → String
  | [] => ""
  | line :: rest => e.markedLine width number line ++ e.markedLines width (number + 1) rest

/-- The note about a place that goes over several lines. -/
def lineNote (s : Span) : String :=
  "on line " ++ Nat.repr s.start.line ++ " (column " ++ Nat.repr s.start.column
    ++ ") through line " ++ Nat.repr s.stop.line ++ " (column " ++ Nat.repr (s.stop.column - 1)
    ++ ")"

/-- The notes about the places that go over several lines. -/
def lineNotes (e : SyntaxError) : String :=
  match e.spans.filter fun s => !s.isOneLine with
  | [] => ""
  | long => "\n".intercalate (long.map lineNote) ++ "\n"

/-- The report of a fault in an expression. -/
def report (pattern : String) (e : SyntaxError) : String :=
  let marked := e.markedLines (numberWidth pattern) 1 (linesOf pattern)
  let text := "error: " ++ e.fault.message
  if pattern.toList.contains '\n' then
    let divider := String.ofList (List.replicate 79 '~') ++ "\n"
    "regex parse error:\n" ++ divider ++ marked ++ divider ++ e.lineNotes ++ text
  else
    "regex parse error:\n" ++ marked ++ text

end SyntaxError

end Gallery.Regex
