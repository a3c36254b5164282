import Gallery.Regex.Cursor
import Gallery.Regex.Tree

/-!
# Single pieces of an expression

A primitive is a piece without parts: a character, an escape sequence, a dot or an assertion.
Escape sequences mean the same within the brackets of a class and outside of them, though not
all of them may stand within.
-/

namespace Gallery.Regex

/-- A piece of an expression without parts. -/
inductive Primitive where
  | literal (l : Literal)
  | dot (span : Span)
  | assertion (span : Span) (a : Assertion)
  | shorthand (span : Span) (negated : Bool) (c : Shorthand)
  | property (span : Span) (negated : Bool) (name : PropertyName)
  deriving DecidableEq, Repr

namespace Primitive

/-- The place of a primitive. -/
def span : Primitive → Span
  | .literal l => l.span
  | .dot span => span
  | .assertion span _ => span
  | .shorthand span _ _ => span
  | .property span _ _ => span

/-- The expression of a primitive. -/
def tree : Primitive → Tree
  | .literal l => .literal l
  | .dot span => .dot span
  | .assertion span a => .assertion span a
  | .shorthand span negated c => .shorthand span negated c
  | .property span negated name => .property span negated name

/-- The member of a class that a primitive is. -/
def member : Primitive → Read ClassBody
  | .literal l => return .literal l
  | .shorthand span negated c => return .shorthand span negated c
  | .property span negated name => return .property span negated name
  | p => Read.fail .misplacedEscape p.span

/-- The boundary of a range that a primitive is. -/
def boundary : Primitive → Read Literal
  | .literal l => return l
  | p => Read.fail .rangeOfClass p.span

end Primitive

open Read

/-! ### Characters -/

/-- The characters with a meaning of their own. -/
def metaCharacters : List Char :=
  ['\\', '.', '+', '*', '?', '(', ')', '|', '[', ']', '\x7b', '\x7d', '^', '$', '#', '&', '-',
    '~']

/-- The character stands for itself behind a backslash. -/
def isPlainEscape (c : Char) : Bool :=
  metaCharacters.contains c
    || (c.toNat < 0x80 && !c.isAlphanum && c ≠ '<' && c ≠ '>')

/-- The character that a letter stands for behind a backslash. -/
def controlEscape? : Char → Option Char
  | 'a' => some '\x07'
  | 'f' => some '\x0c'
  | 't' => some '\t'
  | 'n' => some '\n'
  | 'r' => some '\r'
  | 'v' => some '\x0b'
  | _ => none

/-- The assertion that a character stands for behind a backslash. -/
def assertionEscape? : Char → Option Assertion
  | 'A' => some .startText
  | 'z' => some .endText
  | 'b' => some .boundary
  | 'B' => some .noBoundary
  | '<' => some .wordStart
  | '>' => some .wordEnd
  | _ => none

/-- The class that a letter stands for behind a backslash, and whether it is its complement. -/
def shorthandEscape? : Char → Option (Bool × Shorthand)
  | 'd' => some (false, .digit)
  | 's' => some (false, .space)
  | 'w' => some (false, .word)
  | 'D' => some (true, .digit)
  | 'S' => some (true, .space)
  | 'W' => some (true, .word)
  | _ => none

/-! ### Characters by number -/

/-- The number that a hexadecimal digit stands for. -/
def hexDigit? (c : Char) : Option Nat :=
  if c.isDigit then some (c.toNat - '0'.toNat)
  else if 'a' ≤ c && c ≤ 'f' then some (c.toNat - 'a'.toNat + 10)
  else if 'A' ≤ c && c ≤ 'F' then some (c.toNat - 'A'.toNat + 10)
  else none

/-- The character whose number is written by hexadecimal digits. -/
def charOfHex? (digits : List Char) : Option Char :=
  let n := digits.foldl (fun n d => 16 * n + (hexDigit? d).getD 0) 0
  if n.isValidChar then some (Char.ofNat n)
  else none

/-- Reads a hexadecimal digit. -/
def readHexDigit : Read Char := do
  match ← peek with
  | some c =>
    if (hexDigit? c).isNone then
      fail .badHexDigit (← charSpan)
    return c
  | none => fail .openEscape (← here)

/-- Reads the given number of hexadecimal digits; the first of them comes next. -/
def readHexDigits : Nat → Read (List Char)
  | 0 => return []
  | n + 1 => do
    let c ← readHexDigit
    advanceSkip
    if n = 0 then
      return [c]
    else if ← isDone then
      fail .openEscape (← here)
    else
      return c :: (← readHexDigits n)

/-- Reads hexadecimal digits up to a closing brace, at most `limit`. -/
def readBracedHex : Nat → Read (List Char)
  | 0 => return []
  | limit + 1 => do
    advanceSkip
    match ← peek with
    | none | some '\x7d' => return []
    | some _ =>
      let c ← readHexDigit
      return c :: (← readBracedHex limit)

/-- Reads a character by its number; the letter that says how the number is written comes
next.  The escape sequence starts at `start`. -/
def readHex (start : Position) (letter : Char) : Read Primitive := do
  advanceSkip
  if ← isDone then
    fail .openEscape (← here)
  let first ← position
  if (← peek) = some '\x7b' then
    let inner := (← charSpan).stop
    let digits ← readBracedHex (← get).rest.length
    if ← isDone then
      fail .openEscape (← spanFrom first)
    let numberSpan ← spanFrom inner
    advanceSkip
    if digits.isEmpty then
      fail .emptyHex (← spanFrom first)
    match charOfHex? digits with
    | some c => return .literal ⟨⟨start, ← position⟩, c, false⟩
    | none => fail .hexOutOfRange numberSpan
  else
    let size := if letter = 'x' then 2 else if letter = 'u' then 4 else 8
    let digits ← readHexDigits size
    match charOfHex? digits with
    | some c => return .literal ⟨⟨start, ← position⟩, c, letter = 'x'⟩
    | none => fail .hexOutOfRange (← spanFrom first)

/-! ### Properties -/

/-- The text in front of a separator and the text behind it, if it occurs. -/
def cutAt? (sep : List Char) : List Char → Option (List Char × List Char)
  | [] => none
  | c :: cs =>
    if sep.isPrefixOf (c :: cs) then some ([], (c :: cs).drop sep.length)
    else (cutAt? sep cs).map fun (before, behind) => (c :: before, behind)

/-- The naming that is written within braces. -/
def PropertyName.ofChars (cs : List Char) : PropertyName :=
  match (cutAt? ['!', '='] cs).or ((cutAt? [':'] cs).or (cutAt? ['='] cs)) with
  | some (name, value) => .valued (String.ofList name) (String.ofList value)
  | none => .named (String.ofList cs)

/-- Reads the naming of a property; the letter that announces it comes next.  The escape
sequence starts at `start`. -/
def readProperty (start : Position) (negated : Bool) : Read Primitive := do
  advanceSkip
  match ← peek with
  | none => fail .openEscape (← here)
  | some '\x7b' =>
    advanceSkip
    let name ← collect (· ≠ '\x7d') advanceSkip
    if ← isDone then
      fail .openEscape (← here)
    advance
    return .property (← spanFrom start) negated (.ofChars name)
  | some '\\' => fail .badProperty (← charSpan)
  | some c =>
    advanceSkip
    return .property (← spanFrom start) negated (.named (String.ofList [c]))

/-! ### Word boundaries -/

/-- The characters of the names of boundaries. -/
def isBoundaryChar (c : Char) : Bool :=
  c.isAlpha || c = '-'

/-- The boundary with a name. -/
def boundaryNamed? : String → Option Assertion
  | "start" => some .wordStart
  | "end" => some .wordEnd
  | "start-half" => some .halfStart
  | "end-half" => some .halfEnd
  | _ => none

/-- Reads the name of a boundary behind an opening brace, which comes next.  What cannot be
such a name is left for a count.  The escape sequence starts at `start`. -/
def readBoundary? (start : Position) : Read (Option Assertion) := do
  let before ← get
  let brace ← position
  advanceSkip
  match ← peek with
  | none => fail .openBoundaryOrCount (← spanFrom start)
  | some c =>
    if !isBoundaryChar c then
      set before
      return none
    let first ← position
    let name ← collect isBoundaryChar advanceSkip
    if (← peek) ≠ some '\x7d' then
      fail .openBoundary (← spanFrom brace)
    let nameSpan ← spanFrom first
    advance
    match boundaryNamed? (String.ofList name) with
    | some a => return some a
    | none => fail .unknownBoundary nameSpan

/-! ### Reading -/

/-- Reads an escape sequence; its backslash comes next. -/
def readEscape : Read Primitive := do
  let start ← position
  advance
  match ← peek with
  | none => fail .openEscape (← spanFrom start)
  | some c =>
    if c.isDigit then
      fail .backreference ⟨start, (← charSpan).stop⟩
    if c = 'x' || c = 'u' || c = 'U' then
      readHex start c
    else if c = 'p' || c = 'P' then
      readProperty start (c = 'P')
    else
      advance
      let span ← spanFrom start
      if isPlainEscape c then
        return .literal ⟨span, c, false⟩
      match shorthandEscape? c, controlEscape? c, assertionEscape? c with
      | some (negated, s), _, _ => return .shorthand span negated s
      | _, some x, _ => return .literal ⟨span, x, false⟩
      | _, _, some a =>
        if c = 'b' && (← peek) = some '\x7b' then
          match ← readBoundary? start with
          | some a' => return .assertion (← spanFrom start) a'
          | none => return .assertion span a
        else
          return .assertion span a
      | _, _, _ => fail .unknownEscape span

/-- Reads a single piece of an expression. -/
def readPrimitive (c : Char) : Read Primitive := do
  if c = '\\' then
    readEscape
  else
    let span ← charSpan
    advance
    match c with
    | '.' => return .dot span
    | '^' => return .assertion span .startLine
    | '$' => return .assertion span .endLine
    | _ => return .literal ⟨span, c, false⟩

/-- Reads a single piece of a class. -/
def readMember (c : Char) : Read Primitive := do
  if c = '\\' then
    readEscape
  else
    let span ← charSpan
    advance
    return .literal ⟨span, c, false⟩

end Gallery.Regex
