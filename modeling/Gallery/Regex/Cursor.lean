import Gallery.Regex.Fault
import Gallery.Text.Basic

/-!
# Reading an expression character by character

A cursor stands before the characters that are still to be read.  The readers here take single
characters, blanks and words; a reader that fails says what is wrong and where.
-/

namespace Gallery.Regex

/-- How far an expression has been read. -/
structure Cursor where
  /-- The characters that are still to be read. -/
  rest : List Char
  position : Position
  /-- White space and comments mean nothing. -/
  verbose : Bool
  /-- The names of groups, with their places. -/
  names : List (String × Span)

namespace Cursor

/-- The cursor before a text. -/
def ofText (s : String) : Cursor :=
  ⟨s.toList, .start, false, []⟩

/-- The cursor behind the next character. -/
def next (c : Cursor) : Cursor :=
  match c.rest with
  | [] => c
  | x :: xs => { c with rest := xs, position := c.position.after x }

/-- What follows white space and comments, and where it stands.  `inComment` says that the
characters continue a comment, which goes on to the end of its line. -/
def afterBlanks (inComment : Bool) : Position → List Char → Position × List Char
  | p, [] => (p, [])
  | p, x :: xs =>
    if inComment then afterBlanks (x ≠ '\n') (p.after x) xs
    else if Text.isSpace x then afterBlanks false (p.after x) xs
    else if x = '#' then afterBlanks true (p.after x) xs
    else (p, x :: xs)

/-- The cursor behind white space and comments, if they mean nothing. -/
def skipBlanks (c : Cursor) : Cursor :=
  if c.verbose then
    let (p, rest) := afterBlanks false c.position c.rest
    { c with rest := rest, position := p }
  else
    c

/-- The first character that is neither white space nor the mark of a comment. -/
def firstSolid? (inComment : Bool) : List Char → Option Char
  | [] => none
  | x :: xs =>
    if Text.isSpace x then firstSolid? inComment xs
    else if x = '#' && !inComment then firstSolid? true xs
    else some x

/-- The character behind the next one, blanks aside. -/
def second? (c : Cursor) : Option Char :=
  let behind := c.rest.tail
  if c.verbose then (firstSolid? false behind).or behind.head? else behind.head?

end Cursor

/-- A reader of a part of an expression. -/
abbrev Read := StateT Cursor (Except SyntaxError)

namespace Read

/-- Fails because of a fault at a place. -/
def fail {α : Type} (fault : Fault) (span : Span) : Read α :=
  throw ⟨fault, span, none⟩

/-- The next character. -/
def peek : Read (Option Char) :=
  return (← get).rest.head?

/-- The position before the next character. -/
def position : Read Position :=
  return (← get).position

/-- From an earlier position up to here. -/
def spanFrom (start : Position) : Read Span :=
  return ⟨start, ← position⟩

/-- The place before the next character. -/
def here : Read Span := do
  spanFrom (← position)

/-- The place of the next character. -/
def charSpan : Read Span := do
  let c ← get
  return ⟨c.position, c.next.position⟩

/-- Takes the next character. -/
def advance : Read Unit :=
  modify Cursor.next

/-- Takes blanks. -/
def skipBlanks : Read Unit :=
  modify Cursor.skipBlanks

/-- Takes the next character and the blanks behind it. -/
def advanceSkip : Read Unit := do
  advance
  skipBlanks

/-- Nothing is left to be read. -/
def isDone : Read Bool :=
  return (← peek).isNone

/-- Takes a word, if it comes next. -/
def takeWord (word : String) : Read Bool := do
  if word.toList.isPrefixOf (← get).rest then
    word.toList.forM fun _ => advance
    return true
  else
    return false

/-- Takes characters that satisfy `p`, at most `limit`, each of them by `take`. -/
def collectAtMost (p : Char → Bool) (take : Read Unit) : Nat → Read (List Char)
  | 0 => return []
  | limit + 1 => do
    match ← peek with
    | some c =>
      if p c then
        take
        return c :: (← collectAtMost p take limit)
      else
        return []
    | none => return []

/-- Takes the characters that satisfy `p`, each of them by `take`. -/
def collect (p : Char → Bool) (take : Read Unit) : Read (List Char) := do
  collectAtMost p take (← get).rest.length

end Read

end Gallery.Regex
