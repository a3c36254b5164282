import Gallery.Text.CharClass
import Gallery.Text.Reach

/-!
# Regular expressions

A regular expression stands for texts: for a character of a class, for the empty text at certain
places, or for what its parts stand for, one after another, instead of each other or repeatedly.
`Expr.advance` follows all ways in which an expression can stand for parts of a text at once, and
`Expr.occursIn` says whether there is one.
-/

namespace Gallery.Regex

open Gallery.Text (CharClass Reach)

/-- A kind of place between two characters of a text. -/
inductive Place where
  | textStart
  | textEnd
  | lineStart
  | lineEnd
  /-- The start of a line; lines may end with a carriage return, a line feed or both. -/
  | anyLineStart
  /-- The end of a line; lines may end with a carriage return, a line feed or both. -/
  | anyLineEnd
  /-- Between a character of a word and another one. -/
  | wordBoundary (word : CharClass)
  | noWordBoundary (word : CharClass)
  | wordStart (word : CharClass)
  | wordEnd (word : CharClass)
  /-- Not behind a character of a word. -/
  | behindNoWord (word : CharClass)
  /-- Not before a character of a word. -/
  | beforeNoWord (word : CharClass)

/-- There is a place of the kind between two characters; there is no character before the start
of the text and none behind its end. -/
def Place.isBetween (before behind : Option Char) : Place → Bool
  | .textStart => before = none
  | .textEnd => behind = none
  | .lineStart => before = none || before = some '\n'
  | .lineEnd => behind = none || behind = some '\n'
  | .anyLineStart =>
    before = none || before = some '\n' || (before = some '\r' && behind ≠ some '\n')
  | .anyLineEnd =>
    behind = none || behind = some '\r' || (behind = some '\n' && before ≠ some '\r')
  | .wordBoundary word => before.any word.contains != behind.any word.contains
  | .noWordBoundary word => before.any word.contains == behind.any word.contains
  | .wordStart word => !before.any word.contains && behind.any word.contains
  | .wordEnd word => before.any word.contains && !behind.any word.contains
  | .behindNoWord word => !before.any word.contains
  | .beforeNoWord word => !behind.any word.contains

/-- A regular expression. -/
inductive Expr where
  /-- The empty text. -/
  | empty
  /-- A character of a class. -/
  | char (k : CharClass)
  /-- The empty text at a place. -/
  | place (p : Place)
  /-- One expression and then another one. -/
  | seq (e f : Expr)
  /-- One expression or another one. -/
  | either (e f : Expr)
  /-- An expression at least `least` times and at most `most` times. -/
  | repeated (least : Nat) (most : Option Nat) (e : Expr)
  /-- An expression as a group. -/
  | group (e : Expr)

namespace Expr

/-! ### Following an expression -/

/-- The positions to which `n` steps lead. -/
def steps (step : Reach → Reach) : Nat → Reach → Reach
  | 0, r => r
  | n + 1, r => if r.isEmpty then r else steps step n (step r)

/-- The positions to which up to `n` steps lead. -/
def stepsUpTo (step : Reach → Reach) : Nat → Reach → Reach
  | 0, r => r
  | n + 1, r =>
    let s := r.union (step r)
    if s = r then r else stepsUpTo step n s

/-- The positions behind what the expression stands for, where that starts at a position of the
given set.  A step of a repetition that leads to no other position can be left out, so no more
steps matter than there are positions. -/
def advance (cs : List Char) : Expr → Reach → Reach
  | .empty, r => r
  | .char k, r => r.step k.contains cs
  | .place p, r => r.between (fun before behind => p.isBetween before behind) none cs
  | .seq e f, r => advance cs f (advance cs e r)
  | .either e f, r => (advance cs e r).union (advance cs f r)
  | .repeated least most e, r =>
    let bound := cs.length + 1
    let further := match most with
      | none => bound
      | some m => min (m - least) bound
    stepsUpTo (advance cs e) further (steps (advance cs e) (min least bound) r)
  | .group e, r => advance cs e r

/-- The expression stands for a part of the text. -/
def occursIn (e : Expr) (text : String) : Bool :=
  let cs := text.toList
  !(e.advance cs (Reach.everywhere cs)).isEmpty

/-! ### Building expressions -/

/-- Some expressions one after another. -/
def ofSeq (es : List Expr) : Expr :=
  match es with
  | [] => .empty
  | [e] => e
  | e :: es => .seq e (ofSeq es)

/-- Some expressions instead of each other. -/
def ofEither (es : List Expr) : Expr :=
  match es with
  | [] => .char .empty
  | [e] => e
  | e :: es => .either e (ofEither es)

end Expr

end Gallery.Regex
