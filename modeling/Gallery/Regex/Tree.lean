import Gallery.Regex.Fault

/-!
# Regular expressions as they are written

The tree of a regular expression, as read from its text.  The nodes that can be nested, and those
that may turn out to have no meaning, keep their places in the text.
-/

namespace Gallery.Regex

/-- A switch of the way in which an expression is read or compared. -/
inductive Flag where
  /-- Letters are compared regardless of their case. -/
  | caseInsensitive
  /-- Line ends count as ends of the text. -/
  | multiLine
  /-- The dot stands for line feeds too. -/
  | dotAll
  /-- Repetitions are lazy by default. -/
  | swapGreed
  /-- Classes go beyond ASCII. -/
  | unicode
  /-- Lines end with a carriage return and a line feed. -/
  | crlf
  /-- White space and comments in the expression mean nothing. -/
  | verbose
  deriving DecidableEq, Repr

/-- Flags that are switched on or off. -/
abbrev Flags := List (Flag × Bool)

/-- What the flags say about one of them. -/
def Flags.state? (fs : Flags) (f : Flag) : Option Bool :=
  (fs.find? (·.1 = f)).map (·.2)

/-- A character that stands for itself; `isByte` says that it is written as the number of a
byte. -/
structure Literal where
  span : Span
  char : Char
  isByte : Bool
  deriving DecidableEq, Repr

/-- A class with a letter of its own. -/
inductive Shorthand where
  | digit
  | space
  | word
  deriving DecidableEq, Repr

/-- A class of ASCII characters with a name. -/
inductive AsciiClass where
  | alnum
  | alpha
  | ascii
  | blank
  | cntrl
  | digit
  | graph
  | lower
  | print
  | punct
  | space
  | upper
  | word
  | xdigit
  deriving DecidableEq, Repr

/-- The naming of a class by a property of characters. -/
inductive PropertyName where
  | named (name : String)
  | valued (name value : String)
  deriving DecidableEq, Repr

/-- What holds at a position without taking a character. -/
inductive Assertion where
  | startLine
  | endLine
  | startText
  | endText
  | boundary
  | noBoundary
  | wordStart
  | wordEnd
  | halfStart
  | halfEnd
  deriving DecidableEq, Repr

/-- A set operation on classes. -/
inductive SetOperation where
  | intersection
  | difference
  | symmetricDifference
  deriving DecidableEq, Repr

/-- What is written within the brackets of a class. -/
inductive ClassBody where
  | empty (span : Span)
  | literal (l : Literal)
  | range (first last : Literal)
  | ascii (span : Span) (negated : Bool) (c : AsciiClass)
  | shorthand (span : Span) (negated : Bool) (c : Shorthand)
  | property (span : Span) (negated : Bool) (name : PropertyName)
  | nested (span : Span) (negated : Bool) (body : ClassBody)
  | union (span : Span) (members : List ClassBody)
  | operation (span : Span) (op : SetOperation) (left right : ClassBody)
  deriving Repr, Inhabited

/-- The place of what is written within brackets. -/
def ClassBody.span : ClassBody → Span
  | .empty span => span
  | .literal l => l.span
  | .range first last => ⟨first.span.start, last.span.stop⟩
  | .ascii span _ _ => span
  | .shorthand span _ _ => span
  | .property span _ _ => span
  | .nested span _ _ => span
  | .union span _ => span
  | .operation span _ _ _ => span

/-- Some members of a class that stand next to each other, at `start` if there are none. -/
def ClassBody.ofMembers (start : Position) : List ClassBody → ClassBody
  | [] => .empty ⟨start, start⟩
  | [m] => m
  | m :: ms => .union ⟨m.span.start, ((m :: ms).getLastD m).span.stop⟩ (m :: ms)

/-- A regular expression as it is written. -/
inductive Tree where
  | empty (span : Span)
  | setFlags (span : Span) (flags : Flags)
  | literal (l : Literal)
  | dot (span : Span)
  | assertion (span : Span) (a : Assertion)
  | shorthand (span : Span) (negated : Bool) (c : Shorthand)
  | property (span : Span) (negated : Bool) (name : PropertyName)
  | brackets (span : Span) (negated : Bool) (body : ClassBody)
  | repetition (span : Span) (least : Nat) (most : Option Nat) (t : Tree)
  /-- A group; `counts` says that it is one of those that are numbered. -/
  | group (span : Span) (counts : Bool) (flags : Flags) (t : Tree)
  | concat (span : Span) (ts : List Tree)
  | alternation (span : Span) (ts : List Tree)
  deriving Repr, Inhabited

/-- The place of an expression. -/
def Tree.span : Tree → Span
  | .empty span => span
  | .setFlags span _ => span
  | .literal l => l.span
  | .dot span => span
  | .assertion span _ => span
  | .shorthand span _ _ => span
  | .property span _ _ => span
  | .brackets span _ _ => span
  | .repetition span _ _ _ => span
  | .group span _ _ _ => span
  | .concat span _ => span
  | .alternation span _ => span

/-- Some expressions one after another. -/
def Tree.ofItems (span : Span) : List Tree → Tree
  | [] => .empty span
  | [t] => t
  | ts => .concat span ts

/-- Some expressions as alternatives. -/
def Tree.ofBranches (span : Span) : List Tree → Tree
  | [] => .empty span
  | [t] => t
  | ts => .alternation span ts

/-! ### Nesting -/

/-- How deeply expressions may be nested. -/
def depthLimit : Nat := 250

mutual

/-- The first part of a class that is nested too deeply. -/
def ClassBody.tooDeep? (depth : Nat) : ClassBody → Option Span
  | .nested span _ body =>
    if depthLimit ≤ depth then some span else body.tooDeep? (depth + 1)
  | .union span members =>
    if depthLimit ≤ depth then some span else ClassBody.tooDeepAmong? (depth + 1) members
  | .operation span _ left right =>
    if depthLimit ≤ depth then some span
    else (left.tooDeep? (depth + 1)).or (right.tooDeep? (depth + 1))
  | _ => none

/-- The first part of some classes that is nested too deeply. -/
def ClassBody.tooDeepAmong? (depth : Nat) : List ClassBody → Option Span
  | [] => none
  | m :: ms => (m.tooDeep? depth).or (ClassBody.tooDeepAmong? depth ms)

end

mutual

/-- The first part of an expression that is nested too deeply. -/
def Tree.tooDeep? (depth : Nat) : Tree → Option Span
  | .brackets span _ body =>
    if depthLimit ≤ depth then some span else body.tooDeep? (depth + 1)
  | .repetition span _ _ t =>
    if depthLimit ≤ depth then some span else t.tooDeep? (depth + 1)
  | .group span _ _ t =>
    if depthLimit ≤ depth then some span else t.tooDeep? (depth + 1)
  | .concat span ts =>
    if depthLimit ≤ depth then some span else Tree.tooDeepAmong? (depth + 1) ts
  | .alternation span ts =>
    if depthLimit ≤ depth then some span else Tree.tooDeepAmong? (depth + 1) ts
  | _ => none

/-- The first part of some expressions that is nested too deeply. -/
def Tree.tooDeepAmong? (depth : Nat) : List Tree → Option Span
  | [] => none
  | t :: ts => (t.tooDeep? depth).or (Tree.tooDeepAmong? depth ts)

end

end Gallery.Regex
