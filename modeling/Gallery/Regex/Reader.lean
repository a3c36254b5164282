import Gallery.Regex.Primitive
import Gallery.Text.Property

/-!
# Reading regular expressions

`Tree.ofText` reads an expression.  The readers of groups and of classes call themselves for what
these contain, so they are given a number of steps; every step takes a character or ends a part,
and `Tree.ofText` allows enough of them for the whole text.
-/

namespace Gallery.Regex

open Read

/-! ### Classes -/

/-- The ASCII class with a name. -/
def AsciiClass.byName? : String → Option AsciiClass
  | "alnum" => some .alnum
  | "alpha" => some .alpha
  | "ascii" => some .ascii
  | "blank" => some .blank
  | "cntrl" => some .cntrl
  | "digit" => some .digit
  | "graph" => some .graph
  | "lower" => some .lower
  | "print" => some .print
  | "punct" => some .punct
  | "space" => some .space
  | "upper" => some .upper
  | "word" => some .word
  | "xdigit" => some .xdigit
  | _ => none

/-- Reads the name of an ASCII class between colons and brackets; the opening bracket comes
next.  Nothing is read if there is no such name. -/
def readAsciiClass? : Read (Option ClassBody) := do
  let before ← get
  let start ← position
  if !(← takeWord "[:") then
    return none
  let negated ← takeWord "^"
  let name ← collect (· ≠ ':') advance
  if ← takeWord ":]" then
    match AsciiClass.byName? (String.ofList name) with
    | some c => return some (.ascii (← spanFrom start) negated c)
    | none => set before; return none
  else
    set before
    return none

/-- Reads hyphens at the start of a class, which stand for themselves.  The class starts at
`start`. -/
def readHyphens (start : Position) : Nat → Read (List ClassBody)
  | 0 => return []
  | limit + 1 => do
    if (← peek) = some '-' then
      let span ← charSpan
      advanceSkip
      if ← isDone then
        fail .openClass ⟨start, start⟩
      return .literal ⟨span, '-', false⟩ :: (← readHyphens start limit)
    else
      return []

/-- The start of a class. -/
structure ClassStart where
  /-- The place of what has been read of the class. -/
  span : Span
  negated : Bool
  /-- The members at the start, last one first. -/
  members : List ClassBody
  /-- Where the members start. -/
  inner : Position

/-- Reads the start of a class; its opening bracket comes next.  A closing bracket that comes
first stands for itself. -/
def readClassStart : Read ClassStart := do
  let start ← position
  advanceSkip
  if ← isDone then
    fail .openClass (← spanFrom start)
  let negated := (← peek) = some '^'
  if negated then
    advanceSkip
    if ← isDone then
      fail .openClass (← spanFrom start)
  let inner ← position
  let hyphens ← readHyphens start (← get).rest.length
  if hyphens.isEmpty && (← peek) = some ']' then
    let span ← charSpan
    advanceSkip
    if ← isDone then
      fail .openClass (← spanFrom start)
    return ⟨← spanFrom start, negated, [.literal ⟨span, ']', false⟩], inner⟩
  else
    return ⟨← spanFrom start, negated, hyphens.reverse, inner⟩

/-- Reads a member of a class, or a range; it starts with the given character.  The class has
been read up to `opened` when it was opened. -/
def readRange (opened : Span) (c : Char) : Read ClassBody := do
  let first ← readMember c
  skipBlanks
  if ← isDone then
    fail .openClass opened
  let second := (← get).second?
  if (← peek) ≠ some '-' || second = some ']' || second = some '-' then
    first.member
  else
    advanceSkip
    match ← peek with
    | none => fail .openClass opened
    | some d =>
      let last ← readMember d
      let least ← first.boundary
      let most ← last.boundary
      if most.char < least.char then
        fail .reversedRange ⟨first.span.start, last.span.stop⟩
      return .range least most

/-- Reads the sign of a set operation, if it comes next. -/
def readOperation? : Read (Option SetOperation) := do
  if ← takeWord "&&" then return some .intersection
  else if ← takeWord "--" then return some .difference
  else if ← takeWord "~~" then return some .symmetricDifference
  else return none

/-- The left side of a set operation, which has been read. -/
abbrev LeftSide := Option (SetOperation × ClassBody)

/-- Applies the set operation whose left side has been read. -/
def LeftSide.apply (left : LeftSide) (right : ClassBody) : ClassBody :=
  match left with
  | some (op, body) => .operation ⟨body.span.start, right.span.stop⟩ op body right
  | none => right

mutual

/-- Reads a class; its opening bracket comes next. -/
def readClass : Nat → Read (Span × Bool × ClassBody)
  | 0 => do fail .openClass (← here)
  | steps + 1 => do
    let s ← readClassStart
    let body ← readClassBody steps s.span none s.inner s.members
    return (← spanFrom s.span.start, s.negated, body)

/-- Reads the rest of a class behind some members, last one first, up to its closing bracket.
The class has been read up to `opened` when it was opened, and the members start at `inner`. -/
def readClassBody (steps : Nat) (opened : Span) (left : LeftSide) (inner : Position)
    (members : List ClassBody) : Read ClassBody := do
  match steps with
  | 0 => fail .openClass opened
  | steps + 1 =>
    skipBlanks
    match ← peek with
    | none => fail .openClass opened
    | some ']' =>
      advance
      return left.apply (.ofMembers inner members.reverse)
    | some '[' =>
      match ← readAsciiClass? with
      | some c => readClassBody steps opened left inner (c :: members)
      | none =>
        let (span, negated, body) ← readClass steps
        readClassBody steps opened left inner (.nested span negated body :: members)
    | some c =>
      match ← readOperation? with
      | some op =>
        let before := left.apply (.ofMembers inner members.reverse)
        readClassBody steps opened (some (op, before)) (← position) []
      | none =>
        let m ← readRange opened c
        readClassBody steps opened left inner (m :: members)

end

/-! ### Repetitions -/

/-- Takes the last one of some items, last one first, which is repeated. -/
def repeated : List Tree → Read (Tree × List Tree)
  | [] | .empty _ :: _ | .setFlags _ _ :: _ => do fail .nothingToRepeat (← here)
  | t :: ts => return (t, ts)

/-- Takes a question mark, which makes a repetition lazy. -/
def skipLaziness : Read Unit := do
  if (← peek) = some '?' then
    advance

/-- Reads a sign of repetition behind some items, last one first. -/
def readSign (least : Nat) (most : Option Nat) (items : List Tree) : Read (List Tree) := do
  let (t, ts) ← repeated items
  advance
  skipLaziness
  return .repetition (← spanFrom t.span.start) least most t :: ts

/-- The largest count, which has 32 bits. -/
def maxCount : Nat := 4294967295

/-- The number that decimal digits stand for. -/
def numberOf (digits : List Char) : Nat :=
  digits.foldl (fun n d => 10 * n + (d.toNat - '0'.toNat)) 0

/-- Reads a count.  What is wrong with it is returned, as that matters only later. -/
def readCount : Read (Except SyntaxError Nat) := do
  let _ ← collect Text.isSpace advance
  let start ← position
  let digits ← collect Char.isDigit advanceSkip
  let span ← spanFrom start
  let _ ← collect Text.isSpace advanceSkip
  if digits.isEmpty then
    return .error ⟨.missingCount, span, none⟩
  else if maxCount < numberOf digits then
    return .error ⟨.hugeNumber, span, none⟩
  else
    return .ok (numberOf digits)

/-- Reads the counts of a repetition, from behind the opening brace at `start` up to the closing
one. -/
def readCounts (start : Position) : Read (Nat × Option Nat) := do
  let least ← readCount
  match ← peek with
  | none => fail .openCount (← spanFrom start)
  | some ',' =>
    advanceSkip
    match ← peek with
    | none => fail .openCount (← spanFrom start)
    | some '\x7d' =>
      return (← least, none)
    | some _ =>
      let n ← least
      let m ← (← readCount)
      return (n, some m)
  | some _ =>
    let n ← least
    return (n, some n)

/-- Reads a repetition with counts behind some items, last one first. -/
def readCounted (items : List Tree) : Read (List Tree) := do
  let start ← position
  let (t, ts) ← repeated items
  advanceSkip
  if ← isDone then
    fail .openCount (← spanFrom start)
  let (least, most) ← readCounts start
  if (← peek) ≠ some '\x7d' then
    fail .openCount (← spanFrom start)
  advanceSkip
  skipLaziness
  if most.any (· < least) then
    fail .reversedCounts (← spanFrom start)
  return .repetition (← spanFrom t.span.start) least most t :: ts

/-! ### Groups -/

/-- The flag with a letter. -/
def Flag.ofLetter? : Char → Option Flag
  | 'i' => some .caseInsensitive
  | 'm' => some .multiLine
  | 's' => some .dotAll
  | 'U' => some .swapGreed
  | 'u' => some .unicode
  | 'R' => some .crlf
  | 'x' => some .verbose
  | _ => none

/-- The flags that have been read, with their places, last one first. -/
structure FlagReading where
  flags : List (Flag × Bool × Span)
  /-- The place of the sign behind which flags are switched off. -/
  negation : Option Span
  /-- The sign was read last. -/
  dangling : Bool

/-- Reads flags up to a colon or a closing parenthesis. -/
def readFlags (r : FlagReading) : Nat → Read FlagReading
  | 0 => return r
  | limit + 1 => do
    match ← peek with
    | none => fail .openFlags (← here)
    | some ':' | some ')' =>
      match r.negation, r.dangling with
      | some span, true => fail .danglingNegation span
      | _, _ => return r
    | some c =>
      let span ← charSpan
      let r' ←
        if c = '-' then
          match r.negation with
          | some o => throw ⟨.repeatedNegation, span, some o⟩
          | none => pure { r with negation := some span, dangling := true }
        else
          match Flag.ofLetter? c with
          | none => fail .unknownFlag span
          | some f =>
            match r.flags.find? (·.1 = f) with
            | some (_, _, o) => throw ⟨.repeatedFlag, span, some o⟩
            | none => pure ⟨(f, r.negation.isNone, span) :: r.flags, r.negation, false⟩
      advance
      readFlags r' limit

/-- The character can stand in the name of a group, perhaps at its start. -/
def isNameChar (first : Bool) (c : Char) : Bool :=
  if first then c = '_' || Text.isLetter c
  else c = '_' || c = '.' || c = '[' || c = ']' || Text.isLetter c || Text.isNumeral c

/-- Reads the characters of a name up to a closing angle bracket. -/
def readNameChars (first : Bool) : Nat → Read (List Char)
  | 0 => return []
  | limit + 1 => do
    match ← peek with
    | none | some '>' => return []
    | some c =>
      if !isNameChar first c then
        fail .badNameChar (← charSpan)
      advance
      return c :: (← readNameChars false limit)

/-- Reads the name of a group, and the angle bracket behind it. -/
def readName : Read Unit := do
  let start ← position
  let name ← readNameChars true (← get).rest.length
  if ← isDone then
    fail .openName (← here)
  let span ← spanFrom start
  advance
  if name.isEmpty then
    fail .emptyName span
  let text := String.ofList name
  match (← get).names.find? (·.1 = text) with
  | some (_, o) => throw ⟨.repeatedName, span, some o⟩
  | none => modify fun c => { c with names := (text, span) :: c.names }

/-- What stands behind an opening parenthesis. -/
inductive GroupStart where
  /-- A group, in which the given flags hold; `counts` says that it is numbered. -/
  | group (counts : Bool) (flags : Flags)
  /-- Flags that hold from here on. -/
  | setFlags (flags : Flags)

/-- Reads one of the signs of looking around, if it comes next. -/
def readLookAround : Read Bool := do
  if ← takeWord "?=" then return true
  else if ← takeWord "?!" then return true
  else if ← takeWord "?<=" then return true
  else takeWord "?<!"

/-- Reads the start of a group; its opening parenthesis, at `opened`, comes next. -/
def readGroupStart (opened : Span) : Read GroupStart := do
  advanceSkip
  if ← readLookAround then
    fail .lookAround (← spanFrom opened.start)
  let inner ← here
  if (← takeWord "?P<") || (← takeWord "?<") then
    readName
    return .group true []
  else if ← takeWord "?" then
    if ← isDone then
      fail .openGroup opened
    let r ← readFlags ⟨[], none, false⟩ ((← get).rest.length + 1)
    let flags := r.flags.reverse.map fun (f, on, _) => (f, on)
    let isGroup := (← peek) = some ':'
    advance
    if isGroup then
      return .group false flags
    else if flags.isEmpty && r.negation.isNone then
      fail .nothingToRepeat inner
    else
      return .setFlags flags
  else
    return .group true []

/-! ### Expressions -/

/-- Blanks are taken from here on if the flags say so. -/
def setVerbose (flags : Flags) : Read Unit :=
  match flags.state? .verbose with
  | some on => modify fun c => { c with verbose := on }
  | none => pure ()

mutual

/-- Reads alternatives behind some others, last one first, up to the end of their group.  They
start at `start`. -/
def readBranches (steps : Nat) (start : Position) (branches : List Tree) : Read Tree := do
  match steps with
  | 0 => return .ofBranches (← spanFrom start) branches.reverse
  | steps + 1 =>
    let first ← position
    let items ← readItems steps []
    let branch := Tree.ofItems (← spanFrom first) items.reverse
    if (← peek) = some '|' then
      advance
      readBranches steps start (branch :: branches)
    else
      return .ofBranches (← spanFrom start) (branch :: branches).reverse

/-- Reads what follows some items, last one first, up to the end of their alternative. -/
def readItems (steps : Nat) (items : List Tree) : Read (List Tree) := do
  match steps with
  | 0 => return items
  | steps + 1 =>
    skipBlanks
    match ← peek with
    | none | some '|' | some ')' => return items
    | some '(' =>
      let opened ← charSpan
      match ← readGroupStart opened with
      | .setFlags flags =>
        setVerbose flags
        readItems steps (.setFlags (← spanFrom opened.start) flags :: items)
      | .group counts flags =>
        let outer := (← get).verbose
        setVerbose flags
        let t ← readBranches steps (← position) []
        if ← isDone then
          fail .openGroup opened
        modify fun c => { c with verbose := outer }
        advance
        readItems steps (.group (← spanFrom opened.start) counts flags t :: items)
    | some '[' =>
      let (span, negated, body) ← readClass (2 * (← get).rest.length + 2)
      readItems steps (.brackets span negated body :: items)
    | some '?' => readItems steps (← readSign 0 (some 1) items)
    | some '*' => readItems steps (← readSign 0 none items)
    | some '+' => readItems steps (← readSign 1 none items)
    | some '\x7b' => readItems steps (← readCounted items)
    | some c => readItems steps ((← readPrimitive c).tree :: items)

end

/-- Reads a whole expression. -/
def readTree (steps : Nat) : Read Tree := do
  let t ← readBranches steps (← position) []
  if !(← isDone) then
    fail .unopenedGroup (← charSpan)
  match t.tooDeep? 0 with
  | some span => fail (.tooDeep depthLimit) span
  | none => return t

/-- The expression that is written in a text. -/
def Tree.ofText (s : String) : Except SyntaxError Tree :=
  (readTree (2 * s.length + 2)).run' (.ofText s)

end Gallery.Regex
