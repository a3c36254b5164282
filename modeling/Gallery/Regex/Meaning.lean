import Gallery.Regex.Expr
import Gallery.Regex.Property
import Gallery.Text.Basic
import Gallery.Text.Word

/-!
# What is meant by a written expression

`Tree.meaning` gives the expression that a written one means.  The meaning depends on flags,
which hold from where they are set up to the end of the group around them.
-/

namespace Gallery.Regex

open Gallery.Text (CharClass CharSet)

/-- The flags on which a meaning depends. -/
structure Modes where
  caseInsensitive : Bool
  multiLine : Bool
  dotAll : Bool
  unicode : Bool
  crlf : Bool

namespace Modes

/-- The flags at the start of an expression. -/
def initial : Modes :=
  ⟨false, false, false, true, false⟩

/-- The flags after one of them has been set. -/
def set (m : Modes) : Flag × Bool → Modes
  | (.caseInsensitive, on) => { m with caseInsensitive := on }
  | (.multiLine, on) => { m with multiLine := on }
  | (.dotAll, on) => { m with dotAll := on }
  | (.unicode, on) => { m with unicode := on }
  | (.crlf, on) => { m with crlf := on }
  | (.swapGreed, _) | (.verbose, _) => m

/-- The flags after some of them have been set. -/
def setAll (m : Modes) (flags : Flags) : Modes :=
  flags.foldl Modes.set m

/-- A class with the characters that count as the same. -/
def fold (m : Modes) (k : CharClass) : CharClass :=
  if !m.caseInsensitive then k
  else if m.unicode then .folded k
  else .asciiFolded k

/-- A class with the characters that count as the same, or its complement. -/
def foldNegate (m : Modes) (negated : Bool) (k : CharClass) : CharClass :=
  (m.fold k).negateIf negated

/-- A class, unless it goes beyond ASCII where only bytes are known: there it would match parts
of characters. -/
def checked (m : Modes) (span : Span) (k : CharClass) : Except SyntaxError CharClass :=
  if !m.unicode && k.contains '\x80' then .error ⟨.partOfCharacter, span, none⟩ else .ok k

end Modes

/-! ### Classes -/

/-- The characters of an ASCII class. -/
def AsciiClass.characters : AsciiClass → CharSet
  | .alnum => .ofText "30-39 41-5A 61-7A"
  | .alpha => .ofText "41-5A 61-7A"
  | .ascii => .ofText "0-7F"
  | .blank => .ofText "9 20"
  | .cntrl => .ofText "0-1F 7F"
  | .digit => .ofText "30-39"
  | .graph => .ofText "21-7E"
  | .lower => .ofText "61-7A"
  | .print => .ofText "20-7E"
  | .punct => .ofText "21-2F 3A-40 5B-60 7B-7E"
  | .space => .ofText "9-D 20"
  | .upper => .ofText "41-5A"
  | .word => .ofText "30-39 41-5A 5F 61-7A"
  | .xdigit => .ofText "30-39 41-46 61-66"

/-- The characters of words. -/
def Modes.word (m : Modes) : CharClass :=
  .set (if m.unicode then Text.wordCharacters else AsciiClass.word.characters)

/-- The characters of a class with a letter of its own. -/
def Shorthand.characters (m : Modes) : Shorthand → CharClass
  | .digit =>
    .set (if m.unicode then Text.Category.decimalNumber.characters
      else AsciiClass.digit.characters)
  | .space => .set (if m.unicode then Text.whiteSpace else AsciiClass.space.characters)
  | .word => m.word

/-- The class that a letter stands for. -/
def Shorthand.meaning (m : Modes) (span : Span) (negated : Bool) (s : Shorthand) :
    Except SyntaxError CharClass :=
  m.checked span ((s.characters m).negateIf negated)

/-- The class that a property names. -/
def PropertyName.meaning (m : Modes) (span : Span) (negated : Bool) (name : PropertyName) :
    Except SyntaxError CharClass :=
  if !m.unicode then .error ⟨.unicodeRefused, span, none⟩
  else
    match name.characters with
    | .ok k => .ok (m.foldNegate negated k)
    | .error fault => .error ⟨fault, span, none⟩

/-- The character that a literal stands for.  The number of a byte beyond ASCII stands for no
character where only bytes are known. -/
def Literal.meaning (m : Modes) (l : Literal) : Except SyntaxError Char :=
  if !m.unicode && l.isByte && 0x7F < l.char.toNat then .error ⟨.partOfCharacter, l.span, none⟩
  else .ok l.char

/-- The character that a literal in a class stands for. -/
def Literal.memberMeaning (m : Modes) (l : Literal) : Except SyntaxError Char := do
  let c ← l.meaning m
  if !m.unicode && 0x7F < c.toNat then .error ⟨.unicodeRefused, l.span, none⟩
  else .ok c

/-- The class of a set operation. -/
def SetOperation.apply (op : SetOperation) (left right : CharClass) : CharClass :=
  match op with
  | .intersection => .inter left right
  | .difference => .diff left right
  | .symmetricDifference => .symDiff left right

mutual

/-- The class that is meant within brackets. -/
def ClassBody.meaning (m : Modes) : ClassBody → Except SyntaxError CharClass
  | .empty _ => .ok .empty
  | .literal l => do
    let c ← l.memberMeaning m
    return .single c
  | .range first last => do
    let c ← first.memberMeaning m
    let d ← last.memberMeaning m
    return .set (.ofRange c d)
  | .ascii span negated k => m.checked span (m.foldNegate negated (.set k.characters))
  | .shorthand span negated s => s.meaning m span negated
  | .property span negated name => name.meaning m span negated
  | .nested span negated body => do
    let k ← body.meaning m
    m.checked span (m.foldNegate negated k)
  | .union _ members => do
    let ks ← ClassBody.meanings m members
    return .unionOf ks
  | .operation _ op left right => do
    let k ← left.meaning m
    let l ← right.meaning m
    return op.apply (m.fold k) (m.fold l)

/-- The classes of some members. -/
def ClassBody.meanings (m : Modes) : List ClassBody → Except SyntaxError (List CharClass)
  | [] => .ok []
  | b :: bs => do
    let k ← b.meaning m
    let ks ← ClassBody.meanings m bs
    return k :: ks

end

/-! ### Expressions -/

/-- The expression of a literal. -/
def Modes.literal (m : Modes) (c : Char) : Expr :=
  .char (m.fold (.single c))

/-- The expression of the dot. -/
def Modes.dot (m : Modes) : Expr :=
  .char <| .complement <|
    if m.dotAll then .empty
    else if m.crlf then .union (.single '\r') (.single '\n')
    else .single '\n'

/-- The place that an assertion means. -/
def Assertion.place (m : Modes) : Assertion → Place
  | .startLine =>
    if !m.multiLine then .textStart else if m.crlf then .anyLineStart else .lineStart
  | .endLine => if !m.multiLine then .textEnd else if m.crlf then .anyLineEnd else .lineEnd
  | .startText => .textStart
  | .endText => .textEnd
  | .boundary => .wordBoundary m.word
  | .noBoundary => .noWordBoundary m.word
  | .wordStart => .wordStart m.word
  | .wordEnd => .wordEnd m.word
  | .halfStart => .behindNoWord m.word
  | .halfEnd => .beforeNoWord m.word

mutual

/-- The expression that is meant by a written one, and the flags behind it. -/
def Tree.meaningIn (m : Modes) : Tree → Except SyntaxError (Expr × Modes)
  | .empty _ => .ok (.empty, m)
  | .setFlags _ flags => .ok (.empty, m.setAll flags)
  | .literal l => do
    let c ← l.meaning m
    return (m.literal c, m)
  | .dot span =>
    if m.unicode then .ok (m.dot, m) else .error ⟨.partOfCharacter, span, none⟩
  | .assertion _ a => .ok (.place (a.place m), m)
  | .shorthand span negated s => do
    let k ← s.meaning m span negated
    return (.char k, m)
  | .property span negated name => do
    let k ← name.meaning m span negated
    return (.char k, m)
  | .brackets span negated body => do
    let k ← body.meaning m
    let l ← m.checked span (m.foldNegate negated k)
    return (.char l, m)
  | .repetition _ least most t => do
    let (e, m') ← t.meaningIn m
    return (.repeated least most e, m')
  | .group _ counts flags t => do
    let (e, _) ← t.meaningIn (m.setAll flags)
    return (if counts then .group e else e, m)
  | .concat _ ts => do
    let (es, m') ← Tree.meaningsIn m ts
    return (.ofSeq es, m')
  | .alternation _ ts => do
    let (es, m') ← Tree.meaningsIn m ts
    return (.ofEither es, m')

/-- The expressions that are meant by some written ones after each other, and the flags behind
them. -/
def Tree.meaningsIn (m : Modes) : List Tree → Except SyntaxError (List Expr × Modes)
  | [] => .ok ([], m)
  | t :: ts => do
    let (e, m') ← t.meaningIn m
    let (es, m'') ← Tree.meaningsIn m' ts
    return (e :: es, m'')

end

/-- The expression that is meant by a written one. -/
def Tree.meaning (t : Tree) : Except SyntaxError Expr :=
  (·.1) <$> t.meaningIn .initial

end Gallery.Regex
