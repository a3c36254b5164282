/-!
# What a terminal shows

Texts may contain control sequences, which a terminal obeys instead of showing them.  Where no
terminal reads the output, the sequences are left out: `visible` keeps what a terminal would
show, and white space.

A sequence starts with the escape character.  It is a single command, a command with parameters,
or a string of some kind that goes on to its terminator.  A sequence that is not ended swallows
what follows, up to the end of the text.
-/

namespace Gallery.Text

/-- The part of a control sequence in which a reader is. -/
inductive Sequence where
  /-- Outside of all sequences. -/
  | none
  /-- After the escape character. -/
  | escape
  /-- After an escape character and intermediate characters. -/
  | escapeIntermediate
  /-- Before the parameters of a command. -/
  | commandStart
  /-- Within the parameters of a command. -/
  | commandParams
  /-- Behind the parameters of a command. -/
  | commandIntermediate
  /-- Within a malformed command. -/
  | commandIgnored
  /-- Before the parameters of a device string. -/
  | deviceStart
  /-- Within the parameters of a device string. -/
  | deviceParams
  /-- Behind the parameters of a device string. -/
  | deviceIntermediate
  /-- Within a malformed device string. -/
  | deviceIgnored
  /-- Within the data of a device string. -/
  | deviceData
  /-- Within a string for the operating system. -/
  | systemString
  /-- Within a string that has no meaning. -/
  | otherString
  deriving DecidableEq, Repr

namespace Sequence

/-- The code point lies in a range. -/
def within (first last n : Nat) : Bool :=
  first ≤ n && n ≤ last

/-- A byte that ends a string stands within the encoding of the character. -/
def hasTerminator (c : Char) : Bool :=
  (String.utf8EncodeChar c).contains 0x9C

/-- The part in which a command goes on with a character of the given code point, from the part
`stay`.  Parameters may come first, then intermediate characters, and a letter ends it. -/
def nextInCommand (stay : Sequence) (n : Nat) : Sequence :=
  if within 0x20 0x2F n then .commandIntermediate
  else if within 0x30 0x3B n then .commandParams
  else if within 0x40 0x7E n then .none
  else stay

/-- The part in which a device string goes on with a character of the given code point, from
the part `stay`. -/
def nextInDevice (stay : Sequence) (n : Nat) : Sequence :=
  if within 0x20 0x2F n then .deviceIntermediate
  else if within 0x30 0x3B n then .deviceParams
  else if within 0x40 0x7E n then .deviceData
  else stay

/-- The part in which a sequence goes on after an ASCII character that belongs to it. -/
def nextAscii (s : Sequence) (n : Nat) : Sequence :=
  match s with
  | .none => .none
  | .escape =>
    if within 0x20 0x2F n then .escapeIntermediate
    else if n = 0x50 then .deviceStart
    else if n = 0x5B then .commandStart
    else if n = 0x5D then .systemString
    else if n = 0x58 || n = 0x5E || n = 0x5F then .otherString
    else if within 0x30 0x7E n then .none
    else .escape
  | .escapeIntermediate => if within 0x30 0x7E n then .none else .escapeIntermediate
  | .commandStart =>
    if within 0x3C 0x3F n then .commandParams else nextInCommand .commandStart n
  | .commandParams =>
    if within 0x3C 0x3F n then .commandIgnored else nextInCommand .commandParams n
  | .commandIntermediate =>
    if within 0x30 0x3F n then .commandIgnored else nextInCommand .commandIntermediate n
  | .commandIgnored => if within 0x40 0x7E n then .none else .commandIgnored
  | .deviceStart =>
    if within 0x3C 0x3F n then .deviceParams else nextInDevice .deviceStart n
  | .deviceParams =>
    if within 0x3C 0x3F n then .deviceIgnored else nextInDevice .deviceParams n
  | .deviceIntermediate =>
    if within 0x30 0x3F n then .deviceIgnored else nextInDevice .deviceIntermediate n
  | .systemString => if n = 0x07 then .none else .systemString
  | .deviceIgnored => .deviceIgnored
  | .deviceData => .deviceData
  | .otherString => .otherString

/-- The part after a character.  The escape character starts a new sequence anywhere, and two
control characters break any sequence off. -/
def next (s : Sequence) (c : Char) : Sequence :=
  if c = '\x1b' then .escape
  else if c = '\x18' || c = '\x1a' then .none
  else if c.toNat < 0x80 then s.nextAscii c.toNat
  else
    match s with
    | .deviceIgnored | .deviceData | .otherString => if hasTerminator c then .none else s
    | _ => s

/-- White space that is kept. -/
def isKeptSpace (c : Char) : Bool :=
  c = '\t' || c = '\n' || c = '\x0c' || c = '\r'

/-- The character is kept when it is met in a part of a sequence: outside of sequences
everything is but control characters, and within a command white space is. -/
def keeps (s : Sequence) (c : Char) : Bool :=
  match s with
  | .none => isKeptSpace c || (0x20 ≤ c.toNat && c ≠ '\x7f')
  | .escape | .escapeIntermediate
  | .commandStart | .commandParams | .commandIntermediate | .commandIgnored => isKeptSpace c
  | _ => false

end Sequence

/-- What is kept of some characters in a part of a sequence.  White space interrupts a command:
after it characters are kept up to the next control character, where the command goes on.  That
characters are being kept is said by `shown`. -/
def visibleFrom (s : Sequence) (shown : Bool) : List Char → List Char
  | [] => []
  | c :: cs =>
    if (if shown then Sequence.none else s).keeps c then
      c :: visibleFrom (if c.toNat < 0x80 then s else .none) true cs
    else
      visibleFrom (s.next c) false cs

/-- The text without control sequences. -/
def visible (s : String) : String :=
  String.ofList (visibleFrom .none false s.toList)

end Gallery.Text
