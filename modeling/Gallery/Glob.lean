import Gallery.Text.Reach

/-!
# Glob patterns

A pattern is a list of tokens, read from a text by `Pattern.ofText` and compared with whole
names by `Pattern.accepts`.  A star stands for any characters, a question mark for one, and
brackets for one of a class.  Two stars form a token of their own, which must be a whole step of
a path and stands for any number of steps.  Letters are compared exactly, and neither slashes
nor leading dots are special to the other tokens.
-/

namespace Gallery.Glob

open Gallery.Text

/-- A member of a class of characters. -/
inductive Specifier where
  | single (c : Char)
  | range (first last : Char)
  deriving DecidableEq, Repr

/-- The character is described by the member. -/
def Specifier.covers (c : Char) : Specifier → Bool
  | .single d => c = d
  | .range first last => first ≤ c && c ≤ last

/-- A piece of a pattern. -/
inductive Token where
  /-- The given character. -/
  | char (c : Char)
  /-- Any one character. -/
  | anyChar
  /-- Any characters. -/
  | anyText
  /-- Any steps of a path. -/
  | anySteps
  /-- A character of a class. -/
  | oneOf (members : List Specifier)
  /-- A character outside of a class. -/
  | noneOf (members : List Specifier)
  deriving DecidableEq, Repr

/-- A pattern. -/
abbrev Pattern := List Token

/-! ### Comparing -/

/-- The token stands for the character. -/
def Token.covers (c : Char) : Token → Bool
  | .char d => c = d
  | .anyChar => true
  | .oneOf members => members.any (·.covers c)
  | .noneOf members => !members.any (·.covers c)
  | .anyText | .anySteps => false

/-- The positions that whole steps lead to from those of a set: the positions themselves, and
after them those behind a slash and the end.  `seen` says that the positions follow one of the
set, and `stepStart` that the first of them stands behind a slash. -/
def alongSteps (seen stepStart : Bool) : List Char → Reach → Reach
  | _, [] => []
  | [], here :: _ => [here || seen]
  | c :: cs, here :: r =>
    (here || (seen && stepStart)) :: alongSteps (seen || here) (c = '/') cs r

/-- The positions that are reached behind a token. -/
def Token.advance (cs : List Char) (r : Reach) (t : Token) : Reach :=
  match t with
  | .anyText => r.onward false
  | .anySteps => alongSteps false false cs r
  | t => r.step t.covers cs

/-- The pattern stands for the name: its tokens lead from the start of the name to the end. -/
def Pattern.accepts (p : Pattern) (name : String) : Bool :=
  (p.foldl (Token.advance name.toList) (Reach.start name.toList)).atEnd

/-! ### Reading -/

/-- What is wrong with a pattern. -/
inductive Fault where
  /-- More than two stars in a row. -/
  | tooManyStars
  /-- Two stars that are not a whole step. -/
  | notAStep
  /-- A class without an end. -/
  | openClass
  deriving DecidableEq, Repr

/-- A fault, with the number of characters before it. -/
structure Error where
  position : Nat
  fault : Fault
  deriving DecidableEq, Repr

/-- The text of a fault. -/
def Fault.message : Fault → String
  | .tooManyStars => "wildcards are either regular \x60*\x60 or recursive \x60**\x60"
  | .notAStep => "recursive wildcards must form a single path component"
  | .openClass => "invalid range pattern"

/-- The text of an error. -/
def Error.message (e : Error) : String :=
  "Pattern syntax error near position " ++ Nat.repr e.position ++ ": " ++ e.fault.message

/-- The members of a class. -/
def specifiers : List Char → List Specifier
  | first :: '-' :: last :: cs => .range first last :: specifiers cs
  | c :: cs => .single c :: specifiers cs
  | [] => []

/-- A class that has been read: the token, the number of characters that it takes, and those
behind it. -/
structure Class where
  token : Token
  size : Nat
  rest : List Char

/-- The class whose first character is `first`; it goes on to the next closing bracket. -/
def closeClass? (token : List Specifier → Token) (first : Char) (cs : List Char) :
    Option Class :=
  if cs.contains ']' then
    let members := first :: cs.takeWhile (· ≠ ']')
    some ⟨token (specifiers members), members.length + 1, (cs.dropWhile (· ≠ ']')).tail⟩
  else
    none

/-- The class behind an opening bracket.  Its first character may be a closing bracket. -/
def charClass? : List Char → Option Class
  | '!' :: first :: cs =>
    (closeClass? .noneOf first cs).map fun k => { k with size := k.size + 1 }
  | '!' :: [] => none
  | first :: cs => closeClass? .oneOf first cs
  | [] => none

theorem closeClass?_rest_length {token : List Specifier → Token} {first : Char}
    {cs : List Char} {k : Class} (h : closeClass? token first cs = some k) :
  k.rest.length ≤ cs.length
  := by
  unfold closeClass? at h
  split at h
  · cases h
    have := (List.dropWhile_sublist (l := cs) (· ≠ ']')).length_le
    simp only [List.length_tail]
    omega
  · cases h

theorem charClass?_rest_length {cs : List Char} {k : Class} (h : charClass? cs = some k) :
  k.rest.length ≤ cs.length
  := by
  unfold charClass? at h
  split at h
  · obtain ⟨k', hk', rfl⟩ := Option.map_eq_some_iff.1 h
    have := closeClass?_rest_length hk'
    simp only [List.length_cons]
    omega
  · cases h
  · have := closeClass?_rest_length h
    simp only [List.length_cons]
    omega
  · cases h

/-- The tokens of the characters that stand at a position.  `stepStart` says that a step starts
there. -/
def tokens (position : Nat) (stepStart : Bool) : List Char → Except Error Pattern
  | [] => .ok []
  | '*' :: '*' :: '*' :: _ => .error ⟨position + 2, .tooManyStars⟩
  | '*' :: '*' :: cs =>
    if stepStart then
      match cs with
      | [] => .ok [.anySteps]
      | '/' :: cs => (.anySteps :: ·) <$> tokens (position + 3) true cs
      | _ :: _ => .error ⟨position + 2, .notAStep⟩
    else
      .error ⟨position - 1, .notAStep⟩
  | '*' :: cs => (.anyText :: ·) <$> tokens (position + 1) false cs
  | '?' :: cs => (.anyChar :: ·) <$> tokens (position + 1) false cs
  | '[' :: cs =>
    match h : charClass? cs with
    | some k => (k.token :: ·) <$> tokens (position + 1 + k.size) false k.rest
    | none => .error ⟨position, .openClass⟩
  | c :: cs => (.char c :: ·) <$> tokens (position + 1) (c = '/') cs
termination_by cs => cs.length
decreasing_by
  all_goals simp only [List.length_cons]
  all_goals first
    | omega
    | have := charClass?_rest_length h
      omega

/-- The pattern written in a text. -/
def Pattern.ofText (s : String) : Except Error Pattern :=
  tokens 0 true s.toList

end Gallery.Glob
