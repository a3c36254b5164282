import Gallery.CommandLine.Param
import Gallery.Text.Visible

/-!
# Refused command lines

The reasons for which a command line is not accepted, and the messages that explain them.
Arguments are quoted in messages without control sequences.

The Jaro similarity of two words compares the characters that they have in common within a
certain distance of each other, and how many of those stand in a different order.  A word that
is not known is taken for the known word that is most similar to it, if one is similar enough.
-/

namespace Gallery.CommandLine

/-! ### Similar words -/

/-- Marks the first character `c` among those not yet marked, from position `low` up to but not
including `high`; the characters stand from position `i` on. -/
def markFirst? (c : Char) (low high i : Nat) : List (Char × Bool) → Option (List (Char × Bool))
  | [] => none
  | (d, marked) :: rest =>
    if high ≤ i then none
    else if low ≤ i && c = d && !marked then some ((d, true) :: rest)
    else (markFirst? c low high (i + 1) rest).map ((d, marked) :: ·)

/-- The characters that have a partner in `other` at most `reach` positions away, and `other`
with the partners marked; the characters stand from position `i` on. -/
def partners (reach i : Nat) (other : List (Char × Bool)) :
    List Char → List Char × List (Char × Bool)
  | [] => ([], other)
  | c :: cs =>
    match markFirst? c (i - reach) (i + reach + 1) 0 other with
    | some other' =>
      let (found, marks) := partners reach (i + 1) other' cs
      (c :: found, marks)
    | none => partners reach (i + 1) other cs

/-- The Jaro similarity of two words, between 0 and 1. -/
def similarity (a b : String) : Float :=
  let la := a.length
  let lb := b.length
  if la = 0 && lb = 0 then 1.0
  else
    let reach := max la lb / 2 - 1
    let (found, marks) := partners reach 0 (b.toList.map (·, false)) a.toList
    let partnersOfB := (marks.filter (·.2)).map (·.1)
    let m := found.length
    let t := ((found.zip partnersOfB).filter fun (x, y) => x ≠ y).length / 2
    if m = 0 then 0.0
    else
      (Float.ofNat m / Float.ofNat la + Float.ofNat m / Float.ofNat lb
        + Float.ofNat (m - t) / Float.ofNat m) / 3.0

/-- The least similarity at which a word is taken for another. -/
def similarEnough : Float := 0.7

/-- The last of the words that are most similar to `word` and similar enough. -/
def mostSimilar? {α : Type} (name : α → String) (word : String) : List α → Option α :=
  let pick (best : Option (α × Float)) (x : α) : Option (α × Float) :=
    let s := similarity word (name x)
    if s > similarEnough && best.all fun (_, s') => s ≥ s' then some (x, s) else best
  fun xs => (xs.foldl pick none).map (·.1)

/-! ### Reasons and messages -/

/-- A reason for which a command line is not accepted. -/
inductive Refusal where
  /-- No option has the long name; perhaps one with a similar name was meant.  `used` are the
  parameters that the command line has besides. -/
  | unknownLong (name : String) (similar : Option Param) (used : List Param)
  /-- No option has the letter. -/
  | unknownLetter (c : Char)
  /-- There is no place for one more value. -/
  | surplus (value : String)
  /-- The value of a parameter is missing. -/
  | missingValue (p : Param)
  /-- A parameter is given twice. -/
  | repeated (p : Param)
  /-- A value is given to an option that takes none; `first` says that no parameter is stored
  before it. -/
  | needlessValue (p : Param) (value : String) (first : Bool)
  deriving DecidableEq, Repr

/-- An argument, or a part of one, as a message quotes it. -/
def quotation (arg : String) : String :=
  "'" ++ Text.visible arg ++ "'"

/-- The advice to pass an argument as a value. -/
def valueTip (arg : String) : String :=
  "to pass " ++ quotation arg ++ " as a value, use " ++ quotation ("-- " ++ arg)

namespace Refusal

/-- What is wrong. -/
def problem : Refusal → String
  | .unknownLong name _ _ => "unexpected argument " ++ quotation ("--" ++ name) ++ " found"
  | .unknownLetter c => "unexpected argument " ++ quotation (String.ofList ['-', c]) ++ " found"
  | .surplus value => "unexpected argument " ++ quotation value ++ " found"
  | .missingValue p => "a value is required for '" ++ p.shown ++ "' but none was supplied"
  | .repeated p => "the argument '" ++ p.shown ++ "' cannot be used multiple times"
  | .needlessValue p value _ =>
    "unexpected value " ++ quotation value ++ " for '" ++ p.shown ++ "' found; no more were expected"

/-- What may help. -/
def tip? : Refusal → Option String
  | .unknownLong _ (some p) _ => some ("a similar argument exists: '--" ++ p.long ++ "'")
  | .unknownLong name none _ => some (valueTip ("--" ++ name))
  | .unknownLetter c => some (valueTip (String.ofList ['-', c]))
  | _ => none

/-- The usage line that is shown. -/
def usage? : Refusal → Option String
  | .unknownLong _ similar used => some (usageWith (used ++ similar.toList))
  | .needlessValue p _ first => some (if first then usageWith [p] else usageOfAll p)
  | .missingValue _ => none
  | .unknownLetter _ | .surplus _ | .repeated _ => some plainUsage

/-- The whole message: paragraphs separated by empty lines. -/
def message (r : Refusal) : String :=
  "\n\n".intercalate
    (["error: " ++ r.problem]
      ++ (r.tip?.map ("  tip: " ++ ·)).toList
      ++ r.usage?.toList
      ++ ["For more information, try '--help'."])
  ++ "\n"

end Refusal

end Gallery.CommandLine
