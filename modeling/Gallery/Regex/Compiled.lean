import Gallery.Regex.Encoded
import Gallery.Regex.Meaning
import Gallery.Regex.Reader

/-!
# Regular expressions from texts

`Expr.ofText` gives the expression that is written in a text, or says why there is none.

An expression with large counts stands for a very long one.  `Expr.weight` is the memory that the
states take by which an expression is followed through the bytes of a text, with all counts
written out: once for following it forwards, where groups are marked, and once for following it
backwards.  An expression that is too heavy either way is not used.
-/

namespace Gallery.Regex

open Gallery.Text (CharClass)

/-! ### The weight of expressions -/

/-- The weight of a state. -/
def stateWeight : Nat := 32

/-- The weight of a step to one of some other states, in the state from which it leads. -/
def choiceWeight : Nat := 4

/-- The weight of a step that takes one of some ranges of bytes. -/
def rangeWeight : Nat := 8

/-- The weight that an expression may have. -/
def weightLimit : Nat := 10485760

/-- The weight of the characters in some intervals.  Forwards, states from which the same bytes
follow are one; backwards, the states that stand behind the same bytes are one. -/
def intervalsWeight (backward : Bool) (xs : Intervals) : Nat :=
  match xs with
  | [] => stateWeight
  | _ =>
    if xs.all (·.2 < 0x80) then
      match xs with
      | [(first, last)] =>
        if first = last then stateWeight else 2 * stateWeight + rangeWeight
      | _ => 2 * stateWeight + xs.length * rangeWeight
    else
      let ss := sequencesOf xs
      if xs.length = 1 && xs.all (fun x => x.1 = x.2) then
        ss.flatten.length * stateWeight
      else if backward then
        2 * stateWeight + ss.length * choiceWeight + countStarts [] ss * stateWeight
      else
        (continuations 4 ss).eraseDups.foldr (fun following weight =>
          stateWeight + (branches following).length * rangeWeight + weight) stateWeight

/-- The weight of a class. -/
def classWeight (backward : Bool) (k : CharClass) : Nat :=
  intervalsWeight backward (.ofClass k)

namespace Expr

/-- The expression stands for no text but the empty one. -/
def isEmptyOnly : Expr → Bool
  | .empty | .place _ => true
  | .char _ => false
  | .seq e f | .either e f => e.isEmptyOnly && f.isEmptyOnly
  | .repeated _ most e => most = some 0 || e.isEmptyOnly
  | .group e => e.isEmptyOnly

/-- The expression stands for the empty text, at least at some places. -/
def canBeEmpty : Expr → Bool
  | .empty | .place _ => true
  | .char _ => false
  | .seq e f => e.canBeEmpty && f.canBeEmpty
  | .either e f => e.canBeEmpty || f.canBeEmpty
  | .repeated least _ e => least = 0 || e.canBeEmpty
  | .group e => e.canBeEmpty

/-- The class of the alternatives of an expression, if all of them are classes. -/
def alternativesClass? : Expr → Option CharClass
  | .char k => some k
  | .either e f =>
    match e.alternativesClass?, f.alternativesClass? with
    | some k, some l => some (.union k l)
    | _, _ => none
  | _ => none

/-- The weight of the choice between two expressions of the weights `v` and `w`; further
alternatives of the second one are joined to it. -/
def eitherWeight (v w : Nat) : Expr → Nat
  | .either _ _ => v + w + choiceWeight
  | _ => v + w + 2 * stateWeight + 2 * choiceWeight

/-- The weight of an expression of the weight `w` with counts.  `loops` is the weight of what
is added so that something empty can be repeated. -/
def repeatedWeight (w loops : Nat) : Nat → Option Nat → Nat
  | 0, none => w + stateWeight + 2 * choiceWeight + loops
  | least, none => least * w + stateWeight + 2 * choiceWeight
  | _, some 0 => stateWeight
  | 0, some 1 => w + 2 * stateWeight + 2 * choiceWeight
  | least, some most =>
    if most ≤ least then least * w
    else
      (if least = 0 then stateWeight else least * w) + stateWeight
        + (most - least) * (w + stateWeight + 2 * choiceWeight)

/-- The memory that the states of an expression take.  It does not matter how often something
empty is repeated. -/
def weight (backward : Bool) : Expr → Nat
  | .empty => stateWeight
  | .char k => classWeight backward k
  | .place _ => stateWeight
  | .seq .empty f => f.weight backward
  | .seq e .empty => e.weight backward
  | .seq e f => e.weight backward + f.weight backward
  | .either e f =>
    match (Expr.either e f).alternativesClass? with
    | some k => classWeight backward k
    | none => eitherWeight (e.weight backward) (f.weight backward) f
  | .repeated least most e =>
    let loops := if e.canBeEmpty then 2 * stateWeight + 2 * choiceWeight else 0
    if e.isEmptyOnly then
      repeatedWeight (e.weight backward) loops (min least 1) (some (min (most.getD 1) 1))
    else repeatedWeight (e.weight backward) loops least most
  | .group e => e.weight backward + (if backward then 0 else 2 * stateWeight)

/-- The weight of what stands around an expression: a loop in front of it that takes any byte, a
state behind it, and the marks of the whole. -/
def frameWeight (backward : Bool) : Nat :=
  (repeatedWeight (2 * stateWeight + rangeWeight) 0 0 none) + stateWeight
    + (if backward then 0 else 2 * stateWeight)

/-- The expression is too heavy to be used. -/
def isTooHeavy (e : Expr) : Bool :=
  [false, true].any fun backward => weightLimit < frameWeight backward + e.weight backward

end Expr

/-! ### Expressions from texts -/

/-- Why a text gives no expression. -/
inductive Refusal where
  /-- The text cannot be read, or has no meaning. -/
  | meaningless (pattern : String) (e : SyntaxError)
  /-- The expression is too heavy. -/
  | tooHeavy
  deriving DecidableEq, Repr

/-- The report of a refusal. -/
def Refusal.message : Refusal → String
  | .meaningless pattern e => e.report pattern
  | .tooHeavy => "Compiled regex exceeds size limit of " ++ Nat.repr weightLimit ++ " bytes."

/-- The expression that is written in a text. -/
def Expr.ofText (s : String) : Except Refusal Expr :=
  match Tree.ofText s >>= Tree.meaning with
  | .error e => .error (.meaningless s e)
  | .ok e => if e.isTooHeavy then .error .tooHeavy else .ok e

end Gallery.Regex
