/-!
# Sets of positions in a text

What a pattern can stand for in a text is described by positions: from the positions that are
reached before a part of the pattern follow those that are reached behind it.  A `Reach` is a
set of positions, one flag for the position before each character and one for the end of the
text, so that all ways to match are followed at once.
-/

namespace Gallery.Text

/-- A set of positions in a text: a flag for the position before each character, and one for
the end. -/
abbrev Reach := List Bool

namespace Reach

/-- The start of the text. -/
def start (cs : List Char) : Reach :=
  true :: cs.map fun _ => false

/-- All positions. -/
def everywhere (cs : List Char) : Reach :=
  true :: cs.map fun _ => true

/-- The end of the text is in the set. -/
def atEnd (r : Reach) : Bool :=
  r.getLast? = some true

/-- The set has no position. -/
def isEmpty (r : Reach) : Bool :=
  !r.any fun here => here

/-- The positions of either set. -/
def union (r s : Reach) : Reach :=
  List.zipWith (fun here there => here || there) r s

/-- The positions behind a character that satisfies `p` and stands at a position of the set. -/
def step (p : Char → Bool) (cs : List Char) (r : Reach) : Reach :=
  false :: List.zipWith (fun here c => here && p c) r cs

/-- The positions of the set and those after one of them; `seen` says that the positions follow
one that is in the set. -/
def onward (seen : Bool) : Reach → Reach
  | [] => []
  | here :: r => (seen || here) :: onward (seen || here) r

/-- The positions of the set between two characters that satisfy `p` together; there is no
character before the start and none behind the end. -/
def between (p : Option Char → Option Char → Bool) (before : Option Char) :
    List Char → Reach → Reach
  | _, [] => []
  | [], here :: _ => [here && p before none]
  | c :: cs, here :: r => (here && p before (some c)) :: between p (some c) cs r

@[simp]
theorem length_step (p : Char → Bool) (cs : List Char) (r : Reach) :
  (step p cs r).length = min r.length cs.length + 1
  := by
  simp [step]

@[simp]
theorem length_onward (seen : Bool) (r : Reach) :
  (onward seen r).length = r.length
  := by
  induction r generalizing seen with
  | nil => rfl
  | cons here r ih => simp [onward, ih]

end Reach

end Gallery.Text
