/-!
# Sets of characters

A `CharSet` is a list of closed intervals of code points.  A character belongs to the set
when its code point lies in one of the intervals; the order of the intervals is irrelevant.
`CharSet.ofText` reads a set from the numbers of its code points, as the tables of the Unicode
standard write them.
-/

namespace Gallery.Text

/-- A set of characters, given by closed intervals of code points. -/
structure CharSet where
  intervals : List (Nat × Nat)

namespace CharSet

/-- Membership of a character in a set. -/
def contains (s : CharSet) (c : Char) : Bool :=
  s.intervals.any fun (first, last) => first ≤ c.toNat && c.toNat ≤ last

/-- The set of a single interval. -/
def ofRange (first last : Char) : CharSet :=
  ⟨[(first.toNat, last.toNat)]⟩

/-- The characters of either set. -/
def union (s t : CharSet) : CharSet :=
  ⟨s.intervals ++ t.intervals⟩

/-- The intervals of a text that have been read, last one first, and the one that is being
read: its first code point, if that is complete, and the number that stands last. -/
structure Reading where
  done : List (Nat × Nat)
  first : Option Nat
  number : Option Nat

/-- The intervals that have been read when the one that is being read ends. -/
def Reading.close (r : Reading) : List (Nat × Nat) :=
  match r.number with
  | some n => (r.first.getD n, n) :: r.done
  | none => r.done

/-- Reads a character: a hexadecimal digit in upper case, a hyphen between the first and the
last code point of an interval, or a blank behind an interval. -/
def Reading.step (r : Reading) (c : Char) : Reading :=
  if c.isDigit then
    { r with number := some (16 * r.number.getD 0 + (c.toNat - '0'.toNat)) }
  else if c.isUpper then
    { r with number := some (16 * r.number.getD 0 + (c.toNat - 'A'.toNat + 10)) }
  else if c = '-' then
    { r with first := r.number, number := none }
  else
    ⟨r.close, none, none⟩

/-- The set whose intervals are written in a text by hexadecimal numbers. -/
def ofText (s : String) : CharSet :=
  ⟨(s.toList.foldl Reading.step ⟨[], none, none⟩).close.reverse⟩

@[simp]
theorem contains_union (s t : CharSet) (c : Char) :
  (s.union t).contains c = (s.contains c || t.contains c)
  := by
  simp [contains, union, List.any_append]

@[simp]
theorem contains_ofRange (first last c : Char) :
  (ofRange first last).contains c = (first ≤ c && c ≤ last : Bool)
  := by
  simp [contains, ofRange, Char.le_def, UInt32.le_iff_toNat_le]

end CharSet

end Gallery.Text
