import Gallery.Text.CharClass

/-!
# Classes in UTF-8

The characters of a class, written in UTF-8, are sequences of bytes.  `sequencesOf` describes them
by sequences of ranges of bytes: each range follows the one before it whatever byte was chosen
there.  The sequences are in ascending order, and the ranges that can stand at a place are equal
or disjoint.
-/

namespace Gallery.Regex

open Gallery.Text (CharClass)

/-- Closed intervals of numbers, in ascending order and apart from each other. -/
abbrev Intervals := List (Nat × Nat)

namespace Intervals

/-- An interval and those behind it, in ascending order of their first numbers, put together where
they touch. -/
def joinFrom (first last : Nat) : List (Nat × Nat) → Intervals
  | [] => [(first, last)]
  | (first', last') :: rest =>
    if first' ≤ last + 1 then joinFrom first (max last last') rest
    else (first, last) :: joinFrom first' last' rest

/-- The numbers in some intervals. -/
def ofList (xs : List (Nat × Nat)) : Intervals :=
  match xs.mergeSort fun x y => x.1 ≤ y.1 with
  | [] => []
  | (first, last) :: rest => joinFrom first last rest

/-- The code points from the given one on that are in no interval. -/
def gaps (start : Nat) : Intervals → Intervals
  | [] => if start ≤ 0x10FFFF then [(start, 0x10FFFF)] else []
  | (first, last) :: rest =>
    (if start < first then [(start, first - 1)] else []) ++ gaps (last + 1) rest

/-- The numbers that are in either. -/
def union (xs ys : Intervals) : Intervals :=
  ofList (xs ++ ys)

/-- The code points that are in both. -/
def inter (xs ys : Intervals) : Intervals :=
  gaps 0 (union (gaps 0 xs) (gaps 0 ys))

/-- The number is in an interval. -/
def contains (xs : Intervals) (n : Nat) : Bool :=
  xs.any fun (first, last) => first ≤ n && n ≤ last

/-- The code points of a run. -/
def pointsOf (r : Text.CaseRun) : List Nat :=
  (List.range ((r.last - r.first) / r.step + 1)).map fun i => r.first + i * r.step

/-- The code points that differ from some of the given ones in case alone, with these. -/
def folded (xs : Intervals) : Intervals :=
  let pairs := Text.foldRuns.flatMap fun r =>
    (pointsOf r).map fun n => (n, r.image + (n - r.first))
  let folds := (pairs.filter fun (n, fold) => xs.contains n || xs.contains fold).map (·.2)
  let reached := ofList (folds.map fun n => (n, n))
  let variants := (pairs.filter fun (_, fold) => contains reached fold).map (·.1)
  union (union xs reached) (ofList (variants.map fun n => (n, n)))

/-- The code points that differ from some of the given ones in the case of an ASCII letter, with
these. -/
def asciiFolded (xs : Intervals) : Intervals :=
  let letters := (List.range 26).filter fun i => xs.contains (0x41 + i) || xs.contains (0x61 + i)
  union xs (ofList (letters.flatMap fun i => [(0x41 + i, 0x41 + i), (0x61 + i, 0x61 + i)]))

/-- The code points of a class. -/
def ofClass : CharClass → Intervals
  | .set s => ofList s.intervals
  | .complement k => gaps 0 (ofClass k)
  | .union k l => union (ofClass k) (ofClass l)
  | .inter k l => inter (ofClass k) (ofClass l)
  | .diff k l => inter (ofClass k) (gaps 0 (ofClass l))
  | .folded k => folded (ofClass k)
  | .asciiFolded k => asciiFolded (ofClass k)

end Intervals

/-- A sequence of ranges of bytes. -/
abbrev ByteSequence := List (Nat × Nat)

/-- The sequences for the numbers of an interval, written with the given number of following
bytes; `lead` is added to the leading one. -/
def sequencesIn (lead : Nat) : Nat → Nat → Nat → List ByteSequence
  | 0, first, last => [[(lead + first, lead + last)]]
  | n + 1, first, last =>
    let behind := fun (q low high : Nat) =>
      (sequencesIn lead n q q).map (· ++ [(0x80 + low, 0x80 + high)])
    let q := first / 64
    let p := last / 64
    if q = p then behind q (first % 64) (last % 64)
    else
      let start := if first % 64 = 0 then q else q + 1
      let stop := if last % 64 = 63 then p + 1 else p
      (if start = q then [] else behind q (first % 64) 63)
        ++ (if start < stop then
            (sequencesIn lead n start (stop - 1)).map (· ++ [(0x80, 0xBF)])
          else [])
        ++ (if stop = p then behind p 0 (last % 64) else [])

/-- The code points that are written alike: the first and the last one, the number of following
bytes, and what is added to the leading one. -/
def encodings : List (Nat × Nat × Nat × Nat) :=
  [(0, 0x7F, 0, 0), (0x80, 0x7FF, 1, 0xC0), (0x800, 0xD7FF, 2, 0xE0), (0xE000, 0xFFFF, 2, 0xE0),
    (0x10000, 0x10FFFF, 3, 0xF0)]

/-- The sequences for the characters in some intervals. -/
def sequencesOf (xs : Intervals) : List ByteSequence :=
  xs.flatMap fun (first, last) => encodings.flatMap fun (least, most, n, lead) =>
    if max first least ≤ min last most then
      sequencesIn lead n (max first least) (min last most)
    else []

/-- How many sequences start the given ones, each counted once. -/
def countStarts (before : ByteSequence) : List ByteSequence → Nat
  | [] => 0
  | s :: ss =>
    let shared := ((before.zip s).takeWhile fun (x, y) => x = y).length
    s.length - shared + countStarts s ss

/-- What follows the first range of some sequences, for each such range. -/
def branches (ss : List ByteSequence) : List (List ByteSequence) :=
  (ss.splitBy fun s t => s.head? = t.head?).map fun group => group.map List.tail

/-- What can follow the ranges of some sequences, over up to `n` ranges. -/
def continuations : Nat → List ByteSequence → List (List ByteSequence)
  | 0, _ => []
  | n + 1, ss => ss :: ((branches ss).filter (· ≠ [[]])).flatMap (continuations n)

end Gallery.Regex
