import Gallery.Text.CaseFold
import Gallery.Text.CharSet

/-!
# Classes of characters

A class is a set of characters, or made from others by the operations on sets and by adding the
characters that differ in case alone.  `CharClass.contains` says what belongs to it; there is one
lemma for each way to make a class.
-/

namespace Gallery.Text

/-- A class of characters. -/
inductive CharClass where
  | set (s : CharSet)
  | complement (k : CharClass)
  | union (k l : CharClass)
  | inter (k l : CharClass)
  | diff (k l : CharClass)
  /-- The characters that differ from one of the class in case alone. -/
  | folded (k : CharClass)
  /-- The same for ASCII letters only. -/
  | asciiFolded (k : CharClass)

namespace CharClass

/-- Membership of a character in a class. -/
def contains : CharClass → Char → Bool
  | .set s, c => s.contains c
  | .complement k, c => !k.contains c
  | .union k l, c => k.contains c || l.contains c
  | .inter k l, c => k.contains c && l.contains c
  | .diff k l, c => k.contains c && !l.contains c
  | .folded k, c => (caseVariants c).any fun d => k.contains d
  | .asciiFolded k, c => k.contains c || k.contains c.toLower || k.contains c.toUpper

/-- The class of no character. -/
def empty : CharClass :=
  .set ⟨[]⟩

/-- The class of a single character. -/
def single (c : Char) : CharClass :=
  .set (.ofRange c c)

/-- The characters that belong to one class but not to the other. -/
def symDiff (k l : CharClass) : CharClass :=
  .diff (.union k l) (.inter k l)

/-- The characters of some classes. -/
def unionOf : List CharClass → CharClass
  | [] => empty
  | [k] => k
  | k :: ks => .union k (unionOf ks)

/-- The class or its complement. -/
def negateIf (negated : Bool) (k : CharClass) : CharClass :=
  if negated then .complement k else k

@[simp]
theorem contains_single (c d : Char) :
  (single c).contains d = decide (d = c)
  := by
  simp only [single, contains, CharSet.contains_ofRange]
  rw [Bool.eq_iff_iff]
  simp only [Bool.and_eq_true, decide_eq_true_eq]
  exact ⟨fun ⟨h, h'⟩ => Char.le_antisymm h' h, fun h => h ▸ ⟨Char.le_refl _, Char.le_refl _⟩⟩

@[simp]
theorem contains_symDiff (k l : CharClass) (c : Char) :
  (symDiff k l).contains c = (k.contains c != l.contains c)
  := by
  cases hk : k.contains c <;> cases hl : l.contains c <;> simp [symDiff, contains, hk, hl]

@[simp]
theorem contains_unionOf (ks : List CharClass) (c : Char) :
  (unionOf ks).contains c = ks.any fun k => k.contains c
  := by
  fun_induction unionOf ks with
  | case1 => simp [empty, contains, CharSet.contains]
  | case2 => simp
  | case3 k ks _ ih => simp [contains, ih]

@[simp]
theorem contains_negateIf (negated : Bool) (k : CharClass) (c : Char) :
  (negateIf negated k).contains c = (negated != k.contains c)
  := by
  cases negated <;> simp [negateIf, contains]

/-- A class is part of its fold. -/
theorem contains_folded_of_contains {k : CharClass} {c : Char} (h : k.contains c = true) :
  (folded k).contains c = true
  := List.any_eq_true.2 ⟨c, mem_caseVariants_self c, h⟩

end CharClass

/-- A class of characters with the names by which it is known. -/
structure NamedClass where
  names : List String
  characters : CharClass

end Gallery.Text
