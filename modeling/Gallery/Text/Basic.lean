import Gallery.Text.CharSet

/-!
# Blank texts and lines

`whiteSpace` is the Unicode property White_Space.  A text is blank when all its characters
are white space, and `trim` removes the white space at both ends of a text.

`splitOn sep s` is the list of the parts of `s` between the characters `sep`; there is always
at least one part.  Between line feeds these parts are the lines of the text, `lines`, and
`joinLines` puts the line feeds back.  A block of lines loses its outer blank lines by
`stripBlankLines`, which keeps every line between the first and the last that is not blank as
it is.
-/

namespace Gallery.Text

/-! ### White space -/

/-- The Unicode property White_Space. -/
def whiteSpace : CharSet where
  intervals := [
    (0x09, 0x0D), (0x20, 0x20), (0x85, 0x85), (0xA0, 0xA0), (0x1680, 0x1680),
    (0x2000, 0x200A), (0x2028, 0x2029), (0x202F, 0x202F), (0x205F, 0x205F), (0x3000, 0x3000)]

/-- A character of the property White_Space. -/
def isSpace (c : Char) : Bool :=
  whiteSpace.contains c

/-- The list without its leading and trailing elements that satisfy `p`. -/
def strip {α : Type} (p : α → Bool) (xs : List α) : List α :=
  ((xs.dropWhile p).reverse.dropWhile p).reverse

/-- The text without the white space at its ends. -/
def trim (s : String) : String :=
  String.ofList (strip isSpace s.toList)

/-- A text of white space only. -/
def isBlank (s : String) : Bool :=
  s.toList.all isSpace

@[simp]
theorem toList_trim (s : String) :
  (trim s).toList = strip isSpace s.toList
  := String.toList_ofList

/-! ### Lines -/

/-- The parts of a text between the occurrences of a character. -/
def splitOn (sep : Char) (s : String) : List String :=
  (s.toList.splitOn sep).map String.ofList

/-- The lines of a text: its parts between line feeds, the last one possibly empty. -/
def lines (s : String) : List String :=
  splitOn '\n' s

/-- The text with the given lines, separated by line feeds. -/
def joinLines (ls : List String) : String :=
  "\n".intercalate ls

/-- The text with the given words, separated by single blanks. -/
def joinWords (ws : List String) : String :=
  " ".intercalate ws

/-- The block without its leading and trailing blank lines. -/
def stripBlankLines (ls : List String) : List String :=
  strip isBlank ls

/-- The text in which every given line is ended by a line feed. -/
def endLines (ls : List String) : String :=
  String.join (ls.map (· ++ "\n"))

@[simp]
theorem endLines_nil :
  endLines [] = ""
  := rfl

@[simp]
theorem endLines_cons (l : String) (ls : List String) :
  endLines (l :: ls) = l ++ "\n" ++ endLines ls
  := by
  simp [endLines, String.join_cons]

theorem endLines_append (ls ms : List String) :
  endLines (ls ++ ms) = endLines ls ++ endLines ms
  := by
  induction ls with
  | nil => simp
  | cons l ls ih => simp [ih, String.append_assoc]

theorem endLines_map {α : Type} (line : α → String) (as : List α) :
  endLines (as.map line) = String.join (as.map fun a => line a ++ "\n")
  := by
  rw [endLines, List.map_map]
  rfl

theorem endLines_flatMap {α : Type} (ls : α → List String) (as : List α) :
  endLines (as.flatMap ls) = String.join (as.map fun a => endLines (ls a))
  := by
  induction as with
  | nil => rfl
  | cons a as ih => rw [List.flatMap_cons, endLines_append, List.map_cons, String.join_cons, ih]

end Gallery.Text
