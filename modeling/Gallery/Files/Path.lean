import Gallery.Text.Basic

/-!
# File names and paths

A file name is a text that can be a step of a path and leads to an entry of a directory: it is
not empty, it is neither of the steps that stand for a directory and the one above it, it has no
slash and no null character, and it is not too long.

A path is a text; slashes separate its steps.  Empty steps and single dots do not lead
anywhere, so `Path.names` leaves them out; they matter only at the end of a path, where they ask
for a directory.  Paths are joined as texts and keep the spelling that they were given.
-/

namespace Gallery.Files

/-! ### File names -/

/-- The longest file name, in bytes. -/
def maxNameSize : Nat := 255

/-- The text can be a file name. -/
def isFileName (s : String) : Bool :=
  s ≠ "" && s ≠ "." && s ≠ ".." && !s.toList.contains '/' && !s.toList.contains '\x00'
    && s.utf8ByteSize ≤ maxNameSize

/-- A file name. -/
structure Name where
  text : String
  isFileName_text : isFileName text = true
  deriving DecidableEq, Repr

/-- The file name with the given text. -/
def Name.ofString? (s : String) : Option Name :=
  if h : isFileName s = true then some ⟨s, h⟩ else none

/-- A file name is determined by its text. -/
theorem Name.ext {m n : Name} (h : m.text = n.text) :
  m = n
  := by
  obtain ⟨s, hs⟩ := m
  obtain ⟨t, ht⟩ := n
  cases h
  rfl

theorem Name.ofString?_text (n : Name) :
  Name.ofString? n.text = some n
  := by
  simp [ofString?, n.isFileName_text]

/-! ### Paths -/

namespace Path

/-- The steps of a path: its parts between slashes. -/
def steps (path : String) : List String :=
  Text.splitOn '/' path

/-- The step stays where it is. -/
def staysPut (step : String) : Bool :=
  step = "" || step = "."

/-- The steps that lead somewhere. -/
def names (path : String) : List String :=
  (steps path).filter fun s => !staysPut s

/-- The path starts at the root. -/
def isAbsolute (path : String) : Bool :=
  path.toList.head? = some '/'

/-- The path of `name` within the directory `base`. -/
def join (base name : String) : String :=
  if base = "" || base.toList.getLast? = some '/' then base ++ name else base ++ "/" ++ name

/-- The path without its last step. -/
def parent (path : String) : String :=
  "/".intercalate (steps path).dropLast

/-- The name of the file or directory that a path leads to, unless it ends by going up or does
not go anywhere. -/
def fileName? (path : String) : Option String :=
  (names path).getLast?.filter (· ≠ "..")

/-- The name of the file or directory that a path leads to, empty if it has none. -/
def baseName (path : String) : String :=
  (fileName? path).getD ""

/-- What stands behind the last dot of a file name, unless nothing stands before that dot. -/
def extensionOfName? (name : String) : Option String :=
  let reversed := name.toList.reverse
  match reversed.dropWhile (· ≠ '.') with
  | [] | [_] => none
  | _ :: _ :: _ => some (String.ofList (reversed.takeWhile (· ≠ '.')).reverse)

/-- The extension of the file that a path leads to. -/
def extension? (path : String) : Option String :=
  (fileName? path).bind extensionOfName?

end Path

end Gallery.Files
