import Gallery.Text.Basic
import Gallery.Text.LowerCase

/-!
# Languages of example sources

A language fixes the extension of its source files, the marker that starts a comment line,
and how its code is highlighted.  `Language.all` lists the languages that are known; they are
looked up by name or alias, whatever the letters' case, or by the extension of a file.
-/

namespace Gallery

open Gallery.Text

/-- A language of example sources. -/
structure Language where
  /-- The name, also that of the highlighter component. -/
  name : String
  /-- The name shown in titles. -/
  displayName : String
  /-- The extension of source files, without the dot. -/
  extension : String
  /-- What a comment line starts with. -/
  marker : String
  /-- The highlighter components that must be loaded before this language's own. -/
  requires : List String
  /-- Other names under which the language is found. -/
  aliases : List String
  deriving DecidableEq, Repr

namespace Language

/-- The class of highlighted code. -/
def highlightClass (l : Language) : String :=
  "language-" ++ l.name

/-- The shell, in which the companion script of every example is written. -/
def shell : Language :=
  ⟨"bash", "Bash", "sh", "#", [], ["sh", "shell"]⟩

/-- The known languages, in the order in which they are listed. -/
def all : List Language := [
  ⟨"csharp", "C#", "cs", "//", [], ["c#", "cs"]⟩,
  ⟨"rust", "Rust", "rs", "//", [], ["rs"]⟩,
  ⟨"go", "Go", "go", "//", [], ["golang"]⟩,
  ⟨"javascript", "JavaScript", "js", "//", [], ["js"]⟩,
  ⟨"typescript", "TypeScript", "ts", "//", [], ["ts"]⟩,
  ⟨"java", "Java", "java", "//", [], []⟩,
  ⟨"c", "C", "c", "//", [], []⟩,
  ⟨"cpp", "C++", "cpp", "//", ["c"], ["c++"]⟩,
  ⟨"kotlin", "Kotlin", "kt", "//", [], ["kt"]⟩,
  ⟨"swift", "Swift", "swift", "//", [], []⟩,
  ⟨"python", "Python", "py", "#", [], ["py"]⟩,
  ⟨"ruby", "Ruby", "rb", "#", [], ["rb"]⟩,
  shell]

/-- The language goes by the name `s`. -/
def isCalled (l : Language) (s : String) : Bool :=
  l.name = s || l.aliases.contains s

/-- The language with the given name or alias; white space around the name and the case of
its letters are ignored. -/
def byName? (name : String) : Option Language :=
  all.find? (·.isCalled (lower (trim name)))

/-- The language whose source files have the given extension. -/
def byExtension? (ext : String) : Option Language :=
  all.find? (·.extension = ext)

/-- The names of the known languages, as a message lists them. -/
def names : String :=
  ", ".intercalate (all.map (·.name))

end Language

end Gallery
