import Gallery.Files.Entries

/-!
# File trees

A tree holds files and directories below one root, and a working directory from which relative
paths start.  A path is followed step by step to a location by `locate`, and the operations that
read a tree look up the entry at the location to which their path leads.  An operation that fails
has a reason, an `Error`.
-/

namespace Gallery.Files

/-! ### Errors -/

/-- A reason for which an operation on files fails. -/
inductive Error where
  /-- The file, or a directory on the way to it, does not exist. -/
  | notFound
  /-- The name is taken. -/
  | alreadyExists
  /-- A file stands where a directory is needed. -/
  | notADirectory
  /-- A directory stands where a file is needed. -/
  | isADirectory
  /-- A name, or a whole path, is too long. -/
  | nameTooLong
  /-- The path has a null character in it. -/
  | nullInPath
  /-- The content of the file is not UTF-8. -/
  | notText
  /-- What should be copied is not a file. -/
  | notAFile
  deriving DecidableEq, Repr

/-- The text of a reason. -/
def Error.message : Error → String
  | .notFound => "No such file or directory (os error 2)"
  | .alreadyExists => "File exists (os error 17)"
  | .notADirectory => "Not a directory (os error 20)"
  | .isADirectory => "Is a directory (os error 21)"
  | .nameTooLong => "File name too long (os error 36)"
  | .nullInPath => "file name contained an unexpected NUL byte"
  | .notText => "stream did not contain valid UTF-8"
  | .notAFile => "the source path is neither a regular file nor a symlink to a regular file"

/-! ### Trees -/

/-- A tree of files and directories. -/
structure Tree where
  /-- The entries below the root. -/
  root : Entries
  /-- The working directory. -/
  here : Location
  deriving Inhabited

namespace Tree

/-- The name of the working directory of a fresh tree. -/
def workName : Name :=
  ⟨"work", by decide +kernel⟩

/-- A tree whose working directory is the only entry. -/
def fresh : Tree where
  root := [(workName, .dir [])]
  here := [workName]

/-- What is found at a location. -/
def lookup (t : Tree) (loc : Location) : Option Entry :=
  t.root.lookup loc

/-- The tree with an entry set at a location. -/
def set (t : Tree) (loc : Location) (entry : Entry) : Tree :=
  { t with root := t.root.set entry loc }

/-- Setting an entry in a directory, in the place of none or of a file, changes what is found at
its location only. -/
theorem lookup_set {t : Tree} {loc : Location} (entry : Entry)
    (hdir : t.lookup loc.dropLast = some .dir) (hloc : t.lookup loc ≠ some .dir)
    (other : Location) :
  (t.set loc entry).lookup other = if other = loc then some entry else t.lookup other
  := Entries.lookup_set entry hdir hloc other

/-- What is found lies in a directory. -/
theorem lookup_dropLast {t : Tree} {loc : Location} (h : t.lookup loc ≠ none) :
  t.lookup loc.dropLast = some .dir
  := Entries.lookup_dropLast h

/-! ### Following paths -/

/-- A path must be shorter than this, in bytes. -/
def pathSizeLimit : Nat := 4096

/-- There is a directory at a location. -/
def requireDir (t : Tree) (loc : Location) : Except Error Unit :=
  match t.lookup loc with
  | some .dir => .ok ()
  | some (.file _) => .error .notADirectory
  | none => .error .notFound

/-- The location to which one step leads from a directory.  A step that is no file name is too
long for one. -/
def stepFrom (loc : Location) (step : String) : Except Error Location :=
  if Path.staysPut step then .ok loc
  else if step = ".." then .ok loc.dropLast
  else
    match Name.ofString? step with
    | some name => .ok (loc ++ [name])
    | none => .error .nameTooLong

/-- The location to which `steps` lead from `loc`.  Every step starts from a directory; what
the last one leads to need not exist. -/
def walk (t : Tree) (loc : Location) : List String → Except Error Location
  | [] => .ok loc
  | step :: steps => do
    t.requireDir loc
    t.walk (← stepFrom loc step) steps

/-- The location from which a path starts. -/
def origin (t : Tree) (path : String) : Location :=
  if Path.isAbsolute path then [] else t.here

/-- A path that can be followed at all. -/
def checkPath (path : String) : Except Error Unit :=
  if path.toList.contains '\x00' then .error .nullInPath
  else if pathSizeLimit ≤ path.utf8ByteSize then .error .nameTooLong
  else .ok ()

/-- The location to which a path leads; the empty path leads nowhere. -/
def locate (t : Tree) (path : String) : Except Error Location := do
  checkPath path
  if path = "" then .error .notFound else t.walk (t.origin path) (Path.steps path)

/-- What is found at a path. -/
def find? (t : Tree) (path : String) : Option Entry :=
  match t.locate path with
  | .ok loc => t.lookup loc
  | .error _ => none

/-- The path leads to a directory. -/
def isDir (t : Tree) (path : String) : Bool :=
  t.find? path = some .dir

/-- The path leads to a file. -/
def isFile (t : Tree) (path : String) : Bool :=
  match t.find? path with
  | some (.file _) => true
  | _ => false

/-! ### Reading -/

/-- The names of the entries in the directory to which a path leads. -/
def list (t : Tree) (path : String) : List Name :=
  match t.locate path with
  | .ok loc => t.root.namesAt loc
  | .error _ => []

/-- The content of a file. -/
def read (t : Tree) (path : String) : Except Error ByteArray := do
  let loc ← t.locate path
  match t.lookup loc with
  | some (.file content) => .ok content
  | some .dir => .error .isADirectory
  | none => .error .notFound

/-- The text of a file. -/
def readText (t : Tree) (path : String) : Except Error String := do
  let content ← t.read path
  match String.fromUTF8? content with
  | some text => .ok text
  | none => .error .notText

/-- All that is found below a path, each with the names that lead there. -/
def below (t : Tree) (path : String) : List (Location × Entry) :=
  match t.locate path with
  | .ok loc =>
    match t.root.nodeAt? loc with
    | some node => node.listAfter []
    | none => []
  | .error _ => []

end Tree

end Gallery.Files
