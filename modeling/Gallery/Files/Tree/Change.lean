import Gallery.Files.Tree.Basic

/-!
# Changes of file trees

Files are written and copied, directories made and entries removed at the locations to which
paths lead.  An operation that fails leaves the tree as it was, with one exception: `makeDirs`
makes one directory after another, so on failure too it returns the tree that it has made.
-/

namespace Gallery.Files.Tree

/-- The location of the file that is written at a path: a directory contains it, and it is not
one itself. -/
def target (t : Tree) (path : String) : Except Error Location := do
  let loc ← t.locate path
  match t.lookup loc with
  | some .dir => .error .isADirectory
  | _ => .ok loc

/-- The tree with a file written, new or instead of an old one. -/
def write (t : Tree) (path : String) (content : ByteArray) : Except Error Tree := do
  let loc ← t.target path
  .ok (t.set loc (.file content))

/-- The tree with the file at `source` copied to the path `dest`.  The target is emptied before
the content is copied, so a file that is copied to itself ends up empty. -/
def copy (t : Tree) (source dest : String) : Except Error Tree := do
  let loc ← t.locate source
  match t.lookup loc with
  | none => .error .notFound
  | some .dir => .error .notAFile
  | some (.file content) =>
    let out ← t.target dest
    .ok (t.set out (.file (if out = loc then .empty else content)))

/-- The location of the directory that is made at the end of the given steps: a directory
contains it, and nothing is there. -/
def vacancy (t : Tree) (start : Location) (steps : List String) : Except Error Location := do
  let parent ← t.walk start steps.dropLast
  t.requireDir parent
  match steps.getLast? with
  | none => .error .alreadyExists
  | some step =>
    if step = ".." then .error .alreadyExists
    else
      let loc ← stepFrom parent step
      if (t.lookup loc).isSome then .error .alreadyExists else .ok loc

/-- The tree with one more directory, at the end of the given steps. -/
def makeDir (t : Tree) (start : Location) (steps : List String) : Except Error Tree := do
  let loc ← t.vacancy start steps
  .ok (t.set loc .dir)

/-- The given steps lead to a directory. -/
def leadsToDir (t : Tree) (start : Location) (steps : List String) : Bool :=
  match t.walk start steps with
  | .ok loc => t.lookup loc = some .dir
  | .error _ => false

/-- Makes a directory; that it could not be made does not matter if it is there. -/
def ensureDir (t : Tree) (start : Location) (steps : List String) : Tree × Except Error Unit :=
  match t.makeDir start steps with
  | .ok t' => (t', .ok ())
  | .error e => (t, if t.leadsToDir start steps then .ok () else .error e)

/-- Makes the first of the given directories; each of them lies in the one after it, and those
that are missing are made first. -/
def makeChain (t : Tree) (start : Location) : List (List String) → Tree × Except Error Unit
  | [] => (t, .ok ())
  | steps :: parents =>
    match t.makeDir start steps with
    | .error .notFound =>
      match t.makeChain start parents with
      | (t', .ok ()) => t'.ensureDir start steps
      | failed => failed
    | _ => t.ensureDir start steps

/-- The directories on the way along a path, the last one first. -/
def chain (names : List String) : List (List String) :=
  (List.range names.length).reverse.map fun n => names.take (n + 1)

/-- The directories that a path asks for, the last one first.  A dot at its end counts as a
part of the last one. -/
def wanted (path : String) : List (List String) :=
  match chain (Path.names path), (Path.steps path).filter (· ≠ "") |>.getLast? with
  | last :: parents, some "." => (last ++ ["."]) :: parents
  | dirs, _ => dirs

/-- Makes the directory at a path and the directories on the way that are missing.  The tree is
returned on failure too: directories that were made remain. -/
def makeDirs (t : Tree) (path : String) : Tree × Except Error Unit :=
  match checkPath path with
  | .error e => (t, .error e)
  | .ok () => t.makeChain (t.origin path) (wanted path)

/-- The tree with an entry at a path, and with the directories on the way to it. -/
def place (t : Tree) (path : String) : Entry → Except Error Tree
  | .dir =>
    match t.makeDirs path with
    | (t', .ok ()) => .ok t'
    | (_, .error e) => .error e
  | .file content => (t.makeDirs (Path.parent path)).1.write path content

/-- The tree without what is found at a path, if anything is. -/
def remove? (t : Tree) (path : String) : Option Tree :=
  match t.locate path with
  | .error _ => none
  | .ok loc =>
    if (t.lookup loc).isSome then some { t with root := t.root.remove loc } else none

/-- What is found in `new`, and not in `old` at the same location. -/
def changes (old new : Tree) : List (Location × Entry) :=
  (new.below "/").filter fun (loc, entry) => old.lookup loc ≠ some entry

end Gallery.Files.Tree
