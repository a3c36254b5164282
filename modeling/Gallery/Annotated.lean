import Gallery.Text.Basic

/-!
# Annotated files

An annotated file is a header and a list of segments; a segment is a piece of documentation
beside the code that it describes.

A line of a file is a comment when it starts with the marker of its language, white space aside.
Of the other lines, those of white space only are blank and the rest is code.

A `Reader` takes the lines of a file one by one.  The comment lines before all code make the
header.  After that every comment line that follows code closes the current segment, unless
the code consists of blank lines: then these are dropped and the documentation goes on.  The
end of the file closes the last segment, whatever it holds.  `File.ofText` is the file that is
read from a text.
-/

namespace Gallery.Annotated

open Gallery.Text

/-! ### Files -/

/-- Documentation beside the code that follows it. -/
structure Segment where
  /-- The texts of the comment lines, separated by blanks. -/
  docs : String
  /-- The lines of code, without outer blank lines. -/
  code : String
  /-- Room is left between this segment and the next. -/
  spaced : Bool
  deriving DecidableEq, Repr, Inhabited

/-- A segment with nothing to show. -/
def Segment.isBlank (s : Segment) : Bool :=
  Text.isBlank s.docs && Text.isBlank s.code

/-- The content of an annotated source file. -/
structure File where
  /-- The comment before all code. -/
  header : String
  segments : List Segment
  deriving DecidableEq, Repr, Inhabited

/-- The file has a segment to show. -/
def File.hasContent (f : File) : Bool :=
  f.segments.any fun s => !s.isBlank

/-! ### Lines -/

/-- A line of an annotated file. -/
inductive Line where
  /-- A comment line, given by what follows its marker, trimmed. -/
  | comment (text : String)
  /-- A line of white space only. -/
  | blank (raw : String)
  /-- A line of code. -/
  | code (raw : String)
  deriving DecidableEq, Repr

/-- What follows the marker in a text that starts with it. -/
def afterMarker? (marker s : String) : Option String :=
  (marker.toList.isPrefixOf? s.toList).map String.ofList

/-- The kind of a line in a file whose comment lines start with `marker`. -/
def Line.classify (marker raw : String) : Line :=
  match afterMarker? marker (trim raw) with
  | some text => .comment (trim text)
  | none => if isBlank raw then .blank raw else .code raw

/-! ### Readers -/

/-- The part of a file in which a reader is. -/
inductive Phase where
  /-- Before the first line of code. -/
  | header
  /-- Within the documentation of a segment. -/
  | docs
  /-- Within the code of a segment. -/
  | code
  deriving DecidableEq, Repr

/-- A reader, after some lines of a file. -/
structure Reader where
  phase : Phase
  /-- The comment texts of the header. -/
  header : List String
  /-- The comment texts of the current segment. -/
  docs : List String
  /-- The lines of code of the current segment. -/
  code : List String
  /-- A blank line stands among the lines of code, after the first of them. -/
  spaced : Bool
  /-- The closed segments. -/
  segments : List Segment
  deriving DecidableEq, Repr

namespace Reader

/-- A reader before the first line. -/
def start : Reader :=
  ⟨.header, [], [], [], false, []⟩

/-- The text of a block of code: its lines without the outer blank ones. -/
def codeText (code : List String) : String :=
  joinLines (stripBlankLines code)

/-- Closes the current segment.  Code of blank lines only is dropped, and the documentation
before it stays. -/
def close (r : Reader) : Reader :=
  if r.code.all isBlank then
    { r with code := [], spaced := false }
  else
    { r with
      docs := [], code := [], spaced := false
      segments := r.segments ++ [⟨joinWords r.docs, codeText r.code, r.spaced⟩] }

/-- Takes a comment line. -/
def takeComment (r : Reader) (text : String) : Reader :=
  match r.phase with
  | .header => { r with header := r.header ++ [text] }
  | _ => { r.close with phase := .docs, docs := r.close.docs ++ [text] }

/-- Takes a blank line. -/
def takeBlank (r : Reader) (raw : String) : Reader :=
  match r.phase with
  | .header => r
  | _ => { r with phase := .code, code := r.code ++ [raw], spaced := !r.code.isEmpty }

/-- Takes a line of code. -/
def takeCode (r : Reader) (raw : String) : Reader :=
  { r with phase := .code, code := r.code ++ [raw] }

/-- Takes a line. -/
def step (r : Reader) : Line → Reader
  | .comment text => r.takeComment text
  | .blank raw => r.takeBlank raw
  | .code raw => r.takeCode raw

/-- The file that has been read when no line follows. -/
def finish (r : Reader) : File where
  header := trim (joinWords r.header)
  segments :=
    if r.code.isEmpty && r.docs.isEmpty then r.segments
    else r.segments ++ [⟨joinWords r.docs, codeText r.code, false⟩]

end Reader

/-- The file with the given lines. -/
def File.ofLines (ls : List Line) : File :=
  (ls.foldl Reader.step .start).finish

/-- The file read from a text in which comment lines start with `marker`. -/
def File.ofText (marker text : String) : File :=
  .ofLines ((lines text).map (Line.classify marker))

end Gallery.Annotated
