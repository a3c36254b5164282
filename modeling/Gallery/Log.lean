import Gallery.Regex.Compiled
import Gallery.Text.Basic
import Gallery.Text.Visible

/-!
# Log records

A run reports what it does as records of a level and a text.  A filter decides which records
are shown: it is made from a default level and a specification, a list of directives that set
the level for all records or for those of some targets, and perhaps a regular expression that
must occur in the text of a record.
-/

namespace Gallery.Log

/-- The level of a record. -/
inductive Level where
  | error
  | warn
  | info
  | debug
  | trace
  deriving DecidableEq, Repr

namespace Level

/-- The levels, from the most important to the least. -/
def all : List Level := [.error, .warn, .info, .debug, .trace]

/-- The number of levels that are more important. -/
def rank : Level → Nat
  | .error => 0
  | .warn => 1
  | .info => 2
  | .debug => 3
  | .trace => 4

/-- The name of a level. -/
def name : Level → String
  | .error => "ERROR"
  | .warn => "WARN"
  | .info => "INFO"
  | .debug => "DEBUG"
  | .trace => "TRACE"

end Level

/-- A report of something that a run has done. -/
structure Record where
  level : Level
  text : String
  deriving DecidableEq, Repr

/-- Which records are shown: none, or those that are at least as important as a level. -/
abbrev Threshold := Option Level

/-- The records of a level are shown. -/
def Threshold.shows (limit : Threshold) (level : Level) : Bool :=
  limit.any fun l => level.rank ≤ l.rank

/-! ### Filters -/

/-- A directive: the threshold for the targets that start with a text, or for all. -/
structure Directive where
  target : Option String
  limit : Threshold
  deriving DecidableEq, Repr

/-- A filter of records. -/
structure Filter where
  directives : List Directive
  /-- What must occur in the text of a record. -/
  needle : Option Regex.Expr

/-- The directives with one more, instead of an earlier one for the same target. -/
def addDirective (d : Directive) (ds : List Directive) : List Directive :=
  if ds.any (·.target = d.target) then
    ds.map fun old => if old.target = d.target then d else old
  else
    ds ++ [d]

/-- How well a directive fits a target: not at all, by default, or by the length of the text
with which the target starts. -/
def Directive.fit (target : String) (d : Directive) : Option Nat :=
  match d.target with
  | none => some 0
  | some start =>
    if start.toList.isPrefixOf target.toList then some (start.utf8ByteSize + 1) else none

/-- The directive that fits a target best. -/
def bestFit (target : String) : List Directive → Option (Nat × Directive)
  | [] => none
  | d :: ds =>
    match d.fit target, bestFit target ds with
    | none, best => best
    | some n, none => some (n, d)
    | some n, some (m, e) => if m < n then some (n, d) else some (m, e)

/-- The filter shows a record of a target. -/
def Filter.shows (f : Filter) (target : String) (r : Record) : Bool :=
  match bestFit target f.directives with
  | none => false
  | some (_, d) =>
    d.limit.shows r.level && f.needle.all fun e => e.occursIn r.text

/-! ### Specifications -/

/-- The threshold that a word names, in letters of any case. -/
def threshold? (word : String) : Option Threshold :=
  if word.toUpper = "OFF" then some none
  else (Level.all.find? fun l => l.name = word.toUpper).map some

/-- What is wrong with a specification. -/
inductive SpecError where
  /-- More than one slash. -/
  | tooManySlashes (spec : String)
  /-- A level or a directive that cannot be read. -/
  | unreadable (part : String)
  /-- A regular expression that cannot be used. -/
  | badNeedle (why : Regex.Refusal)
  deriving DecidableEq, Repr

/-- The warning that is printed for an error in a specification. -/
def SpecError.message : SpecError → String
  | .tooManySlashes spec =>
    "warning: invalid logging spec '" ++ spec ++ "' (too many '/'s), ignoring it"
  | .unreadable part => "warning: invalid logging spec '" ++ part ++ "', ignoring it"
  | .badNeedle why => "warning: invalid regex filter - " ++ why.message ++ ", ignoring it"

/-- The directive that a part of a specification gives: a level, a target, or both.  A target
without a level shows everything. -/
def Directive.ofPart (part : String) : Except SpecError Directive :=
  match Text.splitOn '=' part with
  | [word] =>
    match threshold? word with
    | some limit => .ok ⟨none, limit⟩
    | none => .ok ⟨some word, some .trace⟩
  | [target, word] =>
    if Text.trim word = "" then .ok ⟨some target, some .trace⟩
    else
      match threshold? (Text.trim word) with
      | some limit => .ok ⟨some target, limit⟩
      | none => .error (.unreadable (Text.trim word))
  | _ => .error (.unreadable part)

/-- The parts of a list of directives. -/
def directiveParts (s : String) : List String :=
  ((Text.splitOn ',' s).map Text.trim).filter (· ≠ "")

/-- The filter with the directives of the given parts added, and what is wrong with the other
parts. -/
def Filter.addParts (f : Filter) : List String → Filter × List SpecError
  | [] => (f, [])
  | part :: parts =>
    match Directive.ofPart part with
    | .ok d => Filter.addParts { f with directives := addDirective d f.directives } parts
    | .error e =>
      let (f', es) := f.addParts parts
      (f', e :: es)

/-- The filter that shows the records of a level for all targets. -/
def Filter.default (level : Level) : Filter :=
  ⟨[⟨none, some level⟩], none⟩

/-- The filter for a default level and a specification. -/
def Filter.ofSpec (level : Level) (spec : String) : Filter × List SpecError :=
  match Text.splitOn '/' spec with
  | [list] => (Filter.default level).addParts (directiveParts list)
  | [list, needle] =>
    let (f, es) := (Filter.default level).addParts (directiveParts list)
    match Regex.Expr.ofText needle with
    | .ok e => ({ f with needle := some e }, es)
    | .error why => (f, es ++ [.badNeedle why])
  | _ => (Filter.default level, [.tooManySlashes spec])

/-! ### Printing -/

/-- The name of a level, filled up with blanks to the width of the longest one. -/
def Level.paddedName (l : Level) : String :=
  l.name ++ String.ofList (List.replicate (5 - l.name.length) ' ')

/-- The text of a record with its further lines indented. -/
def indented (text : String) : String :=
  "\n    ".intercalate (Text.splitOn '\n' text)

/-- The line in which a record of a target is shown, without control sequences. -/
def Record.line (target : String) (r : Record) : String :=
  "[" ++ r.level.paddedName ++ " " ++ target ++ "] " ++ Text.visible (indented r.text ++ "\n")

end Gallery.Log
