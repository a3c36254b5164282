import Gallery.CommandLine.Arguments
import Gallery.Site.Build

/-!
# Running the command line

A run takes arguments, the specification of a log filter and a file tree, and gives an exit code,
two texts and a file tree.  The settings are checked before the tree is looked at: first the
format, then the language, then the patterns in their order.  The log only decides what is
printed for the records of a build; the build itself does not know of it.
-/

namespace Gallery.CommandLine

open Files Log

/-- What a run leaves. -/
structure Ending where
  exitCode : Nat
  stdout : String
  stderr : String
  tree : Tree

/-- The format with the given name. -/
def formatNamed (name : String) : Except Failure Format :=
  match Format.byName? name with
  | some format => .ok format
  | none => .error (.unknownFormat name)

/-- The language with the given name. -/
def languageNamed (name : String) : Except Failure Language :=
  match Language.byName? name with
  | some language => .ok language
  | none => .error (.unknownLanguage name)

/-- The pattern written in a text. -/
def patternOf (text : String) : Except Failure Glob.Pattern :=
  (Glob.Pattern.ofText text).mapError (.invalidPattern text)

/-- The title of a site that is not given one. -/
def defaultTitle (language : Language) : String :=
  language.displayName ++ " by Example"

/-- The configuration that an invocation asks for. -/
def configOf (i : Invocation) : Except Failure Config := do
  let format ← formatNamed i.format
  let language ← languageNamed i.lang
  let only ← i.only.mapM patternOf
  return {
    examplesDir := i.examples
    outputDir := i.output
    site := {
      title := i.title.getD (defaultTitle language)
      intro := i.intro
      sourceUrl := i.sourceUrl
      licenseUrl := i.licenseUrl
      language := language }
    format := format
    only := only
    stylesheet := i.stylesheet }

/-- Builds the site that an invocation asks for. -/
def buildFor (i : Invocation) : Action Summary := do
  build (← Action.ofExcept (configOf i))

/-! ### Texts -/

/-- The line that sums up a site that has been built. -/
def summaryLine (output : String) (s : Summary) : String :=
  "wrote " ++ Nat.repr s.pages ++ " example pages and index to " ++ output
    ++ (if 0 < s.skipped then " (" ++ Nat.repr s.skipped ++ " directories skipped)" else "")
    ++ "\n"

/-- The text that is printed for a failure. -/
def failureText (e : Failure) : String :=
  "Error: " ++ e.message ++ "\n"
    ++ (match e.cause? with
      | some cause => "\nCaused by:\n    " ++ cause ++ "\n"
      | none => "")

/-- The target of all records. -/
def logTarget : String := "by_example::site"

/-- The least important level of the records that are shown by default. -/
def defaultLevel : Nat → Level
  | 0 => .warn
  | 1 => .info
  | _ => .debug

/-- The text that is printed for records: the warnings about the specification of the filter, and
the records that the filter shows. -/
def logText (verbosity : Nat) (spec : Option String) (records : List Record) : String :=
  let (filter, errors) := Filter.ofSpec (defaultLevel verbosity) (spec.getD "")
  String.join (errors.map fun e => e.message ++ "\n")
    ++ String.join ((records.filter (filter.shows logTarget)).map (Record.line logTarget))

/-! ### Runs -/

/-- Runs an invocation. -/
def runInvocation (i : Invocation) (spec : Option String) (t : Tree) : Ending :=
  let outcome := (buildFor i).run t
  let log := logText i.verbosity spec outcome.log
  match outcome.result with
  | .ok summary => ⟨0, summaryLine i.output summary, log, outcome.tree⟩
  | .error e => ⟨1, "", log ++ failureText e, outcome.tree⟩

/-- Runs a command line. -/
def run (args : List String) (spec : Option String) (t : Tree) : Ending :=
  match Invocation.ofArguments args with
  | .ok i => runInvocation i spec t
  | .error .help => ⟨0, helpText, "", t⟩
  | .error (.refused r) => ⟨2, "", r.message, t⟩

end Gallery.CommandLine
