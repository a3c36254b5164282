/-!
# Parameters of the command line

The command line has one positional parameter, the directory of examples, and options that are
given by a long name or by a letter.  This module is the table of the parameters: their names,
what they take, and how messages and usage lines show them.
-/

namespace Gallery.CommandLine

/-- A parameter of the command line. -/
inductive Param where
  | examples
  | output
  | lang
  | title
  | intro
  | sourceUrl
  | licenseUrl
  | only
  | format
  | stylesheet
  | verbose
  | help
  deriving DecidableEq, Repr

/-- What a parameter takes. -/
inductive Taking where
  /-- A path, which is not empty; at most once. -/
  | path
  /-- A text; at most once. -/
  | text
  /-- A text each time it is given. -/
  | texts
  /-- Nothing; the number of times counts. -/
  | count
  /-- Nothing; the help text is asked for. -/
  | help
  deriving DecidableEq, Repr

namespace Param

/-- The options, in the order of the help text. -/
def options : List Param :=
  [.output, .lang, .title, .intro, .sourceUrl, .licenseUrl, .only, .format, .stylesheet,
    .verbose, .help]

/-- The long name of an option, without dashes. -/
def long : Param → String
  | .examples => "examples"
  | .output => "output"
  | .lang => "lang"
  | .title => "title"
  | .intro => "intro"
  | .sourceUrl => "source-url"
  | .licenseUrl => "license-url"
  | .only => "only"
  | .format => "format"
  | .stylesheet => "stylesheet"
  | .verbose => "verbose"
  | .help => "help"

/-- The letter of an option. -/
def letter? : Param → Option Char
  | .output => some 'o'
  | .lang => some 'l'
  | .title => some 't'
  | .format => some 'f'
  | .verbose => some 'v'
  | .help => some 'h'
  | _ => none

/-- The option with a long name. -/
def byLong? (name : String) : Option Param :=
  options.find? (·.long = name)

/-- The option with a letter. -/
def byLetter? (c : Char) : Option Param :=
  options.find? (·.letter? = some c)

/-- What a parameter takes. -/
def taking : Param → Taking
  | .examples | .output | .stylesheet => .path
  | .lang | .title | .intro | .sourceUrl | .licenseUrl | .format => .text
  | .only => .texts
  | .verbose => .count
  | .help => .help

/-- The parameter takes a value. -/
def takesValue (p : Param) : Bool :=
  match p.taking with
  | .path | .text | .texts => true
  | .count | .help => false

/-- The parameter is given by its place. -/
def isPositional (p : Param) : Bool :=
  p = .examples

/-- The name that stands for the value of a parameter. -/
def valueName (p : Param) : String :=
  String.ofList (p.long.toUpper.toList.map fun c => if c = '-' then '_' else c)

/-- An option with the name of its value. -/
def optionText (p : Param) : String :=
  match p.taking with
  | .path | .text | .texts => "--" ++ p.long ++ " <" ++ p.valueName ++ ">"
  | .count => "--" ++ p.long ++ "..."
  | .help => "--" ++ p.long

/-- A parameter as messages show it. -/
def shown (p : Param) : String :=
  if p.isPositional then "[" ++ p.valueName ++ "]" else p.optionText

end Param

/-! ### Usage lines -/

/-- The name of the program. -/
def programName : String := "by-example"

/-- The usage line of a command line on which nothing is known to be wanted. -/
def plainUsage : String :=
  "Usage: " ++ programName ++ " [OPTIONS] " ++ Param.examples.shown

/-- The usage line of a command line with the given parameters: the options in their order, each
once, and then the positional parameter, in brackets unless it is one of them. -/
def usageWith (used : List Param) : String :=
  if used.isEmpty then plainUsage
  else
    let given := ((used.filter (!·.isPositional)).map Param.optionText).eraseDups
    let place :=
      if used.contains .examples then "<" ++ Param.examples.valueName ++ ">"
      else Param.examples.shown
    "Usage: " ++ " ".intercalate ([programName] ++ given ++ [place])

/-- All parameters but the one for help, as choices. -/
def choices : String :=
  let settings := Param.options.filter (·.taking ≠ .help)
  "<" ++ "|".intercalate (Param.examples.valueName :: settings.map Param.optionText) ++ ">"

/-- The usage line that offers all parameters, after the one in question unless it is among
them. -/
def usageOfAll (p : Param) : String :=
  let asked := if p.taking = .help then [p.optionText] else []
  "Usage: " ++ " ".intercalate ([programName] ++ asked ++ [choices])

/-- The help text. -/
def helpText : String :=
"Generate side-by-side documentation pages from annotated example sources

" ++ plainUsage ++ "

Arguments:
  [EXAMPLES]  Directory containing one sub-directory per example [default: examples]

Options:
  -o, --output <OUTPUT>            Output directory [default: site]
  -l, --lang <LANG>                Language of the example sources (csharp, rust, go, python, ...) [default: csharp]
  -t, --title <TITLE>              Site title. Defaults to \"<Language> by Example\"
      --intro <INTRO>              Introduction paragraph for the index page (HTML allowed)
      --source-url <SOURCE_URL>    Link to the site's source repository, shown in the footer
      --license-url <LICENSE_URL>  Link to the license, shown in the footer
      --only <ONLY>                Only build examples whose directory name matches this glob. Can be specified multiple times
  -f, --format <FORMAT>            Output format: html (default), json [default: html]
      --stylesheet <STYLESHEET>    Stylesheet copied to site.css in the output directory
  -v, --verbose...                 Increase log verbosity (-v info, -vv debug). RUST_LOG overrides
  -h, --help                       Print help
"

end Gallery.CommandLine
