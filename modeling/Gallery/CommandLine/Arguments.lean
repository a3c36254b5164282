import Gallery.CommandLine.Refusal

/-!
# Arguments

The arguments of a command line are read one by one.  A value may be attached to an option or
follow as the next argument; in the latter case the option is stored only when the next option
or positional value is met, so that a mistake in it is noticed then.  After two dashes
everything is positional.
-/

namespace Gallery.CommandLine

/-- Why the reading of a command line stops early. -/
inductive Stop where
  /-- The help text is asked for. -/
  | help
  | refused (r : Refusal)
  deriving DecidableEq, Repr

/-- The stored parameters with their values, in the order in which they were stored. -/
abbrev Stored := List (Param × List String)

namespace Stored

/-- The values of a parameter. -/
def values (m : Stored) (p : Param) : List String :=
  (m.filter (·.1 = p)).flatMap (·.2)

/-- The parameter is stored. -/
def has (m : Stored) (p : Param) : Bool :=
  m.any (·.1 = p)

/-- Everything but a parameter. -/
def without (m : Stored) (p : Param) : Stored :=
  m.filter (·.1 ≠ p)

/-- A parameter with its values behind all others. -/
def add (m : Stored) (p : Param) (vs : List String) : Stored :=
  m ++ [(p, vs)]

/-- More values for a parameter, which keeps its place. -/
def extend (m : Stored) (p : Param) (vs : List String) : Stored :=
  if m.has p then m.map fun (q, ws) => if q = p then (q, ws ++ vs) else (q, ws)
  else m.add p vs

/-- Stores a parameter.  What has been stored is returned on failure too: a parameter that is
given twice is forgotten, an empty path is kept. -/
def store (m : Stored) (p : Param) (vs : List String) : Stored × Except Stop Unit :=
  if p.takesValue && vs.isEmpty then
    (m, .error (.refused (.missingValue p)))
  else
    match p.taking with
    | .help => (m, .error .help)
    | .count => ((m.without p).add p (m.values p ++ [""]), .ok ())
    | .texts => (m.extend p vs, .ok ())
    | .text =>
      if m.has p then (m.without p, .error (.refused (.repeated p))) else (m.add p vs, .ok ())
    | .path =>
      if m.has p then (m.without p, .error (.refused (.repeated p)))
      else
        (m.add p vs,
          if vs.contains "" then .error (.refused (.missingValue p)) else .ok ())

end Stored

/-- How far the arguments have been read. -/
structure Progress where
  stored : Stored
  /-- A parameter that is not stored yet, and its values up to now. -/
  pending : Option (Param × List String)
  deriving DecidableEq, Repr

namespace Progress

/-- Nothing has been read. -/
def start : Progress :=
  ⟨[], none⟩

/-- Stores the pending parameter. -/
def settle (s : Progress) : Stored × Except Stop Unit :=
  match s.pending with
  | some (p, vs) => s.stored.store p vs
  | none => (s.stored, .ok ())

/-- What is stored once the pending parameter is. -/
def settled (s : Progress) : Except Stop Stored :=
  match s.settle with
  | (m, .ok ()) => .ok m
  | (_, .error e) => .error e

/-- Takes a parameter with its values. -/
def give (s : Progress) (p : Param) (vs : List String) : Except Stop Progress := do
  match (← s.settled).store p vs with
  | (m, .ok ()) => .ok ⟨m, none⟩
  | (_, .error e) => .error e

/-- Takes a parameter whose values may follow. -/
def await (s : Progress) (p : Param) (vs : List String) : Except Stop Progress := do
  let m ← s.settled
  .ok ⟨m, some (p, vs)⟩

/-- The positional parameter has been given. -/
def hasPositional (s : Progress) : Bool :=
  s.stored.has .examples || s.pending.any (·.1 = .examples)

/-- Takes a positional value. -/
def takePositional (s : Progress) (value : String) : Except Stop Progress :=
  if s.hasPositional then .error (.refused (.surplus value)) else s.await .examples [value]

/-- Takes an argument that does not look like an option. -/
def takeValue (s : Progress) (value : String) : Except Stop Progress :=
  match s.pending with
  | some (p, []) => .ok { s with pending := some (p, [value]) }
  | _ => s.takePositional value

/-- Takes an option by its long name, perhaps with a value. -/
def takeLong (s : Progress) (name : String) (value : Option String) : Except Stop Progress :=
  match Param.byLong? name with
  | some p =>
    match p.takesValue, value with
    | true, some v => s.give p [v]
    | true, none => s.await p []
    | false, none => s.give p []
    | false, some v => .error (.refused (.needlessValue p v s.stored.isEmpty))
  | none =>
    .error (.refused
      (.unknownLong name (mostSimilar? Param.long name Param.options) (s.settle.1.map (·.1))))

/-- Takes options by their letters; the rest behind an option that takes a value is its value,
with or without an equals sign before it. -/
def takeLetters (s : Progress) : List Char → Except Stop Progress
  | [] => .ok s
  | c :: cs =>
    match Param.byLetter? c with
    | none => .error (.refused (.unknownLetter c))
    | some p =>
      if p.takesValue then
        match cs with
        | [] => s.await p []
        | '=' :: value => s.give p [String.ofList value]
        | value => s.give p [String.ofList value]
      else do
        let s' ← s.give p []
        s'.takeLetters cs

/-- The name of a long option, and what stands behind the equals sign. -/
def splitLong (cs : List Char) : String × Option String :=
  match cs.dropWhile (· ≠ '=') with
  | [] => (String.ofList cs, none)
  | _ :: value => (String.ofList (cs.takeWhile (· ≠ '=')), some (String.ofList value))

/-- Takes an argument before two dashes. -/
def take (s : Progress) (arg : String) : Except Stop Progress :=
  match arg.toList with
  | '-' :: '-' :: cs =>
    let (name, value) := splitLong cs
    s.takeLong name value
  | ['-'] => s.takeValue arg
  | '-' :: cs => s.takeLetters cs
  | _ => s.takeValue arg

/-- Takes positional values. -/
def takePositionals (s : Progress) : List String → Except Stop Progress
  | [] => .ok s
  | value :: rest => do
    let s' ← s.takePositional value
    s'.takePositionals rest

/-- Takes the arguments of a command line. -/
def takeAll (s : Progress) : List String → Except Stop Progress
  | [] => .ok s
  | arg :: rest =>
    if arg = "--" then s.takePositionals rest
    else do
      let s' ← s.take arg
      s'.takeAll rest

end Progress

/-- The parameters that the arguments of a command line give. -/
def Stored.ofArguments (args : List String) : Except Stop Stored := do
  (← Progress.start.takeAll args).settled

/-! ### Invocations -/

/-- What a command line asks for. -/
structure Invocation where
  examples : String
  output : String
  lang : String
  title : Option String
  intro : Option String
  sourceUrl : Option String
  licenseUrl : Option String
  /-- The texts of the patterns that select examples. -/
  only : List String
  format : String
  stylesheet : Option String
  /-- How many times more records are asked for. -/
  verbosity : Nat
  deriving DecidableEq, Repr

/-- The invocation with the given parameters. -/
def Invocation.ofStored (m : Stored) : Invocation where
  examples := (m.values .examples).head?.getD "examples"
  output := (m.values .output).head?.getD "site"
  lang := (m.values .lang).head?.getD "csharp"
  title := (m.values .title).head?
  intro := (m.values .intro).head?
  sourceUrl := (m.values .sourceUrl).head?
  licenseUrl := (m.values .licenseUrl).head?
  only := m.values .only
  format := (m.values .format).head?.getD "html"
  stylesheet := (m.values .stylesheet).head?
  verbosity := (m.values .verbose).length

/-- The invocation that the arguments of a command line describe. -/
def Invocation.ofArguments (args : List String) : Except Stop Invocation := do
  .ok (.ofStored (← Stored.ofArguments args))

end Gallery.CommandLine
