/-!
# Command lines

A program has parameters and may have commands with parameters of their own. An argument `--name`,
`--name=value`, `-n`, `-nvalue` or a cluster `-abc` gives a parameter; a value may also be the next
argument, unless that begins with `-`. A value that is the next argument is judged when the next
parameter is met, or at the end.

What is wrong with a command line is one of a few kinds of failure; asking for help or the version
counts as one.
-/

namespace FrameBus.CommandLine

inductive Failure where
  | unknownArgument
  | argumentConflict
  | valueValidation
  | invalidValue
  | tooManyValues
  | missingRequiredArgument
  | missingSubcommand
  | invalidSubcommand
  | displayHelp
  | displayHelpOnMissing
  | displayVersion
deriving DecidableEq, Repr

def Failure.name : Failure → String
  | .unknownArgument => "UnknownArgument"
  | .argumentConflict => "ArgumentConflict"
  | .valueValidation => "ValueValidation"
  | .invalidValue => "InvalidValue"
  | .tooManyValues => "TooManyValues"
  | .missingRequiredArgument => "MissingRequiredArgument"
  | .missingSubcommand => "MissingSubcommand"
  | .invalidSubcommand => "InvalidSubcommand"
  | .displayHelp => "DisplayHelp"
  | .displayHelpOnMissing => "DisplayHelpOnMissingArgumentOrSubcommand"
  | .displayVersion => "DisplayVersion"

/-! ## Programs -/

/-- What giving a parameter does. -/
inductive Action where
  /-- sets its one value -/
  | set
  /-- adds a value -/
  | append
  | flag
  | help
  | version
deriving DecidableEq, Repr

structure Parameter where
  long : String
  short : Option Char := none
  action : Action := .set
  /-- what is wrong with a value -/
  judge : String → Option Failure := fun _ => none

structure Command where
  name : String
  parameters : List Parameter
  required : List String := []

structure Program where
  parameters : List Parameter
  commands : List Command
  needsCommand : Bool := false
  /-- pairs of parameters that exclude each other -/
  conflicts : List (String × String) := []

def Parameter.takesValue (p : Parameter) : Bool := p.action == .set || p.action == .append

def help : Parameter := { long := "help", short := some 'h', action := .help }

def version : Parameter := { long := "version", short := some 'V', action := .version }

/-! ## Parsing -/

/-- The values given to parameters, in the order of the first one of each. -/
abbrev Given := List (String × List String)

def Given.values (g : Given) (name : String) : List String := (g.lookup name).getD []

def Given.has (g : Given) (name : String) : Bool := (g.lookup name).isSome

def Given.add (g : Given) (name : String) (v : String) : Given :=
  if g.has name then g.map fun e => if e.1 = name then (e.1, e.2 ++ [v]) else e
  else g ++ [(name, [v])]

structure State where
  given : Given := []
  /-- a parameter whose value is not judged yet, with the value if it is there -/
  pending : Option (Parameter × Option String) := none
  /-- the next argument can be a value -/
  awaiting : Bool := false

/-- Gives a parameter with a value, or with none. -/
def give (given : Given) (p : Parameter) (value : Option String) : Except Failure Given :=
  match p.action, value with
  | .help, _ => .error .displayHelp
  | .version, _ => .error .displayVersion
  | .flag, _ =>
    if given.has p.long then .error .argumentConflict else .ok (given.add p.long "true")
  | _, none => .error .invalidValue
  | action, some v =>
    if action = .set ∧ given.has p.long then .error .argumentConflict
    else
      match p.judge v with
      | some failure => .error failure
      | none => .ok (given.add p.long v)

/-- Judges the value that is not judged yet. -/
def resolve (s : State) : Except Failure State :=
  match s.pending with
  | none => .ok s
  | some (p, value) => do
    let given ← give s.given p value
    return { s with given, pending := none }

/-- Gives a parameter after what came before it is judged. -/
def react (s : State) (p : Parameter) (value : Option String) : Except Failure State := do
  let s ← resolve s
  let given ← give s.given p value
  return { s with given, awaiting := false }

/-- Meets a parameter that takes a value: with the value attached, or with the value to come. -/
def meet (s : State) (p : Parameter) (attached : Option String) : Except Failure State :=
  match attached with
  | some v => react s p (some v)
  | none => do
    let s ← resolve s
    return { s with pending := some (p, none), awaiting := true }

/-- An argument behind its two dashes. -/
def long (parameters : List Parameter) (s : State) (name : String) (attached : Option String) :
    Except Failure State :=
  match parameters.find? fun p => p.long == name with
  | none => .error .unknownArgument
  | some p =>
    if p.takesValue then meet s p attached
    else if attached.isSome then .error .tooManyValues
    else react s p none

/-- An argument behind its dash, a letter to a parameter. -/
def short (parameters : List Parameter) (s : State) : List Char → Except Failure State
  | [] => .ok s
  | c :: cs =>
    match parameters.find? fun p => p.short == some c with
    | none => .error .unknownArgument
    | some p =>
      if p.takesValue then
        match cs with
        | [] => meet s p none
        | '=' :: v => meet s p (some (String.ofList v))
        | v => meet s p (some (String.ofList v))
      else do
        let s ← react s p none
        short parameters s cs

/-- A command line up to a command. -/
structure Front where
  state : State
  command : Option (String × List String)

/-- The failure of an argument that belongs nowhere. -/
def stray (commands : List String) (behindDashes : Bool) (arg : String) : Failure :=
  if behindDashes && commands.contains arg then .unknownArgument
  else if commands.isEmpty then .unknownArgument
  else .invalidSubcommand

/-- The help for a command that is named in words. -/
def helpFor (commands : List String) : List String → Failure
  | [] => .displayHelp
  | "help" :: rest => helpFor commands rest
  | name :: rest =>
    if commands.contains name ∧ rest.isEmpty then .displayHelp else .invalidSubcommand

def scan (parameters : List Parameter) (commands : List String) :
    (behindDashes : Bool) → State → List String → Except Failure Front
  | _, s, [] => .ok ⟨s, none⟩
  | true, _, arg :: _ => .error (stray commands true arg)
  | false, s, arg :: rest =>
    if !s.awaiting && commands.contains arg then
      if arg = "help" then .error (helpFor commands rest) else .ok ⟨s, some (arg, rest)⟩
    else
      match arg.toList with
      | ['-', '-'] => scan parameters commands true s rest
      | '-' :: '-' :: cs =>
        let name := cs.takeWhile (· != '=')
        let attached := match cs.dropWhile (· != '=') with
          | [] => none
          | _ :: v => some (String.ofList v)
        match long parameters s (String.ofList name) attached with
        | .ok s => scan parameters commands false s rest
        | .error e => .error e
      | '-' :: c :: cs =>
        match short parameters s (c :: cs) with
        | .ok s => scan parameters commands false s rest
        | .error e => .error e
      | _ =>
        match s.awaiting, s.pending with
        | true, some (p, _) =>
          scan parameters commands false { s with pending := some (p, some arg), awaiting := false }
            rest
        | _, _ => .error (stray commands false arg)

/-- What a command line gives. -/
structure Invocation where
  root : Given
  command : Option (String × Given)

def parseCommand (c : Command) (args : List String) : Except Failure Given := do
  let front ← scan c.parameters [] false {} args
  let s ← resolve front.state
  if c.required.all s.given.has then return s.given else .error .missingRequiredArgument

/-- Parses the arguments behind the program's name. A command is judged before the program. -/
def parse (p : Program) (args : List String) : Except Failure Invocation := do
  let front ← scan p.parameters (p.commands.map Command.name ++ ["help"]) false {} args
  let command ← match front.command with
    | none => pure none
    | some (name, rest) =>
      match p.commands.find? fun c => c.name == name with
      | none => .error .invalidSubcommand
      | some c => (parseCommand c rest).map fun g => some (name, g)
  let s ← resolve front.state
  if p.needsCommand && command.isNone then
    .error (if s.given.isEmpty then .displayHelpOnMissing else .missingSubcommand)
  else if p.conflicts.any fun (a, b) => s.given.has a && s.given.has b then .error .argumentConflict
  else return ⟨s.given, command⟩

/-! ## Values -/

/-- Judges a value by whether it can be read. -/
def readable {ε α : Type} (read : String → Except ε α) (v : String) : Option Failure :=
  match read v with
  | .ok _ => none
  | .error _ => some .valueValidation

/-- Judges a path, which may not be empty. -/
def path (v : String) : Option Failure := if v.isEmpty then some .invalidValue else none

end FrameBus.CommandLine
