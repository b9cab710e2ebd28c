/-
The arguments of the command.

There are two commands, one that looks and one that acts, and both take a file and a plan.  The
plan is an option: its value may follow as the next argument, or be attached to the option, with
an equals sign or, behind the short form, without.  A value that is an argument of its own cannot
begin with a hyphen, unless it is a hyphen.  Behind two hyphens everything is a file.  Nothing
may be given twice.
-/

namespace LineCut.CommandLine

/-- What is asked for. -/
inductive Invocation where
  | version
  | help
  | scan (file plan : String)
  | apply (file plan : String) (write : Bool)
  deriving DecidableEq, Repr

/-- The arguments of a command that have been seen. -/
structure Given where
  file : Option String
  plan : Option String
  write : Bool
  deriving DecidableEq, Repr

/-- An argument of a command. -/
inductive Token where
  /-- Two hyphens. -/
  | hyphens
  /-- A long option with what stands behind its equals sign. -/
  | long (name : String) (value : Option String)
  /-- Letters behind one hyphen. -/
  | short (letters : List Char)
  /-- Anything else. -/
  | plain (text : String)
  deriving DecidableEq, Repr

/-- What an argument is. -/
def Token.of (argument : String) : Token :=
  match argument.toList with
  | ['-', '-'] => .hyphens
  | '-' :: '-' :: rest =>
    let name := rest.takeWhile (· != '=')
    match rest.drop name.length with
    | [] => .long (String.ofList name) none
    | _ :: value => .long (String.ofList name) (some (String.ofList value))
  | '-' :: letter :: rest => .short (letter :: rest)
  | _ => .plain argument

/-- Take the value of an option that has none yet. -/
def Given.takePlan (given : Given) (value : String) : Option Given :=
  if given.plan.isSome then none else some { given with plan := some value }

/-- Take a file if there is none yet. -/
def Given.takeFile (given : Given) (value : String) : Option Given :=
  if given.file.isSome then none else some { given with file := some value }

/-- The arguments behind two hyphens. -/
def filesOnly (given : Given) : List String → Option Given
  | [] => some given
  | argument :: rest => (given.takeFile argument).bind (filesOnly · rest)

/-- Go through the arguments of a command; `acts` says that it is the one that acts.  The answer
is the arguments, or a request for help, or nothing if there is something wrong. -/
def given? (acts : Bool) (given : Given) : List String → Option (Given ⊕ Unit)
  | [] => some (.inl given)
  | argument :: rest =>
    match Token.of argument, rest with
    | .hyphens, rest => (filesOnly given rest).map .inl
    | .long "plan" none, value :: rest | .short ['p'], value :: rest =>
      match Token.of value with
      | .plain value => (given.takePlan value).bind (given? acts · rest)
      | _ => none
    | .long "plan" (some value), rest => (given.takePlan value).bind (given? acts · rest)
    | .long "write" none, rest =>
      if acts && !given.write then given? acts { given with write := true } rest else none
    | .long "help" none, _ => some (.inr ())
    | .short ('p' :: '=' :: value), rest | .short ('p' :: value), rest =>
      if value.isEmpty && argument == "-p" then none
      else (given.takePlan (String.ofList value)).bind (given? acts · rest)
    | .short ('h' :: _), _ => some (.inr ())
    | .plain value, rest => (given.takeFile value).bind (given? acts · rest)
    | _, _ => none

/-- What the arguments of a command ask for, made of its file and its plan. -/
def command (acts : Bool) (arguments : List String) : Option Invocation :=
  match given? acts ⟨none, none, false⟩ arguments with
  | some (.inl ⟨some file, some plan, write⟩) =>
    some (if acts then .apply file plan write else .scan file plan)
  | some (.inr ()) => some .help
  | _ => none

/-- A request for help, which may name one of the commands. -/
def helpOn : List String → Option Invocation
  | [] | ["scan"] | ["apply"] | ["help"] => some .help
  | _ => none

/-- What the arguments ask for, if they can be understood. -/
def Invocation.parse? : List String → Option Invocation
  | [] => none
  | "scan" :: rest => command false rest
  | "apply" :: rest => command true rest
  | "help" :: rest => helpOn rest
  | argument :: _ =>
    match Token.of argument with
    | .long "version" none | .short ('V' :: _) => some .version
    | .long "help" none | .short ('h' :: _) => some .help
    | _ => none

end LineCut.CommandLine
