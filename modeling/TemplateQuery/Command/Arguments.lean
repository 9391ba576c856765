import TemplateQuery.Clause

/-! Arguments of the command line. An option that takes a value is checked once the next one begins or
the arguments end, so of two faults the later one may be reported. -/

set_option autoImplicit false

namespace TemplateQuery.Command

/-- Why the arguments do not make up a command. Asking for help or for the version is among it. -/
inductive Refusal where
  | help
  | version
  | noArguments
  | missingCommand
  | unknownCommand
  | unknownArgument
  | invalidValue
  | unwantedValue
  | conflict
  deriving DecidableEq, Repr

inductive Switch where
  | verbose
  | quiet
  | noColor
  | noUnion
  deriving DecidableEq, Repr

/-- What takes a value; the file is given without a name. -/
inductive Setting where
  | config
  | shape
  | base
  | systemId
  | parameter
  | file
  deriving DecidableEq, Repr

inductive Level where
  | program
  | compile
  | prepare
  | origins
  deriving DecidableEq, Repr

inductive Meaning where
  | switch (s : Switch)
  | setting (s : Setting)
  | help
  | version
  deriving DecidableEq, Repr

namespace Level

def ofName? : String → Option Level
  | "compile" => some .compile
  | "prepare" => some .prepare
  | "origins" => some .origins
  | _ => none

def long? : Level → String → Option Meaning
  | _, "verbose" => some (.switch .verbose)
  | _, "quiet" => some (.switch .quiet)
  | _, "no-color" => some (.switch .noColor)
  | _, "config" => some (.setting .config)
  | _, "help" => some .help
  | .program, "version" => some .version
  | .compile, "shape" => some (.setting .shape)
  | .compile, "no-union" => some (.switch .noUnion)
  | .compile, "base" => some (.setting .base)
  | .prepare, "system-id" => some (.setting .systemId)
  | .prepare, "param" => some (.setting .parameter)
  | _, _ => none

def short? : Level → Char → Option Meaning
  | _, 'v' => some (.switch .verbose)
  | _, 'q' => some (.switch .quiet)
  | _, 'h' => some .help
  | .program, 'V' => some .version
  | .prepare, 'p' => some (.setting .parameter)
  | _, _ => none

end Level

structure Reading where
  switches : List Switch := []
  /-- Checked values, in order. -/
  settings : List (Setting × String) := []
  /-- The setting read last and not yet checked, with its value once that is there. -/
  pending : Option (Setting × Option String) := none
  /-- Whether a file was named. -/
  hasFile : Bool := false
  /-- Whether a lone `--` came, after which there are no options. -/
  escaped : Bool := false
  deriving DecidableEq, Repr

namespace Reading

def get? (r : Reading) (s : Setting) : Option String := r.settings.lookup s

def all (r : Reading) (s : Setting) : List String := (r.settings.filter (·.1 == s)).map Prod.snd

def has (r : Reading) (s : Switch) : Bool := r.switches.contains s

def isValue (s : Setting) (value : String) : Bool :=
  match s with
  | .shape => (Shape.ofName? value).isSome
  | .config | .file => value != ""
  | .base | .systemId | .parameter => true

def accept (r : Reading) (s : Setting) (value : String) : Except Refusal Reading :=
  -- Only parameters may be given more than once.
  if s ≠ .parameter && (r.get? s).isSome then .error .conflict
  else if isValue s value then .ok { r with settings := r.settings ++ [(s, value)] }
  else .error .invalidValue

def settle (r : Reading) : Except Refusal Reading :=
  match r.pending with
  | none => .ok r
  | some (_, none) => .error .invalidValue
  | some (s, some value) => { r with pending := none }.accept s value

def turnOn (r : Reading) (s : Switch) : Except Refusal Reading := do
  let r ← r.settle
  if r.has s then .error .conflict else .ok { r with switches := s :: r.switches }

def await (r : Reading) (s : Setting) : Except Refusal Reading := do
  return { ← r.settle with pending := some (s, none) }

def take (r : Reading) (s : Setting) (value : String) : Except Refusal Reading := do
  (← r.settle).accept s value

def isAwaiting (r : Reading) : Bool :=
  match r.pending with
  | some (_, none) => true
  | _ => false

def readLong (level : Level) (r : Reading) (name : String) (value : Option String) : Except Refusal Reading :=
  match level.long? name, value with
  | none, _ => .error .unknownArgument
  | some (.setting s), some value => r.take s value
  | some (.setting s), none => r.await s
  | some _, some _ => .error .unwantedValue
  | some (.switch s), none => r.turnOn s
  | some .help, none => do let _ ← r.settle; .error .help
  | some .version, none => do let _ ← r.settle; .error .version

def readShort (level : Level) (r : Reading) : List Char → Except Refusal Reading
  | [] => .ok r
  | c :: cs =>
    match level.short? c, cs with
    | none, _ => .error .unknownArgument
    | some (.setting s), [] => r.await s
    -- The letters after one that takes a value are its value.
    | some (.setting s), '=' :: value => r.take s (String.ofList value)
    | some (.setting s), value => r.take s (String.ofList value)
    | some (.switch s), cs => do readShort level (← r.turnOn s) cs
    | some .help, _ => do let _ ← r.settle; .error .help
    | some .version, _ => do let _ ← r.settle; .error .version

def readFree (level : Level) (r : Reading) (argument : String) : Except Refusal Reading :=
  match level with
  | .program =>
    if r.escaped && (argument == "help" || (Level.ofName? argument).isSome) then .error .unknownArgument
    else .error .unknownCommand
  | _ =>
    if r.hasFile then .error .unknownArgument
    else do return { ← r.settle with pending := some (.file, some argument), hasFile := true }

def splitLong (cs : List Char) : String × Option String :=
  match cs.dropWhile (· != '=') with
  | _ :: value => (String.ofList (cs.takeWhile (· != '=')), some (String.ofList value))
  | [] => (String.ofList cs, none)

def readArgument (level : Level) (r : Reading) (argument : String) : Except Refusal Reading :=
  if r.escaped then r.readFree level argument
  else
    match argument.toList with
    | ['-', '-'] => .ok { r with escaped := true }
    | '-' :: '-' :: cs =>
      let (name, value) := splitLong cs
      r.readLong level name value
    | '-' :: c :: cs => r.readShort level (c :: cs)
    | _ =>
      match r.pending with
      | some (s, none) => .ok { r with pending := some (s, some argument) }
      | _ => r.readFree level argument

def finish (r : Reading) : Except Refusal Reading := do
  let r ← r.settle
  if r.has .verbose && r.has .quiet then .error .conflict else .ok r

def readAll (level : Level) (r : Reading) : List String → Except Refusal Reading
  | [] => r.finish
  | argument :: rest => do readAll level (← r.readArgument level argument) rest

end Reading

def askedHelp : List String → Refusal
  | [] => .help
  | [name] => if name == "help" || (Level.ofName? name).isSome then .help else .unknownCommand
  | _ => .unknownCommand

def readProgram (r : Reading) : List String → Except Refusal (Reading × Level × Reading)
  | [] => do
    let r ← r.settle
    if r.switches.isEmpty && r.settings.isEmpty then .error .noArguments else .error .missingCommand
  | argument :: rest =>
    let isName := !r.escaped && !r.isAwaiting
    match if isName then Level.ofName? argument else none with
    | some level => do
      let inner ← Reading.readAll level {} rest
      -- The arguments before the command are checked last.
      return (← r.finish, level, inner)
    | none =>
      if isName && argument == "help" then .error (askedHelp rest)
      else do readProgram (← r.readArgument .program argument) rest

end TemplateQuery.Command
