import ServiceCatalog.Generation.Input

/-!
# Arguments of the command

The command takes options with a value and switches without one.  Both have a long name behind two
hyphens; some have a letter behind one hyphen, and such letters may stand together.  A value
follows its option as the next argument, which must not begin with a hyphen unless it is nothing
else, or is attached to it, by an equals sign or directly to a letter.

Arguments act in their order.  An option that still lacks its value, or has it, is settled when
the next option or switch acts, so a fault in an earlier argument comes before what a later one
asks for.  An option or a switch stands at most once, except for the one that asks for more
messages, and the paths among the values are not empty.  A description is taken from a file or is
built in: exactly one of the two options for it is given.
-/

namespace ServiceCatalog.CommandLine

set_option autoImplicit false

/-! ## Options and switches -/

/-- An option that takes a value. -/
inductive ValueOption where
  | schema
  | api
  | output
  | clientName
  | moduleName
  | paramsSuffix
  | packageName
  | runtimePath
  deriving DecidableEq, Repr

/-- A switch. -/
inductive Switch where
  | dryRun
  | verbose
  | json
  | help
  | version
  deriving DecidableEq, Repr

/-- An option or a switch. -/
inductive Directive where
  | valued (option : ValueOption)
  | plain (switch : Switch)
  deriving DecidableEq, Repr

/-- The long name of an option. -/
def ValueOption.name : ValueOption → String
  | .schema => "schema"
  | .api => "api"
  | .output => "output"
  | .clientName => "client-name"
  | .moduleName => "module"
  | .paramsSuffix => "params-suffix"
  | .packageName => "crate-name"
  | .runtimePath => "runtime-path"

/-- The value of an option is a path. -/
def ValueOption.isPath : ValueOption → Bool
  | .schema | .output | .runtimePath => true
  | _ => false

/-- The long name of a switch. -/
def Switch.name : Switch → String
  | .dryRun => "dry-run"
  | .verbose => "verbose"
  | .json => "json"
  | .help => "help"
  | .version => "version"

/-- The long name of an option or a switch. -/
def Directive.name : Directive → String
  | .valued option => option.name
  | .plain switch => switch.name

/-- All options and switches. -/
def Directive.all : List Directive :=
  [.valued .schema, .valued .api, .valued .output, .valued .clientName, .valued .moduleName,
    .valued .paramsSuffix, .valued .packageName, .valued .runtimePath, .plain .dryRun,
    .plain .verbose, .plain .json, .plain .help, .plain .version]

/-- The option or switch with a long name. -/
def Directive.ofName? (name : String) : Option Directive :=
  Directive.all.find? fun directive => directive.name == name

/-- The option or switch with a letter. -/
def Directive.ofLetter? (letter : Char) : Option Directive :=
  [('s', Directive.valued .schema), ('a', .valued .api), ('o', .valued .output),
    ('v', .plain .verbose), ('h', .plain .help), ('V', .plain .version)].lookup letter

/-! ## Faults -/

/-- Why arguments make no command. -/
inductive UsageFault where
  | unknownArgument (argument : String)
  | unwantedValue (directive : Directive)
  | missingValue (option : ValueOption)
  | emptyValue (option : ValueOption)
  | repeated (directive : Directive)
  | noSource
  | twoSources
  deriving DecidableEq, Repr

/-- The wording of a fault. -/
def UsageFault.message : UsageFault → String
  | .unknownArgument argument => "unexpected argument '" ++ argument ++ "'"
  | .unwantedValue directive => "'--" ++ directive.name ++ "' takes no value"
  | .missingValue option => "'--" ++ option.name ++ "' needs a value"
  | .emptyValue option => "the value of '--" ++ option.name ++ "' must not be empty"
  | .repeated directive => "'--" ++ directive.name ++ "' is given more than once"
  | .noSource => "either '--schema' or '--api' is required"
  | .twoSources => "'--schema' and '--api' exclude each other"

/-- What ends the reading of arguments before their end. -/
inductive Stop where
  | fault (fault : UsageFault)
  | help
  | version
  deriving DecidableEq, Repr

/-! ## Reading -/

/-- What was read: the options with their values, the switches, and the option that has not been
settled, perhaps with its value. -/
structure Given where
  values : List (ValueOption × String)
  switches : List Switch
  pending : Option (ValueOption × Option String)
  deriving DecidableEq, Repr

namespace Given

/-- Nothing was read. -/
def none : Given := ⟨[], [], Option.none⟩

/-- Gives an option its value. -/
def store (given : Given) (option : ValueOption) (value : String) : Except Stop Given :=
  if option.isPath && value.isEmpty then .error (.fault (.emptyValue option))
  else if (given.values.lookup option).isSome then .error (.fault (.repeated (.valued option)))
  else .ok { given with values := (option, value) :: given.values }

/-- Settles the option that has not been settled. -/
def settle (given : Given) : Except Stop Given :=
  match given.pending with
  | Option.none => .ok given
  | some (option, Option.none) => .error (.fault (.missingValue option))
  | some (option, some value) => store { given with pending := Option.none } option value

/-- Turns a switch. -/
def turn (given : Given) : Switch → Except Stop Given
  | .help => .error .help
  | .version => .error .version
  | .verbose => .ok given
  | switch =>
      if given.switches.contains switch then .error (.fault (.repeated (.plain switch)))
      else .ok { given with switches := switch :: given.switches }

/-- Takes an option or a switch, perhaps with a value attached to it. -/
def take (given : Given) : Directive → Option String → Except Stop Given
  | .plain switch, Option.none => do turn (← given.settle) switch
  | .plain switch, some _ => .error (.fault (.unwantedValue (.plain switch)))
  | .valued option, some value => do store (← given.settle) option value
  | .valued option, Option.none => do
      return { ← given.settle with pending := some (option, Option.none) }

/-- The value attached to a letter. -/
def attachedValue? : List Char → Option String
  | [] => Option.none
  | '=' :: value => some (String.ofList value)
  | value => some (String.ofList value)

/-- Takes letters that stand together. -/
def takeLetters (given : Given) : List Char → Except Stop Given
  | [] => .ok given
  | letter :: rest => do
      match Directive.ofLetter? letter with
      | some (.valued option) => given.take (.valued option) (attachedValue? rest)
      | some directive => takeLetters (← given.take directive Option.none) rest
      | Option.none => throw (.fault (.unknownArgument (String.ofList ['-', letter])))

/-- Takes a long name, perhaps with a value behind an equals sign. -/
def takeName (given : Given) (text : List Char) : Except Stop Given :=
  let name := String.ofList (text.takeWhile (· != '='))
  let value := (text.dropWhile (· != '=')).tail?.map String.ofList
  match Directive.ofName? name with
  | some directive => given.take directive value
  | Option.none => .error (.fault (.unknownArgument ("--" ++ name)))

/-- Takes a word, which is the value of an option before it. -/
def takeWord (given : Given) (word : String) : Except Stop Given :=
  match given.pending with
  | some (option, Option.none) => .ok { given with pending := some (option, some word) }
  | _ => .error (.fault (.unknownArgument word))

/-- Takes arguments.  Two hyphens alone announce words without an option, of which there must be
none. -/
def takeAll (given : Given) : List String → Except Stop Given
  | [] => given.settle
  | argument :: rest => do
      match argument.toList with
      | ['-', '-'] =>
          match rest with
          | [] => given.settle
          | word :: _ => throw (.fault (.unknownArgument word))
      | '-' :: '-' :: text => takeAll (← given.takeName text) rest
      | '-' :: letter :: letters => takeAll (← given.takeLetters (letter :: letters)) rest
      | _ => takeAll (← given.takeWord argument) rest

end Given

/-! ## Commands -/

/-- Where a description comes from. -/
inductive DescriptionSource where
  | file (path : String)
  | builtin (name : String)
  deriving DecidableEq, Repr

/-- What the command is to do. -/
structure Command where
  source : DescriptionSource
  output : String
  settings : Generation.Settings
  dryRun : Bool
  deriving DecidableEq, Repr

/-- The directory of the sources if none is given. -/
def standardOutput : String := "generated/src"

/-- The source of the description. -/
def Given.source (given : Given) : Except Stop DescriptionSource :=
  match given.values.lookup .schema, given.values.lookup .api with
  | some path, Option.none => .ok (.file path)
  | Option.none, some name => .ok (.builtin name)
  | some _, some _ => .error (.fault .twoSources)
  | Option.none, Option.none => .error (.fault .noSource)

/-- The settings of the generation. -/
def Given.settings (given : Given) : Generation.Settings :=
  let standard := Generation.Settings.standard
  { clientName := given.values.lookup .clientName
    moduleName := given.values.lookup .moduleName
    paramsSuffix := (given.values.lookup .paramsSuffix).getD standard.paramsSuffix
    packageName := (given.values.lookup .packageName).getD standard.packageName
    runtimePath := given.values.lookup .runtimePath }

/-- The command that arguments ask for. -/
def readCommand (arguments : List String) : Except Stop Command := do
  let given ← Given.none.takeAll arguments
  return {
    source := ← given.source
    output := (given.values.lookup .output).getD standardOutput
    settings := given.settings
    dryRun := given.switches.contains .dryRun }

end ServiceCatalog.CommandLine
