import AccumulatorMachine.Settings

/-!
# Requests

The arguments of the command line, understood. A request is the name of a
command with its operands and options, the path of a program to run, or a wish
for help, the version or the banner.

Arguments are read from the left, and the first that does not fit decides. An
argument that names a command begins it. Options of one letter may share a
dash, an option with a value takes it from the same argument or the next, no
option may come twice, and two dashes end the options.
-/

namespace AccumulatorMachine

/-- The commands by name. -/
inductive Topic
  /-- Run a program. -/
  | run
  /-- Write the image of a program. -/
  | compile
  /-- Assemble a program and keep nothing. -/
  | check
  /-- List the image of a program. -/
  | dump
  /-- Check a program whenever it changes. -/
  | watch
  /-- Explain a command. -/
  | help
  deriving DecidableEq

namespace Topic

/-- The commands. -/
def all : List Topic :=
  [run, compile, check, dump, watch, help]

/-- The name of the command. -/
def name : Topic → String
  | run => "run"
  | compile => "compile"
  | check => "check"
  | dump => "dump"
  | watch => "watch"
  | help => "help"

/-- The command of a name. -/
def ofName? (name : String) : Option Topic :=
  all.find? fun topic => topic.name == name

/-- The largest number of operands. Each command but the last needs one. -/
def maxOperands : Topic → Nat
  | compile => 2
  | _ => 1

end Topic

/-- The options of commands. -/
inductive CommandOption
  /-- The number of ticks that a run may take. -/
  | cycles
  /-- Show every tick. -/
  | trace
  /-- List memory at the end. -/
  | memory
  /-- Keep the output to what a program needs. -/
  | minimal
  /-- Explain the command. -/
  | help
  deriving DecidableEq

namespace CommandOption

/-- The option of a long name. -/
def ofLong? (topic : Topic) (name : String) : Option CommandOption :=
  match topic, name with
  | _, "help" => some help
  | .run, "cycles" => some cycles
  | .run, "trace" => some trace
  | .run, "memory" => some memory
  | .run, "minimal" => some minimal
  | .dump, "minimal" => some minimal
  | _, _ => none

/-- The option of one letter. -/
def ofShort? (topic : Topic) (letter : Char) : Option CommandOption :=
  match topic, letter with
  | _, 'h' => some help
  | .run, 'c' => some cycles
  | .run, 't' => some trace
  | .run, 'm' => some minimal
  | .dump, 'm' => some minimal
  | _, _ => none

end CommandOption

/-- How a program is run. -/
structure RunOptions where
  /-- The number of ticks that the run may take, if one was asked for. -/
  cycles : Option UInt64 := none
  /-- Whether every tick is shown. -/
  trace : Bool := false
  /-- Whether memory is listed at the end. -/
  memory : Bool := false
  /-- Whether the output is kept to what a program needs. -/
  minimal : Bool := false
  deriving DecidableEq

/-- Something to be done with a file. -/
inductive Command
  /-- Run a source text or an image. -/
  | run (path : String) (options : RunOptions)
  /-- Write the image of a source text. -/
  | compile (path : String) (destination : Option String)
  /-- Assemble a source text and keep nothing. -/
  | check (path : String)
  /-- List the image of a source text and its labels. -/
  | dump (path : String) (minimal : Bool)
  /-- Check a source text whenever it changes. -/
  | watch (path : String)
  deriving DecidableEq

/-- What the arguments ask for. -/
inductive Request
  /-- Show what this program is. -/
  | banner
  /-- Show the version. -/
  | version
  /-- Explain a command, or all of them. -/
  | help (topic : Option Topic)
  /-- Do something with a file. -/
  | command (command : Command)
  deriving DecidableEq

/-- A reason why arguments make no request. -/
inductive UsageFault
  /-- An argument has no place. -/
  | unexpectedArgument (argument : String)
  /-- No command has this name. -/
  | unknownTopic (name : String)
  /-- An option came twice. -/
  | repeatedOption (argument : String)
  /-- An option takes no value and was given one. -/
  | unexpectedValue (argument : String)
  /-- An option takes a value and was given none. -/
  | missingValue (argument : String)
  /-- A value is not what the option takes. -/
  | invalidValue (value : String)
  /-- An operand is empty. -/
  | emptyOperand
  /-- A command lacks the path it needs. -/
  | missingOperand
  deriving DecidableEq

namespace UsageFault

/-- What is wrong, in words. -/
def message : UsageFault → String
  | unexpectedArgument argument => "unexpected argument '" ++ argument ++ "' found"
  | unknownTopic name => "unrecognized subcommand '" ++ name ++ "'"
  | repeatedOption argument =>
    "the argument '" ++ argument ++ "' cannot be used multiple times"
  | unexpectedValue argument => "unexpected value for '" ++ argument ++ "'"
  | missingValue argument => "a value is required for '" ++ argument ++ "' but none was supplied"
  | invalidValue value => "invalid value '" ++ value ++ "'"
  | emptyOperand => "a path must not be empty"
  | missingOperand => "the following required arguments were not provided: <NAME>"

end UsageFault

namespace Request

/-- The operands and options of a command found so far. -/
structure Gathered where
  /-- The operands, in order. -/
  operands : List String := []
  /-- The options. -/
  options : RunOptions := {}
  deriving DecidableEq

namespace Gathered

/-- One more operand. -/
def addOperand (gathered : Gathered) (topic : Topic) (operand : String) :
    Except UsageFault Gathered :=
  if gathered.operands.length < topic.maxOperands then
    if operand.isEmpty then .error .emptyOperand
    else .ok { gathered with operands := gathered.operands ++ [operand] }
  else .error (.unexpectedArgument operand)

/-- The number of ticks that a run may take. -/
def setCycles (gathered : Gathered) (argument value : String) : Except UsageFault Gathered :=
  if gathered.options.cycles.isSome then .error (.repeatedOption argument)
  else
    match Text.readSignedDecimal Variables.maxCyclesLimit value.toList with
    | .ok count =>
      .ok { gathered with options := { gathered.options with cycles := some (UInt64.ofNat count) } }
    | .error _ => .error (.invalidValue value)

/-- One more option without a value. -/
def setFlag (gathered : Gathered) (argument : String) (option : CommandOption) :
    Except UsageFault Gathered :=
  let options := gathered.options
  let given (before : Bool) (after : RunOptions) : Except UsageFault Gathered :=
    if before then .error (.repeatedOption argument)
    else .ok { gathered with options := after }
  match option with
  | .trace => given options.trace { options with trace := true }
  | .memory => given options.memory { options with memory := true }
  | .minimal => given options.minimal { options with minimal := true }
  | .cycles => .error (.missingValue argument)
  | .help => .ok gathered

end Gathered

/-- How the letters behind one dash end. -/
inductive LettersEnd
  /-- Help was asked for. -/
  | help
  /-- Every letter was understood. -/
  | done (gathered : Gathered)
  /-- The value of the last option is the next argument. -/
  | valueNext (gathered : Gathered)

/-- Reads the letters behind one dash. The letters behind an option with a value
are its value, with an equals sign in front of it or not. -/
def readLetters (topic : Topic) (argument : String) (gathered : Gathered) :
    List Char → Except UsageFault LettersEnd
  | [] => .ok (.done gathered)
  | letter :: letters =>
    match CommandOption.ofShort? topic letter with
    | none => .error (.unexpectedArgument argument)
    | some .help => .ok .help
    | some .cycles =>
      match letters with
      | [] => .ok (.valueNext gathered)
      | '=' :: value => (gathered.setCycles argument (String.ofList value)).map .done
      | value => (gathered.setCycles argument (String.ofList value)).map .done
    | some option =>
      match gathered.setFlag argument option with
      | .error fault => .error fault
      | .ok more => readLetters topic argument more letters

/-- How the arguments of a command end. -/
inductive ArgumentsEnd
  /-- Help was asked for. -/
  | help
  /-- Every argument was understood. -/
  | done (gathered : Gathered)

/-- The name and the value, if it has one, of an argument that begins with two dashes. -/
def longOption? (argument : String) : Option (String × Option String) :=
  match argument.toList with
  | '-' :: '-' :: rest =>
    let name := rest.takeWhile (· != '=')
    match rest.dropWhile (· != '=') with
    | _ :: value => some (String.ofList name, some (String.ofList value))
    | [] => some (String.ofList name, none)
  | _ => none

/-- The letters of an argument that begins with one dash and has more to it. -/
def letters? (argument : String) : Option (List Char) :=
  match argument.toList with
  | '-' :: letter :: letters => some (letter :: letters)
  | _ => none

/-- Reads the arguments behind the name of a command. `ended` tells whether the
options have ended. -/
def readArguments (topic : Topic) (ended : Bool) (gathered : Gathered) :
    List String → Except UsageFault ArgumentsEnd
  | [] => .ok (.done gathered)
  | argument :: arguments =>
    if ended then
      match gathered.addOperand topic argument with
      | .error fault => .error fault
      | .ok more => readArguments topic ended more arguments
    else if argument = "--" then readArguments topic true gathered arguments
    else
      match longOption? argument with
      | some (name, value) =>
        match CommandOption.ofLong? topic name, value with
        | none, _ => .error (.unexpectedArgument argument)
        | some .cycles, some value =>
          match gathered.setCycles argument value with
          | .error fault => .error fault
          | .ok more => readArguments topic ended more arguments
        | some .cycles, none =>
          match arguments with
          | [] => .error (.missingValue argument)
          | value :: rest =>
            match gathered.setCycles argument value with
            | .error fault => .error fault
            | .ok more => readArguments topic ended more rest
        | some _, some _ => .error (.unexpectedValue argument)
        | some .help, none => .ok .help
        | some option, none =>
          match gathered.setFlag argument option with
          | .error fault => .error fault
          | .ok more => readArguments topic ended more arguments
      | none =>
        match letters? argument with
        | some letters =>
          match readLetters topic argument gathered letters with
          | .error fault => .error fault
          | .ok .help => .ok .help
          | .ok (.done more) => readArguments topic ended more arguments
          | .ok (.valueNext more) =>
            match arguments with
            | [] => .error (.missingValue argument)
            | value :: rest =>
              match more.setCycles argument value with
              | .error fault => .error fault
              | .ok evenMore => readArguments topic ended evenMore rest
        | none =>
          match gathered.addOperand topic argument with
          | .error fault => .error fault
          | .ok more => readArguments topic ended more arguments

/-- The request of a command with its operands and options. -/
def ofGathered (topic : Topic) (gathered : Gathered) : Except UsageFault Request :=
  match gathered.operands with
  | [] => .error .missingOperand
  | path :: more =>
    match topic with
    | .run => .ok (.command (.run path gathered.options))
    | .compile => .ok (.command (.compile path more.head?))
    | .check => .ok (.command (.check path))
    | .dump => .ok (.command (.dump path gathered.options.minimal))
    | .watch => .ok (.command (.watch path))
    | .help => .ok (.help none)

/-- The request of the arguments behind the word help. -/
def ofHelp : List String → Except UsageFault Request
  | [] => .ok (.help none)
  | name :: names =>
    match Topic.ofName? name, names with
    | none, _ => .error (.unknownTopic name)
    | some topic, [] => .ok (.help (some topic))
    | some _, second :: _ => .error (.unknownTopic second)

/-- The request of the arguments behind the name of a command. -/
def ofTopic (topic : Topic) (arguments : List String) : Except UsageFault Request :=
  if topic = .help then ofHelp arguments
  else
    match readArguments topic false {} arguments with
    | .error fault => .error fault
    | .ok .help => .ok (.help (some topic))
    | .ok (.done gathered) => ofGathered topic gathered

/-- The request of arguments, where `ended` tells whether the options have ended
and `path` is the path of a program to run, if there was one. A command that is
named after such a path takes its place. -/
def ofArgumentsFrom (ended : Bool) (path : Option String) :
    List String → Except UsageFault Request
  | [] =>
    match path with
    | none => .ok .banner
    | some path => .ok (.command (.run path {}))
  | argument :: arguments =>
    let operand : Except UsageFault Request :=
      if path.isSome then .error (.unexpectedArgument argument)
      else if argument.isEmpty then .error .emptyOperand
      else ofArgumentsFrom ended (some argument) arguments
    if ended then operand
    else
      match Topic.ofName? argument with
      | some topic => ofTopic topic arguments
      | none =>
        if argument = "--" then ofArgumentsFrom true path arguments
        else if argument = "--help" then .ok (.help none)
        else if argument = "--version" then .ok .version
        else
          match letters? argument with
          | some ('h' :: _) => .ok (.help none)
          | some ('V' :: _) => .ok .version
          | some _ => .error (.unexpectedArgument argument)
          | none => operand

/-- The request that the arguments make. -/
def ofArguments (arguments : List String) : Except UsageFault Request :=
  ofArgumentsFrom false none arguments

end Request

end AccumulatorMachine
