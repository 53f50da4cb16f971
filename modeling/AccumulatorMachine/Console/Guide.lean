import AccumulatorMachine.Console.Request

/-!
# What the program says of itself

The banner that is shown when nothing is asked for, the version, and an
explanation of each command.
-/

namespace AccumulatorMachine

namespace Guide

/-- The version of the program. -/
def version : String := "0.1.0"

/-- The name of the program in large letters. -/
def logo : String :=
  String.intercalate "\n"
    ["",
      "      __    _      ____",
      " ____/ /_  (_)___ |_  /",
      "/ __/ _  \\/ / _  \\_/_ <",
      "\\__/_//_/_/ .___/____/",
      "         /_/           "]

/-- What the program is for. -/
def introduction : String :=
  String.intercalate "\n"
    ["",
      "Welcome to chip3, a toolchain for a tiny 8-bit computer:",
      "an assembler and a simulator that steps the machine one clock tick at a time.",
      "Please use `-h` or `--help` to access the usage instructions and documentation.",
      ""]

/-- The banner. -/
def banner : String :=
  "\n~ chip3 v" ++ version ++ " ~\n" ++ logo ++ "\n" ++ introduction ++ "\n"

/-- The version as it is asked for. -/
def versionLine : String :=
  "chip3 " ++ version ++ "\n"

/-- The lines of a text, each ended by a line feed. -/
def ofLines (lines : List String) : String :=
  String.join (lines.map (· ++ "\n"))

/-- What all the commands do. -/
def overview : String :=
  ofLines
    ["Chip3 is an assembler and cycle-accurate simulator for a tiny 8-bit computer",
      "",
      "Usage: chip3 [PATH] [COMMAND]",
      "",
      "Commands:",
      "  run      Run text `.asm` or binary `.bin` file until it halts and show the printout",
      "  compile  Create binary `.bin` memory image to run later",
      "  check    Check a `.asm` file without running or outputting binary",
      "  dump     Show the assembled memory image and its labels",
      "  watch    Place a watch on a `.asm` file to receive constant assembler updates",
      "  help     Print this message or the help of the given subcommand(s)",
      "",
      "Arguments:",
      "  [PATH]  Quickly provide a `.asm` file to run",
      "",
      "Options:",
      "  -h, --help     Print help",
      "  -V, --version  Print version"]

/-- What one command does. -/
def explanation : Topic → String
  | .run =>
    ofLines
      ["Run text `.asm` or binary `.bin` file until it halts and show the printout",
        "",
        "Usage: chip3 run [OPTIONS] <NAME>",
        "",
        "Arguments:",
        "  <NAME>  `.asm` or `.bin` file to run",
        "",
        "Options:",
        "  -c, --cycles <CYCLES>  Maximum amount of cycles before giving up",
        "  -t, --trace            Print the whole machine after every cycle",
        "      --memory           Print the memory listing once the program stops",
        "  -m, --minimal          Produce minimal output, suited for blackbox tests",
        "  -h, --help             Print help"]
  | .compile =>
    ofLines
      ["Create binary `.bin` memory image to run later",
        "",
        "Usage: chip3 compile <NAME> [DEST]",
        "",
        "Arguments:",
        "  <NAME>  `.asm` file to compile",
        "  [DEST]  Destination to output .bin file",
        "",
        "Options:",
        "  -h, --help  Print help"]
  | .check =>
    ofLines
      ["Check a `.asm` file without running or outputting binary",
        "",
        "Usage: chip3 check <NAME>",
        "",
        "Arguments:",
        "  <NAME>  File to check",
        "",
        "Options:",
        "  -h, --help  Print help"]
  | .dump =>
    ofLines
      ["Show the assembled memory image and its labels",
        "",
        "Usage: chip3 dump [OPTIONS] <NAME>",
        "",
        "Arguments:",
        "  <NAME>  `.asm` file to dump",
        "",
        "Options:",
        "  -m, --minimal  Produce minimal output, suited for blackbox tests",
        "  -h, --help     Print help"]
  | .watch =>
    ofLines
      ["Place a watch on a `.asm` file to receive constant assembler updates",
        "",
        "Usage: chip3 watch <NAME>",
        "",
        "Arguments:",
        "  <NAME>  `.asm` file to watch",
        "",
        "Options:",
        "  -h, --help  Print help"]
  | .help =>
    ofLines
      ["Print this message or the help of the given subcommand(s)",
        "",
        "Usage: chip3 help [COMMAND]...",
        "",
        "Arguments:",
        "  [COMMAND]...  Print help for the subcommand(s)"]

end Guide

end AccumulatorMachine
