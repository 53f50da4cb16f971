import AccumulatorMachine.Console.Session

/-!
# The program

The outermost layer: it fetches the arguments and the variables, carries out
the dialogue of the request on real files, and leaves an exit code. Variables
come as texts here, with replacement characters for what encodes none.
-/

namespace AccumulatorMachine

/-- Whether an error has a number, which comes with either sign. -/
def hasNumber (found number : UInt32) : Bool :=
  found == number || found == 0 - number

/-- The fault that an error of the file system stands for. -/
def FileFault.ofError (error : IO.Error) : FileFault :=
  match error with
  | .noFileOrDirectory .. => .notFound
  | .inappropriateType _ number _ =>
    if hasNumber number 20 then .notADirectory else .isADirectory
  | .invalidArgument _ number _ =>
    if hasNumber number 36 then .nameTooLong else .other error.toString
  | _ => .other error.toString

/-- Carries out a dialogue on real files. -/
def Dialogue.carryOut : Dialogue → IO UInt32
  | .say text next => do
    IO.print text
    next.carryOut
  | .read path next => do
    match ← (IO.FS.readBinFile path).toBaseIO with
    | .ok content => (next (.ok content.data.toList)).carryOut
    | .error error => (next (.error (.ofError error))).carryOut
  | .write path content next => do
    match ← (IO.FS.writeBinFile path ⟨content.toArray⟩).toBaseIO with
    | .ok () => (next (.ok ())).carryOut
    | .error error => (next (.error (.ofError error))).carryOut
  | .finish none => return 0
  | .finish (some fault) => do
    IO.eprintln ("Error: " ++ fault.message)
    return 1

end AccumulatorMachine

open AccumulatorMachine in
/-- Runs the program with the arguments of the command line. -/
def main (arguments : List String) : IO UInt32 := do
  match Request.ofArguments arguments with
  | .error fault =>
    IO.eprintln ("error: " ++ fault.message)
    return 2
  | .ok request =>
    let environment : Variables :=
      { maxCycles := (← IO.getEnv "CHIP3_MAX_CYCLES").map .ofText
        trace := (← IO.getEnv "CHIP3_TRACE").map .ofText }
    for warning in environment.warnings do
      IO.eprintln warning.text
    (Session.ofRequest environment.settings request).carryOut
