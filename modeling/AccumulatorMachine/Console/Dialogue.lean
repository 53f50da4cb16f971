import AccumulatorMachine.Console.Directory
import AccumulatorMachine.Machine.Basic
import AccumulatorMachine.Source.Fault

/-!
# Dialogues

What a command does to the world is a tree of requests: it says a text, reads a
file and goes on with the answer, writes a file and goes on with the answer, or
ends, well or with a fault. The tree says nothing about who answers.
`Dialogue.perform` answers from a `Directory` and gives what was said, how it
ended and what the directory holds afterwards.
-/

namespace AccumulatorMachine

/-- A reason why a command ends badly. -/
inductive CommandFault
  /-- A file could not be read or written. -/
  | file (fault : FileFault)
  /-- A source text could not be assembled. -/
  | source (fault : Fault)
  /-- An image could not be loaded. -/
  | load (fault : LoadFault)
  /-- The extension of a file does not say that it can be run. -/
  | unknownExtension
  /-- A file has no extension to say that it can be run. -/
  | noExtension
  /-- The file to watch does not exist. -/
  | missingFile
  /-- A program did not halt within so many ticks. -/
  | notHalted (budget : UInt64)
  deriving DecidableEq

namespace CommandFault

/-- What went wrong, in words. -/
def message : CommandFault → String
  | file fault => fault.message
  | source fault => fault.message
  | load fault => fault.message
  | unknownExtension => "File has unknown extension. Exiting..."
  | noExtension => "File has no extension. Exiting..."
  | missingFile => "File does not exist. Exiting..."
  | notHalted budget =>
    "Program did not halt within " ++ Text.decimal budget.toNat ++ " cycles"

end CommandFault

/-- What a command says and asks of the files around it. -/
inductive Dialogue
  /-- Say a text. -/
  | say (text : String) (next : Dialogue)
  /-- Read a file. -/
  | read (path : String) (next : Except FileFault (List UInt8) → Dialogue)
  /-- Write a file. -/
  | write (path : String) (content : List UInt8) (next : Except FileFault Unit → Dialogue)
  /-- End, well or with a fault. -/
  | finish (fault : Option CommandFault)

/-- What is left of a dialogue when it has ended. -/
structure Outcome where
  /-- Everything that was said. -/
  output : String
  /-- The fault that it ended with, if there was one. -/
  fault : Option CommandFault
  /-- The files afterwards. -/
  directory : Directory
  deriving DecidableEq

namespace Outcome

/-- The outcome with a text said before it. -/
def saying (text : String) (outcome : Outcome) : Outcome :=
  { outcome with output := text ++ outcome.output }

/-- The number that the command leaves behind: zero if it ended well. -/
def exitCode (outcome : Outcome) : Nat :=
  if outcome.fault.isSome then 1 else 0

end Outcome

namespace Dialogue

/-- The dialogue, answered from a directory. -/
def perform (directory : Directory) : Dialogue → Outcome
  | say text next => (perform directory next).saying text
  | read path next => perform directory (next (directory.read path))
  | write path content next =>
    match directory.write path content with
    | .ok written => perform written (next (.ok ()))
    | .error fault => perform directory (next (.error fault))
  | finish fault => ⟨"", fault, directory⟩

end Dialogue

end AccumulatorMachine
