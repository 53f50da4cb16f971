import AccumulatorMachine.Journal
import AccumulatorMachine.Machine.Basic

/-!
# Machine states as text

One line for each device with its flags and registers, and three lines for the
whole machine, the first of which begins with the count of ticks.
-/

namespace AccumulatorMachine

/-- A flag in words. -/
def flagText (raised : Bool) : String :=
  if raised then "on" else "off"

/-- A register in decimal. -/
def registerText (value : UInt8) : String :=
  Text.decimal value.toNat

/-- The state of the processor in one line. The word for the printer is shown
only when there is one. -/
def Processor.display (cpu : Processor) : String :=
  "CPU " ++ cpu.phase.name ++ "->" ++ cpu.next.name ++
    " RST:" ++ flagText cpu.reset ++
    " READ:" ++ flagText cpu.read ++
    " WRITE:" ++ flagText cpu.write ++
    " A:" ++ registerText cpu.accumulator ++
    " AR:" ++ registerText cpu.address ++
    " DR:" ++ registerText cpu.data ++
    " IR:" ++ registerText cpu.instruction ++
    " LR:" ++ registerText cpu.lastLoad ++
    " PC:" ++ registerText cpu.programCounter ++
    match cpu.output with
    | some word => " OUT:" ++ registerText word
    | none => ""

/-- The request to memory in one line. -/
def Memory.display (memory : Memory) : String :=
  "RAM RST:" ++ flagText memory.reset ++
    " READ:" ++ flagText memory.read ++
    " WRITE:" ++ flagText memory.write ++
    " AR:" ++ registerText memory.address ++
    " DR:" ++ registerText memory.data

/-- The request to the printer and the length of its paper in one line. -/
def Printer.display (printer : Printer) : String :=
  "Printer RST:" ++ flagText printer.reset ++
    " OUTPUT:" ++ flagText printer.output ++
    " OR:" ++ registerText printer.register ++
    " PAPER:" ++ Text.decimal printer.paper.length

namespace Machine

/-- The state of the whole machine in three lines. -/
def display (machine : Machine) : String :=
  Text.decimal machine.cycles.toNat ++ "\t" ++ machine.processor.display ++
    "\n\t" ++ machine.memory.display ++
    "\n\t" ++ machine.printer.display

/-- What the journal says of a run: the state after each of its ticks. -/
def journal (machine : Machine) (ticks : Nat) : List JournalEntry :=
  (machine.runStates ticks).map fun state => ⟨.trace, state.display⟩

end Machine

end AccumulatorMachine
