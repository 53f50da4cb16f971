import AccumulatorMachine.Instruction.Word
import AccumulatorMachine.Machine.Signal

/-!
# The processor

The processor executes an instruction in phases, one phase a tick. A word that
is asked for arrives on the next tick, so an instruction that reads memory has
a second phase for the reply. `Processor.tick` is one phase: it gives the
registers after the tick and the phase that comes next.

An address of zero is special in two instructions. A load from it takes its
address from the accumulator instead, and a store to it goes to the address
that the last load named.

A jump to itself halts the processor, and only a reset gets it out of there.
-/

namespace AccumulatorMachine

/-- What the processor does in one tick. -/
inductive Phase
  /-- Start afresh. -/
  | reset
  /-- Ask memory for the next instruction. -/
  | fetch
  /-- Take the instruction apart. -/
  | decode
  /-- Apply operators. -/
  | operate
  /-- Ask memory for the word to load. -/
  | load
  /-- Load the word that arrived. -/
  | loadReply
  /-- Hand the accumulator to memory. -/
  | store
  /-- Ask memory for the word to add. -/
  | add
  /-- Add the word that arrived. -/
  | addReply
  /-- Ask memory for the word to mask with. -/
  | and
  /-- Mask with the word that arrived. -/
  | andReply
  /-- Jump. -/
  | jump
  /-- Jump if the accumulator is zero. -/
  | jumpIfZero
  /-- Hand the accumulator to the printer. -/
  | output
  /-- Do nothing, until a reset. -/
  | halt
  deriving DecidableEq

namespace Phase

/-- The phases. -/
def all : List Phase :=
  [reset, fetch, decode, operate, load, loadReply, store, add, addReply, and, andReply, jump,
    jumpIfZero, output, halt]

/-- The name of the phase in displays. -/
def name : Phase → String
  | reset => "RESET"
  | fetch => "FETCH"
  | decode => "FETCH2"
  | operate => "OPR"
  | load => "LD"
  | loadReply => "LD2"
  | store => "ST"
  | add => "ADD"
  | addReply => "ADD2"
  | and => "AND"
  | andReply => "AND2"
  | jump => "JMP"
  | jumpIfZero => "JZ"
  | output => "OUT"
  | halt => "HALT"

/-- The phase in which an instruction begins to act. -/
def ofOpcode : Opcode → Phase
  | .operate => operate
  | .addressed .load => load
  | .addressed .store => store
  | .addressed .add => add
  | .addressed .and => and
  | .addressed .jump => jump
  | .addressed .jumpIfZero => jumpIfZero
  | .output => output

end Phase

/-- The registers of the processor and what it drives on its lines. -/
structure Processor where
  /-- The phase of the last tick. -/
  phase : Phase
  /-- The phase of the next tick. -/
  next : Phase
  /-- Whether a reset is asked for. -/
  reset : Bool
  /-- Whether memory is asked for a word. -/
  read : Bool
  /-- Whether memory is asked to keep a word. -/
  write : Bool
  /-- The word that instructions work on. -/
  accumulator : UInt8
  /-- The word last received from memory or handed to it. -/
  data : UInt8
  /-- The opcode of the instruction, in three bits. -/
  instruction : UInt8
  /-- The address that memory is asked about, in five bits. -/
  address : UInt8
  /-- The address that the last load was written with, in five bits. -/
  lastLoad : UInt8
  /-- The address of the next instruction, in five bits. -/
  programCounter : UInt8
  /-- The word for the printer, on the tick that prints it. -/
  output : Option UInt8
  deriving DecidableEq

namespace Processor

/-- The processor before its first tick. -/
def initial : Processor where
  phase := .reset
  next := .fetch
  reset := false
  read := false
  write := false
  accumulator := 0
  data := 0
  instruction := 0
  address := 0
  lastLoad := 0
  programCounter := 0
  output := none

/-- Goes on at an address, or halts if the jump stands there itself. The program
counter is already past the jump. -/
def jumpTo (cpu : Processor) (target : UInt8) : Processor :=
  let here := (cpu.programCounter - 1) &&& 31
  { cpu with
    programCounter := target &&& 31
    next := if target &&& 31 = here then .halt else .fetch }

/-- What the processor does in a phase, before it notes the phase. -/
def execute (cpu : Processor) : Phase → Processor
  | .reset => initial
  | .fetch =>
    { cpu with
      address := cpu.programCounter
      read := true
      write := false
      output := none
      next := .decode }
  | .decode =>
    { cpu with
      instruction := (Word.opcode cpu.data).code
      address := Word.operand cpu.data
      read := false
      programCounter := (cpu.programCounter + 1) &&& 31
      next := .ofOpcode (Word.opcode cpu.data) }
  | .operate =>
    { cpu with
      accumulator := Operator.applyAll (Operator.decode cpu.address) cpu.accumulator
      next := .fetch }
  | .load =>
    { cpu with
      address := if cpu.address = 0 then cpu.accumulator &&& 31 else cpu.address
      lastLoad := cpu.address
      read := true
      next := .loadReply }
  | .loadReply => { cpu with accumulator := cpu.data, read := false, next := .fetch }
  | .store =>
    { cpu with
      address := if cpu.address = 0 then cpu.lastLoad else cpu.address
      data := cpu.accumulator
      write := true
      next := .fetch }
  | .add => { cpu with read := true, next := .addReply }
  | .addReply =>
    { cpu with accumulator := cpu.accumulator + cpu.data, read := false, next := .fetch }
  | .and => { cpu with read := true, next := .andReply }
  | .andReply =>
    { cpu with accumulator := cpu.accumulator &&& cpu.data, read := false, next := .fetch }
  | .jump => cpu.jumpTo cpu.address
  | .jumpIfZero => cpu.jumpTo (if cpu.accumulator = 0 then cpu.address else cpu.programCounter)
  | .output => { cpu with output := some cpu.accumulator, next := .fetch }
  | .halt => { cpu with next := .halt }

/-- The phase that the next tick executes. A reset comes before anything else. -/
def pending (cpu : Processor) : Phase :=
  if cpu.reset then .reset else cpu.next

/-- The processor after one tick. -/
def tick (cpu : Processor) : Processor :=
  { cpu.execute cpu.pending with phase := cpu.pending }

/-- What the processor drives on a line. -/
def drives (cpu : Processor) : Line → Option Signal
  | .reset => some (.flag cpu.reset)
  | .read => some (.flag cpu.read)
  | .write => some (.flag cpu.write)
  | .address => some (.word cpu.address)
  | .data => some (.word cpu.data)
  | .output => some (.flag cpu.output.isSome)
  | .outputRegister => some (.word (cpu.output.getD 0))

/-- The processor after it heard a signal on a line. It listens to two of them. -/
def accept (cpu : Processor) (line : Line) (signal : Signal) : Processor :=
  match line with
  | .reset => { cpu with reset := signal.raised }
  | .data => { cpu with data := signal.value }
  | _ => cpu

end Processor

end AccumulatorMachine
