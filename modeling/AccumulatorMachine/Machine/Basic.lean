import AccumulatorMachine.Machine.Memory
import AccumulatorMachine.Machine.Printer
import AccumulatorMachine.Machine.Processor

/-!
# The machine

The machine is a processor, memory and a printer on one set of wires. On a tick
the devices act in order, and what a device drives goes over its wires before
the next device acts. `Machine.tickAlong` is that tick for any order and any
set of wires, and `Machine.tick` the one of this machine.

A run ticks until the processor has halted or a number of ticks is used up.
-/

namespace AccumulatorMachine

/-- The state of the whole machine between two ticks. -/
structure Machine where
  /-- The part that executes instructions. -/
  processor : Processor
  /-- The part that holds the words. -/
  memory : Memory
  /-- The part that keeps the printout. -/
  printer : Printer
  /-- The number of ticks so far. -/
  cycles : UInt64
  deriving DecidableEq

/-- A reason why an image cannot be loaded. -/
inductive LoadFault
  /-- The image holds more words than memory. -/
  | tooLarge (size capacity : Nat)
  deriving DecidableEq

namespace LoadFault

/-- What is wrong, in words. -/
def message : LoadFault → String
  | tooLarge size capacity =>
    "Image is " ++ Text.decimal size ++ " words long but memory only holds " ++
      Text.decimal capacity

/-- The name of the cause. -/
def code : LoadFault → String
  | tooLarge .. => "load::too_large"

end LoadFault

namespace Machine

/-- The machine before its first tick, with zeros for words. -/
def initial : Machine where
  processor := .initial
  memory := .initial
  printer := .initial
  cycles := 0

/-- The machine before its first tick, with an image at the start of memory. -/
def load (image : List Word) : Except LoadFault Machine :=
  if image.length ≤ capacity then .ok { initial with memory := .ofImage image }
  else .error (.tooLarge image.length capacity)

/-- The machine after one of its devices acted. -/
def tickDevice (machine : Machine) : Device → Machine
  | .processor => { machine with processor := machine.processor.tick }
  | .memory => { machine with memory := machine.memory.tick }
  | .printer => { machine with printer := machine.printer.tick }

/-- What a device drives on a line. -/
def drives (machine : Machine) (device : Device) (line : Line) : Option Signal :=
  match device with
  | .processor => machine.processor.drives line
  | .memory => machine.memory.drives line
  | .printer => machine.printer.drives line

/-- The machine after one of its devices heard a signal on a line. -/
def accept (machine : Machine) (device : Device) (line : Line) (signal : Signal) : Machine :=
  match device with
  | .processor => { machine with processor := machine.processor.accept line signal }
  | .memory => { machine with memory := machine.memory.accept line signal }
  | .printer => { machine with printer := machine.printer.accept line signal }

/-- The machine after a wire carried what its source drives to its target. -/
def carry (machine : Machine) (wire : Wire) : Machine :=
  match machine.drives wire.source wire.line with
  | some signal => machine.accept wire.target wire.onto signal
  | none => machine

/-- The machine after a device acted and its wires carried the result. -/
def turn (wires : List Wire) (machine : Machine) (device : Device) : Machine :=
  (Wire.leaving device wires).foldl carry (machine.tickDevice device)

/-- The machine after one tick in which the devices act in the given order over
the given wires. -/
def tickAlong (order : List Device) (wires : List Wire) (machine : Machine) : Machine :=
  order.foldl (turn wires) { machine with cycles := machine.cycles + 1 }

/-- The machine after one tick. -/
def tick (machine : Machine) : Machine :=
  machine.tickAlong Device.order Wire.all

/-- The machine with a reset asked of every device. It happens on the next tick. -/
def reset (machine : Machine) : Machine :=
  Device.order.foldl (fun state device => state.accept device .reset (.flag true)) machine

/-- Whether the processor has come to rest on a jump to itself. -/
def isHalted (machine : Machine) : Bool :=
  machine.processor.phase == .halt

/-- The machine after `n` ticks, halted or not. -/
def after (machine : Machine) : Nat → Machine
  | 0 => machine
  | n + 1 => machine.tick.after n

/-- The states after each of the next `n` ticks, halted or not. -/
def following (machine : Machine) : Nat → List Machine
  | 0 => []
  | n + 1 => machine.tick :: machine.tick.following n

/-- The machine after it ticked until it halted, but at most `n` times. -/
def run (machine : Machine) : Nat → Machine
  | 0 => machine
  | n + 1 => if machine.isHalted then machine else machine.tick.run n

/-- The states after each tick of a run. -/
def runStates (machine : Machine) : Nat → List Machine
  | 0 => []
  | n + 1 => if machine.isHalted then [] else machine.tick :: machine.tick.runStates n

/-- Everything printed so far. -/
def printout (machine : Machine) : List UInt8 :=
  machine.printer.paper

/-- The states that follow, at most `bound` of them, as long as the machine has
not halted and its count of ticks is below `budget`. -/
def statesUntil (budget : UInt64) : Nat → Machine → List Machine
  | 0, _ => []
  | bound + 1, machine =>
    if machine.isHalted then []
    else if machine.cycles < budget then machine.tick :: statesUntil budget bound machine.tick
    else []

/-- The states that follow until the machine halts or its count of ticks has
reached `budget`. The count grows by one each tick, so the ticks that are
missing from the budget bound their number. -/
def statesWithin (budget : UInt64) (machine : Machine) : List Machine :=
  statesUntil budget (budget.toNat - machine.cycles.toNat) machine

end Machine

end AccumulatorMachine
