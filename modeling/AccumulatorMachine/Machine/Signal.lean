/-!
# Signals and wires

The devices of the machine talk over named lines. A line carries a flag or a
word, and either can be read as the other: a word is a raised flag unless it is
zero, and a flag is the word one or zero. A wire copies what one device drives
on a line onto a line of another device.

`Device.order` is the order in which the devices tick, and `Wire.all` lists the
wires. A device hears the devices before it on the same tick and those behind
it on the next.
-/

namespace AccumulatorMachine

/-- The parts of the machine. -/
inductive Device
  /-- The part that executes instructions. -/
  | processor
  /-- The part that holds the words. -/
  | memory
  /-- The part that keeps the printout. -/
  | printer
  deriving DecidableEq

namespace Device

/-- The devices in the order in which they tick. -/
def order : List Device :=
  [processor, memory, printer]

end Device

/-- The lines between the devices. -/
inductive Line
  /-- Starts the device afresh. -/
  | reset
  /-- Asks for a word. -/
  | read
  /-- Asks for a word to be kept. -/
  | write
  /-- The address of the word that is asked for. -/
  | address
  /-- The word itself. -/
  | data
  /-- Asks for a word to be printed. -/
  | output
  /-- The word to print. -/
  | outputRegister
  deriving DecidableEq

namespace Line

/-- The lines in their usual order. -/
def all : List Line :=
  [reset, read, write, address, data, output, outputRegister]

end Line

/-- What a line carries. -/
inductive Signal
  /-- A flag, raised or not. -/
  | flag (raised : Bool)
  /-- A word. -/
  | word (value : UInt8)
  deriving DecidableEq

namespace Signal

/-- The signal read as a flag. -/
def raised : Signal → Bool
  | flag raised => raised
  | word value => value != 0

/-- The signal read as a word. -/
def value : Signal → UInt8
  | flag raised => if raised then 1 else 0
  | word value => value

end Signal

/-- A connection between two devices. -/
structure Wire where
  /-- The device that drives the wire. -/
  source : Device
  /-- The line that is copied. -/
  line : Line
  /-- The device at the other end. -/
  target : Device
  /-- The line that it is copied onto. -/
  onto : Line
  deriving DecidableEq

namespace Wire

/-- The wires of the machine. -/
def all : List Wire :=
  [⟨.processor, .read, .memory, .read⟩,
    ⟨.processor, .write, .memory, .write⟩,
    ⟨.processor, .address, .memory, .address⟩,
    ⟨.processor, .data, .memory, .data⟩,
    ⟨.processor, .output, .printer, .output⟩,
    ⟨.processor, .outputRegister, .printer, .outputRegister⟩,
    ⟨.memory, .data, .processor, .data⟩]

/-- The wires among `wires` that `device` drives. -/
def leaving (device : Device) (wires : List Wire) : List Wire :=
  wires.filter fun wire => wire.source == device

end Wire

end AccumulatorMachine
