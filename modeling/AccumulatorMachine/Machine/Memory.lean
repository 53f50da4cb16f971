import AccumulatorMachine.Instruction.Word
import AccumulatorMachine.Machine.Signal

/-!
# Memory

Memory holds thirty-two words and honours at most one request a tick: a reset
comes before a read, and a read before a write. The answer to a read stands in
the data register afterwards.
-/

namespace AccumulatorMachine

/-- The words of memory and the request that it was given. -/
structure Memory where
  /-- Whether a reset is asked for. -/
  reset : Bool
  /-- Whether a word is asked for. -/
  read : Bool
  /-- Whether a word is to be kept. -/
  write : Bool
  /-- The words. -/
  words : Vector Word capacity
  /-- The address that the request is about. -/
  address : UInt8
  /-- The word that was read, or is to be written. -/
  data : UInt8
  deriving DecidableEq

namespace Memory

/-- Memory that holds only zeros and no request. -/
def initial : Memory where
  reset := false
  read := false
  write := false
  words := Vector.replicate capacity 0
  address := 0
  data := 0

/-- Memory with the words of an image at its start and zeros behind them. -/
def ofImage (image : List Word) : Memory :=
  { initial with words := Vector.ofFn fun index => image.getD index.val 0 }

/-- The word that an address means: its low five bits count. -/
def index (address : UInt8) : Fin capacity :=
  ⟨address.toNat % capacity, Nat.mod_lt _ (by decide)⟩

/-- Memory after one tick. -/
def tick (memory : Memory) : Memory :=
  if memory.reset then initial
  else if memory.read then { memory with data := memory.words.get (index memory.address) }
  else if memory.write then
    { memory with
      words := memory.words.set (index memory.address).val memory.data
        (index memory.address).isLt }
  else memory

/-- What memory drives on a line. -/
def drives (memory : Memory) : Line → Option Signal
  | .reset => some (.flag memory.reset)
  | .read => some (.flag memory.read)
  | .write => some (.flag memory.write)
  | .address => some (.word memory.address)
  | .data => some (.word memory.data)
  | .output => none
  | .outputRegister => none

/-- Memory after it heard a signal on a line. -/
def accept (memory : Memory) (line : Line) (signal : Signal) : Memory :=
  match line with
  | .reset => { memory with reset := signal.raised }
  | .read => { memory with read := signal.raised }
  | .write => { memory with write := signal.raised }
  | .address => { memory with address := signal.value &&& 31 }
  | .data => { memory with data := signal.value }
  | .output => memory
  | .outputRegister => memory

end Memory

end AccumulatorMachine
