import AccumulatorMachine.Machine.Basic
import AccumulatorMachine.Proofs.Instruction.Fields

/-!
# A tick without wires

`Machine.tick` walks over the devices and the wires. Since the wires are fixed,
the walk comes to one equation, `Machine.tick_eq`: the processor executes a
phase, memory and the printer hear what it drives and act on it, and the word on
memory's data line goes back to the processor. Everything that is proved about
runs starts from this equation and never looks at a wire again.

As long as no reset is asked for (`Machine.NoReset`) the phase that a tick
executes is the one the processor announced, memory and the printer honour the
request that it makes, and no reset is asked for afterwards either.
-/

namespace AccumulatorMachine

namespace Memory

/-- Memory after the wires from the processor carried their signals. -/
def hear (memory : Memory) (cpu : Processor) : Memory :=
  { memory with
    read := cpu.read
    write := cpu.write
    address := cpu.address &&& 31
    data := cpu.data }

/-- **Memory after it honoured a request of the processor**: a word is fetched,
or kept, or memory is left as it is. -/
def honour (memory : Memory) (cpu : Processor) : Memory :=
  if cpu.read then { memory.hear cpu with data := memory.words.get (index cpu.address) }
  else if cpu.write then
    { memory.hear cpu with
      words := memory.words.set (index cpu.address).val cpu.data (index cpu.address).isLt }
  else memory.hear cpu

/-- An address below thirty-two means the word of that number. -/
theorem index_of_toNat_eq {address : UInt8} {n : Fin capacity} (h : address.toNat = n.val) :
    index address = n := by
  refine Fin.ext ?_
  show address.toNat % 32 = n.val
  rw [h]
  exact Nat.mod_eq_of_lt n.isLt

/-- The word that an address means does not depend on the bits above the fifth. -/
@[simp] theorem index_and_mask (address : UInt8) : index (address &&& 31) = index address := by
  refine Fin.ext ?_
  show (address &&& 31).toNat % 32 = address.toNat % 32
  rw [Word.toNat_and_mask, Nat.mod_mod]

/-- Without a reset, memory honours what it hears. -/
theorem tick_hear {memory : Memory} (h : memory.reset = false) (cpu : Processor) :
    (memory.hear cpu).tick = memory.honour cpu := by
  have hreset : ¬ (memory.hear cpu).reset = true := by
    show ¬ memory.reset = true
    rw [h]
    exact Bool.false_ne_true
  have hindex : index (memory.hear cpu).address = index cpu.address := index_and_mask cpu.address
  unfold tick honour
  rw [if_neg hreset]
  simp only [hindex]
  rfl

/-- A processor that asks for a word gets it, whatever it hands over. -/
theorem honour_of_read (memory : Memory) {cpu : Processor} (h : cpu.read = true) :
    memory.honour cpu
      = { memory.hear cpu with data := memory.words.get (index cpu.address) } :=
  if_pos h

/-- A processor that only hands a word over has it kept. -/
theorem honour_of_write (memory : Memory) {cpu : Processor} (hr : cpu.read = false)
    (hw : cpu.write = true) :
    memory.honour cpu
      = { memory.hear cpu with
          words :=
            memory.words.set (index cpu.address).val cpu.data (index cpu.address).isLt } := by
  unfold honour
  rw [if_neg (by rw [hr]; exact Bool.false_ne_true), if_pos hw]

/-- A processor that asks for nothing leaves memory as it hears it. -/
theorem honour_of_idle (memory : Memory) {cpu : Processor} (hr : cpu.read = false)
    (hw : cpu.write = false) : memory.honour cpu = memory.hear cpu := by
  unfold honour
  rw [if_neg (by rw [hr]; exact Bool.false_ne_true), if_neg (by rw [hw]; exact Bool.false_ne_true)]

/-- Honouring a request leaves the reset line alone. -/
@[simp] theorem honour_reset (memory : Memory) (cpu : Processor) :
    (memory.honour cpu).reset = memory.reset := by
  unfold honour
  split
  · rfl
  · split <;> rfl

end Memory

namespace Printer

/-- The printer after the wires from the processor carried their signals. -/
def hear (printer : Printer) (cpu : Processor) : Printer :=
  { printer with
    output := cpu.output.isSome
    register := cpu.output.getD 0 }

/-- **The printer after it honoured a request of the processor**: the word that
is presented, if there is one, stands on the paper. -/
def honour (printer : Printer) (cpu : Processor) : Printer :=
  { printer.hear cpu with paper := printer.paper ++ cpu.output.toList }

/-- Without a reset, the printer honours what it hears. -/
theorem tick_hear {printer : Printer} (h : printer.reset = false) (cpu : Processor) :
    (printer.hear cpu).tick = printer.honour cpu := by
  unfold tick honour hear
  cases cpu.output with
  | none => simp [h]
  | some word => simp [h]

end Printer

namespace Processor

/-- No phase raises the reset line. -/
theorem execute_reset {cpu : Processor} (h : cpu.reset = false) (phase : Phase) :
    (cpu.execute phase).reset = false := by
  cases phase with
  | reset => rfl
  | _ => exact h

/-- Without a reset the pending phase is the announced one. -/
theorem pending_of_reset_eq_false {cpu : Processor} (h : cpu.reset = false) :
    cpu.pending = cpu.next := by
  rw [pending, h]
  exact if_neg Bool.false_ne_true

/-- The processor after it executed the phase it announced. -/
def advance (cpu : Processor) : Processor :=
  { cpu.execute cpu.next with phase := cpu.next }

/-- The processor after it executed a phase that it announced. -/
theorem advance_of_next {cpu : Processor} {phase : Phase} (h : cpu.next = phase) :
    cpu.advance = { cpu.execute phase with phase := phase } := by
  unfold advance
  rw [h]

/-- Without a reset, a tick of the processor executes the announced phase. -/
theorem tick_of_reset_eq_false {cpu : Processor} (h : cpu.reset = false) :
    cpu.tick = cpu.advance := by
  unfold tick advance
  rw [pending_of_reset_eq_false h]

end Processor

namespace Machine

/-- **The tick as one equation.** The processor acts first; memory and the
printer hear it on the same tick, and memory's data line is heard by the
processor before the next one. -/
theorem tick_eq (machine : Machine) :
    machine.tick =
      { processor :=
          { machine.processor.tick with
            data := (machine.memory.hear machine.processor.tick).tick.data }
        memory := (machine.memory.hear machine.processor.tick).tick
        printer := (machine.printer.hear machine.processor.tick).tick
        cycles := machine.cycles + 1 } := rfl

/-- Ticking `m + n` times is ticking `m` times and then `n` times. -/
theorem after_add (machine : Machine) (m n : Nat) :
    machine.after (m + n) = (machine.after m).after n := by
  induction m generalizing machine with
  | zero => rw [Nat.zero_add]; rfl
  | succ m ih => rw [Nat.succ_add]; exact ih machine.tick

/-- The last of `n + 1` ticks, split off. -/
theorem after_succ (machine : Machine) (n : Nat) :
    machine.after (n + 1) = (machine.after n).tick :=
  machine.after_add n 1

/-- One more tick in front of `n` is one tick more to count. -/
theorem add_one_add_ofNat (count : UInt64) (n : Nat) :
    count + 1 + UInt64.ofNat n = count + UInt64.ofNat (n + 1) := by
  rw [UInt64.ofNat_add, UInt64.add_assoc, UInt64.add_comm 1]
  rfl

/-! ## No reset asked for -/

/-- No device is asked for a reset. -/
structure NoReset (machine : Machine) : Prop where
  /-- The processor is not. -/
  processor : machine.processor.reset = false
  /-- Memory is not. -/
  memory : machine.memory.reset = false
  /-- The printer is not. -/
  printer : machine.printer.reset = false

/-- **The tick of a machine that is asked for no reset**: the processor executes
the announced phase, and memory and the printer honour the request it makes. -/
theorem NoReset.tick_eq {machine : Machine} (h : machine.NoReset) :
    machine.tick =
      { processor :=
          { machine.processor.advance with
            data := (machine.memory.honour machine.processor.advance).data }
        memory := machine.memory.honour machine.processor.advance
        printer := machine.printer.honour machine.processor.advance
        cycles := machine.cycles + 1 } := by
  rw [Machine.tick_eq, Processor.tick_of_reset_eq_false h.processor,
    Memory.tick_hear h.memory, Printer.tick_hear h.printer]

/-- A tick asks for no reset. -/
theorem NoReset.tick {machine : Machine} (h : machine.NoReset) : machine.tick.NoReset := by
  rw [h.tick_eq]
  exact ⟨Processor.execute_reset h.processor _,
    (Memory.honour_reset _ _).trans h.memory, h.printer⟩

/-- No tick of a run asks for a reset. -/
theorem NoReset.after {machine : Machine} (h : machine.NoReset) (n : Nat) :
    (machine.after n).NoReset := by
  induction n generalizing machine with
  | zero => exact h
  | succ n ih => exact ih h.tick

end Machine

end AccumulatorMachine
