import AccumulatorMachine.Proofs.Machine.Tick

/-!
# Requests keep to their phases

Most phases leave the request lines alone, and rely on an earlier phase having
dropped them. That works because of the order in which phases follow each other
(`Phase.successors`): behind a phase that hands a word over there is always a
fetch, which drops the request, and behind one that asks for a word there is a
phase that receives it. So what a processor drives on its lines is a function of
the phase it is in, which is what `Processor.InStep` says, and the registers of
few bits never hold more (`Processor.InRange`).

Memory and the printer have heard what the processor drives, and nothing else
(`Machine.Coherent`). All of this holds before the first tick and is kept by
ticks and by asking for a reset, in whatever order these come
(`Machine.Reaches`).
-/

namespace AccumulatorMachine

/-! ## The order of phases -/

namespace Phase

/-- **The phases that a phase can announce.** -/
def successors : Phase → List Phase
  | reset => [fetch]
  | fetch => [decode]
  | decode => Opcode.all.map ofOpcode
  | operate => [fetch]
  | load => [loadReply]
  | loadReply => [fetch]
  | store => [fetch]
  | add => [addReply]
  | addReply => [fetch]
  | and => [andReply]
  | andReply => [fetch]
  | jump => [fetch, halt]
  | jumpIfZero => [fetch, halt]
  | output => [fetch]
  | halt => [halt]

/-- Whether memory is asked for a word in a phase. -/
def asks (phase : Phase) : Bool :=
  [fetch, load, add, and].contains phase

/-- Whether memory is asked to keep a word in a phase. -/
def keeps (phase : Phase) : Bool :=
  phase == store

/-- Behind a phase that hands a word over there is a fetch. -/
theorem idle_of_mem_successors {phase next : Phase} (h : next ∈ phase.successors)
    (hnext : next ≠ .fetch) : phase.keeps = false ∧ phase ≠ .output := by
  have hall : ∀ next ∈ phase.successors, next ≠ .fetch → phase.keeps = false ∧ phase ≠ .output := by
    cases phase <;> decide
  exact hall next h hnext

/-- The phases that neither raise nor drop the request for a word. -/
def leavesRead (phase : Phase) : Bool :=
  [operate, store, jump, jumpIfZero, output, halt].contains phase

/-- No word is asked for in front of a phase that leaves the request for one alone. -/
theorem asks_eq_false_of_mem_successors {phase next : Phase} (h : next ∈ phase.successors)
    (hnext : next.leavesRead = true) : phase.asks = false := by
  have hall : ∀ next ∈ phase.successors, next.leavesRead = true → phase.asks = false := by
    cases phase <;> decide
  exact hall next h hnext

end Phase

/-! ## The processor -/

namespace Processor

/-- **What a processor drives is what its phase says.** A request is raised in the
phase that makes it and in no other, and the phase that comes next is one that
can follow. -/
structure InStep (cpu : Processor) : Prop where
  /-- The announced phase can follow. -/
  next : cpu.next ∈ cpu.phase.successors
  /-- Memory is asked for a word in the phases that need one. -/
  read : cpu.read = cpu.phase.asks
  /-- Memory is asked to keep a word in a store. -/
  write : cpu.write = cpu.phase.keeps
  /-- The accumulator is presented to the printer in an output. -/
  output : cpu.output = if cpu.phase = .output then some cpu.accumulator else none

/-- **No register holds more bits than it has.** -/
structure InRange (cpu : Processor) : Prop where
  /-- The program counter has five bits. -/
  programCounter : cpu.programCounter.toNat < capacity
  /-- The address register has five bits. -/
  address : cpu.address.toNat < capacity
  /-- The register of the last load has five bits. -/
  lastLoad : cpu.lastLoad.toNat < capacity
  /-- The instruction register has three bits. -/
  instruction : cpu.instruction.toNat < 8

/-- A processor in step asks for a word in four phases. -/
theorem InStep.read_iff {cpu : Processor} (h : cpu.InStep) :
    cpu.read = true ↔ cpu.phase ∈ [Phase.fetch, Phase.load, Phase.add, Phase.and] := by
  rw [h.read, Phase.asks, List.contains_iff_mem]

/-- A processor in step hands a word over in a store. -/
theorem InStep.write_iff {cpu : Processor} (h : cpu.InStep) :
    cpu.write = true ↔ cpu.phase = .store := by
  rw [h.write, Phase.keeps, beq_iff_eq]

/-- A processor in step presents a word in an output. -/
theorem InStep.output_iff {cpu : Processor} (h : cpu.InStep) :
    cpu.output.isSome = true ↔ cpu.phase = .output := by
  rw [h.output]
  split
  · next hphase => exact iff_of_true rfl hphase
  · next hphase => exact iff_of_false Bool.false_ne_true hphase

/-- **Never two requests at once.** A processor in step does not ask for a word and
hand one over. -/
theorem InStep.not_read_and_write {cpu : Processor} (h : cpu.InStep) :
    ¬ (cpu.read = true ∧ cpu.write = true) := by
  rintro ⟨hread, hwrite⟩
  rw [h.read_iff, h.write_iff.mp hwrite] at hread
  exact absurd hread (by decide)

/-- Before its first tick a processor is in step. -/
theorem inStep_initial : initial.InStep :=
  ⟨by decide, rfl, rfl, rfl⟩

/-- Before its first tick a processor has zeros in all registers. -/
theorem inRange_initial : initial.InRange :=
  ⟨by decide, by decide, by decide, by decide⟩

/-- Every phase announces one that can follow it. -/
theorem execute_next_mem (cpu : Processor) (phase : Phase) :
    (cpu.execute phase).next ∈ phase.successors := by
  have hjump : ∀ target, (cpu.jumpTo target).next ∈ [Phase.fetch, Phase.halt] := by
    intro target
    unfold jumpTo
    dsimp only
    split <;> decide
  cases phase with
  | decode =>
    show Phase.ofOpcode _ ∈ Opcode.all.map Phase.ofOpcode
    exact List.mem_map_of_mem (Opcode.mem_all _)
  | jump => exact hjump _
  | jumpIfZero => exact hjump _
  | _ => exact List.mem_singleton_self _

/-- The request for a word after a phase. One that leaves it alone has to find it
down. -/
theorem execute_read {cpu : Processor} {phase : Phase}
    (h : phase.leavesRead = true → cpu.read = false) : (cpu.execute phase).read = phase.asks := by
  cases phase with
  | operate | store | jump | jumpIfZero | output | halt => exact h rfl
  | _ => rfl

/-- The request to keep a word after a phase. Only a fetch drops it. -/
theorem execute_write {cpu : Processor} {phase : Phase} (h : phase ≠ .fetch → cpu.write = false) :
    (cpu.execute phase).write = phase.keeps := by
  cases phase with
  | reset | fetch | store => rfl
  | _ => exact h (by decide)

/-- What is presented to the printer after a phase. Only a fetch withdraws it. -/
theorem execute_output {cpu : Processor} {phase : Phase} (h : phase ≠ .fetch → cpu.output = none) :
    (cpu.execute phase).output
      = if phase = .output then some (cpu.execute phase).accumulator else none := by
  cases phase with
  | reset | fetch | output => rfl
  | _ => exact h (by decide)

/-- **A processor that is in step stays in step.** -/
theorem InStep.advance {cpu : Processor} (h : cpu.InStep) : cpu.advance.InStep := by
  refine ⟨cpu.execute_next_mem cpu.next, execute_read fun hnext => ?_,
    execute_write fun hnext => ?_, execute_output fun hnext => ?_⟩
  · exact h.read.trans (Phase.asks_eq_false_of_mem_successors h.next hnext)
  · exact h.write.trans (Phase.idle_of_mem_successors h.next hnext).1
  · exact h.output.trans (if_neg (Phase.idle_of_mem_successors h.next hnext).2)

/-- **No phase puts more into a register than it holds.** -/
theorem InRange.execute {cpu : Processor} (h : cpu.InRange) (phase : Phase) :
    (cpu.execute phase).InRange := by
  have hjump : ∀ target, (cpu.jumpTo target).InRange := fun target =>
    ⟨Word.toNat_and_mask_lt target, h.address, h.lastLoad, h.instruction⟩
  cases phase with
  | reset => exact inRange_initial
  | fetch => exact ⟨h.programCounter, h.programCounter, h.lastLoad, h.instruction⟩
  | decode =>
    exact ⟨Word.toNat_and_mask_lt _, Word.toNat_and_mask_lt _, h.lastLoad, Opcode.code_lt _⟩
  | load =>
    -- without an operand the address is in the accumulator, of which five bits count
    refine ⟨h.programCounter, ?_, h.address, h.instruction⟩
    show (if cpu.address = 0 then cpu.accumulator &&& 31 else cpu.address).toNat < capacity
    split
    · exact Word.toNat_and_mask_lt _
    · exact h.address
  | store =>
    refine ⟨h.programCounter, ?_, h.lastLoad, h.instruction⟩
    show (if cpu.address = 0 then cpu.lastLoad else cpu.address).toNat < capacity
    split
    · exact h.lastLoad
    · exact h.address
  | jump => exact hjump _
  | jumpIfZero => exact hjump _
  | _ => exact ⟨h.programCounter, h.address, h.lastLoad, h.instruction⟩

/-- A processor that is asked for a reset starts afresh. -/
theorem tick_of_reset_eq_true {cpu : Processor} (h : cpu.reset = true) : cpu.tick = initial := by
  unfold tick pending
  rw [if_pos h]
  rfl

end Processor

/-! ## The whole machine -/

/-- Before the first tick memory has heard the processor, which drives zeros. -/
theorem Memory.hear_initial (words : Vector Word capacity) :
    Memory.hear { initial with words := words } .initial = { initial with words := words } := by
  have hmask : (0 : UInt8) &&& 31 = 0 := by decide
  exact congrArg (fun address => { initial with words := words, address := address }) hmask

/-- Memory that honoured a request has heard the processor, also after the word
on its data line went back there. -/
theorem Memory.hear_honour (memory : Memory) (cpu : Processor) :
    (memory.honour cpu).hear { cpu with data := (memory.honour cpu).data } = memory.honour cpu := by
  unfold honour
  split
  · rfl
  · split <;> rfl

namespace Machine

/-- **The devices agree.** The processor is in step and its registers are in
range, memory and the printer have heard what it drives, and a reset is asked of
all devices or of none. -/
structure Coherent (machine : Machine) : Prop where
  /-- The processor is in step. -/
  inStep : machine.processor.InStep
  /-- Its registers are in range. -/
  inRange : machine.processor.InRange
  /-- Memory has heard what the processor drives. -/
  memory : machine.memory.hear machine.processor = machine.memory
  /-- The printer has heard what the processor drives. -/
  printer : machine.printer.hear machine.processor = machine.printer
  /-- A reset is asked of memory when it is asked of the processor. -/
  memoryReset : machine.memory.reset = machine.processor.reset
  /-- A reset is asked of the printer when it is asked of the processor. -/
  printerReset : machine.printer.reset = machine.processor.reset

/-- A machine with some words that waits for its first tick is coherent. -/
theorem coherent_of_words (words : Vector Word capacity) (cycles : UInt64) :
    Coherent { initial with memory := { Memory.initial with words := words }, cycles := cycles } :=
  ⟨Processor.inStep_initial, Processor.inRange_initial, Memory.hear_initial words, rfl, rfl, rfl⟩

/-- **The tick of a machine that is asked for a reset** leaves nothing of it but
the count of ticks: what was asked for in the tick before has no effect. -/
theorem tick_of_reset {machine : Machine} (hprocessor : machine.processor.reset = true)
    (hmemory : machine.memory.reset = true) (hprinter : machine.printer.reset = true) :
    machine.tick = { initial with cycles := machine.cycles + 1 } := by
  have hheard : (machine.memory.hear Processor.initial).tick = Memory.initial := if_pos hmemory
  have hpaper : (machine.printer.hear Processor.initial).tick = Printer.initial := if_pos hprinter
  rw [Machine.tick_eq, Processor.tick_of_reset_eq_true hprocessor, hheard, hpaper]
  rfl

/-- **A machine whose devices agree ticks in one of two ways**: it is asked for no
reset, or it starts afresh. -/
theorem Coherent.noReset_or_tick_eq {machine : Machine} (h : machine.Coherent) :
    machine.NoReset ∨ machine.tick = { initial with cycles := machine.cycles + 1 } := by
  cases hreset : machine.processor.reset with
  | true =>
    exact .inr (tick_of_reset hreset (h.memoryReset.trans hreset) (h.printerReset.trans hreset))
  | false => exact .inl ⟨hreset, h.memoryReset.trans hreset, h.printerReset.trans hreset⟩

/-- **A tick leaves the devices in agreement.** -/
theorem Coherent.tick {machine : Machine} (h : machine.Coherent) : machine.tick.Coherent := by
  rcases h.noReset_or_tick_eq with hno | hfresh
  · have hafter := hno.tick
    have hstep := h.inStep.advance
    have hrange := h.inRange.execute machine.processor.next
    rw [hno.tick_eq] at hafter ⊢
    -- the word that comes back on the data line is no part of what is claimed
    exact ⟨⟨hstep.next, hstep.read, hstep.write, hstep.output⟩,
      ⟨hrange.programCounter, hrange.address, hrange.lastLoad, hrange.instruction⟩,
      Memory.hear_honour _ _, rfl, hafter.memory.trans hafter.processor.symm,
      hafter.printer.trans hafter.processor.symm⟩
  · rw [hfresh]
    exact coherent_of_words _ _

/-- Asking for a reset changes the reset lines only. -/
theorem reset_eq (machine : Machine) :
    machine.reset =
      { machine with
        processor := { machine.processor with reset := true }
        memory := { machine.memory with reset := true }
        printer := { machine.printer with reset := true } } := rfl

/-- **Asking for a reset leaves the devices in agreement.** -/
theorem Coherent.reset {machine : Machine} (h : machine.Coherent) : machine.reset.Coherent := by
  rw [reset_eq]
  exact ⟨⟨h.inStep.next, h.inStep.read, h.inStep.write, h.inStep.output⟩,
    ⟨h.inRange.programCounter, h.inRange.address, h.inRange.lastLoad, h.inRange.instruction⟩,
    congrArg (fun memory => { memory with reset := true }) h.memory,
    congrArg (fun printer => { printer with reset := true }) h.printer, rfl, rfl⟩

/-! ## What a machine gets to -/

/-- **A machine gets to another** by ticks and by asking for resets, any number of
them in any order. -/
inductive Reaches (start : Machine) : Machine → Prop
  /-- It is there. -/
  | refl : Reaches start start
  /-- It ticks. -/
  | tick {machine : Machine} (h : Reaches start machine) : Reaches start machine.tick
  /-- It is asked for a reset. -/
  | reset {machine : Machine} (h : Reaches start machine) : Reaches start machine.reset

/-- A machine gets to where it is after some ticks. -/
theorem Reaches.after {start machine : Machine} (h : start.Reaches machine) (n : Nat) :
    start.Reaches (machine.after n) := by
  induction n generalizing machine with
  | zero => exact h
  | succ n ih => exact ih h.tick

/-- **Agreement is never lost.** -/
theorem Reaches.coherent {start machine : Machine} (h : start.Reaches machine)
    (hstart : start.Coherent) : machine.Coherent := by
  induction h with
  | refl => exact hstart
  | tick _ ih => exact ih.tick
  | reset _ ih => exact ih.reset

/-- A loaded machine is a new one but for its words. -/
theorem load_eq_ok_iff {image : List Word} {machine : Machine} :
    load image = .ok machine ↔
      image.length ≤ capacity ∧ { initial with memory := .ofImage image } = machine := by
  unfold load
  split
  · next hfit => exact ⟨fun h => ⟨hfit, Except.ok.inj h⟩, fun h => congrArg _ h.2⟩
  · next hlarge => exact ⟨fun h => absurd h (by simp), fun h => absurd h.1 hlarge⟩

/-- A loaded machine is coherent. -/
theorem coherent_of_load {image : List Word} {machine : Machine} (h : load image = .ok machine) :
    machine.Coherent := by
  obtain ⟨-, rfl⟩ := load_eq_ok_iff.mp h
  exact coherent_of_words _ _

/-- **The lines and the registers of a machine.** However a new or a loaded machine
got where it is by ticks and resets: its registers of five bits are below
thirty-two and that of three bits below eight; memory and the printer hold what
the processor drives; a reset is asked of all devices or of none; and a request
is raised exactly in its phases, so that never two of them meet in memory. -/
theorem Reaches.lines_registers {start machine : Machine}
    (hstart : start = initial ∨ ∃ image, load image = .ok start) (h : start.Reaches machine) :
    (machine.processor.programCounter.toNat < 32 ∧ machine.processor.address.toNat < 32 ∧
      machine.processor.lastLoad.toNat < 32 ∧ machine.processor.instruction.toNat < 8) ∧
    (machine.memory.read = machine.processor.read ∧
      machine.memory.write = machine.processor.write ∧
      machine.memory.address = machine.processor.address ∧
      machine.memory.data = machine.processor.data) ∧
    (machine.printer.output = machine.processor.output.isSome ∧
      machine.printer.register = machine.processor.output.getD 0) ∧
    (machine.memory.reset = machine.processor.reset ∧
      machine.printer.reset = machine.processor.reset) ∧
    ¬ (machine.processor.read = true ∧ machine.processor.write = true) ∧
    (machine.processor.read = true ↔
      machine.processor.phase ∈ [Phase.fetch, Phase.load, Phase.add, Phase.and]) ∧
    (machine.processor.write = true ↔ machine.processor.phase = .store) ∧
    (machine.processor.output.isSome = true ↔ machine.processor.phase = .output) := by
  have hcoherent : machine.Coherent := by
    refine h.coherent ?_
    rcases hstart with rfl | ⟨image, hload⟩
    · exact coherent_of_words _ _
    · exact coherent_of_load hload
  obtain ⟨hstep, hrange, hmemory, hprinter, hmemoryReset, hprinterReset⟩ := hcoherent
  -- memory takes five bits of the address that it hears, and there are no more
  have haddress : machine.memory.address = machine.processor.address :=
    (congrArg Memory.address hmemory).symm.trans (Word.and_mask_of_lt hrange.address)
  exact ⟨⟨hrange.programCounter, hrange.address, hrange.lastLoad, hrange.instruction⟩,
    ⟨(congrArg Memory.read hmemory).symm, (congrArg Memory.write hmemory).symm, haddress,
      (congrArg Memory.data hmemory).symm⟩,
    ⟨(congrArg Printer.output hprinter).symm, (congrArg Printer.register hprinter).symm⟩,
    ⟨hmemoryReset, hprinterReset⟩, hstep.not_read_and_write, hstep.read_iff, hstep.write_iff,
    hstep.output_iff⟩

/-- A store under way when a reset is asked for, and the fetch behind that reset:
each drives one request and not the other. -/
theorem Reaches.lines_registers_resetInStore :
    ∃ start storing fetching, load [67] = .ok start ∧ storing = (start.after 3).reset ∧
      fetching = storing.after 2 ∧ start.Reaches storing ∧ start.Reaches fetching ∧
      storing.processor.reset = true ∧ storing.memory.write = true ∧
      ¬ storing.memory.read = true ∧ fetching.processor.reset = false ∧
      fetching.memory.read = true ∧ ¬ fetching.memory.write = true := by
  let start : Machine := { initial with memory := .ofImage [67] }
  have hload : load [67] = .ok start := rfl
  have hstoring : start.Reaches (start.after 3).reset := (Reaches.refl.after 3).reset
  have hfetching := hstoring.after 2
  obtain ⟨-, ⟨hread, hwrite, -⟩, -, -, -, hasks, hkeeps, -⟩ :=
    hstoring.lines_registers (.inr ⟨_, hload⟩)
  obtain ⟨-, ⟨hread', hwrite', -⟩, -, -, -, hasks', hkeeps', -⟩ :=
    hfetching.lines_registers (.inr ⟨_, hload⟩)
  refine ⟨_, _, _, hload, rfl, rfl, hstoring, hfetching, rfl, ?_, ?_, rfl, ?_, ?_⟩
  · exact hwrite.trans (hkeeps.mpr (by decide +kernel))
  · rw [hread, hasks]
    decide +kernel
  · exact hread'.trans (hasks'.mpr (by decide +kernel))
  · rw [hwrite', hkeeps']
    decide +kernel

end Machine

end AccumulatorMachine
