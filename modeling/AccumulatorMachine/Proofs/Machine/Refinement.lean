import AccumulatorMachine.Proofs.Machine.Interpreter
import AccumulatorMachine.Proofs.Machine.Tick

/-!
# Ticks are instructions

A machine that is about to fetch carries out the instruction at its program
counter in three or four ticks, and what it then shows is what
`Interpreter.step` says. The first two ticks are the same for all instructions:
they leave a machine that has taken the word apart (`Machine.Decoded`). What
memory and the printer heard during earlier instructions does not matter, since
the fetch sets every request line anew.

`Machine.load_after_ticks` puts the instructions of a run together, from the
loading of an image to the jump on which it comes to rest.
-/

namespace AccumulatorMachine

namespace Machine

/-- **A machine shows a state** if memory, accumulator, program counter, the
register of the last load and the paper are those of the state. -/
structure Shows (machine : Machine) (state : Interpreter) : Prop where
  /-- The words are. -/
  words : machine.memory.words = state.words
  /-- The accumulator is. -/
  accumulator : machine.processor.accumulator = state.accumulator
  /-- The program counter is. -/
  programCounter : machine.processor.programCounter.toNat = state.programCounter.val
  /-- The register of the last load is. -/
  lastLoad : machine.processor.lastLoad.toNat = state.lastLoad.val
  /-- The paper is. -/
  paper : machine.printer.paper = state.paper

/-- A machine between two instructions. -/
structure AtFetch (machine : Machine) : Prop where
  /-- It is asked for no reset. -/
  noReset : machine.NoReset
  /-- It is about to fetch. -/
  next : machine.processor.next = .fetch
  /-- It has not come to rest. -/
  running : machine.isHalted = false

/-- **A machine that has taken an instruction of the state apart.** No request
stands, the program counter is past the instruction, and the processor is about
to act on the operand. -/
structure Decoded (machine : Machine) (state : Interpreter) : Prop where
  /-- It is asked for no reset. -/
  noReset : machine.NoReset
  /-- It shows the state with the program counter moved on. -/
  shows : machine.Shows state.pass
  /-- The next phase is the one in which the instruction begins to act. -/
  next : machine.processor.next = .ofOpcode state.opcode
  /-- The address register holds the operand. -/
  address : machine.processor.address.toNat = state.operand.val
  /-- Memory is asked for no word. -/
  read : machine.processor.read = false
  /-- Memory is asked to keep no word. -/
  write : machine.processor.write = false
  /-- No word is presented to the printer. -/
  output : machine.processor.output = none

/-- **A machine that has got the word it asked for** and is about to use it. -/
structure Answered (machine : Machine) (state : Interpreter) (reply : Phase) (word : Word) :
    Prop where
  /-- It is asked for no reset. -/
  noReset : machine.NoReset
  /-- It shows the state. -/
  shows : machine.Shows state
  /-- The next phase uses the word. -/
  next : machine.processor.next = reply
  /-- The word has arrived. -/
  data : machine.processor.data = word
  /-- Memory is asked to keep no word. -/
  write : machine.processor.write = false
  /-- No word is presented to the printer. -/
  output : machine.processor.output = none

/-- What a machine shows after a tick, read off the processor that has advanced. -/
theorem NoReset.shows_tick {machine : Machine} {state : Interpreter} (h : machine.NoReset)
    (hwords : (machine.memory.honour machine.processor.advance).words = state.words)
    (hacc : machine.processor.advance.accumulator = state.accumulator)
    (hpc : machine.processor.advance.programCounter.toNat = state.programCounter.val)
    (hload : machine.processor.advance.lastLoad.toNat = state.lastLoad.val)
    (hpaper : machine.printer.paper ++ machine.processor.advance.output.toList = state.paper) :
    machine.tick.Shows state := by
  rw [h.tick_eq]
  exact ⟨hwords, hacc, hpc, hload, hpaper⟩

/-- A processor that presents nothing leaves the paper as it was. -/
theorem Shows.paper_of_silent {machine : Machine} {state : Interpreter} (h : machine.Shows state)
    (houtput : machine.processor.advance.output = none) :
    machine.printer.paper ++ machine.processor.advance.output.toList = state.paper := by
  rw [houtput]
  exact (List.append_nil _).trans h.paper

/-- The phase that follows a tick is the one that the processor announces. -/
theorem NoReset.next_tick {machine : Machine} (h : machine.NoReset) :
    machine.tick.processor.next = machine.processor.advance.next := by
  rw [h.tick_eq]

/-- A tick comes to rest exactly if that was announced. -/
theorem NoReset.isHalted_tick {machine : Machine} (h : machine.NoReset) :
    machine.tick.isHalted = (machine.processor.next == .halt) := by
  rw [h.tick_eq]
  rfl

/-! ## Fetching and decoding -/

/-- The fetch brings the word of the next instruction to the processor. -/
theorem AtFetch.tick_eq {machine : Machine} {state : Interpreter} (h : machine.AtFetch)
    (hs : machine.Shows state) :
    machine.tick =
      { processor :=
          { machine.processor with
            phase := .fetch
            address := machine.processor.programCounter
            read := true
            write := false
            output := none
            next := .decode
            data := state.current }
        memory :=
          { machine.memory with
            read := true
            write := false
            address := machine.processor.programCounter &&& 31
            data := state.current }
        printer :=
          { machine.printer with
            output := false
            register := 0 }
        cycles := machine.cycles + 1 } := by
  have hword : machine.memory.words.get (Memory.index machine.processor.programCounter)
      = state.current := by
    rw [hs.words, Memory.index_of_toNat_eq hs.programCounter]
    rfl
  rw [h.noReset.tick_eq]
  unfold Processor.advance
  rw [h.next, Memory.honour_of_read _ rfl, ← hword]
  simp only [Processor.execute, Printer.honour, Memory.hear, Printer.hear,
    Option.toList_none, List.append_nil, Option.isSome_none, Option.getD_none]

/-- **Two ticks take the next instruction apart.** Nothing that memory or the
printer heard before has a part in it. -/
theorem AtFetch.decoded {machine : Machine} {state : Interpreter} (h : machine.AtFetch)
    (hs : machine.Shows state) : (machine.after 2).Decoded state := by
  have htick : machine.after 2 = machine.tick.tick := rfl
  refine ⟨h.noReset.after 2, ?_, ?_, ?_, ?_, ?_, ?_⟩ <;>
    rw [htick, h.noReset.tick.tick_eq, h.tick_eq hs]
  · refine ⟨hs.words, hs.accumulator, ?_, hs.lastLoad, ?_⟩
    · show ((machine.processor.programCounter + 1) &&& 31).toNat = (state.programCounter + 1).val
      rw [Word.toNat_add_one_and_mask, hs.programCounter]
      exact (Fin.val_add state.programCounter 1).symm
    · exact (List.append_nil _).trans hs.paper
  · show Phase.ofOpcode (Word.opcode state.current) = Phase.ofOpcode state.opcode
    exact congrArg Phase.ofOpcode (Word.get_opcode state.current).symm
  · exact Word.toNat_operand state.current
  · rfl
  · rfl
  · rfl

/-! ## Acting

An instruction ends in one of three ways: by changing registers only, by handing
a word to memory, or by asking memory for a word and using it a tick later. -/

/-- **An instruction that only changes registers** is done after one tick. -/
theorem Decoded.act {machine : Machine} {state next : Interpreter} (h : machine.Decoded state)
    {phase announced : Phase} {a x : UInt8} {o : Option UInt8}
    (hadvance : machine.processor.advance =
      { machine.processor with
        phase := phase
        accumulator := a
        programCounter := x
        output := o
        next := announced })
    (hwords : state.words = next.words) (ha : a = next.accumulator)
    (hx : x.toNat = next.programCounter.val) (hload : state.lastLoad = next.lastLoad)
    (hpaper : state.paper ++ o.toList = next.paper) :
    machine.tick.processor.next = announced ∧ machine.tick.Shows next := by
  have hread : machine.processor.advance.read = false := by rw [hadvance]; exact h.read
  have hwrite : machine.processor.advance.write = false := by rw [hadvance]; exact h.write
  refine ⟨?_, h.noReset.shows_tick ?_ ?_ ?_ ?_ ?_⟩
  · rw [h.noReset.next_tick, hadvance]
  · rw [Memory.honour_of_idle _ hread hwrite]
    exact h.shows.words.trans hwords
  · rw [hadvance]
    exact ha
  · rw [hadvance]
    exact hx
  · rw [hadvance, ← hload]
    exact h.shows.lastLoad
  · rw [hadvance, h.shows.paper]
    exact hpaper

/-- **An instruction that hands the accumulator to memory** is done after one
tick. -/
theorem Decoded.keep {machine : Machine} {state : Interpreter} (h : machine.Decoded state)
    {phase : Phase} {x : UInt8} {target : Fin capacity}
    (hadvance : machine.processor.advance =
      { machine.processor with
        phase := phase
        address := x
        data := machine.processor.accumulator
        write := true
        next := .fetch })
    (hx : x.toNat = target.val) :
    machine.tick.processor.next = .fetch ∧ machine.tick.Shows { state.pass with
      words := state.words.set target.val state.accumulator target.isLt } := by
  have hread : machine.processor.advance.read = false := by rw [hadvance]; exact h.read
  have hwrite : machine.processor.advance.write = true := by rw [hadvance]
  refine ⟨?_, h.noReset.shows_tick ?_ ?_ ?_ ?_ ?_⟩
  · rw [h.noReset.next_tick, hadvance]
  · rw [Memory.honour_of_write _ hread hwrite, hadvance]
    show machine.memory.words.set (Memory.index x).val machine.processor.accumulator
      (Memory.index x).isLt = _
    simp only [Memory.index_of_toNat_eq hx, h.shows.words, h.shows.accumulator, Interpreter.pass]
  · rw [hadvance]
    exact h.shows.accumulator
  · rw [hadvance]
    exact h.shows.programCounter
  · rw [hadvance]
    exact h.shows.lastLoad
  · refine h.shows.paper_of_silent ?_
    rw [hadvance]
    exact h.output

/-- **An instruction that asks memory for a word** has it after one tick. -/
theorem Decoded.ask {machine : Machine} {state : Interpreter} (h : machine.Decoded state)
    {phase reply : Phase} {x y : UInt8} {target last : Fin capacity}
    (hadvance : machine.processor.advance =
      { machine.processor with
        phase := phase
        address := x
        lastLoad := y
        read := true
        next := reply })
    (hx : x.toNat = target.val) (hy : y.toNat = last.val) :
    machine.tick.Answered { state.pass with lastLoad := last } reply (state.words.get target) := by
  refine ⟨h.noReset.tick, h.noReset.shows_tick ?_ ?_ ?_ ?_ ?_, ?_, ?_, ?_, ?_⟩
  · rw [hadvance, Memory.honour_of_read _ rfl]
    exact h.shows.words
  · rw [hadvance]
    exact h.shows.accumulator
  · rw [hadvance]
    exact h.shows.programCounter
  · rw [hadvance]
    exact hy
  · refine h.shows.paper_of_silent ?_
    rw [hadvance]
    exact h.output
  · rw [h.noReset.next_tick, hadvance]
  · rw [h.noReset.tick_eq, hadvance, Memory.honour_of_read _ rfl]
    show machine.memory.words.get (Memory.index x) = _
    rw [Memory.index_of_toNat_eq hx, h.shows.words]
    rfl
  · rw [h.noReset.tick_eq, hadvance]
    exact h.write
  · rw [h.noReset.tick_eq, hadvance]
    exact h.output

/-- **An answer is used on the tick after it arrived.** -/
theorem Answered.use {machine : Machine} {state : Interpreter} {reply : Phase} {word : Word}
    (h : machine.Answered state reply word) {f : UInt8 → UInt8 → UInt8}
    (hreply : ∀ cpu : Processor, cpu.execute reply =
      { cpu with accumulator := f cpu.accumulator cpu.data, read := false, next := .fetch }) :
    machine.tick.processor.next = .fetch ∧ machine.tick.Shows { state with
      accumulator := f state.accumulator word } := by
  have hadvance : machine.processor.advance =
      { machine.processor with
        phase := reply
        accumulator := f machine.processor.accumulator machine.processor.data
        read := false
        next := .fetch } := by
    unfold Processor.advance
    rw [h.next, hreply]
  have hread : machine.processor.advance.read = false := by rw [hadvance]
  have hwrite : machine.processor.advance.write = false := by rw [hadvance]; exact h.write
  refine ⟨?_, h.noReset.shows_tick ?_ ?_ ?_ ?_ ?_⟩
  · rw [h.noReset.next_tick, hadvance]
  · rw [Memory.honour_of_idle _ hread hwrite]
    exact h.shows.words
  · rw [hadvance, h.data, h.shows.accumulator]
  · rw [hadvance]
    exact h.shows.programCounter
  · rw [hadvance]
    exact h.shows.lastLoad
  · refine h.shows.paper_of_silent ?_
    rw [hadvance]
    exact h.output

/-- A jump of the processor is one of the interpreter: it comes to rest where it
stands, and goes on anywhere else. -/
theorem Decoded.jumpTo_eq {machine : Machine} {state : Interpreter} (h : machine.Decoded state)
    {x : UInt8} {target : Fin capacity} (hx : x.toNat = target.val) :
    machine.processor.jumpTo x =
      { machine.processor with
        programCounter := x
        next := if target = state.programCounter then .halt else .fetch } := by
  have hlt : x.toNat < 32 := hx ▸ target.isLt
  have hpc : machine.processor.programCounter.toNat = (state.programCounter.val + 1) % 32 :=
    h.shows.programCounter.trans (Fin.val_add state.programCounter 1)
  have hhere : ((machine.processor.programCounter - 1) &&& 31).toNat
      = state.programCounter.val := by
    have hbound : state.programCounter.val < 32 := state.programCounter.isLt
    rw [Word.toNat_and_mask, UInt8.toNat_sub, hpc, show (1 : UInt8).toNat = 1 from rfl]
    omega
  have hiff : x = (machine.processor.programCounter - 1) &&& 31 ↔
      target = state.programCounter := by
    rw [← UInt8.toNat_inj, hhere, hx, Fin.ext_iff]
  unfold Processor.jumpTo
  simp only [Word.and_mask_of_lt hlt, hiff]

/-! ## One instruction -/

/-- The phases in which instructions act are none in which the machine rests. -/
theorem ofOpcode_ne_halt (opcode : Opcode) : Phase.ofOpcode opcode ≠ .halt := by
  rcases opcode with _ | op | _
  · exact Phase.noConfusion
  · cases op <;> exact Phase.noConfusion
  · exact Phase.noConfusion

/-- The processor of a decoded machine advances by executing the instruction. -/
theorem Decoded.advance_eq {machine : Machine} {state : Interpreter} (h : machine.Decoded state)
    {opcode : Opcode} (hop : state.opcode = opcode) :
    machine.processor.advance =
      { machine.processor.execute (.ofOpcode opcode) with phase := .ofOpcode opcode } := by
  unfold Processor.advance
  rw [h.next, hop]

/-- A decoded machine does not come to rest on its next tick. -/
theorem Decoded.isHalted_tick {machine : Machine} {state : Interpreter}
    (h : machine.Decoded state) : machine.tick.isHalted = false := by
  rw [h.noReset.isHalted_tick, h.next]
  exact beq_eq_false_iff_ne.mpr (ofOpcode_ne_halt state.opcode)

/-- An instruction that ends one tick after it was decoded. -/
theorem Decoded.finish {machine : Machine} {state next : Interpreter} (h : machine.Decoded state)
    (hdone : machine.tick.processor.next = .fetch ∧ machine.tick.Shows next) :
    (machine.after 1).AtFetch ∧ (machine.after 1).Shows next :=
  ⟨⟨h.noReset.tick, hdone.1, h.isHalted_tick⟩, hdone.2⟩

/-- An instruction that asks memory for a word and ends two ticks after it was
decoded. -/
theorem Decoded.finish_reply {machine : Machine} {state asked next : Interpreter}
    (h : machine.Decoded state) {reply : Phase} {word : Word}
    (hanswer : machine.tick.Answered asked reply word) (hreply : reply ≠ .halt)
    (hdone : machine.tick.tick.processor.next = .fetch ∧ machine.tick.tick.Shows next) :
    (machine.after 2).AtFetch ∧ (machine.after 2).Shows next := by
  refine ⟨⟨h.noReset.after 2, hdone.1, ?_⟩, hdone.2⟩
  show machine.tick.tick.isHalted = false
  rw [hanswer.noReset.isHalted_tick, hanswer.next]
  exact beq_eq_false_iff_ne.mpr hreply

/-- A jump to another address goes on there. -/
theorem Decoded.goOn {machine : Machine} {state : Interpreter} (h : machine.Decoded state)
    {opcode : Opcode} (hop : state.opcode = opcode) {x : UInt8} {target : Fin capacity}
    (hx : x.toNat = target.val)
    (hexecute : machine.processor.execute (.ofOpcode opcode) = machine.processor.jumpTo x)
    (hne : target ≠ state.programCounter) :
    machine.tick.processor.next = .fetch ∧
      machine.tick.Shows { state with programCounter := target } := by
  have hadvance := h.advance_eq hop
  rw [hexecute, h.jumpTo_eq hx, if_neg hne] at hadvance
  refine h.act hadvance rfl h.shows.accumulator hx rfl ?_
  rw [h.output]
  exact List.append_nil state.paper

/-- **A machine that has come to rest on the jump of a state.** -/
structure Resting (machine : Machine) (state : Interpreter) : Prop where
  /-- It is asked for no reset. -/
  noReset : machine.NoReset
  /-- It shows the state. -/
  shows : machine.Shows state
  /-- It does nothing from now on. -/
  next : machine.processor.next = .halt
  /-- Memory is asked for no word. -/
  read : machine.processor.read = false
  /-- Memory is asked to keep no word. -/
  write : machine.processor.write = false
  /-- No word is presented to the printer. -/
  output : machine.processor.output = none

/-- A jump to its own address comes to rest there. -/
theorem Decoded.rest {machine : Machine} {state : Interpreter} (h : machine.Decoded state)
    {opcode : Opcode} (hop : state.opcode = opcode) {x : UInt8}
    (hx : x.toNat = state.programCounter.val)
    (hexecute : machine.processor.execute (.ofOpcode opcode) = machine.processor.jumpTo x) :
    machine.tick.Resting state := by
  have hadvance := h.advance_eq hop
  rw [hexecute, h.jumpTo_eq hx, if_pos rfl] at hadvance
  have hpaper : state.paper ++ machine.processor.output.toList = state.paper := by
    rw [h.output]
    exact List.append_nil state.paper
  obtain ⟨hnext, hshows⟩ := h.act hadvance rfl h.shows.accumulator hx rfl hpaper
  refine ⟨h.noReset.tick, hshows, hnext, ?_, ?_, ?_⟩ <;> rw [h.noReset.tick_eq, hadvance]
  · exact h.read
  · exact h.write
  · exact h.output

/-- Operators work on the accumulator. -/
theorem Decoded.operate {machine : Machine} {state : Interpreter} (h : machine.Decoded state)
    (hop : state.opcode = .operate) :
    machine.tick.processor.next = .fetch ∧ machine.tick.Shows { state.pass with
      accumulator := Operator.runFlagged Operator.all state.operand.val state.accumulator } := by
  refine h.act (h.advance_eq hop) rfl ?_ h.shows.programCounter rfl ?_
  · show Operator.applyAll (Operator.decode machine.processor.address) machine.processor.accumulator
      = Operator.runFlagged Operator.all state.operand.val state.accumulator
    rw [Operator.applyAll_decode, h.address, h.shows.accumulator]
    rfl
  · show state.paper ++ machine.processor.output.toList = state.paper
    rw [h.output]
    exact List.append_nil state.paper

/-- Output puts the accumulator on the paper. -/
theorem Decoded.print {machine : Machine} {state : Interpreter} (h : machine.Decoded state)
    (hop : state.opcode = .output) :
    machine.tick.processor.next = .fetch ∧ machine.tick.Shows { state.pass with
      paper := state.paper ++ [state.accumulator] } := by
  refine h.act (h.advance_eq hop) rfl h.shows.accumulator h.shows.programCounter rfl ?_
  show state.paper ++ [machine.processor.accumulator] = state.paper ++ [state.accumulator]
  rw [h.shows.accumulator]
  rfl

/-- A load gets a word for the accumulator; at zero, from the address that the
accumulator gives. -/
theorem Decoded.load {machine : Machine} {state : Interpreter} (h : machine.Decoded state)
    (hop : state.opcode = .addressed .load) :
    (machine.after 2).AtFetch ∧ (machine.after 2).Shows { state.pass with
      accumulator := state.words.get
        (if state.operand = 0 then Memory.index state.accumulator else state.operand)
      lastLoad := state.operand } := by
  have hzero : machine.processor.address = 0 ↔ state.operand = 0 := by
    rw [← UInt8.toNat_inj, h.address, Fin.ext_iff]
    rfl
  have htarget : (if machine.processor.address = 0 then machine.processor.accumulator &&& 31
      else machine.processor.address).toNat
      = (if state.operand = 0 then Memory.index state.accumulator else state.operand).val := by
    simp only [hzero]
    split
    · rw [Word.toNat_and_mask, h.shows.accumulator]
      rfl
    · exact h.address
  have hanswer := h.ask (h.advance_eq hop) htarget h.address
  exact h.finish_reply hanswer Phase.noConfusion
    (hanswer.use (f := fun _ word => word) fun cpu => rfl)

/-- A store hands the accumulator over; at zero, to the address of the last
load. -/
theorem Decoded.store {machine : Machine} {state : Interpreter} (h : machine.Decoded state)
    (hop : state.opcode = .addressed .store) :
    machine.tick.processor.next = .fetch ∧ machine.tick.Shows { state.pass with
      words := state.words.set (if state.operand = 0 then state.lastLoad else state.operand).val
        state.accumulator (if state.operand = 0 then state.lastLoad else state.operand).isLt } := by
  have hzero : machine.processor.address = 0 ↔ state.operand = 0 := by
    rw [← UInt8.toNat_inj, h.address, Fin.ext_iff]
    rfl
  have htarget : (if machine.processor.address = 0 then machine.processor.lastLoad
      else machine.processor.address).toNat
      = (if state.operand = 0 then state.lastLoad else state.operand).val := by
    simp only [hzero]
    split
    · exact h.shows.lastLoad
    · exact h.address
  exact h.keep (h.advance_eq hop) htarget

/-- An instruction that combines the accumulator with a word of memory. -/
theorem Decoded.combine {machine : Machine} {state : Interpreter} (h : machine.Decoded state)
    {opcode : Opcode} (hop : state.opcode = opcode) {reply : Phase}
    {f : UInt8 → UInt8 → UInt8}
    (hask : ∀ cpu : Processor,
      cpu.execute (.ofOpcode opcode) = { cpu with read := true, next := reply })
    (hreply : ∀ cpu : Processor, cpu.execute reply =
      { cpu with accumulator := f cpu.accumulator cpu.data, read := false, next := .fetch })
    (hne : reply ≠ .halt) :
    (machine.after 2).AtFetch ∧ (machine.after 2).Shows { state.pass with
      accumulator := f state.accumulator (state.words.get state.operand) } := by
  have hadvance := h.advance_eq hop
  rw [hask] at hadvance
  have hanswer := h.ask hadvance h.address h.shows.lastLoad
  exact h.finish_reply hanswer hne (hanswer.use hreply)

/-- A conditional jump is a jump when the accumulator is zero. -/
theorem Decoded.execute_taken {machine : Machine} {state : Interpreter}
    (h : machine.Decoded state) (hzero : state.accumulator = 0) :
    machine.processor.execute .jumpIfZero = machine.processor.jumpTo machine.processor.address := by
  show machine.processor.jumpTo _ = _
  rw [if_pos (h.shows.accumulator.trans hzero)]

/-- Otherwise it is a jump to the instruction behind it, which is another one. -/
theorem Decoded.execute_notTaken {machine : Machine} {state : Interpreter}
    (h : machine.Decoded state) (hzero : state.accumulator ≠ 0) :
    machine.processor.execute .jumpIfZero
      = machine.processor.jumpTo machine.processor.programCounter := by
  show machine.processor.jumpTo _ = _
  rw [if_neg (fun hacc => hzero (h.shows.accumulator.symm.trans hacc))]

/-- **What is left of an instruction after it was decoded** is what the
interpreter says. -/
theorem Decoded.complete {machine : Machine} {state next : Interpreter}
    (h : machine.Decoded state) (hstep : state.step = some next) :
    (machine.after (state.cost - 2)).AtFetch ∧ (machine.after (state.cost - 2)).Shows next := by
  have hjump : ∀ target : Fin capacity, state.jump target = some next →
      target ≠ state.programCounter ∧ { state with programCounter := target } = next := by
    intro target hjump
    rw [Interpreter.jump] at hjump
    split at hjump
    · exact absurd hjump (by simp)
    · next hne => exact ⟨hne, Option.some.inj hjump⟩
  unfold Interpreter.step at hstep
  unfold Interpreter.cost
  rcases hop : state.opcode with _ | op | _
  · simp only [hop, Option.some.injEq] at hstep
    exact hstep ▸ h.finish (h.operate hop)
  · cases op with
    | load =>
      simp only [hop, Option.some.injEq] at hstep
      exact hstep ▸ h.load hop
    | store =>
      simp only [hop, Option.some.injEq] at hstep
      exact hstep ▸ h.finish (h.store hop)
    | add =>
      simp only [hop, Option.some.injEq] at hstep
      exact hstep ▸ h.combine hop (fun _ => rfl) (fun _ => rfl) Phase.noConfusion
    | and =>
      simp only [hop, Option.some.injEq] at hstep
      exact hstep ▸ h.combine hop (fun _ => rfl) (fun _ => rfl) Phase.noConfusion
    | jump =>
      simp only [hop] at hstep
      obtain ⟨hne, heq⟩ := hjump _ hstep
      exact heq ▸ h.finish (h.goOn hop h.address rfl hne)
    | jumpIfZero =>
      simp only [hop] at hstep
      split at hstep
      · next hzero =>
        obtain ⟨hne, heq⟩ := hjump _ hstep
        exact heq ▸ h.finish (h.goOn hop h.address (h.execute_taken hzero) hne)
      · next hzero =>
        exact Option.some.inj hstep ▸ h.finish (h.goOn hop h.shows.programCounter
          (h.execute_notTaken hzero) (Interpreter.add_one_ne state.programCounter))
  · simp only [hop, Option.some.injEq] at hstep
    exact hstep ▸ h.finish (h.print hop)

/-- **One instruction.** In the ticks that the instruction costs, a machine that
is about to fetch does what the interpreter does in a step. -/
theorem AtFetch.after_cost {machine : Machine} {state next : Interpreter}
    (h : machine.AtFetch) (hs : machine.Shows state) (hstep : state.step = some next) :
    (machine.after state.cost).AtFetch ∧ (machine.after state.cost).Shows next := by
  have hcost : state.cost = 2 + (state.cost - 2) := by
    unfold Interpreter.cost
    split <;> rfl
  rw [hcost, machine.after_add]
  exact (h.decoded hs).complete hstep

/-! ## Coming to rest -/

/-- **A jump to itself** brings the machine to rest in three ticks. -/
theorem AtFetch.resting {machine : Machine} {state : Interpreter} (h : machine.AtFetch)
    (hs : machine.Shows state) (hstep : state.step = none) : (machine.after 3).Resting state := by
  have hd := h.decoded hs
  have hjump : state.jump state.operand = none → state.operand = state.programCounter := by
    intro hjump
    rw [Interpreter.jump] at hjump
    split at hjump
    · next heq => exact heq
    · exact absurd hjump (by simp)
  rw [machine.after_succ 2]
  unfold Interpreter.step at hstep
  rcases hop : state.opcode with _ | op | _
  · simp [hop] at hstep
  · cases op with
    | jump =>
      simp only [hop] at hstep
      exact hd.rest hop (hjump hstep ▸ hd.address) rfl
    | jumpIfZero =>
      simp only [hop] at hstep
      split at hstep
      · next hzero => exact hd.rest hop (hjump hstep ▸ hd.address) (hd.execute_taken hzero)
      · exact absurd hstep (by simp)
    | _ => simp [hop] at hstep
  · simp [hop] at hstep

/-- A machine at rest stays at rest. -/
theorem Resting.tick {machine : Machine} {state : Interpreter} (h : machine.Resting state) :
    machine.tick.Resting state := by
  have hadvance : machine.processor.advance
      = { machine.processor with phase := .halt, next := .halt } := by
    unfold Processor.advance
    rw [h.next]
    rfl
  have hread : machine.processor.advance.read = false := by rw [hadvance]; exact h.read
  have hwrite : machine.processor.advance.write = false := by rw [hadvance]; exact h.write
  refine ⟨h.noReset.tick, h.noReset.shows_tick ?_ ?_ ?_ ?_ ?_, ?_, ?_, ?_, ?_⟩
  · rw [Memory.honour_of_idle _ hread hwrite]
    exact h.shows.words
  · rw [hadvance]
    exact h.shows.accumulator
  · rw [hadvance]
    exact h.shows.programCounter
  · rw [hadvance]
    exact h.shows.lastLoad
  · refine h.shows.paper_of_silent ?_
    rw [hadvance]
    exact h.output
  · rw [h.noReset.next_tick, hadvance]
  · rw [h.noReset.tick_eq, hadvance]
    exact h.read
  · rw [h.noReset.tick_eq, hadvance]
    exact h.write
  · rw [h.noReset.tick_eq, hadvance]
    exact h.output

/-- A machine at rest is halted from its next tick on. -/
theorem Resting.isHalted_tick {machine : Machine} {state : Interpreter}
    (h : machine.Resting state) : machine.tick.isHalted = true := by
  rw [h.noReset.isHalted_tick, h.next]
  rfl

/-- A machine at rest stays at rest through a run. -/
theorem Resting.after {machine : Machine} {state : Interpreter} (h : machine.Resting state)
    (n : Nat) : (machine.after n).Resting state := by
  induction n generalizing machine with
  | zero => exact h
  | succ n ih => exact ih h.tick

/-- **On a jump to itself the machine halts on the fourth tick**, not earlier,
and for good. -/
theorem AtFetch.isHalted_after {machine : Machine} {state : Interpreter} (h : machine.AtFetch)
    (hs : machine.Shows state) (hstep : state.step = none) (n : Nat) :
    (machine.after n).isHalted = true ↔ 4 ≤ n := by
  match n with
  | 0 => simp [Machine.after, h.running]
  | 1 =>
    show machine.tick.isHalted = true ↔ 4 ≤ 1
    rw [h.noReset.isHalted_tick, h.next]
    decide
  | 2 =>
    show machine.tick.tick.isHalted = true ↔ 4 ≤ 2
    rw [h.noReset.tick.isHalted_tick, h.tick_eq hs]
    show (Phase.decode == Phase.halt) = true ↔ 4 ≤ 2
    decide
  | 3 =>
    rw [machine.after_succ 2, (h.decoded hs).isHalted_tick]
    decide
  | n + 4 =>
    have hrest : (machine.after (3 + n)).Resting state := by
      rw [machine.after_add]
      exact (h.resting hs hstep).after n
    rw [show n + 4 = 3 + n + 1 from by omega, machine.after_succ, hrest.isHalted_tick]
    exact iff_of_true rfl (by omega)

/-! ## Runs -/

/-- **A run of instructions** takes the ticks of its instructions together. -/
theorem AtFetch.after_ticks {machine : Machine} {k : Nat} {state final : Interpreter}
    (h : machine.AtFetch) (hs : machine.Shows state) (hrun : state.run k = some final) :
    (machine.after (state.ticks k)).AtFetch ∧ (machine.after (state.ticks k)).Shows final := by
  induction k generalizing machine state with
  | zero =>
    rw [Interpreter.run, Option.some.injEq] at hrun
    exact ⟨h, hrun ▸ hs⟩
  | succ k ih =>
    rw [Interpreter.run, Option.bind_eq_some_iff] at hrun
    obtain ⟨next, hstep, hrest⟩ := hrun
    obtain ⟨hfetch, hshows⟩ := h.after_cost hs hstep
    rw [Interpreter.ticks, hstep, machine.after_add]
    exact ih hfetch hshows hrest

/-- A machine that shows a state passes with it. -/
theorem AtFetch.after_passes {machine : Machine} {ticks : Nat} {state final : Interpreter}
    (h : machine.AtFetch) (hs : machine.Shows state) (hpasses : state.Passes ticks final) :
    (machine.after ticks).AtFetch ∧ (machine.after ticks).Shows final := by
  obtain ⟨k, hrun, rfl⟩ := hpasses
  exact h.after_ticks hs hrun

/-- **Behind instructions that lead to a jump to itself** the machine rests, from the
end of that jump on. -/
theorem AtFetch.resting_after_passes {machine : Machine} {ticks : Nat} {state final : Interpreter}
    (h : machine.AtFetch) (hs : machine.Shows state) (hpasses : state.Passes ticks final)
    (hstep : final.step = none) {n : Nat} (hn : ticks + 3 ≤ n) :
    (machine.after n).Resting final := by
  obtain ⟨hreached, hshows⟩ := h.after_passes hs hpasses
  obtain ⟨m, rfl⟩ := Nat.exists_eq_add_of_le hn
  rw [machine.after_add, machine.after_add]
  exact (hreached.resting hshows hstep).after m

/-! ## From an image on -/

/-- A loaded machine is about to fetch and shows the first state of its image. -/
theorem load_atFetch {image : List Word} (hfit : image.length ≤ capacity) :
    ∃ machine, load image = .ok machine ∧ machine.AtFetch ∧
      machine.Shows (Interpreter.ofImage image) :=
  ⟨{ initial with memory := .ofImage image }, if_pos hfit, ⟨⟨rfl, rfl, rfl⟩, rfl, rfl⟩,
    ⟨rfl, rfl, rfl, rfl, rfl⟩⟩

/-- **The machine carries out the instructions of its image.** Let the
interpreter go `k` instructions from an image without standing on a jump to
itself. After the ticks that these instructions cost the machine is about to
fetch, and shows exactly the state of the interpreter. If the next instruction
is a jump to itself, the machine halts on the fourth tick from there and not
before, and shows that same state for good. -/
theorem load_after_ticks {image : List Word} (hfit : image.length ≤ capacity) {k : Nat}
    {state : Interpreter} (hrun : (Interpreter.ofImage image).run k = some state) :
    ∃ machine reached, load image = .ok machine ∧
      reached = machine.after ((Interpreter.ofImage image).ticks k) ∧
      reached.processor.next = .fetch ∧ reached.Shows state ∧
      (state.step = none → ∀ n,
        ((reached.after n).isHalted = true ↔ 4 ≤ n) ∧
        (3 ≤ n → (reached.after n).Shows state)) := by
  obtain ⟨machine, hload, hfetch, hshows⟩ := load_atFetch hfit
  obtain ⟨hreached, hstate⟩ := hfetch.after_ticks hshows hrun
  refine ⟨machine, _, hload, rfl, hreached.next, hstate, fun hstep n => ⟨?_, fun hn => ?_⟩⟩
  · exact hreached.isHalted_after hstate hstep n
  · obtain ⟨m, rfl⟩ := Nat.exists_eq_add_of_le hn
    rw [after_add _ 3 m]
    exact ((hreached.resting hstate hstep).after m).shows

/-- A program that writes the jump to itself on which it then comes to rest: the
load and the sum of two data words make the word of a jump to address three, and
the store puts it there. -/
theorem load_after_ticks_selfModifying :
    let image : List Word := [36, 101, 67, 0, 100, 63]
    let state : Interpreter :=
      { Interpreter.ofImage [36, 101, 67, 163, 100, 63] with
        accumulator := 163
        programCounter := 3
        lastLoad := 4 }
    image.length ≤ capacity ∧ (Interpreter.ofImage image).run 3 = some state ∧
    state.step = none ∧
    ∃ machine reached, load image = .ok machine ∧ reached = machine.after 11 ∧
      reached.processor.next = .fetch ∧ reached.Shows state ∧
      ∀ n, ((reached.after n).isHalted = true ↔ 4 ≤ n) ∧
        (3 ≤ n → (reached.after n).Shows state) := by
  intro image state
  have hfit : image.length ≤ capacity := by decide
  have hrun : (Interpreter.ofImage image).run 3 = some state := by decide +kernel
  have hstep : state.step = none := by decide +kernel
  have hticks : (Interpreter.ofImage image).ticks 3 = 11 := by decide +kernel
  obtain ⟨machine, reached, hload, heq, hnext, hshows, hrest⟩ :=
    load_after_ticks hfit hrun
  exact ⟨hfit, hrun, hstep, machine, reached, hload, hticks ▸ heq, hnext, hshows,
    hrest hstep⟩

end Machine

end AccumulatorMachine
