import AccumulatorMachine.Proofs.Machine.Effects
import AccumulatorMachine.Proofs.Machine.Refinement

/-!
# Where a machine comes to rest

A jump decides three ticks after its fetch whether it stands at its own target,
from registers that were filled on the way. `Machine.Faithful` says that these
registers still speak of the word in memory: behind the fetch the word itself,
behind the decoding its opcode and operand, although the program counter has
moved on by then, and behind the jump that it leads to where it stands. No
program can break this, since memory changes in stores only, and between a fetch
and the end of its jump there is none.

So a machine that has halted stands on a jump to itself
(`Machine.OnSelfJump`), its requests are down, and its next tick changes the
count of ticks only. The other way round, a machine that is about to fetch halts
within the next instruction exactly if it stands on such a jump.
-/

namespace AccumulatorMachine

namespace Phase

/-- Only a fetch leads to decoding. -/
theorem eq_fetch_of_decode_mem {phase : Phase} (h : .decode ∈ phase.successors) :
    phase = .fetch := by
  revert h
  cases phase <;> decide

/-- Only decoding leads to a phase in which an instruction begins to act. -/
theorem eq_decode_of_ofOpcode_mem {phase : Phase} {opcode : Opcode}
    (h : ofOpcode opcode ∈ phase.successors) : phase = .decode := by
  have hall : ∀ opcode ∈ Opcode.all, ofOpcode opcode ∈ phase.successors → phase = .decode := by
    cases phase <;> decide
  exact hall opcode (Opcode.mem_all opcode) h

/-- Only jumps lead to rest, and rest itself. -/
theorem jump_of_halt_mem {phase : Phase} (h : .halt ∈ phase.successors) :
    phase = .jump ∨ phase = .jumpIfZero ∨ phase = .halt := by
  revert h
  cases phase <;> decide

/-- Each opcode has a phase of its own. -/
theorem ofOpcode_injective : Function.Injective ofOpcode := by
  have hall : ∀ first ∈ Opcode.all, ∀ second ∈ Opcode.all,
      ofOpcode first = ofOpcode second → first = second := by decide
  exact fun first second => hall first (Opcode.mem_all first) second (Opcode.mem_all second)

end Phase

/-- Moving an address forward and back again. -/
theorem Memory.index_and_mask_add_one_sub_one (address : UInt8) :
    index (((address + 1) &&& 31) - 1) = index address := by
  refine Fin.ext ?_
  show (((address + 1) &&& 31) - 1).toNat % 32 = address.toNat % 32
  rw [UInt8.toNat_sub, Word.toNat_add_one_and_mask, show (1 : UInt8).toNat = 1 from rfl]
  omega

namespace Processor

/-- A jump leads to rest exactly if its target is the address in front of the
program counter. -/
theorem jumpTo_next_eq_halt_iff {cpu : Processor} {target : UInt8} :
    (cpu.jumpTo target).next = .halt ↔
      Memory.index target = Memory.index (cpu.programCounter - 1) := by
  rw [Fin.ext_iff]
  show (if target &&& 31 = (cpu.programCounter - 1) &&& 31 then Phase.halt else Phase.fetch) = .halt
    ↔ target.toNat % 32 = (cpu.programCounter - 1).toNat % 32
  rw [← Word.toNat_and_mask, ← Word.toNat_and_mask, UInt8.toNat_inj]
  split
  · next heq => exact iff_of_true rfl heq
  · next hne => exact iff_of_false (by decide) hne

/-- The address in front of another one is not that one. -/
theorem index_ne_index_sub_one (address : UInt8) :
    Memory.index address ≠ Memory.index (address - 1) := by
  intro h
  have hval : address.toNat % 32 = (address - 1).toNat % 32 := congrArg Fin.val h
  rw [UInt8.toNat_sub, show (1 : UInt8).toNat = 1 from rfl] at hval
  have hlt := address.toNat_lt
  omega

/-- A processor that rests stays as it is. -/
theorem advance_eq_self {cpu : Processor} (hphase : cpu.phase = .halt) (hnext : cpu.next = .halt) :
    cpu.advance = cpu := by
  obtain ⟨⟩ := cpu
  obtain rfl := hphase
  obtain rfl := hnext
  rfl

end Processor

namespace Machine

/-- The word at an address. -/
def wordAt (machine : Machine) (address : UInt8) : Word :=
  machine.memory.words.get (Memory.index address)

/-- **A machine stands on a jump to itself** if the word at its program counter is
a jump whose operand is the program counter, and the accumulator is zero if the
jump depends on it. -/
def OnSelfJump (machine : Machine) : Prop :=
  ∃ word, machine.memory.words[machine.processor.programCounter.toNat]? = some word ∧
    Word.operand word = machine.processor.programCounter ∧
    (Word.opcode word = .addressed .jump ∨
      Word.opcode word = .addressed .jumpIfZero ∧ machine.processor.accumulator = 0)

/-- The word at the program counter, as an entry of memory. -/
theorem getElem?_words {machine : Machine} (h : machine.processor.InRange) :
    machine.memory.words[machine.processor.programCounter.toNat]?
      = some (machine.wordAt machine.processor.programCounter) := by
  rw [Vector.getElem?_eq_getElem h.programCounter]
  refine congrArg some ?_
  show machine.memory.words.get ⟨_, h.programCounter⟩ = machine.memory.words.get _
  rw [Memory.index_of_toNat_eq (n := ⟨_, h.programCounter⟩) rfl]

/-- Standing on a jump to itself, said of the word at the program counter. -/
theorem onSelfJump_iff {machine : Machine} (h : machine.processor.InRange) :
    machine.OnSelfJump ↔
      Word.operand (machine.wordAt machine.processor.programCounter)
        = machine.processor.programCounter ∧
      (Word.opcode (machine.wordAt machine.processor.programCounter) = .addressed .jump ∨
        Word.opcode (machine.wordAt machine.processor.programCounter) = .addressed .jumpIfZero ∧
          machine.processor.accumulator = 0) := by
  unfold OnSelfJump
  rw [getElem?_words h]
  simp only [Option.some.injEq, exists_eq_left']

/-- **What the processor remembers of an instruction is what memory holds.** -/
structure Faithful (machine : Machine) : Prop where
  /-- Behind a fetch the word at the program counter has arrived. -/
  fetched : machine.processor.phase = .fetch →
    machine.processor.data = machine.wordAt machine.processor.programCounter
  /-- Behind decoding the opcode and the operand are those of the word in front of
  the program counter. -/
  decoded : machine.processor.phase = .decode →
    machine.processor.next
      = .ofOpcode (Word.opcode (machine.wordAt (machine.processor.programCounter - 1))) ∧
    machine.processor.address
      = Word.operand (machine.wordAt (machine.processor.programCounter - 1))
  /-- Rest is announced on a jump to itself only. -/
  resting : machine.processor.next = .halt → machine.OnSelfJump

/-- A machine that is behind a reset remembers no instruction. -/
theorem faithful_of_reset {machine : Machine} (hphase : machine.processor.phase = .reset)
    (hnext : machine.processor.next = .fetch) : machine.Faithful := by
  refine ⟨fun h => ?_, fun h => ?_, fun h => ?_⟩
  · exact absurd (hphase.symm.trans h) (by decide)
  · exact absurd (hphase.symm.trans h) (by decide)
  · exact absurd (hnext.symm.trans h) (by decide)

/-- The phase of a tick is the one that was announced. -/
theorem NoReset.phase_tick {machine : Machine} (h : machine.NoReset) :
    machine.tick.processor.phase = machine.processor.next := by
  rw [h.tick_eq]
  rfl

/-- A tick that is no store leaves the word at an address as it was. -/
theorem Coherent.wordAt_tick {machine : Machine} (h : machine.Coherent) (hno : machine.NoReset)
    (hnext : machine.processor.next ≠ .store) (address : UInt8) :
    machine.tick.wordAt address = machine.wordAt address := by
  unfold wordAt
  rw [h.words_tick hno, hno.phase_tick, if_neg hnext]

/-- A fetch brings the word at the program counter. -/
theorem NoReset.fetched_tick {machine : Machine} (hno : machine.NoReset)
    (hnext : machine.processor.next = .fetch) :
    machine.tick.processor.data = machine.tick.wordAt machine.tick.processor.programCounter := by
  rw [hno.tick_eq, Processor.advance_of_next hnext, Memory.honour_of_read _ rfl]
  rfl

/-- Decoding takes the word apart that the fetch has brought, and moves on from
it. -/
theorem Faithful.decoded_tick {machine : Machine} (h : machine.Faithful)
    (hcoherent : machine.Coherent) (hno : machine.NoReset)
    (hnext : machine.processor.next = .decode) :
    machine.tick.processor.next
      = .ofOpcode (Word.opcode (machine.tick.wordAt (machine.tick.processor.programCounter - 1))) ∧
    machine.tick.processor.address
      = Word.operand (machine.tick.wordAt (machine.tick.processor.programCounter - 1)) := by
  have hphase : machine.processor.phase = .fetch :=
    Phase.eq_fetch_of_decode_mem (hnext ▸ hcoherent.inStep.next)
  have hadvance := Processor.advance_of_next hnext
  -- one step back from the program counter there is the address of the fetch, also
  -- where the step forward went around the end of memory
  have hword : machine.tick.wordAt (machine.tick.processor.programCounter - 1)
      = machine.processor.data := by
    rw [hcoherent.wordAt_tick hno (by rw [hnext]; decide), h.fetched hphase, hno.tick_eq, hadvance]
    exact congrArg machine.memory.words.get (Memory.index_and_mask_add_one_sub_one _)
  rw [hword, hno.tick_eq, hadvance]
  exact ⟨rfl, rfl⟩

/-- A jump of the decoded word to its operand leads to rest only on that word. -/
theorem Faithful.onSelfJump_of_jumpTo {machine : Machine} (h : machine.Faithful)
    (hcoherent : machine.Coherent) (hno : machine.NoReset)
    (hphase : machine.processor.phase = .decode) {next : Phase}
    (hnext : machine.processor.next = next) (hstore : next ≠ .store)
    (hexecute : machine.processor.execute next
      = machine.processor.jumpTo machine.processor.address)
    (hopcode : Word.opcode (machine.wordAt (machine.processor.programCounter - 1))
        = .addressed .jump ∨
      Word.opcode (machine.wordAt (machine.processor.programCounter - 1))
        = .addressed .jumpIfZero ∧ machine.processor.accumulator = 0)
    (hrest : machine.tick.processor.next = .halt) :
    machine.tick.OnSelfJump := by
  have hadvance := Processor.advance_of_next hnext
  rw [hexecute] at hadvance
  rw [hno.next_tick, hadvance] at hrest
  have htarget := Processor.jumpTo_next_eq_halt_iff.mp hrest
  have hpc : machine.tick.processor.programCounter = machine.processor.address := by
    rw [hno.tick_eq, hadvance]
    exact Word.and_mask_of_lt hcoherent.inRange.address
  -- a jump is over in one tick: the accumulator that decided it is still there
  have hacc : machine.tick.processor.accumulator = machine.processor.accumulator := by
    rw [hno.tick_eq, hadvance]
    rfl
  have hword : machine.tick.wordAt machine.tick.processor.programCounter
      = machine.wordAt (machine.processor.programCounter - 1) := by
    rw [hcoherent.wordAt_tick hno (hnext ▸ hstore), hpc]
    exact congrArg machine.memory.words.get htarget
  rw [onSelfJump_iff hcoherent.tick.inRange, hword, hpc, hacc]
  exact ⟨(h.decoded hphase).2.symm, hopcode⟩

/-- An instruction is about to act behind its decoding only. -/
theorem Coherent.phase_eq_decode {machine : Machine} (h : machine.Coherent) {opcode : Opcode}
    (hnext : machine.processor.next = .ofOpcode opcode) : machine.processor.phase = .decode :=
  Phase.eq_decode_of_ofOpcode_mem (hnext ▸ h.inStep.next)

/-- The opcode of the decoded word is that of the announced phase. -/
theorem Faithful.opcode_eq {machine : Machine} (h : machine.Faithful)
    (hphase : machine.processor.phase = .decode) {opcode : Opcode}
    (hnext : machine.processor.next = .ofOpcode opcode) :
    Word.opcode (machine.wordAt (machine.processor.programCounter - 1)) = opcode :=
  Phase.ofOpcode_injective ((h.decoded hphase).1.symm.trans hnext)

/-- **A tick that announces rest stands on a jump to itself.** -/
theorem Faithful.resting_tick {machine : Machine} (h : machine.Faithful)
    (hcoherent : machine.Coherent) (hno : machine.NoReset)
    (hrest : machine.tick.processor.next = .halt) : machine.tick.OnSelfJump := by
  have hmem : Phase.halt ∈ machine.processor.next.successors := by
    rw [← hno.phase_tick, ← hrest]
    exact hcoherent.tick.inStep.next
  obtain hjump | hjump | hhalt := Phase.jump_of_halt_mem hmem
  · have hopcode : machine.processor.next = .ofOpcode (.addressed .jump) := hjump
    have hphase := hcoherent.phase_eq_decode hopcode
    exact h.onSelfJump_of_jumpTo hcoherent hno hphase hjump (by decide) rfl
      (.inl (h.opcode_eq hphase hopcode)) hrest
  · have hopcode : machine.processor.next = .ofOpcode (.addressed .jumpIfZero) := hjump
    have hphase := hcoherent.phase_eq_decode hopcode
    have hexecute : machine.processor.execute .jumpIfZero = machine.processor.jumpTo
        (if machine.processor.accumulator = 0 then machine.processor.address
          else machine.processor.programCounter) := rfl
    by_cases hzero : machine.processor.accumulator = 0
    · rw [if_pos hzero] at hexecute
      exact h.onSelfJump_of_jumpTo hcoherent hno hphase hjump (by decide) hexecute
        (.inr ⟨h.opcode_eq hphase hopcode, hzero⟩) hrest
    · -- a jump that is not taken goes on behind itself
      rw [if_neg hzero] at hexecute
      rw [hno.next_tick, Processor.advance_of_next hjump, hexecute] at hrest
      exact absurd (Processor.jumpTo_next_eq_halt_iff.mp hrest)
        (Processor.index_ne_index_sub_one _)
  · have hself := h.resting hhalt
    unfold OnSelfJump at hself ⊢
    rw [hcoherent.words_tick hno, hno.phase_tick, if_neg (by rw [hhalt]; decide), hno.tick_eq,
      Processor.advance_of_next hhalt]
    exact hself

/-- **A tick keeps the processor faithful.** -/
theorem Faithful.tick {machine : Machine} (h : machine.Faithful) (hcoherent : machine.Coherent) :
    machine.tick.Faithful := by
  rcases hcoherent.noReset_or_tick_eq with hno | hfresh
  · refine ⟨fun hphase => hno.fetched_tick ?_, fun hphase => h.decoded_tick hcoherent hno ?_,
      h.resting_tick hcoherent hno⟩
    · rw [← hno.phase_tick, hphase]
    · rw [← hno.phase_tick, hphase]
  · rw [hfresh]
    exact faithful_of_reset rfl rfl

/-- Asking for a reset keeps the processor faithful. -/
theorem Faithful.reset {machine : Machine} (h : machine.Faithful) : machine.reset.Faithful :=
  ⟨h.fetched, h.decoded, h.resting⟩

/-- **The processor is faithful wherever a machine gets to.** -/
theorem Reaches.faithful {start machine : Machine} (h : start.Reaches machine)
    (hcoherent : start.Coherent) (hstart : start.Faithful) : machine.Faithful := by
  induction h with
  | refl => exact hstart
  | tick hreaches ih => exact ih.tick (hreaches.coherent hcoherent)
  | reset _ ih => exact ih.reset

/-! ## Rest -/

/-- **Nothing is asked for at rest.** -/
theorem Coherent.quiet_of_isHalted {machine : Machine} (h : machine.Coherent)
    (hhalt : machine.isHalted = true) :
    machine.processor.read = false ∧ machine.processor.write = false ∧
      machine.processor.output = none := by
  have hphase : machine.processor.phase = .halt := beq_iff_eq.mp hhalt
  refine ⟨?_, ?_, ?_⟩
  · rw [h.inStep.read, hphase]
    rfl
  · rw [h.inStep.write, hphase]
    rfl
  · rw [h.inStep.output, hphase]
    rfl

/-- Rest announces rest. -/
theorem Coherent.next_of_isHalted {machine : Machine} (h : machine.Coherent)
    (hhalt : machine.isHalted = true) : machine.processor.next = .halt := by
  have hnext := h.inStep.next
  rw [show machine.processor.phase = .halt from beq_iff_eq.mp hhalt] at hnext
  exact List.mem_singleton.mp hnext

/-- **At rest a tick changes the count of ticks only.** -/
theorem Coherent.tick_of_isHalted {machine : Machine} (h : machine.Coherent)
    (hno : machine.NoReset) (hhalt : machine.isHalted = true) :
    machine.tick = { machine with cycles := machine.cycles + 1 } := by
  obtain ⟨hread, hwrite, houtput⟩ := h.quiet_of_isHalted hhalt
  have hadvance : machine.processor.advance = machine.processor :=
    Processor.advance_eq_self (beq_iff_eq.mp hhalt) (h.next_of_isHalted hhalt)
  have hmemory : machine.memory.honour machine.processor = machine.memory :=
    (Memory.honour_of_idle _ hread hwrite).trans h.memory
  have hprinter : machine.printer.honour machine.processor = machine.printer := by
    unfold Printer.honour
    rw [houtput, h.printer, Option.toList_none, List.append_nil]
  have hdata : machine.memory.data = machine.processor.data :=
    (congrArg Memory.data h.memory).symm
  rw [hno.tick_eq, hadvance, hmemory, hprinter, hdata]

/-- **Rest is for good**: the count of ticks is all that moves. -/
theorem Coherent.after_of_isHalted {machine : Machine} (h : machine.Coherent)
    (hno : machine.NoReset) (hhalt : machine.isHalted = true) (n : Nat) :
    machine.after n = { machine with cycles := machine.cycles + UInt64.ofNat n } := by
  induction n generalizing machine with
  | zero => rw [after, show UInt64.ofNat 0 = 0 from rfl, UInt64.add_zero]
  | succ n ih =>
    have htick := h.tick_of_isHalted hno hhalt
    have hafter := ih h.tick hno.tick (by rw [htick]; exact hhalt)
    rw [after, hafter, htick, add_one_add_ofNat]

end Machine

/-! ## Coming to rest -/

namespace Interpreter

/-- A jump does not go on if it stands at its target. -/
theorem jump_eq_none_iff {state : Interpreter} {target : Fin capacity} :
    state.jump target = none ↔ target = state.programCounter := by
  unfold jump
  split
  · next heq => exact iff_of_true rfl heq
  · next hne => exact iff_of_false (Option.some_ne_none _) hne

/-- **An instruction does not go on** if it is a jump to itself that is taken. -/
theorem step_eq_none_iff {state : Interpreter} :
    state.step = none ↔ state.operand = state.programCounter ∧
      (state.opcode = .addressed .jump ∨
        state.opcode = .addressed .jumpIfZero ∧ state.accumulator = 0) := by
  unfold step
  rcases hop : state.opcode with _ | op | _
  · simp
  · cases op with
    | jump => simp [jump_eq_none_iff]
    | jumpIfZero =>
      by_cases hzero : state.accumulator = 0
      · simp [hzero, jump_eq_none_iff]
      · simp [hzero]
    | _ => simp
  · simp

end Interpreter

namespace Machine

/-- The state that a machine shows between two instructions. -/
def shown (machine : Machine) : Interpreter where
  words := machine.memory.words
  accumulator := machine.processor.accumulator
  programCounter := Memory.index machine.processor.programCounter
  lastLoad := Memory.index machine.processor.lastLoad
  paper := machine.printer.paper

/-- A machine shows this state. -/
theorem shows_shown {machine : Machine} (h : machine.processor.InRange) :
    machine.Shows machine.shown :=
  ⟨rfl, rfl, (Nat.mod_eq_of_lt h.programCounter).symm, (Nat.mod_eq_of_lt h.lastLoad).symm, rfl⟩

/-- Standing on a jump to itself is having no next state. -/
theorem onSelfJump_iff_step {machine : Machine} (h : machine.processor.InRange) :
    machine.OnSelfJump ↔ machine.shown.step = none := by
  have hopcode : machine.shown.opcode
      = Word.opcode (machine.wordAt machine.processor.programCounter) := Word.get_opcode _
  have hoperand : machine.shown.operand = machine.shown.programCounter ↔
      Word.operand (machine.wordAt machine.processor.programCounter)
        = machine.processor.programCounter := by
    have hpc : machine.processor.programCounter.toNat % 32
        = machine.processor.programCounter.toNat := Nat.mod_eq_of_lt h.programCounter
    rw [Fin.ext_iff, ← UInt8.toNat_inj, Word.toNat_operand, ← hpc]
    rfl
  rw [onSelfJump_iff h, Interpreter.step_eq_none_iff, hopcode, hoperand]
  rfl

/-- **A machine halts four ticks behind the instructions** that lead to a jump to itself,
and not before. -/
theorem Coherent.isHalted_after_iff {machine : Machine} (h : machine.Coherent)
    (hfetch : machine.AtFetch) {state final : Interpreter} (hs : machine.Shows state)
    {ticks : Nat} (hpasses : state.Passes ticks final) (hstep : final.step = none) (n : Nat) :
    (machine.after n).isHalted = true ↔ ticks + 4 ≤ n := by
  obtain ⟨hreached, hshows⟩ := hfetch.after_passes hs hpasses
  rcases Nat.lt_or_ge n ticks with hlt | hge
  · -- at rest it would stay, and it is not at rest when it gets there
    refine iff_of_false (fun hhalt => ?_) (by omega)
    obtain ⟨m, rfl⟩ := Nat.exists_eq_add_of_le (Nat.le_of_lt hlt)
    have hrest := ((Reaches.refl.after n).coherent h).after_of_isHalted (hfetch.noReset.after n)
      hhalt m
    have hrunning := hreached.running
    rw [machine.after_add, hrest] at hrunning
    exact absurd (hhalt.symm.trans hrunning) (by decide)
  · obtain ⟨m, rfl⟩ := Nat.exists_eq_add_of_le hge
    rw [machine.after_add, hreached.isHalted_after hshows hstep]
    omega

/-- **A machine that is about to fetch** halts with the next instruction exactly if
it stands on a jump to itself. -/
theorem Coherent.isHalted_after_four_iff {machine : Machine} (h : machine.Coherent)
    (hno : machine.NoReset) (hnext : machine.processor.next = .fetch) :
    (machine.after 4).isHalted = true ↔ machine.OnSelfJump := by
  have hrunning : machine.isHalted = false := by
    refine Bool.eq_false_iff.mpr fun hhalt => ?_
    exact absurd (hnext.symm.trans (h.next_of_isHalted hhalt)) (by decide)
  have hfetch : machine.AtFetch := ⟨hno, hnext, hrunning⟩
  have hshows := shows_shown h.inRange
  rw [onSelfJump_iff_step h.inRange]
  cases hstep : machine.shown.step with
  | none => exact iff_of_true ((hfetch.isHalted_after hshows hstep 4).mpr (Nat.le_refl 4)) rfl
  | some next =>
    refine iff_of_false ?_ (Option.some_ne_none next)
    have hafter := (hfetch.after_cost hshows hstep).1
    have hcost : machine.shown.cost = 3 ∨ machine.shown.cost = 4 := by
      unfold Interpreter.cost
      split
      · exact .inr rfl
      · exact .inr rfl
      · exact .inr rfl
      · exact .inl rfl
    rcases hcost with hthree | hfour
    · -- on the fourth tick the next instruction is fetched
      rw [hthree] at hafter
      rw [machine.after_succ 3, hafter.noReset.isHalted_tick, hafter.next]
      decide
    · rw [hfour] at hafter
      rw [hafter.running]
      exact Bool.false_ne_true

/-- **A machine has halted exactly where it stands on a jump to itself, and for
good.** However a loaded machine got to where it has halted, the word at its
program counter is a jump to there, taken if it is conditional; no word is asked
for or handed over and none is presented; and unless a reset is asked for, ticks
move nothing but their count. A machine that is about to fetch has halted four
ticks later exactly if it stands on such a jump. -/
theorem Reaches.halted_onSelfJump {image : List Word} {start machine : Machine}
    (hload : load image = .ok start) (h : start.Reaches machine) :
    (machine.isHalted = true →
      machine.OnSelfJump ∧
      (machine.processor.read = false ∧ machine.processor.write = false ∧
        machine.processor.output = none) ∧
      (machine.memory.read = false ∧ machine.memory.write = false ∧
        machine.printer.output = false) ∧
      (machine.NoReset →
        machine.tick = { machine with cycles := machine.cycles + 1 } ∧
        ∀ n, machine.after n = { machine with cycles := machine.cycles + UInt64.ofNat n })) ∧
    (machine.NoReset → machine.processor.next = .fetch →
      ((machine.after 4).isHalted = true ↔ machine.OnSelfJump)) := by
  have hstart := coherent_of_load hload
  have hcoherent := h.coherent hstart
  have hfaithful : machine.Faithful := by
    obtain ⟨-, rfl⟩ := load_eq_ok_iff.mp hload
    exact h.faithful hstart (faithful_of_reset rfl rfl)
  refine ⟨fun hhalt => ?_, fun hno hnext => hcoherent.isHalted_after_four_iff hno hnext⟩
  obtain ⟨hread, hwrite, houtput⟩ := hcoherent.quiet_of_isHalted hhalt
  refine ⟨hfaithful.resting (hcoherent.next_of_isHalted hhalt), ⟨hread, hwrite, houtput⟩,
    ⟨?_, ?_, ?_⟩, fun hno => ⟨hcoherent.tick_of_isHalted hno hhalt,
      hcoherent.after_of_isHalted hno hhalt⟩⟩
  · rw [← hcoherent.memory]
    exact hread
  · rw [← hcoherent.memory]
    exact hwrite
  · rw [← hcoherent.printer]
    show machine.processor.output.isSome = false
    rw [houtput]
    rfl

/-- A jump to the last address, where a conditional jump stands at its own target:
the program counter has wrapped past it when it is taken. -/
theorem Reaches.halted_onSelfJump_last :
    let image : List Word := 191 :: List.replicate 30 0 ++ [223]
    ∃ start fetching machine, load image = .ok start ∧ fetching = start.after 3 ∧
      machine = fetching.after 4 ∧ start.Reaches fetching ∧ start.Reaches machine ∧
      fetching.NoReset ∧ fetching.processor.next = .fetch ∧ fetching.OnSelfJump ∧
      machine.isHalted = true ∧ machine.NoReset ∧ machine.processor.programCounter = 31 ∧
      machine.OnSelfJump ∧
      ∀ n, machine.after n = { machine with cycles := machine.cycles + UInt64.ofNat n } := by
  intro image
  let start : Machine := { initial with memory := .ofImage image }
  have hload : load image = .ok start := rfl
  have hfetching : start.Reaches (start.after 3) := Reaches.refl.after 3
  have hreaches : start.Reaches ((start.after 3).after 4) := hfetching.after 4
  have hno : (start.after 3).NoReset := (noReset_of_load hload).after 3
  have hnext : (start.after 3).processor.next = .fetch := by decide +kernel
  have hhalt : ((start.after 3).after 4).isHalted = true := by decide +kernel
  have hstands := ((hfetching.halted_onSelfJump hload).2 hno hnext).mp hhalt
  obtain ⟨hself, -, -, hrest⟩ := (hreaches.halted_onSelfJump hload).1 hhalt
  exact ⟨start, _, _, hload, rfl, rfl, hfetching, hreaches, hno, hnext, hstands, hhalt,
    hno.after 4, by decide +kernel, hself, (hrest (hno.after 4)).2⟩

end Machine

end AccumulatorMachine
