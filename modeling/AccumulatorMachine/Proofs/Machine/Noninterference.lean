import AccumulatorMachine.Proofs.Machine.Effects
import AccumulatorMachine.Proofs.Machine.Runs

/-!
# What has no part in a run

Two runs are compared whose machines differ at first. Where the difference is one
that no device looks at, it must not spread.

The paper and the count of ticks are such a record: nothing reads them back. A tick
of a machine with another record is the same tick, behind which the same words were
added to the other paper (`Machine.NoReset.tick_withRecord`), and so is a whole run
(`Machine.SameButRecord.record_writeOnly`).

A word of memory is one as long as it is not asked for. Here the difference can even
end, since a store takes the place of either word. The tick of a machine with another
word at a place is the tick without it if the place is stored to, and else the tick
with the other word still there (`Machine.NoReset.tick_withWord`). So the two runs go
in lock step until the word is asked for (`Machine.load_after_withWord`).
-/

namespace AccumulatorMachine

namespace Machine

/-! ## The record -/

/-- The machine with another record: another paper and another count of ticks. -/
def withRecord (machine : Machine) (paper : List UInt8) (count : UInt64) : Machine :=
  { machine with
    printer := { machine.printer with paper := paper }
    cycles := count }

/-- **What the processor presents to the printer in some states**, in order. -/
def presented (states : List Machine) : List UInt8 :=
  states.flatMap fun state => state.processor.output.toList

/-- **Two machines that are the same but for their record.** -/
structure SameButRecord (first second : Machine) : Prop where
  /-- The processors are the same. -/
  processor : first.processor = second.processor
  /-- Memories are the same. -/
  memory : first.memory = second.memory
  /-- A reset is asked of both printers or of none. -/
  reset : first.printer.reset = second.printer.reset
  /-- Both printers are asked to print or none is. -/
  output : first.printer.output = second.printer.output
  /-- The printers were given the same word. -/
  register : first.printer.register = second.printer.register

variable {machine first second : Machine}

/-- Of two machines that are the same but for their record, one is the other with
another record. -/
theorem SameButRecord.eq_withRecord (h : first.SameButRecord second) :
    second = first.withRecord second.printout second.cycles := by
  obtain ⟨_, _, ⟨⟩, _⟩ := first
  obtain ⟨_, _, ⟨⟩, _⟩ := second
  obtain ⟨rfl, rfl, rfl, rfl, rfl⟩ := h
  rfl

/-- A machine with another record is the same but for it. -/
theorem sameButRecord_withRecord (machine : Machine) (paper : List UInt8) (count : UInt64) :
    machine.SameButRecord (machine.withRecord paper count) :=
  ⟨rfl, rfl, rfl, rfl, rfl⟩

/-- **The tick of a machine with another record** is the same tick: it puts the same
words behind the other paper. -/
theorem NoReset.tick_withRecord (h : machine.NoReset) (paper : List UInt8) (count : UInt64) :
    (machine.withRecord paper count).tick
      = machine.tick.withRecord (paper ++ machine.tick.processor.output.toList) (count + 1) := by
  have hother : (machine.withRecord paper count).NoReset := ⟨h.processor, h.memory, h.printer⟩
  rw [hother.tick_eq, h.tick_eq]
  rfl

/-- **A run of a machine with another record** is the same run. -/
theorem NoReset.after_withRecord (h : machine.NoReset) (paper : List UInt8) (count : UInt64)
    (n : Nat) :
    (machine.withRecord paper count).after n
      = (machine.after n).withRecord (paper ++ presented (machine.following n))
          (count + UInt64.ofNat n) := by
  induction n generalizing machine paper count with
  | zero =>
    rw [following, presented, List.flatMap_nil, List.append_nil,
      show UInt64.ofNat 0 = 0 from rfl, UInt64.add_zero]
    rfl
  | succ n ih =>
    rw [Machine.after, h.tick_withRecord, ih h.tick, List.append_assoc, add_one_add_ofNat]
    rfl

/-- What is presented along a run is what it puts on the paper. -/
theorem NoReset.printout_after (h : machine.NoReset) (n : Nat) :
    (machine.after n).printout = machine.printout ++ presented (machine.following n) := by
  have hsame := h.after_withRecord machine.printout machine.cycles n
  exact congrArg printout hsame

/-- Machines that halt at the same ticks run equally long. -/
theorem exists_run_eq_after_of_isHalted_eq
    (h : ∀ i, (first.after i).isHalted = (second.after i).isHalted) (n : Nat) :
    ∃ ticks ≤ n,
      (first.run n = first.after ticks ∧ first.runStates n = first.following ticks) ∧
      (second.run n = second.after ticks ∧ second.runStates n = second.following ticks) := by
  obtain ⟨ticks, hleast, hrun, hstates⟩ := first.exists_run_eq_after n
  obtain ⟨others, hleast', hrun', hstates'⟩ := second.exists_run_eq_after n
  simp only [← h] at hleast'
  obtain rfl := hleast.unique hleast'
  exact ⟨ticks, hleast.2 (Or.inl rfl), ⟨hrun, hstates⟩, hrun', hstates'⟩

/-- **The record is only ever written.** Let two machines be the same but for their
paper and their count of ticks, with no reset asked for. Behind any number of ticks
they are the same but for these again, they have halted at the same ticks on the way,
and each paper is what it was with the same words behind it. So a run of one stops
after as many ticks as a run of the other. -/
theorem SameButRecord.record_writeOnly (h : first.SameButRecord second) (hno : first.NoReset)
    {n : Nat} (hfirst : first.cycles.toNat + n < UInt64.size)
    (hsecond : second.cycles.toNat + n < UInt64.size) :
    (first.after n).SameButRecord (second.after n) ∧
    (∀ i ≤ n, (first.after i).isHalted = (second.after i).isHalted) ∧
    (∃ q, (first.after n).printout = first.printout ++ q ∧
      (second.after n).printout = second.printout ++ q) ∧
    ∃ ticks ≤ n,
      (first.run n = first.after ticks ∧ (first.runStates n).length = ticks ∧
        (first.run n).cycles.toNat = first.cycles.toNat + ticks) ∧
      (second.run n = second.after ticks ∧ (second.runStates n).length = ticks ∧
        (second.run n).cycles.toNat = second.cycles.toNat + ticks) := by
  have hafter : ∀ i, second.after i = (first.after i).withRecord
      (second.printout ++ presented (first.following i)) (second.cycles + UInt64.ofNat i) := by
    intro i
    rw [h.eq_withRecord]
    exact hno.after_withRecord second.printout second.cycles i
  have hhalts : ∀ i, (first.after i).isHalted = (second.after i).isHalted := by
    intro i
    rw [hafter i]
    rfl
  obtain ⟨ticks, hle, ⟨hrun, hstates⟩, hrun', hstates'⟩ :=
    exists_run_eq_after_of_isHalted_eq hhalts n
  refine ⟨?_, fun i _ => hhalts i, ⟨presented (first.following n), hno.printout_after n, ?_⟩,
    ticks, hle, ⟨hrun, ?_, ?_⟩, hrun', ?_, ?_⟩
  · rw [hafter n]
    exact sameButRecord_withRecord _ _ _
  · rw [hafter n]
    rfl
  · rw [hstates, length_following]
  · rw [hrun, toNat_cycles_after (by omega)]
  · rw [hstates', length_following]
  · rw [hrun', toNat_cycles_after (by omega)]

/-- A loop that is left after two rounds, begun on blank paper, and the same with two
words on the paper and a count of ticks that is near its end: both print the same two
words, and both halt with the forty-first tick of a run. -/
theorem SameButRecord.record_writeOnly_twoRounds :
    let image : List Word := [39, 224, 104, 71, 198, 160, 166, 254, 1]
    let first : Machine := { initial with memory := .ofImage image }
    let second := first.withRecord [200, 201] 18446744073709551515
    load image = .ok first ∧ first.SameButRecord second ∧ first.NoReset ∧
      first.cycles.toNat + 100 < UInt64.size ∧ second.cycles.toNat + 100 < UInt64.size ∧
      (first.run 100).cycles.toNat = 41 ∧
      (second.run 100).cycles.toNat = second.cycles.toNat + 41 ∧
      (first.after 100).printout = [254, 255] ∧
      (second.after 100).printout = [200, 201, 254, 255] := by
  intro image first second
  have hsame : first.SameButRecord second := first.sameButRecord_withRecord _ _
  have hno : first.NoReset := ⟨rfl, rfl, rfl⟩
  have hfirst : first.cycles.toNat + 100 < UInt64.size := by decide
  have hsecond : second.cycles.toNat + 100 < UInt64.size := by decide
  obtain ⟨-, -, ⟨q, hpaper, hpaper'⟩, ticks, -, ⟨-, -, hcycles⟩, -, -, hcycles'⟩ :=
    hsame.record_writeOnly hno hfirst hsecond
  have hq : (first.after 100).printout = [254, 255] := by decide +kernel
  have hticks : (first.run 100).cycles.toNat = 41 := by decide +kernel
  obtain rfl : q = [254, 255] := hpaper.symm.trans hq
  obtain rfl : ticks = 41 := (Nat.zero_add ticks).symm.trans (hcycles.symm.trans hticks)
  exact ⟨rfl, hsame, hno, hfirst, hsecond, hticks, hcycles', hq, hpaper'⟩

end Machine

/-! ## A word of memory -/

namespace Processor

/-- Whether memory is asked for the word at a place. -/
def asksFor (cpu : Processor) (place : Fin capacity) : Bool :=
  cpu.read && Memory.index cpu.address == place

/-- Whether a word for this place is handed to memory, and nothing else asked of it. -/
def storesTo (cpu : Processor) (place : Fin capacity) : Bool :=
  !cpu.read && cpu.write && Memory.index cpu.address == place

/-- Asking for the word at a place, said of the read line and the address register. -/
theorem asksFor_iff {cpu : Processor} (h : cpu.InRange) {place : Fin capacity} :
    cpu.asksFor place = true ↔ cpu.read = true ∧ cpu.address.toNat = place.val := by
  have hindex : (Memory.index cpu.address).val = cpu.address.toNat := Nat.mod_eq_of_lt h.address
  rw [asksFor, Bool.and_eq_true, beq_iff_eq, Fin.ext_iff, hindex]

/-- Storing to a place, said of the phase and the address register. -/
theorem storesTo_iff {cpu : Processor} (hstep : cpu.InStep) (h : cpu.InRange)
    {place : Fin capacity} :
    cpu.storesTo place = true ↔ cpu.phase = .store ∧ cpu.address.toNat = place.val := by
  have hindex : (Memory.index cpu.address).val = cpu.address.toNat := Nat.mod_eq_of_lt h.address
  have hread : cpu.phase = .store → cpu.read = false := by
    intro hphase
    rw [hstep.read, hphase]
    rfl
  rw [storesTo, Bool.and_eq_true, Bool.and_eq_true, Bool.not_eq_true', beq_iff_eq, Fin.ext_iff,
    hindex, hstep.write_iff, and_iff_right_of_imp hread]

end Processor

namespace Memory

/-- Memory with another word at a place. -/
def withWord (memory : Memory) (place : Fin capacity) (word : Word) : Memory :=
  { memory with words := memory.words.set place.val word place.isLt }

/-- The word at another place is not changed. -/
theorem get_withWord_of_ne (memory : Memory) {place other : Fin capacity} (word : Word)
    (hne : other ≠ place) : (memory.withWord place word).words.get other = memory.words.get other :=
  Vector.getElem_set_ne place.isLt other.isLt fun heq => hne (Fin.ext heq.symm)

/-- A word that is stored to the place takes the place of either. -/
theorem set_withWord_self (memory : Memory) (place : Fin capacity) (word other : Word) :
    (memory.withWord place word).words.set place.val other place.isLt
      = memory.words.set place.val other place.isLt :=
  Vector.set_set word place.isLt

/-- A word that is stored elsewhere leaves the one at the place. -/
theorem set_withWord_of_ne (memory : Memory) {place target : Fin capacity} (word other : Word)
    (hne : target ≠ place) :
    (memory.withWord place word).words.set target.val other target.isLt
      = (memory.words.set target.val other target.isLt).set place.val word place.isLt :=
  Vector.set_comm word other fun heq => hne (Fin.ext heq.symm)

/-- **A word that is not asked for** does not change what memory answers. It is still
there afterwards, unless another word was stored to its place. -/
theorem honour_withWord (memory : Memory) {cpu : Processor} {place : Fin capacity} (word : Word)
    (hasks : cpu.asksFor place = false) :
    (memory.withWord place word).honour cpu =
      if cpu.storesTo place then memory.honour cpu
      else (memory.honour cpu).withWord place word := by
  cases hread : cpu.read with
  | true =>
    have hne : index cpu.address ≠ place := by
      rwa [Processor.asksFor, hread, Bool.true_and, beq_eq_false_iff_ne] at hasks
    have hstores : cpu.storesTo place = false := by
      rw [Processor.storesTo, hread]
      rfl
    rw [hstores, honour_of_read _ hread, honour_of_read _ hread, memory.get_withWord_of_ne word hne]
    rfl
  | false =>
    have hstores : cpu.storesTo place = (cpu.write && index cpu.address == place) := by
      rw [Processor.storesTo, hread]
      rfl
    rw [hstores]
    cases hwrite : cpu.write with
    | true =>
      rw [honour_of_write _ hread hwrite, honour_of_write _ hread hwrite, Bool.true_and]
      by_cases heq : index cpu.address = place
      · obtain rfl := heq
        rw [set_withWord_self, beq_self_eq_true]
        rfl
      · rw [memory.set_withWord_of_ne word cpu.data heq, beq_eq_false_iff_ne.mpr heq]
        rfl
    | false =>
      rw [honour_of_idle _ hread hwrite, honour_of_idle _ hread hwrite]
      rfl

end Memory

namespace Machine

variable {machine : Machine} {place : Fin capacity}

/-- The machine with another word at a place of memory. -/
def withWord (machine : Machine) (place : Fin capacity) (word : Word) : Machine :=
  { machine with memory := machine.memory.withWord place word }

/-- **Two machines that are the same but for the word at a place.** -/
structure SameButWord (first second : Machine) (place : Fin capacity) : Prop where
  /-- The processors are the same. -/
  processor : first.processor = second.processor
  /-- The printers are the same. -/
  printer : first.printer = second.printer
  /-- The counts of ticks are the same. -/
  cycles : first.cycles = second.cycles
  /-- A reset is asked of both memories or of none. -/
  reset : first.memory.reset = second.memory.reset
  /-- Both memories are asked for a word or none is. -/
  read : first.memory.read = second.memory.read
  /-- Both memories are asked to keep a word or none is. -/
  write : first.memory.write = second.memory.write
  /-- The address registers of memory are the same. -/
  address : first.memory.address = second.memory.address
  /-- The data registers of memory are the same. -/
  data : first.memory.data = second.memory.data
  /-- So are the words at all other places. -/
  words : ∀ other, other ≠ place → first.memory.words.get other = second.memory.words.get other

/-- A machine with another word is the same but for it. -/
theorem sameButWord_withWord (machine : Machine) (place : Fin capacity) (word : Word) :
    machine.SameButWord (machine.withWord place word) place :=
  ⟨rfl, rfl, rfl, rfl, rfl, rfl, rfl, rfl,
    fun _ hne => (machine.memory.get_withWord_of_ne word hne).symm⟩

/-- A machine is the same as itself. -/
theorem SameButWord.refl (machine : Machine) (place : Fin capacity) :
    machine.SameButWord machine place :=
  ⟨rfl, rfl, rfl, rfl, rfl, rfl, rfl, rfl, fun _ _ => rfl⟩

/-- What memory is asked for in a tick does not depend on what it answers. -/
theorem NoReset.asksFor_tick (h : machine.NoReset) :
    machine.tick.processor.asksFor place = machine.processor.advance.asksFor place := by
  rw [h.tick_eq]
  rfl

/-- Neither does what it is asked to keep. -/
theorem NoReset.storesTo_tick (h : machine.NoReset) :
    machine.tick.processor.storesTo place = machine.processor.advance.storesTo place := by
  rw [h.tick_eq]
  rfl

/-- **The tick of a machine with another word** that it does not ask for: the word is
still there afterwards, unless another one was stored to its place. -/
theorem NoReset.tick_withWord (h : machine.NoReset) (word : Word)
    (hasks : machine.tick.processor.asksFor place = false) :
    (machine.withWord place word).tick =
      if machine.tick.processor.storesTo place then machine.tick
      else machine.tick.withWord place word := by
  have hother : (machine.withWord place word).NoReset := ⟨h.processor, h.memory, h.printer⟩
  rw [h.asksFor_tick] at hasks
  rw [h.storesTo_tick, hother.tick_eq, h.tick_eq]
  simp only [withWord, Memory.honour_withWord machine.memory word hasks]
  split <;> rfl

/-- **A run of a machine with another word** that it never asks for: the word stays
until one is stored to its place, and from then on the two runs are one. -/
theorem NoReset.after_withWord (h : machine.NoReset) (word : Word) {n : Nat}
    (hasks : ∀ state ∈ machine.following n, state.processor.asksFor place = false) :
    (machine.withWord place word).after n =
      if (machine.following n).any fun state => state.processor.storesTo place then machine.after n
      else (machine.after n).withWord place word := by
  induction n generalizing machine with
  | zero => rfl
  | succ n ih =>
    rw [following, List.forall_mem_cons] at hasks
    rw [Machine.after, Machine.after, following, List.any_cons, h.tick_withWord word hasks.1]
    cases machine.tick.processor.storesTo place with
    | true => rfl
    | false => exact ih h.tick hasks.2

/-- **A word that is never asked for does not matter.** Put any word at any place of a
loaded machine. As long as no tick ends with the read line raised and this place in the
address register, every tick leaves the same processor, the same printer, the same
registers of memory and the same words at all other places as without the change; and
once a tick has stored to the place, the machines are the same altogether. -/
theorem load_after_withWord {image : List Word} (hload : load image = .ok machine)
    (place : Fin capacity) (word : Word) {n : Nat}
    (hunread : ∀ state ∈ machine.following n,
      ¬ (state.processor.read = true ∧ state.processor.address.toNat = place.val)) :
    ∀ i ≤ n, (machine.after i).SameButWord ((machine.withWord place word).after i) place ∧
      ((∃ state ∈ machine.following i,
          state.processor.phase = .store ∧ state.processor.address.toNat = place.val) →
        (machine.withWord place word).after i = machine.after i) := by
  intro i hi
  have hcoherent := coherent_of_load hload
  have hasks : ∀ state ∈ machine.following i, state.processor.asksFor place = false := by
    intro state hmem
    rw [Bool.eq_false_iff, ne_eq,
      Processor.asksFor_iff (hcoherent.of_mem_following hmem).inRange]
    obtain ⟨j, hone, hle, rfl⟩ := mem_following_iff.mp hmem
    exact hunread _ (mem_following_iff.mpr ⟨j, hone, hle.trans hi, rfl⟩)
  rw [(noReset_of_load hload).after_withWord word hasks]
  constructor
  · split
    · exact .refl _ _
    · exact sameButWord_withWord _ _ _
  · rintro ⟨state, hmem, hstores⟩
    have hstate := hcoherent.of_mem_following hmem
    exact if_pos (List.any_eq_true.mpr
      ⟨state, hmem, (Processor.storesTo_iff hstate.inStep hstate.inRange).mpr hstores⟩)

/-- A program that copies a word and rests: the word at the place that it copies to is
never asked for, and neither is it there any more once the copy is made. -/
theorem load_after_withWord_copy :
    let image : List Word := [36, 69, 162, 0, 77, 99]
    let machine : Machine := { initial with memory := .ofImage image }
    let place : Fin capacity := ⟨5, by decide⟩
    load image = .ok machine ∧
      (∀ state ∈ machine.following 20,
        ¬ (state.processor.read = true ∧ state.processor.address.toNat = place.val)) ∧
      (machine.after 6).SameButWord ((machine.withWord place 200).after 6) place ∧
      ((machine.withWord place 200).after 6).memory.words.get place = 200 ∧
      (∃ state ∈ machine.following 7,
        state.processor.phase = .store ∧ state.processor.address.toNat = place.val) ∧
      (machine.withWord place 200).after 7 = machine.after 7 := by
  intro image machine place
  have hload : load image = .ok machine := rfl
  have hunread : ∀ state ∈ machine.following 20,
      ¬ (state.processor.read = true ∧ state.processor.address.toNat = place.val) := by
    decide +kernel
  have hstores : ∃ state ∈ machine.following 7,
      state.processor.phase = .store ∧ state.processor.address.toNat = place.val := by
    decide +kernel
  have hlockStep := load_after_withWord hload place 200 hunread
  exact ⟨hload, hunread, (hlockStep 6 (by decide)).1, by decide +kernel, hstores,
    (hlockStep 7 (by decide)).2 hstores⟩

end Machine

end AccumulatorMachine
