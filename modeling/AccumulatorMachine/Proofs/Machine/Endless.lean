import AccumulatorMachine.Proofs.Machine.Halting
import AccumulatorMachine.Proofs.Machine.Reset

/-!
# Programs that run for ever

What a run does is decided by the words of memory, and as long as none of them is a
store they stay what they are: an instruction acts only after it was decoded, and then
it is one of the words (`Machine.OnCourse.next_ne`). So what the words are not
never happens. Without a store among them memory does not change, without an output
nothing is printed, and without a jump to itself the machine does not halt, because it
halts on such a word only. None of this looks at the way that the program counter takes
through memory, around its end or across a jump that is not taken.

That gives a condition on an image under which its machine runs for ever
(`Machine.load_neverHalts`). The zeros that a reset leaves behind satisfy it.
-/

namespace AccumulatorMachine

/-- **Words that are never left nor changed**: there is no store among them, and no jump
among them stands at its own target. -/
structure Endless (words : Vector Word capacity) : Prop where
  /-- There is no store. -/
  noStore : ∀ place, Word.opcode (words.get place) ≠ .addressed .store
  /-- No jump stands at its own target. -/
  noSelfJump : ∀ place, Word.opcode (words.get place) = .addressed .jump ∨
    Word.opcode (words.get place) = .addressed .jumpIfZero →
      (Word.operand (words.get place)).toNat ≠ place.val

namespace Machine

/-- **A machine on its course**: its devices agree, what the processor remembers is what
memory holds, and no reset is asked for. -/
structure OnCourse (machine : Machine) : Prop where
  /-- The devices agree. -/
  coherent : machine.Coherent
  /-- The processor remembers what memory holds. -/
  faithful : machine.Faithful
  /-- No reset is asked for. -/
  noReset : machine.NoReset

variable {machine : Machine}

/-- A machine with some words that waits for its first tick is on its course. -/
theorem onCourse_of_words (words : Vector Word capacity) (cycles : UInt64) :
    OnCourse { initial with memory := { Memory.initial with words := words }, cycles := cycles } :=
  ⟨coherent_of_words words cycles, faithful_of_reset rfl rfl, ⟨rfl, rfl, rfl⟩⟩

/-- A tick leaves the machine on its course. -/
theorem OnCourse.tick (h : machine.OnCourse) : machine.tick.OnCourse :=
  ⟨h.coherent.tick, h.faithful.tick h.coherent, h.noReset.tick⟩

/-- **An instruction that no word of memory is** is never about to act. -/
theorem OnCourse.next_ne (h : machine.OnCourse) {opcode : Opcode}
    (hnone : ∀ place, Word.opcode (machine.memory.words.get place) ≠ opcode) :
    machine.processor.next ≠ .ofOpcode opcode :=
  fun hnext => hnone _ (h.faithful.opcode_eq (h.coherent.phase_eq_decode hnext) hnext)

/-- A tick does not store if no word is a store. -/
theorem OnCourse.words_tick (h : machine.OnCourse)
    (hstore : ∀ place, Word.opcode (machine.memory.words.get place) ≠ .addressed .store) :
    machine.tick.memory.words = machine.memory.words := by
  have hnext : machine.processor.next ≠ .store := h.next_ne hstore
  rw [h.coherent.words_tick h.noReset, h.noReset.phase_tick, if_neg hnext]

/-- A tick does not print if no word is an output. -/
theorem OnCourse.printout_tick (h : machine.OnCourse)
    (houtput : ∀ place, Word.opcode (machine.memory.words.get place) ≠ .output) :
    machine.tick.printout = machine.printout := by
  have hnext : machine.processor.next ≠ .output := h.next_ne houtput
  rw [h.coherent.printout_tick h.noReset, h.noReset.phase_tick, if_neg hnext, List.append_nil]

/-- **Words among which there is no store stay what they are.** -/
theorem OnCourse.words_after (h : machine.OnCourse)
    (hstore : ∀ place, Word.opcode (machine.memory.words.get place) ≠ .addressed .store) (n : Nat) :
    (machine.after n).OnCourse ∧ (machine.after n).memory.words = machine.memory.words := by
  induction n generalizing machine with
  | zero => exact ⟨h, rfl⟩
  | succ n ih =>
    have hwords := h.words_tick hstore
    have hafter := ih h.tick (by rw [hwords]; exact hstore)
    rw [hwords] at hafter
    exact hafter

/-- **Words among which there is no output either print nothing.** -/
theorem OnCourse.printout_after (h : machine.OnCourse)
    (hstore : ∀ place, Word.opcode (machine.memory.words.get place) ≠ .addressed .store)
    (houtput : ∀ place, Word.opcode (machine.memory.words.get place) ≠ .output) (n : Nat) :
    (machine.after n).printout = machine.printout := by
  induction n with
  | zero => rfl
  | succ n ih =>
    obtain ⟨hcourse, hwords⟩ := h.words_after hstore n
    rw [after_succ, hcourse.printout_tick (by rw [hwords]; exact houtput), ih]

/-- A machine does not halt where no jump stands at its own target. -/
theorem OnCourse.isHalted_eq_false (h : machine.OnCourse) (hwords : Endless machine.memory.words) :
    machine.isHalted = false := by
  refine Bool.eq_false_iff.mpr fun hhalt => ?_
  have hself := h.faithful.resting (h.coherent.next_of_isHalted hhalt)
  obtain ⟨hoperand, hopcode⟩ := (onSelfJump_iff h.coherent.inRange).mp hself
  refine hwords.noSelfJump _ (hopcode.imp_right And.left) ?_
  show (Word.operand (machine.wordAt machine.processor.programCounter)).toNat
    = machine.processor.programCounter.toNat % capacity
  rw [hoperand, Nat.mod_eq_of_lt h.coherent.inRange.programCounter]

/-- **On endless words a machine runs for ever**, and a run takes all its ticks. -/
theorem OnCourse.runs (h : machine.OnCourse) (hwords : Endless machine.memory.words) (n : Nat) :
    (machine.after n).isHalted = false ∧ machine.run n = machine.after n ∧
      (machine.runStates n).length = n := by
  have hrunning : ∀ i, (machine.after i).isHalted = false := by
    intro i
    obtain ⟨hcourse, hsame⟩ := h.words_after hwords.noStore i
    exact hcourse.isHalted_eq_false (by rw [hsame]; exact hwords)
  obtain ⟨hrun, hstates⟩ := run_eq_after_of_forall hrunning n
  exact ⟨hrunning n, hrun, by rw [hstates, length_following]⟩

/-- The words that are loaded are endless if an image with zeros behind it is. -/
theorem endless_ofImage {image : List Word}
    (hstore : ∀ place < capacity, Word.opcode (image.getD place 0) ≠ .addressed .store)
    (hjump : ∀ place < capacity, Word.opcode (image.getD place 0) = .addressed .jump ∨
      Word.opcode (image.getD place 0) = .addressed .jumpIfZero →
        (Word.operand (image.getD place 0)).toNat ≠ place) :
    Endless (Memory.ofImage image).words := by
  have hget : ∀ place : Fin capacity,
      (Memory.ofImage image).words.get place = image.getD place.val 0 :=
    fun place => Vector.getElem_ofFn place.isLt
  refine ⟨fun place => ?_, fun place => ?_⟩
  · rw [hget]
    exact hstore place.val place.isLt
  · rw [hget]
    exact hjump place.val place.isLt

/-- A zero is an instruction without operators. -/
theorem opcode_get_initial (place : Fin capacity) :
    Word.opcode (Memory.initial.words.get place) = .operate := by
  rw [show Memory.initial.words.get place = 0 from Vector.getElem_replicate place.isLt]
  decide

/-- Zeros are endless. -/
theorem endless_initial : Endless Memory.initial.words := by
  refine ⟨fun place => ?_, fun place hjump => ?_⟩
  · rw [opcode_get_initial]
    decide
  · rw [opcode_get_initial] at hjump
    exact absurd hjump (by decide)

/-- **A program without a store and without a jump to itself never halts.** Look at the
thirty-two words that are loaded, with zeros behind the image. If none of them is a store
and none that is a jump, conditional or not, has its own address for an operand, then
behind any number of ticks the machine has not halted and holds the words that were
loaded, and a run takes all the ticks that it may. So does any machine behind a reset,
and prints nothing. -/
theorem load_neverHalts {image : List Word} (hfit : image.length ≤ capacity)
    (hstore : ∀ place < capacity, Word.opcode (image.getD place 0) ≠ .addressed .store)
    (hjump : ∀ place < capacity, Word.opcode (image.getD place 0) = .addressed .jump ∨
      Word.opcode (image.getD place 0) = .addressed .jumpIfZero →
        (Word.operand (image.getD place 0)).toNat ≠ place) :
    (∃ machine, load image = .ok machine ∧ ∀ n,
      (machine.after n).isHalted = false ∧
      (machine.after n).memory.words = machine.memory.words ∧
      machine.run n = machine.after n ∧ (machine.runStates n).length = n) ∧
    ∀ (other : Machine) (n : Nat),
      let fresh := other.reset.tick
      (fresh.after n).isHalted = false ∧ (fresh.after n).printout = [] ∧
      fresh.run n = fresh.after n ∧ (fresh.runStates n).length = n := by
  constructor
  · have hcourse : OnCourse { initial with memory := .ofImage image } := onCourse_of_words _ _
    have hwords := endless_ofImage hstore hjump
    refine ⟨_, load_eq_ok_iff.mpr ⟨hfit, rfl⟩, fun n => ?_⟩
    obtain ⟨hrunning, hrun, hticks⟩ := hcourse.runs hwords n
    exact ⟨hrunning, (hcourse.words_after hwords.noStore n).2, hrun, hticks⟩
  · intro other n fresh
    have hfresh : fresh = { initial with cycles := other.cycles + 1 } := other.tick_reset
    have hcourse : OnCourse { initial with cycles := other.cycles + 1 } := onCourse_of_words _ _
    have hsilent : ∀ place, Word.opcode (Memory.initial.words.get place) ≠ .output := by
      intro place
      rw [opcode_get_initial]
      decide
    obtain ⟨hrunning, hrun, hticks⟩ := hcourse.runs endless_initial n
    rw [hfresh]
    exact ⟨hrunning, hcourse.printout_after endless_initial.noStore hsilent n, hrun, hticks⟩

/-- A program that counts and prints for ever. It begins with a jump to the word behind
it. A conditional jump back to there is taken each time that the count comes round to
zero; else the machine goes on through zeros and around the end of memory. -/
theorem load_neverHalts_counting :
    let image : List Word := [161, 4, 224, 192]
    image.length ≤ capacity ∧
      (∀ place < capacity, Word.opcode (image.getD place 0) ≠ .addressed .store) ∧
      (∀ place < capacity, Word.opcode (image.getD place 0) = .addressed .jump ∨
        Word.opcode (image.getD place 0) = .addressed .jumpIfZero →
          (Word.operand (image.getD place 0)).toNat ≠ place) ∧
      ∃ machine, load image = .ok machine ∧ (machine.after 1000000).isHalted = false ∧
        (machine.after 1000000).memory.words = machine.memory.words ∧
        (machine.runStates 1000000).length = 1000000 ∧
        ((machine.after 9).reset.tick.run 1000000).printout = [] := by
  intro image
  have hfit : image.length ≤ capacity := by decide
  have hstore : ∀ place < capacity, Word.opcode (image.getD place 0) ≠ .addressed .store := by
    decide
  have hjump : ∀ place < capacity, Word.opcode (image.getD place 0) = .addressed .jump ∨
      Word.opcode (image.getD place 0) = .addressed .jumpIfZero →
        (Word.operand (image.getD place 0)).toNat ≠ place := by
    decide
  obtain ⟨⟨machine, hload, hruns⟩, hfresh⟩ := load_neverHalts hfit hstore hjump
  obtain ⟨hrunning, hwords, -, hticks⟩ := hruns 1000000
  obtain ⟨-, hprintout, hrun, -⟩ := hfresh (machine.after 9) 1000000
  exact ⟨hfit, hstore, hjump, machine, hload, hrunning, hwords, hticks,
    (congrArg printout hrun).trans hprintout⟩

end Machine

end AccumulatorMachine
