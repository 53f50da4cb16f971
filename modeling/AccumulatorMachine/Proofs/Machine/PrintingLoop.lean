import AccumulatorMachine.Proofs.Machine.Halting
import AccumulatorMachine.Proofs.Machine.Runs
import AccumulatorMachine.Proofs.Program.Capacity
import AccumulatorMachine.Proofs.Program.StringPrinter
import AccumulatorMachine.Settings
import Mathlib.Data.List.GetD

/-!
# The program that prints a string, running

The loop of the program reads the character that the pointer leads to, by a load of
the pointer and then a load at address zero, which goes through the accumulator.
Unless the character is zero, it is printed and the pointer moved on, and the next
round begins.

What carries the proof is the state in front of a round (`StringPrinter.stateAt`):
memory is the image with another pointer, the paper holds as many characters as the
pointer has advanced by, and nothing is known of the accumulator. A round passes
from one such state to the next in twenty-seven ticks (`StringPrinter.round`), the
rounds together print the message (`StringPrinter.rounds`), and the zero behind it
leads to the jump to itself (`StringPrinter.finish`).
-/

namespace AccumulatorMachine

namespace StringPrinter

/-! ## Memory on the way -/

/-- The place of the pointer. -/
def pointer : Fin capacity := 9

/-- The address of a character of the message. -/
def addressOf (character : Nat) : UInt8 :=
  UInt8.ofNat (10 + character)

/-- **Memory once the pointer has advanced.** -/
def wordsAfter (message : List UInt8) (advanced : Nat) : Vector Word capacity :=
  (Interpreter.ofImage (image message)).words.set pointer.val (addressOf advanced) pointer.isLt

/-- Only the pointer differs from the image. -/
theorem get_wordsAfter_of_ne (message : List UInt8) (advanced : Nat) {place : Fin capacity}
    (hne : place ≠ pointer) :
    (wordsAfter message advanced).get place = (image message).getD place.val 0 := by
  have hval : pointer.val ≠ place.val := fun heq => hne (Fin.ext heq.symm)
  rw [← Interpreter.get_words_ofImage]
  exact Vector.getElem_set_ne pointer.isLt place.isLt hval

/-- The pointer leads on from the beginning of the message. -/
theorem get_pointer (message : List UInt8) (advanced : Nat) :
    (wordsAfter message advanced).get pointer = addressOf advanced :=
  Vector.getElem_set_self pointer.isLt

/-- The code stays as it is. -/
theorem get_code (message : List UInt8) (advanced : Nat) {place : Fin capacity}
    (hplace : place.val < codeWords.length) :
    (wordsAfter message advanced).get place = codeWords[place.val] := by
  have hne : place ≠ pointer := by
    rintro rfl
    exact absurd hplace (by decide)
  rw [get_wordsAfter_of_ne message advanced hne, image, List.getD_append _ _ _ _ hplace,
    List.getD_eq_getElem _ _ hplace]

/-- **What the pointer leads to** is the message, and zeros behind it. -/
theorem get_character (message : List UInt8) (advanced : Nat) {place : Nat} (hplace : place ≤ 21) :
    (wordsAfter message advanced).get (Memory.index (addressOf place))
      = message.getD place 0 := by
  have hval : (Memory.index (addressOf place)).val = codeWords.length + (place + 1) := by
    show (UInt8.ofNat (10 + place)).toNat % 32 = 9 + (place + 1)
    rw [UInt8.toNat_ofNat']
    omega
  have hne : Memory.index (addressOf place) ≠ pointer := by
    intro heq
    have hlength : codeWords.length = codeWords.length + (place + 1) :=
      (congrArg Fin.val heq).symm.trans hval
    omega
  rw [get_wordsAfter_of_ne message advanced hne, image, hval,
    List.getD_append_right _ _ _ _ (Nat.le_add_right _ _), Nat.add_sub_cancel_left,
    List.getD_cons_succ]
  rcases Nat.lt_or_ge place message.length with hlt | hge
  · exact List.getD_append _ _ _ _ hlt
  · rw [List.getD_append_right _ _ _ _ hge, List.getD_eq_default _ _ hge]
    cases place - message.length <;> rfl

/-- Memory in front of the first round is the image. -/
theorem wordsAfter_zero (message : List UInt8) :
    wordsAfter message 0 = (Interpreter.ofImage (image message)).words := by
  have hword : (Interpreter.ofImage (image message)).words.get pointer = addressOf 0 :=
    Interpreter.get_words_ofImage (image message) pointer
  unfold wordsAfter
  rw [← hword]
  exact Vector.set_getElem_self pointer.isLt

/-- Another pointer takes the place of the pointer. -/
theorem set_wordsAfter (message : List UInt8) (advanced other : Nat) :
    (wordsAfter message advanced).set pointer.val (addressOf other) pointer.isLt
      = wordsAfter message other := by
  unfold wordsAfter
  rw [Vector.set_set]

/-! ## The instructions -/

/-- The instructions of the code, each with the number that it names. -/
def instructions : List (Opcode × Fin capacity) :=
  [(.addressed .load, pointer), (.addressed .load, 0), (.addressed .jumpIfZero, 8), (.output, 0),
    (.addressed .load, pointer), (.operate, 4), (.addressed .store, pointer), (.addressed .jump, 0),
    (.addressed .jump, 8)]

/-- The code holds these instructions. -/
theorem instructions_eq : instructions = codeWords.map fun word =>
    (Opcode.all.get ⟨word.toNat / 32, Word.top_lt word⟩, Memory.index word) := by
  decide

/-- **A state of the program**: the pointer has advanced, and the instruction at a place
is next. -/
def stateAt (message : List UInt8) (advanced : Nat) (place : Fin capacity) (a : UInt8)
    (last : Fin capacity) (paper : List UInt8) : Interpreter where
  words := wordsAfter message advanced
  accumulator := a
  programCounter := place
  lastLoad := last
  paper := paper

section

variable {message : List UInt8} {advanced : Nat} {place : Fin capacity} {a : UInt8}
  {last : Fin capacity} {paper : List UInt8}

/-- **The next instruction is the one at the place.** -/
theorem aboutTo {op : Opcode} {n : Fin capacity} (h : instructions[place.val]? = some (op, n)) :
    (stateAt message advanced place a last paper).AboutTo op n := by
  rw [instructions_eq, List.getElem?_map, Option.map_eq_some_iff] at h
  obtain ⟨word, hword, hfields⟩ := h
  obtain ⟨hop, hn⟩ := Prod.mk.inj hfields
  obtain ⟨hlt, heq⟩ := List.getElem?_eq_some_iff.mp hword
  have hcurrent : (stateAt message advanced place a last paper).current = word :=
    (get_code message advanced hlt).trans heq
  refine ⟨?_, ?_⟩
  · unfold Interpreter.opcode
    simp only [hcurrent]
    exact hop
  · unfold Interpreter.operand
    rw [hcurrent]
    exact hn

/-! ## A round -/

/-- **The next character**: two loads bring what the pointer leads to. -/
theorem look (hadvanced : advanced ≤ 21) :
    (stateAt message advanced 0 a last paper).Passes 8
      (stateAt message advanced 2 (message.getD advanced 0) 0 paper) := by
  have hpointer : (stateAt message advanced 0 a last paper).Passes 4
      (stateAt message advanced 1 (addressOf advanced) pointer paper) := by
    rw [← get_pointer message advanced]
    exact (aboutTo rfl).load (by decide)
  have hcharacter : (stateAt message advanced 1 (addressOf advanced) pointer paper).Passes 4
      (stateAt message advanced 2 (message.getD advanced 0) 0 paper) := by
    rw [← get_character message advanced hadvanced]
    exact (aboutTo rfl).load_through
  exact hpointer.trans hcharacter

/-- The pointer is moved on by one. -/
theorem advance :
    (stateAt message advanced 4 a last paper).Passes 10
      (stateAt message (advanced + 1) 7 (addressOf (advanced + 1)) pointer paper) := by
  have hload : (stateAt message advanced 4 a last paper).Passes 4
      (stateAt message advanced 5 (addressOf advanced) pointer paper) := by
    rw [← get_pointer message advanced]
    exact (aboutTo rfl).load (by decide)
  have hincrement : (stateAt message advanced 5 (addressOf advanced) pointer paper).Passes 3
      (stateAt message advanced 6 (addressOf (advanced + 1)) pointer paper) := by
    have haddress : addressOf (advanced + 1) = addressOf advanced + 1 :=
      UInt8.ofNat_add (10 + advanced) 1
    have hnext :
        (stateAt message advanced 5 (addressOf advanced) pointer paper).AboutTo .operate 4 :=
      aboutTo rfl
    rw [haddress]
    exact hnext.operate
  have hstore :
      (stateAt message advanced 6 (addressOf (advanced + 1)) pointer paper).Passes 3
        (stateAt message (advanced + 1) 7 (addressOf (advanced + 1)) pointer paper) := by
    unfold stateAt
    rw [← set_wordsAfter message advanced (advanced + 1)]
    exact (aboutTo rfl).store (by decide)
  exact (hload.trans hincrement).trans hstore

/-- **A round of the loop** prints the next character, if it is not zero. -/
theorem round (hadvanced : advanced ≤ 21) (hne : message.getD advanced 0 ≠ 0) :
    (stateAt message advanced 0 a last paper).Passes 27
      (stateAt message (advanced + 1) 0 (addressOf (advanced + 1)) pointer
        (paper ++ [message.getD advanced 0])) := by
  have hgoOn : (stateAt message advanced 2 (message.getD advanced 0) 0 paper).Passes 3
      (stateAt message advanced 3 (message.getD advanced 0) 0 paper) :=
    (aboutTo rfl).pass_of_ne_zero hne
  have hprint : (stateAt message advanced 3 (message.getD advanced 0) 0 paper).Passes 3
      (stateAt message advanced 4 (message.getD advanced 0) 0
        (paper ++ [message.getD advanced 0])) :=
    (aboutTo rfl).output
  have hback : (stateAt message (advanced + 1) 7 (addressOf (advanced + 1)) pointer
      (paper ++ [message.getD advanced 0])).Passes 3
        (stateAt message (advanced + 1) 0 (addressOf (advanced + 1)) pointer
          (paper ++ [message.getD advanced 0])) :=
    (aboutTo rfl).jump (show (0 : Fin capacity) ≠ 7 by decide)
  exact ((((look hadvanced).trans hgoOn).trans hprint).trans advance).trans hback

/-- **The last round** finds the zero behind the message and leaves the loop. -/
theorem finish (hfit : message.length ≤ 21) :
    (stateAt message message.length 0 a last paper).Passes 11
      (stateAt message message.length 8 0 0 paper) := by
  have hzero : message.getD message.length 0 = 0 := List.getD_eq_default _ _ (Nat.le_refl _)
  have hlook : (stateAt message message.length 0 a last paper).Passes 8
      (stateAt message message.length 2 (message.getD message.length 0) 0 paper) :=
    look hfit
  rw [hzero] at hlook
  exact hlook.trans ((aboutTo rfl).jump_of_zero rfl (show (8 : Fin capacity) ≠ 2 by decide))

/-- The program ends in a jump to itself. -/
theorem step_end : (stateAt message advanced 8 a last paper).step = none :=
  Interpreter.step_eq_none_iff.mpr ⟨(aboutTo rfl).operand, Or.inl (aboutTo rfl).opcode⟩

end

/-! ## The whole run -/

/-- **Round after round prints the message**, as far as it has no zero. -/
theorem rounds {message : List UInt8} (hfit : message.length ≤ 21) (hzero : 0 ∉ message)
    {count : Nat} (hcount : count ≤ message.length) :
    ∃ a last, (Interpreter.ofImage (image message)).Passes (27 * count)
      (stateAt message count 0 a last (message.take count)) := by
  induction count with
  | zero =>
    have hstart : stateAt message 0 0 0 0 (message.take 0)
        = Interpreter.ofImage (image message) := by
      unfold stateAt
      rw [wordsAfter_zero]
      rfl
    refine ⟨0, 0, ?_⟩
    rw [hstart]
    exact .refl _
  | succ count ih =>
    obtain ⟨a, last, hbefore⟩ := ih (Nat.le_of_succ_le hcount)
    -- the pointer is still in front of the zero that ends the message
    have hne : message.getD count 0 ≠ 0 := by
      rw [List.getD_eq_getElem _ _ hcount]
      exact fun heq => hzero (heq ▸ List.getElem_mem hcount)
    have hpaper : message.take (count + 1) = message.take count ++ [message.getD count 0] := by
      rw [List.take_add_one, List.getElem?_eq_getElem hcount, List.getD_eq_getElem _ _ hcount,
        Option.toList_some]
    rw [hpaper]
    exact ⟨_, _, hbefore.trans (round (by omega) hne)⟩

/-- **From the image to the jump that ends the program.** -/
theorem passes_end {message : List UInt8} (hfit : message.length ≤ 21) (hzero : 0 ∉ message) :
    (Interpreter.ofImage (image message)).Passes (27 * message.length + 11)
      (stateAt message message.length 8 0 0 message) := by
  obtain ⟨a, last, hrounds⟩ := rounds hfit hzero (Nat.le_refl message.length)
  rw [List.take_length] at hrounds
  exact hrounds.trans (finish hfit)

/-- **The program prints every string** that memory has room for and that has no zero.
Its source text assembles, and its image is loaded. The machine halts with the tick
that is twenty-seven times the length and fifteen, which is within what a run may take
when nothing else is asked for. A run that may take as many ticks ends there, with the
message printed and memory as it was, but for the word behind the label of the pointer,
which has advanced by the length. -/
theorem prints {message : List UInt8} (hfit : message.length ≤ 21) (hzero : 0 ∉ message) :
    let ticks := 27 * message.length + 15
    ∃ assembly machine, Assembly.ofSource (source message) = .ok assembly ∧
      Machine.load assembly.words = .ok machine ∧ ("ptr", 9) ∈ assembly.symbols ∧
      ticks ≤ 582 ∧ 582 ≤ Variables.defaultMaxCycles.toNat ∧
      (∀ n, (machine.after n).isHalted = true ↔ ticks ≤ n) ∧
      ∀ budget, ticks ≤ budget →
        let ended := machine.run budget
        ended = machine.after ticks ∧ ended.isHalted = true ∧ ended.cycles.toNat = ticks ∧
          ended.printout = message ∧
          ended.memory.words = machine.memory.words.set pointer.val
            (machine.memory.words.get pointer + UInt8.ofNat message.length) pointer.isLt := by
  intro ticks
  obtain ⟨assembly, hassembly, hwords, hsymbols⟩ := exists_ofSource hfit
  have himage : (image message).length ≤ capacity := by
    rw [← hwords]
    exact Assembly.length_words_le hassembly
  obtain ⟨machine, hload, hfetch, hshows⟩ := Machine.load_atFetch himage
  have hhalts : ∀ n, (machine.after n).isHalted = true ↔ ticks ≤ n :=
    (Machine.coherent_of_load hload).isHalted_after_iff hfetch hshows (passes_end hfit hzero)
      step_end
  have hfirst : machine.cycles.toNat = 0 := by
    obtain ⟨-, rfl⟩ := Machine.load_eq_ok_iff.mp hload
    rfl
  have hticks : ticks ≤ 582 := by omega
  have hsize : 582 < UInt64.size := by decide
  have hcycles : (machine.after ticks).cycles.toNat = ticks := by
    rw [Machine.toNat_cycles_after (by omega), hfirst, Nat.zero_add]
  have hended : (machine.after ticks).Shows (stateAt message message.length 8 0 0 message) :=
    (hfetch.resting_after_passes hshows (passes_end hfit hzero) step_end (Nat.le_succ _)).shows
  have hmemory : (machine.after ticks).memory.words = machine.memory.words.set pointer.val
      (machine.memory.words.get pointer + UInt8.ofNat message.length) pointer.isLt := by
    have hpointer : machine.memory.words.get pointer + UInt8.ofNat message.length
        = addressOf message.length := by
      rw [hshows.words, Interpreter.get_words_ofImage]
      exact (UInt8.ofNat_add 10 message.length).symm
    rw [hended.words, hpointer, hshows.words]
    rfl
  rw [← hwords] at hload
  refine ⟨assembly, machine, hassembly, hload, ?_, hticks, by decide, hhalts, ?_⟩
  · rw [hsymbols]
    decide
  · intro budget hbudget ended
    rw [show ended = machine.after ticks from Machine.run_eq_after hhalts hbudget]
    exact ⟨rfl, (hhalts ticks).mpr (Nat.le_refl ticks), hcycles, hended.paper, hmemory⟩

/-- A string that fills memory up to the last word, with both marks, both ends of a
line, a semicolon and the largest byte in it. -/
theorem prints_fullMemory :
    let message : List UInt8 := [34, 92, 10, 13, 59, 39, 9, 32, 128, 255, 110, 92, 110, 34, 34, 1,
      127, 91, 93, 58, 200]
    message.length = 21 ∧ 0 ∉ message ∧
      ∃ assembly machine, Assembly.ofSource (source message) = .ok assembly ∧
        Machine.load assembly.words = .ok machine ∧
        (machine.after 581).isHalted = false ∧ (machine.run 1024).isHalted = true ∧
        (machine.run 1024).cycles.toNat = 582 ∧ (machine.run 1024).printout = message := by
  intro message
  have hzero : 0 ∉ message := by decide
  obtain ⟨assembly, machine, hassembly, hload, -, -, -, hhalts, hruns⟩ :=
    prints (show message.length ≤ 21 by decide) hzero
  obtain ⟨-, hhalted, hcycles, hprintout, -⟩ := hruns 1024 (by decide)
  exact ⟨rfl, hzero, assembly, machine, hassembly, hload,
    Bool.eq_false_iff.mpr fun h => absurd ((hhalts 581).mp h) (by decide), hhalted, hcycles,
    hprintout⟩

end StringPrinter

end AccumulatorMachine
