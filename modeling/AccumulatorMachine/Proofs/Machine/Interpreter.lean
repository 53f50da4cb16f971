import AccumulatorMachine.Machine.Memory
import AccumulatorMachine.Proofs.Instruction.Fields
import Mathlib.Algebra.GroupWithZero.Nat

/-!
# The machine, one instruction at a time

What the machine computes can be said without phases, wires or request lines: an
`Interpreter` holds the words, the accumulator, two addresses and the paper, and
`Interpreter.step` is one whole instruction. Its addresses are numbers below
thirty-two by type, its fields are read off a word by division and remainder,
and its operators run along the bits of the operand.

A step has no result when the instruction is a jump to itself. `Interpreter.run`
is a number of steps none of which is such a jump, and `Interpreter.ticks` the
number of ticks that these instructions take. `Interpreter.Passes` keeps the ticks
and leaves the number of steps open, so that instructions are put together by
`Interpreter.Passes.trans`, each by the lemma of its opcode.
-/

namespace AccumulatorMachine

instance : NeZero capacity := ⟨by decide⟩

namespace Operator

/-- Runs the operators whose bit is set, where the bits of `flags` from the
lowest on stand for the listed operators in order. -/
def runFlagged : List Operator → Nat → UInt8 → UInt8
  | [], _, a => a
  | op :: ops, flags, a => runFlagged ops (flags / 2) (if flags % 2 = 1 then op.apply a else a)

/-- The flags of the operators are the bits of a word, lowest first. -/
theorem and_flag_ne_zero (flags : UInt8) :
    all.map (fun op => flags &&& op.flag != 0)
      = [1, 2, 4, 8, 16].map fun weight => flags.toNat / weight % 2 == 1 :=
  Word.forall_of_values
    (P := fun flags => all.map (fun op => flags &&& op.flag != 0)
      = [1, 2, 4, 8, 16].map fun weight => flags.toNat / weight % 2 == 1)
    (by decide +kernel) flags

/-- **Decoding and running is running along the bits**, lowest first. -/
theorem applyAll_decode (flags a : UInt8) :
    applyAll (decode flags) a = runFlagged all flags.toNat a := by
  have hflags := and_flag_ne_zero flags
  simp only [all, List.map_cons, List.map_nil, List.cons.injEq, and_true] at hflags
  obtain ⟨h₀, h₁, h₂, h₃, h₄⟩ := hflags
  unfold applyAll decode
  rw [List.foldl_filter]
  simp only [all, List.foldl_cons, List.foldl_nil, runFlagged, h₀, h₁, h₂, h₃, h₄,
    Nat.div_div_eq_div_mul, beq_iff_eq, Nat.div_one, Nat.reduceMul]

end Operator

/-- **The state between two instructions.** -/
structure Interpreter where
  /-- The words of memory. -/
  words : Vector Word capacity
  /-- The word that instructions work on. -/
  accumulator : UInt8
  /-- The address of the next instruction. -/
  programCounter : Fin capacity
  /-- The address that the last load was written with. -/
  lastLoad : Fin capacity
  /-- Everything printed so far. -/
  paper : List UInt8
  deriving DecidableEq

namespace Interpreter

/-- The state before the first instruction of an image: the words behind it and
all else are zero. -/
def ofImage (image : List Word) : Interpreter where
  words := Vector.ofFn fun index => image.getD index.val 0
  accumulator := 0
  programCounter := 0
  lastLoad := 0
  paper := []

/-- The words in front of the first instruction are those of the image. -/
theorem get_words_ofImage (image : List Word) (place : Fin capacity) :
    (ofImage image).words.get place = image.getD place.val 0 :=
  Vector.getElem_ofFn place.isLt

/-- The word of the next instruction. -/
def current (state : Interpreter) : Word :=
  state.words.get state.programCounter

/-- What the next instruction does: the top three bits of its word. -/
def opcode (state : Interpreter) : Opcode :=
  Opcode.all.get ⟨state.current.toNat / 32, Word.top_lt state.current⟩

/-- The number that the next instruction names: the low five bits of its word. -/
def operand (state : Interpreter) : Fin capacity :=
  Memory.index state.current

/-- The state that goes on behind the instruction. -/
def pass (state : Interpreter) : Interpreter :=
  { state with programCounter := state.programCounter + 1 }

/-- The instruction behind another one is not that one. -/
theorem add_one_ne (address : Fin capacity) : address + 1 ≠ address := by
  intro h
  have hval : (address.val + 1) % 32 = address.val :=
    (Fin.val_add address 1).symm.trans (congrArg Fin.val h)
  have hlt : address.val < 32 := address.isLt
  omega

/-- The state that goes on at an address, unless the jump stands there itself. -/
def jump (state : Interpreter) (target : Fin capacity) : Option Interpreter :=
  if target = state.programCounter then none
  else some { state with programCounter := target }

/-- **One instruction**, or nothing if it is a jump to itself. -/
def step (state : Interpreter) : Option Interpreter :=
  let n := state.operand
  match state.opcode with
  | .operate =>
    some { state.pass with
      accumulator := Operator.runFlagged Operator.all n.val state.accumulator }
  | .addressed .load =>
    some { state.pass with
      accumulator := state.words.get (if n = 0 then Memory.index state.accumulator else n)
      lastLoad := n }
  | .addressed .store =>
    let target := if n = 0 then state.lastLoad else n
    some { state.pass with words := state.words.set target.val state.accumulator target.isLt }
  | .addressed .add =>
    some { state.pass with accumulator := state.accumulator + state.words.get n }
  | .addressed .and =>
    some { state.pass with accumulator := state.accumulator &&& state.words.get n }
  | .addressed .jump => state.jump n
  | .addressed .jumpIfZero => if state.accumulator = 0 then state.jump n else some state.pass
  | .output => some { state.pass with paper := state.paper ++ [state.accumulator] }

/-- The ticks that an instruction takes: an answer from memory takes one more. -/
def cost (state : Interpreter) : Nat :=
  match state.opcode with
  | .addressed .load | .addressed .add | .addressed .and => 4
  | _ => 3

/-- The state after `k` instructions, if none of them is a jump to itself. -/
def run (state : Interpreter) : Nat → Option Interpreter
  | 0 => some state
  | k + 1 => state.step.bind fun next => next.run k

/-- The ticks that the next `k` instructions take together. -/
def ticks (state : Interpreter) : Nat → Nat
  | 0 => 0
  | k + 1 => state.cost + (state.step.map fun next => next.ticks k).getD 0

/-- **A state passes to another one** in a number of ticks, which are those of whole
instructions. -/
def Passes (state : Interpreter) (ticks : Nat) (final : Interpreter) : Prop :=
  ∃ k, state.run k = some final ∧ state.ticks k = ticks

/-- A state passes to itself in no ticks. -/
theorem Passes.refl (state : Interpreter) : state.Passes 0 state :=
  ⟨0, rfl, rfl⟩

/-- One instruction takes its ticks. -/
theorem Passes.of_step {state next : Interpreter} (h : state.step = some next) :
    state.Passes state.cost next :=
  ⟨1, by rw [run, h]; rfl, by rw [ticks, h]; rfl⟩

/-- **Instructions behind others** take their ticks on top. -/
theorem Passes.trans {state middle final : Interpreter} {before behind : Nat}
    (hbefore : state.Passes before middle) (hbehind : middle.Passes behind final) :
    state.Passes (before + behind) final := by
  obtain ⟨k, hrun, hticks⟩ := hbefore
  induction k generalizing state before with
  | zero =>
    obtain rfl := Option.some.inj hrun
    obtain rfl : 0 = before := hticks
    rw [Nat.zero_add]
    exact hbehind
  | succ k ih =>
    rw [run, Option.bind_eq_some_iff] at hrun
    obtain ⟨next, hstep, hrest⟩ := hrun
    rw [ticks, hstep] at hticks
    obtain ⟨m, hfinal, hall⟩ := ih hrest rfl
    refine ⟨m + 1, ?_, ?_⟩
    · rw [run, hstep]
      exact hfinal
    · rw [ticks, hstep, ← hticks]
      show state.cost + next.ticks m = state.cost + next.ticks k + behind
      rw [hall, Nat.add_assoc]

/-! ## Instruction by instruction -/

/-- The ticks that an instruction with this opcode takes. -/
def ticksOf : Opcode → Nat
  | .addressed .load | .addressed .add | .addressed .and => 4
  | _ => 3

/-- An instruction takes the ticks of its opcode. -/
theorem cost_eq (state : Interpreter) : state.cost = ticksOf state.opcode := rfl

/-- **The next instruction of a state**: its opcode, and the number that it names. -/
structure AboutTo (state : Interpreter) (op : Opcode) (n : Fin capacity) : Prop where
  /-- The opcode is this one. -/
  opcode : state.opcode = op
  /-- The number is this one. -/
  operand : state.operand = n

section

variable {state : Interpreter} {n : Fin capacity}

/-- A step of the instruction, and its ticks. -/
theorem AboutTo.passes {op : Opcode} (h : state.AboutTo op n) {next : Interpreter}
    (hstep : state.step = some next) : state.Passes (ticksOf op) next := by
  have hcost : state.cost = ticksOf op := by
    rw [cost_eq, h.opcode]
  rw [← hcost]
  exact .of_step hstep

/-- Operators change the accumulator. -/
theorem AboutTo.operate (h : state.AboutTo .operate n) :
    state.Passes 3 { state.pass with
      accumulator := Operator.runFlagged Operator.all n.val state.accumulator } :=
  h.passes (by simp only [step, h.opcode, h.operand])

/-- A load at another number than zero takes the word there. -/
theorem AboutTo.load (h : state.AboutTo (.addressed .load) n) (hne : n ≠ 0) :
    state.Passes 4 { state.pass with
      accumulator := state.words.get n
      lastLoad := n } :=
  h.passes (by simp only [step, h.opcode, h.operand, if_neg hne])

/-- A load at zero takes the word that the accumulator gives the address of. -/
theorem AboutTo.load_through (h : state.AboutTo (.addressed .load) 0) :
    state.Passes 4 { state.pass with
      accumulator := state.words.get (Memory.index state.accumulator)
      lastLoad := 0 } :=
  h.passes (by simp only [step, h.opcode, h.operand, if_true])

/-- A store at another number than zero changes the word there. -/
theorem AboutTo.store (h : state.AboutTo (.addressed .store) n) (hne : n ≠ 0) :
    state.Passes 3 { state.pass with words := state.words.set n.val state.accumulator n.isLt } :=
  h.passes (by simp only [step, h.opcode, h.operand, if_neg hne])

/-- A jump to another address goes on there. -/
theorem AboutTo.jump (h : state.AboutTo (.addressed .jump) n) (hne : n ≠ state.programCounter) :
    state.Passes 3 { state with programCounter := n } :=
  h.passes (by simp only [step, h.opcode, h.operand, Interpreter.jump, if_neg hne])

/-- So does a conditional jump when the accumulator is zero. -/
theorem AboutTo.jump_of_zero (h : state.AboutTo (.addressed .jumpIfZero) n)
    (hzero : state.accumulator = 0) (hne : n ≠ state.programCounter) :
    state.Passes 3 { state with programCounter := n } :=
  h.passes (by
    simp only [step, h.opcode, h.operand, Interpreter.jump, if_pos hzero, if_neg hne])

/-- Otherwise a conditional jump is passed by. -/
theorem AboutTo.pass_of_ne_zero (h : state.AboutTo (.addressed .jumpIfZero) n)
    (hzero : state.accumulator ≠ 0) : state.Passes 3 state.pass :=
  h.passes (by simp only [step, h.opcode, if_neg hzero])

/-- Output puts the accumulator behind what is on the paper. -/
theorem AboutTo.output (h : state.AboutTo .output n) :
    state.Passes 3 { state.pass with paper := state.paper ++ [state.accumulator] } :=
  h.passes (by simp only [step, h.opcode])

end

end Interpreter

end AccumulatorMachine
