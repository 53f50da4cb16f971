import AccumulatorMachine.Proofs.Machine.Coherence
import AccumulatorMachine.Proofs.Machine.Runs

/-!
# Resets

Asking for a reset raises one line of each device and leaves the rest of the
machine as it is: its requests stand, and so does what it was in the middle of.
None of that outlives the tick behind it. The processor acts first and drives
what it drives before its first tick, so that memory and the printer are given
no request of old and start afresh themselves, and memory's data line has a zero
to carry back (`Machine.tick_reset`). What is left of the machine is its count of
ticks, and no tick ever looks at that (`Machine.after_with_cycles`).

A run asks whether the machine has halted before it ticks, and a machine that is
asked for a reset has halted as long as it has not ticked. So a run performs a
pending reset unless the machine is at rest, and there it does nothing at all:
the reset waits for a tick (`Machine.run_reset`).
-/

namespace AccumulatorMachine

namespace Machine

variable {machine : Machine}

/-! ## The tick behind a reset -/

/-- **The tick that finds the reset lines raised** leaves nothing but the count of
ticks, whatever the machine was. -/
theorem tick_reset (machine : Machine) :
    machine.reset.tick = { initial with cycles := machine.cycles + 1 } :=
  tick_of_reset rfl rfl rfl

/-- **The count of ticks moves by itself**: no tick looks at it. -/
theorem after_with_cycles (machine : Machine) (count : UInt64) (n : Nat) :
    { machine with cycles := count }.after n
      = { machine.after n with cycles := count + UInt64.ofNat n } := by
  induction n generalizing machine count with
  | zero =>
    rw [after, after, show UInt64.ofNat 0 = 0 from rfl, UInt64.add_zero]
  | succ n ih =>
    have htick : { machine with cycles := count }.tick
        = { machine.tick with cycles := count + 1 } := rfl
    rw [after, after, htick, ih, add_one_add_ofNat]

/-- **A reset restores the machine.** Whatever a machine is in the middle of, the
tick behind a reset makes it the machine before its first tick, but for the count
of ticks, and any number of further ticks does to it what they do to that one. So
it depends on the count alone, and on no request that was standing. -/
theorem reset_restores (hcount : machine.cycles.toNat < UInt64.size - 1) :
    machine.reset.tick = { initial with cycles := machine.cycles + 1 } ∧
    machine.reset.tick.cycles.toNat = machine.cycles.toNat + 1 ∧
    (∀ n, machine.cycles.toNat + 1 + n < UInt64.size →
      (initial.after n).cycles.toNat = n ∧
      (machine.reset.tick.after n).cycles.toNat = machine.cycles.toNat + 1 + n ∧
      machine.reset.tick.after n
        = { initial.after n with cycles := (machine.reset.tick.after n).cycles }) ∧
    ∀ other : Machine, other.cycles = machine.cycles → other.reset.tick = machine.reset.tick := by
  have hfresh := machine.tick_reset
  have hone : machine.reset.tick.cycles.toNat = machine.reset.cycles.toNat + 1 := by
    refine toNat_cycles_tick ?_
    show machine.cycles.toNat + 1 < UInt64.size
    omega
  refine ⟨hfresh, hone, fun n hn => ⟨?_, ?_, ?_⟩, fun other hother => ?_⟩
  · rw [toNat_cycles_after (by show 0 + n < _; omega)]
    exact Nat.zero_add n
  · rw [toNat_cycles_after (by rw [hone]; exact hn), hone]
    rfl
  · rw [hfresh, after_with_cycles]
  · rw [other.tick_reset, hother, hfresh]

/-- A machine that no program leads to: it asks memory for a word and hands it
another one at the same time, all its registers are full, the printer is given a
word, and in one tick more its count of ticks would run over. -/
theorem reset_restores_inFlight :
    let machine : Machine :=
      { processor := ⟨.store, .andReply, false, true, true, 255, 254, 7, 31, 30, 29, some 253⟩
        memory := ⟨false, true, true, Vector.replicate capacity 252, 31, 251⟩
        printer := ⟨false, true, 250, [249, 248]⟩
        cycles := 18446744073709551613 }
    machine.cycles.toNat < UInt64.size - 1 ∧ machine.cycles.toNat + 1 + 1 < UInt64.size ∧
      machine.reset.tick = { initial with cycles := 18446744073709551614 } ∧
      (machine.reset.tick.after 1).cycles.toNat = UInt64.size - 1 ∧
      machine.reset.tick.after 1 = { initial.tick with cycles := 18446744073709551615 } := by
  intro machine
  have hcount : machine.cycles.toNat < UInt64.size - 1 := by decide
  have hone : machine.cycles.toNat + 1 + 1 < UInt64.size := by decide
  obtain ⟨hfresh, -, hafter, -⟩ := reset_restores hcount
  obtain ⟨-, hticks, hsame⟩ := hafter 1 hone
  exact ⟨hcount, hone, hfresh, hticks, hsame⟩

/-! ## Running a machine that is asked for a reset -/

/-- Asking for a reset does not wake a machine that has halted. -/
@[simp] theorem isHalted_reset (machine : Machine) : machine.reset.isHalted = machine.isHalted :=
  rfl

/-- No tick of a run asks for a reset. -/
theorem NoReset.run (h : machine.NoReset) (n : Nat) : (machine.run n).NoReset := by
  obtain ⟨ticks, -, hrun, -⟩ := machine.exists_run_eq_after n
  rw [hrun]
  exact h.after ticks

/-- **A run that begins with a reset** restores the machine with its first tick exactly
if the machine has not halted. One that has halted does not tick in a run: its reset
stays asked for, until a tick performs it. -/
theorem run_reset (machine : Machine) (n : Nat) :
    (machine.reset.run (n + 1) = machine.reset.tick.run n ↔ machine.isHalted = false) ∧
    (machine.reset.run (n + 1) = machine.reset ↔ machine.isHalted = true) ∧
    machine.reset.tick = { initial with cycles := machine.cycles + 1 } := by
  have hfresh := machine.tick_reset
  -- the reset lines are up before the tick and down behind it
  have hne : machine.reset.tick.run n ≠ machine.reset := by
    have hno : machine.reset.tick.NoReset := by
      rw [hfresh]
      exact ⟨rfl, rfl, rfl⟩
    have hup : machine.reset.processor.reset = true := rfl
    intro heq
    have hdown := (hno.run n).processor
    rw [heq, hup] at hdown
    exact absurd hdown (by decide)
  cases hhalt : machine.isHalted with
  | true =>
    have hrun : machine.reset.run (n + 1) = machine.reset :=
      run_of_isHalted (machine.isHalted_reset.trans hhalt) (n + 1)
    exact ⟨iff_of_false (fun heq => hne (heq.symm.trans hrun)) (by decide),
      iff_of_true hrun rfl, hfresh⟩
  | false =>
    have hrun : machine.reset.run (n + 1) = machine.reset.tick.run n :=
      run_succ (machine.isHalted_reset.trans hhalt) n
    exact ⟨iff_of_true hrun rfl,
      iff_of_false (fun heq => hne (hrun.symm.trans heq)) (by decide), hfresh⟩

/-- A jump to itself has come to rest after four ticks, and a run does not perform the
reset that is then asked for. -/
theorem not_forall_run_reset :
    ¬ ∀ (image : List Word) (start machine : Machine) (n : Nat), load image = .ok start →
      start.Reaches machine → 1 ≤ n → machine.reset.run n = machine.reset.tick.run (n - 1) := by
  intro h
  let start : Machine := { initial with memory := .ofImage [160] }
  have hstart : load [160] = .ok start := rfl
  have hsame := h [160] start (start.after 4) 1 hstart (Reaches.refl.after 4) (Nat.le_refl 1)
  have hphase : ((start.after 4).reset.run 1).processor.phase
      ≠ ((start.after 4).reset.tick.run (1 - 1)).processor.phase := by decide +kernel
  exact hphase (congrArg (fun machine => machine.processor.phase) hsame)

end Machine

end AccumulatorMachine
