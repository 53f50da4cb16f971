import AccumulatorMachine.Proofs.Machine.Tick
import Mathlib.Order.Bounds.Basic

/-!
# How far a run goes

A run stops for one of two reasons: the machine has halted, or the ticks that it
may take are used up. So a run is the machine after a number of ticks, the least
at which one of the two is the case (`Machine.exists_run_eq_after`), and a run
that is taken up again is the longer run (`Machine.run_add`).

The states of a run can also be followed with an eye on the count of ticks, until
it has reached a budget. The two counts are different – one begins with the run,
the other with the machine – and `Machine.statesWithin_eq_runStates` says that the
run stops at the same state if it may take the ticks that the budget has left.
-/

namespace AccumulatorMachine

namespace Machine

variable {machine : Machine}

/-! ## Runs -/

/-- A machine that has halted stays where it is. -/
theorem run_of_isHalted (h : machine.isHalted = true) (n : Nat) : machine.run n = machine := by
  cases n with
  | zero => rfl
  | succ n => exact if_pos h

/-- A machine that has not halted begins its run with a tick. -/
theorem run_succ (h : machine.isHalted = false) (n : Nat) :
    machine.run (n + 1) = machine.tick.run n := by
  rw [run, h]
  exact if_neg Bool.false_ne_true

/-- So do the states of its run. -/
theorem runStates_succ (h : machine.isHalted = false) (n : Nat) :
    machine.runStates (n + 1) = machine.tick :: machine.tick.runStates n := by
  rw [runStates, h]
  exact if_neg Bool.false_ne_true

/-- A machine that has halted has no states to run through. -/
theorem runStates_of_isHalted (h : machine.isHalted = true) (n : Nat) :
    machine.runStates n = [] := by
  cases n with
  | zero => rfl
  | succ n => exact if_pos h

/-- **A run that is taken up again is the longer run.** -/
theorem run_add (machine : Machine) (m n : Nat) :
    (machine.run m).run n = machine.run (m + n) := by
  induction m generalizing machine with
  | zero => rw [Nat.zero_add]; rfl
  | succ m ih =>
    cases hhalt : machine.isHalted with
    | true => simp only [run_of_isHalted hhalt]
    | false => rw [Nat.succ_add, run_succ hhalt, run_succ hhalt, ih]

/-- **A run is the machine after the least number of ticks** that are all that it
may take or after which it has halted, and its states are those in between. -/
theorem exists_run_eq_after (machine : Machine) (n : Nat) :
    ∃ ticks, IsLeast {i | i = n ∨ (machine.after i).isHalted = true} ticks ∧
      machine.run n = machine.after ticks ∧ machine.runStates n = machine.following ticks := by
  induction n generalizing machine with
  | zero => exact ⟨0, ⟨Or.inl rfl, fun _ _ => Nat.zero_le _⟩, rfl, rfl⟩
  | succ n ih =>
    cases hhalt : machine.isHalted with
    | true =>
      exact ⟨0, ⟨Or.inr hhalt, fun _ _ => Nat.zero_le _⟩, run_of_isHalted hhalt _,
        runStates_of_isHalted hhalt _⟩
    | false =>
      obtain ⟨ticks, ⟨hstop, hleast⟩, hrun, hstates⟩ := ih machine.tick
      refine ⟨ticks + 1, ⟨hstop.imp_left (congrArg Nat.succ), ?_⟩, ?_, ?_⟩
      · rintro (_ | i) hi
        · -- the machine has ticks left and has not halted
          exact absurd hi (not_or.mpr ⟨Nat.zero_ne_add_one n, by rw [after, hhalt]; decide⟩)
        · exact Nat.succ_le_succ (hleast (hi.imp_left Nat.succ.inj))
      · rw [run_succ hhalt, hrun]
        rfl
      · rw [runStates_succ hhalt, hstates]
        rfl

/-- **A run that is long enough** ends when the machine halts. -/
theorem run_eq_after {ticks : Nat} (h : ∀ i, (machine.after i).isHalted = true ↔ ticks ≤ i)
    {n : Nat} (hn : ticks ≤ n) : machine.run n = machine.after ticks := by
  obtain ⟨i, ⟨hstop, hleast⟩, hrun, -⟩ := machine.exists_run_eq_after n
  have hle : i ≤ ticks := hleast (Or.inr ((h ticks).mpr (Nat.le_refl ticks)))
  have hge : ticks ≤ i := hstop.elim (fun heq => heq ▸ hn) (h i).mp
  rw [hrun, Nat.le_antisymm hle hge]

/-- **A run ends halted** if the machine halts within its ticks. -/
theorem isHalted_run_iff {n : Nat} :
    (machine.run n).isHalted = true ↔ ∃ ticks ≤ n, (machine.after ticks).isHalted = true := by
  obtain ⟨i, ⟨hstop, hleast⟩, hrun, -⟩ := machine.exists_run_eq_after n
  have hle : i ≤ n := hleast (Or.inl rfl)
  rw [hrun]
  constructor
  · exact fun hhalt => ⟨i, hle, hhalt⟩
  · rintro ⟨ticks, hticks, hhalt⟩
    rcases hstop with rfl | hstopped
    · -- all ticks were taken, and so it halts after the last one at the earliest
      exact Nat.le_antisymm hticks (hleast (Or.inr hhalt)) ▸ hhalt
    · exact hstopped

/-- A run that does not end halted takes all its ticks. -/
theorem run_eq_after_of_running {n : Nat} (h : (machine.run n).isHalted = false) :
    machine.run n = machine.after n := by
  obtain ⟨i, ⟨hstop, -⟩, hrun, -⟩ := machine.exists_run_eq_after n
  rw [hrun] at h ⊢
  rcases hstop with rfl | hhalt
  · rfl
  · rw [h] at hhalt
    exact absurd hhalt Bool.false_ne_true

/-- **A machine that never halts** takes all the ticks of a run. -/
theorem run_eq_after_of_forall (h : ∀ i, (machine.after i).isHalted = false) (n : Nat) :
    machine.run n = machine.after n ∧ machine.runStates n = machine.following n := by
  obtain ⟨ticks, ⟨hstop, -⟩, hrun, hstates⟩ := machine.exists_run_eq_after n
  have hhalt : ¬ (machine.after ticks).isHalted = true := Bool.eq_false_iff.mp (h ticks)
  obtain rfl : ticks = n := hstop.resolve_right hhalt
  exact ⟨hrun, hstates⟩

/-- **The states that follow** are those after one tick, after two, and so on. -/
theorem following_eq (machine : Machine) (n : Nat) :
    machine.following n = (List.range n).map fun i => machine.after (i + 1) := by
  induction n generalizing machine with
  | zero => rfl
  | succ n ih =>
    rw [following, ih, List.range_succ_eq_map, List.map_cons, List.map_map]
    rfl

/-- There are as many of them as ticks. -/
theorem length_following (machine : Machine) (n : Nat) : (machine.following n).length = n := by
  rw [following_eq, List.length_map, List.length_range]

/-- The last state of a run is where it gets to. -/
theorem getLastD_runStates (machine : Machine) (n : Nat) :
    (machine.runStates n).getLastD machine = machine.run n := by
  induction n generalizing machine with
  | zero => rfl
  | succ n ih =>
    cases hhalt : machine.isHalted with
    | true => rw [runStates_of_isHalted hhalt, run_of_isHalted hhalt]; rfl
    | false => rw [runStates_succ hhalt, run_succ hhalt, List.getLastD_cons, ih]

/-! ## The count of ticks -/

/-- A tick counts, as long as the count does not run over. -/
theorem toNat_cycles_tick (h : machine.cycles.toNat + 1 < UInt64.size) :
    machine.tick.cycles.toNat = machine.cycles.toNat + 1 := by
  rw [tick_eq]
  exact (UInt64.toNat_add _ _).trans (Nat.mod_eq_of_lt h)

/-- **The count of ticks counts them**, as long as it does not run over. -/
theorem toNat_cycles_after {n : Nat} (h : machine.cycles.toNat + n < UInt64.size) :
    (machine.after n).cycles.toNat = machine.cycles.toNat + n := by
  induction n generalizing machine with
  | zero => rfl
  | succ n ih =>
    have htick : machine.tick.cycles.toNat = machine.cycles.toNat + 1 :=
      toNat_cycles_tick (by omega)
    rw [after, ih (by omega), htick]
    omega

/-- A machine that had not ticked and whose run does not end halted has counted all the
ticks of the run. -/
theorem cycles_run_of_running (hzero : machine.cycles = 0) {budget : UInt64}
    (hrunning : (machine.run budget.toNat).isHalted = false) :
    (machine.run budget.toNat).cycles = budget := by
  have hstart : machine.cycles.toNat + budget.toNat = budget.toNat := by
    rw [hzero, UInt64.toNat_zero, Nat.zero_add]
  have hsize : machine.cycles.toNat + budget.toNat < UInt64.size :=
    hstart.symm ▸ budget.toNat_lt_size
  rw [run_eq_after_of_running hrunning]
  exact UInt64.toNat_inj.mp ((toNat_cycles_after hsize).trans hstart)

/-! ## Following a run within a budget -/

/-- **How a run is followed**: unless the machine has halted or its count of ticks
has reached the budget, it ticks, and the run is followed from there. The bound
on the number of states is never what ends this. -/
theorem statesWithin_eq (budget : UInt64) (machine : Machine) :
    machine.statesWithin budget =
      if machine.isHalted then []
      else if machine.cycles < budget then machine.tick :: machine.tick.statesWithin budget
      else [] := by
  by_cases hbudget : machine.cycles < budget
  · have hlt : machine.cycles.toNat < budget.toNat := UInt64.lt_iff_toNat_lt.mp hbudget
    have hsize : budget.toNat < UInt64.size := budget.toNat_lt_size
    have htick : machine.tick.cycles.toNat = machine.cycles.toNat + 1 :=
      toNat_cycles_tick (by omega)
    have hleft : budget.toNat - machine.cycles.toNat
        = budget.toNat - machine.tick.cycles.toNat + 1 := by omega
    rw [statesWithin, hleft, statesUntil]
    rfl
  · have hle : budget.toNat ≤ machine.cycles.toNat :=
      Nat.not_lt.mp (mt UInt64.lt_iff_toNat_lt.mpr hbudget)
    rw [statesWithin, Nat.sub_eq_zero_of_le hle, statesUntil, if_neg hbudget, ite_self]

/-- **A run that is followed within a budget** goes through the states of a run that
may take the ticks that are left of it. -/
theorem statesWithin_eq_runStates (budget : UInt64) (machine : Machine) :
    machine.statesWithin budget
      = machine.runStates (budget.toNat - machine.cycles.toNat) := by
  induction hleft : budget.toNat - machine.cycles.toNat generalizing machine with
  | zero =>
    have hbudget : ¬ machine.cycles < budget := fun h =>
      absurd (UInt64.lt_iff_toNat_lt.mp h) (by omega)
    rw [statesWithin_eq, if_neg hbudget, ite_self, runStates]
  | succ left ih =>
    have hlt : machine.cycles < budget := UInt64.lt_iff_toNat_lt.mpr (by omega)
    have hsize : budget.toNat < UInt64.size := budget.toNat_lt_size
    have htick : machine.tick.cycles.toNat = machine.cycles.toNat + 1 :=
      toNat_cycles_tick (by omega)
    rw [statesWithin_eq, if_pos hlt, ih machine.tick (by omega), runStates]

end Machine

end AccumulatorMachine
