import AccumulatorMachine.Proofs.Machine.Coherence

/-!
# What a run leaves in memory and on paper

A request stays on its line until a fetch drops it, so that a device could honour
it twice, or find the words of another instruction on the other lines. Neither
happens: a tick changes memory if it is the store itself and the paper if it is
the output itself (`Machine.Coherent.words_tick`, `Machine.Coherent.printout_tick`),
and both take the accumulator as it stands after that tick.

Read along a run this is a replay. The paper is what the output ticks printed
(`Machine.printed`), and memory is what the store ticks make of the loaded words
(`Machine.stored`), each of them once and in order.
-/

namespace AccumulatorMachine

namespace Memory

/-- A processor that hands a word over finds it at the address that it names. -/
theorem words_honour_of_write (memory : Memory) {cpu : Processor} (hread : cpu.read = false)
    (hwrite : cpu.write = true) (haddress : cpu.address.toNat < capacity) :
    (memory.honour cpu).words = memory.words.setIfInBounds cpu.address.toNat cpu.data := by
  have hindex : (index cpu.address).val = cpu.address.toNat := Nat.mod_eq_of_lt haddress
  rw [memory.honour_of_write hread hwrite]
  refine Vector.ext fun place hplace => ?_
  rw [Vector.getElem_setIfInBounds, ← hindex]
  exact Vector.getElem_set (index cpu.address).isLt hplace

/-- A processor that hands nothing over leaves the words as they were. -/
theorem words_honour_of_write_eq_false (memory : Memory) {cpu : Processor}
    (h : cpu.write = false) : (memory.honour cpu).words = memory.words := by
  cases hread : cpu.read with
  | true => rw [memory.honour_of_read hread]; rfl
  | false => rw [memory.honour_of_idle hread h]; rfl

end Memory

namespace Machine

/-- **The words that the output states among some states present**, in order. -/
def printed (states : List Machine) : List UInt8 :=
  (states.filter fun state => state.processor.phase = .output).map fun state =>
    state.processor.accumulator

/-- **What the store states among some states make of the words of memory**, in
order: each puts its accumulator at the address in its address register. -/
def stored (states : List Machine) (words : Vector Word capacity) : Vector Word capacity :=
  (states.filter fun state => state.processor.phase = .store).foldl
    (fun words state =>
      words.setIfInBounds state.processor.address.toNat state.processor.accumulator) words

/-- The first state prints if it is an output state. -/
theorem printed_cons (state : Machine) (states : List Machine) :
    printed (state :: states)
      = (if state.processor.phase = .output then [state.processor.accumulator] else [])
        ++ printed states := by
  unfold printed
  simp only [List.filter_cons, decide_eq_true_eq]
  split <;> rfl

/-- The first state stores if it is a store state. -/
theorem stored_cons (state : Machine) (states : List Machine) (words : Vector Word capacity) :
    stored (state :: states) words
      = stored states (if state.processor.phase = .store then
          words.setIfInBounds state.processor.address.toNat state.processor.accumulator
        else words) := by
  unfold stored
  simp only [List.filter_cons, decide_eq_true_eq]
  split <;> rfl

/-! ## One tick -/

/-- **A tick changes memory exactly if it is a store**: then the accumulator
stands at the address in the address register. -/
theorem Coherent.words_tick {machine : Machine} (h : machine.Coherent) (hno : machine.NoReset) :
    machine.tick.memory.words =
      if machine.tick.processor.phase = .store then
        machine.memory.words.setIfInBounds machine.tick.processor.address.toNat
          machine.tick.processor.accumulator
      else machine.memory.words := by
  have hstep := h.inStep.advance
  have hrange := h.inRange.execute machine.processor.next
  rw [hno.tick_eq]
  show (machine.memory.honour machine.processor.advance).words =
    if machine.processor.next = .store then
      machine.memory.words.setIfInBounds machine.processor.advance.address.toNat
        machine.processor.advance.accumulator
    else machine.memory.words
  by_cases hnext : machine.processor.next = .store
  · have hphase : machine.processor.advance.phase = .store := hnext
    have hread : machine.processor.advance.read = false := by rw [hstep.read, hphase]; rfl
    have hwrite : machine.processor.advance.write = true := by rw [hstep.write, hphase]; rfl
    have hdata : machine.processor.advance.data = machine.processor.advance.accumulator := by
      rw [Processor.advance_of_next hnext]
      rfl
    rw [if_pos hnext, Memory.words_honour_of_write _ hread hwrite hrange.address, hdata]
  · have hwrite : machine.processor.advance.write = false := by
      rw [hstep.write]
      exact beq_eq_false_iff_ne.mpr hnext
    rw [if_neg hnext, Memory.words_honour_of_write_eq_false _ hwrite]

/-- **A tick changes the paper exactly if it is an output**: then the accumulator
stands at its end. -/
theorem Coherent.printout_tick {machine : Machine} (h : machine.Coherent)
    (hno : machine.NoReset) :
    machine.tick.printout = machine.printout ++
      if machine.tick.processor.phase = .output then [machine.tick.processor.accumulator]
      else [] := by
  have houtput := h.inStep.advance.output
  rw [hno.tick_eq]
  show machine.printer.paper ++ machine.processor.advance.output.toList
    = machine.printer.paper ++
      if machine.processor.advance.phase = .output then [machine.processor.advance.accumulator]
      else []
  rw [houtput]
  split <;> rfl

/-! ## A run -/

/-- **The paper of a run** is what its output states print. -/
theorem Coherent.printout_after {machine : Machine} (h : machine.Coherent)
    (hno : machine.NoReset) (n : Nat) :
    (machine.after n).printout = machine.printout ++ printed (machine.following n) := by
  induction n generalizing machine with
  | zero => exact (List.append_nil _).symm
  | succ n ih =>
    rw [after, following, printed_cons, ih h.tick hno.tick, h.printout_tick hno, List.append_assoc]

/-- **The words of a run** are what its store states make of those at its
beginning. -/
theorem Coherent.words_after {machine : Machine} (h : machine.Coherent)
    (hno : machine.NoReset) (n : Nat) :
    (machine.after n).memory.words = stored (machine.following n) machine.memory.words := by
  induction n generalizing machine with
  | zero => rfl
  | succ n ih => rw [after, following, stored_cons, ih h.tick hno.tick, h.words_tick hno]

/-- The states of a run are those that its machine gets to by ticks. -/
theorem mem_following_iff {machine state : Machine} {n : Nat} :
    state ∈ machine.following n ↔ ∃ i, 1 ≤ i ∧ i ≤ n ∧ machine.after i = state := by
  induction n generalizing machine with
  | zero =>
    rw [following]
    exact ⟨fun h => absurd h List.not_mem_nil, fun ⟨i, hone, hzero, _⟩ => by omega⟩
  | succ n ih =>
    rw [following, List.mem_cons, ih]
    constructor
    · rintro (rfl | ⟨i, hone, hle, rfl⟩)
      · exact ⟨1, Nat.le_refl 1, Nat.le_add_left 1 n, rfl⟩
      · exact ⟨i + 1, by omega, by omega, rfl⟩
    · rintro ⟨i, hone, hle, rfl⟩
      obtain ⟨j, rfl⟩ := Nat.exists_eq_add_of_le' hone
      cases j with
      | zero => exact .inl rfl
      | succ j => exact .inr ⟨j + 1, by omega, by omega, rfl⟩

/-- The devices agree in all of them. -/
theorem Coherent.of_mem_following {machine state : Machine} (h : machine.Coherent) {n : Nat}
    (hmem : state ∈ machine.following n) : state.Coherent := by
  obtain ⟨i, -, -, rfl⟩ := mem_following_iff.mp hmem
  exact (Reaches.refl.after i).coherent h

/-- A loaded machine is asked for no reset. -/
theorem noReset_of_load {image : List Word} {machine : Machine} (h : load image = .ok machine) :
    machine.NoReset := by
  obtain ⟨-, rfl⟩ := load_eq_ok_iff.mp h
  exact ⟨rfl, rfl, rfl⟩

/-- **Memory and paper are the replay of a run.** After `n` ticks of a loaded
machine the paper holds the accumulators of the output states among the first
`n`, in order, and memory is what the accumulators of the store states among
them make of the loaded words, each put at the address that its state names. So
a tick that is no output leaves the paper as it was, and one that is no store
leaves memory as it was. -/
theorem load_replay {image : List Word} (hfit : image.length ≤ capacity) :
    ∃ machine, load image = .ok machine ∧ ∀ n,
      (machine.after n).printout = printed (machine.following n) ∧
      (machine.after n).memory.words = stored (machine.following n) machine.memory.words ∧
      (∀ state ∈ machine.following n, state.processor.address.toNat < capacity) ∧
      ((machine.after (n + 1)).processor.phase ≠ .output →
        (machine.after (n + 1)).printout = (machine.after n).printout) ∧
      ((machine.after (n + 1)).processor.phase ≠ .store →
        (machine.after (n + 1)).memory.words = (machine.after n).memory.words) := by
  have hload : load image = .ok { initial with memory := .ofImage image } :=
    load_eq_ok_iff.mpr ⟨hfit, rfl⟩
  have hcoherent := coherent_of_load hload
  have hno := noReset_of_load hload
  refine ⟨_, hload, fun n => ⟨hcoherent.printout_after hno n, hcoherent.words_after hno n,
    ?_, fun hphase => ?_, fun hphase => ?_⟩⟩
  · intro state hmem
    obtain ⟨i, -, -, rfl⟩ := mem_following_iff.mp hmem
    exact ((Reaches.refl.after i).coherent hcoherent).inRange.address
  · rw [after_succ] at hphase ⊢
    rw [((Reaches.refl.after n).coherent hcoherent).printout_tick (hno.after n), if_neg hphase,
      List.append_nil]
  · rw [after_succ] at hphase ⊢
    rw [((Reaches.refl.after n).coherent hcoherent).words_tick (hno.after n), if_neg hphase]

/-- Twice around a loop that counts, prints and stores the count: each time round it
is printed once, and in memory stands the last one. -/
theorem load_replay_counting :
    let image : List Word := [4, 224, 69, 160]
    image.length ≤ capacity ∧ ∃ machine, load image = .ok machine ∧
      (machine.after 24).printout = [1, 2] ∧
      (machine.after 24).memory.words = machine.memory.words.setIfInBounds 5 2 := by
  intro image
  have hfit : image.length ≤ capacity := by decide
  obtain ⟨machine, hload, hreplay⟩ := load_replay hfit
  obtain ⟨-, rfl⟩ := load_eq_ok_iff.mp hload
  obtain ⟨hpaper, hwords, -⟩ := hreplay 24
  refine ⟨hfit, _, hload, hpaper.trans ?_, hwords.trans ?_⟩
  · decide +kernel
  · decide +kernel

end Machine

end AccumulatorMachine
