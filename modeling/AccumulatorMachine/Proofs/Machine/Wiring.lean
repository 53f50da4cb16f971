import AccumulatorMachine.Machine.Basic
import Mathlib.Data.List.Perm.Basic

/-!
# The order of wires and devices

A tick goes through two tables, that of the devices and that of the wires, and so
in some order. Most of that order means nothing. Hearing a signal changes what a
device drives on the line of that signal at most, so that two wires carry their
signals in either order unless they end on one line of one device, or one of them
ends at the device that drives the other (`Wire.Apart`, `Machine.carry_comm`).

Among the wires that leave one device there are no such two, whatever order they
are listed in, so any order of them is as good as another
(`Machine.tickAlong_perm`). For two devices that act behind each other it takes one
thing more, that no wire leads from one to the other (`Machine.turn_comm`). This
holds of memory and the printer. It does not hold of the processor and any of them,
so the processor keeps its place.
-/

namespace AccumulatorMachine

/-! ## One device -/

namespace Processor

/-- What the processor hears on two lines it may hear in either order. -/
theorem accept_comm (cpu : Processor) {line other : Line} (h : line ≠ other)
    (signal answer : Signal) :
    (cpu.accept line signal).accept other answer
      = (cpu.accept other answer).accept line signal := by
  cases line <;> cases other <;> first | rfl | exact absurd rfl h

/-- What the processor hears on a line it does not drive on another. -/
theorem drives_accept (cpu : Processor) {line other : Line} (h : line ≠ other)
    (signal : Signal) : (cpu.accept line signal).drives other = cpu.drives other := by
  cases line <;> cases other <;> first | rfl | exact absurd rfl h

end Processor

namespace Memory

/-- What memory hears on two lines it may hear in either order. -/
theorem accept_comm (memory : Memory) {line other : Line} (h : line ≠ other)
    (signal answer : Signal) :
    (memory.accept line signal).accept other answer
      = (memory.accept other answer).accept line signal := by
  cases line <;> cases other <;> first | rfl | exact absurd rfl h

/-- What memory hears on a line it does not drive on another. -/
theorem drives_accept (memory : Memory) {line other : Line} (h : line ≠ other)
    (signal : Signal) : (memory.accept line signal).drives other = memory.drives other := by
  cases line <;> cases other <;> first | rfl | exact absurd rfl h

end Memory

namespace Printer

/-- What the printer hears on two lines it may hear in either order. -/
theorem accept_comm (printer : Printer) {line other : Line} (h : line ≠ other)
    (signal answer : Signal) :
    (printer.accept line signal).accept other answer
      = (printer.accept other answer).accept line signal := by
  cases line <;> cases other <;> first | rfl | exact absurd rfl h

/-- What the printer hears on a line it does not drive on another. -/
theorem drives_accept (printer : Printer) {line other : Line} (h : line ≠ other)
    (signal : Signal) : (printer.accept line signal).drives other = printer.drives other := by
  cases line <;> cases other <;> first | rfl | exact absurd rfl h

end Printer

/-! ## Wires -/

namespace Wire

/-- **Two wires are apart**: they end on different lines, and neither ends at the
device that drives the other. -/
structure Apart (wire other : Wire) : Prop where
  /-- They end on different lines. -/
  ends : wire.target = other.target → wire.onto ≠ other.onto
  /-- The first does not end where the second begins. -/
  onward : wire.target ≠ other.source
  /-- The second does not end where the first begins. -/
  back : other.target ≠ wire.source

instance (wire other : Wire) : Decidable (wire.Apart other) :=
  decidable_of_iff
    ((wire.target = other.target → wire.onto ≠ other.onto) ∧ wire.target ≠ other.source ∧
      other.target ≠ wire.source)
    ⟨fun h => ⟨h.1, h.2.1, h.2.2⟩, fun h => ⟨h.ends, h.onward, h.back⟩⟩

/-- **No two of some wires meet.** -/
def AllApart (wires : List Wire) : Prop :=
  ∀ wire ∈ wires, ∀ other ∈ wires, wire ≠ other → wire.Apart other

instance (wires : List Wire) : Decidable (AllApart wires) :=
  inferInstanceAs (Decidable (∀ wire ∈ wires, ∀ other ∈ wires, wire ≠ other → wire.Apart other))

/-- **No wire leads from one of two devices to the other.** -/
def NoneBetween (device other : Device) (wires : List Wire) : Prop :=
  ∀ wire ∈ wires, (wire.source = device → wire.target ≠ other) ∧
    (wire.source = other → wire.target ≠ device)

instance (device other : Device) (wires : List Wire) :
    Decidable (NoneBetween device other wires) :=
  inferInstanceAs (Decidable (∀ wire ∈ wires, (wire.source = device → wire.target ≠ other) ∧
    (wire.source = other → wire.target ≠ device)))

/-- A wire that leaves a device is one of the wires, and the device drives it. -/
theorem mem_leaving_iff {device : Device} {wires : List Wire} {wire : Wire} :
    wire ∈ leaving device wires ↔ wire ∈ wires ∧ wire.source = device := by
  unfold leaving
  rw [List.mem_filter, beq_iff_eq]

end Wire

namespace Machine

variable {machine : Machine} {device other : Device}

/-- Signals on different lines can be heard in either order. -/
theorem accept_comm {line onto : Line} (h : device = other → line ≠ onto)
    (signal answer : Signal) :
    (machine.accept device line signal).accept other onto answer
      = (machine.accept other onto answer).accept device line signal := by
  by_cases hdevice : device = other
  · subst hdevice
    have hline := h rfl
    cases device with
    | processor => simp only [accept, Processor.accept_comm _ hline]
    | memory => simp only [accept, Memory.accept_comm _ hline]
    | printer => simp only [accept, Printer.accept_comm _ hline]
  · cases device <;> cases other <;> first | rfl | exact absurd rfl hdevice

/-- A signal changes what is driven on its own line at most. -/
theorem drives_accept {line onto : Line} (h : device = other → line ≠ onto) (signal : Signal) :
    (machine.accept device line signal).drives other onto = machine.drives other onto := by
  by_cases hdevice : device = other
  · subst hdevice
    have hline := h rfl
    cases device with
    | processor => exact Processor.drives_accept _ hline signal
    | memory => exact Memory.drives_accept _ hline signal
    | printer => exact Printer.drives_accept _ hline signal
  · cases device <;> cases other <;> first | rfl | exact absurd rfl hdevice

/-- A wire on whose line nothing is driven carries nothing. -/
theorem carry_of_drives_eq_none {wire : Wire} (h : machine.drives wire.source wire.line = none) :
    machine.carry wire = machine := by
  unfold carry
  rw [h]

/-- A wire carries what is driven on its line. -/
theorem carry_of_drives_eq_some {wire : Wire} {signal : Signal}
    (h : machine.drives wire.source wire.line = some signal) :
    machine.carry wire = machine.accept wire.target wire.onto signal := by
  unfold carry
  rw [h]

/-- **A wire changes what is driven on the line where it ends** at most. -/
theorem drives_carry {wire : Wire} {line : Line} (h : wire.target = device → wire.onto ≠ line) :
    (machine.carry wire).drives device line = machine.drives device line := by
  unfold carry
  split
  · exact drives_accept h _
  · rfl

/-- **Wires that are apart carry their signals in either order.** -/
theorem carry_comm {wire next : Wire} (h : wire.Apart next) (machine : Machine) :
    (machine.carry wire).carry next = (machine.carry next).carry wire := by
  have hnext : (machine.carry wire).drives next.source next.line
      = machine.drives next.source next.line :=
    drives_carry fun heq => absurd heq h.onward
  have hwire : (machine.carry next).drives wire.source wire.line
      = machine.drives wire.source wire.line :=
    drives_carry fun heq => absurd heq h.back
  cases hfirst : machine.drives wire.source wire.line with
  | none =>
    rw [carry_of_drives_eq_none hfirst, carry_of_drives_eq_none (hwire.trans hfirst)]
  | some signal =>
    cases hsecond : machine.drives next.source next.line with
    | none =>
      rw [carry_of_drives_eq_none hsecond, carry_of_drives_eq_none (hnext.trans hsecond)]
    | some answer =>
      rw [carry_of_drives_eq_some (hnext.trans hsecond), carry_of_drives_eq_some hfirst,
        carry_of_drives_eq_some (hwire.trans hfirst), carry_of_drives_eq_some hsecond]
      exact accept_comm h.ends _ _

/-- **Wires that are all apart carry their signals in any order.** -/
theorem foldl_carry_perm {wires others : List Wire} (hperm : wires.Perm others)
    (hapart : Wire.AllApart wires) (machine : Machine) :
    wires.foldl carry machine = others.foldl carry machine := by
  refine hperm.foldl_eq' (fun wire hwire next hnext state => ?_) machine
  by_cases heq : wire = next
  · rw [heq]
  · exact carry_comm (hapart wire hwire next hnext heq) state

/-! ## Turns -/

/-- **The order in which wires are listed means nothing** to the turn of a device, if
the wires that leave it are all apart. -/
theorem turn_perm {wires others : List Wire} (hperm : wires.Perm others)
    (hapart : Wire.AllApart (Wire.leaving device wires)) (machine : Machine) :
    turn wires machine device = turn others machine device :=
  foldl_carry_perm (hperm.filter _) hapart _

/-- **The order in which wires are listed means nothing** to a tick, if the wires that
leave a device are all apart. -/
theorem tickAlong_perm {wires others : List Wire} (hperm : wires.Perm others)
    (hapart : ∀ device, Wire.AllApart (Wire.leaving device wires)) (order : List Device)
    (machine : Machine) : machine.tickAlong order wires = machine.tickAlong order others := by
  have hturn : turn wires = turn others :=
    funext fun state => funext fun device => turn_perm hperm (hapart device) state
  unfold tickAlong
  rw [hturn]

/-- Devices act without looking at each other. -/
theorem tickDevice_comm (machine : Machine) (device other : Device) :
    (machine.tickDevice device).tickDevice other
      = (machine.tickDevice other).tickDevice device := by
  cases device <;> cases other <;> rfl

/-- A device acts in front of a signal or behind it, if it neither drives nor hears
it. -/
theorem tickDevice_carry {wire : Wire} (hsource : wire.source ≠ device)
    (htarget : wire.target ≠ device) (machine : Machine) :
    (machine.carry wire).tickDevice device = (machine.tickDevice device).carry wire := by
  obtain ⟨source, line, target, onto⟩ := wire
  have hdrives : (machine.tickDevice device).drives source line = machine.drives source line := by
    cases device <;> cases source <;> first | rfl | exact absurd rfl hsource
  have haccept : ∀ signal, (machine.accept target onto signal).tickDevice device
      = (machine.tickDevice device).accept target onto signal := by
    intro signal
    cases device <;> cases target <;> first | rfl | exact absurd rfl htarget
  unfold carry
  dsimp only
  rw [hdrives]
  split
  · exact haccept _
  · rfl

/-- A device acts in front of some signals or behind them, if it neither drives nor
hears any. -/
theorem tickDevice_foldl_carry {wires : List Wire}
    (h : ∀ wire ∈ wires, wire.source ≠ device ∧ wire.target ≠ device) (machine : Machine) :
    (wires.foldl carry machine).tickDevice device
      = wires.foldl carry (machine.tickDevice device) := by
  induction wires generalizing machine with
  | nil => rfl
  | cons wire wires ih =>
    rw [List.forall_mem_cons] at h
    rw [List.foldl_cons, List.foldl_cons, ih h.2, tickDevice_carry h.1.1 h.1.2]

/-- Two devices one after the other, with all signals behind both: that is what two turns
come to where no wire leads from the first device to the second. -/
theorem turn_turn_eq {wires : List Wire} (hne : device ≠ other)
    (hnone : ∀ wire ∈ wires, wire.source = device → wire.target ≠ other) (machine : Machine) :
    turn wires (turn wires machine device) other
      = (Wire.leaving device wires ++ Wire.leaving other wires).foldl carry
          ((machine.tickDevice device).tickDevice other) := by
  have hacts : ∀ wire ∈ Wire.leaving device wires,
      wire.source ≠ other ∧ wire.target ≠ other := by
    intro wire hmem
    obtain ⟨hwire, hsource⟩ := Wire.mem_leaving_iff.mp hmem
    exact ⟨hsource ▸ hne, hnone wire hwire hsource⟩
  unfold turn
  rw [tickDevice_foldl_carry hacts, List.foldl_append]

/-- **Two devices that exchange no signal take their turns in either order**, if the
wires that leave them are all apart. -/
theorem turn_comm {wires : List Wire} (hne : device ≠ other)
    (hnone : Wire.NoneBetween device other wires)
    (hapart : Wire.AllApart (Wire.leaving device wires ++ Wire.leaving other wires))
    (machine : Machine) :
    turn wires (turn wires machine device) other
      = turn wires (turn wires machine other) device := by
  rw [turn_turn_eq hne fun wire hmem => (hnone wire hmem).1,
    turn_turn_eq hne.symm fun wire hmem => (hnone wire hmem).2, tickDevice_comm]
  exact foldl_carry_perm List.perm_append_comm hapart _

/-! ## The wires of the machine -/

/-- **The order of the tables means nothing to a tick.** List the wires in any order,
and let memory and the printer change places or not: a machine in any state ticks as it
does. No two wires that leave a device end on one line; a wire finds on the line that
it copies what it would find before any other wire of the same device, and none of them
changes what it left at its end; and no wire leads from memory to the printer or
back. -/
theorem tickAlong_eq_tick {wires : List Wire} (hperm : wires.Perm Wire.all) :
    (∀ (machine : Machine) (order : List Device),
      order = Device.order ∨ order = [.processor, .printer, .memory] →
      machine.tickAlong order wires = machine.tick) ∧
    (∀ wire ∈ wires, ∀ other ∈ wires, wire.source = other.source →
      wire.target = other.target → wire.onto = other.onto → wire = other) ∧
    (∀ wire ∈ wires, ∀ other ∈ wires, wire.source = other.source → wire ≠ other →
      ∀ machine : Machine,
        (machine.carry other).drives wire.source wire.line
          = machine.drives wire.source wire.line ∧
        ((machine.carry wire).carry other).drives wire.target wire.onto
          = (machine.carry wire).drives wire.target wire.onto) ∧
    ∀ wire ∈ wires, (wire.source = .memory → wire.target ≠ .printer) ∧
      (wire.source = .printer → wire.target ≠ .memory) := by
  have hmem : ∀ wire, wire ∈ wires ↔ wire ∈ Wire.all := fun wire => hperm.mem_iff
  have hleaving : ∀ device, Wire.AllApart (Wire.leaving device Wire.all) := by
    intro device
    cases device <;> decide
  have hapart : ∀ wire ∈ wires, ∀ other ∈ wires, wire.source = other.source → wire ≠ other →
      wire.Apart other := by
    intro wire hwire other hother hsource
    exact hleaving other.source wire (Wire.mem_leaving_iff.mpr ⟨(hmem wire).mp hwire, hsource⟩)
      other (Wire.mem_leaving_iff.mpr ⟨(hmem other).mp hother, rfl⟩)
  have hnone : Wire.NoneBetween .memory .printer Wire.all := by decide
  refine ⟨?_, ?_, ?_, fun wire hwire => hnone wire ((hmem wire).mp hwire)⟩
  · intro machine order horder
    rw [← tickAlong_perm hperm.symm hleaving]
    rcases horder with rfl | rfl
    · rfl
    · exact (turn_comm (by decide) hnone (by decide) _).symm
  · intro wire hwire other hother hsource htarget honto
    by_contra hne
    exact (hapart wire hwire other hother hsource hne).ends htarget honto
  · intro wire hwire other hother hsource hne machine
    have hboth := hapart wire hwire other hother hsource hne
    exact ⟨drives_carry fun heq => absurd heq hboth.back,
      drives_carry fun heq => (hboth.ends heq.symm).symm⟩

/-- The wires listed the other way round and the printer in front of memory, in a
machine whose reset lines are raised in part and which is asked for a word and handed
one at the same time. -/
theorem tickAlong_eq_tick_reversed :
    let machine : Machine :=
      { processor := ⟨.store, .load, false, true, true, 255, 254, 7, 0, 30, 29, some 253⟩
        memory := ⟨true, true, true, Vector.replicate capacity 252, 31, 251⟩
        printer := ⟨false, true, 250, [249]⟩
        cycles := 18446744073709551615 }
    Wire.all.reverse.Perm Wire.all ∧ Wire.all.reverse ≠ Wire.all ∧
      machine.tickAlong [.processor, .printer, .memory] Wire.all.reverse = machine.tick := by
  intro machine
  obtain ⟨htick, -, -, -⟩ := tickAlong_eq_tick (List.reverse_perm Wire.all)
  exact ⟨List.reverse_perm Wire.all, by decide, htick machine _ (.inr rfl)⟩

end Machine

end AccumulatorMachine
