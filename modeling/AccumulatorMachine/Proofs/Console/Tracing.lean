import AccumulatorMachine.Console.Session
import AccumulatorMachine.Proofs.Machine.Coherence
import AccumulatorMachine.Proofs.Machine.Runs

/-!
# Traced runs

A traced run is a second way to run a machine: it follows the states one by one,
with a stopping test of its own, and shows each of them. It must be the same run.
`Session.follow_eq` says that it is: what is shown is the machine that was loaded
and then what the journal says of the run, and where it ends is where the run
does.

So tracing adds a text to what is said and changes nothing else. Everything that
is said behind that text, and how the command ends, is `Session.conclusion`, which
knows of no tracing.
-/

namespace AccumulatorMachine

/-! ## What is said along the way -/

/-- Texts that are said before an outcome stand in the order in which they are said. -/
theorem Outcome.saying_saying (first second : String) (outcome : Outcome) :
    (outcome.saying second).saying first = outcome.saying (first ++ second) := by
  show { outcome with output := first ++ (second ++ outcome.output) } = _
  rw [← String.append_assoc]
  rfl

/-- No text makes no difference. -/
theorem Outcome.saying_empty (outcome : Outcome) : outcome.saying "" = outcome := by
  show { outcome with output := "" ++ outcome.output } = outcome
  rw [String.empty_append]

/-- A machine that was just loaded has not ticked. -/
theorem Machine.cycles_of_load {image : List Word} {machine : Machine}
    (h : load image = .ok machine) : machine.cycles = 0 := by
  obtain ⟨-, rfl⟩ := load_eq_ok_iff.mp h
  rfl

namespace Session

/-- A status line is said before what follows, or is left out. -/
theorem perform_status (style : ListingStyle) (word about : String) (next : Dialogue)
    (directory : Directory) :
    (status style word about next).perform directory
      = (next.perform directory).saying (if style.minimal then "" else statusLine word about) := by
  unfold status
  split
  · exact (Outcome.saying_empty _).symm
  · rfl

/-! ## The run itself -/

/-- **What a traced run shows**: the machine that it starts from and what the journal
says of the run, a line each. -/
def traceText (budget : UInt64) (machine : Machine) : String :=
  Listing.ofRows (machine.display :: (machine.journal budget.toNat).map JournalEntry.message)

/-- **Traced or not, it is the same run** of a machine that has not ticked yet. -/
theorem follow_eq {machine : Machine} (h : machine.cycles = 0) (trace : Bool) (budget : UInt64) :
    follow trace budget machine
      = (if trace then traceText budget machine else "", machine.run budget.toNat) := by
  cases trace with
  | false => rfl
  | true =>
    have hstates : machine.statesWithin budget = machine.runStates budget.toNat := by
      rw [Machine.statesWithin_eq_runStates, h]
      rfl
    have hmessages : (machine.journal budget.toNat).map JournalEntry.message
        = (machine.runStates budget.toNat).map Machine.display :=
      List.map_map
    show (Listing.ofRows ((machine :: machine.statesWithin budget).map Machine.display),
      (machine :: machine.statesWithin budget).getLastD machine) = _
    rw [hstates, List.getLastD_cons, Machine.getLastD_runStates, List.map_cons, ← hmessages]
    rfl

/-- **What is said behind a run**, and how the command ends. -/
def conclusion (options : RunOptions) (budget : UInt64) (machine : Machine) : Dialogue :=
  let style := styleOf options.minimal
  sayPrintout style machine.printout <|
    .say (if options.memory then Listing.ofMachine style machine else "") <|
    sayEnd style budget machine

/-- The ticks that a run may take. -/
def budgetOf (settings : Settings) (options : RunOptions) : UInt64 :=
  options.cycles.getD settings.maxCycles

/-- **The run of an image** is told before what is shown of it, and what is said
behind it comes last. -/
theorem perform_runImage {image : List Word} {machine : Machine}
    (hload : Machine.load image = .ok machine) (settings : Settings) (options : RunOptions)
    (directory : Directory) :
    (runImage settings options image).perform directory =
      let budget := budgetOf settings options
      (((conclusion options budget (machine.run budget.toNat)).perform directory).saying
        (if options.trace || settings.trace then traceText budget machine else "")).saying
        (if options.minimal then "" else statusLine "Running" (count image.length "words")) := by
  unfold runImage
  rw [hload]
  dsimp only
  rw [perform_status, follow_eq (Machine.cycles_of_load hload)]
  rfl

/-- A source text that does not assemble is not one that does not halt. -/
theorem ne_notHalted_of_assembleContent {content : List UInt8} {fault : CommandFault}
    (h : assembleContent content = .error fault) (budget : UInt64) : fault ≠ .notHalted budget := by
  unfold assembleContent at h
  split at h
  · rw [← Except.error.inj h]
    exact CommandFault.noConfusion
  · split at h
    · rw [← Except.error.inj h]
      exact CommandFault.noConfusion
    · exact absurd h (by simp)

/-- **Where a run comes from**: a command to run a file says something and runs an
image, or says something and ends with a fault. Tracing has no part in either. -/
theorem run_cases (path : String) (options : RunOptions) (directory : Directory) :
    (∃ opening image, ∀ settings trace,
      (run settings path { options with trace := trace }).perform directory
        = ((runImage settings { options with trace := trace } image).perform directory).saying
            opening) ∨
    ∃ opening fault, (∀ budget, fault ≠ .notHalted budget) ∧ ∀ settings trace,
      (run settings path { options with trace := trace }).perform directory
        = ((fail fault).perform directory).saying opening := by
  have hfails : ∀ fault : CommandFault, (fail fault).perform directory
      = ((fail fault).perform directory).saying "" := fun _ => rfl
  unfold run
  cases Path.extension? path with
  | none => exact Or.inr ⟨"", .noExtension, by simp, fun _ _ => hfails _⟩
  | some extension =>
    dsimp only
    by_cases hbin : extension = "bin"
    · simp only [if_pos hbin, fileStatus, perform_status, Dialogue.perform]
      cases directory.read path with
      | error fault => exact Or.inr ⟨_, .file fault, by simp, fun _ _ => rfl⟩
      | ok image => exact Or.inl ⟨_, image, fun _ _ => rfl⟩
    by_cases hasm : extension = "asm"
    · simp only [if_neg hbin, if_pos hasm, fileStatus, perform_status, assembleFile,
        Dialogue.perform]
      cases directory.read path with
      | error fault => exact Or.inr ⟨_, .file fault, by simp, fun _ _ => rfl⟩
      | ok content =>
        dsimp only
        cases hassemble : assembleContent content with
        | error fault =>
          exact Or.inr ⟨_, fault, ne_notHalted_of_assembleContent hassemble, fun _ _ => rfl⟩
        | ok assembly => exact Or.inl ⟨_, assembly.words, fun _ _ => rfl⟩
    · simp only [if_neg hbin, if_neg hasm]
      exact Or.inr ⟨"", .unknownExtension, by simp, fun _ _ => hfails _⟩

/-- **Tracing adds its text to what is said**, between what comes before and behind
a run; where no image is loaded there is no place for it. -/
theorem perform_run (path : String) (options : RunOptions) (directory : Directory) :
    (∃ opening image machine, Machine.load image = .ok machine ∧ ∀ settings trace,
      let budget := budgetOf settings options
      (run settings path { options with trace := trace }).perform directory
        = (((conclusion options budget (machine.run budget.toNat)).perform directory).saying
            (if trace || settings.trace then traceText budget machine else "")).saying opening) ∨
    ∃ opening fault, (∀ budget, fault ≠ .notHalted budget) ∧ ∀ settings trace,
      (run settings path { options with trace := trace }).perform directory
        = ((fail fault).perform directory).saying opening := by
  rcases run_cases path options directory with ⟨opening, image, himage⟩ | hfails
  · cases hload : Machine.load image with
    | error fault =>
      refine Or.inr ⟨opening, .load fault, fun _ => CommandFault.noConfusion,
        fun settings trace => ?_⟩
      rw [himage, runImage, hload]
    | ok machine =>
      refine Or.inl ⟨opening ++ (if options.minimal then ""
        else statusLine "Running" (count image.length "words")), image, machine, hload,
        fun settings trace => ?_⟩
      rw [himage, perform_runImage hload, Outcome.saying_saying]
      rfl
  · exact Or.inr hfails

/-- **Tracing changes nothing but what is said.** A traced command does to files what an
untraced one does and ends in the same way. Where it runs an image, its text stands
between what is said before the run and the conclusion; where it does not, nothing
is added. -/
theorem perform_run_traced (settings : Settings) (path : String) (options : RunOptions)
    (directory : Directory) :
    let traced := (run settings path options).perform directory
    let untraced := (run { settings with trace := false } path
      { options with trace := false }).perform directory
    let budget := budgetOf settings options
    traced.fault = untraced.fault ∧ traced.exitCode = untraced.exitCode ∧
      traced.directory = untraced.directory ∧
      ((traced = untraced ∧ untraced.fault ≠ none ∧
          untraced.fault ≠ some (.notHalted budget)) ∨
        ∃ image machine opening, Machine.load image = .ok machine ∧
          let ended := (conclusion options budget (machine.run budget.toNat)).perform directory
          untraced = ended.saying opening ∧
          traced = (ended.saying
            (if options.trace || settings.trace then traceText budget machine else "")).saying
              opening) := by
  intro traced untraced budget
  rcases perform_run path options directory with
    ⟨opening, image, machine, hload, hrun⟩ | ⟨opening, fault, hother, hfails⟩
  · let ended := (conclusion options budget (machine.run budget.toNat)).perform directory
    have htraced : traced = (ended.saying
        (if options.trace || settings.trace then traceText budget machine else "")).saying
          opening :=
      hrun settings options.trace
    have huntraced : untraced = ended.saying opening := by
      have hplain : untraced = (ended.saying "").saying opening :=
        hrun { settings with trace := false } false
      rw [hplain, Outcome.saying_empty]
    -- what is said has no part in how a command ends
    have hfault : traced.fault = untraced.fault := by rw [htraced, huntraced]; rfl
    have hdirectory : traced.directory = untraced.directory := by rw [htraced, huntraced]; rfl
    have hcode : traced.exitCode = untraced.exitCode := by
      unfold Outcome.exitCode
      rw [hfault]
    exact ⟨hfault, hcode, hdirectory,
      Or.inr ⟨image, machine, opening, hload, huntraced, htraced⟩⟩
  · have htraced : traced = _ := hfails settings options.trace
    have huntraced : untraced = _ := hfails { settings with trace := false } false
    have hsame : traced = untraced := htraced.trans huntraced.symm
    have hfault : untraced.fault = some fault := congrArg Outcome.fault huntraced
    refine ⟨congrArg _ hsame, congrArg _ hsame, congrArg _ hsame, Or.inl ⟨hsame, ?_, ?_⟩⟩
    · rw [hfault]
      exact Option.some_ne_none fault
    · rw [hfault]
      exact fun heq => hother budget (Option.some.inj heq)

/-- **A run is the same run, however it is followed.** It goes on for the least
number of ticks that are all that it may take or after which the machine has
halted, its states are those after each of these ticks, and it can be broken off
and taken up again. A traced run ends at the same machine, and shows the loaded one
and then what the journal says of the run. So a traced command does to files what
an untraced one does and ends in the same way; and what it says is the same but
for that text, which stands before the printout and the listing of memory. -/
theorem run_same_when_traced :
    (∀ (machine : Machine) (n : Nat), ∃ ticks,
      IsLeast {i | i = n ∨ (machine.after i).isHalted = true} ticks ∧
      machine.run n = machine.after ticks ∧ machine.runStates n = machine.following ticks ∧
      ((machine.run n).isHalted = false → ticks = n) ∧
      (machine.cycles.toNat + n < UInt64.size →
        (machine.run n).cycles.toNat = machine.cycles.toNat + ticks)) ∧
    (∀ (machine : Machine) (n : Nat),
      machine.following n = (List.range n).map fun i => machine.after (i + 1)) ∧
    (∀ (machine : Machine) (m n : Nat), (machine.run m).run n = machine.run (m + n)) ∧
    (∀ (image : List Word) (machine : Machine) (budget : UInt64),
      Machine.load image = .ok machine →
      follow true budget machine =
        (Listing.ofRows
          (machine.display :: (machine.journal budget.toNat).map JournalEntry.message),
          machine.run budget.toNat) ∧
      follow false budget machine = ("", machine.run budget.toNat)) ∧
    ∀ (settings : Settings) (path : String) (options : RunOptions) (directory : Directory),
      let traced := (run settings path options).perform directory
      let untraced := (run { settings with trace := false } path
        { options with trace := false }).perform directory
      let budget := budgetOf settings options
      traced.fault = untraced.fault ∧ traced.exitCode = untraced.exitCode ∧
        traced.directory = untraced.directory ∧
        ((traced = untraced ∧ untraced.fault ≠ none ∧
            untraced.fault ≠ some (.notHalted budget)) ∨
          ∃ image machine opening, Machine.load image = .ok machine ∧
            let ended := (conclusion options budget (machine.run budget.toNat)).perform directory
            untraced = ended.saying opening ∧
            traced = (ended.saying
              (if options.trace || settings.trace then traceText budget machine else "")).saying
                opening) := by
  refine ⟨fun machine n => ?_, Machine.following_eq, Machine.run_add,
    fun image machine budget hload => ?_, perform_run_traced⟩
  · obtain ⟨ticks, hleast, hrun, hstates⟩ := machine.exists_run_eq_after n
    refine ⟨ticks, hleast, hrun, hstates, fun hrunning => ?_, fun hsize => ?_⟩
    · rw [hrun] at hrunning
      exact hleast.1.resolve_right (by rw [hrunning]; exact Bool.false_ne_true)
    · have hle : ticks ≤ n := hleast.2 (Or.inl rfl)
      rw [hrun, Machine.toNat_cycles_after (by omega)]
  · exact ⟨follow_eq (Machine.cycles_of_load hload) true budget, rfl⟩

/-- A jump to itself comes to rest on the fourth tick. A budget of four is just
enough for it and one of three is not, traced or not. -/
theorem run_same_when_traced_lastTick :
    let image : List Word := [160]
    ∃ machine, Machine.load image = .ok machine ∧ machine.cycles.toNat + 4 < UInt64.size ∧
      (follow true 4 machine).2 = machine.run 4 ∧ (machine.run 4).isHalted = true ∧
      (machine.run 4).cycles.toNat = 4 ∧ (follow true 3 machine).2 = machine.run 3 ∧
      (machine.run 3).isHalted = false ∧ (machine.run 3).cycles.toNat = 3 := by
  intro image
  let machine : Machine := { Machine.initial with memory := .ofImage image }
  have hload : Machine.load image = .ok machine := rfl
  have hsize : machine.cycles.toNat + 4 < UInt64.size := by decide
  have hhalted : (machine.run 4).isHalted = true := by decide +kernel
  have hrunning : (machine.run 3).isHalted = false := by decide +kernel
  obtain ⟨hruns, -, -, hfollow, -⟩ := run_same_when_traced
  obtain ⟨three, -, -, -, hall, hcount⟩ := hruns machine 3
  -- a run that has not halted took all its ticks
  have hthree : three = 3 := hall hrunning
  exact ⟨machine, hload, hsize, congrArg Prod.snd (hfollow image machine 4 hload).1,
    hhalted, by decide +kernel,
    congrArg Prod.snd (hfollow image machine 3 hload).1, hrunning,
    (hcount (by decide)).trans (by rw [hthree]; rfl)⟩

end Session

end AccumulatorMachine
