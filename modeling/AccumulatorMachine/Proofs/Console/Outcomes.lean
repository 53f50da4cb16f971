import AccumulatorMachine.Proofs.Console.Arguments
import AccumulatorMachine.Proofs.Console.Images

/-!
# What commands leave behind

Only compiling writes a file. The other dialogues say texts and read files, however
they go on (`Dialogue.ReadOnly`), and leave the directory as it was; and compiling
writes last, so that whatever goes wrong before, or with the file itself, leaves it as it
was, too. What a compiled source file leaves behind is the one file that its image is
written to, `ImageTarget`.

A run ends well exactly if there is an image to run (`Directory.HasImage`), it loads, and
the machine halts within the ticks that the run may take (`Session.fault_run_eq_none_iff`).
`Session.answer_leaves` says both of whole sessions.
-/

namespace AccumulatorMachine

/-! ## Dialogues that write nothing -/

/-- **A dialogue that writes no file**, whatever it is answered. -/
inductive Dialogue.ReadOnly : Dialogue → Prop
  /-- A text is said first. -/
  | say (text : String) {next : Dialogue} (hnext : ReadOnly next) : ReadOnly (.say text next)
  /-- A file is read first. -/
  | read (path : String) {next : Except FileFault (List UInt8) → Dialogue}
    (hnext : ∀ answer, ReadOnly (next answer)) : ReadOnly (.read path next)
  /-- It is at its end. -/
  | finish (fault : Option CommandFault) : ReadOnly (.finish fault)

namespace Dialogue

/-- **Such a dialogue leaves every file as it was.** -/
theorem ReadOnly.directory_eq {dialogue : Dialogue} (h : dialogue.ReadOnly)
    (directory : Directory) : (dialogue.perform directory).directory = directory := by
  induction h with
  | say text _ ih => exact ih
  | read path _ ih => exact ih (directory.read path)
  | finish => rfl

/-- A dialogue that asks nothing of the files writes none. -/
theorem Settled.readOnly {dialogue : Dialogue} (h : dialogue.Settled) : dialogue.ReadOnly := by
  induction h with
  | say text _ ih => exact .say text ih
  | finish fault => exact .finish fault

end Dialogue

namespace Session

/-- Status lines write nothing. -/
theorem readOnly_status {next : Dialogue} (h : next.ReadOnly) (style : ListingStyle)
    (word about : String) : (status style word about next).ReadOnly := by
  unfold status
  split
  · exact h
  · exact .say _ h

/-- Assembling a file writes nothing, if what comes behind it does not. -/
theorem readOnly_assembleFile {next : Assembly → Dialogue}
    (h : ∀ assembly, (next assembly).ReadOnly) (path : String) :
    (assembleFile path next).ReadOnly := by
  refine .read path fun answer => ?_
  cases answer with
  | error fault => exact .finish _
  | ok content =>
    dsimp only
    split
    · exact .finish _
    · exact h _

/-- Running a file writes nothing. -/
theorem readOnly_run (settings : Settings) (path : String) (options : RunOptions) :
    (run settings path options).ReadOnly := by
  have himage := fun image => (settled_runImage settings options image).readOnly
  unfold run
  dsimp only
  split
  · exact .finish _
  · split
    · refine readOnly_status (.read path fun answer => ?_) _ _ _
      cases answer with
      | error fault => exact .finish _
      | ok image => exact himage image
    · split
      · exact readOnly_status (readOnly_assembleFile (fun assembly => himage assembly.words) path)
          _ _ _
      · exact .finish _

/-- **Only compiling writes.** -/
theorem readOnly_ofRequest (settings : Settings) {request : Request}
    (h : ∀ path destination, request ≠ .command (.compile path destination)) :
    (ofRequest settings request).ReadOnly := by
  have hdone : done.ReadOnly := .finish none
  cases request with
  | banner | version => exact .say _ hdone
  | help topic => cases topic <;> exact .say _ hdone
  | command command =>
    cases command with
    | run path options => exact readOnly_run settings path options
    | compile path destination => exact absurd rfl (h path destination)
    | check path =>
      have hsuccess := readOnly_status hdone (styleOf false) "Success" "no errors found!"
      exact readOnly_status (readOnly_assembleFile (fun _ => hsuccess) path) (styleOf false)
        "Checking" ("target " ++ path)
    | dump path minimal =>
      refine readOnly_assembleFile (fun assembly => .say _ ?_) path
      split
      · exact hdone
      · exact readOnly_status (.say _ hdone) _ _ _
    | watch path =>
      refine .read path fun answer => ?_
      split
      iterate 3 exact .finish _
      exact .say _ (readOnly_status (readOnly_status hdone _ _ _) _ _ _)

/-! ## Compiling -/

/-- **Compiling that ends badly** leaves every file as it was. -/
theorem directory_compile_of_fault {path : String} {destination : Option String}
    {directory : Directory} (h : ((compile path destination).perform directory).fault ≠ none) :
    ((compile path destination).perform directory).directory = directory := by
  unfold compile at h ⊢
  dsimp only at h ⊢
  rw [perform_fileStatus, perform_assembleFile] at h ⊢
  cases hassembled : assembled directory path with
  | error fault => rfl
  | ok assembly =>
    rw [hassembled] at h
    cases hwrite : directory.write (destination.getD (Path.withExtension path "bin"))
      assembly.words with
    | error fault => simp only [Dialogue.perform, hwrite, fail, Outcome.saying]
    | ok written =>
      simp [Outcome.saying, Dialogue.perform, fileStatus, perform_status, done, hwrite] at h

/-- **The file that the image of a source file is written to**: the one that is given, or
else one with the name of the source file and the extension of images, in place of its own
or, if it has none, behind it. -/
inductive ImageTarget (path : String) : Option String → String → Prop
  /-- The file is given. -/
  | given (target : String) : ImageTarget path (some target) target
  /-- The source file has an extension. -/
  | replaced {stem extension : String} (hextension : Path.extension? path = some extension)
    (hpath : path = stem ++ ("." ++ extension)) : ImageTarget path none (stem ++ ".bin")
  /-- The source file has none. -/
  | added (hextension : Path.extension? path = none) : ImageTarget path none (path ++ ".bin")

/-- The image is written there, once it can be written. -/
theorem imageTarget_of_write {path : String} {destination : Option String}
    {directory written : Directory} {content : List UInt8} {image : List Word}
    (hread : directory.read path = .ok content)
    (hwrite : directory.write (destination.getD (Path.withExtension path "bin")) image
      = .ok written) :
    ImageTarget path destination (destination.getD (Path.withExtension path "bin")) := by
  cases destination with
  | some target => exact .given target
  | none =>
    rw [Option.getD_none] at hwrite ⊢
    cases hextension : Path.extension? path with
    | some extension =>
      obtain ⟨around, stem, -, hname, htarget⟩ := exists_namesFile_of_write hextension hread hwrite
      rw [show Path.withExtension path "bin" = _ ++ ".bin" from htarget.eq_append]
      exact .replaced hextension hname.eq_append
    | none =>
      have hadded : Path.withExtension path "bin" = path ++ ".bin" := by
        unfold Path.extension? at hextension
        unfold Path.withExtension
        cases hsplit : (Path.fileName? path).bind Path.splitName? with
        | some parts => rw [hsplit] at hextension; exact absurd hextension (by simp)
        | none => exact String.append_assoc
      rw [hadded]
      exact .added hextension

/-- **A compiled source file** leaves every file as it was but the one that its image is
written to, which holds the words that it assembled to. -/
theorem compile_leaves {path : String} {destination : Option String} {directory : Directory}
    (h : ((compile path destination).perform directory).fault = none) :
    ∃ content source assembly target folder name, directory.read path = .ok content ∧
      text? content = some source ∧ Assembly.ofSource source = .ok assembly ∧
      ImageTarget path destination target ∧ directory.LeadsTo target folder name ∧
      (∀ file, ((compile path destination).perform directory).directory.file? file =
        if file = Directory.join (folder ++ [name]) then some assembly.words
        else directory.file? file) ∧
      ((compile path destination).perform directory).directory.read target
        = .ok assembly.words := by
  obtain ⟨assembly, hassembled, hwrite⟩ := fault_compile_eq_none_iff.mp h
  obtain ⟨content, source, hread, htext, hassembly⟩ := assembled_eq_ok_iff.mp hassembled
  obtain ⟨folder, name, hleads, hstored⟩ := Directory.exists_leadsTo_of_write hwrite
  refine ⟨content, source, assembly, _, folder, name, hread, htext, hassembly,
    imageTarget_of_write hread hwrite, hleads, fun file => ?_, Directory.read_of_write hwrite⟩
  rw [hstored, Directory.file?_store]

end Session

/-! ## Running -/

/-- **A file has an image to run**: it is one, or it is a source file that assembles. -/
def Directory.HasImage (directory : Directory) (path : String) (image : List Word) : Prop :=
  (Path.extension? path = some "bin" ∧ directory.read path = .ok image) ∨
    (Path.extension? path = some "asm" ∧ ∃ content source assembly,
      directory.read path = .ok content ∧ Session.text? content = some source ∧
      Assembly.ofSource source = .ok assembly ∧ assembly.words = image)

namespace Session

variable {settings : Settings} {path : String} {options : RunOptions} {directory : Directory}
  {image : List Word} {machine : Machine}

/-- The image of a source file is what it assembles to. -/
theorem hasImage_of_assembled (hpath : Path.extension? path = some "asm") {assembly : Assembly}
    (h : assembled directory path = .ok assembly) : directory.HasImage path assembly.words := by
  obtain ⟨content, source, hread, htext, hassembly⟩ := assembled_eq_ok_iff.mp h
  exact Or.inr ⟨hpath, content, source, assembly, hread, htext, hassembly, rfl⟩

/-- A file with an image is run by running the image. -/
theorem exists_perform_run_of_hasImage (h : directory.HasImage path image) (settings : Settings)
    (options : RunOptions) :
    ∃ said, (run settings path options).perform directory
      = ((runImage settings options image).perform directory).saying said := by
  rcases h with ⟨hpath, hread⟩ | ⟨hpath, content, source, assembly, hread, htext, hassembly, rfl⟩
  · exact ⟨_, perform_run_image hpath settings options hread⟩
  · rw [perform_run_source hpath,
      assembled_eq_ok_iff.mpr ⟨content, source, hread, htext, hassembly⟩]
    exact ⟨_, rfl⟩

/-- What is said behind a run ends with the line about its end. -/
theorem exists_perform_conclusion (options : RunOptions) (budget : UInt64) (machine : Machine)
    (directory : Directory) :
    ∃ said, (conclusion options budget machine).perform directory
      = ((sayEnd (styleOf options.minimal) budget machine).perform directory).saying said := by
  unfold conclusion sayPrintout
  dsimp only
  split
  · exact ⟨_, Outcome.saying_saying _ _ _⟩
  · split
    · exact ⟨_, rfl⟩
    · rw [perform_status]
      exact ⟨_, (congrArg _ (Outcome.saying_saying _ _ _)).trans (Outcome.saying_saying _ _ _)⟩

/-- **Whatever a run has to say**, what is left of it is how the machine is when it ends. -/
theorem exists_perform_run (h : directory.HasImage path image)
    (hload : Machine.load image = .ok machine) (settings : Settings) (options : RunOptions) :
    let budget := budgetOf settings options
    ∃ said, (run settings path options).perform directory =
      ((sayEnd (styleOf options.minimal) budget (machine.run budget.toNat)).perform
        directory).saying said := by
  intro budget
  obtain ⟨opening, hrun⟩ := exists_perform_run_of_hasImage h settings options
  obtain ⟨shown, hconclusion⟩ :=
    exists_perform_conclusion options budget (machine.run budget.toNat) directory
  rw [hrun, perform_runImage hload]
  dsimp only
  rw [hconclusion, Outcome.saying_saying, Outcome.saying_saying, Outcome.saying_saying]
  exact ⟨_, rfl⟩

/-- **A file without an image cannot be run.** -/
theorem fault_run_ne_none (h : ∀ image, ¬ directory.HasImage path image) :
    ((run settings path options).perform directory).fault ≠ none := by
  cases hpath : Path.extension? path with
  | none =>
    unfold run
    rw [hpath]
    exact Option.some_ne_none _
  | some extension =>
    by_cases hbin : extension = "bin"
    · subst hbin
      unfold run
      rw [hpath]
      dsimp only
      rw [if_pos rfl, perform_fileStatus, Dialogue.perform]
      cases hread : directory.read path with
      | error fault => exact Option.some_ne_none _
      | ok image => exact absurd (Or.inl ⟨hpath, hread⟩) (h image)
    by_cases hasm : extension = "asm"
    · subst hasm
      rw [perform_run_source hpath]
      cases hassembled : assembled directory path with
      | error fault => exact Option.some_ne_none _
      | ok assembly => exact absurd (hasImage_of_assembled hpath hassembled) (h assembly.words)
    · unfold run
      rw [hpath]
      dsimp only
      rw [if_neg hbin, if_neg hasm]
      exact Option.some_ne_none _

/-- The last thing a run does is to tell whether the machine has halted. -/
theorem fault_run_of_hasImage (himage : directory.HasImage path image)
    (hload : Machine.load image = .ok machine) :
    ((run settings path options).perform directory).fault =
      if (machine.run (budgetOf settings options).toNat).isHalted then none
      else some (.notHalted (budgetOf settings options)) := by
  obtain ⟨said, hrun⟩ := exists_perform_run himage hload settings options
  rw [hrun]
  unfold sayEnd
  split <;> rw [perform_status] <;> rfl

/-- **A run ends well** exactly if there is an image, it loads, and the machine halts
within the ticks that the run may take. -/
theorem fault_run_eq_none_iff :
    ((run settings path options).perform directory).fault = none ↔
      ∃ image machine, directory.HasImage path image ∧ Machine.load image = .ok machine ∧
        ∃ ticks ≤ (budgetOf settings options).toNat, (machine.after ticks).isHalted = true := by
  constructor
  · intro hfault
    obtain ⟨image, himage⟩ : ∃ image, directory.HasImage path image :=
      not_forall_not.mp fun hnone => fault_run_ne_none hnone hfault
    cases hload : Machine.load image with
    | error fault =>
      obtain ⟨said, hrun⟩ := exists_perform_run_of_hasImage himage settings options
      unfold runImage at hrun
      rw [hrun, hload] at hfault
      exact absurd hfault (Option.some_ne_none _)
    | ok machine =>
      rw [fault_run_of_hasImage himage hload] at hfault
      split at hfault
      · next hhalts => exact ⟨image, machine, himage, hload, Machine.isHalted_run_iff.mp hhalts⟩
      · exact absurd hfault (Option.some_ne_none _)
  · rintro ⟨image, machine, himage, hload, hhalts⟩
    rw [fault_run_of_hasImage himage hload, if_pos (Machine.isHalted_run_iff.mpr hhalts)]

/-- **A run that is broken off** tells the ticks that it might take, and those are the
ticks that the machine has counted. -/
theorem run_of_running (himage : directory.HasImage path image)
    (hload : Machine.load image = .ok machine)
    (hrunning : ∀ ticks ≤ (budgetOf settings options).toNat,
      (machine.after ticks).isHalted = false) :
    let budget := budgetOf settings options
    let outcome := (run settings path options).perform directory
    outcome.fault = some (.notHalted budget) ∧
      (follow (options.trace || settings.trace) budget machine).2.cycles = budget ∧
      ∃ said, outcome.output = said ++ if options.minimal then ""
        else statusLine "Stopped" ("no halt after " ++ count budget.toNat "cycles") := by
  intro budget outcome
  have hend : (machine.run budget.toNat).isHalted = false := by
    refine Bool.eq_false_iff.mpr fun hhalts => ?_
    obtain ⟨ticks, hticks, hhalts⟩ := Machine.isHalted_run_iff.mp hhalts
    exact absurd (hrunning ticks hticks) (by rw [hhalts]; decide)
  have hzero : machine.cycles = 0 := Machine.cycles_of_load hload
  have hcycles : (machine.run budget.toNat).cycles = budget :=
    Machine.cycles_run_of_running hzero hend
  refine ⟨?_, ?_, ?_⟩
  · show ((run settings path options).perform directory).fault = _
    rw [fault_run_of_hasImage himage hload, if_neg (by rw [hend]; decide)]
  · rw [follow_eq hzero]
    exact hcycles
  · obtain ⟨said, hrun⟩ := exists_perform_run himage hload settings options
    refine ⟨said, ?_⟩
    show ((run settings path options).perform directory).output = _
    rw [hrun]
    unfold sayEnd
    rw [if_neg (by rw [hend]; decide), perform_status, hcycles]
    show said ++ ((if options.minimal then "" else _) ++ "") = _
    rw [String.append_empty]

/-! ## Sessions -/

/-- **What sessions leave behind.** Whatever the arguments ask for, a session that ends
with a fault leaves every file as it was, and so does one that asks for anything but to
compile. One that compiles without a fault leaves every file as it was but the one that
the image is written to, which is named by the arguments or after the source file and
holds the words that the source file, as it was read, assembles to. One that runs a file
ends well exactly if the file has an image to run, the image loads, and the machine halts
within the ticks that the arguments give it or else the environment; and if it does not
halt, the fault names those ticks, and they are the ticks that the machine has counted.
A path alone asks for the same as the command to run it, and the ticks are given behind
the path. -/
theorem answer_leaves :
    (∀ (arguments : List String) (request : Request),
      Request.ofArguments arguments = .ok request →
      ∀ (environment : Variables) (directory : Directory), ∃ outcome,
        answer arguments environment directory = .ok outcome ∧
        ((outcome.exitCode ≠ 0 ∨
            ∀ path destination, request ≠ .command (.compile path destination)) →
          outcome.directory = directory) ∧
        (∀ path destination, request = .command (.compile path destination) →
          outcome.exitCode = 0 →
          ∃ content source assembly target folder name, directory.read path = .ok content ∧
            text? content = some source ∧ Assembly.ofSource source = .ok assembly ∧
            ImageTarget path destination target ∧ directory.LeadsTo target folder name ∧
            (∀ file, outcome.directory.file? file =
              if file = Directory.join (folder ++ [name]) then some assembly.words
              else directory.file? file) ∧
            outcome.directory.read target = .ok assembly.words) ∧
        ∀ path options, request = .command (.run path options) →
          let budget := options.cycles.getD environment.settings.maxCycles
          (outcome.exitCode = 0 ↔
            ∃ image machine, directory.HasImage path image ∧ Machine.load image = .ok machine ∧
              ∃ ticks ≤ budget.toNat, (machine.after ticks).isHalted = true) ∧
          ∀ image machine, directory.HasImage path image → Machine.load image = .ok machine →
            (∀ ticks ≤ budget.toNat, (machine.after ticks).isHalted = false) →
            outcome.fault = some (.notHalted budget) ∧
              (CommandFault.notHalted budget).message
                = "Program did not halt within " ++ Text.decimal budget.toNat ++ " cycles" ∧
              (follow (options.trace || environment.settings.trace) budget machine).2.cycles
                = budget ∧
              ∃ said, outcome.output = said ++ if options.minimal then ""
                else statusLine "Stopped" ("no halt after " ++ count budget.toNat "cycles")) ∧
    ∀ path : String, path ≠ "" → path.toList.head? ≠ some '-' →
      (Topic.ofName? path = none → Request.ofArguments [path] = .ok (.command (.run path {}))) ∧
      Request.ofArguments ["run", path] = .ok (.command (.run path {})) ∧
      ∀ (value : String) (n : Nat),
        Text.readSignedDecimal Variables.maxCyclesLimit value.toList = .ok n →
        Request.ofArguments ["run", path, "--cycles", value]
          = .ok (.command (.run path { cycles := some (UInt64.ofNat n) })) := by
  constructor
  · intro arguments request hrequest environment directory
    refine ⟨(ofRequest environment.settings request).perform directory, ?_, ?_, ?_, ?_⟩
    · unfold answer
      rw [hrequest]
      rfl
    · by_cases hcompile : ∃ path destination, request = .command (.compile path destination)
      · obtain ⟨path, destination, rfl⟩ := hcompile
        rintro (hcode | hother)
        · exact directory_compile_of_fault (mt Outcome.exitCode_eq_zero_iff.mpr hcode)
        · exact absurd rfl (hother path destination)
      · refine fun _ => (readOnly_ofRequest environment.settings ?_).directory_eq directory
        exact fun path destination heq => hcompile ⟨path, destination, heq⟩
    · rintro path destination rfl hcode
      exact compile_leaves (Outcome.exitCode_eq_zero_iff.mp hcode)
    · rintro path options rfl budget
      refine ⟨Outcome.exitCode_eq_zero_iff.trans fault_run_eq_none_iff, ?_⟩
      intro image machine himage hload hrunning
      obtain ⟨hfault, hcycles, houtput⟩ := run_of_running himage hload hrunning
      exact ⟨hfault, rfl, hcycles, houtput⟩
  · intro path hempty hdash
    exact ⟨Request.ofArguments_path hempty hdash, Request.ofArguments_run hempty hdash,
      fun value n => Request.ofArguments_run_cycles hempty hdash⟩

/-- A program that prints a letter and comes to rest on the eleventh tick. Compiling it
adds its image and keeps the other files, a path alone runs it in the ticks of the
environment, one tick less is one too few, and nothing comes of a source file that lacks an
operand. -/
theorem answer_leaves_letter :
    let environment : Variables := ⟨some "11", none⟩
    let directory : Directory :=
      ⟨[("letter.asm", [76, 68, 32, 91, 99, 93, 10, 79, 85, 84, 10, 101, 110, 100, 58, 32, 74,
        77, 80, 32, 91, 101, 110, 100, 93, 10, 99, 58, 32, 68, 66, 32, 54, 53]),
        ("bare.asm", [74, 77, 80])]⟩
    let session := fun arguments => answer arguments environment directory
    (∃ compiled, session ["compile", "letter.asm"] = .ok compiled ∧
      compiled.directory.file? "letter.bin" = some [35, 224, 162, 65] ∧
      ∀ file, file ≠ "letter.bin" → compiled.directory.file? file = directory.file? file) ∧
    (∃ rested, session ["letter.asm"] = .ok rested ∧ rested.exitCode = 0 ∧
      rested.directory = directory) ∧
    (∃ stopped, session ["run", "letter.asm", "--cycles", "10"] = .ok stopped ∧
      stopped.fault = some (.notHalted 10) ∧ stopped.directory = directory) ∧
    ∃ failed, session ["compile", "bare.asm", "letter.asm"] = .ok failed ∧ failed.exitCode = 1 ∧
      failed.directory = directory := by
  intro environment directory session
  obtain ⟨hsessions, hways⟩ := answer_leaves
  have hletterPath : "letter.asm".toList.head? ≠ some '-' := by decide
  obtain ⟨halone, -, hwithin⟩ := hways "letter.asm" (by decide) hletterPath
  have hplain : Request.ofArguments ["letter.asm"] = .ok (.command (.run "letter.asm" {})) :=
    halone (by decide)
  have hten : Request.ofArguments ["run", "letter.asm", "--cycles", "10"]
      = .ok (.command (.run "letter.asm" { cycles := some 10 })) := hwithin "10" 10 (by decide)
  let machine : Machine :=
    { Machine.initial with memory := .ofImage [35, 224, 162, 65] }
  have hload : Machine.load [35, 224, 162, 65] = .ok machine := rfl
  have himage : directory.HasImage "letter.asm" [35, 224, 162, 65] := by
    obtain ⟨assembly, hassembled, hwords⟩ : ∃ assembly,
        assembled directory "letter.asm" = .ok assembly ∧ assembly.words = [35, 224, 162, 65] :=
      map_eq_ok_iff.mp (by decide +kernel)
    exact hwords ▸ hasImage_of_assembled (by decide +kernel) hassembled
  refine ⟨?_, ?_, ?_, ?_⟩
  · obtain ⟨compiled, hanswer, -, hcompiled, -⟩ := hsessions ["compile", "letter.asm"]
      (.command (.compile "letter.asm" none)) (by decide +kernel) environment directory
    have hends : (session ["compile", "letter.asm"]).map
        (fun outcome => (outcome.exitCode, outcome.directory.file? "letter.bin"))
          = .ok (0, some [35, 224, 162, 65]) := by decide +kernel
    rw [show session _ = _ from hanswer] at hends
    obtain ⟨hcode, hwritten⟩ := Prod.mk.inj (Except.ok.inj hends)
    obtain ⟨_, _, assembly, _, folder, name, -, -, -, -, -, hfiles, -⟩ :=
      hcompiled _ _ rfl hcode
    -- there was no such file, and so it is the one that was written
    have hplace : "letter.bin" = Directory.join (folder ++ [name]) := by
      by_contra hne
      have hold := (hfiles "letter.bin").symm.trans hwritten
      rw [if_neg hne] at hold
      exact absurd hold (by decide +kernel)
    refine ⟨compiled, hanswer, hwritten, fun file hfile => ?_⟩
    rw [hfiles file, if_neg (hplace ▸ hfile)]
  · obtain ⟨rested, hanswer, hkept, -, hruns⟩ := hsessions _ _ hplain environment directory
    exact ⟨rested, hanswer, (hruns _ _ rfl).1.mpr ⟨_, _, himage, hload, 11, by decide +kernel,
      by decide +kernel⟩, hkept (Or.inr fun _ _ => nofun)⟩
  · obtain ⟨stopped, hanswer, hkept, -, hruns⟩ := hsessions _ _ hten environment directory
    exact ⟨stopped, hanswer, ((hruns _ _ rfl).2 _ _ himage hload (by decide +kernel)).1,
      hkept (Or.inr fun _ _ => nofun)⟩
  · obtain ⟨failed, hanswer, hkept, -, -⟩ := hsessions ["compile", "bare.asm", "letter.asm"]
      (.command (.compile "bare.asm" (some "letter.asm"))) (by decide +kernel) environment directory
    have hends : (session ["compile", "bare.asm", "letter.asm"]).map Outcome.exitCode = .ok 1 := by
      decide +kernel
    rw [show session _ = _ from hanswer] at hends
    have hcode : failed.exitCode = 1 := Except.ok.inj hends
    exact ⟨failed, hanswer, hcode, hkept (Or.inl (by rw [hcode]; decide))⟩

end Session

end AccumulatorMachine
