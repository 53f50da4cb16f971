import AccumulatorMachine.Proofs.Console.Directory
import AccumulatorMachine.Proofs.Console.Tracing
import AccumulatorMachine.Proofs.Program.Capacity

/-!
# Programs and their images

A program can be run from its source text, or compiled into an image and run from
that. Between the two lie a file that is written and read again and a second
question about sizes, when the image is loaded. The file is found where it was
left, beside the source text (`Directory.read_of_write`), and the question is never
answered with no, since what assembles has no more words than memory holds
(`Assembly.length_words_le`).

From then on both are the run of one image, which asks nothing of the files
(`Session.settled_runImage`). So they say the same behind the line that tells what
is done with the file, and end in the same way: `Session.run_compiled`.
-/

namespace AccumulatorMachine

/-! ## Dialogues without files -/

/-- **A dialogue that asks nothing of the files**: it says texts and ends. -/
inductive Dialogue.Settled : Dialogue → Prop
  /-- A text is said first. -/
  | say (text : String) {next : Dialogue} : Settled next → Settled (.say text next)
  /-- It is at its end. -/
  | finish (fault : Option CommandFault) : Settled (.finish fault)

/-- Such a dialogue goes the same way in every directory and leaves it alone. -/
theorem Dialogue.Settled.perform_eq {dialogue : Dialogue} (h : dialogue.Settled)
    (directory other : Directory) :
    dialogue.perform directory = { dialogue.perform other with directory := directory } := by
  induction h with
  | say text _ ih =>
    show (Dialogue.perform directory _).saying text = _
    rw [ih]
    rfl
  | finish fault => rfl

/-- A command succeeds if it ends without a fault. -/
theorem Outcome.exitCode_eq_zero_iff {outcome : Outcome} :
    outcome.exitCode = 0 ↔ outcome.fault = none := by
  unfold exitCode
  cases outcome.fault <;> simp

namespace Session

/-- Status lines are only said. -/
theorem settled_status {next : Dialogue} (h : next.Settled) (style : ListingStyle)
    (word about : String) : (status style word about next).Settled := by
  unfold status
  split
  · exact h
  · exact .say _ h

/-- The end of a run is only told. -/
theorem settled_sayEnd (style : ListingStyle) (budget : UInt64) (machine : Machine) :
    (sayEnd style budget machine).Settled := by
  unfold sayEnd
  split
  · exact settled_status (.finish none) _ _ _
  · exact settled_status (.finish _) _ _ _

/-- The printout is only shown. -/
theorem settled_sayPrintout {next : Dialogue} (h : next.Settled) (style : ListingStyle)
    (paper : List UInt8) : (sayPrintout style paper next).Settled := by
  unfold sayPrintout
  split
  · exact .say _ h
  · split
    · exact h
    · exact settled_status (.say _ h) _ _ _

/-- **The run of an image asks nothing of the files.** -/
theorem settled_runImage (settings : Settings) (options : RunOptions) (image : List Word) :
    (runImage settings options image).Settled := by
  unfold runImage
  split
  · exact .finish _
  · exact settled_status
      (.say _ (settled_sayPrintout (.say _ (settled_sayEnd _ _ _)) _ _)) _ _ _

/-! ## Commands about a source file -/

/-- What is said of a file before anything is done with it. -/
def opening (minimal : Bool) (word path : String) : String :=
  if minimal then "" else statusLine word ("target " ++ path)

/-- The line about a file is said before what follows. -/
theorem perform_fileStatus (minimal : Bool) (word path : String) (next : Dialogue)
    (directory : Directory) :
    (fileStatus (styleOf minimal) word path next).perform directory
      = (next.perform directory).saying (opening minimal word path) :=
  perform_status (styleOf minimal) word ("target " ++ path) next directory

/-- **The assembly of a source file**, or the reason why it has none. -/
def assembled (directory : Directory) (path : String) : Except CommandFault Assembly :=
  match directory.read path with
  | .error fault => .error (.file fault)
  | .ok content => assembleContent content

/-- What has an assembly is a file that can be read, and a text that assembles. -/
theorem assembled_eq_ok_iff {directory : Directory} {path : String} {assembly : Assembly} :
    assembled directory path = .ok assembly ↔
      ∃ content source, directory.read path = .ok content ∧ text? content = some source ∧
        Assembly.ofSource source = .ok assembly := by
  unfold assembled assembleContent
  cases directory.read path with
  | error fault => simp
  | ok content =>
    cases htext : text? content with
    | none => simp [htext]
    | some source => cases hassembly : Assembly.ofSource source <;> simp [htext, hassembly]

/-- A command goes on with the assembly of a file, or ends with the reason why there
is none. -/
theorem perform_assembleFile (path : String) (next : Assembly → Dialogue)
    (directory : Directory) :
    (assembleFile path next).perform directory =
      match assembled directory path with
      | .error fault => ⟨"", some fault, directory⟩
      | .ok assembly => (next assembly).perform directory := by
  unfold assembleFile assembled
  rw [Dialogue.perform]
  cases directory.read path with
  | error fault => rfl
  | ok content =>
    dsimp only
    cases assembleContent content <;> rfl

/-- **Running a source file** is running the words of its assembly. -/
theorem perform_run_source {path : String} (hpath : Path.extension? path = some "asm")
    (settings : Settings) (options : RunOptions) (directory : Directory) :
    (run settings path options).perform directory =
      (match assembled directory path with
        | .error fault => (⟨"", some fault, directory⟩ : Outcome)
        | .ok assembly => (runImage settings options assembly.words).perform directory).saying
          (opening options.minimal "Assembling" path) := by
  unfold run
  rw [hpath]
  dsimp only
  rw [if_neg (by decide), if_pos rfl, perform_fileStatus, perform_assembleFile]

/-- **Running an image** is running the bytes of the file. -/
theorem perform_run_image {path : String} (hpath : Path.extension? path = some "bin")
    (settings : Settings) (options : RunOptions) {directory : Directory} {image : List Word}
    (h : directory.read path = .ok image) :
    (run settings path options).perform directory
      = ((runImage settings options image).perform directory).saying
          (opening options.minimal "Loading" path) := by
  unfold run
  rw [hpath]
  dsimp only
  rw [if_pos rfl, perform_fileStatus, Dialogue.perform, h]

/-- **A source file is compiled** if it has an assembly whose words can be written,
and that is what is written. -/
theorem fault_compile_eq_none_iff {path : String} {destination : Option String}
    {directory : Directory} :
    ((compile path destination).perform directory).fault = none ↔
      ∃ assembly, assembled directory path = .ok assembly ∧
        directory.write (destination.getD (Path.withExtension path "bin")) assembly.words
          = .ok ((compile path destination).perform directory).directory := by
  unfold compile
  dsimp only
  rw [perform_fileStatus, perform_assembleFile]
  cases assembled directory path with
  | error fault => simp [Outcome.saying]
  | ok assembly =>
    dsimp only
    rw [Dialogue.perform]
    cases hwrite : directory.write (destination.getD (Path.withExtension path "bin"))
      assembly.words with
    | error fault => simp [Outcome.saying, Dialogue.perform, fail, hwrite]
    | ok written =>
      simp [Outcome.saying, Dialogue.perform, fileStatus, perform_status, done, hwrite]

/-- **A source file without an assembly** ends every command about it, always with the
reason why there is none. -/
theorem exists_perform_of_assembled_error {path : String}
    (hpath : Path.extension? path = some "asm") {directory : Directory} {fault : CommandFault}
    (h : assembled directory path = .error fault) (settings : Settings)
    (destination : Option String) (minimal : Bool) (options : RunOptions) :
    ∀ command ∈ [Command.compile path destination, .check path, .dump path minimal,
        .run path options],
      ∃ said, (ofCommand settings command).perform directory = ⟨said, some fault, directory⟩ := by
  simp only [List.forall_mem_cons, List.not_mem_nil, false_imp_iff, implies_true, and_true]
  refine ⟨?_, ?_, ?_, ?_⟩
  · show ∃ said, (compile path destination).perform directory = _
    unfold compile
    dsimp only
    rw [perform_fileStatus, perform_assembleFile, h]
    exact ⟨_, rfl⟩
  · show ∃ said, (check path).perform directory = _
    unfold check
    dsimp only
    rw [perform_fileStatus, perform_assembleFile, h]
    exact ⟨_, rfl⟩
  · show ∃ said, (dump path minimal).perform directory = _
    unfold dump
    dsimp only
    rw [perform_assembleFile, h]
    exact ⟨_, rfl⟩
  · show ∃ said, (run settings path options).perform directory = _
    rw [perform_run_source hpath, h]
    exact ⟨_, rfl⟩

/-! ## The place of the image -/

/-- **The image has the name of the source file** but for the extension, once the one
was read and the other could be written. -/
theorem exists_namesFile_of_write {path extension : String}
    (hpath : Path.extension? path = some extension) {directory written : Directory}
    {content : List UInt8} {image : List Word} (hread : directory.read path = .ok content)
    (hwrite : directory.write (Path.withExtension path "bin") image = .ok written) :
    ∃ around stem, stem ≠ [] ∧ Path.NamesFile path around (stem ++ '.' :: extension.toList) ∧
      Path.NamesFile (Path.withExtension path "bin") around (stem ++ '.' :: "bin".toList) := by
  obtain ⟨stem, hnamed, hstem, hold⟩ := Path.extension?_eq_some_iff.mp hpath
  obtain ⟨_, name, hleads⟩ := Directory.exists_leadsTo_of_read hread hnamed
  obtain ⟨around, hname, -⟩ := hleads.around
  obtain rfl : name = stem ++ '.' :: extension.toList :=
    Option.some.inj (hname.fileName?_eq.symm.trans hnamed)
  obtain ⟨_, target, hwrites, -⟩ := Directory.exists_leadsTo_of_write hwrite
  obtain ⟨before, htarget, -⟩ := hwrites.around
  have hsame : before ++ [target] = around ++ [_] :=
    htarget.components.symm.trans (hname.components_withExtension hstem hold (by decide))
  obtain ⟨rfl, hlast⟩ := List.append_inj' hsame rfl
  obtain rfl := (List.cons.inj hlast).1
  -- without an extension the target would be the directory above
  have hdot : stem ≠ ['.'] := by
    rintro rfl
    exact htarget.ne_dots rfl
  rw [if_neg hdot] at htarget
  exact ⟨before, stem, hstem, hname, htarget⟩

/-- **The image is beside the source file**: once it could be written, it is read where
it was written, and the source file is read as before. -/
theorem exists_image {path : String} (hpath : Path.extension? path = some "asm")
    {directory written : Directory} {content : List UInt8} {image : List Word}
    (hread : directory.read path = .ok content)
    (hwrite : directory.write (Path.withExtension path "bin") image = .ok written) :
    ∃ stem, path = stem ++ ".asm" ∧ Path.withExtension path "bin" = stem ++ ".bin" ∧
      Path.extension? (stem ++ ".bin") = some "bin" ∧
      written.read (stem ++ ".bin") = .ok image ∧ written.read path = .ok content := by
  obtain ⟨around, stem, hstem, hname, htarget⟩ := exists_namesFile_of_write hpath hread hwrite
  have hne : stem ++ '.' :: "asm".toList ≠ stem ++ '.' :: "bin".toList := fun heq =>
    absurd (List.append_cancel_left heq) (by decide)
  have hbin : _ = String.ofList (around.flatMap (· ++ ['/']) ++ stem) ++ ".bin" :=
    htarget.eq_append
  refine ⟨_, hname.eq_append, hbin, ?_, ?_, ?_⟩
  · rw [← hbin]
    exact Path.extension?_eq_some_iff.mpr ⟨stem, htarget.fileName?_eq, hstem, by decide⟩
  · rw [← hbin]
    exact Directory.read_of_write hwrite
  · exact Directory.read_of_write_of_ne hname htarget hne hread hwrite

/-- **Running the same image from two files.** In whatever directories, it is said what
is done with each file, and then the same; and the ends are the same. -/
theorem run_same_image {path other : String} (hpath : Path.extension? path = some "asm")
    (hother : Path.extension? other = some "bin") {directory place : Directory}
    {assembly : Assembly} (hassembled : assembled place path = .ok assembly)
    (hread : directory.read other = .ok assembly.words) (settings : Settings)
    (options : RunOptions) :
    let ofImage := (run settings other options).perform directory
    let ofSource := (run settings path options).perform place
    ofImage.fault = ofSource.fault ∧ ofImage.exitCode = ofSource.exitCode ∧
      ofImage.directory = directory ∧ ofSource.directory = place ∧
      ∃ rest, ofImage.output = opening options.minimal "Loading" other ++ rest ∧
        ofSource.output = opening options.minimal "Assembling" path ++ rest := by
  intro ofImage ofSource
  have hsettled := settled_runImage settings options assembly.words
  have himage : ofImage = _ := perform_run_image hother settings options hread
  have hsource : ofSource = _ := perform_run_source hpath settings options place
  rw [hassembled] at hsource
  dsimp only at hsource
  rw [hsettled.perform_eq directory place] at himage
  have hplace : ((runImage settings options assembly.words).perform place).directory = place :=
    congrArg Outcome.directory (hsettled.perform_eq place place)
  have hfault : ofImage.fault = ofSource.fault := by
    rw [himage, hsource]
    rfl
  refine ⟨hfault, ?_, ?_, ?_, ((runImage settings options assembly.words).perform place).output,
    ?_, ?_⟩
  · unfold Outcome.exitCode
    rw [hfault]
  · rw [himage]
    rfl
  · rw [hsource]
    exact hplace
  · rw [himage]
    rfl
  · rw [hsource]
    rfl

/-- **Compiling and then running the image is running the source file.** If compiling
succeeds, the words of the assembly are in the file beside the source, they can be
loaded, and with the same options and settings the image is run as the source file
is, before it was compiled or now: the end is the same, no file is changed, and
what is said differs in the line about the file at most. If there is no assembly,
every command about the source file ends with the reason for that. -/
theorem run_compiled (directory : Directory) {path : String}
    (hpath : Path.extension? path = some "asm") :
    (∀ settings : Settings,
      let compiled := (ofCommand settings (.compile path none)).perform directory
      compiled.exitCode = 0 →
        ∃ stem content source assembly machine, path = stem ++ ".asm" ∧
          directory.read path = .ok content ∧ text? content = some source ∧
          Assembly.ofSource source = .ok assembly ∧ Machine.load assembly.words = .ok machine ∧
          compiled.directory.read (stem ++ ".bin") = .ok assembly.words ∧
          ∀ (settings : Settings) (options : RunOptions),
            ∀ place ∈ [directory, compiled.directory],
              let ofImage := (ofCommand settings (.run (stem ++ ".bin") options)).perform
                compiled.directory
              let ofSource := (ofCommand settings (.run path options)).perform place
              ofImage.fault = ofSource.fault ∧ ofImage.exitCode = ofSource.exitCode ∧
                ofImage.directory = compiled.directory ∧ ofSource.directory = place ∧
                ∃ rest,
                  ofImage.output = opening options.minimal "Loading" (stem ++ ".bin") ++ rest ∧
                  ofSource.output = opening options.minimal "Assembling" path ++ rest) ∧
    ∀ fault, assembled directory path = .error fault →
      ∀ (settings : Settings) (destination : Option String) (minimal : Bool)
        (options : RunOptions),
        ∀ command ∈ [Command.compile path destination, .check path, .dump path minimal,
            .run path options],
          let outcome := (ofCommand settings command).perform directory
          outcome.fault = some fault ∧ outcome.exitCode = 1 ∧ outcome.directory = directory := by
  constructor
  · intro settings compiled hcode
    obtain ⟨assembly, hassembled, hwrite⟩ :=
      fault_compile_eq_none_iff.mp (Outcome.exitCode_eq_zero_iff.mp hcode)
    obtain ⟨content, source, hread, htext, hassembly⟩ := assembled_eq_ok_iff.mp hassembled
    obtain ⟨stem, hstem, -, hbin, himage, hsource⟩ := exists_image hpath hread hwrite
    refine ⟨stem, content, source, assembly, _, hstem, hread, htext, hassembly,
      Machine.load_eq_ok_iff.mpr ⟨Assembly.length_words_le hassembly, rfl⟩, himage,
      fun settings options place hplace => ?_⟩
    have hagain : assembled place path = .ok assembly := by
      rw [List.mem_cons, List.mem_singleton] at hplace
      rcases hplace with rfl | rfl
      · exact hassembled
      · exact assembled_eq_ok_iff.mpr ⟨content, source, hsource, htext, hassembly⟩
    exact run_same_image hpath hbin hagain himage settings options
  · intro fault hfault settings destination minimal options command hcommand outcome
    obtain ⟨said, houtcome⟩ := exists_perform_of_assembled_error hpath hfault settings destination
      minimal options command hcommand
    rw [show outcome = _ from houtcome]
    exact ⟨rfl, rfl, rfl⟩

/-- A program that prints one letter is compiled and its image run, beside a source
file that lacks an operand. -/
theorem run_compiled_letter :
    let settings : Settings := ⟨30, false⟩
    let options : RunOptions := { minimal := true }
    let directory : Directory :=
      ⟨[("letter.asm", [76, 68, 32, 91, 99, 93, 10, 79, 85, 84, 10, 101, 110, 100, 58, 32, 74,
        77, 80, 32, 91, 101, 110, 100, 93, 10, 99, 58, 32, 68, 66, 32, 54, 53]),
        ("bare.asm", [74, 77, 80])]⟩
    let compiled := (ofCommand settings (.compile "letter.asm" none)).perform directory
    let ofImage := (ofCommand settings (.run "letter.bin" options)).perform compiled.directory
    let ofSource := (ofCommand settings (.run "letter.asm" options)).perform directory
    let bare := CommandFault.source (.wrongArity "JMP" (.exactly 1) 0 ⟨0, 3⟩)
    compiled.exitCode = 0 ∧ compiled.directory.read "letter.bin" = .ok [35, 224, 162, 65] ∧
      ofSource.output = "A\n" ∧ ofSource.fault = none ∧ ofImage.output = "A\n" ∧
      ofImage.fault = none ∧ assembled directory "bare.asm" = .error bare ∧
      ((ofCommand settings (.check "bare.asm")).perform directory).fault = some bare := by
  intro settings options directory compiled ofImage ofSource bare
  have hcode : compiled.exitCode = 0 := by decide +kernel
  have houtput : ofSource.output = "A\n" := by decide +kernel
  have hfault : ofSource.fault = none := by decide +kernel
  have hbare : assembled directory "bare.asm" = .error bare := by decide +kernel
  have hletterPath : Path.extension? "letter.asm" = some "asm" := by decide +kernel
  have hbarePath : Path.extension? "bare.asm" = some "asm" := by decide +kernel
  obtain ⟨hcompiled, -⟩ := run_compiled directory hletterPath
  obtain ⟨-, hfailed⟩ := run_compiled directory hbarePath
  obtain ⟨stem, _, _, _, _, hstem, -, -, -, -, -, hruns⟩ := hcompiled settings hcode
  obtain rfl : stem = "letter" := (String.append_left_inj ".asm").mp hstem.symm
  obtain ⟨hsame, -, -, -, _, hofImage, hofSource⟩ :=
    hruns settings options directory List.mem_cons_self
  refine ⟨hcode, by decide +kernel, houtput, hfault,
    (hofImage.trans hofSource.symm).trans houtput, hsame.trans hfault, hbare, ?_⟩
  exact (hfailed bare hbare settings none false options _
    (List.mem_cons_of_mem _ List.mem_cons_self)).1

end Session

end AccumulatorMachine
