import AccumulatorMachine.Console.Dialogue
import AccumulatorMachine.Console.Guide
import AccumulatorMachine.Listing.Image
import AccumulatorMachine.Listing.Printout
import AccumulatorMachine.Listing.Symbols
import AccumulatorMachine.Machine.Display
import AccumulatorMachine.Program.Assembly
import AccumulatorMachine.Text.Bytes

/-!
# Sessions

The dialogue of each command. A command tells what it is about to do in status
lines, which minimal output leaves out, and ends with the first fault that it
meets. Only compiling writes a file.

`Session.answer` is a whole session: arguments, variables and a directory go in,
and what the program says, how it ends and what the directory holds come out.
-/

namespace AccumulatorMachine

namespace Session

/-- A status line: a word in a column of its own and what it is about. -/
def statusLine (word about : String) : String :=
  Text.alignRight 12 ' ' word ++ " " ++ about ++ "\n"

/-- Says a status line, unless the output is minimal. -/
def status (style : ListingStyle) (word about : String) (next : Dialogue) : Dialogue :=
  if style.minimal then next else .say (statusLine word about) next

/-- Says what is done with a file. -/
def fileStatus (style : ListingStyle) (word path : String) (next : Dialogue) : Dialogue :=
  status style word ("target " ++ path) next

/-- Ends badly. -/
def fail (fault : CommandFault) : Dialogue :=
  .finish (some fault)

/-- Ends well. -/
def done : Dialogue :=
  .finish none

/-- The text that the bytes of a file encode in UTF-8. -/
def text? (content : List UInt8) : Option String :=
  Text.ofBytes? content

/-- The assembly of the content of a source file. -/
def assembleContent (content : List UInt8) : Except CommandFault Assembly :=
  match text? content with
  | none => .error (.file .notText)
  | some source =>
    match Assembly.ofSource source with
    | .error fault => .error (.source fault)
    | .ok assembly => .ok assembly

/-- Reads a source file, assembles it and goes on with the assembly. -/
def assembleFile (path : String) (next : Assembly → Dialogue) : Dialogue :=
  .read path fun answer =>
    match answer with
    | .error fault => fail (.file fault)
    | .ok content =>
      match assembleContent content with
      | .error fault => fail fault
      | .ok assembly => next assembly

/-- How many there are of something. -/
def count (number : Nat) (things : String) : String :=
  Text.decimal number ++ " " ++ things

/-- The style of the output of a command. Colour is for terminals only, and a session is what
is said when the output goes anywhere else, so no listing in it is coloured. -/
def styleOf (minimal : Bool) : ListingStyle :=
  ⟨minimal, false⟩

/-- Shows what a program has printed. A minimal printout is the text itself. -/
def sayPrintout (style : ListingStyle) (paper : List UInt8) (next : Dialogue) : Dialogue :=
  if style.minimal then .say (Listing.printoutText paper ++ "\n") next
  else if paper.isEmpty then next
  else
    status style "Printout" (count paper.length "bytes") <|
      .say (Listing.ofPrintout style paper) next

/-- Tells how a run came to its end. -/
def sayEnd (style : ListingStyle) (budget : UInt64) (machine : Machine) : Dialogue :=
  if machine.isHalted then
    status style "Halted" ("after " ++ count machine.cycles.toNat "cycles") done
  else
    status style "Stopped" ("no halt after " ++ count machine.cycles.toNat "cycles") <|
      fail (.notHalted budget)

/-- What a run shows and where it ends. A traced run shows the state that it
starts from and the state after every tick. -/
def follow (trace : Bool) (budget : UInt64) (machine : Machine) : String × Machine :=
  if trace then
    let states := machine :: machine.statesWithin budget
    (Listing.ofRows (states.map Machine.display), states.getLastD machine)
  else ("", machine.run budget.toNat)

/-- Runs an image. -/
def runImage (settings : Settings) (options : RunOptions) (image : List Word) : Dialogue :=
  let style := styleOf options.minimal
  let budget := options.cycles.getD settings.maxCycles
  match Machine.load image with
  | .error fault => fail (.load fault)
  | .ok machine =>
    let shown := follow (options.trace || settings.trace) budget machine
    status style "Running" (count image.length "words") <|
      .say shown.1 <|
      sayPrintout style shown.2.printout <|
      .say (if options.memory then Listing.ofMachine style shown.2 else "") <|
      sayEnd style budget shown.2

/-- Runs the source text or the image in a file, as its extension tells. -/
def run (settings : Settings) (path : String) (options : RunOptions) : Dialogue :=
  let style := styleOf options.minimal
  match Path.extension? path with
  | none => fail .noExtension
  | some extension =>
    if extension = "bin" then
      fileStatus style "Loading" path <|
        .read path fun answer =>
          match answer with
          | .error fault => fail (.file fault)
          | .ok image => runImage settings options image
    else if extension = "asm" then
      fileStatus style "Assembling" path <|
        assembleFile path fun assembly => runImage settings options assembly.words
    else fail .unknownExtension

/-- Writes the image of a source file, to a file of the same name with the
extension of images unless another is given. -/
def compile (path : String) (destination : Option String) : Dialogue :=
  let style := styleOf false
  fileStatus style "Assembling" path <|
    assembleFile path fun assembly =>
      let target := destination.getD (Path.withExtension path "bin")
      .write target assembly.words fun answer =>
        match answer with
        | .error fault => fail (.file fault)
        | .ok () =>
          status style "Finished" ("emit " ++ count assembly.words.length "words") <|
            fileStatus style "Saved" target done

/-- Assembles a source file and keeps nothing. -/
def check (path : String) : Dialogue :=
  let style := styleOf false
  fileStatus style "Checking" path <|
    assembleFile path fun _ => status style "Success" "no errors found!" done

/-- Lists the image of a source file and its labels, if it has any. -/
def dump (path : String) (minimal : Bool) : Dialogue :=
  let style := styleOf minimal
  assembleFile path fun assembly =>
    .say (Listing.ofImage style assembly.words) <|
      if assembly.symbols.isEmpty then done
      else
        status style "Symbols" (count assembly.symbols.length "labels") <|
          .say (Listing.ofSymbols style assembly.symbols) done

/-- Begins to watch a file, if there is one. What happens to the file later is
for the world outside to tell. -/
def watch (path : String) : Dialogue :=
  let style := styleOf false
  let begin : Dialogue :=
    .say "\x1b[2J\x1b[2;1H" <|
      fileStatus style "Watching" path <|
      status style "Help" "press CTRL+C to exit" done
  .read path fun answer =>
    match answer with
    | .error .notFound => fail .missingFile
    | .error .notADirectory => fail .missingFile
    | .error .nameTooLong => fail .missingFile
    | _ => begin

/-- The dialogue of a command. -/
def ofCommand (settings : Settings) : Command → Dialogue
  | .run path options => run settings path options
  | .compile path destination => compile path destination
  | .check path => check path
  | .dump path minimal => dump path minimal
  | .watch path => watch path

/-- The dialogue of a request. -/
def ofRequest (settings : Settings) : Request → Dialogue
  | .banner => .say Guide.banner done
  | .version => .say Guide.versionLine done
  | .help none => .say Guide.overview done
  | .help (some topic) => .say (Guide.explanation topic) done
  | .command command => ofCommand settings command

/-- A whole session: the outcome of the request that the arguments make. -/
def answer (arguments : List String) (environment : Variables) (directory : Directory) :
    Except UsageFault Outcome :=
  (Request.ofArguments arguments).map fun request =>
    (ofRequest environment.settings request).perform directory

end Session

end AccumulatorMachine
