import AccumulatorMachine.Text.Ranges
import AccumulatorMachine.Text.WordCharacter
import AccumulatorMachine.Text.UpperCase
import AccumulatorMachine.Text.Blank
import AccumulatorMachine.Text.AsciiCase
import AccumulatorMachine.Text.Numeral
import AccumulatorMachine.Text.Invisible
import AccumulatorMachine.Text.Quoted
import AccumulatorMachine.Instruction.Opcode
import AccumulatorMachine.Instruction.Operator
import AccumulatorMachine.Instruction.Word
import AccumulatorMachine.Source.Span
import AccumulatorMachine.Source.Token
import AccumulatorMachine.Source.KindSet
import AccumulatorMachine.Source.Fault
import AccumulatorMachine.Source.Cursor
import AccumulatorMachine.Source.Spelling
import AccumulatorMachine.Source.Lines
import AccumulatorMachine.Source.Statement
import AccumulatorMachine.Journal
import AccumulatorMachine.Program.Operand
import AccumulatorMachine.Program.Signature
import AccumulatorMachine.Program.Mnemonic
import AccumulatorMachine.Program.Layout
import AccumulatorMachine.Program.Assembly
import AccumulatorMachine.Machine.Signal
import AccumulatorMachine.Machine.Processor
import AccumulatorMachine.Machine.Memory
import AccumulatorMachine.Machine.Printer
import AccumulatorMachine.Machine.Basic
import AccumulatorMachine.Machine.Display
import AccumulatorMachine.Listing.Style
import AccumulatorMachine.Listing.Image
import AccumulatorMachine.Listing.Printout
import AccumulatorMachine.Listing.Symbols
import AccumulatorMachine.Settings
import AccumulatorMachine.Text.Split
import AccumulatorMachine.Console.Path
import AccumulatorMachine.Console.Directory
import AccumulatorMachine.Console.Dialogue
import AccumulatorMachine.Console.Request
import AccumulatorMachine.Console.Guide
import AccumulatorMachine.Console.Session
import AccumulatorMachine.Main
import AccumulatorMachine.Proofs.Instruction.Fields
import AccumulatorMachine.Proofs.Machine.Tick
import AccumulatorMachine.Proofs.Machine.Interpreter
import AccumulatorMachine.Proofs.Machine.Refinement
import AccumulatorMachine.Proofs.Machine.Coherence
import AccumulatorMachine.Proofs.Machine.Effects
import AccumulatorMachine.Proofs.Machine.Halting
import AccumulatorMachine.Proofs.Machine.Reset
import AccumulatorMachine.Proofs.Program.Placement
import AccumulatorMachine.Proofs.Program.Linking
import AccumulatorMachine.Proofs.Program.Operands
import AccumulatorMachine.Proofs.Program.Sizes
import AccumulatorMachine.Proofs.Text.Numeral
import AccumulatorMachine.Proofs.Source.Terms
import AccumulatorMachine.Proofs.Source.Patterns
import AccumulatorMachine.Proofs.Source.Kinds
import AccumulatorMachine.Proofs.Lists
import AccumulatorMachine.Proofs.Source.Cuts
import AccumulatorMachine.Proofs.Source.Lines
import AccumulatorMachine.Proofs.Program.References
import AccumulatorMachine.Proofs.Program.Capitals
import AccumulatorMachine.Proofs.Program.Acceptance
import AccumulatorMachine.Proofs.Program.Language
import AccumulatorMachine.Proofs.Program.Capacity
import AccumulatorMachine.Proofs.Program.Checks
import AccumulatorMachine.Proofs.Program.FirstFault
import AccumulatorMachine.Proofs.Text.Split
import AccumulatorMachine.Proofs.Console.Tracing
import AccumulatorMachine.Proofs.Source.Places
import AccumulatorMachine.Proofs.Source.Tiling
import AccumulatorMachine.Proofs.Source.Printing
import AccumulatorMachine.Proofs.Source.Spacing
import AccumulatorMachine.Proofs.Program.Unplaced
import AccumulatorMachine.Proofs.Source.Faults
import AccumulatorMachine.Proofs.Program.Diagnostics
import AccumulatorMachine.Proofs.Console.Path
import AccumulatorMachine.Proofs.Console.Directory
import AccumulatorMachine.Proofs.Console.Images
import AccumulatorMachine.Proofs.Console.Arguments
import AccumulatorMachine.Proofs.Console.Outcomes
import AccumulatorMachine.Proofs.Source.Literals
import AccumulatorMachine.Proofs.Program.Meaning
import AccumulatorMachine.Proofs.Source.Writing
import AccumulatorMachine.Proofs.Program.StringPrinter
import AccumulatorMachine.Proofs.Machine.PrintingLoop
import AccumulatorMachine.Proofs.Source.Marks
import AccumulatorMachine.Proofs.Program.Recasting
import AccumulatorMachine.Proofs.Program.Renaming
import AccumulatorMachine.Proofs.Program.Appending
import AccumulatorMachine.Proofs.Program.DataStrings
import AccumulatorMachine.Proofs.Machine.Noninterference
import AccumulatorMachine.Proofs.Machine.Endless
import AccumulatorMachine.Proofs.Program.OperatorSets
import AccumulatorMachine.Proofs.Source.Rows
import AccumulatorMachine.Proofs.Program.Milestones
import AccumulatorMachine.Proofs.Source.ByteCursor
import AccumulatorMachine.Proofs.Source.CursorRuns
import AccumulatorMachine.Proofs.Source.Recased
import AccumulatorMachine.Proofs.Program.LetterCase
import AccumulatorMachine.Proofs.Listing.Rows
import AccumulatorMachine.Proofs.Machine.Wiring
import AccumulatorMachine.Proofs.Listing.Colour
import AccumulatorMachine.Proofs.Listing.Marks
import AccumulatorMachine.Proofs.Program.ImageSource
import AccumulatorMachine.Proofs.Program.Signatures
import AccumulatorMachine.Proofs.Listing.Symbols
import AccumulatorMachine.Proofs.Settings
import AccumulatorMachine.Proofs.Program.Bindings
