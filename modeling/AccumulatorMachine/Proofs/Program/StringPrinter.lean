import AccumulatorMachine.Proofs.Program.Meaning
import AccumulatorMachine.Proofs.Source.Literals
import AccumulatorMachine.Proofs.Source.Writing

/-!
# A program that prints a string

The program holds a string in its last line and a pointer to it, and prints what the
pointer leads to until that is zero. For every string that memory has room for, the
source text assembles, and its words are eight instructions of a loop, the jump to
itself that ends it, the pointer, the bytes of the string and a zero
(`StringPrinter.exists_ofSource`).

All lines but the last are the same for every string, so what they write is
computed.
-/

namespace AccumulatorMachine

namespace StringPrinter

/-- The lines of the source text in front of the string. -/
def codeLines : List String :=
  ["; Print a zero terminated string, one character per loop",
    "; Loading address 0 goes through the accumulator, storing to it goes to the last load",
    "",
    "loop:   LD  [ptr]       ; a = address of next character",
    "        LD  [loop]      ; a = character",
    "        JZ  [end]",
    "        OUT",
    "        LD  [ptr]",
    "        INC",
    "        ST  [ptr]",
    "        JMP [loop]",
    "end:    JMP [end]",
    "",
    "ptr:    DB  [msg]"]

/-- The source text in front of the line with the string. -/
def code : String :=
  "\n".intercalate codeLines

/-- The line with the string. -/
def lastLine (message : List UInt8) : String :=
  "msg:    DB  " ++ String.ofList (Literal.quoted message)

/-- **The source text that prints a message.** -/
def source (message : List UInt8) : String :=
  code ++ "\n" ++ lastLine message ++ "\n"

/-- The lines of the program in front of the string. -/
def codeProgram : List SourceLine :=
  [⟨some "loop", "LD", [.address "ptr"]⟩, ⟨none, "LD", [.address "loop"]⟩,
    ⟨none, "JZ", [.address "end"]⟩, ⟨none, "OUT", []⟩, ⟨none, "LD", [.address "ptr"]⟩,
    ⟨none, "INC", []⟩, ⟨none, "ST", [.address "ptr"]⟩, ⟨none, "JMP", [.address "loop"]⟩,
    ⟨some "end", "JMP", [.address "end"]⟩, ⟨some "ptr", "DB", [.address "msg"]⟩]

/-- **The program that prints a message.** -/
def program (message : List UInt8) : List SourceLine :=
  codeProgram ++ [⟨some "msg", "DB", [.string message]⟩]

/-- The words in front of the pointer. -/
def codeWords : List Word :=
  [41, 32, 200, 224, 41, 4, 73, 160, 168]

/-- **The words that print a message**: the code, the address of the message, and the
message with a zero behind it. -/
def image (message : List UInt8) : List Word :=
  codeWords ++ 10 :: (message ++ [0])

/-- The terms of the line with the string. -/
theorem writesTerms_lastLine (message : List UInt8) :
    WritesTerms (lastLine message).toList
      [.label "msg", .identifier "DB", .string message] := by
  have htext : (lastLine message).toList = ['m', 's', 'g', ':'] ++ ' ' :: ' ' :: ' ' :: ' ' ::
      (['D', 'B'] ++ ' ' :: ' ' :: Literal.quoted message) := by
    unfold lastLine
    rw [String.toList_append, String.toList_ofList (l := Literal.quoted message)]
    rfl
  have hspace : isSeparator ' ' = true := by decide
  have hlabel : Spells (['m', 's', 'g'] ++ [':']) (.label "msg") :=
    .label (Spelling.isName_iff.mp (by decide))
  have hword : IsWord ['m', 's', 'g', ':'] :=
    .plain (by decide) (List.all_eq_true.mp (by decide))
  rw [htext]
  refine .word hword (.of_isSeparator hspace _) hlabel ?_
  refine .skip hspace (.skip hspace (.skip hspace (.skip hspace ?_)))
  refine .data (.skip hspace ?_)
  exact .single (Literal.isWord_quoted message) (Literal.spells_quoted message)

/-- **The source text writes the program.** -/
theorem writesProgram_source (message : List UInt8) :
    WritesProgram (source message) (program message) := by
  have hcode : WritesProgram code codeProgram :=
    (writesProgram_intercalate_iff (by decide) (by decide +kernel)).mpr (by decide +kernel)
  have hfeed : '\n' ∉ (lastLine message).toList := by
    unfold lastLine
    rw [String.toList_append, String.toList_ofList (l := Literal.quoted message),
      List.mem_append, not_or]
    exact ⟨by decide, Literal.feed_notMem_quoted message⟩
  have hlast : WritesProgram (code ++ "\n" ++ lastLine message) (program message) :=
    hcode.line hfeed (writesTerms_lastLine message) rfl
  exact hlast.feed

/-- The lines of the code are instructions with operands that these can stand with. -/
theorem legal_codeProgram : ∀ line ∈ codeProgram, ∃ mnemonic : Mnemonic,
    Text.equalIgnoringCase mnemonic.name line.word = true ∧ Legal mnemonic line.operands := by
  unfold codeProgram
  simp only [List.forall_mem_cons, List.not_mem_nil, false_imp_iff, implies_true, and_true]
  exact ⟨⟨.addressed .load, by decide, _, rfl⟩, ⟨.addressed .load, by decide, _, rfl⟩,
    ⟨.addressed .jumpIfZero, by decide, _, rfl⟩, ⟨.output, by decide, rfl⟩,
    ⟨.addressed .load, by decide, _, rfl⟩, ⟨.operator .increment, by decide, rfl⟩,
    ⟨.addressed .store, by decide, _, rfl⟩, ⟨.addressed .jump, by decide, _, rfl⟩,
    ⟨.addressed .jump, by decide, _, rfl⟩, ⟨.data, by decide, _, rfl, by decide⟩⟩

/-- The labels in front of the lines. -/
theorem labels_program (message : List UInt8) :
    (program message).filterMap SourceLine.label = ["loop", "end", "ptr", "msg"] := rfl

/-- **The program is in the language** as long as memory has room for the message. -/
theorem inLanguage_program {message : List UInt8} (hfit : message.length ≤ 21) :
    InLanguage (program message) := by
  refine ⟨?_, ?_, ?_, ?_⟩
  · refine List.forall_mem_append.mpr ⟨legal_codeProgram, List.forall_mem_singleton.mpr ?_⟩
    have hword : Text.equalIgnoringCase Mnemonic.data.name "DB" = true := by decide
    have hkind : TokenKind.string ∈ [TokenKind.address, .number, .string] := by decide
    exact ⟨.data, hword, .string message, rfl, hkind⟩
  · rw [labels_program]
    decide
  · have hsize : ((program message).map SourceLine.size).sum = 10 + (message.length + 1) := by
      unfold program
      rw [List.map_append, List.sum_append]
      rfl
    omega
  · have hcode : ∀ line ∈ codeProgram, ∀ term ∈ line.operands,
        ∃ name ∈ ["loop", "end", "ptr", "msg"], term = .address name := by decide
    intro line hline name hname
    rcases List.mem_append.mp hline with hline | hlast
    · obtain ⟨label, hlabel, heq⟩ := hcode line hline _ hname
      obtain rfl := Term.address.inj heq
      rw [← labels_program message] at hlabel
      exact List.mem_filterMap.mp hlabel
    · -- the string names no label
      obtain rfl := List.mem_singleton.mp hlast
      exact absurd (List.mem_singleton.mp hname) Term.noConfusion

/-- **The addresses of the labels.** -/
theorem resolve_program (message : List UInt8) :
    Program.resolve (program message) "loop" = 0 ∧ Program.resolve (program message) "end" = 8 ∧
      Program.resolve (program message) "ptr" = 9 ∧ Program.resolve (program message) "msg" = 10 :=
  ⟨rfl, rfl, rfl, rfl⟩

/-- The words in front of the message, once the labels have addresses. -/
theorem words_code {find : String → UInt8} (h : find "loop" = 0 ∧ find "end" = 8 ∧
    find "ptr" = 9 ∧ find "msg" = 10) :
    codeProgram.flatMap (Program.wordsOfLine find) = codeWords ++ [10] := by
  obtain ⟨hloop, hend, hptr, hmsg⟩ := h
  have hlines : codeProgram.flatMap (Program.wordsOfLine find) =
      [Word.ofParts (.addressed .load) (find "ptr"),
        Word.ofParts (.addressed .load) (find "loop"),
        Word.ofParts (.addressed .jumpIfZero) (find "end"), Word.ofParts .output 0,
        Word.ofParts (.addressed .load) (find "ptr"),
        Word.ofParts .operate Operator.increment.flag,
        Word.ofParts (.addressed .store) (find "ptr"),
        Word.ofParts (.addressed .jump) (find "loop"),
        Word.ofParts (.addressed .jump) (find "end"), find "msg"] := rfl
  rw [hlines, hloop, hend, hptr, hmsg]
  decide

/-- **The program in memory.** -/
theorem words_program (message : List UInt8) : Program.words (program message) = image message := by
  have hcode := words_code (resolve_program message)
  have hlast : Program.wordsOfLine (Program.resolve (program message))
      ⟨some "msg", "DB", [.string message]⟩ = message ++ [0] := by
    unfold Program.wordsOfLine
    rw [Mnemonic.ofName?_upperCase_data]
    rfl
  unfold Program.words
  rw [program, List.flatMap_append, ← program, hcode, List.flatMap_singleton, hlast,
    List.append_assoc]
  rfl

/-- The labels of the program. -/
theorem symbols_program (message : List UInt8) :
    Program.symbols (program message)
      = [("loop", 0), ("end", 8), ("ptr", 9), ("msg", 10)] := by
  obtain ⟨hloop, hend, hptr, hmsg⟩ := resolve_program message
  have hsymbols : Program.symbols (program message)
      = ["loop", "end", "ptr", "msg"].map fun name =>
        (name, Program.resolve (program message) name) := rfl
  rw [hsymbols]
  simp only [List.map_cons, List.map_nil, hloop, hend, hptr, hmsg]

/-- **The source text assembles** as long as memory has room for the message. -/
theorem exists_ofSource {message : List UInt8} (hfit : message.length ≤ 21) :
    ∃ assembly, Assembly.ofSource (source message) = .ok assembly ∧
      assembly.words = image message ∧
      assembly.symbols = [("loop", 0), ("end", 8), ("ptr", 9), ("msg", 10)] := by
  obtain ⟨assembly, hassembly, hwords, hsymbols, -⟩ :=
    Assembly.exists_ofSource_eq_words (writesProgram_source message) (inLanguage_program hfit)
  exact ⟨assembly, hassembly, hwords.trans (words_program message),
    hsymbols.trans (symbols_program message)⟩

end StringPrinter

end AccumulatorMachine
