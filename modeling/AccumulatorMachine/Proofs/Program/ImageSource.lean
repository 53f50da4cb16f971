import AccumulatorMachine.Proofs.Listing.Marks
import AccumulatorMachine.Proofs.Program.Capacity
import AccumulatorMachine.Proofs.Program.FirstFault
import AccumulatorMachine.Proofs.Program.Meaning
import AccumulatorMachine.Proofs.Source.Writing

/-!
# A source for every image

Every image has a source text: one line of data for each byte, with the byte as a
number (`ImageSource.source`). Its program has no labels and one word for each line,
so that all that can go wrong is its size. An image that memory has room for is got
back from its source, byte by byte, as words, as statements, and as numbers in the
listing of memory; a larger one is refused with the number of its bytes
(`ImageSource.ofSource_source`).

That a program is refused for its size alone holds of every program whose lines are
legal and whose labels are distinct, wherever its references lead
(`Assembly.ofSource_eq_programTooLarge`).
-/

namespace AccumulatorMachine

/-! ## Numbers -/

/-- A digit can stand in a word. -/
theorem continuesLexeme_of_isDigit {c : Char} (h : c.isDigit = true) :
    continuesLexeme c = true := by
  have hother : ∀ d : Char, d.isDigit = false → c ≠ d := by
    rintro d hd rfl
    exact absurd h (by rw [hd]; decide)
  unfold continuesLexeme isSeparator
  rw [beq_false_of_ne (hother ' ' (by decide)), beq_false_of_ne (hother '\t' (by decide)),
    beq_false_of_ne (hother '\r' (by decide)), bne_iff_ne.mpr (hother ';' (by decide))]
  rfl

/-- Digits are a word. -/
theorem isWord_of_isDigit {digits : List Char} (hne : digits ≠ [])
    (h : ∀ c ∈ digits, c.isDigit = true) : IsWord digits := by
  obtain ⟨first, rest, rfl⟩ := List.exists_cons_of_ne_nil hne
  refine .plain ?_ fun c hc => continuesLexeme_of_isDigit (h c hc)
  rintro rfl
  exact absurd (h '"' List.mem_cons_self) (by decide)

/-- The digits of a byte spell it. -/
theorem spells_decimal (value : UInt8) :
    Spells (Text.decimal value.toNat).toList (.number value) := by
  have hspells := Spells.number (Text.toList_decimal_ne_nil value.toNat)
    (fun c hc => Text.isDigit_of_mem_decimal hc)
    (by rw [Text.numeralValue_decimal]; exact Nat.le_of_lt_succ value.toNat_lt)
  rw [Text.numeralValue_decimal, UInt8.ofNat_toNat] at hspells
  exact hspells

/-! ## Programs that are too large -/

namespace Assembly

/-- **A program that memory has no room for** is refused with its size, if its lines are
legal and no two have the same label. -/
theorem ofSource_eq_programTooLarge {source : String} {program : List SourceLine}
    (hwrites : WritesProgram source program)
    (hlegal : ∀ line ∈ program, ∃ mnemonic : Mnemonic,
      Text.equalIgnoringCase mnemonic.name line.word = true ∧ Legal mnemonic line.operands)
    (hdistinct : (program.filterMap SourceLine.label).Nodup)
    (hlarge : capacity < (program.map SourceLine.size).sum) :
    ofSource source = .error (.programTooLarge (program.map SourceLine.size).sum capacity) := by
  obtain ⟨lines, statements, hlines, hstatements, hsaid⟩ := hwrites.exists_ofLines
  obtain ⟨placed, hreads, hrepresents⟩ := exists_represents hsaid hlegal
  have hnames : statements.filterMap Statement.labelName = program.filterMap SourceLine.label :=
    filterMap_eq_of_forall₂ hsaid fun _ _ hline => hline.label
  have hsizes : placed.map PlacedStatement.size = program.map SourceLine.size :=
    map_eq_of_forall₂ hrepresents fun _ _ hline => hline.size
  have hlayout : Layout.ofStatements statements
      = .error (.programTooLarge (program.map SourceLine.size).sum capacity) := by
    refine (Layout.ofStatements_eq_error_iff hreads (hnames ▸ hdistinct)).mpr ?_
    rw [hsizes]
    exact ⟨hlarge, rfl⟩
  rw [ofSource_eq_ofStatements hlines hstatements, ofStatements, hlayout]

end Assembly

/-! ## The listing of a loaded image -/

namespace Listing

/-- A row with marks begins with the row. -/
theorem exists_markedRow_eq_append (row marks : String) :
    ∃ rest, markedRow row marks = row ++ rest := by
  unfold markedRow
  split
  · exact ⟨"", String.append_empty.symm⟩
  · exact ⟨_, String.append_assoc⟩

/-- The lines of a minimal listing are the rows of the machine. -/
theorem lines_ofMachine_minimal (coloured : Bool) (machine : Machine) :
    Text.lines (ofMachine ⟨true, coloured⟩ machine) = machineRows .plain machine := by
  have hrows : machineRows ⟨true, coloured⟩ machine = machineRows .plain machine := by
    unfold machineRows
    rw [memoryRow_minimal]
  unfold ofMachine
  rw [hrows]
  exact Text.lines_ofRows (feed_notMem_machineRows machine)

/-- **A minimal listing shows each word** in the decimal column of its row. -/
theorem exists_row_decimalColumn (coloured : Bool) {machine : Machine} {index : Nat} {word : Word}
    (hword : machine.memory.words.toList[index]? = some word) :
    ∃ row, (Text.lines (ofMachine ⟨true, coloured⟩ machine))[index]? = some row ∧
      decimalColumn row = Text.alignRight 3 ' ' (Text.decimal word.toNat) := by
  obtain ⟨hlength, -⟩ := List.getElem?_eq_some_iff.mp hword
  rw [Vector.length_toList] at hlength
  have hindex : index < 1000 := Nat.lt_trans hlength (by decide)
  obtain ⟨rest, hrow⟩ := exists_markedRow_eq_append (memoryRow .plain index word)
    (marks machine.memory.address machine.processor.programCounter index)
  refine ⟨memoryRow .plain index word ++ rest, ?_, decimalColumn_memoryRow hindex word rest⟩
  rw [lines_ofMachine_minimal, machineRows, List.getElem?_mapIdx, hword, Option.map_some, hrow]

/-- **A loaded image is listed** word by word. -/
theorem exists_row_of_load {image : List Word} {machine : Machine}
    (hload : Machine.load image = .ok machine) (coloured : Bool) {index : Nat} {word : Word}
    (hword : image[index]? = some word) :
    ∃ row, (Text.lines (ofMachine ⟨true, coloured⟩ machine))[index]? = some row ∧
      decimalColumn row = Text.alignRight 3 ' ' (Text.decimal word.toNat) := by
  obtain ⟨hfit, rfl⟩ := Machine.load_eq_ok_iff.mp hload
  obtain ⟨hindex, -⟩ := List.getElem?_eq_some_iff.mp hword
  have hloaded : (Memory.ofImage image).words.toList[index]? = some word := by
    rw [Memory.toList_words_ofImage hfit, List.getElem?_append_left hindex]
    exact hword
  exact exists_row_decimalColumn coloured hloaded

end Listing

namespace ImageSource

/-! ## The source -/

/-- The line of a byte. -/
def line (value : UInt8) : String :=
  "DB " ++ Text.decimal value.toNat

/-- **The source text of an image**: a line for each byte. -/
def source (image : List UInt8) : String :=
  "\n".intercalate (image.map line)

/-- **The program of an image**: a number as data for each byte. -/
def program (image : List UInt8) : List SourceLine :=
  image.map fun value => ⟨none, "DB", [.number value]⟩

/-- The terms of the line of a byte. -/
theorem writesTerms_line (value : UInt8) :
    WritesTerms (line value).toList [.identifier "DB", .number value] := by
  have htext : (line value).toList = ['D', 'B'] ++ ' ' :: (Text.decimal value.toNat).toList := by
    unfold line
    rw [String.toList_append]
    rfl
  have hword : IsWord (Text.decimal value.toNat).toList :=
    isWord_of_isDigit (Text.toList_decimal_ne_nil _) fun c hc => Text.isDigit_of_mem_decimal hc
  rw [htext]
  exact .data (.single hword (spells_decimal value))

/-- The line of a byte holds no line feed. -/
theorem feed_notMem_line (value : UInt8) : '\n' ∉ (line value).toList := by
  have hdigits : '\n' ∉ (Text.decimal value.toNat).toList :=
    fun hmem => absurd (Text.isDigit_of_mem_decimal hmem) (by decide)
  unfold line
  rw [String.toList_append, List.mem_append, not_or]
  exact ⟨by decide, hdigits⟩

/-- **The source of an image writes its program.** -/
theorem writesProgram_source (image : List UInt8) :
    WritesProgram (source image) (program image) := by
  by_cases hempty : image = []
  · subst hempty
    decide +kernel
  · refine ⟨(image.map line).map String.toList, (program image).map SourceLine.terms, ?_, ?_,
      (Text.toList_intercalate '\n' _).symm, ?_, ?_⟩
    · rw [List.map_map]
      exact mt List.map_eq_nil_iff.mp hempty
    · rw [List.map_map]
      exact List.forall_mem_map.mpr fun value _ => feed_notMem_line value
    · unfold program
      rw [List.map_map, List.map_map, List.forall₂_map_left_iff, List.forall₂_map_right_iff]
      exact List.forall₂_same.mpr fun value _ => writesTerms_line value
    · exact List.filter_eq_self.mpr
        (List.forall_mem_map.mpr fun one _ => decide_eq_true one.terms_ne_nil)

/-- The source of an image may end with a line feed. -/
theorem writesProgram_source_append {ending : String} (hending : ending ∈ ["", "\n"])
    (image : List UInt8) : WritesProgram (source image ++ ending) (program image) := by
  rcases List.mem_pair.mp hending with rfl | rfl
  · rw [String.append_empty]
    exact writesProgram_source image
  · exact (writesProgram_source image).feed

/-! ## The program -/

/-- The lines of the program are legal. -/
theorem legal_program (image : List UInt8) : ∀ line ∈ program image, ∃ mnemonic : Mnemonic,
    Text.equalIgnoringCase mnemonic.name line.word = true ∧ Legal mnemonic line.operands := by
  have hword : Text.equalIgnoringCase Mnemonic.data.name "DB" = true := by decide
  have hkind : TokenKind.number ∈ [TokenKind.address, .number, .string] := by decide
  exact List.forall_mem_map.mpr fun value _ => ⟨.data, hword, .number value, rfl, hkind⟩

/-- The program has no labels. -/
theorem labels_program (image : List UInt8) : (program image).filterMap SourceLine.label = [] := by
  unfold program
  rw [List.filterMap_map]
  exact List.filterMap_eq_nil_iff.mpr fun value _ => rfl

/-- The program has a word for each byte. -/
theorem size_program (image : List UInt8) :
    ((program image).map SourceLine.size).sum = image.length := by
  have hone : (program image).map SourceLine.size = List.replicate image.length 1 := by
    unfold program
    rw [List.map_map]
    exact List.map_const' ..
  rw [hone, List.sum_replicate_nat, Nat.mul_one]

/-- **The program is in the language** as long as memory has room for the image. -/
theorem inLanguage_program {image : List UInt8} (hfit : image.length ≤ 32) :
    InLanguage (program image) := by
  refine ⟨legal_program image, ?_, ?_, ?_⟩
  · rw [labels_program]
    exact List.nodup_nil
  · rw [size_program]
    exact hfit
  · refine List.forall_mem_map.mpr fun value _ name hname => ?_
    exact absurd (List.mem_singleton.mp hname) Term.noConfusion

/-- **The program in memory** is the image. -/
theorem words_program (image : List UInt8) : Program.words (program image) = image := by
  unfold Program.words
  generalize Program.resolve (program image) = find
  have hline : ∀ value : UInt8,
      Program.wordsOfLine find ⟨none, "DB", [.number value]⟩ = [value] := by
    intro value
    unfold Program.wordsOfLine
    rw [Mnemonic.ofName?_upperCase_data]
    rfl
  unfold program
  rw [List.flatMap_map]
  simp only [hline]
  exact List.flatMap_singleton' image

/-- The program has no symbols. -/
theorem symbols_program (image : List UInt8) : Program.symbols (program image) = [] := by
  unfold Program.symbols
  generalize Program.resolve (program image) = resolve
  unfold program
  rw [List.filterMap_map]
  exact List.filterMap_eq_nil_iff.mpr fun value _ => rfl

/-- The statements of the program from an address on. -/
theorem statementsFrom_program (find : String → UInt8) (start : Nat) (image : List UInt8) :
    Program.statementsFrom find start (program image) = image.mapIdx fun index value =>
      ⟨none, .data, [.byte value], UInt8.ofNat (start + index)⟩ := by
  induction image generalizing start with
  | nil => rfl
  | cons value rest ih =>
    have hfirst : Program.statement? find start ⟨none, "DB", [.number value]⟩
        = some ⟨none, .data, [.byte value], UInt8.ofNat start⟩ := by
      unfold Program.statement?
      rw [Mnemonic.ofName?_upperCase_data]
      rfl
    have hrest := ih (start + 1)
    simp only [Nat.add_right_comm start 1] at hrest
    show (Program.statement? find start ⟨none, "DB", [.number value]⟩).toList ++
      Program.statementsFrom find (start + 1) (program rest) = _
    rw [hfirst, hrest, List.mapIdx_cons]
    rfl

/-- **The statements of the program**: each byte is one, at its own address. -/
theorem statements_program (image : List UInt8) :
    Program.statements (program image) = image.mapIdx fun index value =>
      ⟨none, .data, [.byte value], UInt8.ofNat index⟩ := by
  unfold Program.statements
  rw [statementsFrom_program]
  simp only [Nat.zero_add]

/-! ## There and back -/

/-- **Every image has a source.** An image that memory has room for is assembled from
its source: its bytes are the words, there are no symbols, and each byte is a statement
at its own address. It loads, and the minimal listing of the machine shows each byte in
the decimal column of its row. A larger image is refused with the number of its bytes. -/
theorem ofSource_source (image : List UInt8) :
    ∀ ending ∈ ["", "\n"],
      (image.length ≤ 32 → ∃ assembly machine,
        Assembly.ofSource (source image ++ ending) = .ok assembly ∧ assembly.words = image ∧
        assembly.symbols = [] ∧
        assembly.statements = image.mapIdx (fun index value =>
          ⟨none, .data, [.byte value], UInt8.ofNat index⟩) ∧
        Machine.load assembly.words = .ok machine ∧
        ∀ (coloured : Bool) (index : Nat) (value : UInt8), image[index]? = some value →
          ∃ row, (Text.lines (Listing.ofMachine ⟨true, coloured⟩ machine))[index]? = some row ∧
            Listing.decimalColumn row = Text.alignRight 3 ' ' (Text.decimal value.toNat)) ∧
      (32 < image.length →
        Assembly.ofSource (source image ++ ending)
          = .error (.programTooLarge image.length 32)) := by
  intro ending hending
  have hwrites := writesProgram_source_append hending image
  constructor
  · intro hfit
    obtain ⟨assembly, hassembly, hwords, hsymbols, hstatements⟩ :=
      Assembly.exists_ofSource_eq_words hwrites (inLanguage_program hfit)
    rw [words_program] at hwords
    have hload : ∃ machine, Machine.load image = .ok machine :=
      ⟨_, Machine.load_eq_ok_iff.mpr ⟨hfit, rfl⟩⟩
    obtain ⟨machine, hload⟩ := hload
    exact ⟨assembly, machine, hassembly, hwords, hsymbols.trans (symbols_program image),
      hstatements.trans (statements_program image), hwords ▸ hload,
      fun coloured _ _ hvalue => Listing.exists_row_of_load hload coloured hvalue⟩
  · intro hlarge
    have hsize := size_program image
    have hdistinct : ((program image).filterMap SourceLine.label).Nodup := by
      rw [labels_program]
      exact List.nodup_nil
    have herror := Assembly.ofSource_eq_programTooLarge hwrites (legal_program image) hdistinct
      (hsize.symm ▸ hlarge)
    rw [hsize] at herror
    exact herror

/-- The source of a short image, one that fills memory to the last byte, and one that is a
byte too long. -/
theorem ofSource_source_boundary :
    let image : List UInt8 := List.replicate 31 9 ++ [255]
    (∃ assembly, Assembly.ofSource "DB 0\nDB 255\n" = .ok assembly ∧ assembly.words = [0, 255] ∧
      assembly.statements = [⟨none, .data, [.byte 0], 0⟩, ⟨none, .data, [.byte 255], 1⟩]) ∧
    (∃ assembly machine, Assembly.ofSource (source image) = .ok assembly ∧
      assembly.words = image ∧ Machine.load assembly.words = .ok machine ∧
      ∃ row, (Text.lines (Listing.ofMachine ⟨true, true⟩ machine))[31]? = some row ∧
        Listing.decimalColumn row = "255") ∧
    Assembly.ofSource (source (image ++ [0])) = .error (.programTooLarge 33 32) := by
  intro image
  obtain ⟨hshort, -⟩ := ofSource_source [0, 255] "\n" (by decide)
  obtain ⟨hfull, -⟩ := ofSource_source image "" (by decide)
  obtain ⟨-, hlong⟩ := ofSource_source (image ++ [0]) "" (by decide)
  obtain ⟨short, -, hassembly, hwords, -, hstatements, -⟩ := hshort (by decide)
  obtain ⟨full, machine, hfilled, hsame, -, -, hload, hlisted⟩ := hfull (by decide)
  obtain ⟨row, hrow, hcolumn⟩ := hlisted true 31 255 (by decide)
  have hlast : Text.alignRight 3 ' ' (Text.decimal (255 : UInt8).toNat) = "255" := by decide
  rw [String.append_empty] at hfilled hlong
  exact ⟨⟨short, hassembly, hwords, hstatements⟩,
    ⟨full, machine, hfilled, hsame, hload, row, hrow, hcolumn.trans hlast⟩, hlong (by decide)⟩

end ImageSource

end AccumulatorMachine
