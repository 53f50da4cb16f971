import AccumulatorMachine.Proofs.Program.Language
import AccumulatorMachine.Proofs.Program.Sizes

/-!
# What a program is in memory

The words of a program can be given without its layout: a line stands behind the
words of the lines before it, a label is the address of the line that has it, and a
line becomes the words of its instruction with the operands that its terms denote
(`Program.words`). Its labels and its statements are found in the same way
(`Program.symbols`, `Program.statements`). These are functions of the program alone, so
that they can be evaluated, and `Assembly.exists_ofSource_eq_words` says that a source
text which writes a program of the language is assembled to them.
-/

namespace AccumulatorMachine

/-- Data is found by its name. -/
theorem Mnemonic.ofName?_upperCase_data : ofName? (Text.upperCase "DB") = some .data := by decide

namespace Program

/-- **The address of a label**: the number of words in front of the first line that
has it. -/
def address (program : List SourceLine) (name : String) : Nat :=
  ((program.takeWhile fun line => line.label != some name).map SourceLine.size).sum

/-- The address of a label as an operand has it. -/
def resolve (program : List SourceLine) (name : String) : UInt8 :=
  UInt8.ofNat (address program name)

/-- The operand that a term denotes, where `find` gives the addresses of labels. -/
def operand? (find : String → UInt8) : Term → Option (Operand UInt8)
  | .label _ => none
  | .address name => some (.address (find name))
  | .number value => some (.byte value)
  | .string values => some (.bytes values)
  | .identifier name => (Operator.ofName? name).map .operator

/-- The words of one line, where `find` gives the addresses of labels. -/
def wordsOfLine (find : String → UInt8) (line : SourceLine) : List Word :=
  match Mnemonic.ofName? (Text.upperCase line.word) with
  | some mnemonic => mnemonic.encode (line.operands.filterMap (operand? find))
  | none => []

/-- **The words of a program.** -/
def words (program : List SourceLine) : List Word :=
  program.flatMap (wordsOfLine (resolve program))

/-- **The labels of a program** with their addresses. -/
def symbols (program : List SourceLine) : List (String × UInt8) :=
  program.filterMap fun line => line.label.map fun name => (name, resolve program name)

/-- What a line becomes at an address, where `find` gives the addresses of labels. -/
def statement? (find : String → UInt8) (address : Nat) (line : SourceLine) :
    Option AssembledStatement :=
  (Mnemonic.ofName? (Text.upperCase line.word)).map fun mnemonic =>
    { label := line.label
      mnemonic := mnemonic
      operands := line.operands.filterMap (operand? find)
      address := UInt8.ofNat address }

/-- What lines become from an address on, where `find` gives the addresses of labels. -/
def statementsFrom (find : String → UInt8) : Nat → List SourceLine → List AssembledStatement
  | _, [] => []
  | address, line :: behind =>
    (statement? find address line).toList ++ statementsFrom find (address + line.size) behind

/-- **The statements of a program**, each behind the words of those before it. -/
def statements (program : List SourceLine) : List AssembledStatement :=
  statementsFrom (resolve program) 0 program

/-- The label of a line that no line in front of it has. -/
theorem address_append_cons {before behind : List SourceLine} {line : SourceLine} {name : String}
    (hname : line.label = some name) (hbefore : ∀ other ∈ before, other.label ≠ some name) :
    address (before ++ line :: behind) name = (before.map SourceLine.size).sum := by
  have hline : ¬ (line.label != some name) = true := by
    rw [hname, bne_self_eq_false]
    exact Bool.false_ne_true
  have htaken : (before ++ line :: behind).takeWhile (fun other => other.label != some name)
      = before := by
    rw [List.takeWhile_append_of_pos fun other hmem => bne_iff_ne.mpr (hbefore other hmem),
      List.takeWhile_cons, if_neg hline, List.append_nil]
  unfold address
  rw [htaken]

end Program

namespace Layout

/-- **A statement stands where the program says that its label is.** -/
theorem Sound.address_eq {layout : Layout} (h : layout.Sound) {program : List SourceLine}
    (hrepresents : List.Forall₂ PlacedStatement.Represents layout.statements program)
    {placed : PlacedStatement} (hmem : placed ∈ layout.statements) {name : String}
    (hname : placed.labelName = some name) : placed.address = Program.address program name := by
  obtain ⟨before, behind, hsplit⟩ := List.append_of_mem hmem
  have hdistinct := h.distinct
  rw [hsplit] at hrepresents hdistinct
  obtain ⟨front, line, back, rfl, hfront, hline⟩ := exists_append_of_forall₂ hrepresents
  -- no line in front of this one has its label
  have hother : ∀ other ∈ front, other.label ≠ some name := by
    intro other hother heq
    obtain ⟨first, hfirst, hrepresented⟩ := exists_mem_of_forall₂ hfront.flip hother
    rw [List.filterMap_append, List.filterMap_cons_some hname] at hdistinct
    refine (List.nodup_append.mp hdistinct).2.2 name ?_ name List.mem_cons_self rfl
    exact List.mem_filterMap.mpr ⟨first, hfirst, hrepresented.label.trans heq⟩
  rw [Program.address_append_cons (hline.label.symm.trans hname) hother,
    h.addresses before placed behind hsplit,
    map_eq_of_forall₂ hfront fun _ _ hrepresented => hrepresented.size]

/-- The operands of a linked statement are those of its line, with the addresses of
the labels. -/
theorem Links.operands_eq {layout : Layout} {placed : PlacedStatement}
    {assembled : AssembledStatement} {line : SourceLine} {find : String → UInt8}
    (h : layout.Links placed assembled) (hline : placed.Represents line)
    (hfind : ∀ reference address, layout.addressOf reference = .ok address →
      address = find reference.label) :
    line.operands.filterMap (Program.operand? find) = assembled.operands := by
  have hoperands : List.Forall₂ (fun term operand => Program.operand? find term = some operand)
      line.operands assembled.operands := by
    refine forall₂_of_forall₂ hline.operands.flip h.forall₂
      fun operand term found hterm hfound => ?_
    cases hterm with
    | address =>
      obtain ⟨address, haddress, rfl⟩ := map_eq_ok_iff.mp hfound
      rw [Program.operand?, hfind _ _ haddress]
    | number =>
      obtain rfl := Except.ok.inj hfound
      rfl
    | string =>
      obtain rfl := Except.ok.inj hfound
      rfl
    | identifier hop =>
      obtain rfl := Except.ok.inj hfound
      rw [Program.operand?, hop]
      rfl
  exact (filterMap_eq_of_forall₂ hoperands fun _ _ heq => heq).trans (List.filterMap_some)

/-- **A linked statement has the words of its line.** -/
theorem Links.words_eq {layout : Layout} {placed : PlacedStatement}
    {assembled : AssembledStatement} {line : SourceLine} {find : String → UInt8}
    (h : layout.Links placed assembled) (hline : placed.Represents line)
    (hname : IsName line.word.toList)
    (hfind : ∀ reference address, layout.addressOf reference = .ok address →
      address = find reference.label) :
    assembled.words = Program.wordsOfLine find line := by
  unfold Program.wordsOfLine AssembledStatement.words
  rw [(Mnemonic.ofName?_upperCase_eq_some_iff hname).mpr hline.mnemonic, h.mnemonic,
    h.operands_eq hline hfind]

/-- **A linked statement is what its line becomes** at its address. -/
theorem Links.statement?_eq {layout : Layout} {placed : PlacedStatement}
    {assembled : AssembledStatement} {line : SourceLine} {find : String → UInt8}
    (h : layout.Links placed assembled) (hline : placed.Represents line)
    (hname : IsName line.word.toList)
    (hfind : ∀ reference address, layout.addressOf reference = .ok address →
      address = find reference.label) :
    Program.statement? find placed.address line = some assembled := by
  unfold Program.statement?
  rw [(Mnemonic.ofName?_upperCase_eq_some_iff hname).mpr hline.mnemonic,
    h.operands_eq hline hfind, ← hline.label, ← h.label, ← h.mnemonic, ← h.address]
  rfl

/-- **Linked statements are what their lines become**, if each stands behind the sizes of
those before it. -/
theorem statementsFrom_eq {layout : Layout} {placed : List PlacedStatement}
    {linked : List AssembledStatement} {program : List SourceLine} {find : String → UInt8}
    {start : Nat} (hlinked : List.Forall₂ layout.Links placed linked)
    (hlines : List.Forall₂ (fun placed line =>
      placed.Represents line ∧ IsName line.word.toList) placed program)
    (hfind : ∀ reference address, layout.addressOf reference = .ok address →
      address = find reference.label)
    (haddress : ∀ before one behind, placed = before ++ one :: behind →
      one.address = start + (before.map PlacedStatement.size).sum) :
    Program.statementsFrom find start program = linked := by
  induction hlinked generalizing program start with
  | nil =>
    cases hlines
    rfl
  | @cons first assembled rest others hfirst _ ih =>
    obtain ⟨line, behind, hline, hbehind, rfl⟩ := List.forall₂_cons_left_iff.mp hlines
    have hstart : first.address = start := haddress [] first rest rfl
    -- the rest begins where the first statement ends
    have hrest : ∀ before one behind, rest = before ++ one :: behind →
        one.address = start + line.size + (before.map PlacedStatement.size).sum := by
      rintro before one behind rfl
      rw [haddress (first :: before) one behind rfl, List.map_cons, List.sum_cons, hline.1.size,
        Nat.add_assoc]
    rw [Program.statementsFrom, ih hbehind hrest, ← hstart,
      hfirst.statement?_eq hline.1 hline.2 hfind]
    rfl

/-- A linked statement has the symbol of its line. -/
theorem Sound.symbol_eq {layout : Layout} (h : layout.Sound) {program : List SourceLine}
    (hrepresents : List.Forall₂ PlacedStatement.Represents layout.statements program)
    {placed : PlacedStatement} {assembled : AssembledStatement} {line : SourceLine}
    (hmem : placed ∈ layout.statements) (hlinks : layout.Links placed assembled)
    (hline : placed.Represents line) :
    (assembled.label.map fun name => (name, assembled.address)) =
      line.label.map fun name => (name, Program.resolve program name) := by
  rw [hlinks.label, ← hline.label, hlinks.address]
  cases hname : placed.labelName with
  | none => rfl
  | some name =>
    rw [h.address_eq hrepresents hmem hname]
    rfl

end Layout

namespace Assembly

/-- **A program of the language is assembled to its words**, its labels and its
statements. -/
theorem exists_ofSource_eq_words {source : String} {program : List SourceLine}
    (hwrites : WritesProgram source program) (hlanguage : InLanguage program) :
    ∃ assembly, ofSource source = .ok assembly ∧ assembly.words = Program.words program ∧
      assembly.symbols = Program.symbols program ∧
      assembly.statements = Program.statements program := by
  obtain ⟨lines, statements, hlines, hstatements, hsaid⟩ := hwrites.exists_ofLines
  obtain ⟨assembly, hassembly⟩ := (exists_ofStatements_iff_inLanguage hsaid).mpr hlanguage
  obtain ⟨layout, linked, hlayout, hlinked, rfl⟩ := ofStatements_eq_ok_iff.mp hassembly
  obtain ⟨hsound, hreads, -⟩ := Layout.ofStatements_eq_ok hlayout
  have hlinks := Layout.linked_of_ofStatements hlayout hlinked
  have hboth := forall₂_of_forall₂ hreads.flip hsaid fun statement placed line hread hline =>
    (⟨hread.represents hline, hline.name⟩ : placed.Represents line ∧ IsName line.word.toList)
  have hrepresents := hboth.imp fun placed line hline => hline.1
  have hresolve : ∀ reference address, layout.addressOf reference = .ok address →
      address = Program.resolve program reference.label := by
    intro reference address haddress
    obtain ⟨placed, hmem, hname, rfl⟩ := hsound.addressOf_eq_ok_iff.mp haddress
    rw [hsound.address_eq hrepresents hmem hname]
    rfl
  refine ⟨_, ofSource_eq_ok_iff_ofStatements.mpr
    ⟨lines, statements, hlines, hstatements, hassembly⟩, ?_, ?_, ?_⟩
  · have hwords : List.Forall₂ (fun assembled line =>
        assembled.words = Program.wordsOfLine (Program.resolve program) line) linked program :=
      forall₂_of_forall₂ hlinked hboth fun placed assembled line hone hline =>
        hone.words_eq hline.1 hline.2 hresolve
    exact congrArg List.flatten (map_eq_of_forall₂ hwords fun _ _ heq => heq)
  · have hmembers := forall₂_imp_of_mem hlinked fun placed hmem assembled hone =>
      (⟨hmem, hone⟩ : placed ∈ layout.statements ∧ layout.Links placed assembled)
    have hsymbols := forall₂_of_forall₂ hmembers hrepresents fun placed assembled line hone hline =>
      hsound.symbol_eq hrepresents hone.1 hone.2 hline
    exact hlinks.symbolTable_eq.trans (filterMap_eq_of_forall₂ hsymbols fun _ _ heq => heq)
  · refine (Layout.statementsFrom_eq hlinked hboth hresolve fun before one behind hsplit => ?_).symm
    rw [hsound.addresses before one behind hsplit, Nat.zero_add]

end Assembly

end AccumulatorMachine
