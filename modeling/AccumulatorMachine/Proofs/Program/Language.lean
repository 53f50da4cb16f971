import AccumulatorMachine.Proofs.Program.Acceptance
import AccumulatorMachine.Proofs.Program.Capitals
import AccumulatorMachine.Proofs.Program.Operands

/-!
# The language

Which source texts assemble is said here without a word about tokens, statements
or layouts: `WritesProgram` is the grammar of texts, and `InLanguage` says what
the lines of a program must satisfy. `Assembly.exists_ofSource_iff` is the
agreement of the two with the assembler, in both directions: nothing illegal gets
through one of its stages, and no stage rejects anything legal.
-/

namespace AccumulatorMachine

/-! ## What a program must satisfy -/

/-- **The operands that an instruction can stand with.** -/
def Legal : Mnemonic → List Term → Prop
  | .data, operands =>
    ∃ operand : Term, operands = [operand] ∧ operand.kind ∈ [.address, .number, .string]
  | .operate, operands =>
    1 ≤ operands.length ∧ operands.length ≤ 5 ∧ ∀ operand ∈ operands, ∃ name, ∃ op : Operator,
      operand = .identifier name ∧ Text.equalIgnoringCase op.mnemonic name = true
  | .operator _, operands => operands = []
  | .addressed _, operands => ∃ name, operands = [.address name]
  | .output, operands => operands = []

/-- **The number of words of a line**: one more than the bytes of its string, if
it has one, and one otherwise. -/
def SourceLine.size (line : SourceLine) : Nat :=
  match line.operands with
  | .string values :: _ => values.length + 1
  | _ => 1

/-- **A program of the language.** -/
structure InLanguage (program : List SourceLine) : Prop where
  /-- Each line is an instruction with operands that it can stand with. -/
  legal : ∀ line ∈ program, ∃ mnemonic : Mnemonic,
    Text.equalIgnoringCase mnemonic.name line.word = true ∧ Legal mnemonic line.operands
  /-- No two lines have the same label. -/
  distinct : (program.filterMap SourceLine.label).Nodup
  /-- The words fit into memory. -/
  fits : (program.map SourceLine.size).sum ≤ 32
  /-- Each address is that of a label in front of some line. -/
  closed : ∀ line ∈ program, ∀ name, Term.address name ∈ line.operands →
    ∃ other ∈ program, other.label = some name

/-! ## Operands -/

/-- An operator has some name exactly if it is found by it. -/
theorem Operator.exists_ofName?_iff {name : String} :
    (∃ op, ofName? name = some op) ↔
      ∃ op : Operator, Text.equalIgnoringCase op.mnemonic name = true := by
  have hall : ∀ op : Operator, op ∈ all := fun op => by cases op <;> decide
  unfold ofName?
  rw [← Option.isSome_iff_exists, List.find?_isSome]
  constructor
  · rintro ⟨op, -, hop⟩
    exact ⟨op, hop⟩
  · rintro ⟨op, hop⟩
    exact ⟨op, hall op, hop⟩

/-- A term fits an instruction if it is of a kind that the instruction takes, and
names an operator if it is an identifier. -/
def Term.Fits (term : Term) (mnemonic : Mnemonic) : Prop :=
  term.kind ∈ mnemonic.kinds ∧
    ∀ name, term = .identifier name → ∃ op, Operator.ofName? name = some op

/-- An instruction that takes no operands stands with none. -/
theorem eq_nil_iff_fits {mnemonic : Mnemonic} {operands : List Term} :
    operands = [] ↔
      (0 == operands.length) = true ∧ ∀ operand ∈ operands, operand.Fits mnemonic := by
  rw [beq_iff_eq]
  constructor
  · rintro rfl
    exact ⟨rfl, fun operand h => absurd h List.not_mem_nil⟩
  · rintro ⟨hlength, -⟩
    exact List.eq_nil_of_length_eq_zero hlength.symm

/-- An instruction that takes one operand stands with one. -/
theorem exists_eq_singleton_iff_fits {mnemonic : Mnemonic} {operands : List Term} :
    (∃ operand : Term, operands = [operand] ∧ operand.Fits mnemonic) ↔
      (1 == operands.length) = true ∧ ∀ operand ∈ operands, operand.Fits mnemonic := by
  rw [beq_iff_eq]
  constructor
  · rintro ⟨operand, rfl, hfits⟩
    exact ⟨rfl, fun other h => List.mem_singleton.mp h ▸ hfits⟩
  · rintro ⟨hlength, hall⟩
    obtain ⟨operand, rfl⟩ := List.length_eq_one_iff.mp hlength.symm
    exact ⟨operand, rfl, hall operand List.mem_cons_self⟩

/-- **The operands of an instruction are legal** if it takes so many and each of
them fits. -/
theorem legal_iff {mnemonic : Mnemonic} {operands : List Term} :
    Legal mnemonic operands ↔
      mnemonic.signature.acceptsCount operands.length = true ∧
        ∀ operand ∈ operands, operand.Fits mnemonic := by
  rcases mnemonic with _ | _ | op | op | _
  · -- data: the kinds leave no identifier
    refine Iff.trans ?_ exists_eq_singleton_iff_fits
    refine exists_congr fun operand => and_congr_right fun _ => ⟨fun hkind => ⟨hkind, ?_⟩, And.left⟩
    rintro name rfl
    exact absurd hkind (by simp [Term.kind])
  · -- several operators: identifiers only
    show 1 ≤ operands.length ∧ operands.length ≤ 5 ∧ _ ↔
      (decide (1 ≤ operands.length) && decide (operands.length ≤ 5)) = true ∧ _
    rw [Bool.and_eq_true, decide_eq_true_iff, decide_eq_true_iff, and_assoc]
    refine and_congr_right fun _ => and_congr_right fun _ => forall₂_congr fun operand _ => ?_
    unfold Term.Fits
    simp only [Operator.exists_ofName?_iff]
    constructor
    · rintro ⟨name, op, rfl, hop⟩
      refine ⟨List.mem_singleton_self _, fun other hother => ?_⟩
      obtain rfl := Term.identifier.inj hother
      exact ⟨op, hop⟩
    · rintro ⟨hkind, hop⟩
      cases operand with
      | identifier name =>
        obtain ⟨op, hname⟩ := hop name rfl
        exact ⟨name, op, rfl, hname⟩
      | _ => exact absurd hkind (by simp [Term.kind, Mnemonic.kinds])
  · exact eq_nil_iff_fits
  · -- an address
    refine Iff.trans ⟨?_, ?_⟩ exists_eq_singleton_iff_fits
    · rintro ⟨name, rfl⟩
      exact ⟨_, rfl, List.mem_singleton_self _, fun other h => absurd h (by simp)⟩
    · rintro ⟨operand, rfl, hkind, -⟩
      cases operand with
      | address name => exact ⟨name, rfl⟩
      | _ => exact absurd hkind (by simp [Term.kind, Mnemonic.kinds])
  · exact eq_nil_iff_fits

/-- **Operands are understood exactly if they are legal.** -/
theorem Layout.exists_operands_iff {mnemonic : Mnemonic} {span : Span} {tokens : List Token}
    {terms : List Term} (hsaid : List.Forall₂ Token.Says tokens terms) :
    (∃ understood, operands mnemonic span tokens = .ok understood) ↔ Legal mnemonic terms := by
  simp only [operands_eq_ok_iff, exists_and_left, exists_forall₂_iff]
  rw [legal_iff, hsaid.length_eq]
  refine and_congr_right fun _ => forall_mem_iff_of_forall₂ hsaid fun token term hterm => ?_
  unfold Term.Fits
  rw [hterm.kind]
  exact and_congr_right fun hkind =>
    Operand.exists_ofToken_iff hterm (Mnemonic.ne_label_of_mem_kinds hkind)

/-- Only data stands with a string. -/
theorem Legal.eq_data {mnemonic : Mnemonic} {values : List UInt8} {rest : List Term}
    (h : Legal mnemonic (.string values :: rest)) : mnemonic = .data := by
  have hkind : TokenKind.string ∈ mnemonic.kinds :=
    ((legal_iff.mp h).2 _ List.mem_cons_self).1
  rcases mnemonic with _ | _ | op | op | _
  · rfl
  all_goals exact absurd hkind (by simp [Mnemonic.kinds])

/-- **The size of an instruction is the size of its line.** -/
theorem Mnemonic.size_eq_of_denotes {mnemonic : Mnemonic} {line : SourceLine}
    {operands : List (Operand Reference)} (hlegal : Legal mnemonic line.operands)
    (h : List.Forall₂ Term.Denotes line.operands operands) :
    mnemonic.size operands = line.size := by
  obtain ⟨label, word, terms⟩ := line
  cases h with
  | nil => cases mnemonic <;> rfl
  | cons hterm _ =>
    cases hterm with
    | string =>
      obtain rfl := hlegal.eq_data
      rfl
    | address => cases mnemonic <;> rfl
    | number => cases mnemonic <;> rfl
    | identifier => cases mnemonic <;> rfl

/-! ## Lines and statements -/

/-- **A placed statement represents a line** if it has its label, its
instruction, its operands and its size. -/
structure PlacedStatement.Represents (placed : PlacedStatement) (line : SourceLine) : Prop where
  /-- The label is the same. -/
  label : placed.labelName = line.label
  /-- The instruction has the identifier as its mnemonic, in some case. -/
  mnemonic : Text.equalIgnoringCase placed.mnemonic.name line.word = true
  /-- The instruction can stand with the operands. -/
  legal : Legal placed.mnemonic line.operands
  /-- The operands are what those of the line denote. -/
  operands : List.Forall₂ Term.Denotes line.operands placed.operands
  /-- The size is that of the line. -/
  size : placed.size = line.size

/-- **A reading of a statement represents the line that it says.** -/
theorem PlacedStatement.Reads.represents {placed : PlacedStatement} {statement : Statement}
    {line : SourceLine} (h : placed.Reads statement) (hsaid : statement.Says line) :
    placed.Represents line := by
  have hoperands := Layout.denotes_of_operands hsaid.operands h.operands
  have hlegal : Legal placed.mnemonic line.operands :=
    (Layout.exists_operands_iff hsaid.operands).mp ⟨_, h.operands⟩
  refine ⟨?_, ?_, hlegal, hoperands, ?_⟩
  · unfold labelName
    rw [h.label, hsaid.label]
  · have hfound := h.mnemonic
    rw [hsaid.mnemonic] at hfound
    exact (Mnemonic.ofName?_upperCase_eq_some_iff hsaid.name).mp hfound
  · rw [h.size, Mnemonic.size_eq_of_denotes hlegal hoperands]

/-- **A statement can be read** if the line that it says is an instruction with
legal operands. -/
theorem Statement.Says.exists_reads {statement : Statement} {line : SourceLine}
    (hsaid : statement.Says line) {mnemonic : Mnemonic}
    (hmnemonic : Text.equalIgnoringCase mnemonic.name line.word = true)
    (hlegal : Legal mnemonic line.operands) :
    ∃ placed : PlacedStatement, placed.Reads statement := by
  have hoperands : ∃ understood,
      Layout.operands mnemonic statement.span statement.operands = .ok understood :=
    (Layout.exists_operands_iff hsaid.operands).mpr hlegal
  obtain ⟨understood, hunderstood⟩ := hoperands
  refine ⟨⟨statement.label, mnemonic, understood, 0, mnemonic.size understood, statement.span⟩, rfl,
    ?_, hunderstood, rfl, rfl⟩
  rw [hsaid.mnemonic]
  exact (Mnemonic.ofName?_upperCase_eq_some_iff hsaid.name).mpr hmnemonic

/-- The statements of a line name the labels that its operands do. -/
theorem PlacedStatement.Represents.exists_reference_iff {placed : PlacedStatement}
    {line : SourceLine} (h : placed.Represents line) {name : String} :
    (∃ reference : Reference, reference.label = name ∧
        Operand.address reference ∈ placed.operands) ↔
      Term.address name ∈ line.operands := by
  constructor
  · rintro ⟨reference, rfl, hmem⟩
    obtain ⟨term, hterm, hdenotes⟩ := exists_mem_of_forall₂ h.operands.flip hmem
    cases hdenotes with
    | address => exact hterm
  · intro hmem
    obtain ⟨operand, hoperand, hdenotes⟩ := exists_mem_of_forall₂ h.operands hmem
    cases hdenotes with
    | address => exact ⟨_, rfl, hoperand⟩

/-- **A program is in the language** exactly if readings that represent its lines
make an assembly. -/
theorem inLanguage_iff {placed : List PlacedStatement} {program : List SourceLine}
    (h : List.Forall₂ PlacedStatement.Represents placed program) :
    InLanguage program ↔
      (placed.filterMap PlacedStatement.labelName).Nodup ∧
        (placed.map PlacedStatement.size).sum ≤ capacity ∧ Layout.Closed placed := by
  have hnames : placed.filterMap PlacedStatement.labelName = program.filterMap SourceLine.label :=
    filterMap_eq_of_forall₂ h fun reading line hline => hline.label
  have hsizes : placed.map PlacedStatement.size = program.map SourceLine.size :=
    map_eq_of_forall₂ h fun reading line hline => hline.size
  have hclosed : Layout.Closed placed ↔ ∀ line ∈ program, ∀ name,
      Term.address name ∈ line.operands → ∃ other ∈ program, other.label = some name := by
    unfold Layout.Closed
    rw [hnames]
    refine forall_mem_iff_of_forall₂ h fun reading line hline => ?_
    simp only [← hline.exists_reference_iff, List.mem_filterMap]
    constructor
    · rintro hall name ⟨reference, rfl, hmem⟩
      exact hall reference hmem
    · intro hall reference hmem
      exact hall reference.label ⟨reference, rfl, hmem⟩
  rw [hnames, hsizes, hclosed]
  constructor
  · rintro ⟨-, hdistinct, hfits, hall⟩
    exact ⟨hdistinct, hfits, hall⟩
  · rintro ⟨hdistinct, hfits, hall⟩
    refine ⟨fun line hmem => ?_, hdistinct, hfits, hall⟩
    obtain ⟨reading, -, hline⟩ := exists_mem_of_forall₂ h.flip hmem
    exact ⟨reading.mnemonic, hline.mnemonic, hline.legal⟩

/-- **Statements whose lines are legal have readings**, at no address in particular,
which represent these lines. -/
theorem exists_represents {statements : List Statement} {program : List SourceLine}
    (hsaid : List.Forall₂ Statement.Says statements program)
    (hlegal : ∀ line ∈ program, ∃ mnemonic : Mnemonic,
      Text.equalIgnoringCase mnemonic.name line.word = true ∧ Legal mnemonic line.operands) :
    ∃ placed, List.Forall₂ PlacedStatement.Reads placed statements ∧
      List.Forall₂ PlacedStatement.Represents placed program := by
  have hreadings : ∃ placed, List.Forall₂ (flip PlacedStatement.Reads) statements placed := by
    refine exists_forall₂_iff.mpr fun statement hmem => ?_
    obtain ⟨line, hline, hone⟩ := exists_mem_of_forall₂ hsaid hmem
    obtain ⟨mnemonic, hmnemonic, hoperands⟩ := hlegal line hline
    exact hone.exists_reads hmnemonic hoperands
  obtain ⟨placed, hreads⟩ := hreadings
  exact ⟨placed, hreads.flip, forall₂_of_forall₂ hreads hsaid
    fun statement reading line hread hline => PlacedStatement.Reads.represents hread hline⟩

/-- **Statements assemble** exactly if the lines that they say are in the
language. -/
theorem Assembly.exists_ofStatements_iff_inLanguage {statements : List Statement}
    {program : List SourceLine} (hsaid : List.Forall₂ Statement.Says statements program) :
    (∃ assembly, ofStatements statements = .ok assembly) ↔ InLanguage program := by
  rw [exists_ofStatements_iff]
  constructor
  · rintro ⟨placed, hreads, hplaced⟩
    have hrepresents := forall₂_of_forall₂ hreads.flip hsaid
      fun statement reading line hread hline => PlacedStatement.Reads.represents hread hline
    exact (inLanguage_iff hrepresents).mpr hplaced
  · intro h
    obtain ⟨placed, hreads, hrepresents⟩ := exists_represents hsaid h.legal
    exact ⟨placed, hreads, (inLanguage_iff hrepresents).mp h⟩

namespace Assembly

/-- **The assembler accepts exactly its language.** A source text assembles if and
only if it writes a program of the language. -/
theorem exists_ofSource_iff {source : String} :
    (∃ assembly, ofSource source = .ok assembly) ↔
      ∃ program, WritesProgram source program ∧ InLanguage program := by
  constructor
  · rintro ⟨assembly, h⟩
    obtain ⟨lines, statements, hlines, hstatements, h⟩ := ofSource_eq_ok_iff_ofStatements.mp h
    obtain ⟨program, hprogram, hsaid⟩ := writesProgram_of_ofLines hlines hstatements
    exact ⟨program, hprogram, (exists_ofStatements_iff_inLanguage hsaid).mp ⟨assembly, h⟩⟩
  · rintro ⟨program, hprogram, hlanguage⟩
    obtain ⟨lines, statements, hlines, hstatements, hsaid⟩ := hprogram.exists_ofLines
    obtain ⟨assembly, hassembly⟩ := (exists_ofStatements_iff_inLanguage hsaid).mpr hlanguage
    exact ⟨assembly, ofSource_eq_ok_iff_ofStatements.mpr
      ⟨lines, statements, hlines, hstatements, hassembly⟩⟩

end Assembly

end AccumulatorMachine
