import AccumulatorMachine.Program.Assembly
import AccumulatorMachine.Proofs.Lists
import Mathlib.Logic.Function.Basic

/-!
# Other names, places and spellings

The stages behind the parser ask three things of the names of labels: whether two are
the same, which name a label is registered with, and which name a fault is about. They ask
nothing of places but to hand them on to faults, and nothing at all of the text that an
operand was written as.

A `Recasting` replaces all three at once: names by names that differ where they did,
places and texts of operands by any others. Every stage commutes with it
(`Layout.place_recast`, `Layout.placeAll_recast`, `Layout.assembledStatements_recast` and
their companions), and so does assembling statements (`Assembly.ofStatements_recast`).
The one place where distinct names must stay distinct is looking up a label
(`Recasting.lookup_labels`).
-/

namespace AccumulatorMachine

/-! ## Recasting -/

/-- **Other names, places and spellings.** Names that differ are given names that differ. -/
structure Recasting where
  /-- The name for a name. -/
  name : String → String
  /-- The place for a place. -/
  place : Span → Span
  /-- What an operand is written as. -/
  literal : Token → String
  /-- Names that differ still differ. -/
  injective : Function.Injective name

namespace Recasting

variable (r : Recasting)

/-- The label with another name and place. -/
def label (label : Label) : Label :=
  ⟨r.name label.name, r.place label.span⟩

/-- The meaning of an address, with another name. -/
def value : TokenValue → TokenValue
  | .name text => .name (r.name text)
  | .byte value => .byte value
  | .bytes values => .bytes values

/-- **The operand with another place and spelling**, and, if it is an address, with
another name. The names of operators stay. -/
def token (token : Token) : Token where
  kind := token.kind
  literal := r.literal token
  value := if token.kind = .address then r.value token.value else token.value
  span := r.place token.span

/-- **The statement with other names, places and spellings.** Its mnemonic stays. -/
def statement (statement : Statement) : Statement where
  label := statement.label.map r.label
  mnemonic := statement.mnemonic
  span := r.place statement.span
  operands := statement.operands.map r.token

/-- The reference to the label with another name, from another place. -/
def reference (reference : Reference) : Reference :=
  ⟨r.name reference.label, r.place reference.span⟩

/-- The operand with another reference, if it is an address. -/
def operand : Operand Reference → Operand Reference
  | .address target => .address (r.reference target)
  | .byte value => .byte value
  | .bytes values => .bytes values
  | .operator op => .operator op

/-- The placed statement with other names and places in the source. -/
def placed (placed : PlacedStatement) : PlacedStatement :=
  { placed with
    label := placed.label.map r.label
    operands := placed.operands.map r.operand
    span := r.place placed.span }

/-- The names of a list of labels replaced. -/
def labels {α : Type} (labels : List (String × α)) : List (String × α) :=
  labels.map fun entry => (r.name entry.1, entry.2)

/-- **The layout with other names and places in the source.** -/
def layout (layout : Layout) : Layout :=
  ⟨layout.statements.map r.placed, r.labels layout.labels⟩

/-- The assembled statement with another name for its label. -/
def assembled (statement : AssembledStatement) : AssembledStatement :=
  { statement with label := statement.label.map r.name }

/-- **The assembly with other names.** Its words stay. -/
def assembly (assembly : Assembly) : Assembly where
  words := assembly.words
  symbols := r.labels assembly.symbols
  statements := assembly.statements.map r.assembled

/-- **The fault with other places**, and with another name for the label that it is
about. -/
def fault : Fault → Fault
  | .unknownToken token span => .unknownToken token (r.place span)
  | .invalidLiteral token flaw span => .invalidLiteral token flaw (r.place span)
  | .unterminatedString span => .unterminatedString (r.place span)
  | .expectedInstruction found span => .expectedInstruction found (r.place span)
  | .unknownInstruction mnemonic span => .unknownInstruction mnemonic (r.place span)
  | .unknownOperator name span => .unknownOperator name (r.place span)
  | .duplicateLabel label span first =>
    .duplicateLabel (r.name label) (r.place span) (r.place first)
  | .wrongArity mnemonic expected found span =>
    .wrongArity mnemonic expected found (r.place span)
  | .wrongKind mnemonic index expected found span =>
    .wrongKind mnemonic index expected found (r.place span)
  | .unresolvedReference label span => .unresolvedReference (r.name label) (r.place span)
  | .programTooLarge size capacity => .programTooLarge size capacity

/-- **A label is found under its other name**, since no other label has it. -/
theorem lookup_labels {α : Type} (labels : List (String × α)) (label : String) :
    (r.labels labels).lookup (r.name label) = labels.lookup label := by
  induction labels with
  | nil => rfl
  | cons entry labels ih =>
    rw [Recasting.labels, List.map_cons, List.lookup_cons, List.lookup_cons, r.injective.beq_eq]
    cases label == entry.1 with
    | true => rfl
    | false => exact ih

/-- As many statements are placed. -/
@[simp] theorem length_layout (layout : Layout) : (r.layout layout).length = layout.length :=
  List.length_map _

/-- The statement at an index of a layout. -/
@[simp] theorem getElem?_layout (layout : Layout) (index : Nat) :
    (r.layout layout).statements[index]? = layout.statements[index]?.map r.placed :=
  List.getElem?_map

end Recasting

variable (r : Recasting)

/-! ## Operands -/

/-- An operand is read under its other name. -/
theorem Operand.ofToken_recast (token : Token) :
    ofToken (r.token token) = changing r.fault r.operand (ofToken token) := by
  unfold ofToken Recasting.token
  by_cases hkind : token.kind = .address
  · dsimp only
    rw [if_pos hkind]
    cases token.value with
    | byte | bytes => rfl
    | name text =>
      dsimp only [Recasting.value]
      rw [if_pos hkind, if_pos hkind]
      rfl
  · dsimp only
    rw [if_neg hkind]
    cases token.value with
    | byte | bytes => rfl
    | name text =>
      dsimp only
      rw [if_neg hkind, if_neg hkind]
      cases Operator.ofName? text <;> rfl

/-- Names and places take no words. -/
theorem Mnemonic.size_recast (mnemonic : Mnemonic) (operands : List (Operand Reference)) :
    mnemonic.size (operands.map r.operand) = mnemonic.size operands := by
  cases mnemonic with
  | data =>
    cases operands with
    | nil => rfl
    | cons operand operands => cases operand <;> rfl
  | operate | operator | addressed | output => rfl

namespace Layout

/-- An operand at a position is read under its other name. -/
theorem operand_recast (mnemonic : Mnemonic) (count index : Nat) (token : Token) :
    operand mnemonic count index (r.token token)
      = changing r.fault r.operand (operand mnemonic count index token) := by
  unfold operand
  rw [show (r.token token).kind = token.kind from rfl]
  cases mnemonic.signature.kindsAt index with
  | none => rfl
  | some kinds =>
    dsimp only
    by_cases hkind : kinds.contains token.kind = true
    · rw [if_pos hkind, if_pos hkind]
      exact Operand.ofToken_recast r token
    · rw [if_neg hkind, if_neg hkind]
      rfl

/-- The operands from a position on are read under their other names. -/
theorem operandsFrom_recast (mnemonic : Mnemonic) (count index : Nat) (tokens : List Token) :
    operandsFrom mnemonic count index (tokens.map r.token)
      = changing r.fault (List.map r.operand) (operandsFrom mnemonic count index tokens) := by
  induction tokens generalizing index with
  | nil => rfl
  | cons token tokens ih =>
    rw [List.map_cons, operandsFrom, operandsFrom, operand_recast, ih]
    cases operand mnemonic count index token with
    | error fault => rfl
    | ok first =>
      rw [changing_ok]
      dsimp only
      rw [map_changing, changing_map]
      rfl

/-- **The operands of an instruction** are read under their other names. -/
theorem operands_recast (mnemonic : Mnemonic) (span : Span) (tokens : List Token) :
    operands mnemonic (r.place span) (tokens.map r.token)
      = changing r.fault (List.map r.operand) (operands mnemonic span tokens) := by
  unfold operands
  rw [List.length_map]
  by_cases hcount : mnemonic.signature.acceptsCount tokens.length = true
  · rw [if_pos hcount, if_pos hcount]
    exact operandsFrom_recast r mnemonic tokens.length 0 tokens
  · rw [if_neg hcount, if_neg hcount, List.getLast?_map]
    cases tokens.getLast? <;> rfl

/-! ## Layouts -/

/-- The end of a layout is in memory, not in the source. -/
theorem size_recast (layout : Layout) : (r.layout layout).size = layout.size := by
  unfold size
  rw [show (r.layout layout).statements.getLast? = _ from List.getLast?_map]
  cases layout.statements.getLast? <;> rfl

/-- **A label is registered under its other name**, unless it is taken under it. -/
theorem define_recast (layout : Layout) (label : String) :
    (r.layout layout).define (r.name label) = (layout.define label).map r.layout := by
  unfold define
  rw [r.length_layout, show (r.layout layout).labels = r.labels layout.labels from rfl,
    r.lookup_labels]
  cases layout.labels.lookup label with
  | some index => rfl
  | none =>
    dsimp only
    rw [Except.map, Recasting.layout, Recasting.layout, Recasting.labels, Recasting.labels,
      List.map_append]
    rfl

/-- The label of a statement is registered under its other name. -/
theorem defineLabel_recast (layout : Layout) (label : Option Label) :
    (r.layout layout).defineLabel (label.map r.label)
      = changing r.fault r.layout (layout.defineLabel label) := by
  cases label with
  | none => rfl
  | some label =>
    rw [Option.map_some, defineLabel, defineLabel,
      show (r.label label).name = r.name label.name from rfl, define_recast]
    cases layout.define label.name with
    | ok defined => rfl
    | error index =>
      -- the statement that carries the label already is found at the same index
      have hfirst : ((r.layout layout).statements[index]?).bind (fun carrier => carrier.label)
          = ((layout.statements[index]?).bind fun carrier => carrier.label).map r.label := by
        rw [r.getElem?_layout]
        cases layout.statements[index]? <;> rfl
      rw [Except.map]
      dsimp only
      rw [hfirst]
      cases (layout.statements[index]?).bind fun carrier => carrier.label <;> rfl

/-- **Placing a statement** commutes with other names and places. -/
theorem place_recast (layout : Layout) (statement : Statement) :
    (r.layout layout).place (r.statement statement)
      = changing r.fault r.layout (layout.place statement) := by
  unfold place
  rw [show (r.statement statement).mnemonic = statement.mnemonic from rfl]
  cases Mnemonic.ofName? statement.mnemonic with
  | none => rfl
  | some mnemonic =>
    dsimp only
    rw [show (r.statement statement).label = statement.label.map r.label from rfl,
      defineLabel_recast]
    cases layout.defineLabel statement.label with
    | error fault => rfl
    | ok defined =>
      rw [changing_ok]
      dsimp only
      rw [show operands mnemonic (r.statement statement).span (r.statement statement).operands = _
        from operands_recast r mnemonic statement.span statement.operands, map_changing,
        changing_map]
      refine congrArg (changing r.fault · _) (funext fun understood => ?_)
      rw [size_recast, Mnemonic.size_recast, add, add, Recasting.layout, Recasting.layout,
        List.map_append]
      rfl

/-- **Placing a program** commutes with other names and places. -/
theorem placeAll_recast (layout : Layout) (statements : List Statement) :
    (r.layout layout).placeAll (statements.map r.statement)
      = changing r.fault r.layout (layout.placeAll statements) := by
  induction statements generalizing layout with
  | nil => rfl
  | cons statement statements ih =>
    rw [List.map_cons, placeAll, placeAll, place_recast]
    cases layout.place statement with
    | error fault => rfl
    | ok placed => exact ih placed

/-- **The layout of a program** commutes with other names and places. -/
theorem ofStatements_recast (statements : List Statement) :
    ofStatements (statements.map r.statement)
      = changing r.fault r.layout (ofStatements statements) := by
  unfold ofStatements
  rw [show empty.placeAll (statements.map r.statement) = _ from
    placeAll_recast r empty statements]
  cases empty.placeAll statements with
  | error fault => rfl
  | ok layout =>
    rw [changing_ok]
    dsimp only
    rw [size_recast]
    by_cases hfit : layout.size ≤ capacity
    · rw [if_pos hfit, if_pos hfit]
      rfl
    · rw [if_neg hfit, if_neg hfit]
      rfl

/-! ## Addresses -/

/-- The statement at an index of a layout, or that there is none. -/
theorem statement_recast (layout : Layout) (index : Nat) :
    (r.layout layout).statement index = (layout.statement index).map r.placed := by
  unfold statement
  rw [r.getElem?_layout]
  cases layout.statements[index]? <;> rfl

/-- **The address of a label** is that of its other name. -/
theorem addressOf_recast (layout : Layout) (reference : Reference) :
    (r.layout layout).addressOf (r.reference reference)
      = changing r.fault id (layout.addressOf reference) := by
  unfold addressOf carrier
  rw [show (r.layout layout).labels.lookup (r.reference reference).label = _ from
    r.lookup_labels layout.labels reference.label]
  cases layout.labels.lookup reference.label with
  | none => rfl
  | some index =>
    dsimp only
    rw [statement_recast]
    cases layout.statement index <;> rfl

/-- **The addresses in a statement** are those under other names. -/
theorem assembleStatement_recast (layout : Layout) (placed : PlacedStatement) :
    (r.layout layout).assembleStatement (r.placed placed)
      = changing r.fault r.assembled (layout.assembleStatement placed) := by
  have hresolve : ∀ operand : Operand Reference,
      (r.operand operand).resolve (r.layout layout).addressOf
        = changing r.fault id (operand.resolve layout.addressOf) := by
    intro operand
    cases operand with
    | address target =>
      rw [Recasting.operand, Operand.resolve, Operand.resolve, addressOf_recast, map_changing,
        changing_map]
      rfl
    | byte | bytes | operator => rfl
  unfold assembleStatement
  rw [show (r.placed placed).operands = placed.operands.map r.operand from rfl,
    mapM_map_changing hresolve, map_changing, changing_map]
  refine congrArg (changing r.fault · _) (funext fun operands => ?_)
  have hlabel : (r.placed placed).label.map Label.name
      = (placed.label.map Label.name).map r.name := by
    show (placed.label.map r.label).map Label.name = _
    cases placed.label <;> rfl
  rw [hlabel, List.map_id]
  rfl

/-- **The addresses of a program** are those under other names. -/
theorem assembledStatements_recast (layout : Layout) :
    (r.layout layout).assembledStatements
      = changing r.fault (List.map r.assembled) layout.assembledStatements :=
  mapM_map_changing (assembleStatement_recast r layout) layout.statements

/-- **The labels of a program** have the addresses that they have under other names. -/
theorem symbolTable_recast (layout : Layout) :
    (r.layout layout).symbolTable = r.labels layout.symbolTable := by
  have hsymbols : (r.layout layout).symbols = changing id r.labels layout.symbols := by
    refine mapM_map_changing (fun entry => ?_) layout.labels
    rw [statement_recast]
    cases layout.statement entry.2 <;> rfl
  unfold symbolTable
  rw [hsymbols]
  cases layout.symbols with
  | error dangling => rfl
  | ok symbols =>
    rw [changing_ok]
    dsimp only [Recasting.labels]
    rw [List.map_map, List.map_map]
    rfl

end Layout

/-! ## Programs -/

/-- **Assembling statements** commutes with other names and places. -/
theorem Assembly.ofStatements_recast (statements : List Statement) :
    ofStatements (statements.map r.statement)
      = changing r.fault r.assembly (ofStatements statements) := by
  unfold ofStatements
  rw [Layout.ofStatements_recast]
  cases Layout.ofStatements statements with
  | error fault => rfl
  | ok layout =>
    rw [changing_ok]
    dsimp only
    rw [Layout.assembledStatements_recast, map_changing, changing_map]
    refine congrArg (changing r.fault · _) (funext fun assembled => ?_)
    have hwords : (assembled.map r.assembled).flatMap AssembledStatement.words
        = assembled.flatMap AssembledStatement.words :=
      List.flatMap_map _ _ _
    unfold ofLayout Recasting.assembly
    rw [hwords, Layout.symbolTable_recast]

end AccumulatorMachine
