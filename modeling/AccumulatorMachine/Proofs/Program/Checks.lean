import AccumulatorMachine.Proofs.Program.Acceptance
import AccumulatorMachine.Proofs.Program.Operands

/-!
# What is wrong with a statement

A statement is checked behind those that were placed before it: its mnemonic, its
label, the number of its operands, and then its operands one by one. `Statement.Valid`
says that it passes, and `Statement.Fails` with which fault it does not; each fault
comes with the checks that were passed before. Neither speaks of a layout: what a
layout knows of the statements before is which labels they have.

`Layout.exists_placeAll_iff` says that statements are placed exactly if each is valid
behind those before it, and `Layout.placeAll_eq_error_iff` that it is the first one that
is not that decides, whatever comes behind. Only the references are left then, and
`Layout.assembledStatements_eq_error_iff` finds the first that leads nowhere.
-/

namespace AccumulatorMachine

/-! ## Operands -/

/-- **A token refers to a label** if it is an address with the name of the label. -/
def Token.RefersTo (token : Token) (name : String) : Prop :=
  token.kind = .address ∧ token.value = .name name

/-- **A token names no operator**: it holds a name, is no address, and no operator has
the name. -/
def Token.NamesNoOperator (token : Token) (name : String) : Prop :=
  token.kind ≠ .address ∧ token.value = .name name ∧ Operator.ofName? name = none

namespace Operand

/-- **A token stands for no operand** exactly if it names no operator. -/
theorem ofToken_eq_error_iff {token : Token} {fault : Fault} :
    ofToken token = .error fault ↔
      ∃ name, token.NamesNoOperator name ∧ fault = .unknownOperator name token.span := by
  unfold ofToken Token.NamesNoOperator
  cases token.value with
  | byte value | bytes values =>
    exact ⟨fun h => absurd h (by simp), fun ⟨_, h, _⟩ => absurd h.2.1 (by simp)⟩
  | name text =>
    by_cases hkind : token.kind = .address
    · simp [hkind]
    · cases hop : Operator.ofName? text with
      | none => simp [hkind, hop, eq_comm]
      | some op => simp [hkind, hop]

/-- **A token stands for a reference** exactly if it refers to the label. -/
theorem ofToken_eq_address_iff {token : Token} {reference : Reference} :
    ofToken token = .ok (.address reference) ↔
      token.RefersTo reference.label ∧ token.span = reference.span := by
  unfold ofToken Token.RefersTo
  cases token.value with
  | byte value | bytes values => simp
  | name text =>
    by_cases hkind : token.kind = .address
    · cases reference
      simp [hkind]
    · cases hop : Operator.ofName? text with
      | none => simp [hkind, hop]
      | some op => simp [hkind, hop]

/-- A token that refers to a label stands for a reference to it. -/
theorem ofToken_of_refersTo {token : Token} {name : String} (h : token.RefersTo name) :
    ofToken token = .ok (.address ⟨name, token.span⟩) :=
  ofToken_eq_address_iff.mpr ⟨h, rfl⟩

end Operand

namespace Mnemonic

/-- **An instruction takes an operand** if it is of one of its kinds and no name that
should be an operator's and is not. -/
def Takes (mnemonic : Mnemonic) (token : Token) : Prop :=
  token.kind ∈ mnemonic.kinds ∧ ∀ name, ¬ token.NamesNoOperator name

/-- **An instruction refuses the operand at a position**: for its kind first, and else
for its name. -/
inductive Refuses (mnemonic : Mnemonic) (index : Nat) (token : Token) : Fault → Prop
  /-- The operand is of none of the kinds of the instruction. -/
  | kind (hkind : token.kind ∉ mnemonic.kinds) :
    Refuses mnemonic index token
      (.wrongKind mnemonic.name index (.ofList mnemonic.kinds) token.kind token.span)
  /-- The operand is of one of the kinds, and its name is no operator's. -/
  | operator {name : String} (hkind : token.kind ∈ mnemonic.kinds)
    (hname : token.NamesNoOperator name) :
    Refuses mnemonic index token (.unknownOperator name token.span)

/-- An operand is taken or refused. -/
theorem exists_refuses_iff {mnemonic : Mnemonic} {index : Nat} {token : Token} :
    (∃ fault, mnemonic.Refuses index token fault) ↔ ¬ mnemonic.Takes token := by
  constructor
  · rintro ⟨fault, hkind | ⟨hkind, hname⟩⟩ ⟨htaken, hall⟩
    · exact hkind htaken
    · exact hall _ hname
  · intro h
    by_cases hkind : token.kind ∈ mnemonic.kinds
    · obtain ⟨name, hname⟩ := not_forall_not.mp fun hall => h ⟨hkind, hall⟩
      exact ⟨_, .operator hkind hname⟩
    · exact ⟨_, .kind hkind⟩

end Mnemonic

namespace Layout

/-- **What an operand fails with** is what the instruction refuses it with. -/
theorem operand_eq_error_iff {mnemonic : Mnemonic} {count index : Nat} {token : Token}
    {fault : Fault} (hcount : mnemonic.signature.acceptsCount count = true)
    (hindex : index < count) :
    operand mnemonic count index token = .error fault ↔ mnemonic.Refuses index token fault := by
  rw [operand_eq hcount hindex]
  by_cases hkind : token.kind ∈ mnemonic.kinds
  · rw [if_pos hkind, Operand.ofToken_eq_error_iff]
    constructor
    · rintro ⟨name, hname, rfl⟩
      exact .operator hkind hname
    · rintro (hother | ⟨-, hname⟩)
      · exact absurd hkind hother
      · exact ⟨_, hname, rfl⟩
  · rw [if_neg hkind, Except.error.injEq]
    constructor
    · rintro rfl
      exact .kind hkind
    · rintro (- | ⟨hother, -⟩)
      · rfl
      · exact absurd hother hkind

/-- The operands from a position on fail with the first that is refused. -/
theorem operandsFrom_eq_error_iff {mnemonic : Mnemonic} {count index : Nat} {tokens : List Token}
    {fault : Fault} (hcount : mnemonic.signature.acceptsCount count = true)
    (hindex : index + tokens.length = count) :
    operandsFrom mnemonic count index tokens = .error fault ↔
      ∃ front token back, tokens = front ++ token :: back ∧
        (∀ earlier ∈ front, mnemonic.Takes earlier) ∧
        mnemonic.Refuses (index + front.length) token fault := by
  induction tokens generalizing index with
  | nil =>
    exact ⟨fun h => absurd h (by simp [operandsFrom]), fun ⟨_, _, _, h, _⟩ => absurd h (by simp)⟩
  | cons token tokens ih =>
    rw [List.length_cons] at hindex
    have hlt : index < count := by omega
    have hrest : operandsFrom mnemonic count (index + 1) tokens = .error fault ↔ _ :=
      ih (by omega)
    rw [operandsFrom]
    constructor
    · intro h
      split at h
      · next other hother =>
        obtain rfl := Except.error.inj h
        exact ⟨[], token, tokens, rfl, fun _ hmem => absurd hmem List.not_mem_nil,
          (operand_eq_error_iff hcount hlt).mp hother⟩
      · next first hfirst =>
        obtain ⟨front, refused, back, rfl, hfront, hrefused⟩ := hrest.mp (map_eq_error_iff.mp h)
        refine ⟨token :: front, refused, back, rfl, List.forall_mem_cons.mpr ⟨?_, hfront⟩, ?_⟩
        · refine not_not.mp fun hnot => ?_
          obtain ⟨fault, hfault⟩ := Mnemonic.exists_refuses_iff.mpr hnot
          have herror := (operand_eq_error_iff hcount hlt).mpr hfault
          exact absurd (hfirst.symm.trans herror) (by simp)
        · rwa [List.length_cons, Nat.add_comm front.length, ← Nat.add_assoc]
    · rintro ⟨_ | ⟨first, front⟩, refused, back, heq, hfront, hrefused⟩
      · obtain ⟨rfl, rfl⟩ := List.cons.inj heq
        rw [(operand_eq_error_iff hcount hlt).mpr hrefused]
      · obtain ⟨rfl, rfl⟩ := List.cons.inj heq
        rw [List.forall_mem_cons] at hfront
        cases htoken : operand mnemonic count index token with
        | error other =>
          exact absurd hfront.1 (Mnemonic.exists_refuses_iff.mp
            ⟨other, (operand_eq_error_iff hcount hlt).mp htoken⟩)
        | ok understood =>
          refine map_eq_error_iff.mpr (hrest.mpr ⟨front, refused, back, rfl, hfront.2, ?_⟩)
          rwa [List.length_cons, Nat.add_comm front.length, ← Nat.add_assoc] at hrefused

/-- **What operands fail with**: their number, and else the first that is refused. -/
theorem operands_eq_error_iff {mnemonic : Mnemonic} {span : Span} {tokens : List Token}
    {fault : Fault} :
    operands mnemonic span tokens = .error fault ↔
      ¬ mnemonic.signature.acceptsCount tokens.length = true ∧
          fault = .wrongArity mnemonic.name mnemonic.signature.arity tokens.length
            ((tokens.getLast?.map Token.span).getD span) ∨
        mnemonic.signature.acceptsCount tokens.length = true ∧
          ∃ front token back, tokens = front ++ token :: back ∧
            (∀ earlier ∈ front, mnemonic.Takes earlier) ∧
            mnemonic.Refuses front.length token fault := by
  unfold operands
  by_cases hcount : mnemonic.signature.acceptsCount tokens.length = true
  · rw [if_pos hcount, operandsFrom_eq_error_iff hcount (Nat.zero_add _)]
    simp only [Nat.zero_add]
    rw [or_iff_right fun h => h.1 hcount, and_iff_right hcount]
  · rw [if_neg hcount, Except.error.injEq, eq_comm, or_iff_left fun h => hcount h.1,
      and_iff_right hcount]

end Layout

/-! ## Statements -/

namespace Statement

/-- **The label of a statement is new** behind others: none of them has its name. -/
def NewLabel (before : List Statement) (statement : Statement) : Prop :=
  ∀ own ∈ statement.label, ∀ other ∈ before, ∀ first ∈ other.label, first.name ≠ own.name

/-- **A statement is valid** behind others. -/
structure Valid (before : List Statement) (statement : Statement) : Prop where
  /-- Its mnemonic is that of an instruction, which takes so many operands and each of
  them. -/
  understood : ∃ mnemonic, Mnemonic.ofName? statement.mnemonic = some mnemonic ∧
    mnemonic.signature.acceptsCount statement.operands.length = true ∧
    ∀ token ∈ statement.operands, mnemonic.Takes token
  /-- Its label is new. -/
  label : statement.NewLabel before

/-- **What a statement fails with** behind others, in the order of the checks. -/
inductive Fails (before : List Statement) (statement : Statement) : Fault → Prop
  /-- No instruction has the mnemonic. -/
  | mnemonic (hmnemonic : Mnemonic.ofName? statement.mnemonic = none) :
    Fails before statement (.unknownInstruction statement.mnemonic statement.span)
  /-- The label is that of a statement before. -/
  | label {mnemonic : Mnemonic} {other : Statement} {own first : Label}
    (hmnemonic : Mnemonic.ofName? statement.mnemonic = some mnemonic)
    (hown : own ∈ statement.label) (hother : other ∈ before) (hfirst : first ∈ other.label)
    (hname : first.name = own.name) :
    Fails before statement (.duplicateLabel own.name own.span first.span)
  /-- There are too many or too few operands. -/
  | count {mnemonic : Mnemonic} (hmnemonic : Mnemonic.ofName? statement.mnemonic = some mnemonic)
    (hlabel : statement.NewLabel before)
    (hcount : ¬ mnemonic.signature.acceptsCount statement.operands.length = true) :
    Fails before statement
      (.wrongArity mnemonic.name mnemonic.signature.arity statement.operands.length
        ((statement.operands.getLast?.map Token.span).getD statement.span))
  /-- An operand is refused, and none before it. -/
  | operand {mnemonic : Mnemonic} {front back : List Token} {token : Token} {fault : Fault}
    (hmnemonic : Mnemonic.ofName? statement.mnemonic = some mnemonic)
    (hlabel : statement.NewLabel before)
    (hcount : mnemonic.signature.acceptsCount statement.operands.length = true)
    (hoperands : statement.operands = front ++ token :: back)
    (hfront : ∀ earlier ∈ front, mnemonic.Takes earlier)
    (hrefused : mnemonic.Refuses front.length token fault) : Fails before statement fault

/-- **A statement fails exactly if it is not valid.** -/
theorem exists_fails_iff {before : List Statement} {statement : Statement} :
    (∃ fault, statement.Fails before fault) ↔ ¬ statement.Valid before := by
  constructor
  · rintro ⟨fault, hfails⟩ ⟨⟨mnemonic, hmnemonic, hcount, htakes⟩, hlabel⟩
    cases hfails with
    | mnemonic hnone => exact absurd (hnone.symm.trans hmnemonic) (by simp)
    | label _ hown hother hfirst hname => exact hlabel _ hown _ hother _ hfirst hname
    | count hother _ hwrong =>
      obtain rfl := Option.some.inj (hmnemonic.symm.trans hother)
      exact hwrong hcount
    | @operand _ front back token _ hother _ _ hoperands _ hrefused =>
      obtain rfl := Option.some.inj (hmnemonic.symm.trans hother)
      have hmem : token ∈ statement.operands :=
        hoperands ▸ List.mem_append_right front List.mem_cons_self
      exact Mnemonic.exists_refuses_iff.mp ⟨fault, hrefused⟩ (htakes token hmem)
  · intro hnot
    cases hmnemonic : Mnemonic.ofName? statement.mnemonic with
    | none => exact ⟨_, .mnemonic hmnemonic⟩
    | some mnemonic =>
      by_cases hlabel : statement.NewLabel before
      · by_cases hcount : mnemonic.signature.acceptsCount statement.operands.length = true
        · have hrefused : ¬ ∀ token ∈ statement.operands, mnemonic.Takes token :=
            fun htakes => hnot ⟨⟨mnemonic, hmnemonic, hcount, htakes⟩, hlabel⟩
          obtain ⟨front, token, back, hoperands, hfront, htoken⟩ := exists_first_iff.mpr hrefused
          obtain ⟨fault, hfault⟩ := Mnemonic.exists_refuses_iff.mpr htoken
          exact ⟨fault, .operand hmnemonic hlabel hcount hoperands hfront hfault⟩
        · exact ⟨_, .count hmnemonic hlabel hcount⟩
      · unfold NewLabel at hlabel
        push Not at hlabel
        obtain ⟨own, hown, other, hother, first, hfirst, hname⟩ := hlabel
        exact ⟨_, .label hmnemonic hown hother hfirst hname⟩

/-- **Statements are all valid** if each is, behind those before it. -/
def AllValid (statements : List Statement) : Prop :=
  ∀ before statement behind, statements = before ++ statement :: behind → statement.Valid before

end Statement

/-! ## Placing statements -/

namespace Layout

variable {before : List Statement} {layout : Layout} {fault : Fault}

/-- The statements of a layout are those that were placed. -/
theorem reads_of_placeAll (h : empty.placeAll before = .ok layout) :
    layout.Sound ∧ List.Forall₂ PlacedStatement.Reads layout.statements before := by
  obtain ⟨hsound, added, hadded, hreads⟩ := sound_empty.of_placeAll h
  exact ⟨hsound, (show layout.statements = added from hadded) ▸ hreads⟩

/-- The label of a statement is kept when it is placed. -/
theorem label_of_placeAll (h : empty.placeAll before = .ok layout) {index : Nat}
    {statement : Statement} (hstatement : before[index]? = some statement) :
    (layout.statements[index]?).bind PlacedStatement.label = statement.label := by
  obtain ⟨placed, hplaced, hread⟩ :=
    exists_getElem?_of_forall₂ (reads_of_placeAll h).2.flip hstatement
  rw [hplaced]
  exact hread.label

/-- A label has an index in a layout exactly if the statement there has it. -/
theorem lookup_eq_some_iff_of_placeAll (h : empty.placeAll before = .ok layout) {name : String}
    {index : Nat} :
    layout.labels.lookup name = some index ↔
      ∃ other, before[index]? = some other ∧ ∃ first ∈ other.label, first.name = name := by
  obtain ⟨hsound, hreads⟩ := reads_of_placeAll h
  rw [hsound.lookup_eq_some_iff]
  constructor
  · rintro ⟨placed, hplaced, hname⟩
    obtain ⟨other, hother, hread⟩ := exists_getElem?_of_forall₂ hreads hplaced
    obtain ⟨first, hfirst, hsame⟩ := Option.map_eq_some_iff.mp hname
    exact ⟨other, hother, first, hread.label.symm.trans hfirst, hsame⟩
  · rintro ⟨other, hother, first, hfirst, hname⟩
    obtain ⟨placed, hplaced, hread⟩ := exists_getElem?_of_forall₂ hreads.flip hother
    exact ⟨placed, hplaced, Option.map_eq_some_iff.mpr ⟨first, hread.label.trans hfirst, hname⟩⟩

/-- **A label is registered** exactly if it is new behind the statements. -/
theorem exists_defineLabel_iff (h : empty.placeAll before = .ok layout) {statement : Statement} :
    (∃ defined, layout.defineLabel statement.label = .ok defined) ↔ statement.NewLabel before := by
  simp only [defineLabel_eq_ok_iff, exists_and_left, exists_eq, and_true]
  constructor
  · intro hnone own hown other hother first hfirst hname
    obtain ⟨index, hindex⟩ := List.mem_iff_getElem?.mp hother
    have hsome := (lookup_eq_some_iff_of_placeAll h).mpr ⟨other, hindex, first, hfirst, hname⟩
    have hlookup := hnone own.name (Option.map_eq_some_iff.mpr ⟨own, hown, rfl⟩)
    exact absurd (hlookup.symm.trans hsome) (by simp)
  · intro hnew name hname
    obtain ⟨own, hown, rfl⟩ := Option.map_eq_some_iff.mp hname
    refine Option.eq_none_iff_forall_ne_some.mpr fun index hindex => ?_
    obtain ⟨other, hother, first, hfirst, hsame⟩ := (lookup_eq_some_iff_of_placeAll h).mp hindex
    exact hnew own hown other (List.mem_of_getElem? hother) first hfirst hsame

/-- A label that has an index is reported with the label that is there. -/
theorem defineLabel_of_lookup {own : Label} {index : Nat}
    (hlookup : layout.labels.lookup own.name = some index) :
    layout.defineLabel (some own) = .error (.duplicateLabel own.name own.span
      (((layout.statements[index]?).bind PlacedStatement.label).getD own).span) := by
  unfold defineLabel define
  simp only [hlookup]

/-- **A label that is taken** is that of a statement in the layout. -/
theorem defineLabel_eq_error_iff (h : empty.placeAll before = .ok layout) {label : Option Label} :
    layout.defineLabel label = .error fault ↔
      ∃ own ∈ label, ∃ other ∈ before, ∃ first ∈ other.label, first.name = own.name ∧
        fault = .duplicateLabel own.name own.span first.span := by
  constructor
  · intro hfault
    cases label with
    | none => exact absurd hfault (by simp [defineLabel])
    | some own =>
      cases hlookup : layout.labels.lookup own.name with
      | none =>
        have hdefined : layout.defineLabel (some own) = .ok _ := defineLabel_eq_ok_iff.mpr
          ⟨fun name hname => Option.some.inj hname ▸ hlookup, rfl⟩
        exact absurd (hfault.symm.trans hdefined) (by simp)
      | some index =>
        obtain ⟨other, hother, first, hfirst, hname⟩ :=
          (lookup_eq_some_iff_of_placeAll h).mp hlookup
        rw [defineLabel_of_lookup hlookup, label_of_placeAll h hother,
          show other.label = some first from hfirst] at hfault
        exact ⟨own, rfl, other, List.mem_of_getElem? hother, first, hfirst, hname,
          (Except.error.inj hfault).symm⟩
  · rintro ⟨own, hown, other, hother, first, hfirst, hname, rfl⟩
    obtain rfl : label = some own := hown
    obtain ⟨index, hindex⟩ := List.mem_iff_getElem?.mp hother
    rw [defineLabel_of_lookup ((lookup_eq_some_iff_of_placeAll h).mpr
      ⟨other, hindex, first, hfirst, hname⟩), label_of_placeAll h hindex,
      show other.label = some first from hfirst]
    rfl

/-- **What a statement fails with** when it is placed behind others. -/
theorem place_eq_error_iff (h : empty.placeAll before = .ok layout) {statement : Statement} :
    layout.place statement = .error fault ↔ statement.Fails before fault := by
  unfold place
  cases hmnemonic : Mnemonic.ofName? statement.mnemonic with
  | none =>
    dsimp only
    constructor
    · intro hfault
      obtain rfl := Except.error.inj hfault
      exact .mnemonic hmnemonic
    · rintro (- | ⟨hother, -⟩ | ⟨hother, -⟩ | ⟨hother, -⟩)
      · rfl
      all_goals exact absurd (hmnemonic.symm.trans hother) (by simp)
  | some mnemonic =>
    have hnew : (∃ defined, layout.defineLabel statement.label = .ok defined) ↔ _ :=
      exists_defineLabel_iff h
    cases hdefine : layout.defineLabel statement.label with
    | error other =>
      dsimp only
      constructor
      · intro hfault
        obtain rfl := Except.error.inj hfault
        obtain ⟨own, hown, other, hother, first, hfirst, hname, rfl⟩ :=
          (defineLabel_eq_error_iff h).mp hdefine
        exact .label hmnemonic hown hother hfirst hname
      · rintro (hnone | ⟨-, hown, hother, hfirst, hname⟩ | ⟨-, hlabel, -⟩ | ⟨-, hlabel, -⟩)
        · exact absurd (hmnemonic.symm.trans hnone) (by simp)
        · rw [← hdefine]
          exact (defineLabel_eq_error_iff h).mpr ⟨_, hown, _, hother, _, hfirst, hname, rfl⟩
        all_goals
          obtain ⟨defined, hdefined⟩ := hnew.mpr hlabel
          exact absurd (hdefine.symm.trans hdefined) (by simp)
    | ok defined =>
      have hlabel : statement.NewLabel before := hnew.mp ⟨defined, hdefine⟩
      dsimp only
      rw [map_eq_error_iff, operands_eq_error_iff]
      constructor
      · rintro (⟨hcount, rfl⟩ | ⟨hcount, front, token, back, hoperands, hfront, hrefused⟩)
        · exact .count hmnemonic hlabel hcount
        · exact .operand hmnemonic hlabel hcount hoperands hfront hrefused
      · rintro (hnone | ⟨-, hown, hother, hfirst, hname⟩ | ⟨hsame, -, hcount⟩ |
          ⟨hsame, -, hcount, hoperands, hfront, hrefused⟩)
        · exact absurd (hmnemonic.symm.trans hnone) (by simp)
        · exact absurd hname (hlabel _ hown _ hother _ hfirst)
        · obtain rfl := Option.some.inj (hmnemonic.symm.trans hsame)
          exact Or.inl ⟨hcount, rfl⟩
        · obtain rfl := Option.some.inj (hmnemonic.symm.trans hsame)
          exact Or.inr ⟨hcount, _, _, _, hoperands, hfront, hrefused⟩

/-- Statements are placed one list behind the other. -/
theorem placeAll_append (layout : Layout) (front back : List Statement) :
    layout.placeAll (front ++ back) =
      match layout.placeAll front with
      | .error fault => .error fault
      | .ok placed => placed.placeAll back := by
  induction front generalizing layout with
  | nil => rfl
  | cons statement front ih =>
    rw [List.cons_append, placeAll, placeAll]
    cases layout.place statement with
    | error fault => rfl
    | ok next => exact ih next

/-- A program that cannot be placed has a first statement that cannot. -/
theorem exists_place_eq_error {statements : List Statement}
    (h : layout.placeAll statements = .error fault) :
    ∃ before statement behind placed, statements = before ++ statement :: behind ∧
      layout.placeAll before = .ok placed ∧ placed.place statement = .error fault := by
  induction statements generalizing layout with
  | nil => exact absurd h (by simp [placeAll])
  | cons statement statements ih =>
    rw [placeAll] at h
    split at h
    · next other hother =>
      obtain rfl := Except.error.inj h
      exact ⟨[], statement, statements, layout, rfl, rfl, hother⟩
    · next next hnext =>
      obtain ⟨before, failing, behind, placed, rfl, hplaced, hfault⟩ := ih h
      exact ⟨statement :: before, failing, behind, placed, rfl, by rw [placeAll, hnext, ← hplaced],
        hfault⟩

/-- **Statements are placed** exactly if all are valid. -/
theorem exists_placeAll_iff {statements : List Statement} :
    (∃ layout, empty.placeAll statements = .ok layout) ↔ Statement.AllValid statements := by
  constructor
  · rintro ⟨layout, h⟩ before statement behind rfl
    rw [placeAll_append] at h
    split at h
    · exact absurd h (by simp)
    · next placed hplaced =>
      refine not_not.mp fun hnot => ?_
      obtain ⟨fault, hfault⟩ := Statement.exists_fails_iff.mpr hnot
      rw [placeAll, (place_eq_error_iff hplaced).mpr hfault] at h
      exact absurd h (by simp)
  · intro hvalid
    cases h : empty.placeAll statements with
    | ok layout => exact ⟨layout, rfl⟩
    | error fault =>
      obtain ⟨before, statement, behind, placed, rfl, hplaced, hfault⟩ := exists_place_eq_error h
      exact absurd (hvalid before statement behind rfl)
        (Statement.exists_fails_iff.mp ⟨fault, (place_eq_error_iff hplaced).mp hfault⟩)

/-- **The first statement that is not valid decides**, whatever comes behind. -/
theorem placeAll_eq_error_iff {statements : List Statement} :
    empty.placeAll statements = .error fault ↔
      ∃ before statement behind, statements = before ++ statement :: behind ∧
        Statement.AllValid before ∧ statement.Fails before fault := by
  constructor
  · intro h
    obtain ⟨before, statement, behind, placed, rfl, hplaced, hfault⟩ := exists_place_eq_error h
    exact ⟨before, statement, behind, rfl, exists_placeAll_iff.mp ⟨placed, hplaced⟩,
      (place_eq_error_iff hplaced).mp hfault⟩
  · rintro ⟨before, statement, behind, rfl, hvalid, hfails⟩
    obtain ⟨placed, hplaced⟩ := exists_placeAll_iff.mpr hvalid
    rw [placeAll_append, hplaced]
    dsimp only
    rw [placeAll, (place_eq_error_iff hplaced).mpr hfails]

end Layout

/-- **Among valid statements one alone has a label.** -/
theorem Statement.AllValid.eq_of_label {statements : List Statement} (h : AllValid statements)
    {statement other : Statement} (hstatement : statement ∈ statements)
    (hother : other ∈ statements) {own first : Label} (hown : own ∈ statement.label)
    (hfirst : first ∈ other.label) (hname : own.name = first.name) : statement = other := by
  obtain ⟨layout, hlayout⟩ := Layout.exists_placeAll_iff.mpr h
  obtain ⟨place, hplace⟩ := List.mem_iff_getElem?.mp hstatement
  obtain ⟨index, hindex⟩ := List.mem_iff_getElem?.mp hother
  have hlookup := (Layout.lookup_eq_some_iff_of_placeAll hlayout).mpr
    ⟨statement, hplace, own, hown, hname⟩
  rw [(Layout.lookup_eq_some_iff_of_placeAll hlayout).mpr ⟨other, hindex, first, hfirst, rfl⟩]
    at hlookup
  obtain rfl := Option.some.inj hlookup
  exact Option.some.inj (hplace.symm.trans hindex)

/-! ## Sizes -/

/-- **The number of words that a statement takes**: a string of data takes one for each
byte and one for the zero that ends it, and everything else takes one. -/
def Statement.size (statement : Statement) : Nat :=
  match Mnemonic.ofName? statement.mnemonic, statement.operands.map Token.value with
  | some .data, .bytes values :: _ => values.length + 1
  | _, _ => 1

/-- A statement takes as many words as its reading does. -/
theorem PlacedStatement.Reads.size_eq {placed : PlacedStatement} {statement : Statement}
    (h : placed.Reads statement) : placed.size = statement.size := by
  have hall := (Layout.operands_eq_ok_iff.mp h.operands).2
  rw [h.size, Statement.size, h.mnemonic]
  generalize placed.operands = operands, statement.operands = tokens at hall ⊢
  rcases placed.mnemonic with _ | _ | op | op | _
  · cases hall with
    | nil => rfl
    | @cons token operand _ _ hfirst _ =>
      have hoperand := hfirst.2
      unfold Operand.ofToken at hoperand
      rw [List.map_cons]
      cases hvalue : token.value with
      | byte value | bytes values =>
        rw [hvalue] at hoperand
        obtain rfl := Except.ok.inj hoperand
        rfl
      | name text =>
        -- a name is an address or an operator, and both are one word
        rw [hvalue] at hoperand
        dsimp only at hoperand
        split at hoperand
        · obtain rfl := Except.ok.inj hoperand
          rfl
        · split at hoperand
          · obtain rfl := Except.ok.inj hoperand
            rfl
          · exact absurd hoperand (by simp)
  all_goals rfl

/-- **The statements of a layout end behind all their words.** -/
theorem Layout.size_of_placeAll {statements : List Statement} {layout : Layout}
    (h : empty.placeAll statements = .ok layout) :
    layout.size = (statements.map Statement.size).sum := by
  obtain ⟨hsound, hreads⟩ := reads_of_placeAll h
  rw [hsound.size_eq, map_eq_of_forall₂ hreads fun _ _ hread => hread.size_eq]

/-- **A program has no layout** because of its first statement that is not valid, or, if all
are, because they take more words than memory holds. -/
theorem Layout.ofStatements_eq_error_iff_fails {statements : List Statement} {fault : Fault} :
    ofStatements statements = .error fault ↔
      (∃ before statement behind, statements = before ++ statement :: behind ∧
        Statement.AllValid before ∧ statement.Fails before fault) ∨
      (Statement.AllValid statements ∧ capacity < (statements.map Statement.size).sum ∧
        fault = .programTooLarge (statements.map Statement.size).sum capacity) := by
  rw [← placeAll_eq_error_iff, ← exists_placeAll_iff]
  unfold ofStatements
  cases hplace : empty.placeAll statements with
  | error other => simp
  | ok layout =>
    dsimp only
    rw [size_of_placeAll hplace]
    by_cases hfits : (statements.map Statement.size).sum ≤ capacity
    · rw [if_pos hfits]
      exact iff_of_false (by simp) fun h => h.elim (by simp) fun h =>
        absurd hfits (Nat.not_le.mpr h.2.1)
    · rw [if_neg hfits, Except.error.injEq, or_iff_right (by simp), eq_comm]
      exact ⟨fun h => ⟨⟨layout, rfl⟩, Nat.lt_of_not_le hfits, h⟩, fun h => h.2.2⟩

/-! ## References -/

namespace Layout

/-- **A program cannot be linked** exactly if one of its tokens refers to a label that no
statement has, and the first that does decides. -/
theorem assembledStatements_eq_error_iff {statements : List Statement} {layout : Layout}
    {fault : Fault} (h : empty.placeAll statements = .ok layout) :
    layout.assembledStatements = .error fault ↔
      ∃ before token after, statements.flatMap Statement.operands = before ++ token :: after ∧
        (∀ earlier ∈ before, ∀ name, earlier.RefersTo name →
          name ∈ statements.filterMap Statement.labelName) ∧
        ∃ name, token.RefersTo name ∧ name ∉ statements.filterMap Statement.labelName ∧
          fault = .unresolvedReference name token.span := by
  obtain ⟨hsound, hreads⟩ := reads_of_placeAll h
  have hoperands : List.Forall₂ (fun token operand => Operand.ofToken token = .ok operand)
      (statements.flatMap Statement.operands)
      (layout.statements.flatMap PlacedStatement.operands) :=
    List.rel_flatMap hreads.flip fun _ _ hread =>
      (operands_eq_ok_iff.mp hread.operands).2.imp fun _ _ hboth => hboth.2
  rw [← filterMap_labelName hreads]
  refine mapM_map_mapM_eq_error_iff.trans
    (isFirstFailure_map_iff_of_forall₂ hoperands (fun token operand htoken => ?_)
      fun token operand htoken => ?_)
  · simp only [exists_resolve_iff, hsound.exists_addressOf_iff]
    constructor
    · rintro hknown reference rfl
      exact hknown _ (Operand.ofToken_eq_address_iff.mp htoken).1
    · intro hknown name hrefers
      exact hknown _
        (Except.ok.inj (htoken.symm.trans (Operand.ofToken_of_refersTo hrefers)))
  · simp only [resolve_eq_error_iff, hsound.addressOf_eq_error_iff]
    constructor
    · rintro ⟨name, hrefers, hunknown, rfl⟩
      exact ⟨_, Except.ok.inj (htoken.symm.trans (Operand.ofToken_of_refersTo hrefers)), hunknown,
        rfl⟩
    · rintro ⟨reference, rfl, hunknown, rfl⟩
      obtain ⟨hrefers, hspan⟩ := Operand.ofToken_eq_address_iff.mp htoken
      exact ⟨_, hrefers, hunknown, hspan ▸ rfl⟩

end Layout

end AccumulatorMachine
