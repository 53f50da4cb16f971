import AccumulatorMachine.Program.Assembly
import AccumulatorMachine.Proofs.Program.Placement

/-!
# Finding addresses

In a sound layout a label leads to the one statement that carries it, whether
that statement stands before or behind the operand that names it. So linking a
statement fails exactly when an operand names a label that no statement carries,
and its result is the statement with the carriers' addresses.

`Assembly.ofSource_eq_ok_iff` takes a successful assembly apart into its stages.
-/

namespace AccumulatorMachine

namespace Layout

/-! ## Labels lead to their carriers -/

/-- What is found under a name in a table without repetitions is its entry. -/
theorem lookup_eq_some_iff_mem {table : List (String × Nat)} (h : (table.map Prod.fst).Nodup)
    {name : String} {index : Nat} :
    table.lookup name = some index ↔ (name, index) ∈ table := by
  constructor
  · intro hlookup
    obtain ⟨front, back, rfl, -⟩ := List.lookup_eq_some_iff.mp hlookup
    exact List.mem_append_right front List.mem_cons_self
  · intro hmem
    obtain ⟨front, back, rfl⟩ := List.append_of_mem hmem
    -- no entry before it has the name
    refine List.lookup_eq_some_iff.mpr ⟨front, back, rfl, fun entry hentry => ?_⟩
    rw [List.map_append, List.map_cons] at h
    have hne : entry.1 ≠ name :=
      (List.nodup_append.mp h).2.2 entry.1 (List.mem_map_of_mem hentry) name List.mem_cons_self
    exact bne_iff_ne.mpr hne.symm

/-- **What is found under a name** is the index of the statement that carries
it. -/
theorem Sound.lookup_eq_some_iff {layout : Layout} (h : layout.Sound) {name : String}
    {index : Nat} :
    layout.labels.lookup name = some index ↔
      ∃ placed, layout.statements[index]? = some placed ∧ placed.labelName = some name := by
  have hnodup : (layout.labels.map Prod.fst).Nodup := by
    rw [h.labels, map_fst_labelTable]
    exact h.distinct
  rw [lookup_eq_some_iff_mem hnodup, h.labels, mem_labelTable_iff]

/-- **A defined label leads to the statement that carries it.** -/
theorem Sound.carrier_eq_some_iff {layout : Layout} (h : layout.Sound) {name : String}
    {placed : PlacedStatement} :
    layout.carrier name = .ok (some placed) ↔
      placed ∈ layout.statements ∧ placed.labelName = some name := by
  unfold carrier statement
  constructor
  · intro hcarrier
    split at hcarrier
    · exact absurd hcarrier (by simp)
    · next index hlookup =>
      obtain ⟨found, hfound, hname⟩ := h.lookup_eq_some_iff.mp hlookup
      rw [hfound] at hcarrier
      obtain rfl : found = placed := Option.some.inj (Except.ok.inj hcarrier)
      exact ⟨List.mem_of_getElem? hfound, hname⟩
  · rintro ⟨hmem, hname⟩
    obtain ⟨index, hindex⟩ := List.mem_iff_getElem?.mp hmem
    rw [h.lookup_eq_some_iff.mpr ⟨placed, hindex, hname⟩]
    simp only [hindex, Except.map]

/-- **Looking a label up never meets a dangling index**: without a carrier, the
label is not defined. -/
theorem Sound.carrier_eq_none_iff {layout : Layout} (h : layout.Sound) {name : String} :
    layout.carrier name = .ok none ↔
      name ∉ layout.statements.filterMap PlacedStatement.labelName := by
  rw [← h.lookup_eq_none_iff]
  unfold carrier statement
  constructor
  · intro hcarrier
    split at hcarrier
    · next hlookup => exact hlookup
    · next index hlookup =>
      obtain ⟨found, hfound, -⟩ := h.lookup_eq_some_iff.mp hlookup
      rw [hfound] at hcarrier
      exact absurd hcarrier (by simp [Except.map])
  · intro hlookup
    rw [hlookup]

/-- **The address of a label** is the address of its carrier. -/
theorem Sound.addressOf_eq_ok_iff {layout : Layout} (h : layout.Sound) {reference : Reference}
    {address : UInt8} :
    layout.addressOf reference = .ok address ↔
      ∃ placed ∈ layout.statements, placed.labelName = some reference.label ∧
        UInt8.ofNat placed.address = address := by
  unfold addressOf
  constructor
  · intro haddress
    split at haddress
    · next placed hcarrier =>
      obtain ⟨hmem, hname⟩ := h.carrier_eq_some_iff.mp hcarrier
      exact ⟨placed, hmem, hname, Except.ok.inj haddress⟩
    · exact absurd haddress (by simp)
  · rintro ⟨placed, hmem, hname, rfl⟩
    rw [h.carrier_eq_some_iff.mpr ⟨hmem, hname⟩]

/-- **The symbols of a sound layout** are its labelled statements with their
addresses, in order. -/
theorem Sound.symbols_eq {layout : Layout} (h : layout.Sound) :
    layout.symbols = .ok (layout.statements.filterMap fun placed =>
      placed.labelName.map fun name => (name, placed.address)) := by
  unfold symbols
  rw [h.labels, mapM_eq_ok_iff]
  -- each statement is the one at the index that it is numbered with
  have hnumbered : List.Forall₂
      (fun entry placed => layout.statements[entry.2]? = some entry.1 ∧ entry.1 = placed)
      layout.statements.zipIdx layout.statements := by
    have hmap : layout.statements.zipIdx.map Prod.fst = layout.statements :=
      List.zipIdx_map_fst 0 layout.statements
    conv => arg 3; rw [← hmap]
    rw [List.forall₂_map_right_iff, List.forall₂_same]
    exact fun entry hmem => ⟨List.mk_mem_zipIdx_iff_getElem?.mp hmem, rfl⟩
  refine List.rel_filterMap (R := fun entry placed =>
    layout.statements[entry.2]? = some entry.1 ∧ entry.1 = placed) ?_ hnumbered
  rintro entry placed ⟨hentry, rfl⟩
  dsimp only
  cases entry.1.labelName with
  | none => exact Option.Rel.none
  | some name =>
    refine Option.Rel.some ?_
    unfold statement
    simp only [hentry, Except.map]

/-! ## Linking -/

/-- **An assembled statement links a placed one** if it has its label, its
instruction and its address, and its operands with the addresses found. -/
structure Links (layout : Layout) (placed : PlacedStatement) (assembled : AssembledStatement) :
    Prop where
  /-- The label is the same. -/
  label : assembled.label = placed.labelName
  /-- The instruction is the same. -/
  mnemonic : assembled.mnemonic = placed.mnemonic
  /-- The operands are those with the addresses found. -/
  operands : placed.operands.mapM (Operand.resolve layout.addressOf) = .ok assembled.operands
  /-- The address is the same. -/
  address : assembled.address = UInt8.ofNat placed.address

/-- Linking a statement gives the statement that links it. -/
theorem assembleStatement_eq_ok_iff {layout : Layout} {placed : PlacedStatement}
    {assembled : AssembledStatement} :
    layout.assembleStatement placed = .ok assembled ↔ layout.Links placed assembled := by
  unfold assembleStatement
  constructor
  · intro h
    obtain ⟨found, hoperands, rfl⟩ := map_eq_ok_iff.mp h
    exact ⟨rfl, rfl, hoperands, rfl⟩
  · rintro ⟨hlabel, hmnemonic, hoperands, haddress⟩
    rw [hoperands]
    show Except.ok _ = _
    rw [← haddress, ← hmnemonic, show placed.label.map Label.name = assembled.label
      from hlabel.symm]

/-- Linking a program links its statements in order. -/
theorem assembledStatements_eq_ok_iff {layout : Layout} {linked : List AssembledStatement} :
    layout.assembledStatements = .ok linked ↔
      List.Forall₂ layout.Links layout.statements linked := by
  unfold assembledStatements
  rw [mapM_eq_ok_iff]
  simp only [assembleStatement_eq_ok_iff]

/-- The operands of a linked statement are found one by one. -/
theorem Links.forall₂ {layout : Layout} {placed : PlacedStatement} {assembled : AssembledStatement}
    (h : layout.Links placed assembled) :
    List.Forall₂ (fun operand found => Operand.resolve layout.addressOf operand = .ok found)
      placed.operands assembled.operands :=
  mapM_eq_ok_iff.mp h.operands

end Layout

namespace Assembly

/-- **Statements assemble** if they have a layout and its statements can be
linked. -/
theorem ofStatements_eq_ok_iff {statements : List Statement} {assembly : Assembly} :
    ofStatements statements = .ok assembly ↔
      ∃ layout linked, Layout.ofStatements statements = .ok layout ∧
        List.Forall₂ layout.Links layout.statements linked ∧ ofLayout layout linked = assembly := by
  simp only [← Layout.assembledStatements_eq_ok_iff]
  unfold ofStatements
  constructor
  · intro h
    split at h
    · exact absurd h (by simp)
    · next layout hlayout =>
      obtain ⟨linked, hlinked, heq⟩ := map_eq_ok_iff.mp h
      exact ⟨layout, linked, hlayout, hlinked, heq⟩
  · rintro ⟨layout, linked, hlayout, hlinked, heq⟩
    rw [hlayout]
    exact map_eq_ok_iff.mpr ⟨linked, hlinked, heq⟩

/-- A source text assembles if its lines are statements that do. -/
theorem ofSource_eq_ok_iff_ofStatements {source : String} {assembly : Assembly} :
    ofSource source = .ok assembly ↔
      ∃ lines statements, Source.tokens source = .ok lines ∧
        Statement.ofLines lines = .ok statements ∧ ofStatements statements = .ok assembly := by
  unfold ofSource
  constructor
  · intro h
    split at h
    · exact absurd h (by simp)
    · next lines hlines =>
      split at h
      · exact absurd h (by simp)
      · next statements hstatements => exact ⟨lines, statements, hlines, hstatements, h⟩
  · rintro ⟨lines, statements, hlines, hstatements, h⟩
    simp only [hlines, hstatements, h]

/-- **A successful assembly, stage by stage.** -/
theorem ofSource_eq_ok_iff {source : String} {assembly : Assembly} :
    ofSource source = .ok assembly ↔
      ∃ lines statements layout linked, Source.tokens source = .ok lines ∧
        Statement.ofLines lines = .ok statements ∧ Layout.ofStatements statements = .ok layout ∧
        List.Forall₂ layout.Links layout.statements linked ∧ ofLayout layout linked = assembly := by
  rw [ofSource_eq_ok_iff_ofStatements]
  constructor
  · rintro ⟨lines, statements, hlines, hstatements, h⟩
    obtain ⟨layout, linked, hlayout⟩ := ofStatements_eq_ok_iff.mp h
    exact ⟨lines, statements, layout, linked, hlines, hstatements, hlayout⟩
  · rintro ⟨lines, statements, layout, linked, hlines, hstatements, hlayout⟩
    exact ⟨lines, statements, hlines, hstatements, ofStatements_eq_ok_iff.mpr
      ⟨layout, linked, hlayout⟩⟩

end Assembly

end AccumulatorMachine
