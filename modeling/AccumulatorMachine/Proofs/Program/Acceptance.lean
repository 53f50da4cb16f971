import AccumulatorMachine.Proofs.Program.Linking

/-!
# When statements assemble

Statements assemble exactly if each can be read, no label stands in front of two
of them, their sizes fit into memory, and every label that an operand names
stands in front of one. Where the statements are placed plays no part in this, so
`Assembly.exists_ofStatements_iff` says it of any readings of the statements.
-/

namespace AccumulatorMachine

/-- Two readings of a statement differ in the address at most. -/
theorem PlacedStatement.Reads.eq_of_reads {placed other : PlacedStatement} {statement : Statement}
    (h : placed.Reads statement) (hother : other.Reads statement) :
    other.labelName = placed.labelName ∧ other.operands = placed.operands ∧
      other.size = placed.size := by
  have hmnemonic : other.mnemonic = placed.mnemonic :=
    Option.some.inj (hother.mnemonic.symm.trans h.mnemonic)
  have hoperands : other.operands = placed.operands := by
    have heq := hother.operands
    rw [hmnemonic, h.operands] at heq
    exact (Except.ok.inj heq).symm
  refine ⟨?_, hoperands, ?_⟩
  · unfold labelName
    rw [hother.label, h.label]
  · rw [hother.size, h.size, hmnemonic, hoperands]

namespace Layout

/-- **Every label that an operand names stands in front of a statement.** -/
def Closed (statements : List PlacedStatement) : Prop :=
  ∀ placed ∈ statements, ∀ reference, Operand.address reference ∈ placed.operands →
    reference.label ∈ statements.filterMap PlacedStatement.labelName

/-- An operand can be resolved if its address, where it is one, can be found. -/
theorem exists_resolve_iff {Before After Failure : Type} {find : Before → Except Failure After}
    {operand : Operand Before} :
    (∃ found, operand.resolve find = .ok found) ↔
      ∀ target, operand = .address target → ∃ address, find target = .ok address := by
  cases operand with
  | address target =>
    rw [Operand.resolve]
    constructor
    · rintro ⟨found, hfound⟩ other hother
      obtain rfl := Operand.address.inj hother
      obtain ⟨address, haddress, -⟩ := map_eq_ok_iff.mp hfound
      exact ⟨address, haddress⟩
    · intro h
      obtain ⟨address, haddress⟩ := h target rfl
      rw [haddress]
      exact ⟨_, rfl⟩
  | byte value => exact ⟨fun _ target h => absurd h (by simp), fun _ => ⟨_, rfl⟩⟩
  | bytes values => exact ⟨fun _ target h => absurd h (by simp), fun _ => ⟨_, rfl⟩⟩
  | operator op => exact ⟨fun _ target h => absurd h (by simp), fun _ => ⟨_, rfl⟩⟩

/-- An operand cannot be resolved if it is an address that cannot be found. -/
theorem resolve_eq_error_iff {Before After Failure : Type} {find : Before → Except Failure After}
    {operand : Operand Before} {failure : Failure} :
    operand.resolve find = .error failure ↔
      ∃ target, operand = .address target ∧ find target = .error failure := by
  cases operand with
  | address target => simp [Operand.resolve, map_eq_error_iff]
  | byte value | bytes values | operator op => simp [Operand.resolve]

/-- **A statement can be linked** if the labels that its operands name have
addresses. -/
theorem exists_links_iff {layout : Layout} {placed : PlacedStatement} :
    (∃ assembled, layout.Links placed assembled) ↔
      ∀ reference, Operand.address reference ∈ placed.operands →
        ∃ address, layout.addressOf reference = .ok address := by
  have hlinks : (∃ assembled, layout.Links placed assembled) ↔
      ∃ found, placed.operands.mapM (Operand.resolve layout.addressOf) = .ok found := by
    constructor
    · rintro ⟨assembled, h⟩
      exact ⟨_, h.operands⟩
    · rintro ⟨found, h⟩
      exact ⟨⟨_, _, found, _⟩, rfl, rfl, h, rfl⟩
  simp only [hlinks, mapM_eq_ok_iff, exists_forall₂_iff, exists_resolve_iff]
  constructor
  · intro h reference hmem
    exact h _ hmem reference rfl
  · rintro h operand hmem reference rfl
    exact h reference hmem

/-- **A label has an address in a sound layout** exactly if a statement carries it. -/
theorem Sound.exists_addressOf_iff {layout : Layout} (h : layout.Sound) {reference : Reference} :
    (∃ address, layout.addressOf reference = .ok address) ↔
      reference.label ∈ layout.statements.filterMap PlacedStatement.labelName := by
  rw [List.mem_filterMap]
  constructor
  · rintro ⟨address, haddress⟩
    obtain ⟨carrier, hmem, hname, -⟩ := h.addressOf_eq_ok_iff.mp haddress
    exact ⟨carrier, hmem, hname⟩
  · rintro ⟨carrier, hmem, hname⟩
    exact ⟨_, h.addressOf_eq_ok_iff.mpr ⟨carrier, hmem, hname, rfl⟩⟩

/-- **A label is unknown in a sound layout** exactly if no statement carries it. -/
theorem Sound.addressOf_eq_error_iff {layout : Layout} (h : layout.Sound) {reference : Reference}
    {fault : Fault} :
    layout.addressOf reference = .error fault ↔
      reference.label ∉ layout.statements.filterMap PlacedStatement.labelName ∧
        fault = .unresolvedReference reference.label reference.span := by
  constructor
  · intro hfault
    refine ⟨fun hmem => ?_, ?_⟩
    · obtain ⟨address, haddress⟩ := h.exists_addressOf_iff.mpr hmem
      exact absurd (hfault.symm.trans haddress) (by simp)
    · unfold addressOf at hfault
      split at hfault
      · exact absurd hfault (by simp)
      · exact (Except.error.inj hfault).symm
  · rintro ⟨hunknown, rfl⟩
    unfold addressOf
    rw [h.carrier_eq_none_iff.mpr hunknown]

/-- **A sound layout can be linked** exactly if it is closed. -/
theorem Sound.exists_forall₂_links_iff {layout : Layout} (h : layout.Sound) :
    (∃ linked, List.Forall₂ layout.Links layout.statements linked) ↔
      Closed layout.statements := by
  simp only [exists_forall₂_iff, exists_links_iff, h.exists_addressOf_iff]
  rfl

/-- **Statements that can be read can be placed**, if no label stands in front of
two of them. Where they end is the sum of the sizes of any readings. -/
theorem exists_placeAll_of_reads {placed : List PlacedStatement} {statements : List Statement}
    (hreads : List.Forall₂ PlacedStatement.Reads placed statements)
    (hdistinct : (statements.filterMap Statement.labelName).Nodup) :
    ∃ layout, empty.placeAll statements = .ok layout ∧
      layout.size = (placed.map PlacedStatement.size).sum := by
  have hreadable : ∀ statement ∈ statements, statement.Readable := by
    intro statement hmem
    obtain ⟨reading, -, hreading⟩ := exists_mem_of_forall₂ hreads.flip hmem
    exact ⟨reading, hreading⟩
  obtain ⟨layout, hlayout⟩ := sound_empty.exists_placeAll hreadable hdistinct
  obtain ⟨hsound, added, hadded, hall⟩ := sound_empty.of_placeAll hlayout
  -- the readings in the layout have the sizes of those that were given
  have hsizes : placed.map PlacedStatement.size = added.map PlacedStatement.size :=
    map_eq_of_forall₂ (forall₂_of_forall₂ hreads.flip hall.flip
      fun statement reading other h hother => PlacedStatement.Reads.eq_of_reads h hother)
      fun reading other h => h.2.2.symm
  refine ⟨layout, hlayout, ?_⟩
  rw [hsound.size_eq, show layout.statements = added from hadded, ← hsizes]

/-- **A program has a layout** if its statements can be read, no label stands in
front of two, and their sizes fit into memory. -/
theorem exists_ofStatements {placed : List PlacedStatement} {statements : List Statement}
    (hreads : List.Forall₂ PlacedStatement.Reads placed statements)
    (hdistinct : (placed.filterMap PlacedStatement.labelName).Nodup)
    (hfits : (placed.map PlacedStatement.size).sum ≤ capacity) :
    ∃ layout, ofStatements statements = .ok layout := by
  rw [filterMap_labelName hreads] at hdistinct
  obtain ⟨layout, hlayout, hsize⟩ := exists_placeAll_of_reads hreads hdistinct
  refine ⟨layout, ?_⟩
  unfold ofStatements
  rw [hlayout]
  exact if_pos (hsize ▸ hfits)

end Layout

namespace Assembly

/-- **Statements assemble** exactly if they can be read, with no label in front
of two, sizes that fit into memory, and no operand that names a label in front of
none. -/
theorem exists_ofStatements_iff {statements : List Statement} :
    (∃ assembly, ofStatements statements = .ok assembly) ↔
      ∃ placed, List.Forall₂ PlacedStatement.Reads placed statements ∧
        (placed.filterMap PlacedStatement.labelName).Nodup ∧
        (placed.map PlacedStatement.size).sum ≤ capacity ∧ Layout.Closed placed := by
  constructor
  · rintro ⟨assembly, h⟩
    obtain ⟨layout, linked, hlayout, hlinked, -⟩ := ofStatements_eq_ok_iff.mp h
    obtain ⟨hsound, hreads, hfits⟩ := Layout.ofStatements_eq_ok hlayout
    exact ⟨layout.statements, hreads, hsound.distinct, hfits,
      hsound.exists_forall₂_links_iff.mp ⟨linked, hlinked⟩⟩
  · rintro ⟨placed, hreads, hdistinct, hfits, hclosed⟩
    obtain ⟨layout, hlayout⟩ := Layout.exists_ofStatements hreads hdistinct hfits
    obtain ⟨hsound, hall, -⟩ := Layout.ofStatements_eq_ok hlayout
    have hsame := forall₂_of_forall₂ hreads.flip hall.flip
      fun statement reading other h hother => PlacedStatement.Reads.eq_of_reads h hother
    have hnames : placed.filterMap PlacedStatement.labelName
        = layout.statements.filterMap PlacedStatement.labelName :=
      filterMap_eq_of_forall₂ hsame fun reading other h => h.1.symm
    have hclosedLayout : Layout.Closed layout.statements := by
      intro other hmem reference hreference
      obtain ⟨reading, hreading, -, hoperands, -⟩ := exists_mem_of_forall₂ hsame.flip hmem
      rw [hoperands] at hreference
      rw [← hnames]
      exact hclosed reading hreading reference hreference
    obtain ⟨linked, hlinked⟩ := hsound.exists_forall₂_links_iff.mpr hclosedLayout
    exact ⟨_, ofStatements_eq_ok_iff.mpr ⟨layout, linked, hlayout, hlinked, rfl⟩⟩

end Assembly

end AccumulatorMachine
