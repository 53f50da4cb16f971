import AccumulatorMachine.Proofs.Program.Checks
import AccumulatorMachine.Proofs.Program.Sizes
import AccumulatorMachine.Proofs.Text.Split

/-!
# Lines added at the end

What is added behind a program leaves its assembly as it is. The added lines have tokens
and statements of their own (`Source.tokensOfLines_prefix`, `Statement.ofLines_prefix`),
and their statements are placed behind those that are there (`Layout.placeAll_prefix`).

The addresses are the one thing that is found in the whole program. A label that is found
in a program is found in a longer one at the same statement, since no other statement of
the longer one can carry it either (`Layout.addressOf_mono`); so the statements that link
those of the program still do (`Layout.Links.mono`), whatever comes behind them. With all
this an assembly is the beginning of that of the longer program
(`Assembly.ofStatements_append`, `Assembly.ofSource_append`).
-/

namespace AccumulatorMachine

/-! ## Tokens and statements -/

/-- **The tokens of some lines** come before those of lines behind them. -/
theorem Source.tokensOfLines_prefix {lines more : List (List Char)} {offset : Nat}
    {rows longer : List (List Token)} (h : tokensOfLines lines offset = .ok rows)
    (hlonger : tokensOfLines (lines ++ more) offset = .ok longer) : rows <+: longer := by
  induction lines generalizing offset rows longer with
  | nil =>
    obtain rfl := Except.ok.inj h
    exact List.nil_prefix
  | cons line lines ih =>
    obtain ⟨tokens, others, hline, hothers, rfl⟩ := tokensOfLines_cons_eq_ok_iff.mp h
    obtain ⟨again, rest, hagain, hrest, rfl⟩ := tokensOfLines_cons_eq_ok_iff.mp hlonger
    obtain rfl := Except.ok.inj (hline.symm.trans hagain)
    have hprefix := ih hothers hrest
    by_cases hempty : tokens.isEmpty = true
    · rwa [if_pos hempty, if_pos hempty]
    · rw [if_neg hempty, if_neg hempty]
      exact List.cons_prefix_cons.mpr ⟨rfl, hprefix⟩

/-- **The tokens of a source text** come before those of lines behind it. -/
theorem Source.tokens_prefix {source more : String} {rows longer : List (List Token)}
    (h : tokens source = .ok rows) (hlonger : tokens (source ++ "\n" ++ more) = .ok longer) :
    rows <+: longer := by
  have htext : (source ++ "\n" ++ more).toList = source.toList ++ '\n' :: more.toList := by
    rw [String.toList_append, String.toList_append, List.append_assoc]
    rfl
  rw [tokens, htext, Text.splitOn_append] at hlonger
  exact tokensOfLines_prefix h hlonger

/-- The statements of some lines come before those of lines behind them. -/
theorem Statement.ofLines_prefix {rows longer : List (List Token)}
    {statements longerStatements : List Statement} (hrows : rows <+: longer)
    (h : ofLines rows = .ok statements) (hlonger : ofLines longer = .ok longerStatements) :
    statements <+: longerStatements := by
  obtain ⟨more, rfl⟩ := hrows
  refine prefix_of_forall₂ (mapM_eq_ok_iff.mp h) (mapM_eq_ok_iff.mp hlonger) ?_
  exact fun row statement other hstatement hother =>
    Except.ok.inj (hstatement.symm.trans hother)

/-! ## Layouts -/

namespace Layout

/-- **Statements are placed behind those that are there.** -/
theorem placeAll_prefix {front back : List Statement} {layout longer : Layout}
    (h : empty.placeAll front = .ok layout)
    (hlonger : empty.placeAll (front ++ back) = .ok longer) :
    layout.Sound ∧ longer.Sound ∧ layout.statements <+: longer.statements := by
  obtain ⟨hsound, -⟩ := sound_empty.of_placeAll h
  rw [placeAll_append, h] at hlonger
  obtain ⟨hlongerSound, added, hadded, -⟩ := hsound.of_placeAll hlonger
  exact ⟨hsound, hlongerSound, added, hadded.symm⟩

section Longer

variable {layout longer : Layout} (h : layout.Sound) (hlonger : longer.Sound)
  (hstatements : layout.statements <+: longer.statements)

include h hlonger hstatements

/-- **An address that is found stays the same** when statements come behind: the label
stands in front of its statement, and can stand in front of no other. -/
theorem addressOf_mono {reference : Reference} {address : UInt8}
    (haddress : layout.addressOf reference = .ok address) :
    longer.addressOf reference = .ok address := by
  obtain ⟨carrier, hmem, hname, hcarrier⟩ := h.addressOf_eq_ok_iff.mp haddress
  exact hlonger.addressOf_eq_ok_iff.mpr ⟨carrier, hstatements.subset hmem, hname, hcarrier⟩

/-- **What links a statement still does** when statements come behind. -/
theorem Links.mono {placed : PlacedStatement} {assembled : AssembledStatement}
    (hlinks : layout.Links placed assembled) : longer.Links placed assembled := by
  refine ⟨hlinks.label, hlinks.mnemonic, mapM_eq_ok_iff.mpr ?_, hlinks.address⟩
  refine hlinks.forall₂.imp fun operand found hfound => ?_
  cases operand with
  | address reference =>
    obtain ⟨address, haddress, rfl⟩ := map_eq_ok_iff.mp hfound
    exact map_eq_ok_iff.mpr ⟨address, addressOf_mono h hlonger hstatements haddress, rfl⟩
  | byte | bytes | operator => exact hfound

/-- **The statements that link a program** come before those that link what comes
behind. -/
theorem links_prefix {linked longerLinked : List AssembledStatement}
    (hlinked : List.Forall₂ layout.Links layout.statements linked)
    (hlongerLinked : List.Forall₂ longer.Links longer.statements longerLinked) :
    linked <+: longerLinked := by
  obtain ⟨more, hmore⟩ := id hstatements
  rw [← hmore] at hlongerLinked
  refine prefix_of_forall₂ hlinked hlongerLinked fun placed assembled other hlinks hother => ?_
  have hagain := hlinks.mono h hlonger hstatements
  exact Except.ok.inj ((assembleStatement_eq_ok_iff.mpr hagain).symm.trans
    (assembleStatement_eq_ok_iff.mpr hother))

end Longer

end Layout

/-! ## Programs -/

namespace Assembly

/-- **Statements added at the end** leave the assembly of those that are there. -/
theorem ofStatements_append {front back : List Statement} {assembly longer : Assembly}
    (h : ofStatements front = .ok assembly) (hlonger : ofStatements (front ++ back) = .ok longer) :
    assembly.words <+: longer.words ∧ assembly.symbols <+: longer.symbols ∧
      assembly.statements <+: longer.statements := by
  obtain ⟨layout, linked, hlayout, hlinked, rfl⟩ := ofStatements_eq_ok_iff.mp h
  obtain ⟨longerLayout, longerLinked, hlongerLayout, hlongerLinked, rfl⟩ :=
    ofStatements_eq_ok_iff.mp hlonger
  obtain ⟨hplace, -⟩ := Layout.ofStatements_eq_ok_iff_placeAll.mp hlayout
  obtain ⟨hlongerPlace, -⟩ := Layout.ofStatements_eq_ok_iff_placeAll.mp hlongerLayout
  obtain ⟨hsound, hlongerSound, hstatements⟩ := Layout.placeAll_prefix hplace hlongerPlace
  have hprefix := Layout.links_prefix hsound hlongerSound hstatements hlinked hlongerLinked
  refine ⟨?_, ?_, hprefix⟩
  · obtain ⟨more, hmore⟩ := id hprefix
    show linked.flatMap AssembledStatement.words <+: longerLinked.flatMap AssembledStatement.words
    rw [← hmore, List.flatMap_append]
    exact List.prefix_append _ _
  · show layout.symbolTable <+: longerLayout.symbolTable
    rw [(Layout.linked_of_ofStatements hlayout hlinked).symbolTable_eq,
      (Layout.linked_of_ofStatements hlongerLayout hlongerLinked).symbolTable_eq]
    exact hprefix.filterMap _

/-- **Lines added at the end** never change what was assembled: if a source text can be
assembled, and so can it with lines added behind it, then its words, its symbols and its
statements come first among those of the longer text. -/
theorem ofSource_append {source more : String} {assembly longer : Assembly}
    (h : ofSource source = .ok assembly)
    (hlonger : ofSource (source ++ "\n" ++ more) = .ok longer) :
    assembly.words <+: longer.words ∧ assembly.symbols <+: longer.symbols ∧
      assembly.statements <+: longer.statements := by
  obtain ⟨rows, statements, hrows, hstatements, hassembly⟩ := ofSource_eq_ok_iff_ofStatements.mp h
  obtain ⟨longerRows, longerStatements, hlongerRows, hlongerStatements, hlongerAssembly⟩ :=
    ofSource_eq_ok_iff_ofStatements.mp hlonger
  obtain ⟨back, rfl⟩ := Statement.ofLines_prefix (Source.tokens_prefix hrows hlongerRows)
    hstatements hlongerStatements
  exact ofStatements_append hassembly hlongerAssembly

/-- References forwards and backwards, a string behind which a line ends, and lines behind
it that refer to both of its labels. -/
theorem ofSource_append_bothWays :
    let source := "a: JMP [b]\nb: DB \"x;\" ;"
    let more := "\nc: LD [b]\nJMP [a]"
    (∃ assembly, ofSource source = .ok assembly ∧ assembly.symbols = [("a", 0), ("b", 1)]) ∧
      ∃ longer, ofSource (source ++ "\n" ++ more) = .ok longer ∧
        longer.words = [161, 120, 59, 0, 33, 160] ∧ [161, 120, 59, 0] <+: longer.words ∧
        [("a", 0), ("b", 1)] <+: longer.symbols := by
  intro source more
  have hassembly : ofSource source = .ok
      { words := [161, 120, 59, 0]
        symbols := [("a", 0), ("b", 1)]
        statements := [⟨some "a", .addressed .jump, [.address 1], 0⟩,
          ⟨some "b", .data, [.bytes [120, 59]], 1⟩] } := by
    decide +kernel
  have hlonger : ofSource (source ++ "\n" ++ more) = .ok
      { words := [161, 120, 59, 0, 33, 160]
        symbols := [("a", 0), ("b", 1), ("c", 4)]
        statements := [⟨some "a", .addressed .jump, [.address 1], 0⟩,
          ⟨some "b", .data, [.bytes [120, 59]], 1⟩, ⟨some "c", .addressed .load, [.address 1], 4⟩,
          ⟨none, .addressed .jump, [.address 0], 5⟩] } := by
    decide +kernel
  obtain ⟨hwords, hsymbols, -⟩ := ofSource_append hassembly hlonger
  exact ⟨⟨_, hassembly, rfl⟩, _, hlonger, rfl, hwords, hsymbols⟩

end Assembly

end AccumulatorMachine
