import AccumulatorMachine.Proofs.Machine.Coherence
import AccumulatorMachine.Proofs.Program.Acceptance
import AccumulatorMachine.Proofs.Program.Sizes
import Mathlib.Data.List.GetD

/-!
# Programs that fit into memory

Whether a program fits is asked once, after all its statements were placed. Until
then addresses are numbers of any size, and behind that question they are bytes,
and five bits in an instruction. What makes this safe is that the question is
about the very number of words that the program becomes, and that every
statement takes one at least, so that no address can lie at the end or beyond.

`Layout.ofStatements_eq_error_iff` says that the question is the only thing left
to fail once the statements can be read, and that it is answered by the sum of
their sizes, whatever that is. What gets past it loads, which
`Assembly.capacity_exact` puts together.
-/

namespace AccumulatorMachine

/-- Memory with an image holds its words and zeros behind them. -/
theorem Memory.toList_words_ofImage {image : List Word} (hfit : image.length ≤ capacity) :
    (ofImage image).words.toList = image ++ List.replicate (capacity - image.length) 0 := by
  have hwords : (ofImage image).words
      = Vector.ofFn fun index : Fin capacity => image.getD index.val 0 := rfl
  rw [hwords]
  refine List.ext_getElem ?_ fun place hplace _ => ?_
  · rw [Vector.length_toList, List.length_append, List.length_replicate]
    omega
  · rw [Vector.getElem_toList, Vector.getElem_ofFn]
    by_cases hlt : place < image.length
    · rw [List.getElem_append_left hlt]
      exact List.getD_eq_getElem _ _ hlt
    · have hle : image.length ≤ place := Nat.le_of_not_lt hlt
      rw [List.getElem_append_right hle, List.getElem_replicate]
      exact List.getD_eq_default _ _ hle

namespace Layout

/-- **Statements that can be read fail to have a layout** exactly if they are too
large together, and the fault gives the size that they have. -/
theorem ofStatements_eq_error_iff {placed : List PlacedStatement} {statements : List Statement}
    (hreads : List.Forall₂ PlacedStatement.Reads placed statements)
    (hdistinct : (statements.filterMap Statement.labelName).Nodup) {fault : Fault} :
    ofStatements statements = .error fault ↔
      capacity < (placed.map PlacedStatement.size).sum ∧
        fault = .programTooLarge (placed.map PlacedStatement.size).sum capacity := by
  obtain ⟨layout, hlayout, hsize⟩ := exists_placeAll_of_reads hreads hdistinct
  have hdecided : ofStatements statements =
      if layout.size ≤ capacity then .ok layout
      else .error (.programTooLarge layout.size capacity) := by
    unfold ofStatements
    rw [hlayout]
  rw [hdecided, hsize]
  by_cases hfits : (placed.map PlacedStatement.size).sum ≤ capacity
  · rw [if_pos hfits]
    exact iff_of_false (by simp) fun h => absurd h.1 (Nat.not_lt.mpr hfits)
  · rw [if_neg hfits, Except.error.injEq, eq_comm]
    exact (and_iff_right (Nat.lt_of_not_le hfits)).symm

namespace Linked

variable {layout : Layout} {linked : List AssembledStatement}

/-- The words of a program are as many as the sizes of its statements make. -/
theorem length_words (h : layout.Linked linked) :
    (linked.flatMap AssembledStatement.words).length
      = (layout.statements.map PlacedStatement.size).sum :=
  length_flatMap_words (h.links.imp fun _ _ hboth => hboth.2)

/-- Linked statements have addresses within memory. -/
theorem toNat_address_of_mem (h : layout.Linked linked) {assembled : AssembledStatement}
    (hmem : assembled ∈ linked) : assembled.address.toNat < capacity := by
  obtain ⟨placed, hplaced, hlinks, -⟩ := exists_mem_of_forall₂ h.links.flip hmem
  rw [hlinks.address, (h.toNat_address hplaced).2]
  exact (h.toNat_address hplaced).1

/-- Symbols have addresses within memory. -/
theorem toNat_symbol_of_mem (h : layout.Linked linked) {symbol : String × UInt8}
    (hmem : symbol ∈ layout.symbolTable) : symbol.2.toNat < capacity := by
  rw [h.symbolTable_eq] at hmem
  obtain ⟨assembled, hassembled, hsymbol⟩ := List.mem_filterMap.mp hmem
  obtain ⟨name, -, rfl⟩ := Option.map_eq_some_iff.mp hsymbol
  exact h.toNat_address_of_mem hassembled

end Linked

end Layout

namespace Assembly

/-- Whatever assembles has no more words than memory holds. -/
theorem length_words_le {source : String} {assembly : Assembly}
    (h : ofSource source = .ok assembly) : assembly.words.length ≤ capacity := by
  obtain ⟨_, _, layout, linked, -, -, hlayout, hlinked, rfl⟩ := ofSource_eq_ok_iff.mp h
  have hlinks := Layout.linked_of_ofStatements hlayout hlinked
  exact hlinks.length_words ▸ hlinks.fits

/-- **The capacity of memory is enforced once, and exactly.** Statements that can be
read, with no label in front of two, fail to have a layout if and only if their
sizes add up to more than memory holds, and what is reported is that sum and the
capacity. Whatever source text assembles has its statements and symbols at
addresses within memory and as many words as the sizes of its statements make;
it loads, and memory then holds its words and zeros behind them. -/
theorem capacity_exact :
    (∀ (placed : List PlacedStatement) (statements : List Statement),
      List.Forall₂ PlacedStatement.Reads placed statements →
      (statements.filterMap Statement.labelName).Nodup →
      ∀ fault, Layout.ofStatements statements = .error fault ↔
        capacity < (placed.map PlacedStatement.size).sum ∧
          fault = .programTooLarge (placed.map PlacedStatement.size).sum capacity) ∧
    ∀ (source : String) (assembly : Assembly), ofSource source = .ok assembly →
      ∃ lines statements layout machine, Source.tokens source = .ok lines ∧
        Statement.ofLines lines = .ok statements ∧
        Layout.ofStatements statements = .ok layout ∧
        List.Forall₂ PlacedStatement.Reads layout.statements statements ∧
        (∀ placed ∈ layout.statements, placed.address < capacity) ∧
        (∀ statement ∈ assembly.statements, statement.address.toNat < capacity) ∧
        (∀ symbol ∈ assembly.symbols, symbol.2.toNat < capacity) ∧
        assembly.words.length = (layout.statements.map PlacedStatement.size).sum ∧
        assembly.words.length ≤ capacity ∧
        Machine.load assembly.words = .ok machine ∧
        machine.memory.words.toList
          = assembly.words ++ List.replicate (capacity - assembly.words.length) 0 := by
  refine ⟨fun placed statements hreads hdistinct fault =>
    Layout.ofStatements_eq_error_iff hreads hdistinct, fun source assembly h => ?_⟩
  obtain ⟨lines, statements, layout, linked, hlines, hstatements, hlayout, hlinked, rfl⟩ :=
    ofSource_eq_ok_iff.mp h
  obtain ⟨-, hreads, -⟩ := Layout.ofStatements_eq_ok hlayout
  have hlinks := Layout.linked_of_ofStatements hlayout hlinked
  have hlength := hlinks.length_words
  have hfit : (linked.flatMap AssembledStatement.words).length ≤ capacity := hlength ▸ hlinks.fits
  exact ⟨lines, statements, layout, _, hlines, hstatements, hlayout, hreads,
    fun placed hmem => (hlinks.toNat_address hmem).1, fun statement => hlinks.toNat_address_of_mem,
    fun symbol => hlinks.toNat_symbol_of_mem, hlength, hfit,
    Machine.load_eq_ok_iff.mpr ⟨hfit, rfl⟩, Memory.toList_words_ofImage hfit⟩

/-- A string that is one word too long with the zero behind it, and a program that
fills memory to the last word. -/
theorem capacity_exact_boundary :
    let text : Statement :=
      ⟨none, "DB", ⟨0, 2⟩, [⟨.string, "", .bytes (List.replicate 32 97), ⟨3, 34⟩⟩]⟩
    let source := "JMP [end]\nDB \"this text fills up the memory\"\nend: OUT"
    Layout.ofStatements [text] = .error (.programTooLarge 33 32) ∧
      ∃ assembly machine, ofSource source = .ok assembly ∧ assembly.words.length = 32 ∧
        assembly.symbols = [("end", 31)] ∧ Machine.load assembly.words = .ok machine ∧
        machine.memory.words.toList = assembly.words := by
  intro text source
  obtain ⟨hlarge, hfits⟩ := capacity_exact
  have hread : PlacedStatement.Reads
      ⟨none, .data, [.bytes (List.replicate 32 97)], 0, 33, ⟨0, 2⟩⟩ text :=
    ⟨rfl, by decide, rfl, rfl, rfl⟩
  have hassembly : ofSource source = .ok
      { words := [191, 116, 104, 105, 115, 32, 116, 101, 120, 116, 32, 102, 105, 108, 108, 115,
          32, 117, 112, 32, 116, 104, 101, 32, 109, 101, 109, 111, 114, 121, 0, 224]
        symbols := [("end", 31)]
        statements := [⟨none, .addressed .jump, [.address 31], 0⟩,
          ⟨none, .data, [.bytes [116, 104, 105, 115, 32, 116, 101, 120, 116, 32, 102, 105, 108,
            108, 115, 32, 117, 112, 32, 116, 104, 101, 32, 109, 101, 109, 111, 114, 121]], 1⟩,
          ⟨some "end", .output, [], 31⟩] } := by
    decide +kernel
  obtain ⟨-, -, -, machine, -, -, -, -, -, -, -, -, -, hload, hmemory⟩ :=
    hfits source _ hassembly
  refine ⟨?_, _, machine, hassembly, rfl, rfl, hload, hmemory.trans (List.append_nil _)⟩
  exact (hlarge _ _ (.cons hread .nil) List.nodup_nil _).mpr ⟨by decide, rfl⟩

end Assembly

end AccumulatorMachine
