import AccumulatorMachine.Proofs.Program.Linking
import AccumulatorMachine.Proofs.Program.Operands

/-!
# Sizes and words

The size of a statement is computed before its addresses are known, and its
words after. Both look at the first operand only, and resolving an operand keeps
its shape, so they agree (`Layout.Links.length_words`). The one place where they
would not is data without an operand, which takes a word and emits none; the
signature of data excludes it.

So the words of a program lie where its layout says. `Assembly.ofSource_placed`
states this for every source text that assembles.
-/

namespace AccumulatorMachine

/-! ## One statement -/

/-- Every instruction takes a word at least. -/
theorem Mnemonic.size_pos {Target : Type} (mnemonic : Mnemonic)
    (operands : List (Operand Target)) : 0 < mnemonic.size operands := by
  unfold size
  split <;> omega

/-- **What an instruction becomes is as long as its size**, unless it is data
without an operand. -/
theorem Mnemonic.length_encode {mnemonic : Mnemonic} {operands : List (Operand UInt8)}
    (h : mnemonic = .data → operands ≠ []) :
    (mnemonic.encode operands).length = mnemonic.size operands := by
  rcases mnemonic with _ | _ | op | op | _
  · rcases operands with _ | ⟨operand, rest⟩
    · exact absurd rfl (h rfl)
    · cases operand with
      | bytes values => exact List.length_append
      | address target => rfl
      | byte value => rfl
      | operator op => rfl
  all_goals rfl

/-- **Finding addresses leaves the size alone.** -/
theorem Mnemonic.size_resolve {Before After Failure : Type} {find : Before → Except Failure After}
    {mnemonic : Mnemonic} {operands : List (Operand Before)} {found : List (Operand After)}
    (h : List.Forall₂ (fun operand found => Operand.resolve find operand = .ok found)
      operands found) :
    mnemonic.size found = mnemonic.size operands := by
  cases h with
  | nil => cases mnemonic <;> rfl
  | @cons operand first _ _ hfirst _ =>
    cases operand with
    | address target =>
      obtain ⟨address, -, rfl⟩ := map_eq_ok_iff.mp hfirst
      cases mnemonic <;> rfl
    | byte value => obtain rfl := Except.ok.inj hfirst; cases mnemonic <;> rfl
    | bytes values => obtain rfl := Except.ok.inj hfirst; cases mnemonic <;> rfl
    | operator op => obtain rfl := Except.ok.inj hfirst; cases mnemonic <;> rfl

/-- Data that was understood has an operand. -/
theorem PlacedStatement.Reads.operands_ne_nil {placed : PlacedStatement} {statement : Statement}
    (h : placed.Reads statement) (hdata : placed.mnemonic = .data) : placed.operands ≠ [] := by
  obtain ⟨hcount, hall⟩ := Layout.operands_eq_ok_iff.mp h.operands
  rw [hdata] at hcount
  have hone : 1 = statement.operands.length := beq_iff_eq.mp hcount
  refine List.ne_nil_of_length_pos ?_
  rw [← hall.length_eq, ← hone]
  exact Nat.one_pos

/-- **A statement emits as many words as its size says**, which was computed
before its addresses were known. -/
theorem Layout.Links.length_words {layout : Layout} {placed : PlacedStatement}
    {assembled : AssembledStatement} {statement : Statement}
    (hlinks : layout.Links placed assembled) (hreads : placed.Reads statement) :
    assembled.words.length = placed.size := by
  have hfound := hlinks.forall₂
  unfold AssembledStatement.words
  rw [hlinks.mnemonic, hreads.size, ← Mnemonic.size_resolve hfound]
  refine Mnemonic.length_encode (fun hdata => List.ne_nil_of_length_pos ?_)
  rw [← hfound.length_eq]
  exact List.length_pos_of_ne_nil (hreads.operands_ne_nil hdata)

/-! ## Whole programs -/

namespace Layout

/-- **A layout with the statements that link its own**, as a successful assembly
leaves them. -/
structure Linked (layout : Layout) (linked : List AssembledStatement) : Prop where
  /-- The layout is sound. -/
  sound : layout.Sound
  /-- Its words fit into memory. -/
  fits : (layout.statements.map PlacedStatement.size).sum ≤ capacity
  /-- The sizes are those of the operands. -/
  sizes : ∀ placed ∈ layout.statements, placed.size = placed.mnemonic.size placed.operands
  /-- The statements link those of the layout, and emit as many words as these
  take. -/
  links : List.Forall₂ (fun placed assembled =>
    layout.Links placed assembled ∧ assembled.words.length = placed.size)
    layout.statements linked

/-- A successful assembly leaves a linked layout. -/
theorem linked_of_ofStatements {statements : List Statement} {layout : Layout}
    {linked : List AssembledStatement} (hlayout : ofStatements statements = .ok layout)
    (hlinked : List.Forall₂ layout.Links layout.statements linked) : layout.Linked linked := by
  obtain ⟨hsound, hreads, hfits⟩ := ofStatements_eq_ok hlayout
  have hreading : ∀ placed ∈ layout.statements, ∃ statement, placed.Reads statement := by
    intro placed hmem
    obtain ⟨statement, -, hstatement⟩ := exists_mem_of_forall₂ hreads hmem
    exact ⟨statement, hstatement⟩
  refine ⟨hsound, hfits, fun placed hmem => ?_, ?_⟩
  · obtain ⟨statement, hstatement⟩ := hreading placed hmem
    exact hstatement.size
  · refine forall₂_imp_of_mem hlinked (fun placed hmem assembled hlinks => ?_)
    obtain ⟨statement, hstatement⟩ := hreading placed hmem
    exact ⟨hlinks, hlinks.length_words hstatement⟩

/-- Statements whose words are as long as their sizes emit as many words as the
sizes make together. -/
theorem length_flatMap_words {placed : List PlacedStatement} {assembled : List AssembledStatement}
    (h : List.Forall₂ (fun placed assembled => assembled.words.length = placed.size)
      placed assembled) :
    (assembled.flatMap AssembledStatement.words).length
      = (placed.map PlacedStatement.size).sum := by
  induction h with
  | nil => rfl
  | cons hfirst _ ih =>
    rw [List.flatMap_cons, List.length_append, List.map_cons, List.sum_cons, hfirst, ih]

/-- Behind each statement that takes a word, the next one has a larger address. -/
theorem pairwise_address {statements : List PlacedStatement} {start : Nat}
    (haddress : ∀ before placed behind, statements = before ++ placed :: behind →
      placed.address = start + (before.map PlacedStatement.size).sum)
    (hsize : ∀ placed ∈ statements, 0 < placed.size) :
    statements.Pairwise fun first second => first.address < second.address := by
  induction statements generalizing start with
  | nil => exact List.Pairwise.nil
  | cons first rest ih =>
    have hfirst : first.address = start := haddress [] first rest rfl
    -- the rest begins where the first statement ends
    have hrest : ∀ before placed behind, rest = before ++ placed :: behind →
        placed.address = start + first.size + (before.map PlacedStatement.size).sum := by
      rintro before placed behind rfl
      rw [haddress (first :: before) placed behind rfl, List.map_cons, List.sum_cons, Nat.add_assoc]
    refine List.Pairwise.cons (fun second hmem => ?_)
      (ih hrest fun placed hmem => hsize placed (List.mem_cons_of_mem _ hmem))
    obtain ⟨before, behind, hsplit⟩ := List.append_of_mem hmem
    have hsecond := hrest before second behind hsplit
    have hpos := hsize first List.mem_cons_self
    omega

namespace Linked

variable {layout : Layout} {linked : List AssembledStatement}

/-- Every statement takes a word at least. -/
theorem size_pos (h : layout.Linked linked) : ∀ placed ∈ layout.statements, 0 < placed.size :=
  fun placed hmem => h.sizes placed hmem ▸ Mnemonic.size_pos _ _

/-- **The words of a statement lie within memory**, so that its address loses
nothing as a byte. -/
theorem toNat_address (h : layout.Linked linked) {placed : PlacedStatement}
    (hmem : placed ∈ layout.statements) :
    placed.address < capacity ∧ (UInt8.ofNat placed.address).toNat = placed.address := by
  obtain ⟨before, behind, hsplit⟩ := List.append_of_mem hmem
  have haddress := h.sound.addresses before placed behind hsplit
  have hfits := h.fits
  have hpos := h.size_pos placed hmem
  rw [hsplit, List.map_append, List.map_cons, List.sum_append, List.sum_cons, ← haddress] at hfits
  have hlt : placed.address < capacity := by omega
  refine ⟨hlt, ?_⟩
  unfold capacity at hlt
  rw [UInt8.toNat_ofNat']
  omega

/-- **A statement stands behind the words of those before it.** -/
theorem address_eq (h : layout.Linked linked) {before behind : List AssembledStatement}
    {assembled : AssembledStatement} (hsplit : linked = before ++ assembled :: behind) :
    assembled.address.toNat = (before.flatMap AssembledStatement.words).length := by
  subst hsplit
  obtain ⟨_, placed, _, hwhole, hbefore, hplaced⟩ := exists_append_of_forall₂ h.links.flip
  have hmem : placed ∈ layout.statements :=
    hwhole ▸ List.mem_append_right _ List.mem_cons_self
  rw [hplaced.1.address, (h.toNat_address hmem).2, h.sound.addresses _ _ _ hwhole,
    length_flatMap_words (hbefore.flip.imp fun _ _ hboth => hboth.2)]

/-- The words of a statement are found at its address. -/
theorem words_at_address (h : layout.Linked linked) {before behind : List AssembledStatement}
    {assembled : AssembledStatement} (hsplit : linked = before ++ assembled :: behind) :
    ((linked.flatMap AssembledStatement.words).drop assembled.address.toNat).take
      assembled.words.length = assembled.words := by
  rw [h.address_eq hsplit, hsplit, List.flatMap_append, List.flatMap_cons, List.drop_left,
    List.take_left]

/-- **The symbols are the labelled statements** with their addresses, in
order. -/
theorem symbolTable_eq (h : layout.Linked linked) :
    layout.symbolTable = linked.filterMap fun assembled =>
      assembled.label.map fun name => (name, assembled.address) := by
  unfold symbolTable
  rw [h.sound.symbols_eq]
  show List.map _ _ = _
  rw [List.map_filterMap]
  refine filterMap_eq_of_forall₂ h.links ?_
  rintro placed assembled ⟨hlinks, -⟩
  rw [hlinks.label, hlinks.address, Option.map_map]
  rfl

/-- No name is in the symbols twice. -/
theorem nodup_symbolTable (h : layout.Linked linked) :
    (layout.symbolTable.map Prod.fst).Nodup := by
  unfold symbolTable
  rw [h.sound.symbols_eq]
  show (List.map Prod.fst (List.map _ _)).Nodup
  rw [List.map_map, List.map_filterMap]
  refine (List.filterMap_congr fun placed _ => ?_) ▸ h.sound.distinct
  cases placed.labelName <;> rfl

/-- **The addresses of the symbols increase.** -/
theorem pairwise_symbolTable (h : layout.Linked linked) :
    layout.symbolTable.Pairwise fun first second => first.2.toNat < second.2.toNat := by
  have haddress : ∀ before placed behind, layout.statements = before ++ placed :: behind →
      placed.address = 0 + (before.map PlacedStatement.size).sum := by
    intro before placed behind hsplit
    rw [h.sound.addresses before placed behind hsplit, Nat.zero_add]
  have hstatements := pairwise_address haddress h.size_pos
  unfold symbolTable
  rw [h.sound.symbols_eq]
  show List.Pairwise _ (List.map _ _)
  rw [List.pairwise_map, List.pairwise_filterMap]
  refine hstatements.imp_of_mem ?_
  rintro first second hfirst hsecond hlt symbol hsymbol other hother
  obtain ⟨name, -, rfl⟩ := Option.map_eq_some_iff.mp hsymbol
  obtain ⟨otherName, -, rfl⟩ := Option.map_eq_some_iff.mp hother
  rw [(h.toNat_address hfirst).2, (h.toNat_address hsecond).2]
  exact hlt

end Linked

end Layout

namespace Assembly

/-- **Sizes agree with words.** When a source text assembles, each statement
emits as many words as the size that was computed from its operands before any
address was known. It stands behind the words of the statements before it, so
that its words are found in memory at its address, and the symbols are the
labelled statements with their addresses: in the order of the source, no name
twice, and the addresses increasing. -/
theorem ofSource_placed {source : String} {assembly : Assembly}
    (h : ofSource source = .ok assembly) :
    ∃ lines statements layout, Source.tokens source = .ok lines ∧
      Statement.ofLines lines = .ok statements ∧ Layout.ofStatements statements = .ok layout ∧
      List.Forall₂ PlacedStatement.Reads layout.statements statements ∧
      List.Forall₂ (fun placed assembled =>
        assembled.label = placed.labelName ∧ assembled.mnemonic = placed.mnemonic ∧
          placed.size = placed.mnemonic.size placed.operands ∧
          assembled.words.length = placed.size) layout.statements assembly.statements ∧
      (∀ before assembled behind, assembly.statements = before ++ assembled :: behind →
        assembled.address.toNat = (before.flatMap AssembledStatement.words).length ∧
          (assembly.words.drop assembled.address.toNat).take assembled.words.length
            = assembled.words) ∧
      assembly.words = assembly.statements.flatMap AssembledStatement.words ∧
      assembly.symbols = (assembly.statements.filterMap fun assembled =>
        assembled.label.map fun name => (name, assembled.address)) ∧
      (assembly.symbols.map Prod.fst).Nodup ∧
      assembly.symbols.Pairwise fun first second => first.2.toNat < second.2.toNat := by
  obtain ⟨lines, statements, layout, linked, hlines, hstatements, hlayout, hlinked, rfl⟩ :=
    ofSource_eq_ok_iff.mp h
  obtain ⟨-, hreads, -⟩ := Layout.ofStatements_eq_ok hlayout
  have hlinks := Layout.linked_of_ofStatements hlayout hlinked
  refine ⟨lines, statements, layout, hlines, hstatements, hlayout, hreads, ?_, ?_, rfl,
    hlinks.symbolTable_eq, hlinks.nodup_symbolTable, hlinks.pairwise_symbolTable⟩
  · refine forall₂_imp_of_mem hlinks.links (fun placed hmem assembled hboth => ?_)
    obtain ⟨hone, hlength⟩ := hboth
    exact ⟨hone.label, hone.mnemonic, hlinks.sizes placed hmem, hlength⟩
  · intro before assembled behind hsplit
    exact ⟨hlinks.address_eq hsplit, hlinks.words_at_address hsplit⟩

/-- A reference to a statement behind a string with an escape: the zero that
ends the string takes a word, too. -/
theorem ofSource_placed_string :
    ∃ assembly, ofSource "LD [x] ; one\nm: DB \"a\\n\"\nx: DB [m]" = .ok assembly ∧
      assembly.words = [36, 97, 10, 0, 1] ∧ assembly.symbols = [("m", 1), ("x", 4)] ∧
      assembly.symbols.Pairwise fun first second => first.2.toNat < second.2.toNat := by
  have hassembly : ofSource "LD [x] ; one\nm: DB \"a\\n\"\nx: DB [m]" = .ok
      { words := [36, 97, 10, 0, 1]
        symbols := [("m", 1), ("x", 4)]
        statements := [⟨none, .addressed .load, [.address 4], 0⟩,
          ⟨some "m", .data, [.bytes [97, 10]], 1⟩, ⟨some "x", .data, [.address 1], 4⟩] } := by
    decide +kernel
  obtain ⟨_, _, _, -, -, -, -, -, -, -, -, -, hpairwise⟩ := ofSource_placed hassembly
  exact ⟨_, hassembly, rfl, rfl, hpairwise⟩

end Assembly

end AccumulatorMachine
