import AccumulatorMachine.Proofs.Instruction.Fields
import AccumulatorMachine.Proofs.Program.Sizes
import AccumulatorMachine.Proofs.Source.Lines

/-!
# References

A name in brackets stands for the address of the one statement that carries the
name as its label, wherever that statement stands. `Assembly.ofSource_references`
follows a reference from the text to the word that it becomes: through the label
table to its carrier, from there to an address below thirty-two, which loses
nothing as a byte and nothing in the five bits of an instruction.
-/

namespace AccumulatorMachine

/-! ## Operands that are references -/

/-- A token of an address is a name in brackets, and says the name. -/
theorem Token.Says.of_address {token : Token} {term : Term} (h : token.Says term)
    (hkind : token.kind = .address) :
    ∃ name, term = .address name ∧ token.literal = "[" ++ name ++ "]" := by
  obtain ⟨hspells, hterm, -⟩ := h
  generalize htext : token.literal.toList = text at hspells
  cases hspells with
  | @address name hname =>
    refine ⟨_, rfl, String.toList_inj.mp ?_⟩
    rw [htext]
    simp
  | label | number | string | identifier =>
    rw [hkind] at hterm
    exact absurd hterm (by simp [Term.kind])

/-- An address is taken by data and by the instructions that name a memory word,
and is their only operand. -/
theorem Mnemonic.of_address_mem_kinds {mnemonic : Mnemonic} {count : Nat}
    (h : TokenKind.address ∈ mnemonic.kinds)
    (hcount : mnemonic.signature.acceptsCount count = true) :
    count = 1 ∧ (mnemonic = .data ∨ ∃ op, mnemonic = .addressed op) := by
  rcases mnemonic with _ | _ | op | op | _
  · exact ⟨(beq_iff_eq.mp hcount).symm, Or.inl rfl⟩
  · exact absurd h (by decide)
  · exact absurd h (by simp [kinds])
  · exact ⟨(beq_iff_eq.mp hcount).symm, Or.inr ⟨op, rfl⟩⟩
  · exact absurd h (by decide)

/-- **A statement with a reference has no other operand**, and is data or names a
memory word. -/
theorem PlacedStatement.Reads.of_address {placed : PlacedStatement} {statement : Statement}
    (h : placed.Reads statement) {token : Token} {name : String}
    (hmem : token ∈ statement.operands) (hsaid : token.Says (.address name)) :
    placed.operands = [.address ⟨name, token.span⟩] ∧
      (placed.mnemonic = .data ∨ ∃ op, placed.mnemonic = .addressed op) := by
  obtain ⟨hcount, hall⟩ := Layout.operands_eq_ok_iff.mp h.operands
  obtain ⟨-, -, hkind, -⟩ := exists_mem_of_forall₂ hall hmem
  rw [show token.kind = .address from hsaid.kind] at hkind
  obtain ⟨hone, hmnemonic⟩ := Mnemonic.of_address_mem_kinds hkind hcount
  obtain ⟨only, honly⟩ := List.length_eq_one_iff.mp hone
  rw [honly] at hmem hall
  obtain rfl := List.mem_singleton.mp hmem
  obtain ⟨operand, rest, ⟨-, hoperand⟩, hrest, hoperands⟩ := List.forall₂_cons_left_iff.mp hall
  rw [List.forall₂_nil_left_iff.mp hrest] at hoperands
  rw [Operand.ofToken_address hsaid] at hoperand
  rw [hoperands, Except.ok.inj hoperand]
  exact ⟨rfl, hmnemonic⟩

namespace Layout

/-- **A linked reference is the address of its carrier.** -/
theorem Linked.operands_eq {layout : Layout} {linked : List AssembledStatement}
    (h : layout.Linked linked) {placed : PlacedStatement} {user : AssembledStatement}
    {reference : Reference} (hlinks : layout.Links placed user)
    (hoperands : placed.operands = [.address reference]) :
    ∃ (place : Nat) (carrier : PlacedStatement) (target : AssembledStatement),
      layout.statements[place]? = some carrier ∧ carrier.labelName = some reference.label ∧
      linked[place]? = some target ∧ layout.Links carrier target ∧
      user.operands = [.address target.address] := by
  have hfound := hlinks.forall₂
  rw [hoperands] at hfound
  obtain ⟨found, rest, hfirst, hrest, huser⟩ := List.forall₂_cons_left_iff.mp hfound
  rw [List.forall₂_nil_left_iff.mp hrest] at huser
  rw [Operand.resolve] at hfirst
  obtain ⟨address, haddress, rfl⟩ := map_eq_ok_iff.mp hfirst
  obtain ⟨carrier, hcarrier, hname, rfl⟩ := h.sound.addressOf_eq_ok_iff.mp haddress
  obtain ⟨place, hplace⟩ := List.mem_iff_getElem?.mp hcarrier
  obtain ⟨target, htarget, hone, -⟩ := exists_getElem?_of_forall₂ h.links hplace
  refine ⟨place, carrier, target, hplace, hname, htarget, hone, ?_⟩
  rw [huser, hone.address]

/-- In a sound layout at most one statement carries a label. -/
theorem Sound.place_unique {layout : Layout} (h : layout.Sound) {name : String}
    {place other : Nat} {placed found : PlacedStatement}
    (hplaced : layout.statements[place]? = some placed) (hplacedName : placed.labelName = some name)
    (hfound : layout.statements[other]? = some found) (hfoundName : found.labelName = some name) :
    other = place := by
  have hother := h.lookup_eq_some_iff.mpr ⟨found, hfound, hfoundName⟩
  rw [h.lookup_eq_some_iff.mpr ⟨placed, hplaced, hplacedName⟩] at hother
  exact (Option.some.inj hother).symm

end Layout

namespace Assembly

/-- **Every reference is linked to the statement that carries its label.** When a
source text assembles and `[name]` is an operand in it, exactly one statement
carries the label `name`, and its words begin at an address below thirty-two. The
statement with the reference emits one word: with that address and its own opcode
if it names a memory word, and the address itself if it is data. -/
theorem ofSource_references {source : String} {assembly : Assembly}
    (h : ofSource source = .ok assembly) :
    ∃ lines statements, Source.tokens source = .ok lines ∧
      Statement.ofLines lines = .ok statements ∧
      assembly.statements.length = statements.length ∧
      ∀ (index : Nat) (statement : Statement), statements[index]? = some statement →
        ∀ token ∈ statement.operands, token.kind = .address →
          ∃ (name : String) (place : Nat) (carrier user : AssembledStatement),
            token.literal = "[" ++ name ++ "]" ∧
            (∀ other : Nat,
              (∃ found, statements[other]? = some found ∧ found.labelName = some name) ↔
                other = place) ∧
            assembly.statements[place]? = some carrier ∧ carrier.label = some name ∧
            carrier.address.toNat
              = ((assembly.statements.take place).flatMap AssembledStatement.words).length ∧
            carrier.address.toNat < capacity ∧
            assembly.statements[index]? = some user ∧
            user.operands = [.address carrier.address] ∧
            ((∃ (op : AddressOp) (word : Word),
                Mnemonic.ofName? statement.mnemonic = some (.addressed op) ∧
                user.words = [word] ∧ Word.opcode word = .addressed op ∧
                Word.operand word = carrier.address) ∨
              (Mnemonic.ofName? statement.mnemonic = some .data ∧
                user.words = [carrier.address])) := by
  obtain ⟨lines, statements, layout, linked, hlines, hstatements, hlayout, hlinked, rfl⟩ :=
    ofSource_eq_ok_iff.mp h
  obtain ⟨hsound, hreads, -⟩ := Layout.ofStatements_eq_ok hlayout
  have hlinks := Layout.linked_of_ofStatements hlayout hlinked
  obtain ⟨program, -, hsaid⟩ := writesProgram_of_ofLines hlines hstatements
  refine ⟨lines, statements, hlines, hstatements,
    hlinked.length_eq.symm.trans hreads.length_eq, ?_⟩
  intro index statement hstatement token htoken hkind
  -- the token says an address
  obtain ⟨line, -, hline⟩ := exists_getElem?_of_forall₂ hsaid hstatement
  obtain ⟨term, -, hterm⟩ := exists_mem_of_forall₂ hline.operands htoken
  obtain ⟨name, rfl, hliteral⟩ := hterm.of_address hkind
  -- the statement that uses it, placed and linked
  obtain ⟨placed, hplaced, hread⟩ := exists_getElem?_of_forall₂ hreads.flip hstatement
  obtain ⟨user, huser, huserLinks⟩ := exists_getElem?_of_forall₂ hlinked hplaced
  obtain ⟨hoperands, hmnemonic⟩ := PlacedStatement.Reads.of_address hread htoken hterm
  -- the statement that carries the label
  obtain ⟨place, carrier, target, hcarrier, hname, htarget, htargetLinks, huserOperands⟩ :=
    hlinks.operands_eq huserLinks hoperands
  have hsplit := eq_take_append_of_getElem? htarget
  obtain ⟨hlt, hexact⟩ := hlinks.toNat_address (List.mem_of_getElem? hcarrier)
  have haddress : target.address.toNat < capacity := by
    rw [htargetLinks.address, hexact]
    exact hlt
  refine ⟨name, place, target, user, hliteral, fun other => ⟨?_, ?_⟩, htarget,
    htargetLinks.label.trans hname, hlinks.address_eq hsplit, haddress, huser, huserOperands, ?_⟩
  · rintro ⟨found, hfound, hfoundName⟩
    obtain ⟨foundPlaced, hfoundPlaced, hfoundReads⟩ :=
      exists_getElem?_of_forall₂ hreads.flip hfound
    refine hsound.place_unique hcarrier hname hfoundPlaced ?_
    rw [← hfoundName, Statement.labelName, ← hfoundReads.label]
    rfl
  · rintro rfl
    obtain ⟨found, hfound, hfoundReads⟩ := exists_getElem?_of_forall₂ hreads hcarrier
    refine ⟨found, hfound, ?_⟩
    rw [← hname, Statement.labelName, ← hfoundReads.label]
    rfl
  · unfold AssembledStatement.words
    rw [huserLinks.mnemonic, huserOperands, hread.mnemonic]
    rcases hmnemonic with hdata | ⟨op, hop⟩
    · rw [hdata]
      exact Or.inr ⟨rfl, rfl⟩
    · rw [hop]
      refine Or.inl ⟨op, _, rfl, rfl, Word.opcode_ofParts _ _, ?_⟩
      rw [Word.operand_ofParts]
      exact Word.and_mask_of_lt haddress

/-- Two references to statements behind them and one to a statement before it. -/
theorem ofSource_references_bothWays :
    ∃ assembly, ofSource "JMP [b]\na: OUT\nb: LD [c]\nc: DB [a]" = .ok assembly ∧
      assembly.words = [162, 224, 35, 1] ∧
      ∃ lines statements, Source.tokens "JMP [b]\na: OUT\nb: LD [c]\nc: DB [a]" = .ok lines ∧
        Statement.ofLines lines = .ok statements ∧
        assembly.statements.length = statements.length := by
  have hassembly : ofSource "JMP [b]\na: OUT\nb: LD [c]\nc: DB [a]" = .ok
      { words := [162, 224, 35, 1]
        symbols := [("a", 1), ("b", 2), ("c", 3)]
        statements := [⟨none, .addressed .jump, [.address 2], 0⟩, ⟨some "a", .output, [], 1⟩,
          ⟨some "b", .addressed .load, [.address 3], 2⟩, ⟨some "c", .data, [.address 1], 3⟩] } := by
    decide +kernel
  obtain ⟨lines, statements, hlines, hstatements, hlength, -⟩ := ofSource_references hassembly
  exact ⟨_, hassembly, rfl, lines, statements, hlines, hstatements, hlength⟩

end Assembly

end AccumulatorMachine
