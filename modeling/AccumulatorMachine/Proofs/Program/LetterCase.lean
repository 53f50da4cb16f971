import AccumulatorMachine.Proofs.Program.Meaning
import AccumulatorMachine.Proofs.Source.Recased
import AccumulatorMachine.Proofs.Source.Rows
import AccumulatorMachine.Proofs.Source.Writing

/-!
# The case of letters

Mnemonics are looked up by their upper case in Unicode, and operators are compared without the
case of ASCII letters. For the words that can be mnemonics both come to the same: a name is found
if it is the mnemonic or the operator up to the case of ASCII letters, and a name with any
character beyond ASCII is never found, though there are such characters whose capitals are
letters of ASCII.

So the case of letters can be changed in the words that name operations (`Token.NamesOperation`),
and the program stays what it is (`Source.RecasedIn.ofSource_eq`): its statements are read the same
(`Statement.Alike`). Labels and addresses are compared letter by letter. Where the case of letters
is changed in them, too, every line can still stand for itself (`SourceLine.Recased`), and the
program assembles exactly if its labels are distinct and its addresses among them, as they are
written now (`Source.RecasedIn.exists_writesProgram`).
-/

namespace AccumulatorMachine

/-! ## Names of operations -/

/-- **The upper case of a text** does not know its case. -/
theorem Text.upperCase_eq_of_equalIgnoringCase {a b : String} (h : equalIgnoringCase a b = true) :
    upperCase b = upperCase a := by
  have hsame : ∀ {text other : List Char}, Recased text other →
      other.flatMap capitals = text.flatMap capitals := by
    intro text
    induction text with
    | nil => exact fun h => h.eq_nil ▸ rfl
    | cons c text ih =>
      intro other h
      obtain ⟨d, rest, rfl, hd, hrest⟩ := h.of_cons
      rw [List.flatMap_cons, List.flatMap_cons, ih hrest]
      rcases eq_or_isAlpha hd with rfl | ⟨hc, hletter⟩
      · rfl
      · have hrange := isAlpha_iff.mp hc
        have hrange' := isAlpha_iff.mp hletter
        rw [capitals_of_ascii (by omega), capitals_of_ascii (by omega),
          toLower_eq_toLower_iff.mp hd]
  unfold upperCase
  rw [hsame (equalIgnoringCase_iff_recased.mp h)]

namespace Operator

/-- **An operator is found by its name** in any case. -/
theorem ofName?_eq_some_iff_ignoringCase {name : String} {op : Operator} :
    ofName? name = some op ↔ Text.equalIgnoringCase op.mnemonic name = true := by
  have hall : ∀ op other : Operator,
      Text.equalIgnoringCase op.mnemonic other.mnemonic = true → op = other := by
    intro op other
    cases op <;> cases other <;> decide
  have hfound : ∀ {found : Operator}, ofName? name = some found →
      Text.equalIgnoringCase found.mnemonic name = true := fun h => by simpa using List.find?_some h
  refine ⟨hfound, fun h => ?_⟩
  obtain ⟨found, hname⟩ := exists_ofName?_iff.mpr ⟨op, h⟩
  rw [hname]
  have hsame := hfound hname
  rw [Text.equalIgnoringCase, beq_iff_eq] at h hsame
  refine congrArg some (hall found op ?_)
  rw [Text.equalIgnoringCase, beq_iff_eq, h, hsame]

/-- Names in different case name the same operator. -/
theorem ofName?_eq_of_equalIgnoringCase {a b : String} (h : Text.equalIgnoringCase a b = true) :
    ofName? b = ofName? a := by
  unfold ofName? Text.equalIgnoringCase
  rw [beq_iff_eq.mp h]

end Operator

/-- **What names an operation in any case is in ASCII.** -/
theorem Mnemonic.ascii_of_equalIgnoringCase {mnemonic : Mnemonic} {word : String}
    (h : Text.equalIgnoringCase mnemonic.name word = true) : ∀ c ∈ word.toList, c.toNat < 128 := by
  have hletter : ∀ c : Char, c.isAlpha = true → decide (c.toNat < 128) = true := by
    intro c hc
    have hrange := Text.isAlpha_iff.mp hc
    exact decide_eq_true (by omega)
  have hall := (Text.equalIgnoringCase_iff_recased.mp h).forall_test hletter
    fun c hc => decide_eq_true (toUpper_of_mem_name hc).2
  exact fun c hc => of_decide_eq_true (hall c hc)

/-- **A word that names an operation**: a mnemonic, or an operator behind the mnemonic that takes
operators. -/
def Token.NamesOperation (rows : List (List Token)) (token : Token) : Prop :=
  ∃ row ∈ rows, ∃ (front : Option Token) (word : Token) (operands : List Token),
    row = front.toList ++ word :: operands ∧ (∀ label ∈ front, label.kind = .label) ∧
      word.kind = .identifier ∧
      (token = word ∨
        Text.equalIgnoringCase Mnemonic.operate.name word.literal = true ∧ token ∈ operands)

/-- **Only identifiers name operations** in a program that can be laid out. -/
theorem Token.NamesOperation.kind_eq {rows : List (List Token)} {statements : List Statement}
    {layout : Layout} (hstatements : Statement.ofLines rows = .ok statements)
    (hlayout : Layout.ofStatements statements = .ok layout) {token : Token}
    (h : token.NamesOperation rows) : token.kind = .identifier := by
  obtain ⟨row, hrow, front, word, operands, rfl, hfront, hword, rfl | ⟨hoperate, hmem⟩⟩ := h
  · exact hword
  · -- the statement of the row, which has a place in the layout
    let made : Statement :=
      ⟨front.map Label.ofToken, Text.upperCase word.literal, word.span, operands⟩
    have hmade : Statement.ofTokens (front.toList ++ word :: operands) = .ok made :=
      Statement.ofTokens_eq_ok_iff.mpr ⟨front, word, rfl, hfront, hword, rfl, rfl, rfl⟩
    obtain ⟨statement, hstatement, hsame⟩ :=
      exists_mem_of_forall₂ (mapM_eq_ok_iff.mp hstatements) hrow
    obtain rfl := Except.ok.inj (hmade.symm.trans hsame)
    obtain ⟨placed, -, hreads⟩ :=
      exists_mem_of_forall₂ (Layout.ofStatements_eq_ok hlayout).2.1.flip hstatement
    have hmnemonic : Mnemonic.ofName? (Text.upperCase word.literal) = some placed.mnemonic :=
      hreads.mnemonic
    rw [Text.upperCase_eq_of_equalIgnoringCase hoperate] at hmnemonic
    have hnamed : some Mnemonic.operate = some placed.mnemonic :=
      (show Mnemonic.ofName? (Text.upperCase Mnemonic.operate.name) = _ by decide).symm.trans
        hmnemonic
    have hoperands := (Layout.operands_eq_ok_iff.mp hreads.operands).2
    obtain ⟨operand, -, hkind, -⟩ := exists_mem_of_forall₂ hoperands hmem
    rw [← Option.some.inj hnamed] at hkind
    exact List.mem_singleton.mp hkind

/-! ## Statements that are read the same -/

/-- **A token stands for what another one does**, if that one stands for anything. -/
def Token.StandsAlike (token other : Token) : Prop :=
  other.kind = token.kind ∧
    ∀ operand, Operand.ofToken token = .ok operand → Operand.ofToken other = .ok operand

/-- **A statement that is read like another one.** -/
structure Statement.Alike (statement other : Statement) : Prop where
  /-- The labels are the same. -/
  label : other.label = statement.label
  /-- The mnemonics are the same. -/
  mnemonic : other.mnemonic = statement.mnemonic
  /-- The mnemonics are at the same place. -/
  span : other.span = statement.span
  /-- The operands stand for the same. -/
  operands : List.Forall₂ Token.StandsAlike statement.operands other.operands

/-- A name of an operator stands for it in any case. -/
theorem Token.Recased.standsAlike {token other : Token} (h : token.Recased other)
    (hkind : token.kind = .identifier) : token.StandsAlike other := by
  have hsame := h.kind_eq
  obtain ⟨-, term, again, hterm, hagain, hrecased⟩ := h
  refine ⟨hsame, fun operand hoperand => ?_⟩
  rw [hterm.kind] at hkind
  cases hrecased with
  | label | address | number | string => exact absurd hkind (by simp [Term.kind])
  | identifier hname =>
    rw [Operand.ofToken_identifier hterm] at hoperand
    rw [Operand.ofToken_identifier hagain, Operator.ofName?_eq_of_equalIgnoringCase hname]
    split at hoperand
    · exact hoperand
    · exact absurd hoperand (by simp)

/-- **A token in another case** that stays the same unless it is an identifier. -/
def Token.RecasedIdentifier (token other : Token) : Prop :=
  token.Recased other ∧ (token.kind ≠ .identifier → other = token)

/-- Both kinds of token stand for the same in another case. -/
theorem Token.RecasedIdentifier.standsAlike {token other : Token}
    (h : token.RecasedIdentifier other) : token.StandsAlike other := by
  by_cases hkind : token.kind = .identifier
  · exact h.1.standsAlike hkind
  · rw [h.2 hkind]
    exact ⟨rfl, fun _ => id⟩

/-- An identifier in another case is written in another case. -/
theorem Token.Recased.literal_of_identifier {token other : Token} (h : token.Recased other)
    (hkind : token.kind = .identifier) :
    Text.equalIgnoringCase token.literal other.literal = true := by
  have hsame := h.kind_eq
  obtain ⟨-, term, again, hterm, hagain, hrecased⟩ := h
  obtain ⟨word, rfl, rfl, -⟩ := hterm.of_identifier hkind
  obtain ⟨other', rfl, rfl, -⟩ := hagain.of_identifier (hsame.trans hkind)
  cases hrecased with
  | identifier hname => exact hname

/-- **A row of tokens is a statement that is read the same.** -/
theorem Statement.exists_alike {row others : List Token} {statement : Statement}
    (h : ofTokens row = .ok statement) (hall : List.Forall₂ Token.RecasedIdentifier row others) :
    ∃ other, ofTokens others = .ok other ∧ statement.Alike other := by
  obtain ⟨front, word, rfl, hfront, hword, hlabel, hmnemonic, hspan⟩ := ofTokens_eq_ok_iff.mp h
  -- a label in front is the same
  have hrest : ∃ rest, others = front.toList ++ rest ∧
      List.Forall₂ Token.RecasedIdentifier (word :: statement.operands) rest := by
    cases front with
    | none => exact ⟨others, rfl, hall⟩
    | some label =>
      obtain ⟨first, rest, hfirst, hrest, rfl⟩ := List.forall₂_cons_left_iff.mp hall
      refine ⟨rest, ?_, hrest⟩
      rw [hfirst.2 (by rw [hfront label rfl]; decide)]
      rfl
  obtain ⟨rest, rfl, hrest⟩ := hrest
  obtain ⟨other, operands, hother, hoperands, rfl⟩ := List.forall₂_cons_left_iff.mp hrest
  refine ⟨⟨statement.label, statement.mnemonic, statement.span, operands⟩,
    ofTokens_eq_ok_iff.mpr ⟨front, other, rfl, hfront, ?_, hlabel, ?_, ?_⟩,
    rfl, rfl, rfl, hoperands.imp fun _ _ => Token.RecasedIdentifier.standsAlike⟩
  · rw [hother.1.kind_eq, hword]
  · rw [Text.upperCase_eq_of_equalIgnoringCase (hother.1.literal_of_identifier hword)]
    exact hmnemonic
  · exact hspan.trans hother.1.1.symm

namespace Layout

variable {layout placed : Layout}

/-- What reads a statement reads one like it. -/
theorem reads_of_alike {reading : PlacedStatement} {statement other : Statement}
    (h : statement.Alike other) (hreads : reading.Reads statement) : reading.Reads other := by
  refine ⟨hreads.label.trans h.label.symm, h.mnemonic ▸ hreads.mnemonic, ?_, hreads.size,
    hreads.span.trans h.span.symm⟩
  obtain ⟨hcount, hoperands⟩ := operands_eq_ok_iff.mp hreads.operands
  refine operands_eq_ok_iff.mpr ⟨h.operands.length_eq ▸ hcount, ?_⟩
  exact forall₂_of_forall₂ h.operands hoperands fun token other operand halike hoperand =>
    ⟨halike.1 ▸ hoperand.1, halike.2 operand hoperand.2⟩

/-- A statement is placed like one that it is like. -/
theorem place_of_alike {statement other : Statement} (h : statement.Alike other)
    (hplaced : layout.place statement = .ok placed) : layout.place other = .ok placed := by
  obtain ⟨hnew, added, hreads, haddress, rfl⟩ := place_eq_ok_iff.mp hplaced
  have hname : other.labelName = statement.labelName := congrArg (Option.map Label.name) h.label
  exact place_eq_ok_iff.mpr
    ⟨hname ▸ hnew, added, reads_of_alike h hreads, haddress, by rw [h.label]⟩

/-- Statements are placed like those that they are like. -/
theorem placeAll_of_alike {statements others : List Statement}
    (h : List.Forall₂ Statement.Alike statements others)
    (hplaced : layout.placeAll statements = .ok placed) : layout.placeAll others = .ok placed := by
  induction h generalizing layout with
  | nil => exact hplaced
  | cons hfirst _ ih =>
    rw [placeAll] at hplaced ⊢
    split at hplaced
    · exact absurd hplaced (by simp)
    · next next hnext =>
      rw [place_of_alike hfirst hnext]
      exact ih hplaced

end Layout

/-- **A program assembles to the same** if its statements are read the same. -/
theorem Assembly.ofStatements_of_alike {statements others : List Statement} {assembly : Assembly}
    (h : List.Forall₂ Statement.Alike statements others)
    (hassembly : ofStatements statements = .ok assembly) : ofStatements others = .ok assembly := by
  obtain ⟨layout, linked, hlayout, hlinked⟩ := ofStatements_eq_ok_iff.mp hassembly
  obtain ⟨hplaced, hfits⟩ := Layout.ofStatements_eq_ok_iff_placeAll.mp hlayout
  exact ofStatements_eq_ok_iff.mpr ⟨layout, linked, Layout.ofStatements_eq_ok_iff_placeAll.mpr
    ⟨Layout.placeAll_of_alike h hplaced, hfits⟩, hlinked⟩

/-- **A program stays what it is** where the case of letters is changed in words that name
operations. -/
theorem Source.RecasedIn.ofSource_eq {source edited : String} {rows : List (List Token)}
    {assembly : Assembly} (h : RecasedIn source edited rows (Token.NamesOperation rows))
    (hrows : tokens source = .ok rows) (hassembly : Assembly.ofSource source = .ok assembly) :
    Assembly.ofSource edited = .ok assembly := by
  obtain ⟨others, statements, hothers, hstatements, hassembly⟩ :=
    Assembly.ofSource_eq_ok_iff_ofStatements.mp hassembly
  obtain rfl := Except.ok.inj (hrows.symm.trans hothers)
  obtain ⟨layout, -, hlayout, -⟩ := Assembly.ofStatements_eq_ok_iff.mp hassembly
  have hkinds : ∀ token : Token, token.NamesOperation rows → token.kind = .identifier :=
    fun token hnames => hnames.kind_eq hstatements hlayout
  obtain ⟨again, hagain, hall⟩ := h.exists_tokens hrows fun token _ hnames => by
    rw [hkinds token hnames]
    decide
  have hidentifiers : List.Forall₂ (List.Forall₂ Token.RecasedIdentifier) rows again :=
    hall.imp fun row other hrow => hrow.imp fun token next hboth =>
      ⟨hboth.1, fun hkind => hboth.2 fun hnames => hkind (hkinds token hnames)⟩
  have hread := forall₂_of_forall₂ (mapM_eq_ok_iff.mp hstatements) hidentifiers
    fun row statement other hstatement hother => Statement.exists_alike hstatement hother
  obtain ⟨statements', halike, hstatements'⟩ := exists_forall₂_between
    (S := Statement.Alike) (T := fun other statement => Statement.ofTokens other = .ok statement)
    hread fun statement other ⟨again, hother, halike⟩ => ⟨again, halike, hother⟩
  exact Assembly.ofSource_eq_ok_iff_ofStatements.mpr ⟨again, statements', hagain,
    mapM_eq_ok_iff.mpr hstatements', Assembly.ofStatements_of_alike halike hassembly⟩

/-! ## Labels and addresses -/

/-- **A line in another case.** Its label may be any. -/
structure SourceLine.Recased (line other : SourceLine) : Prop where
  /-- The identifier is in another case. -/
  word : Text.equalIgnoringCase line.word other.word = true
  /-- The operands are in another case. -/
  operands : List.Forall₂ Term.Recased line.operands other.operands

/-- The terms of a line are those of a line in another case. -/
theorem SourceLine.exists_recased {line : SourceLine} {terms : List Term}
    (h : List.Forall₂ Term.Recased line.terms terms) :
    ∃ other : SourceLine, terms = other.terms ∧ line.Recased other := by
  obtain ⟨label, word, operands⟩ := line
  have hrest : ∀ {rest : List Term}, List.Forall₂ Term.Recased (.identifier word :: operands) rest →
      ∃ again operands', rest = .identifier again :: operands' ∧
        Text.equalIgnoringCase word again = true ∧
        List.Forall₂ Term.Recased operands operands' := by
    intro rest hrest
    obtain ⟨_, operands', hword, hoperands, rfl⟩ := List.forall₂_cons_left_iff.mp hrest
    cases hword with
    | identifier hname => exact ⟨_, operands', rfl, hname, hoperands⟩
  cases label with
  | none =>
    obtain ⟨again, operands', rfl, hword, hoperands⟩ := hrest h
    exact ⟨⟨none, again, operands'⟩, rfl, hword, hoperands⟩
  | some name =>
    obtain ⟨_, rest, hlabel, hother, rfl⟩ := List.forall₂_cons_left_iff.mp h
    obtain ⟨again, operands', rfl, hword, hoperands⟩ := hrest hother
    cases hlabel with
    | @label _ name' _ => exact ⟨⟨some name', again, operands'⟩, rfl, hword, hoperands⟩

/-- Tokens in another case say a line in another case. -/
theorem SourceLine.exists_says_recased {row others : List Token} {line : SourceLine}
    (hsaid : List.Forall₂ Token.Says row line.terms)
    (h : List.Forall₂ Token.Recased row others) :
    ∃ other : SourceLine, List.Forall₂ Token.Says others other.terms ∧ line.Recased other := by
  have hterms : List.Forall₂ (fun term (other : Token) =>
      ∃ again, term.Recased again ∧ other.Says again) line.terms others :=
    forall₂_of_forall₂ hsaid h fun token term other hterm hother => by
      obtain ⟨-, said, again, hsaid, hagain, hrecased⟩ := hother
      exact ⟨again, (hsaid.term_eq.symm.trans hterm.term_eq) ▸ hrecased, hagain⟩
  obtain ⟨terms, hrecased, hsays⟩ := exists_forall₂_between
    (S := Term.Recased) (T := Token.Says) hterms fun term other hagain => hagain
  obtain ⟨other, rfl, hline⟩ := exists_recased hrecased
  exact ⟨other, hsays, hline⟩

/-- **Operands are legal in any case.** -/
theorem Legal.recased {mnemonic : Mnemonic} {operands others : List Term}
    (h : Legal mnemonic operands) (hall : List.Forall₂ Term.Recased operands others) :
    Legal mnemonic others := by
  have hnil : operands = [] → others = [] := by
    rintro rfl
    exact List.forall₂_nil_left_iff.mp hall
  cases mnemonic with
  | data =>
    obtain ⟨operand, rfl, hkind⟩ := h
    obtain ⟨other, _, hother, hrest, rfl⟩ := List.forall₂_cons_left_iff.mp hall
    obtain rfl := List.forall₂_nil_left_iff.mp hrest
    exact ⟨other, rfl, hother.kind_eq ▸ hkind⟩
  | operate =>
    obtain ⟨hleast, hmost, hnames⟩ := h
    refine ⟨hall.length_eq ▸ hleast, hall.length_eq ▸ hmost, fun other hmem => ?_⟩
    obtain ⟨operand, hoperand, hother⟩ := exists_mem_of_forall₂ hall.flip hmem
    obtain ⟨name, op, rfl, hop⟩ := hnames operand hoperand
    cases hother with
    | identifier hname =>
      rw [← Operator.ofName?_eq_some_iff_ignoringCase] at hop
      refine ⟨_, op, rfl, Operator.ofName?_eq_some_iff_ignoringCase.mp ?_⟩
      rw [Operator.ofName?_eq_of_equalIgnoringCase hname, hop]
  | operator op => exact hnil h
  | addressed op =>
    obtain ⟨name, rfl⟩ := h
    obtain ⟨_, _, hother, hrest, rfl⟩ := List.forall₂_cons_left_iff.mp hall
    obtain rfl := List.forall₂_nil_left_iff.mp hrest
    cases hother with
    | address => exact ⟨_, rfl⟩
  | output => exact hnil h

/-- A line takes as many words in any case. -/
theorem SourceLine.Recased.size_eq {line other : SourceLine} (h : line.Recased other) :
    line.size = other.size := by
  obtain ⟨label, word, operands⟩ := line
  obtain ⟨label', word', others⟩ := other
  have hoperands : List.Forall₂ Term.Recased operands others := h.operands
  unfold size
  cases hoperands with
  | nil => rfl
  | cons hfirst => cases hfirst <;> rfl

/-- **A program in another case** is in the language exactly if its labels are distinct and its
addresses are among them. -/
theorem InLanguage.recased_iff {program others : List SourceLine} (h : InLanguage program)
    (hall : List.Forall₂ SourceLine.Recased program others) :
    InLanguage others ↔
      (others.filterMap SourceLine.label).Nodup ∧
        ∀ line ∈ others, ∀ name, Term.address name ∈ line.operands →
          ∃ other ∈ others, other.label = some name := by
  constructor
  · exact fun hothers => ⟨hothers.distinct, hothers.closed⟩
  · rintro ⟨hdistinct, hclosed⟩
    refine ⟨fun other hmem => ?_, hdistinct, ?_, hclosed⟩
    · obtain ⟨line, hline, hrecased⟩ := exists_mem_of_forall₂ hall.flip hmem
      obtain ⟨mnemonic, hmnemonic, hlegal⟩ := h.legal line hline
      refine ⟨mnemonic, ?_, hlegal.recased hrecased.operands⟩
      rw [Text.equalIgnoringCase_iff_recased] at hmnemonic ⊢
      exact hmnemonic.trans (Text.equalIgnoringCase_iff_recased.mp hrecased.word)
    · rw [← map_eq_of_forall₂ hall fun _ _ hrecased => hrecased.size_eq]
      exact h.fits

/-- **The lines that a source text writes** are said by its rows of tokens. -/
theorem WritesProgram.said {source : String} {program : List SourceLine} {rows : List (List Token)}
    (h : WritesProgram source program) (hrows : Source.tokens source = .ok rows) :
    List.Forall₂ (fun row (line : SourceLine) => List.Forall₂ Token.Says row line.terms) rows
      program := by
  obtain ⟨lines, terms, hne, hnone, hjoin, hterms, hprogram⟩ := h
  rw [← Text.splitOn_eq_iff.mpr ⟨hne, hnone, hjoin⟩] at hterms
  obtain ⟨others, hothers, hsaid⟩ := Source.exists_tokensOfLines hterms 0
  rw [hprogram, List.forall₂_map_right_iff] at hsaid
  obtain rfl := Except.ok.inj (hrows.symm.trans hothers)
  exact hsaid

/-- A source text that writes a program assembles exactly if the program is in the language. -/
theorem WritesProgram.assembles_iff {source : String} {program : List SourceLine}
    (h : WritesProgram source program) :
    (∃ assembly, Assembly.ofSource source = .ok assembly) ↔ InLanguage program := by
  obtain ⟨rows, statements, hrows, hstatements, hsaid⟩ := h.exists_ofLines
  rw [← Assembly.exists_ofStatements_iff_inLanguage hsaid]
  refine exists_congr fun assembly => ?_
  rw [Assembly.ofSource_eq_ok_iff_ofStatements]
  constructor
  · rintro ⟨others, again, hothers, hagain, hassembly⟩
    obtain rfl := Except.ok.inj (hrows.symm.trans hothers)
    obtain rfl := Except.ok.inj (hstatements.symm.trans hagain)
    exact hassembly
  · exact fun hassembly => ⟨rows, statements, hrows, hstatements, hassembly⟩

/-- **Where the case of letters is changed in labels and addresses, too**, the source text still
writes a program. It assembles exactly if its labels are distinct and its addresses are among
them, letter by letter, and has the labels as they are written then. -/
theorem Source.RecasedIn.exists_writesProgram {source edited : String} {rows : List (List Token)}
    {assembly : Assembly}
    (h : RecasedIn source edited rows fun token =>
      token.NamesOperation rows ∨ token.kind = .label ∨ token.kind = .address)
    (hrows : tokens source = .ok rows) (hassembly : Assembly.ofSource source = .ok assembly) :
    ∃ program, WritesProgram edited program ∧
      ((∃ other, Assembly.ofSource edited = .ok other) ↔
        (program.filterMap SourceLine.label).Nodup ∧
          ∀ line ∈ program, ∀ name, Term.address name ∈ line.operands →
            ∃ other ∈ program, other.label = some name) ∧
      ∀ other, Assembly.ofSource edited = .ok other →
        other.symbols.map Prod.fst = program.filterMap SourceLine.label := by
  obtain ⟨others, statements, hothers, hstatements, hstatementsAssemble⟩ :=
    Assembly.ofSource_eq_ok_iff_ofStatements.mp hassembly
  obtain rfl := Except.ok.inj (hrows.symm.trans hothers)
  obtain ⟨layout, -, hlayout, -⟩ := Assembly.ofStatements_eq_ok_iff.mp hstatementsAssemble
  obtain ⟨again, hagain, hall⟩ := h.exists_tokens hrows fun token _ hnames => by
    rcases hnames with hoperation | hlabel | haddress
    · rw [hoperation.kind_eq hstatements hlayout]
      decide
    · rw [hlabel]
      decide
    · rw [haddress]
      decide
  obtain ⟨program, hprogram, -⟩ := writesProgram_of_ofLines hrows hstatements
  have hlanguage : InLanguage program := hprogram.assembles_iff.mp ⟨assembly, hassembly⟩
  have heach := forall₂_of_forall₂ (hprogram.said hrows) hall fun row line other hsaid hrow =>
    SourceLine.exists_says_recased hsaid (hrow.imp fun _ _ => And.left)
  obtain ⟨lines, hlines, hsays⟩ := exists_forall₂_between
    (S := SourceLine.Recased)
    (T := fun row (line : SourceLine) => List.Forall₂ Token.Says row line.terms)
    heach fun line row ⟨other, hsaid, hrecased⟩ => ⟨other, hrecased, hsaid⟩
  have hwrites : WritesProgram edited lines := by
    rw [writesProgram_iff, hagain]
    exact congrArg Except.ok (map_term_eq (List.forall₂_map_right_iff.mpr hsays))
  refine ⟨lines, hwrites, hwrites.assembles_iff.trans (hlanguage.recased_iff hlines), ?_⟩
  intro other hother
  obtain ⟨found, hfound, -, hsymbols, -⟩ :=
    Assembly.exists_ofSource_eq_words hwrites (hwrites.assembles_iff.mp ⟨other, hother⟩)
  obtain rfl := Except.ok.inj (hother.symm.trans hfound)
  rw [hsymbols, Program.symbols, List.map_filterMap]
  exact congrArg (List.filterMap · lines) (funext fun line => by cases line.label <;> rfl)

/-! ## What the case of letters means -/

namespace Assembly

/-- **Mnemonics and operators ignore the case of ASCII letters, and nothing else.** An identifier
of a source text is found as a mnemonic, by its full upper case, exactly if it is this mnemonic up
to the case of ASCII letters, and so it is found as an operator; with a character beyond ASCII it
is found as neither, though such characters may have letters of ASCII for capitals.

So a source text that assembles does so to the same program if the case of ASCII letters is
changed in its mnemonics and in the operators among its operands. If it is changed in labels and
addresses, too, the lines can still stand for themselves; but then it assembles exactly if its
labels are distinct and its addresses are among them, letter by letter, and its symbols are the
labels as they are written. -/
theorem ofSource_ignoresCase :
    (∀ lexeme token, Token.ofLexeme lexeme = .ok token → token.kind = .identifier →
      token.value = .name token.literal ∧
      (∀ mnemonic, Mnemonic.ofName? (Text.upperCase token.literal) = some mnemonic ↔
        Text.equalIgnoringCase mnemonic.name token.literal = true) ∧
      (∀ op, Operator.ofName? token.literal = some op ↔
        Text.equalIgnoringCase op.mnemonic token.literal = true) ∧
      ∀ c ∈ token.literal.toList, 128 ≤ c.toNat →
        Mnemonic.ofName? (Text.upperCase token.literal) = none ∧
          Operator.ofName? token.literal = none) ∧
    Text.upperCase "\u017f\u0131\u00df\ufb00\ufb06" = "SISSFFST" ∧
    ∀ source rows assembly, Source.tokens source = .ok rows → ofSource source = .ok assembly →
      (∀ edited, Source.RecasedIn source edited rows (Token.NamesOperation rows) →
        ofSource edited = .ok assembly) ∧
      ∀ edited, (Source.RecasedIn source edited rows fun token =>
          token.NamesOperation rows ∨ token.kind = .label ∨ token.kind = .address) →
        ∃ program, WritesProgram edited program ∧
          ((∃ other, ofSource edited = .ok other) ↔
            (program.filterMap SourceLine.label).Nodup ∧
              ∀ line ∈ program, ∀ name, Term.address name ∈ line.operands →
                ∃ other ∈ program, other.label = some name) ∧
          ∀ other, ofSource edited = .ok other →
            other.symbols.map Prod.fst = program.filterMap SourceLine.label := by
  refine ⟨fun lexeme token htoken hkind => ?_, by decide +kernel,
    fun source rows assembly hrows hassembly => ⟨fun edited h => h.ofSource_eq hrows hassembly,
      fun edited h => h.exists_writesProgram hrows hassembly⟩⟩
  obtain ⟨term, hspells, rfl⟩ := Token.exists_spells htoken
  have hsays := Term.says_token hspells
  obtain ⟨word, rfl, hliteral, hname⟩ := hsays.of_identifier hkind
  rw [hliteral]
  refine ⟨rfl, fun mnemonic => Mnemonic.ofName?_upperCase_eq_some_iff hname,
    fun op => Operator.ofName?_eq_some_iff_ignoringCase, fun c hc hbeyond => ⟨?_, ?_⟩⟩
  · refine Option.eq_none_iff_forall_ne_some.mpr fun mnemonic hfound => ?_
    have hcase := (Mnemonic.ofName?_upperCase_eq_some_iff hname).mp hfound
    exact absurd (Mnemonic.ascii_of_equalIgnoringCase hcase c hc) (Nat.not_lt.mpr hbeyond)
  · refine Option.eq_none_iff_forall_ne_some.mpr fun op hfound => ?_
    have hcase : Text.equalIgnoringCase (Mnemonic.operator op).name word = true :=
      Operator.ofName?_eq_some_iff_ignoringCase.mp hfound
    exact absurd (Mnemonic.ascii_of_equalIgnoringCase hcase c hc) (Nat.not_lt.mpr hbeyond)

/-- A mnemonic, an operator behind it, and a label, each in another case. -/
theorem ofSource_ignoresCase_eachWord :
    let source := "l: opr cLr\nJMP [l]"
    (∃ assembly, ofSource source = .ok assembly ∧ assembly.words = [1, 160] ∧
      ofSource "l: OpR cLr\nJMP [l]" = .ok assembly ∧
      ofSource "l: opr Clr\nJMP [l]" = .ok assembly) ∧
    (∃ program, WritesProgram "L: opr cLr\nJMP [l]" program ∧
      ¬ ((program.filterMap SourceLine.label).Nodup ∧
        ∀ line ∈ program, ∀ name, Term.address name ∈ line.operands →
          ∃ other ∈ program, other.label = some name)) ∧
    Token.ofLexeme ⟨"d\u00df", ⟨0, 3⟩⟩ = .ok ⟨.identifier, "d\u00df", .name "d\u00df", ⟨0, 3⟩⟩ ∧
      Mnemonic.ofName? (Text.upperCase "d\u00df") = none ∧ Operator.ofName? "d\u00df" = none := by
  intro source
  let label : Token := ⟨.label, "l:", .name "l", ⟨0, 2⟩⟩
  let word : Token := ⟨.identifier, "opr", .name "opr", ⟨3, 3⟩⟩
  let operator : Token := ⟨.identifier, "cLr", .name "cLr", ⟨7, 3⟩⟩
  let rows : List (List Token) := [[label, word, operator],
    [⟨.identifier, "JMP", .name "JMP", ⟨11, 3⟩⟩, ⟨.address, "[l]", .name "l", ⟨15, 3⟩⟩]]
  have hrows : Source.tokens source = .ok rows := by decide +kernel
  have hassembly : ofSource source = .ok
      { words := [1, 160]
        symbols := [("l", 0)]
        statements := [⟨some "l", .operate, [.operator .clear], 0⟩,
          ⟨none, .addressed .jump, [.address 0], 1⟩] } := by
    decide +kernel
  obtain ⟨hfound, -, hsources⟩ := ofSource_ignoresCase
  obtain ⟨hsame, hlabels⟩ := hsources source rows _ hrows hassembly
  have hfirst : [label, word, operator] = (some label).toList ++ word :: [operator] := rfl
  have hword : word.NamesOperation rows :=
    ⟨_, List.mem_cons_self, some label, word, [operator], hfirst,
      fun _ h => Option.some.inj h ▸ rfl, rfl, Or.inl rfl⟩
  have hoperator : operator.NamesOperation rows :=
    ⟨_, List.mem_cons_self, some label, word, [operator], hfirst,
      fun _ h => Option.some.inj h ▸ rfl, rfl, Or.inr ⟨by decide, List.mem_singleton_self _⟩⟩
  have hupper := hsame "l: OpR cLr\nJMP [l]" (@Source.RecasedIn.of_token _ _ _ _ word "l: ".toList
    "OpR".toList " cLr\nJMP [l]".toList (by decide) hword (by decide) (by decide) (by decide)
    (by unfold Text.Recased; decide) (by decide))
  have hmixed := hsame "l: opr Clr\nJMP [l]" (@Source.RecasedIn.of_token _ _ _ _ operator
    "l: opr ".toList "Clr".toList "\nJMP [l]".toList (by decide) hoperator (by decide) (by decide)
    (by decide) (by unfold Text.Recased; decide) (by decide))
  obtain ⟨program, hwrites, hiff, -⟩ := hlabels "L: opr cLr\nJMP [l]"
    (@Source.RecasedIn.of_token _ _ _ _ label [] "L:".toList " opr cLr\nJMP [l]".toList (by decide)
      (Or.inr (Or.inl rfl)) (by decide) (by decide) (by decide)
      (by unfold Text.Recased; decide) (by decide))
  have hfails : ofSource "L: opr cLr\nJMP [l]" = .error (.unresolvedReference "l" ⟨15, 3⟩) := by
    decide +kernel
  have hsharp : Token.ofLexeme ⟨"d\u00df", ⟨0, 3⟩⟩
      = .ok ⟨.identifier, "d\u00df", .name "d\u00df", ⟨0, 3⟩⟩ := by
    decide +kernel
  refine ⟨⟨_, hassembly, rfl, hupper, hmixed⟩, ⟨program, hwrites, fun hfits => ?_⟩, hsharp,
    (hfound _ _ hsharp rfl).2.2.2 '\u00df' (by decide) (by decide)⟩
  obtain ⟨other, hother⟩ := hiff.mpr hfits
  exact absurd (hfails.symm.trans hother) (by simp)

end Assembly

end AccumulatorMachine
