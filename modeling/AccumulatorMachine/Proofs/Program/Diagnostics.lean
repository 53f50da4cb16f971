import AccumulatorMachine.Proofs.Program.Checks
import AccumulatorMachine.Proofs.Program.References
import AccumulatorMachine.Proofs.Source.Faults

/-!
# Every diagnostic points at what it is about

Behind the lines of a source text everything that goes wrong goes wrong in one
statement, and `Statement.Fails` says with what. The spans in these faults are the spans
of the statement, its label and its operands, which stand in the source, and so does the
token of a reference that leads nowhere.

A label that is taken needs more: the fault points at a statement before, and that is the
first one in the source with this label, since none of those before has the label of
another (`Statement.pointsInto_of_label`).

`Assembly.pointsInto_of_ofSource` puts the stages together.
-/

namespace AccumulatorMachine

/-! ## Operands -/

/-- **An operand that is refused is pointed at**, by its kind or by its name. -/
theorem Statement.pointsInto_of_refuses {source : String} {statement : Statement}
    {mnemonic : Mnemonic} {front back : List Token} {token : Token} {fault : Fault}
    (hstatement : Source.HasStatement source statement)
    (hname : mnemonic.name = statement.mnemonic)
    (hoperands : statement.operands = front ++ token :: back)
    (h : mnemonic.Refuses front.length token fault) : fault.PointsInto source := by
  have hoperand : token.StandsIn source := hstatement.standsIn.operands token
    (hoperands ▸ List.mem_append_right front List.mem_cons_self)
  cases h with
  | kind =>
    have htoken : statement.operands[front.length]? = some token := by
      rw [hoperands, List.getElem?_append_right (Nat.le_refl _), Nat.sub_self]
      rfl
    exact ⟨statement, token, hstatement, hname.symm, htoken, rfl, hoperand.marks,
      hoperand.spelled, rfl⟩
  | operator hkind hnone =>
    -- an operand that could be an operator is an identifier, and that is its own name
    obtain ⟨haddress, hvalue, -⟩ := hnone
    obtain ⟨term, hsaid⟩ := hoperand.exists_says
    have hlabel := Mnemonic.ne_label_of_mem_kinds hkind
    rw [hsaid.kind] at haddress hlabel
    rw [hsaid.value] at hvalue
    cases term with
    | label | address => simp [Term.kind] at haddress hlabel
    | number | string => exact absurd hvalue (by simp [Term.value])
    | identifier other =>
      obtain ⟨word, hterm, hliteral, -⟩ := hsaid.of_identifier hsaid.kind
      obtain rfl := Term.identifier.inj hterm
      obtain rfl := TokenValue.name.inj hvalue
      show token.span.Marks source.toList _
      rw [← hliteral]
      exact hoperand.marks

/-! ## Labels -/

/-- **Labels of later statements stand later** in the source. -/
theorem Statement.pairwise_label {source : String} {rows : List (List Token)}
    {statements : List Statement} (hrows : Source.tokens source = .ok rows)
    (hstatements : ofLines rows = .ok statements) :
    statements.Pairwise fun statement later => ∀ label ∈ statement.label, ∀ next ∈ later.label,
      label.span.stop ≤ next.span.start := by
  have hordered := (List.pairwise_flatten.mp (Tiled.of_tokens hrows).ordered).2
  have hall := mapM_eq_ok_iff.mp hstatements
  -- the label of a statement is one of the tokens of its row
  have hlabel : ∀ (row : List Token) (statement : Statement), ofTokens row = .ok statement →
      ∀ label ∈ statement.label, ∃ token ∈ row, token.span = label.span := by
    intro row statement hstatement label hmem
    obtain ⟨front, word, rfl, -, -, hfront, -, -⟩ := ofTokens_eq_ok_iff.mp hstatement
    rw [hfront] at hmem
    obtain ⟨token, htoken, rfl⟩ := Option.map_eq_some_iff.mp hmem
    exact ⟨token, List.mem_append_left _ (Option.mem_toList.mpr htoken), rfl⟩
  clear hrows hstatements
  induction hall with
  | nil => exact .nil
  | @cons row statement rows statements hrow hrest ih =>
    rw [List.pairwise_cons] at hordered
    refine List.pairwise_cons.mpr ⟨fun later hlater label hmem next hnext => ?_, ih hordered.2⟩
    obtain ⟨other, hother, hofTokens⟩ := exists_mem_of_forall₂ hrest.flip hlater
    obtain ⟨token, htoken, hspan⟩ := hlabel row statement hrow label hmem
    obtain ⟨token', htoken', hspan'⟩ := hlabel other later hofTokens next hnext
    rw [← hspan, ← hspan']
    exact hordered.1 other hother token htoken token' htoken'

/-- The statements of a source text are those that its lines are. -/
theorem Source.hasStatement_iff {source : String} {rows : List (List Token)}
    {statements : List Statement} (hrows : tokens source = .ok rows)
    (hstatements : Statement.ofLines rows = .ok statements) {statement : Statement} :
    HasStatement source statement ↔ statement ∈ statements := by
  have hall := mapM_eq_ok_iff.mp hstatements
  constructor
  · rintro ⟨others, hothers, row, hrow, hstatement⟩
    obtain rfl := Except.ok.inj (hrows.symm.trans hothers)
    obtain ⟨other, hmem, hother⟩ := exists_mem_of_forall₂ hall hrow
    obtain rfl := Except.ok.inj (hstatement.symm.trans hother)
    exact hmem
  · intro hmem
    obtain ⟨row, hrow, hstatement⟩ := exists_mem_of_forall₂ hall.flip hmem
    exact ⟨rows, hrows, row, hrow, hstatement⟩

/-- **A label that is taken was taken by the first statement that has it**, and ends
before the duplicate begins. -/
theorem Statement.pointsInto_of_label {source : String} {rows : List (List Token)}
    {before behind : List Statement} {statement earlier : Statement} {own first : Label}
    (hrows : Source.tokens source = .ok rows)
    (hstatements : ofLines rows = .ok (before ++ statement :: behind)) (hvalid : AllValid before)
    (hown : own ∈ statement.label) (hearlier : earlier ∈ before) (hfirst : first ∈ earlier.label)
    (hname : first.name = own.name) :
    Fault.PointsInto source (.duplicateLabel own.name own.span first.span) := by
  have hhas : ∀ other, Source.HasStatement source other ↔
      other ∈ before ++ statement :: behind :=
    fun other => Source.hasStatement_iff hrows hstatements
  have hhasOwn := (hhas statement).mpr (List.mem_append_right _ List.mem_cons_self)
  have hhasFirst := (hhas earlier).mpr (List.mem_append_left _ hearlier)
  have hbehind := (List.pairwise_append.mp (Statement.pairwise_label hrows hstatements)).2.2
    earlier hearlier
  have hmarks := hhasFirst.standsIn.label first hfirst
  rw [hname] at hmarks
  refine ⟨hhasOwn.standsIn.label own hown, hmarks,
    hbehind statement List.mem_cons_self first hfirst own hown, ⟨statement, hhasOwn, hown⟩,
    ⟨earlier, hhasFirst, hname ▸ hfirst⟩, fun other hother label hlabel hsame => ?_⟩
  rcases List.mem_append.mp ((hhas other).mp hother) with hbefore | hlater
  · -- before the duplicate, the label is this one
    obtain rfl := hvalid.eq_of_label hearlier hbefore hfirst hlabel (hname.trans hsame.symm)
    obtain rfl := Option.some.inj (hfirst.symm.trans hlabel)
    exact Nat.le_refl _
  · exact Nat.le_trans (Nat.le_add_right _ _) (hbehind other hlater first hfirst label hlabel)

/-! ## Programs -/

/-- **What a statement fails with points into the source.** -/
theorem Statement.pointsInto_of_fails {source : String} {rows : List (List Token)}
    {before behind : List Statement} {statement : Statement} {fault : Fault}
    (hrows : Source.tokens source = .ok rows)
    (hstatements : ofLines rows = .ok (before ++ statement :: behind)) (hvalid : AllValid before)
    (h : statement.Fails before fault) : fault.PointsInto source := by
  have hstatement : Source.HasStatement source statement :=
    (Source.hasStatement_iff hrows hstatements).mpr (List.mem_append_right _ List.mem_cons_self)
  have hstands := hstatement.standsIn
  cases h with
  | mnemonic => exact hstands.mnemonic
  | label _ hown hother hfirst hname =>
    exact pointsInto_of_label hrows hstatements hvalid hown hother hfirst hname
  | count hmnemonic =>
    have hname := Mnemonic.name_of_ofName? hmnemonic
    refine ⟨statement, hstatement, hname.symm, rfl, ?_⟩
    cases hlast : statement.operands.getLast? with
    | some token => exact ⟨rfl, (hstands.operands token (List.mem_of_getLast? hlast)).marks⟩
    | none =>
      rw [hname]
      exact ⟨rfl, hstands.mnemonic⟩
  | operand hmnemonic _ _ hoperands _ hrefused =>
    exact pointsInto_of_refuses hstatement (Mnemonic.name_of_ofName? hmnemonic) hoperands hrefused

namespace Layout

/-- **A fault in the placing of a program points into its source.** -/
theorem pointsInto_of_ofStatements {source : String} {rows : List (List Token)}
    {statements : List Statement} {fault : Fault} (hrows : Source.tokens source = .ok rows)
    (hstatements : Statement.ofLines rows = .ok statements)
    (h : ofStatements statements = .error fault) : fault.PointsInto source := by
  rcases ofStatements_eq_error_iff_fails.mp h with
    ⟨before, statement, behind, rfl, hvalid, hfails⟩ | ⟨-, -, rfl⟩
  · exact Statement.pointsInto_of_fails hrows hstatements hvalid hfails
  · exact trivial

/-! ## References -/

/-- **A fault in the linking of a program points into its source.** -/
theorem pointsInto_of_assembledStatements {source : String} {rows : List (List Token)}
    {statements : List Statement} {layout : Layout} {fault : Fault}
    (hrows : Source.tokens source = .ok rows)
    (hstatements : Statement.ofLines rows = .ok statements)
    (hlayout : ofStatements statements = .ok layout)
    (h : layout.assembledStatements = .error fault) : fault.PointsInto source := by
  obtain ⟨before, token, after, hoperands, -, name, hrefers, -, rfl⟩ :=
    (assembledStatements_eq_error_iff (ofStatements_eq_ok_iff_placeAll.mp hlayout).1).mp h
  obtain ⟨statement, hmem, htoken⟩ := List.mem_flatMap.mp
    (hoperands ▸ List.mem_append_right before (List.mem_cons_self : token ∈ token :: after))
  have hstands : token.StandsIn source :=
    ((Source.hasStatement_iff hrows hstatements).mpr hmem).standsIn.operands token htoken
  obtain ⟨term, hsaid⟩ := hstands.exists_says
  obtain ⟨other, rfl, hliteral⟩ := hsaid.of_address hrefers.1
  obtain rfl := TokenValue.name.inj (hsaid.value.symm.trans hrefers.2)
  show token.span.Marks source.toList _
  rw [← hliteral]
  exact hstands.marks

end Layout

/-! ## Every fault -/

/-- What a fault points into is a text of the source, at each of its places. -/
theorem Fault.PointsInto.marks {source : String} {fault : Fault} (h : fault.PointsInto source) :
    ∀ place ∈ fault.labels, ∃ text : String, place.2.Marks source.toList text.toList := by
  cases fault with
  | unknownToken | invalidLiteral | unknownOperator | unresolvedReference =>
    exact List.forall_mem_singleton.mpr ⟨_, h⟩
  | unterminatedString span =>
    obtain ⟨text, hline, -⟩ := h
    refine List.forall_mem_singleton.mpr ⟨String.ofList ('"' :: text), ?_⟩
    rw [String.toList_ofList]
    exact hline.marks
  | expectedInstruction found span =>
    cases found with
    | some found => exact List.forall_mem_singleton.mpr ⟨found, h⟩
    | none =>
      obtain ⟨-, -, -, -, -, -, -, hempty⟩ := h
      exact List.forall_mem_singleton.mpr ⟨"", hempty⟩
  | unknownInstruction =>
    obtain ⟨word, hmarks, -⟩ := h
    exact List.forall_mem_singleton.mpr ⟨word, hmarks⟩
  | duplicateLabel label span first =>
    obtain ⟨hspan, hfirst, -⟩ := h
    exact List.forall_mem_cons.mpr ⟨⟨_, hspan⟩, List.forall_mem_singleton.mpr ⟨_, hfirst⟩⟩
  | wrongArity =>
    obtain ⟨statement, -, -, -, hlast⟩ := h
    split at hlast
    · exact List.forall_mem_singleton.mpr ⟨_, hlast.2⟩
    · obtain ⟨-, word, hmarks, -⟩ := hlast
      exact List.forall_mem_singleton.mpr ⟨word, hmarks⟩
  | wrongKind =>
    obtain ⟨statement, token, -, -, -, -, hmarks, -⟩ := h
    exact List.forall_mem_singleton.mpr ⟨_, hmarks⟩
  | programTooLarge => exact fun place hplace => absurd hplace List.not_mem_nil

namespace Assembly

/-- **Every diagnostic points at what it is about.** When a source text fails to
assemble, each place of the fault is a text of the source, and the text is what the
fault says (`Fault.PointsInto`). -/
theorem pointsInto_of_ofSource {source : String} {fault : Fault}
    (h : ofSource source = .error fault) :
    fault.PointsInto source ∧
    ∀ place ∈ fault.labels, ∃ text : String, place.2.Marks source.toList text.toList ∧
      place.2.stop ≤ source.utf8ByteSize ∧
      source.toUTF8.extract place.2.start place.2.stop = text.toUTF8 := by
  have hpoints : fault.PointsInto source := by
    unfold ofSource at h
    split at h
    · next other hother =>
      obtain rfl := Except.error.inj h
      exact Source.pointsInto_of_tokens hother
    · next rows hrows =>
      split at h
      · next other hother =>
        obtain rfl := Except.error.inj h
        exact Statement.pointsInto_of_ofLines hrows hother
      · next statements hstatements =>
        unfold ofStatements at h
        split at h
        · next other hother =>
          obtain rfl := Except.error.inj h
          exact Layout.pointsInto_of_ofStatements hrows hstatements hother
        · next layout hlayout =>
          exact Layout.pointsInto_of_assembledStatements hrows hstatements hlayout
            (map_eq_error_iff.mp h)
  refine ⟨hpoints, fun place hplace => ?_⟩
  obtain ⟨text, hmarks⟩ := hpoints.marks place hplace
  refine ⟨text, hmarks, ?_, hmarks.extract_toUTF8⟩
  rw [Text.utf8ByteSize_eq]
  exact hmarks.stop_le

/-- A label that is defined again behind a comment and an empty line, with characters of
two bytes in front of it. -/
theorem pointsInto_of_ofSource_duplicate :
    ofSource "l\u00e9: OUT ; \u00fc\n\n\tl\u00e9: OUT"
      = .error (.duplicateLabel "l\u00e9" ⟨16, 4⟩ ⟨0, 4⟩) ∧
    Fault.PointsInto "l\u00e9: OUT ; \u00fc\n\n\tl\u00e9: OUT"
      (.duplicateLabel "l\u00e9" ⟨16, 4⟩ ⟨0, 4⟩) := by
  have hfault : ofSource "l\u00e9: OUT ; \u00fc\n\n\tl\u00e9: OUT"
      = .error (.duplicateLabel "l\u00e9" ⟨16, 4⟩ ⟨0, 4⟩) := by
    decide +kernel
  exact ⟨hfault, (pointsInto_of_ofSource hfault).1⟩

end Assembly

end AccumulatorMachine
