import AccumulatorMachine.Proofs.Program.Checks
import AccumulatorMachine.Proofs.Program.Sizes
import AccumulatorMachine.Proofs.Source.Rows

/-!
# The milestones of an assembly

Each stage that is finished leaves a milestone with counts of what it made, and counts
of different stages are taken from different things: tokens on lines, statements, placed
statements, words. Still they are the same numbers wherever they occur, since no stage
drops or adds a statement (`Source.Tally`) and statements become as many words as their
sizes said (`Source.exists_tally`).

How many milestones there are says how far the work came, and so does the cause of a fault:
`Fault.finished` counts the stages that come before the one which finds it, and
`Assembly.record_truthful` is the agreement of the two.
-/

namespace AccumulatorMachine

/-! ## How far the work came -/

/-- **The number of stages that are finished** where a fault is found. -/
def Fault.finished : Fault → Nat
  | unknownToken .. | invalidLiteral .. | unterminatedString .. => 0
  | expectedInstruction .. => 1
  | unknownInstruction .. | unknownOperator .. | duplicateLabel .. | wrongArity .. | wrongKind ..
  | programTooLarge .. => 2
  | unresolvedReference .. => 3

/-- The number of stages that are finished with a result: all five if it is an assembly. -/
def Assembly.finished : Except Fault Assembly → Nat
  | .error fault => fault.finished
  | .ok _ => 5

/-- At most three stages are finished where a fault is found. -/
theorem Fault.finished_le (fault : Fault) : fault.finished ≤ 3 := by
  cases fault <;> simp [finished]

/-- The words of a line fail while no stage is finished. -/
theorem Words.finished_eq {line : List Char} {offset : Nat} {words : List (Except Fault Token)}
    (h : Words line offset words) {fault : Fault} (hmem : .error fault ∈ words) :
    fault.finished = 0 := by
  induction h with
  | done | comment => exact absurd hmem List.not_mem_nil
  | skip _ _ ih => exact ih hmem
  | word _ _ _ ih =>
    rcases List.mem_cons.mp hmem with hword | hrest
    · rcases Token.ofLexeme_eq_error hword.symm with rfl | ⟨flaw, rfl⟩ <;> rfl
    · exact ih hrest
  | unclosed =>
    obtain rfl := Except.error.inj (List.mem_singleton.mp hmem)
    rfl

/-- Lines fail to have tokens while no stage is finished. -/
theorem Source.finished_of_tokensOfLines {lines : List (List Char)} {offset : Nat}
    {fault : Fault} (h : tokensOfLines lines offset = .error fault) : fault.finished = 0 := by
  induction lines generalizing offset with
  | nil => exact absurd h (by simp [tokensOfLines])
  | cons line lines ih =>
    rw [tokensOfLines] at h
    split at h
    · next other hother =>
      obtain rfl := Except.error.inj h
      obtain ⟨words, hwords⟩ := exists_words line offset
      obtain ⟨before, after, hfirst, -⟩ := (Cursor.tokens_eq_error_iff hwords).mp hother
      exact hwords.finished_eq (hfirst ▸ List.mem_append_right before List.mem_cons_self)
    · exact ih (map_eq_error_iff.mp h)

/-- **Rows of tokens fail to be statements** when the first stage is finished. -/
theorem Statement.finished_of_ofLines {rows : List (List Token)} {fault : Fault}
    (h : ofLines rows = .error fault) : fault.finished = 1 := by
  obtain ⟨_, _, _, _, _, -, -, -, rfl⟩ := ofLines_eq_error_iff_first.mp h
  rfl

/-- A statement fails when two stages are finished. -/
theorem Statement.Fails.finished_eq {before : List Statement} {statement : Statement}
    {fault : Fault} (h : statement.Fails before fault) : fault.finished = 2 := by
  cases h with
  | mnemonic | label | count => rfl
  | operand _ _ _ _ _ hrefused => cases hrefused <;> rfl

namespace Layout

/-- **Statements fail to have a layout** when two stages are finished. -/
theorem finished_of_ofStatements {statements : List Statement} {fault : Fault}
    (h : ofStatements statements = .error fault) : fault.finished = 2 := by
  rcases ofStatements_eq_error_iff_fails.mp h with ⟨_, _, _, -, -, hfails⟩ | ⟨-, -, rfl⟩
  · exact hfails.finished_eq
  · rfl

/-- **A layout fails to be linked** when three stages are finished. -/
theorem finished_of_assembledStatements {statements : List Statement} {layout : Layout}
    {fault : Fault} (hlayout : ofStatements statements = .ok layout)
    (h : layout.assembledStatements = .error fault) : fault.finished = 3 := by
  obtain ⟨_, _, _, -, -, _, -, -, rfl⟩ :=
    (assembledStatements_eq_error_iff (ofStatements_eq_ok_iff_placeAll.mp hlayout).1).mp h
  rfl

end Layout

/-! ## The counts -/

/-- **The counts of a source text**, as far as the work on it comes: its tokens, its
statements and its words. -/
structure Source.Tally (source : String) (tokens statements words : Nat) : Prop where
  /-- The tokens are those of all rows, and there is a statement for each row. -/
  rows : ∀ rows, Source.tokens source = .ok rows →
    (rows.map List.length).sum = tokens ∧ rows.length = statements
  /-- The rows are so many statements. -/
  parsed : ∀ rows parsed, Source.tokens source = .ok rows → Statement.ofLines rows = .ok parsed →
    parsed.length = statements
  /-- So many statements are placed, and their sizes make so many words. -/
  placed : ∀ rows parsed layout, Source.tokens source = .ok rows →
    Statement.ofLines rows = .ok parsed → Layout.ofStatements parsed = .ok layout →
    layout.length = statements ∧ layout.size = words ∧
      (layout.statements.map PlacedStatement.size).sum = words
  /-- So many statements are assembled, and so many words are emitted. -/
  assembled : ∀ assembly, Assembly.ofSource source = .ok assembly →
    assembly.statements.length = statements ∧ assembly.words.length = words

namespace Source

/-- What a layout counts is what is counted before and behind it. -/
theorem tally_of_layout {source : String} {rows : List (List Token)} {parsed : List Statement}
    {layout : Layout} (hrows : tokens source = .ok rows)
    (hparsed : Statement.ofLines rows = .ok parsed)
    (hlayout : Layout.ofStatements parsed = .ok layout) :
    Tally source (rows.map List.length).sum rows.length layout.size := by
  obtain ⟨hsound, hreads, -⟩ := Layout.ofStatements_eq_ok hlayout
  have hlength : parsed.length = rows.length := (mapM_eq_ok_iff.mp hparsed).length_eq.symm
  have hplaced : layout.length = rows.length := hreads.length_eq.trans hlength
  refine ⟨fun others hothers => ?_, fun others more hothers hmore => ?_,
    fun others more other hothers hmore hother => ?_, fun assembly hassembly => ?_⟩
  · obtain rfl := Except.ok.inj (hrows.symm.trans hothers)
    exact ⟨rfl, rfl⟩
  · obtain rfl := Except.ok.inj (hrows.symm.trans hothers)
    obtain rfl := Except.ok.inj (hparsed.symm.trans hmore)
    exact hlength
  · obtain rfl := Except.ok.inj (hrows.symm.trans hothers)
    obtain rfl := Except.ok.inj (hparsed.symm.trans hmore)
    obtain rfl := Except.ok.inj (hlayout.symm.trans hother)
    exact ⟨hplaced, rfl, hsound.size_eq.symm⟩
  · obtain ⟨others, more, other, linked, hothers, hmore, hother, hlinked, rfl⟩ :=
      Assembly.ofSource_eq_ok_iff.mp hassembly
    obtain rfl := Except.ok.inj (hrows.symm.trans hothers)
    obtain rfl := Except.ok.inj (hparsed.symm.trans hmore)
    obtain rfl := Except.ok.inj (hlayout.symm.trans hother)
    refine ⟨hlinked.length_eq.symm.trans hplaced, ?_⟩
    -- the words are as many as the sizes that were computed before any address was known
    rw [hsound.size_eq]
    exact Layout.length_flatMap_words
      ((Layout.linked_of_ofStatements hlayout hlinked).links.imp fun _ _ hboth => hboth.2)

/-- **Every source text has counts**, whatever stage fails. -/
theorem exists_tally (source : String) :
    ∃ tokens statements words, Tally source tokens statements words := by
  cases hrows : tokens source with
  | error fault =>
    have hnone : ∀ rows, tokens source ≠ .ok rows := by simp [hrows]
    refine ⟨0, 0, 0, fun rows h => absurd h (hnone rows), fun rows _ h => absurd h (hnone rows),
      fun rows _ _ h => absurd h (hnone rows), fun assembly h => ?_⟩
    obtain ⟨rows, -, h, -⟩ := Assembly.ofSource_eq_ok_iff_ofStatements.mp h
    exact absurd h (hnone rows)
  | ok rows =>
    by_cases hlayout : ∃ parsed layout, Statement.ofLines rows = .ok parsed ∧
        Layout.ofStatements parsed = .ok layout
    · obtain ⟨parsed, layout, hparsed, hlayout⟩ := hlayout
      exact ⟨_, _, _, tally_of_layout hrows hparsed hlayout⟩
    · refine ⟨(rows.map List.length).sum, rows.length, 0, fun others h => ?_,
        fun others parsed h hparsed => ?_, fun others parsed layout h hparsed hplaced => ?_,
        fun assembly h => ?_⟩
      · obtain rfl := Except.ok.inj (hrows.symm.trans h)
        exact ⟨rfl, rfl⟩
      · obtain rfl := Except.ok.inj (hrows.symm.trans h)
        exact (mapM_eq_ok_iff.mp hparsed).length_eq.symm
      · obtain rfl := Except.ok.inj (hrows.symm.trans h)
        exact absurd ⟨parsed, layout, hparsed, hplaced⟩ hlayout
      · obtain ⟨others, parsed, layout, _, h, hparsed, hplaced, -⟩ :=
          Assembly.ofSource_eq_ok_iff.mp h
        obtain rfl := Except.ok.inj (hrows.symm.trans h)
        exact absurd ⟨parsed, layout, hparsed, hplaced⟩ hlayout

end Source

/-! ## The milestones -/

/-- **All milestones**, with the same counts wherever they occur. -/
def Milestone.all (tokens statements words : Nat) : List Milestone :=
  [.lexed tokens statements, .parsed statements, .compiled statements words, .linked statements,
    .assembled words]

namespace Assembly

/-- **The milestones that are kept** are the first ones of all, as many as stages are
finished. -/
theorem record_eq_take {source : String} {tokens statements words : Nat}
    (h : Source.Tally source tokens statements words) :
    (record source).1
      = (Milestone.all tokens statements words).take (finished (ofSource source)) := by
  unfold record ofSource ofStatements
  cases hrows : Source.tokens source with
  | error fault => simp [finished, Source.finished_of_tokensOfLines hrows]
  | ok rows =>
    obtain ⟨rfl, rfl⟩ := h.rows rows hrows
    dsimp only
    rw [List.length_flatten]
    cases hparsed : Statement.ofLines rows with
    | error fault => simp [finished, Statement.finished_of_ofLines hparsed, Milestone.all]
    | ok parsed =>
      dsimp only
      rw [h.parsed rows parsed hrows hparsed]
      cases hlayout : Layout.ofStatements parsed with
      | error fault => simp [finished, Layout.finished_of_ofStatements hlayout, Milestone.all]
      | ok layout =>
        obtain ⟨hlength, hsize, -⟩ := h.placed rows parsed layout hrows hparsed hlayout
        dsimp only
        rw [hlength, hsize]
        cases hlinked : layout.assembledStatements with
        | error fault =>
          simp [finished, Except.map, Layout.finished_of_assembledStatements hlayout hlinked,
            Milestone.all]
        | ok linked =>
          have hassembly : ofSource source = .ok (ofLayout layout linked) :=
            ofSource_eq_ok_iff.mpr ⟨rows, parsed, layout, linked, hrows, hparsed, hlayout,
              Layout.assembledStatements_eq_ok_iff.mp hlinked, rfl⟩
          obtain ⟨hstatements, hwords⟩ := h.assembled _ hassembly
          dsimp only
          rw [show linked.length = _ from hstatements, hwords]
          rfl

/-- **The record of an assembly tells the truth.** Keeping it changes nothing about the
result. Whatever the source text, there are three counts – of tokens, of statements and of
words – so that the milestones are the first ones of the five with these counts in them: none
if a word is no token, one if a row is no statement's, two if a statement fails or all are
too large, three if a reference leads nowhere, and all five if the source text assembles.
The counts are those of what each stage has made, as far as the work comes; so lines and
statements are as many wherever they are counted, and words, first computed from sizes, are
as many as are emitted. -/
theorem record_truthful (source : String) :
    (record source).2 = ofSource source ∧
    ∃ tokens statements words,
      (record source).1 <+: Milestone.all tokens statements words ∧
      (record source).1.length = finished (ofSource source) ∧
      Source.Tally source tokens statements words ∧
      (Milestone.all tokens statements words).map Milestone.entry =
        [⟨.debug, "lexed " ++ Text.decimal tokens ++ " tokens over " ++ Text.decimal statements
            ++ " lines"⟩,
          ⟨.debug, "parsed " ++ Text.decimal statements ++ " statements"⟩,
          ⟨.debug, "compiled " ++ Text.decimal statements ++ " statements into "
            ++ Text.decimal words ++ " words"⟩,
          ⟨.debug, "linked " ++ Text.decimal statements ++ " statements"⟩,
          ⟨.debug, "assembled " ++ Text.decimal words ++ " words"⟩] := by
  obtain ⟨tokens, statements, words, htally⟩ := Source.exists_tally source
  have htake := record_eq_take htally
  have hle : finished (ofSource source) ≤ (Milestone.all tokens statements words).length := by
    show finished (ofSource source) ≤ 5
    cases ofSource source with
    | error fault => exact Nat.le_trans fault.finished_le (by decide)
    | ok assembly => exact Nat.le_refl 5
  refine ⟨record_snd source, tokens, statements, words, ?_, ?_, htally, rfl⟩
  · rw [htake]
    exact List.take_prefix _ _
  · rw [htake, List.length_take, Nat.min_eq_left hle]

/-- A string of data behind a comment and an empty line, and the same with a reference that
leads nowhere. -/
example : record "; two\n\ns: DB \"ab\"\nJMP [s]"
    = ([.lexed 5 2, .parsed 2, .compiled 2 4, .linked 2, .assembled 4],
      ofSource "; two\n\ns: DB \"ab\"\nJMP [s]") ∧
    (record "; two\n\ns: DB \"ab\"\nJMP [t]").1 = [.lexed 5 2, .parsed 2, .compiled 2 4] := by
  decide +kernel

end Assembly

end AccumulatorMachine
