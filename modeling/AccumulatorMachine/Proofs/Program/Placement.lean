import AccumulatorMachine.Program.Layout
import AccumulatorMachine.Proofs.Lists
import Mathlib.Algebra.GroupWithZero.Nat
import Mathlib.Data.List.Nodup

/-!
# Where statements are placed

A layout is built one statement at a time, and what a single placing does is
said once, in `Layout.place_eq_ok_iff`: the statement is understood
(`PlacedStatement.Reads`), its label is new, and it stands where the layout
ended. Everything else about layouts follows from that.

`Layout.Sound` is what every layout satisfies that was built from nothing: each
statement stands behind the words of those before it, and the label table lists
the labelled statements with their indices, no name twice. In a sound layout an
index of the table never dangles, so that looking a label up finds the
statement that carries it (`Layout.Sound.carrier_eq_some_iff`) or finds that
there is none.
-/

namespace AccumulatorMachine

/-- The name in front of a statement, if it has a label. -/
def Statement.labelName (statement : Statement) : Option String :=
  statement.label.map Label.name

/-- The name in front of a placed statement, if it has a label. -/
def PlacedStatement.labelName (placed : PlacedStatement) : Option String :=
  placed.label.map Label.name

/-- **A placed statement reads a statement of the source** if it has its label,
its instruction and its operands, and the size that these take. Its address is
left open. -/
structure PlacedStatement.Reads (placed : PlacedStatement) (statement : Statement) : Prop where
  /-- The label is the same. -/
  label : placed.label = statement.label
  /-- The instruction has the mnemonic. -/
  mnemonic : Mnemonic.ofName? statement.mnemonic = some placed.mnemonic
  /-- The operands are those of the tokens. -/
  operands : Layout.operands placed.mnemonic statement.span statement.operands
    = .ok placed.operands
  /-- The size is the size of the operands. -/
  size : placed.size = placed.mnemonic.size placed.operands
  /-- The place in the source is that of the mnemonic. -/
  span : placed.span = statement.span

/-- A statement that can be placed somewhere. -/
def Statement.Readable (statement : Statement) : Prop :=
  ∃ placed : PlacedStatement, placed.Reads statement

namespace Layout

/-! ## One statement -/

/-- The entry that a label adds to the table of a layout. -/
def newEntry (layout : Layout) (label : Option Label) : List (String × Nat) :=
  (label.map fun label => (label.name, layout.length)).toList

/-- **A label is registered if its name is new**, for the statement that comes
next. -/
theorem defineLabel_eq_ok_iff {layout defined : Layout} {label : Option Label} :
    layout.defineLabel label = .ok defined ↔
      (∀ name, label.map Label.name = some name → layout.labels.lookup name = none) ∧
      defined = { layout with labels := layout.labels ++ layout.newEntry label } := by
  cases label with
  | none =>
    simp only [defineLabel, newEntry, Option.map_none, reduceCtorEq, false_implies, implies_true,
      true_and, Option.toList_none, List.append_nil, Except.ok.injEq]
    exact eq_comm
  | some label =>
    simp only [defineLabel, define, newEntry, Option.map_some, Option.some.injEq, forall_eq',
      Option.toList_some]
    cases hlookup : layout.labels.lookup label.name with
    | none =>
      simp only [true_and, Except.ok.injEq]
      exact eq_comm
    | some index => simp

/-- **What placing a statement does.** -/
theorem place_eq_ok_iff {layout placed : Layout} {statement : Statement} :
    layout.place statement = .ok placed ↔
      (∀ name, statement.labelName = some name → layout.labels.lookup name = none) ∧
      ∃ added : PlacedStatement, added.Reads statement ∧ added.address = layout.size ∧
        placed
          = ⟨layout.statements ++ [added], layout.labels ++ layout.newEntry statement.label⟩ := by
  unfold place
  constructor
  · intro h
    split at h
    · exact absurd h (by simp)
    · next mnemonic hmnemonic =>
      split at h
      · exact absurd h (by simp)
      · next defined hdefine =>
        obtain ⟨hnew, rfl⟩ := defineLabel_eq_ok_iff.mp hdefine
        obtain ⟨understood, hoperands, rfl⟩ := map_eq_ok_iff.mp h
        exact ⟨hnew, _, ⟨rfl, hmnemonic, hoperands, rfl, rfl⟩, rfl, rfl⟩
  · rintro ⟨hnew, added, hreads, haddress, rfl⟩
    have hdefine : layout.defineLabel statement.label
        = .ok { layout with labels := layout.labels ++ layout.newEntry statement.label } :=
      defineLabel_eq_ok_iff.mpr ⟨hnew, rfl⟩
    rw [hreads.mnemonic]
    simp only [hdefine, hreads.operands, Except.map, add]
    obtain ⟨hlabel, -, -, hsize, hspan⟩ := hreads
    rw [← hlabel, ← hsize, ← hspan, ← haddress]

/-! ## Sound layouts -/

/-- The labels of placed statements with the indices of the statements. -/
def labelTable (statements : List PlacedStatement) : List (String × Nat) :=
  statements.zipIdx.filterMap fun entry => entry.1.labelName.map fun name => (name, entry.2)

/-- One statement more adds its own label, if it has one. -/
theorem labelTable_append_singleton (statements : List PlacedStatement) (added : PlacedStatement) :
    labelTable (statements ++ [added])
      = labelTable statements
        ++ (added.labelName.map fun name => (name, statements.length)).toList := by
  unfold labelTable
  rw [List.zipIdx_append, List.filterMap_append, Nat.zero_add]
  refine congrArg (_ ++ ·) ?_
  cases hname : added.labelName with
  | none => simp [hname]
  | some name => simp [hname]

/-- The table names the labelled statements in order. -/
theorem map_fst_labelTable (statements : List PlacedStatement) :
    (labelTable statements).map Prod.fst = statements.filterMap PlacedStatement.labelName := by
  have hzip : statements.zipIdx.map Prod.fst = statements := List.zipIdx_map_fst 0 statements
  conv_rhs => rw [← hzip]
  rw [List.filterMap_map, labelTable, List.map_filterMap]
  refine List.filterMap_congr (fun entry _ => ?_)
  show Option.map Prod.fst (Option.map _ entry.1.labelName) = entry.1.labelName
  cases entry.1.labelName <;> rfl

/-- An entry of the table belongs to the statement at its index. -/
theorem mem_labelTable_iff {statements : List PlacedStatement} {name : String} {index : Nat} :
    (name, index) ∈ labelTable statements ↔
      ∃ placed, statements[index]? = some placed ∧ placed.labelName = some name := by
  unfold labelTable
  rw [List.mem_filterMap]
  constructor
  · rintro ⟨⟨placed, i⟩, hmem, heq⟩
    obtain ⟨found, hfound, hpair⟩ := Option.map_eq_some_iff.mp heq
    obtain ⟨rfl, rfl⟩ := Prod.mk.inj hpair
    exact ⟨placed, List.mk_mem_zipIdx_iff_getElem?.mp hmem, hfound⟩
  · rintro ⟨placed, hplaced, hname⟩
    exact ⟨(placed, index), List.mk_mem_zipIdx_iff_getElem?.mpr hplaced, by rw [hname]; rfl⟩

/-- **What every layout satisfies that was built from nothing.** -/
structure Sound (layout : Layout) : Prop where
  /-- Each statement stands behind the words of those before it. -/
  addresses : ∀ before placed behind, layout.statements = before ++ placed :: behind →
    placed.address = (before.map PlacedStatement.size).sum
  /-- The table lists the labelled statements with their indices. -/
  labels : layout.labels = labelTable layout.statements
  /-- No name stands in front of two statements. -/
  distinct : (layout.statements.filterMap PlacedStatement.labelName).Nodup

/-- The layout of no program is sound. -/
theorem sound_empty : empty.Sound := by
  refine ⟨fun before placed behind h => ?_, rfl, List.nodup_nil⟩
  exact absurd h.symm (by simp [empty])

/-- A sound layout ends behind all its words. -/
theorem Sound.size_eq {layout : Layout} (h : layout.Sound) :
    layout.size = (layout.statements.map PlacedStatement.size).sum := by
  unfold size
  cases hlast : layout.statements.getLast? with
  | none =>
    rw [List.getLast?_eq_none_iff.mp hlast]
    rfl
  | some last =>
    obtain ⟨before, hsplit⟩ := List.getLast?_eq_some_iff.mp hlast
    show last.address + last.size = _
    rw [h.addresses before last [] hsplit, hsplit, List.map_append, List.sum_append]
    rfl

/-- A name has no index in a table exactly if no entry has the name. -/
theorem lookup_eq_none_iff_notMem {table : List (String × Nat)} {name : String} :
    table.lookup name = none ↔ name ∉ table.map Prod.fst := by
  rw [List.lookup_eq_none_iff, List.mem_map]
  constructor
  · rintro hall ⟨entry, hmem, rfl⟩
    exact absurd (hall entry hmem) (by simp)
  · intro hnone entry hmem
    exact bne_iff_ne.mpr fun heq => hnone ⟨entry, hmem, heq.symm⟩

/-- A name is not in the table exactly if it stands in front of no statement. -/
theorem Sound.lookup_eq_none_iff {layout : Layout} (h : layout.Sound) {name : String} :
    layout.labels.lookup name = none ↔
      name ∉ layout.statements.filterMap PlacedStatement.labelName := by
  rw [lookup_eq_none_iff_notMem, h.labels, map_fst_labelTable]

/-- **One statement more leaves a layout sound.** -/
theorem Sound.append {layout : Layout} (h : layout.Sound) {added : PlacedStatement}
    (hnew : ∀ name, added.labelName = some name → layout.labels.lookup name = none)
    (haddress : added.address = layout.size) :
    Sound ⟨layout.statements ++ [added], layout.labels ++ layout.newEntry added.label⟩ := by
  refine ⟨?_, ?_, ?_⟩
  · intro before placed behind hsplit
    rcases List.eq_nil_or_concat behind with rfl | ⟨rest, last, rfl⟩
    · -- the statement is the new one
      obtain ⟨rfl, hlast⟩ := List.append_inj' hsplit rfl
      obtain rfl : added = placed := by simpa using hlast
      exact haddress.trans h.size_eq
    · -- the statement was there before
      have hinit : layout.statements ++ [added] = (before ++ placed :: rest) ++ [last] := by
        simpa using hsplit
      exact h.addresses before placed rest (List.append_inj_left' hinit rfl)
  · show layout.labels ++ layout.newEntry added.label = labelTable (layout.statements ++ [added])
    rw [labelTable_append_singleton, h.labels]
    unfold newEntry PlacedStatement.labelName
    cases added.label <;> rfl
  · show ((layout.statements ++ [added]).filterMap PlacedStatement.labelName).Nodup
    rw [List.filterMap_append]
    refine List.nodup_append.mpr ⟨h.distinct, ?_, ?_⟩
    · cases hname : added.labelName <;> simp [hname]
    · intro name hmem other hother heq
      subst heq
      have hadded : added.labelName = some name := by
        cases hname : added.labelName with
        | none => simp [hname] at hother
        | some own => simpa [hname, eq_comm] using hother
      exact h.lookup_eq_none_iff.mp (hnew name hadded) hmem

/-! ## Whole programs -/

/-- **Placing a program** adds the statements that it reads, and leaves a sound
layout sound. -/
theorem Sound.of_placeAll {layout placed : Layout} {statements : List Statement}
    (h : layout.Sound) (hplace : layout.placeAll statements = .ok placed) :
    placed.Sound ∧ ∃ added, placed.statements = layout.statements ++ added ∧
      List.Forall₂ PlacedStatement.Reads added statements := by
  induction statements generalizing layout with
  | nil =>
    rw [placeAll, Except.ok.injEq] at hplace
    exact ⟨hplace ▸ h, [], hplace ▸ (List.append_nil _).symm, List.Forall₂.nil⟩
  | cons statement statements ih =>
    rw [placeAll] at hplace
    split at hplace
    · exact absurd hplace (by simp)
    · next next hnext =>
      obtain ⟨hnew, added, hreads, haddress, rfl⟩ := place_eq_ok_iff.mp hnext
      have hname : added.labelName = statement.labelName := congrArg _ hreads.label
      have hsound := h.append (hname ▸ hnew) haddress
      rw [hreads.label] at hsound
      obtain ⟨hplaced, rest, hrest, hall⟩ := ih hsound hplace
      refine ⟨hplaced, added :: rest, ?_, List.Forall₂.cons hreads hall⟩
      rw [hrest, List.append_assoc]
      rfl

/-- **Placing a program succeeds** if each statement can be read and no name
stands in front of two. -/
theorem Sound.exists_placeAll {layout : Layout} {statements : List Statement} (h : layout.Sound)
    (hread : ∀ statement ∈ statements, statement.Readable)
    (hdistinct : (layout.statements.filterMap PlacedStatement.labelName
      ++ statements.filterMap Statement.labelName).Nodup) :
    ∃ placed, layout.placeAll statements = .ok placed := by
  induction statements generalizing layout with
  | nil => exact ⟨layout, rfl⟩
  | cons statement statements ih =>
    obtain ⟨reading, hreading⟩ := hread statement List.mem_cons_self
    -- the reading, moved to the end of the layout
    let added : PlacedStatement := { reading with address := layout.size }
    have hreads : added.Reads statement :=
      ⟨hreading.label, hreading.mnemonic, hreading.operands, hreading.size, hreading.span⟩
    have hname : added.labelName = statement.labelName := congrArg _ hreads.label
    have hnew : ∀ name, statement.labelName = some name → layout.labels.lookup name = none := by
      intro name hlabel
      refine h.lookup_eq_none_iff.mpr (fun hmem => ?_)
      rw [List.filterMap_cons, hlabel] at hdistinct
      exact (List.nodup_append.mp hdistinct).2.2 name hmem name List.mem_cons_self rfl
    have hplace := place_eq_ok_iff.mpr ⟨hnew, added, hreads, rfl, rfl⟩
    have hsound := h.append (hname ▸ hnew) (rfl : added.address = layout.size)
    rw [hreads.label] at hsound
    rw [placeAll, hplace]
    refine ih hsound (fun other hmem => hread other (List.mem_cons_of_mem _ hmem)) ?_
    show ((layout.statements ++ [added]).filterMap PlacedStatement.labelName
      ++ statements.filterMap Statement.labelName).Nodup
    rw [List.filterMap_append, List.append_assoc]
    rw [show statement :: statements = [statement] ++ statements from rfl, List.filterMap_append]
      at hdistinct
    rw [show [added].filterMap PlacedStatement.labelName = [statement].filterMap Statement.labelName
      from by rw [List.filterMap_cons, List.filterMap_cons, hname]; rfl]
    exact hdistinct

/-- The names in front of statements stay when they are placed. -/
theorem filterMap_labelName {placed : List PlacedStatement} {statements : List Statement}
    (h : List.Forall₂ PlacedStatement.Reads placed statements) :
    placed.filterMap PlacedStatement.labelName = statements.filterMap Statement.labelName :=
  filterMap_eq_of_forall₂ h fun _ _ hreads => congrArg (Option.map Label.name) hreads.label

/-- A program has a layout if it can be placed and fits into memory. -/
theorem ofStatements_eq_ok_iff_placeAll {statements : List Statement} {layout : Layout} :
    ofStatements statements = .ok layout ↔
      empty.placeAll statements = .ok layout ∧ layout.size ≤ capacity := by
  unfold ofStatements
  cases empty.placeAll statements with
  | error fault => simp
  | ok placed =>
    dsimp only
    by_cases hfits : placed.size ≤ capacity
    · rw [if_pos hfits]
      exact ⟨fun h => ⟨h, Except.ok.inj h ▸ hfits⟩, And.left⟩
    · rw [if_neg hfits]
      refine ⟨fun h => absurd h (by simp), fun h => ?_⟩
      exact absurd (Except.ok.inj h.1 ▸ h.2) hfits

/-- **The layout of a program**: its statements in order, soundly placed, within
the capacity of memory. -/
theorem ofStatements_eq_ok {statements : List Statement} {layout : Layout}
    (h : ofStatements statements = .ok layout) :
    layout.Sound ∧ List.Forall₂ PlacedStatement.Reads layout.statements statements ∧
      (layout.statements.map PlacedStatement.size).sum ≤ capacity := by
  obtain ⟨hplace, hfits⟩ := ofStatements_eq_ok_iff_placeAll.mp h
  obtain ⟨hsound, added, hadded, hall⟩ := sound_empty.of_placeAll hplace
  exact ⟨hsound, (show layout.statements = added from hadded) ▸ hall, hsound.size_eq ▸ hfits⟩

end Layout

end AccumulatorMachine
