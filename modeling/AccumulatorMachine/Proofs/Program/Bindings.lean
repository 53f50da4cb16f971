import AccumulatorMachine.Proofs.Program.Linking

/-!
# Labels stay bound

A label is registered before the statement that it stands in front of is there, for the
index that the next statement will have. Whether it ever leads to that statement is up to
whoever adds statements. What a layout sees to by itself is said here for any use of it: a
label keeps the index that it was registered for first, and what is at an index stays there.
For a layout only ever grows (`Layout.Extends`), by what each use adds at the end
(`Layout.extends_perform`), and what is found in it is found in every longer one.

A program is placed in such a way that a label and its statement are added together. So no
index dangles behind any number of placed statements, whatever becomes of the next one
(`Layout.Sound.intact`).
-/

namespace AccumulatorMachine

namespace Layout

/-! ## What is found in a layout -/

section Found

variable {layout : Layout} {label : String} {index : Nat}

/-- A label is taken if it has an index, and this is what is answered. -/
theorem define_eq_error_iff :
    layout.define label = .error index ↔ layout.labels.lookup label = some index := by
  unfold define
  cases layout.labels.lookup label with
  | none => simp
  | some other => simp

/-- A label that has no index is registered for the next one. -/
theorem define_eq_ok_iff {defined : Layout} :
    layout.define label = .ok defined ↔ layout.labels.lookup label = none ∧
      defined = { layout with labels := layout.labels ++ [(label, layout.length)] } := by
  unfold define
  cases layout.labels.lookup label with
  | none => simp [eq_comm]
  | some other => simp

/-- **An access fails** exactly if there is no statement at the index yet. -/
theorem statement_eq_error_iff {dangling : Dangling} :
    layout.statement index = .error dangling ↔
      layout.statements.length ≤ index ∧ dangling = ⟨index⟩ := by
  unfold statement
  cases hplaced : layout.statements[index]? with
  | none => simp [List.getElem?_eq_none_iff.mp hplaced, eq_comm]
  | some placed =>
    obtain ⟨hlt, -⟩ := List.getElem?_eq_some_iff.mp hplaced
    exact iff_of_false (by simp) fun h => absurd h.1 (Nat.not_le.mpr hlt)

/-- A statement is found at its index. -/
theorem statement_eq_ok_iff {placed : PlacedStatement} :
    layout.statement index = .ok placed ↔ layout.statements[index]? = some placed := by
  unfold statement
  cases layout.statements[index]? <;> simp

/-- The carrier of a label is looked for at its index. -/
theorem carrier_of_lookup_eq_some (h : layout.labels.lookup label = some index) :
    layout.carrier label = (layout.statement index).map some := by
  unfold carrier
  rw [h]

/-- **A label leads nowhere** exactly if it has no index. -/
theorem carrier_eq_ok_none_iff :
    layout.carrier label = .ok none ↔ layout.labels.lookup label = none := by
  cases hlookup : layout.labels.lookup label with
  | none =>
    unfold carrier
    rw [hlookup]
    exact iff_of_true rfl rfl
  | some index =>
    rw [carrier_of_lookup_eq_some hlookup]
    cases layout.statement index <;> simp [Except.map]

/-- **Looking for a carrier fails** exactly if the label has an index at which there is no
statement yet. -/
theorem carrier_eq_error_iff {dangling : Dangling} :
    layout.carrier label = .error dangling ↔
      layout.labels.lookup label = some dangling.index ∧
        layout.statements.length ≤ dangling.index := by
  cases hlookup : layout.labels.lookup label with
  | none => simp [carrier_eq_ok_none_iff.mpr hlookup]
  | some index =>
    rw [carrier_of_lookup_eq_some hlookup, map_eq_error_iff, statement_eq_error_iff,
      Option.some.injEq]
    constructor
    · rintro ⟨hlength, rfl⟩
      exact ⟨rfl, hlength⟩
    · rintro ⟨rfl, hlength⟩
      exact ⟨hlength, rfl⟩

/-- **The entries of the symbol table one by one**, each of which may fail by itself. -/
def symbolEntries (layout : Layout) : List (Except Dangling (String × Nat)) :=
  layout.labels.map fun entry =>
    (layout.statement entry.2).map fun carrier => (entry.1, carrier.address)

/-- The symbol table is its entries, or the first failure among them. -/
theorem symbols_eq_mapM (layout : Layout) : layout.symbols = layout.symbolEntries.mapM id := by
  unfold symbolEntries
  rw [List.mapM_map]
  rfl

/-- **Listing the symbols fails** exactly if some label has an index at which there is no
statement yet. -/
theorem exists_symbols_eq_error_iff :
    (∃ dangling, layout.symbols = .error dangling) ↔
      ∃ entry ∈ layout.labels, layout.statements.length ≤ entry.2 := by
  constructor
  · rintro ⟨dangling, hsymbols⟩
    obtain ⟨entry, hmem, hentry⟩ := exists_mem_of_mapM_eq_error hsymbols
    exact ⟨entry, hmem, (statement_eq_error_iff.mp (map_eq_error_iff.mp hentry)).1⟩
  · rintro ⟨entry, hmem, hlength⟩
    cases hsymbols : layout.symbols with
    | error dangling => exact ⟨dangling, rfl⟩
    | ok table =>
      obtain ⟨symbol, -, hsymbol⟩ := exists_mem_of_forall₂ (mapM_eq_ok_iff.mp hsymbols) hmem
      obtain ⟨placed, hplaced, -⟩ := map_eq_ok_iff.mp hsymbol
      have hmissing := statement_eq_error_iff.mpr ⟨hlength, rfl⟩
      exact absurd (hplaced.symm.trans hmissing) (by simp)

/-- **The symbols are listed in the order of the labels.** -/
theorem map_fst_symbols {table : List (String × Nat)} (h : layout.symbols = .ok table) :
    table.map Prod.fst = layout.labels.map Prod.fst := by
  refine (map_eq_of_forall₂ (mapM_eq_ok_iff.mp h) fun entry symbol hsymbol => ?_).symm
  obtain ⟨placed, -, rfl⟩ := map_eq_ok_iff.mp hsymbol
  rfl

end Found

/-! ## Longer layouts -/

/-- **A layout extends another** if it has the same statements and labels, and perhaps more of
both behind them. -/
structure Extends (longer layout : Layout) : Prop where
  /-- The statements are there, in their places. -/
  statements : layout.statements <+: longer.statements
  /-- The labels are there, with their indices. -/
  labels : layout.labels <+: longer.labels

namespace Extends

variable {layout longer longest : Layout}

/-- A layout extends itself. -/
protected theorem refl (layout : Layout) : layout.Extends layout :=
  ⟨List.prefix_rfl, List.prefix_rfl⟩

/-- What extends a longer layout extends the layout. -/
protected theorem trans (h : longest.Extends longer) (h' : longer.Extends layout) :
    longest.Extends layout :=
  ⟨h'.statements.trans h.statements, h'.labels.trans h.labels⟩

/-- **A label keeps its index.** -/
theorem lookup_labels (h : longer.Extends layout) {label : String} {index : Nat}
    (hlookup : layout.labels.lookup label = some index) :
    longer.labels.lookup label = some index := by
  obtain ⟨more, hmore⟩ := h.labels
  rw [← hmore, List.lookup_append, hlookup, Option.some_or]

/-- **A statement that is found at an index is always found there.** -/
theorem statement (h : longer.Extends layout) {index : Nat} {placed : PlacedStatement}
    (hplaced : layout.statements[index]? = some placed) : longer.statement index = .ok placed :=
  statement_eq_ok_iff.mpr (getElem?_of_longer h.statements hplaced)

/-- **A label that leads to a statement always leads to it.** -/
theorem carrier (h : longer.Extends layout) {label : String} {index : Nat}
    {placed : PlacedStatement} (hlookup : layout.labels.lookup label = some index)
    (hplaced : layout.statements[index]? = some placed) :
    longer.carrier label = .ok (some placed) := by
  rw [carrier_of_lookup_eq_some (h.lookup_labels hlookup), h.statement hplaced]
  rfl

/-- **An entry of the symbol table that is there is always there**, at the same place. -/
theorem symbolEntries (h : longer.Extends layout) {place index : Nat} {label : String}
    {placed : PlacedStatement} (hlabel : layout.labels[place]? = some (label, index))
    (hplaced : layout.statements[index]? = some placed) :
    longer.symbolEntries[place]? = some (.ok (label, placed.address)) := by
  unfold Layout.symbolEntries
  rw [List.getElem?_map, getElem?_of_longer h.labels hlabel, Option.map_some,
    h.statement hplaced]
  rfl

end Extends

/-! ## Any use of a layout -/

/-- **What can be done with a layout.** -/
inductive Operation where
  /-- Registering a label for the statement that comes next. -/
  | define (label : String)
  /-- Adding a statement. -/
  | add (placed : PlacedStatement)
  /-- Looking for the statement that carries a label. -/
  | carrier (label : String)
  /-- Looking at the statement at an index. -/
  | statement (index : Nat)
  /-- Listing the labels with their addresses. -/
  | symbols

/-- The statement that an operation adds. -/
def Operation.added? : Operation → Option PlacedStatement
  | .add placed => some placed
  | _ => none

/-- The label that an operation is to register. -/
def Operation.label? : Operation → Option String
  | .define label => some label
  | _ => none

/-- Only registering a label is to register it. -/
theorem Operation.label?_eq_some_iff {operation : Operation} {label : String} :
    operation.label? = some label ↔ operation = .define label := by
  cases operation <;> simp [label?]

/-- **The layout behind an operation.** One that only looks leaves it as it is, and so does
registering a label that is taken. -/
def perform (layout : Layout) : Operation → Layout
  | .define label =>
    match layout.define label with
    | .ok defined => defined
    | .error _ => layout
  | .add placed => layout.add placed
  | .carrier _ => layout
  | .statement _ => layout
  | .symbols => layout

/-- **The layout behind operations** on the layout of no program. -/
def after (operations : List Operation) : Layout :=
  operations.foldl perform empty

/-- Registering a label that is taken changes nothing. -/
theorem perform_define_of_taken {layout : Layout} {label : String} {index : Nat}
    (h : layout.define label = .error index) : layout.perform (.define label) = layout := by
  rw [perform, h]

/-- Registering a label that is new puts it behind the others. -/
theorem perform_define_of_new {layout : Layout} {label : String}
    (h : layout.labels.lookup label = none) :
    layout.perform (.define label)
      = { layout with labels := layout.labels ++ [(label, layout.length)] } := by
  rw [perform, define_eq_ok_iff.mpr ⟨h, rfl⟩]

/-- An operation that is to register no label leaves the labels as they are. -/
theorem labels_perform_of_label?_eq_none (layout : Layout) {operation : Operation}
    (h : operation.label? = none) : (layout.perform operation).labels = layout.labels := by
  cases operation with
  | define label => exact absurd h (by simp [Operation.label?])
  | add placed => rfl
  | carrier label => rfl
  | statement index => rfl
  | symbols => rfl

/-- **An operation puts what it adds behind the statements.** -/
theorem statements_perform (layout : Layout) (operation : Operation) :
    (layout.perform operation).statements = layout.statements ++ operation.added?.toList := by
  cases operation with
  | define label =>
    refine Eq.trans ?_ (List.append_nil _).symm
    cases hlookup : layout.labels.lookup label with
    | none => rw [perform_define_of_new hlookup]
    | some index => rw [perform_define_of_taken (define_eq_error_iff.mpr hlookup)]
  | add placed => rfl
  | carrier label => exact (List.append_nil _).symm
  | statement index => exact (List.append_nil _).symm
  | symbols => exact (List.append_nil _).symm

/-- **An operation leaves a layout that extends the one before.** -/
theorem extends_perform (layout : Layout) (operation : Operation) :
    (layout.perform operation).Extends layout := by
  refine ⟨statements_perform layout operation ▸ List.prefix_append _ _, ?_⟩
  cases hlabel : operation.label? with
  | none => exact (labels_perform_of_label?_eq_none layout hlabel).symm ▸ List.prefix_rfl
  | some label =>
    obtain rfl := Operation.label?_eq_some_iff.mp hlabel
    cases hlookup : layout.labels.lookup label with
    | none =>
      rw [perform_define_of_new hlookup]
      exact List.prefix_append _ _
    | some index =>
      have hsame := perform_define_of_taken (define_eq_error_iff.mpr hlookup)
      exact hsame.symm ▸ List.prefix_rfl

/-- **Operations leave a layout that extends the one before**, however many there are. -/
theorem extends_foldl (layout : Layout) (operations : List Operation) :
    (operations.foldl perform layout).Extends layout := by
  induction operations generalizing layout with
  | nil => exact .refl layout
  | cons operation operations ih => exact (ih _).trans (extends_perform layout operation)

/-- More operations leave a layout that extends the one before. -/
theorem extends_after (operations more : List Operation) :
    (after (operations ++ more)).Extends (after operations) := by
  unfold after
  rw [List.foldl_append]
  exact extends_foldl _ more

/-- The layout behind one operation more. -/
theorem after_concat (operations : List Operation) (operation : Operation) :
    after (operations ++ [operation]) = (after operations).perform operation := by
  unfold after
  rw [List.foldl_append]
  rfl

/-- **The statements of a layout** are those that were added, in order. -/
theorem statements_after (operations : List Operation) :
    (after operations).statements = operations.filterMap Operation.added? := by
  induction operations using List.reverseRecOn with
  | nil => rfl
  | append_singleton operations operation ih =>
    rw [after_concat, statements_perform, ih, List.filterMap_append]
    cases hadded : operation.added? <;> simp [hadded]

/-- **A label has an index behind an operation** if it had it before, or was new and has just
been registered for the next index. -/
theorem lookup_perform_eq_some_iff {layout : Layout} {operation : Operation} {label : String}
    {index : Nat} :
    (layout.perform operation).labels.lookup label = some index ↔
      layout.labels.lookup label = some index ∨
        operation = .define label ∧ layout.labels.lookup label = none ∧
          index = layout.length := by
  cases hoperation : operation.label? with
  | none =>
    rw [labels_perform_of_label?_eq_none layout hoperation]
    have hother : operation ≠ .define label :=
      fun h => absurd (Operation.label?_eq_some_iff.mpr h) (by simp [hoperation])
    simp only [hother, false_and, or_false]
  | some other =>
    obtain rfl := Operation.label?_eq_some_iff.mp hoperation
    rw [Operation.define.injEq]
    cases hlookup : layout.labels.lookup other with
    | some taken =>
      rw [perform_define_of_taken (define_eq_error_iff.mpr hlookup)]
      refine (or_iff_left ?_).symm
      rintro ⟨rfl, hnew, -⟩
      exact absurd (hlookup.symm.trans hnew) (by simp)
    | none =>
      rw [perform_define_of_new hlookup, List.lookup_append, Option.or_eq_some_iff]
      by_cases hsame : label = other
      · subst hsame
        simp [hlookup, eq_comm]
      · have hlast : [(other, layout.length)].lookup label = none := by simp [hsame]
        simp [hlast, Ne.symm hsame]

/-- **A label has the index** that it was registered for when it was new: the number of
statements that were there then. -/
theorem lookup_after_eq_some_iff {operations : List Operation} {label : String} {index : Nat} :
    (after operations).labels.lookup label = some index ↔
      ∃ before behind, operations = before ++ .define label :: behind ∧
        (after before).labels.lookup label = none ∧ index = (after before).length := by
  induction operations using List.reverseRecOn with
  | nil => simp [after, empty]
  | append_singleton operations operation ih =>
    rw [after_concat, lookup_perform_eq_some_iff, ih]
    constructor
    · rintro (⟨before, behind, rfl, hnew, hindex⟩ | ⟨rfl, hnew, hindex⟩)
      · exact ⟨before, behind ++ [operation], by simp, hnew, hindex⟩
      · exact ⟨operations, [], rfl, hnew, hindex⟩
    · rintro ⟨before, behind, hsplit, hnew, hindex⟩
      obtain rfl | ⟨front, last, rfl⟩ := List.eq_nil_or_concat behind
      · -- it is the last operation that registered the label
        obtain ⟨rfl, hlast⟩ := List.append_inj' hsplit rfl
        exact .inr ⟨List.singleton_inj.mp hlast, hnew, hindex⟩
      · have hinit : operations ++ [operation] = (before ++ .define label :: front) ++ [last] := by
          simpa using hsplit
        exact .inl ⟨before, front, List.append_inj_left' hinit rfl, hnew, hindex⟩

/-- **The labels of a layout** are those that were registered, in the order in which this was
done first. -/
theorem map_fst_labels_after (operations : List Operation) :
    (after operations).labels.map Prod.fst
      = (operations.filterMap Operation.label?).eraseDups := by
  induction operations using List.reverseRecOn with
  | nil => rfl
  | append_singleton operations operation ih =>
    rw [after_concat, List.filterMap_append]
    cases hlabel : operation.label? with
    | none =>
      rw [labels_perform_of_label?_eq_none _ hlabel, List.filterMap_cons_none hlabel,
        List.filterMap_nil, List.append_nil]
      exact ih
    | some label =>
      have hknown : label ∈ operations.filterMap Operation.label? ↔
          label ∈ (after operations).labels.map Prod.fst := by rw [ih, List.mem_eraseDups]
      rw [List.filterMap_cons_some hlabel, List.filterMap_nil, eraseDups_concat, ← ih]
      obtain rfl := Operation.label?_eq_some_iff.mp hlabel
      cases hlookup : (after operations).labels.lookup label with
      | none =>
        have hnew := lookup_eq_none_iff_notMem.mp hlookup
        rw [perform_define_of_new hlookup, if_neg (mt hknown.mp hnew), List.map_append]
        rfl
      | some index =>
        have hmem : label ∈ (after operations).labels.map Prod.fst :=
          not_not.mp fun hnot => absurd (hlookup.symm.trans (lookup_eq_none_iff_notMem.mpr hnot))
            (by simp)
        rw [perform_define_of_taken (define_eq_error_iff.mpr hlookup), if_pos (hknown.mpr hmem)]

/-- **A label has an index** exactly if it is there with this index. -/
theorem lookup_after_eq_some_iff_mem {operations : List Operation} {label : String}
    {index : Nat} :
    (after operations).labels.lookup label = some index ↔
      (label, index) ∈ (after operations).labels := by
  refine lookup_eq_some_iff_mem ?_
  rw [map_fst_labels_after]
  exact nodup_eraseDups _

/-- **Once there is a statement at the index of a label**, the statement, the label and its entry
in the symbol table stay as they are. -/
theorem exists_entry_of_lookup {operations : List Operation} {label : String} {index : Nat}
    (hindex : (after operations).labels.lookup label = some index) :
    ∃ place : Nat, ∀ placed, (after operations).statements[index]? = some placed → ∀ more,
      (after (operations ++ more)).statement index = .ok placed ∧
      (after (operations ++ more)).carrier label = .ok (some placed) ∧
      (after (operations ++ more)).symbolEntries[place]? = some (.ok (label, placed.address)) := by
  obtain ⟨place, hplace⟩ := List.mem_iff_getElem?.mp (lookup_after_eq_some_iff_mem.mp hindex)
  refine ⟨place, fun placed hplaced more => ?_⟩
  have hlater := extends_after operations more
  exact ⟨hlater.statement hplaced, hlater.carrier hindex hplaced,
    hlater.symbolEntries hplace hplaced⟩

/-- **Listing the symbols fails** exactly if the index of some label has no statement yet. -/
theorem exists_symbols_after_eq_error_iff {operations : List Operation} :
    (∃ dangling, (after operations).symbols = .error dangling) ↔
      ∃ label index, (after operations).labels.lookup label = some index ∧
        (after operations).statements.length ≤ index := by
  rw [exists_symbols_eq_error_iff, Prod.exists]
  simp only [lookup_after_eq_some_iff_mem]

/-! ## Layouts of programs -/

/-- **A layout in which no index dangles.** -/
structure Intact (layout : Layout) : Prop where
  /-- The labels are exactly those in front of statements, each with the index of its
  statement. -/
  labels : ∀ name index, (name, index) ∈ layout.labels ↔
    ∃ placed, layout.statements[index]? = some placed ∧ placed.labelName = some name
  /-- No label is there twice. -/
  distinct : (layout.labels.map Prod.fst).Nodup
  /-- Looking for the statement that carries a label never fails. -/
  carrier : ∀ label, ∃ found, layout.carrier label = .ok found
  /-- Listing the symbols does not fail. -/
  symbols : ∃ table, layout.symbols = .ok table
  /-- A label that is taken has an index at which there is the statement with that label, and
  the report points at both. -/
  duplicate : ∀ (label : Label) (index : Nat), layout.define label.name = .error index →
    ∃ placed first, layout.statement index = .ok placed ∧ placed.label = some first ∧
      first.name = label.name ∧
      layout.defineLabel (some label)
        = .error (.duplicateLabel label.name label.span first.span)

/-- **No index dangles in a sound layout.** -/
theorem Sound.intact {layout : Layout} (h : layout.Sound) : layout.Intact where
  labels name index := by rw [h.labels, mem_labelTable_iff]
  distinct := by
    rw [h.labels, map_fst_labelTable]
    exact h.distinct
  carrier label := by
    cases hlookup : layout.labels.lookup label with
    | none => exact ⟨none, carrier_eq_ok_none_iff.mpr hlookup⟩
    | some index =>
      obtain ⟨placed, hplaced, -⟩ := h.lookup_eq_some_iff.mp hlookup
      exact ⟨some placed, Extends.carrier (.refl layout) hlookup hplaced⟩
  symbols := ⟨_, h.symbols_eq⟩
  duplicate label index htaken := by
    obtain ⟨placed, hplaced, hname⟩ := h.lookup_eq_some_iff.mp (define_eq_error_iff.mp htaken)
    obtain ⟨first, hfirst, hsame⟩ := Option.map_eq_some_iff.mp hname
    refine ⟨placed, first, statement_eq_ok_iff.mpr hplaced, hfirst, hsame, ?_⟩
    unfold defineLabel
    simp only [htaken, hplaced, Option.bind_some, hfirst, Option.getD_some]

/-- **A statement is placed by operations**: its label is registered, if it has one, and the
statement is added right behind. -/
theorem exists_after_eq_of_place {operations : List Operation} {statement : Statement}
    {placed : Layout} (h : (after operations).place statement = .ok placed) :
    ∃ more, after (operations ++ more) = placed := by
  obtain ⟨hnew, added, -, -, rfl⟩ := place_eq_ok_iff.mp h
  cases hlabel : statement.label with
  | none =>
    refine ⟨[.add added], ?_⟩
    rw [after_concat]
    show Layout.mk _ _ = Layout.mk _ _
    rw [newEntry, Option.map_none, Option.toList_none, List.append_nil]
  | some label =>
    have hname : statement.labelName = some label.name := congrArg (Option.map Label.name) hlabel
    refine ⟨[.define label.name, .add added], ?_⟩
    rw [List.append_cons, after_concat, after_concat, perform_define_of_new (hnew _ hname)]
    rfl

/-- **A program is placed by operations.** -/
theorem exists_after_eq_of_placeAll {operations : List Operation} {statements : List Statement}
    {placed : Layout} (h : (after operations).placeAll statements = .ok placed) :
    ∃ more, after (operations ++ more) = placed := by
  induction statements generalizing operations with
  | nil => exact ⟨[], by rw [List.append_nil]; exact Except.ok.inj h⟩
  | cons statement statements ih =>
    rw [placeAll] at h
    split at h
    · exact absurd h (by simp)
    · next next hnext =>
      obtain ⟨first, rfl⟩ := exists_after_eq_of_place hnext
      obtain ⟨more, rfl⟩ := ih h
      exact ⟨first ++ more, by rw [List.append_assoc]⟩

/-- **Labels stay bound to one statement.** Whatever is done with the layout of no program, its
statements are those that were added, and the following holds of the layout that is left.

A label is taken exactly if it was registered before, and what is answered is the number of
statements that were there then; nothing is changed by that. The label keeps this number whatever
is done next, and once there is a statement at this index, it is the one that is always found there
and by the label, and that always has its entry in the symbol table, at the same place. A label that
is not taken leads nowhere. The symbol table lists the labels in the order in which they were first
registered. And access fails only for want of a statement: at an index, by a label, or when all
symbols are listed, exactly if the index, that of the label, or that of some label is not there yet.

The layout of a program, and of as many of its statements as could be placed, is one of these.
In it no index dangles: its labels are those in front of its statements, each with the index of
its statement, no label and no listing of symbols meets an index without a statement, and nor does
the report of a label that is taken. -/
theorem labels_stayBound :
    (∀ operations : List Operation,
      let layout := after operations
      let later := fun more => after (operations ++ more)
      layout.statements = operations.filterMap Operation.added? ∧
      (∀ (label : String) (index : Nat), layout.define label = .error index ↔
        ∃ (before behind : List Operation) (defined : Layout),
          operations = before ++ .define label :: behind ∧
          (after before).define label = .ok defined ∧ index = (after before).length) ∧
      (∀ (label : String) (index : Nat), layout.define label = .error index →
        layout.perform (.define label) = layout ∧
        (∀ more, (later more).define label = .error index) ∧
        ∃ place : Nat, ∀ placed, layout.statements[index]? = some placed → ∀ more,
          (later more).statement index = .ok placed ∧
          (later more).carrier label = .ok (some placed) ∧
          (later more).symbolEntries[place]? = some (.ok (label, placed.address))) ∧
      (∀ label, layout.carrier label = .ok none ↔ ∃ defined, layout.define label = .ok defined) ∧
      layout.symbols = layout.symbolEntries.mapM id ∧
      (∀ table, layout.symbols = .ok table →
        table.map Prod.fst = (operations.filterMap Operation.label?).eraseDups) ∧
      (∀ index, (∃ dangling, layout.statement index = .error dangling) ↔
        layout.statements.length ≤ index) ∧
      (∀ label, (∃ dangling, layout.carrier label = .error dangling) ↔
        ∃ index, layout.define label = .error index ∧ layout.statements.length ≤ index) ∧
      ((∃ dangling, layout.symbols = .error dangling) ↔
        ∃ label index, layout.define label = .error index ∧
          layout.statements.length ≤ index)) ∧
    (∀ statements layout, empty.placeAll statements = .ok layout →
      (∃ operations, after operations = layout) ∧ layout.Intact) ∧
    ∀ statements layout, ofStatements statements = .ok layout →
      (∃ operations, after operations = layout) ∧ layout.Intact := by
  have hplaced : ∀ statements layout, empty.placeAll statements = .ok layout →
      (∃ operations, after operations = layout) ∧ layout.Intact := by
    intro statements layout hplace
    have hstart : (after []).placeAll statements = .ok layout := hplace
    obtain ⟨operations, hoperations⟩ := exists_after_eq_of_placeAll hstart
    exact ⟨⟨operations, hoperations⟩, (sound_empty.of_placeAll hplace).1.intact⟩
  refine ⟨fun operations => ?_, hplaced, fun statements layout hlayout =>
    hplaced statements layout (ofStatements_eq_ok_iff_placeAll.mp hlayout).1⟩
  intro layout later
  have hlater : ∀ more, (later more).Extends layout := extends_after operations
  simp only [define_eq_error_iff]
  refine ⟨statements_after operations, fun label index => ?_, fun label index hindex =>
    ⟨perform_define_of_taken (define_eq_error_iff.mpr hindex),
      fun more => (hlater more).lookup_labels hindex, exists_entry_of_lookup hindex⟩,
    fun label => ?_, symbols_eq_mapM layout, fun table htable => ?_, fun index => ?_,
    fun label => ?_, exists_symbols_after_eq_error_iff⟩
  · rw [lookup_after_eq_some_iff]
    simp only [define_eq_ok_iff]
    constructor
    · rintro ⟨before, behind, hsplit, hnew, hindex⟩
      exact ⟨before, behind, _, hsplit, ⟨hnew, rfl⟩, hindex⟩
    · rintro ⟨before, behind, _, hsplit, ⟨hnew, -⟩, hindex⟩
      exact ⟨before, behind, hsplit, hnew, hindex⟩
  · rw [carrier_eq_ok_none_iff]
    simp only [define_eq_ok_iff, exists_and_left, exists_eq, and_true]
  · rw [map_fst_symbols htable]
    exact map_fst_labels_after operations
  · simp only [statement_eq_error_iff, exists_and_left, exists_eq, and_true]
  · simp only [carrier_eq_error_iff]
    exact ⟨fun ⟨dangling, h⟩ => ⟨dangling.index, h⟩, fun ⟨index, h⟩ => ⟨⟨index⟩, h⟩⟩

/-- Two labels for one statement, one of them registered again, and a third that is left without a
statement: the first two lead to the statement, and listing the symbols fails. -/
theorem labels_stayBound_dangling :
    let out : PlacedStatement := ⟨none, .output, [], 0, 1, ⟨3, 3⟩⟩
    let operations : List Operation :=
      [.define "a", .define "b", .add out, .define "a", .define "c"]
    (after operations).define "a" = .error 0 ∧ (after operations).define "c" = .error 1 ∧
      (∀ more, (after (operations ++ more)).carrier "b" = .ok (some out)) ∧
      (∃ dangling, (after operations).carrier "c" = .error dangling) ∧
      (∃ dangling, (after operations).symbols = .error dangling) ∧
      (after (operations ++ [.add out])).symbols = .ok [("a", 0), ("b", 0), ("c", 0)] := by
  intro out operations
  have hfirst : (after operations).define "a" = .error 0 := by decide
  have hsecond : (after operations).define "b" = .error 0 := by decide
  have hthird : (after operations).define "c" = .error 1 := by decide
  obtain ⟨hany, -⟩ := labels_stayBound
  obtain ⟨-, -, hbound, -, -, -, -, hcarrier, hsymbols⟩ := hany operations
  obtain ⟨-, -, place, hplace⟩ := hbound "b" 0 hsecond
  exact ⟨hfirst, hthird, fun more => (hplace out rfl more).2.1,
    (hcarrier "c").mpr ⟨1, hthird, by decide⟩, hsymbols.mpr ⟨"c", 1, hthird, by decide⟩, by decide⟩

end Layout

end AccumulatorMachine
