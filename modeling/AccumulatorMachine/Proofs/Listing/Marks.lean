import AccumulatorMachine.Proofs.Listing.Colour
import AccumulatorMachine.Proofs.Machine.Coherence

/-!
# The marks of a listing

The listing of a machine marks two words, the one that memory is asked about and the
one that is fetched next. Both have an address of five bits in every machine that a
loaded one gets to, so that no mark is ever missing.

Which rows are marked is read off the text of the listing. A row of memory holds
letters, digits and spaces, and every mark has a sign that is none of these, so that a
line cannot end as a mark does unless it has this mark (`Listing.suffix_line_iff`). How
wide a row is makes no difference to that, only to where its marks begin: in their
column, or right behind a row that is wider (`Listing.isMarked_markedRow`).
-/

namespace AccumulatorMachine

namespace Listing

/-! ## The lines of a listing -/

/-- **The rows that a listing shows**: its lines without colour and without the header,
which only a minimal listing has not. -/
def shownRows (style : ListingStyle) (listing : String) : List String :=
  if style.minimal then Text.lines (decolour listing) else (Text.lines (decolour listing)).tail

/-- **A line is a row with marks**: between the two there are spaces, and the marks
begin in column thirty-two, or behind the row where that is wider. -/
def IsMarked (row marks line : String) : Prop :=
  ∃ padding : String, line = row ++ padding ++ marks ∧ (∀ c ∈ padding.toList, c = ' ') ∧
    (row ++ padding).length = max 32 row.length

/-- A row without marks is left as it is. -/
theorem markedRow_empty (row : String) : markedRow row "" = row := rfl

/-- **A row with marks** is filled up to them, if it holds no colour. -/
theorem isMarked_markedRow {row marks : String} (hrow : '\x1b' ∉ row.toList)
    (hmarks : marks ≠ "") : IsMarked row marks (markedRow row marks) := by
  refine ⟨String.ofList (List.replicate (markColumn - row.length) ' '), ?_, ?_, ?_⟩
  · unfold markedRow
    rw [if_neg (by rwa [String.isEmpty_iff]), decolour_of_notMem hrow]
  · rw [String.toList_ofList]
    exact fun c hc => List.eq_of_mem_replicate hc
  · rw [String.length_append, String.length_ofList, List.length_replicate]
    unfold markColumn
    omega

/-- A row with marks holds what the row and the marks may hold, and spaces. -/
theorem only_markedRow {allowed : Char → Prop} {row marks : String} (hspace : allowed ' ')
    (hrow : Text.Only allowed row) (hmarks : Text.Only allowed marks) :
    Text.Only allowed (markedRow row marks) := by
  unfold markedRow
  split
  · exact hrow
  · refine (hrow.append ?_).append hmarks
    unfold Text.Only
    rw [String.toList_ofList]
    exact fun c hc => List.eq_of_mem_replicate hc ▸ hspace

/-- The rows of a machine stay on their lines. -/
theorem feed_notMem_machineRows (machine : Machine) :
    ∀ row ∈ machineRows .plain machine, '\n' ∉ row.toList := by
  intro row hrow
  obtain ⟨index, hindex, rfl⟩ := List.mem_mapIdx.mp hrow
  have hmarks : ∀ address counter, Text.Only (· ≠ '\n') (marks address counter index) := by
    intro address counter
    unfold marks
    split <;> split <;> decide
  refine Text.only_ne_iff.mp (only_markedRow (by decide) ?_ (hmarks _ _))
  exact Text.only_ne_iff.mpr ((only_memoryRow _ _).notMem (by decide))

/-- **The listing of a machine shows its rows** without colour, in every style. -/
theorem shownRows_ofMachine (style : ListingStyle) (machine : Machine) :
    shownRows style (ofMachine style machine) = machineRows .plain machine := by
  have hrows := feed_notMem_machineRows machine
  have hheader : '\n' ∉ memoryHeader.toList := by decide
  unfold shownRows
  rw [decolour_ofMachine]
  unfold ofMachine
  rw [machineRows_uncoloured]
  obtain ⟨minimal, coloured⟩ := style
  cases minimal with
  | true => exact Text.lines_ofRows hrows
  | false =>
    exact congrArg List.tail (Text.lines_ofRows (List.forall_mem_cons.mpr ⟨hheader, hrows⟩))

/-- The row of a machine at an index. -/
theorem getElem?_machineRows (style : ListingStyle) (machine : Machine) (index : Fin capacity) :
    (machineRows style machine)[index.val]? =
      some (markedRow (memoryRow style index (machine.memory.words.get index))
        (marks machine.memory.address machine.processor.programCounter index)) := by
  have hword : machine.memory.words.toList[index.val]? = some (machine.memory.words.get index) := by
    rw [Vector.getElem?_toList]
    exact Vector.getElem?_eq_getElem index.isLt
  unfold machineRows
  rw [List.getElem?_mapIdx, hword]
  rfl

/-! ## What a line ends with -/

/-- **A mark at the end of a text** stands there among the marks, if the text in front
of these holds no sign that a mark begins with. -/
theorem suffix_append_iff {body mark marks : List Char} (hbody : '<' ∉ body)
    (hmark : ∃ rest, mark = ' ' :: '<' :: rest) (hmarks : marks.head? ≠ some '<') :
    mark <:+ body ++ marks ↔ mark <:+ marks := by
  refine ⟨fun h => ?_, fun h => h.trans (List.suffix_append body marks)⟩
  obtain ⟨rest, rfl⟩ := hmark
  rcases List.suffix_or_suffix_of_suffix h (List.suffix_append body marks) with
    hwithin | ⟨front, hfront⟩
  · exact hwithin
  -- else the mark begins in front of the marks
  cases front with
  | nil => exact ⟨[], hfront.symm⟩
  | cons c front =>
    obtain ⟨-, hfront⟩ := List.cons.inj hfront
    cases front with
    | nil => exact absurd (congrArg List.head? hfront) hmarks
    | cons d front =>
      obtain ⟨rfl, rfl⟩ := List.cons.inj hfront
      obtain ⟨before, hbefore⟩ := h
      have hsame : before ++ ' ' :: '<' :: front = body := by
        have hwhole : (before ++ ' ' :: '<' :: front) ++ marks = body ++ marks := by
          rw [List.append_assoc]
          exact hbefore
        exact List.append_cancel_right hwhole
      refine absurd ?_ hbody
      rw [← hsame]
      exact List.mem_append_right _ (List.mem_cons_of_mem _ List.mem_cons_self)

/-- A row of memory with marks is a text without the sign of a mark, and the marks. -/
theorem exists_body_markedRow (index : Nat) (word : Word) (marks : String) :
    ∃ body, (markedRow (memoryRow .plain index word) marks).toList = body ++ marks.toList ∧
      '<' ∉ body := by
  have hrow : '<' ∉ (memoryRow .plain index word).toList :=
    (only_memoryRow index word).notMem (by decide)
  by_cases hmarks : marks = ""
  · subst hmarks
    exact ⟨_, (List.append_nil _).symm, hrow⟩
  · obtain ⟨padding, hline, hpadding, -⟩ :=
      isMarked_markedRow (escape_notMem_memoryRow index word) hmarks
    refine ⟨(memoryRow .plain index word).toList ++ padding.toList, ?_, ?_⟩
    · rw [hline, String.toList_append, String.toList_append]
    · rw [List.mem_append, not_or]
      exact ⟨hrow, fun hmem => absurd (hpadding _ hmem) (by decide)⟩

/-- The marks of a word by the two places that are marked. -/
theorem marks_eq (address counter : UInt8) (index : Nat) :
    marks address counter index =
      if index = address.toNat then
        if index = counter.toNat then " <AR <PC" else " <AR"
      else if index = counter.toNat then " <PC" else "" := by
  unfold marks
  split <;> split <;> decide

/-- The mark of the address ends the marks of the word at the address. -/
theorem addressMark_suffix_iff (address counter : UInt8) (index : Nat) :
    " <AR".toList <:+ (marks address counter index).toList ∨
        " <AR <PC".toList <:+ (marks address counter index).toList ↔
      index = address.toNat := by
  rw [marks_eq]
  by_cases haddress : index = address.toNat
  · rw [if_pos haddress]
    refine iff_of_true ?_ haddress
    split <;> decide
  · rw [if_neg haddress]
    refine iff_of_false ?_ haddress
    split <;> decide

/-- The mark of the program counter ends the marks of the word that it names. -/
theorem counterMark_suffix_iff (address counter : UInt8) (index : Nat) :
    " <PC".toList <:+ (marks address counter index).toList ↔ index = counter.toNat := by
  rw [marks_eq]
  by_cases hcounter : index = counter.toNat
  · simp only [if_pos hcounter]
    refine iff_of_true ?_ hcounter
    split <;> decide
  · simp only [if_neg hcounter]
    refine iff_of_false ?_ hcounter
    split <;> decide

/-! ## The line of a word -/

section Line

variable (style : ListingStyle) (machine : Machine)

/-- The row of a word as the listing shows it, before it is marked. -/
def shownRow (index : Fin capacity) : String :=
  decolour (memoryRow style index (machine.memory.words.get index))

/-- The marks of a word in the listing. -/
def marksAt (index : Fin capacity) : String :=
  marks machine.memory.address machine.processor.programCounter index

/-- The row that is shown has no colour. -/
theorem shownRow_eq (index : Fin capacity) :
    shownRow style machine index = memoryRow .plain index (machine.memory.words.get index) :=
  (shows_memoryRow style index _).decolour_eq

/-- **The line of a word** is its row with its marks. -/
theorem getElem?_shownRows (index : Fin capacity) :
    (shownRows style (ofMachine style machine))[index.val]? =
      some (markedRow (shownRow style machine index) (marksAt machine index)) := by
  rw [shownRows_ofMachine, getElem?_machineRows, shownRow_eq]
  rfl

/-- **The line of a word ends with a mark** if that is among the marks of the word. -/
theorem suffix_line_iff {mark : String} (hmark : ∃ rest, mark.toList = ' ' :: '<' :: rest)
    (index : Fin capacity) :
    mark.toList <:+ (markedRow (shownRow style machine index) (marksAt machine index)).toList ↔
      mark.toList <:+ (marksAt machine index).toList := by
  obtain ⟨body, hline, hbody⟩ := exists_body_markedRow index (machine.memory.words.get index)
    (marksAt machine index)
  rw [shownRow_eq, hline]
  refine suffix_append_iff hbody hmark ?_
  unfold marksAt
  rw [marks_eq]
  split <;> split <;> decide

/-- The line of a word that has marks is its row marked with them. -/
theorem exists_isMarked {index : Fin capacity} {marks : String} (h : marksAt machine index = marks)
    (hmarks : marks ≠ "") :
    ∃ line, (shownRows style (ofMachine style machine))[index.val]? = some line ∧
      IsMarked (shownRow style machine index) marks line := by
  subst h
  refine ⟨_, getElem?_shownRows style machine index, isMarked_markedRow ?_ hmarks⟩
  rw [shownRow_eq]
  exact escape_notMem_memoryRow _ _

end Line

/-! ## Machines that were loaded -/

/-- **The listing of a machine marks the right words.** However a loaded machine got
where it is by ticks and resets, its listing shows thirty-two rows in every style. A
row is that of its word alone, unless memory is asked about this word or it is fetched
next. One line ends with the mark of the address, with or without the other mark behind
it, and one with the mark of the program counter, and these are the lines of the two
words; where they are the same word its line has both marks. Marks begin in column
thirty-two, or behind the row where that is wider, with spaces in front. -/
theorem marks_shownRows {image : List Word} {start machine : Machine}
    (hload : Machine.load image = .ok start) (h : start.Reaches machine) (style : ListingStyle) :
    let rows := shownRows style (ofMachine style machine)
    let row : Fin capacity → String := fun index =>
      decolour (memoryRow style index (machine.memory.words.get index))
    ∃ address counter : Fin capacity,
      address.val = machine.memory.address.toNat ∧
      counter.val = machine.processor.programCounter.toNat ∧
      rows.length = 32 ∧
      (∀ index : Fin capacity, index ≠ address → index ≠ counter →
        rows[index.val]? = some (row index)) ∧
      (∀ index : Fin capacity, (∃ line, rows[index.val]? = some line ∧
        (" <AR".toList <:+ line.toList ∨ " <AR <PC".toList <:+ line.toList)) ↔
          index = address) ∧
      (∀ index : Fin capacity, (∃ line, rows[index.val]? = some line ∧
        " <PC".toList <:+ line.toList) ↔ index = counter) ∧
      (address ≠ counter →
        (∃ line, rows[address.val]? = some line ∧ IsMarked (row address) " <AR" line) ∧
        ∃ line, rows[counter.val]? = some line ∧ IsMarked (row counter) " <PC" line) ∧
      (address = counter →
        ∃ line, rows[address.val]? = some line ∧ IsMarked (row address) " <AR <PC" line) := by
  intro rows row
  have hcoherent := h.coherent (Machine.coherent_of_load hload)
  have haddress : machine.memory.address.toNat < capacity := by
    rw [← hcoherent.memory]
    exact Word.toNat_and_mask_lt _
  let address : Fin capacity := ⟨_, haddress⟩
  let counter : Fin capacity := ⟨_, hcoherent.inRange.programCounter⟩
  have hline := getElem?_shownRows style machine
  have hmarks : ∀ index, marksAt machine index =
      if index = address then if index = counter then " <AR <PC" else " <AR"
      else if index = counter then " <PC" else "" := by
    intro index
    simp only [Fin.ext_iff]
    exact marks_eq _ _ index
  refine ⟨address, counter, rfl, rfl, ?_, ?_, ?_, ?_, ?_, ?_⟩
  · rw [show rows = _ from shownRows_ofMachine style machine]
    unfold machineRows
    rw [List.length_mapIdx, Vector.length_toList]
    rfl
  · intro index hne hne'
    rw [hline, hmarks, if_neg hne, if_neg hne', markedRow_empty]
    rfl
  · intro index
    simp only [rows, hline, Option.some.injEq, exists_eq_left']
    rw [suffix_line_iff _ _ ⟨_, rfl⟩, suffix_line_iff _ _ ⟨_, rfl⟩, Fin.ext_iff]
    exact addressMark_suffix_iff _ _ index
  · intro index
    simp only [rows, hline, Option.some.injEq, exists_eq_left']
    rw [suffix_line_iff _ _ ⟨_, rfl⟩, Fin.ext_iff]
    exact counterMark_suffix_iff _ _ index
  · intro hne
    exact ⟨exists_isMarked style machine (by rw [hmarks, if_pos rfl, if_neg hne]) (by decide),
      exists_isMarked style machine (by rw [hmarks, if_neg hne.symm, if_pos rfl]) (by decide)⟩
  · intro heq
    exact exists_isMarked style machine (by rw [hmarks, if_pos rfl, if_pos heq]) (by decide)

/-- Both marks behind a row that is wider than their column, before the first tick, and
one of them in its column in the last row, when a reset was asked for behind two
ticks. -/
theorem marks_shownRows_wide :
    ∃ start machine, Machine.load [31] = .ok start ∧ machine = (start.after 2).reset ∧
      start.Reaches start ∧ start.Reaches machine ∧
      (∃ line, (shownRows .inColour (ofMachine .inColour start))[0]? = some line ∧
        IsMarked "  0   31  00011111  OPR CLR NOT INC ROL ROR" " <AR <PC" line) ∧
      ∃ line, (shownRows .inColour (ofMachine .inColour machine))[31]? = some line ∧
        IsMarked " 31    0  00000000  OPR" " <AR" line := by
  let start : Machine := { Machine.initial with memory := .ofImage [31] }
  have hload : Machine.load [31] = .ok start := rfl
  have hreset : start.Reaches (start.after 2).reset := (Machine.Reaches.refl.after 2).reset
  obtain ⟨address, counter, haddress, hcounter, -, -, -, -, -, hboth⟩ :=
    marks_shownRows hload .refl .inColour
  obtain ⟨address', counter', haddress', hcounter', -, -, -, -, hone, -⟩ :=
    marks_shownRows hload hreset .inColour
  obtain rfl : address = ⟨0, by decide⟩ := Fin.ext haddress
  obtain rfl : address' = ⟨31, by decide⟩ := Fin.ext (haddress'.trans (by decide +kernel))
  have hne : (⟨31, by decide⟩ : Fin capacity) ≠ counter' := by
    intro heq
    have hone : counter'.val = 1 := hcounter'.trans (by decide +kernel)
    rw [← heq] at hone
    exact absurd hone (by decide)
  have hfirst : shownRow .inColour start ⟨0, by decide⟩
      = "  0   31  00011111  OPR CLR NOT INC ROL ROR" := by decide +kernel
  have hlast : shownRow .inColour (start.after 2).reset ⟨31, by decide⟩
      = " 31    0  00000000  OPR" := by decide +kernel
  obtain ⟨line, hline, hmarked⟩ := hboth (Fin.ext hcounter).symm
  obtain ⟨⟨line', hline', hmarked'⟩, -⟩ := hone hne
  exact ⟨start, _, hload, rfl, .refl, hreset, ⟨line, hline, hfirst ▸ hmarked⟩,
    line', hline', hlast ▸ hmarked'⟩

end Listing

end AccumulatorMachine
