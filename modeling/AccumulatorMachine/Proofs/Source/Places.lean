import AccumulatorMachine.Proofs.Text.Split
import AccumulatorMachine.Source.Span

/-!
# Places in a source text

A span is two numbers of bytes, and says nothing by itself about the text that it
stands for. `Span.Marks` is what it should say: the source is cut in front of a
character and behind one, and between the cuts stands that text. In the bytes of
the source it is the bytes of the text (`Span.Marks.extract_toUTF8`).

Lines are where spans come from, so they are put in their places first: `EndsLine`
is for a text that runs to the end of its line, and `LinesAt` for the lines that a
source goes on with. A line that a source is split into begins behind all lines
before it and their line feeds, which `linesAt_splitOn` says of all of them.
-/

namespace AccumulatorMachine

namespace Text

/-! ## Characters -/

/-- **A character stands at a place** of a text if so many bytes come before it. -/
def StandsAt (text : List Char) (place : Nat) (c : Char) : Prop :=
  ∃ before behind, text = before ++ c :: behind ∧ byteLength before = place

/-- Texts in UTF-8 take as many bytes as their characters. -/
theorem size_utf8Encode (text : List Char) : text.utf8Encode.size = byteLength text := by
  induction text with
  | nil => rfl
  | cons c text ih =>
    rw [List.utf8Encode_cons, ByteArray.size_append, ih, byteLength_cons, List.utf8Encode_singleton,
      List.size_toByteArray, String.length_utf8EncodeChar]

/-- The size of a string is the number of bytes that its characters take. -/
theorem utf8ByteSize_eq (text : String) : text.utf8ByteSize = byteLength text.toList := by
  rw [← size_utf8Encode, String.utf8Encode_toList, String.utf8ByteSize]

/-- A text with a character takes bytes. -/
theorem byteLength_pos {text : List Char} (h : text ≠ []) : 0 < byteLength text := by
  obtain ⟨c, rest, rfl⟩ := List.exists_cons_of_ne_nil h
  exact Nat.add_pos_left c.utf8Size_pos _

/-- Of two fronts of one text, the longer one goes on where the shorter one ends. -/
theorem exists_append_of_byteLength_le {front back front' back' : List Char}
    (h : front ++ back = front' ++ back') (hle : byteLength front ≤ byteLength front') :
    ∃ rest, front' = front ++ rest ∧ back = rest ++ back' := by
  rcases List.append_eq_append_iff.mp h with ⟨rest, hfront, hback⟩ | ⟨rest, hfront, hback⟩
  · exact ⟨rest, hfront, hback⟩
  · cases rest with
    | nil =>
      rw [List.append_nil] at hfront
      exact ⟨[], by rw [List.append_nil, hfront], hback.symm⟩
    | cons c rest =>
      have hpos := byteLength_pos (List.cons_ne_nil c rest)
      rw [hfront, byteLength_append] at hle
      exact absurd hle (Nat.not_le.mpr (Nat.lt_add_of_pos_right hpos))

/-- Of two fronts of one text that take as many bytes, both are the same. -/
theorem append_inj_of_byteLength_eq {front back front' back' : List Char}
    (h : front ++ back = front' ++ back') (hlength : byteLength front = byteLength front') :
    front = front' ∧ back = back' := by
  obtain ⟨rest, rfl, rfl⟩ := exists_append_of_byteLength_le h (Nat.le_of_eq hlength)
  cases rest with
  | nil => exact ⟨(List.append_nil front).symm, rfl⟩
  | cons c rest =>
    have hpos := byteLength_pos (List.cons_ne_nil c rest)
    rw [byteLength_append] at hlength
    exact absurd hlength (Nat.ne_of_lt (Nat.lt_add_of_pos_right hpos))

/-- **One character stands at a place.** -/
theorem StandsAt.eq {text : List Char} {place : Nat} {c d : Char} (h : StandsAt text place c)
    (hother : StandsAt text place d) : c = d := by
  obtain ⟨before, behind, rfl, rfl⟩ := h
  obtain ⟨before', behind', heq, hplace⟩ := hother
  exact (List.cons.inj (append_inj_of_byteLength_eq heq hplace.symm).2).1

/-- No character stands at the end of a text. -/
theorem StandsAt.lt_byteLength {text : List Char} {place : Nat} {c : Char}
    (h : StandsAt text place c) : place < byteLength text := by
  obtain ⟨before, behind, rfl, rfl⟩ := h
  rw [byteLength_append]
  exact Nat.lt_add_of_pos_right (byteLength_pos (List.cons_ne_nil c behind))

/-- A character that stands somewhere in a text is in it. -/
theorem StandsAt.mem {text : List Char} {place : Nat} {c : Char} (h : StandsAt text place c) :
    c ∈ text := by
  obtain ⟨before, behind, rfl, -⟩ := h
  exact List.mem_append_right before List.mem_cons_self

/-- A character of a text stands in its first part or in its second. -/
theorem standsAt_append_iff {front back : List Char} {place : Nat} {c : Char} :
    StandsAt (front ++ back) place c ↔
      StandsAt front place c ∨
        ∃ rest, place = byteLength front + rest ∧ StandsAt back rest c := by
  constructor
  · rintro ⟨before, behind, heq, rfl⟩
    rcases List.append_eq_append_iff.mp heq with ⟨inner, rfl, hback⟩ | ⟨inner, rfl, hbehind⟩
    · exact Or.inr ⟨byteLength inner, byteLength_append _ _, inner, behind, hback, rfl⟩
    · cases inner with
      | nil =>
        rw [List.append_nil]
        exact Or.inr ⟨0, (Nat.add_zero _).symm, [], behind, hbehind.symm, rfl⟩
      | cons d inner =>
        obtain ⟨rfl, rfl⟩ := List.cons.inj hbehind
        exact Or.inl ⟨before, inner, rfl, rfl⟩
  · rintro (⟨before, behind, rfl, rfl⟩ | ⟨rest, rfl, before, behind, rfl, rfl⟩)
    · exact ⟨before, behind ++ back, by rw [List.append_assoc]; rfl, rfl⟩
    · exact ⟨front ++ before, behind, (List.append_assoc _ _ _).symm, byteLength_append _ _⟩

/-- What stands before the end of the first part stands in it. -/
theorem StandsAt.of_lt {front back : List Char} {place : Nat} {c : Char}
    (h : StandsAt (front ++ back) place c) (hlt : place < byteLength front) :
    StandsAt front place c := by
  rcases standsAt_append_iff.mp h with hfront | ⟨rest, rfl, -⟩
  · exact hfront
  · exact absurd hlt (Nat.not_lt.mpr (Nat.le_add_right _ _))

/-- What stands behind the first part stands in the second. -/
theorem StandsAt.of_add {front back : List Char} {place : Nat} {c : Char}
    (h : StandsAt (front ++ back) (byteLength front + place) c) : StandsAt back place c := by
  rcases standsAt_append_iff.mp h with hfront | ⟨rest, hrest, hback⟩
  · exact absurd hfront.lt_byteLength (Nat.not_lt.mpr (Nat.le_add_right _ _))
  · exact Nat.add_left_cancel hrest ▸ hback

end Text

/-! ## Texts -/

/-- A span covers the places from its start on and before its end. -/
def Span.Covers (span : Span) (place : Nat) : Prop :=
  span.start ≤ place ∧ place < span.stop

/-- **A span marks a text** of a source if it begins and ends where the text
does. -/
def Span.Marks (span : Span) (source text : List Char) : Prop :=
  ∃ before behind, source = before ++ text ++ behind ∧ Text.byteLength before = span.start ∧
    Text.byteLength text = span.length

/-- A span that marks a text lies inside the source. -/
theorem Span.Marks.stop_le {span : Span} {source text : List Char} (h : span.Marks source text) :
    span.stop ≤ Text.byteLength source := by
  obtain ⟨before, behind, rfl, hstart, hlength⟩ := h
  rw [Text.byteLength_append, Text.byteLength_append, hstart, hlength]
  exact Nat.le_add_right _ _

/-- **A span marks one text** of a source. -/
theorem Span.Marks.eq {span : Span} {source text other : List Char} (h : span.Marks source text)
    (hother : span.Marks source other) : text = other := by
  obtain ⟨before, behind, hsource, hstart, hlength⟩ := h
  obtain ⟨before', behind', hsource', hstart', hlength'⟩ := hother
  rw [hsource, List.append_assoc, List.append_assoc] at hsource'
  obtain ⟨-, hrest⟩ := Text.append_inj_of_byteLength_eq hsource' (hstart.trans hstart'.symm)
  exact (Text.append_inj_of_byteLength_eq hrest (hlength.trans hlength'.symm)).1

/-- Right behind a text of a source there is no text. -/
theorem Span.Marks.after {span : Span} {source text : List Char} (h : span.Marks source text) :
    span.after.Marks source [] := by
  obtain ⟨before, behind, hsource, hstart, hlength⟩ := h
  refine ⟨before ++ text, behind, by rw [List.append_nil]; exact hsource, ?_, rfl⟩
  rw [Text.byteLength_append, hstart, hlength]
  rfl

/-- **The bytes under a span** are those of the text that it marks. -/
theorem Span.Marks.extract_toUTF8 {span : Span} {source text : String}
    (h : span.Marks source.toList text.toList) :
    source.toUTF8.extract span.start span.stop = text.toUTF8 := by
  obtain ⟨before, behind, hsource, hstart, hlength⟩ := h
  have hbytes : source.toUTF8
      = before.utf8Encode ++ (text.toUTF8 ++ behind.utf8Encode) := by
    rw [String.toUTF8_eq_toByteArray, String.toUTF8_eq_toByteArray, ← String.utf8Encode_toList,
      ← String.utf8Encode_toList, hsource, List.append_assoc, List.utf8Encode_append,
      List.utf8Encode_append]
  have hbefore : span.start = before.utf8Encode.size := by rw [Text.size_utf8Encode, hstart]
  have htext : span.length = text.toUTF8.size := by
    rw [String.toUTF8_eq_toByteArray, ← String.utf8Encode_toList, Text.size_utf8Encode, hlength]
  rw [hbytes, Span.stop, hbefore, htext, ← Nat.add_zero before.utf8Encode.size, Nat.add_assoc,
    ByteArray.extract_append_size_add, Nat.zero_add, ByteArray.extract_append_eq_left rfl]

/-- **A span marks a text that ends its line**: there is no line feed in the text,
and behind it the source ends or goes on with one. -/
def EndsLine (source : List Char) (span : Span) (text : List Char) : Prop :=
  ∃ before behind, source = before ++ text ++ behind ∧ Text.byteLength before = span.start ∧
    Text.byteLength text = span.length ∧ '\n' ∉ text ∧ ∀ c ∈ behind.head?, c = '\n'

namespace EndsLine

variable {source text : List Char} {span : Span}

/-- The end of a line is a text of the source. -/
theorem marks (h : EndsLine source span text) : span.Marks source text := by
  obtain ⟨before, behind, hsource, hstart, hlength, -, -⟩ := h
  exact ⟨before, behind, hsource, hstart, hlength⟩

/-- What ends a text that ends a line ends this line. -/
theorem suffix {front back : List Char} (h : EndsLine source span (front ++ back)) :
    EndsLine source ⟨span.start + Text.byteLength front, Text.byteLength back⟩ back := by
  obtain ⟨before, behind, hsource, hstart, -, hfeed, hbehind⟩ := h
  refine ⟨before ++ front, behind, by simpa using hsource, ?_, rfl, ?_, hbehind⟩
  · rw [Text.byteLength_append, hstart]
  · exact fun hmem => hfeed (List.mem_append_right front hmem)

/-- The end of a line goes on behind its first character. -/
theorem tail {c : Char} {offset : Nat}
    (h : EndsLine source ⟨offset, Text.byteLength (c :: text)⟩ (c :: text)) :
    EndsLine source ⟨offset + c.utf8Size, Text.byteLength text⟩ text := by
  have hall : EndsLine source ⟨offset, Text.byteLength (c :: text)⟩ ([c] ++ text) := h
  exact hall.suffix

/-- What begins a text of a source is a text of the source. -/
theorem marks_front {front back : List Char} (h : EndsLine source span (front ++ back)) :
    Span.Marks ⟨span.start, Text.byteLength front⟩ source front := by
  obtain ⟨before, behind, hsource, hstart, -, -, -⟩ := h
  exact ⟨before, back ++ behind, by simpa using hsource, hstart, rfl⟩

/-- A character under the span stands in the text. -/
theorem standsAt (h : EndsLine source span text) {place : Nat} {c : Char}
    (hc : Text.StandsAt source place c) (hcovers : span.Covers place) :
    ∃ rest, place = span.start + rest ∧ Text.StandsAt text rest c := by
  obtain ⟨before, behind, rfl, hstart, hlength, -, -⟩ := h
  have hstop : place < Text.byteLength (before ++ text) := by
    rw [Text.byteLength_append, hstart, hlength]
    exact hcovers.2
  rcases Text.standsAt_append_iff.mp (hc.of_lt hstop) with hbefore | ⟨rest, hplace, htext⟩
  · exact absurd hbefore.lt_byteLength (Nat.not_lt.mpr (hstart ▸ hcovers.1))
  · exact ⟨rest, hstart ▸ hplace, htext⟩

/-- No line feed stands under the span. -/
theorem not_feed (h : EndsLine source span text) {place : Nat} (hcovers : span.Covers place) :
    ¬ Text.StandsAt source place '\n' := by
  intro hfeed
  obtain ⟨rest, -, htext⟩ := h.standsAt hfeed hcovers
  obtain ⟨-, -, -, -, -, hnone, -⟩ := h
  exact hnone htext.mem

/-- **Behind the end of a line** there is nothing but a line feed. -/
theorem eq_feed (h : EndsLine source span text) {c : Char}
    (hc : Text.StandsAt source span.stop c) : c = '\n' := by
  obtain ⟨before, behind, rfl, hstart, hlength, -, hbehind⟩ := h
  have hstop : span.stop = Text.byteLength (before ++ text) := by
    rw [Text.byteLength_append, hstart, hlength]
    rfl
  rcases Text.standsAt_append_iff.mp hc with hfront | ⟨rest, hrest, hback⟩
  · exact absurd hfront.lt_byteLength (Nat.not_lt.mpr (Nat.le_of_eq hstop.symm))
  · obtain ⟨inner, others, rfl, hinner⟩ := hback
    have hzero : Text.byteLength inner = 0 := by omega
    cases inner with
    | nil => exact hbehind c rfl
    | cons d inner => exact absurd hzero (Nat.ne_of_gt (Text.byteLength_pos (List.cons_ne_nil _ _)))

/-- **There is a line feed** behind the end of a line, if there is anything. -/
theorem standsAt_feed (h : EndsLine source span text)
    (hlt : span.stop < Text.byteLength source) : Text.StandsAt source span.stop '\n' := by
  obtain ⟨before, behind, rfl, hstart, hlength, -, hbehind⟩ := h
  have hstop : Text.byteLength (before ++ text) = span.stop := by
    rw [Text.byteLength_append, hstart, hlength]
    rfl
  cases behind with
  | nil => rw [List.append_nil, hstop] at hlt; exact absurd hlt (Nat.lt_irrefl _)
  | cons c behind => exact ⟨before ++ text, behind, by rw [hbehind c rfl], hstop⟩

end EndsLine

/-! ## Lines -/

/-- **The lines that a source goes on with** from an offset: each ends where a line
does, and the next one begins behind the line feed. Behind the last one there is
nothing. -/
inductive LinesAt (source : List Char) : Nat → List (List Char) → Prop
  /-- There is nothing any more. -/
  | nil {offset : Nat} (hend : Text.byteLength source < offset) : LinesAt source offset []
  /-- There is a line and what comes behind it. -/
  | cons {line : List Char} {lines : List (List Char)} {offset : Nat}
    (hline : EndsLine source ⟨offset, Text.byteLength line⟩ line)
    (hlines : LinesAt source (offset + Text.byteLength line + 1) lines) :
    LinesAt source offset (line :: lines)

/-- Lines joined by line feeds are the lines that a source goes on with. -/
theorem linesAt_joinWith {source before : List Char} {lines : List (List Char)} (hne : lines ≠ [])
    (hnone : ∀ line ∈ lines, '\n' ∉ line)
    (hsource : source = before ++ Text.joinWith '\n' lines) :
    LinesAt source (Text.byteLength before) lines := by
  induction lines generalizing before with
  | nil => exact absurd rfl hne
  | cons line lines ih =>
    rw [List.forall_mem_cons] at hnone
    cases lines with
    | nil =>
      refine .cons ⟨before, [], by rw [List.append_nil]; exact hsource, rfl, rfl, hnone.1,
        fun c hc => absurd hc (by simp)⟩ (.nil ?_)
      rw [hsource, Text.joinWith, Text.byteLength_append]
      exact Nat.lt_succ_self _
    | cons second others =>
      have hline : source = before ++ line ++ '\n' :: Text.joinWith '\n' (second :: others) := by
        rw [hsource, Text.joinWith, List.append_assoc]
        exact fun h => absurd h (List.cons_ne_nil second others)
      have hnext : Text.byteLength (before ++ line ++ ['\n'])
          = Text.byteLength before + Text.byteLength line + 1 := by
        rw [Text.byteLength_append, Text.byteLength_append]
        rfl
      refine .cons ⟨before, _, hline, rfl, rfl, hnone.1, fun c hc => (Option.some.inj hc).symm⟩ ?_
      rw [← hnext]
      exact ih (List.cons_ne_nil second others) hnone.2 (by rw [hline]; simp)

/-- **The lines of a source are where they should be.** -/
theorem linesAt_splitOn (source : List Char) : LinesAt source 0 (Text.splitOn '\n' source) := by
  obtain ⟨hne, hnone, hjoin⟩ := Text.splitOn_eq_iff.mp (rfl : Text.splitOn '\n' source = _)
  show LinesAt source (Text.byteLength []) _
  exact linesAt_joinWith hne hnone hjoin.symm

end AccumulatorMachine
