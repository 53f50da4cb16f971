import AccumulatorMachine.Proofs.Source.Marks
import Mathlib.Data.String.Basic

/-!
# A cursor that is a number of bytes

A `Cursor` holds the characters that are ahead of it, so that it cannot stand anywhere but
between two characters. A line with a number of bytes in it can: it is cut at this number
whenever a character is looked at or a word taken, and a line cannot be cut inside a
character or behind its end (`Text.cut?`).

`ByteCursor` works that way, one character after another, and has no answer where a line
cannot be cut. As long as a cursor lies in its line, all its operations are those of a
`Cursor` that holds the same place (`Cursor.nextLexeme_inBytes` and its companions), and
none of them leaves the line (`Cursor.Advances`). So there always is an answer.
-/

namespace AccumulatorMachine

namespace Text

/-- **A part of a line**, if the line can be cut where the part starts and where it stops. -/
def cut? (line : String) (start stop : Nat) : Option String :=
  if String.Pos.Raw.isValid line ⟨start⟩ && String.Pos.Raw.isValid line ⟨stop⟩ &&
      decide (start ≤ stop) then
    some (String.Pos.Raw.extract line ⟨start⟩ ⟨stop⟩)
  else none

/-- The length of a text in bytes is known to the library by another name. -/
theorem utf8Len_eq (text : List Char) : String.utf8Len text = byteLength text := by
  induction text with
  | nil => rfl
  | cons c text ih => rw [String.utf8Len_cons, ih, byteLength_cons, Nat.add_comm]

/-- **A line can be cut behind so many bytes** exactly if its first characters take them. -/
theorem isValid_iff {line : String} {index : Nat} :
    String.Pos.Raw.isValid line ⟨index⟩ = true ↔
      ∃ before behind, line.toList = before ++ behind ∧ byteLength before = index := by
  rw [String.Pos.Raw.isValid_eq_true_iff, String.Pos.Raw.isValid_iff_exists_append]
  constructor
  · rintro ⟨front, back, rfl, hindex⟩
    refine ⟨front.toList, back.toList, String.toList_append, ?_⟩
    rw [← utf8ByteSize_eq]
    exact (congrArg String.Pos.Raw.byteIdx hindex).symm
  · rintro ⟨before, behind, hline, rfl⟩
    refine ⟨String.ofList before, String.ofList behind, ?_, ?_⟩
    · rw [← String.ofList_append, ← hline, String.ofList_toList]
    · rw [String.rawEndPos, utf8ByteSize_eq, String.toList_ofList]

/-- **A part of a line stands in the line** where it is cut. -/
theorem cut?_eq_some_iff {line part : String} {start stop : Nat} :
    cut? line start stop = some part ↔
      ∃ before behind, line.toList = before ++ part.toList ++ behind ∧
        byteLength before = start ∧ start + byteLength part.toList = stop := by
  have hextract : ∀ {before behind middle : List Char},
      line.toList = before ++ middle ++ behind →
      String.Pos.Raw.extract line ⟨byteLength before⟩ ⟨byteLength before + byteLength middle⟩
        = String.ofList middle := by
    intro before behind middle hline
    rw [← @String.ofList_toList line, hline, ← utf8Len_eq, ← utf8Len_eq]
    exact String.extract_of_valid before middle behind
  unfold cut?
  simp only [Option.ite_none_right_eq_some, Option.some.injEq, Bool.and_eq_true, decide_eq_true_eq,
    isValid_iff]
  constructor
  · rintro ⟨⟨⟨⟨before, behind, hline, rfl⟩, front, back, hsame, rfl⟩, hle⟩, hpart⟩
    obtain ⟨middle, rfl, rfl⟩ := exists_append_of_byteLength_le (hline.symm.trans hsame) hle
    rw [byteLength_append, hextract hsame] at hpart
    subst hpart
    rw [String.toList_ofList]
    exact ⟨before, back, hsame, rfl, (byteLength_append _ _).symm⟩
  · rintro ⟨before, behind, hline, rfl, rfl⟩
    refine ⟨⟨⟨⟨before, part.toList ++ behind, by rw [hline, List.append_assoc], rfl⟩,
      before ++ part.toList, behind, hline, byteLength_append _ _⟩, Nat.le_add_right _ _⟩, ?_⟩
    rw [hextract hline, String.ofList_toList]

end Text

/-! ## The cursor and its operations -/

/-- A place in a line of source text, as a number of bytes. -/
structure ByteCursor where
  /-- The line. -/
  line : String
  /-- The bytes of the source before the line. -/
  base : Nat
  /-- The bytes of the line before the cursor. -/
  index : Nat
  deriving DecidableEq

namespace ByteCursor

/-- The cursor at the start of a line. -/
def ofLine (line : String) (base : Nat) : ByteCursor :=
  ⟨line, base, 0⟩

/-- The next character, if the line has one. -/
def first (cursor : ByteCursor) : Option (Option Char) :=
  (Text.cut? cursor.line cursor.index cursor.line.utf8ByteSize).map fun rest => rest.toList.head?

/-- The next character and the cursor past it. -/
def bump (cursor : ByteCursor) : Option (Option Char × ByteCursor) :=
  cursor.first.map fun found =>
    (found, { cursor with index := cursor.index + (found.map Char.utf8Size).getD 0 })

/-- The bytes of the line that are still ahead. -/
def ahead (cursor : ByteCursor) : Nat :=
  cursor.line.utf8ByteSize - cursor.index

/-- There are never more bytes ahead than there were. -/
theorem ahead_bump_le {cursor next : ByteCursor} {found : Option Char}
    (h : cursor.bump = some (found, next)) : next.ahead ≤ cursor.ahead := by
  obtain ⟨found, -, hnext⟩ := Option.map_eq_some_iff.mp h
  obtain ⟨rfl, rfl⟩ := Prod.mk.inj hnext
  exact Nat.sub_le_sub_left (Nat.le_add_right _ _) _

/-- Where a character is passed, fewer bytes are ahead. -/
theorem ahead_bump_lt {cursor next : ByteCursor} {c : Char}
    (h : cursor.bump = some (some c, next)) : next.ahead < cursor.ahead := by
  obtain ⟨found, hfirst, hnext⟩ := Option.map_eq_some_iff.mp h
  obtain ⟨rest, hcut, hhead⟩ := Option.map_eq_some_iff.mp hfirst
  obtain ⟨rfl, rfl⟩ := Prod.mk.inj hnext
  obtain ⟨-, -, -, -, hstop⟩ := Text.cut?_eq_some_iff.mp hcut
  obtain ⟨tail, htail⟩ := List.head?_eq_some_iff.mp hhead
  rw [htail, Text.byteLength_cons] at hstop
  have hpos := c.utf8Size_pos
  show cursor.line.utf8ByteSize - (cursor.index + c.utf8Size)
    < cursor.line.utf8ByteSize - cursor.index
  omega

/-- The cursor past all the characters in a row that are accepted. Whether one is may depend
on those that were seen before it. -/
def eatWhile (accepts : List Char → Char → Bool) (seen : List Char) (cursor : ByteCursor) :
    Option ByteCursor :=
  match found : cursor.bump with
  | none => none
  | some (none, _) => some cursor
  | some (some c, next) =>
    have := ahead_bump_lt found
    if accepts seen c then eatWhile accepts (seen ++ [c]) next else some cursor
termination_by cursor.ahead

/-- The cursor behind the mark that closes a text, and whether there is such a mark. -/
def close (cursor : ByteCursor) : Option (Bool × ByteCursor) :=
  match found : cursor.bump with
  | none => none
  | some (none, next) => some (false, next)
  | some (some c, next) =>
    have := ahead_bump_lt found
    if c = '\\' then
      match escaped : next.bump with
      | none => none
      | some (_, last) =>
        have := ahead_bump_le escaped
        last.close
    else if c = '"' then some (true, next)
    else next.close
termination_by cursor.ahead

/-- Eating goes on behind an accepted character. -/
theorem eatWhile_eq (accepts : List Char → Char → Bool) (seen : List Char)
    (cursor : ByteCursor) :
    cursor.eatWhile accepts seen =
      match cursor.bump with
      | none => none
      | some (none, _) => some cursor
      | some (some c, next) =>
        if accepts seen c then next.eatWhile accepts (seen ++ [c]) else some cursor := by
  rw [eatWhile]
  split
  · next found => rw [found]
  · next found => rw [found]
  · next found =>
    dsimp only
    rw [found]

/-- A text is closed at a mark or behind the character that comes next, or behind the two
that come next if the first one is a backslash. -/
theorem close_eq (cursor : ByteCursor) :
    cursor.close =
      match cursor.bump with
      | none => none
      | some (none, next) => some (false, next)
      | some (some c, next) =>
        if c = '\\' then next.bump.bind fun last => last.2.close
        else if c = '"' then some (true, next)
        else next.close := by
  rw [close]
  split
  · next found => rw [found]
  · next found => rw [found]
  · next found =>
    dsimp only
    rw [found]
    dsimp only
    split
    · split <;> next escaped => rw [escaped]; rfl
    · rfl

/-- What lies between a start and the cursor, in the source. -/
def spanFrom (cursor : ByteCursor) (start : Nat) : Option Span :=
  if start ≤ cursor.index then some ⟨cursor.base + start, cursor.index - start⟩ else none

/-- The word between a start and the cursor. -/
def wordFrom (cursor : ByteCursor) (start : Nat) :
    Option (Except Fault (Option Lexeme) × ByteCursor) := do
  let text ← Text.cut? cursor.line start cursor.index
  let span ← cursor.spanFrom start
  some (.ok (some ⟨text, span⟩), cursor)

/-- The next word of the line, or none at its end or at a comment, together with the cursor
that goes on from there. -/
def nextLexeme (cursor : ByteCursor) : Option (Except Fault (Option Lexeme) × ByteCursor) := do
  let start ← cursor.eatWhile (fun _ => isSeparator) []
  match ← start.first with
  | none => some (.ok none, start)
  | some c =>
    if c = ';' then some (.ok none, start)
    else if c = '"' then do
      let (_, opened) ← start.bump
      let (closed, stop) ← opened.close
      if closed then do
        let last ← stop.eatWhile (fun _ => continuesLexeme) []
        last.wordFrom start.index
      else do
        let span ← stop.spanFrom start.index
        some (.error (.unterminatedString span), stop)
    else do
      let last ← start.eatWhile (fun _ => continuesLexeme) []
      last.wordFrom start.index

end ByteCursor

/-! ## Moving on in a line -/

namespace Cursor

/-- **A cursor goes on to another** if characters are passed, and nothing else happens. -/
def Advances (cursor next : Cursor) : Prop :=
  ∃ passed, cursor.rest = passed ++ next.rest ∧
    next.offset = cursor.offset + Text.byteLength passed

/-- The cursor past all the characters in a row that are accepted, those that were seen
before them being known. -/
def eatWhileSeen (accepts : List Char → Char → Bool) : List Char → List Char → Nat → Cursor
  | _, [], offset => ⟨[], offset⟩
  | seen, c :: rest, offset =>
    if accepts seen c then eatWhileSeen accepts (seen ++ [c]) rest (offset + c.utf8Size)
    else ⟨c :: rest, offset⟩

/-- The cursor of the same place as a number of bytes. -/
def inBytes (line : String) (base : Nat) (cursor : Cursor) : ByteCursor :=
  ⟨line, base, cursor.offset - base⟩

/-- A test of single characters needs to know of no others. -/
theorem eatWhileSeen_eq (accepts : Char → Bool) (seen rest : List Char) (offset : Nat) :
    eatWhileSeen (fun _ => accepts) seen rest offset = eatWhile accepts ⟨rest, offset⟩ := by
  induction rest generalizing seen offset with
  | nil => rfl
  | cons c rest ih =>
    unfold eatWhileSeen
    split
    · next hc =>
      rw [ih]
      unfold eatWhile
      dsimp only
      rw [List.dropWhile_cons_of_pos hc, List.takeWhile_cons_of_pos hc, Text.byteLength_cons,
        Nat.add_assoc]
    · next hc =>
      unfold eatWhile
      dsimp only
      rw [List.dropWhile_cons_of_neg hc, List.takeWhile_cons_of_neg hc]
      rfl

namespace Advances

/-- A cursor goes on to itself. -/
theorem refl (cursor : Cursor) : cursor.Advances cursor :=
  ⟨[], rfl, rfl⟩

/-- What is passed one after the other is passed. -/
theorem trans {first second third : Cursor} (h : first.Advances second)
    (h' : second.Advances third) : first.Advances third := by
  obtain ⟨passed, hrest, hoffset⟩ := h
  obtain ⟨more, hrest', hoffset'⟩ := h'
  refine ⟨passed ++ more, by rw [hrest, hrest', List.append_assoc], ?_⟩
  rw [hoffset', hoffset, Text.byteLength_append, Nat.add_assoc]

/-- A cursor never goes back. -/
theorem offset_le {cursor next : Cursor} (h : cursor.Advances next) :
    cursor.offset ≤ next.offset := by
  obtain ⟨passed, -, hoffset⟩ := h
  exact hoffset ▸ Nat.le_add_right _ _

/-- The next character is passed. -/
theorem cons (c : Char) (rest : List Char) (offset : Nat) :
    Advances ⟨c :: rest, offset⟩ ⟨rest, offset + c.utf8Size⟩ :=
  ⟨[c], rfl, rfl⟩

/-- At most the next character is passed by looking at it. -/
theorem bump (cursor : Cursor) : cursor.Advances cursor.bump := by
  obtain ⟨_ | ⟨c, rest⟩, offset⟩ := cursor
  · exact refl _
  · exact cons c rest offset

/-- Characters that pass a test are passed. -/
theorem eatWhile (accepts : Char → Bool) (cursor : Cursor) :
    cursor.Advances (cursor.eatWhile accepts) :=
  ⟨_, List.takeWhile_append_dropWhile.symm, rfl⟩

/-- Characters that are accepted are passed. -/
theorem eatWhileSeen (accepts : List Char → Char → Bool) (seen rest : List Char) (offset : Nat) :
    Advances ⟨rest, offset⟩ (Cursor.eatWhileSeen accepts seen rest offset) := by
  induction rest generalizing seen offset with
  | nil => exact refl _
  | cons c rest ih =>
    unfold Cursor.eatWhileSeen
    split
    · exact (cons c rest offset).trans (ih _ _)
    · exact refl _

end Advances

/-! ## Both cursors do the same -/

/-- Separators are skipped before anything else happens. -/
theorem nextLexeme_eatWhile (cursor : Cursor) :
    cursor.nextLexeme = (cursor.eatWhile isSeparator).nextLexeme := by
  have hskip := nextLexeme_skipAll (List.all_eq_true.mp (List.all_takeWhile (l := cursor.rest)))
    (cursor.rest.dropWhile isSeparator) cursor.offset
  rwa [List.takeWhile_append_dropWhile] at hskip

/-- What is neither a comment nor in quotation marks is taken up to where it ends. -/
theorem nextLexeme_plain {c : Char} (hseparator : isSeparator c = false) (hcomment : c ≠ ';')
    (hquote : c ≠ '"') (rest : List Char) (offset : Nat) :
    nextLexeme ⟨c :: rest, offset⟩ =
      let taken := take ⟨c :: rest, offset⟩ ((c :: rest).takeWhile continuesLexeme)
        ((c :: rest).dropWhile continuesLexeme)
      (.ok (some taken.1), taken.2) := by
  unfold nextLexeme
  rw [eatWhile_eq_self hseparator]
  dsimp only
  split
  · next hnil => exact absurd hnil (List.cons_ne_nil _ _)
  · next hsemicolon => exact absurd (List.cons.inj hsemicolon).1 hcomment
  · next hmark => exact absurd (List.cons.inj hmark).1 hquote
  · rfl

/-- **A cursor lies in a line** that begins so many bytes into the source: it has come there
from the start of the line. -/
def LiesIn (line : String) (base : Nat) (cursor : Cursor) : Prop :=
  (ofLine line.toList base).Advances cursor

namespace LiesIn

variable {line : String} {base : Nat} {cursor : Cursor}

/-- A cursor does not lie before its line. -/
theorem base_le (h : cursor.LiesIn line base) : base ≤ cursor.offset :=
  Advances.offset_le h

/-- What is in front of a cursor and what is ahead of it are the line. -/
theorem size_eq (h : cursor.LiesIn line base) :
    line.utf8ByteSize = cursor.offset - base + Text.byteLength cursor.rest := by
  obtain ⟨before, hline, hoffset⟩ := h
  have hline : line.toList = before ++ cursor.rest := hline
  rw [hoffset, Text.utf8ByteSize_eq, hline, Text.byteLength_append]
  show _ = base + _ - base + _
  rw [Nat.add_sub_cancel_left]

/-- **What is ahead can be cut out of the line.** -/
theorem cut?_eq (h : cursor.LiesIn line base) {passed rest : List Char}
    (hrest : cursor.rest = passed ++ rest) :
    Text.cut? line (cursor.offset - base) (cursor.offset - base + Text.byteLength passed)
      = some (String.ofList passed) := by
  obtain ⟨before, hline, hoffset⟩ := h
  have hline : line.toList = before ++ cursor.rest := hline
  have hindex : cursor.offset - base = Text.byteLength before := by
    rw [hoffset]
    exact Nat.add_sub_cancel_left _ _
  refine Text.cut?_eq_some_iff.mpr ⟨before, rest, ?_, hindex.symm, ?_⟩
  · rw [hline, hrest, String.toList_ofList, List.append_assoc]
  · rw [String.toList_ofList]

/-- The next character is looked at. -/
theorem first_inBytes (h : cursor.LiesIn line base) :
    (cursor.inBytes line base).first = some cursor.first := by
  have hcut := h.cut?_eq (List.append_nil cursor.rest).symm
  unfold ByteCursor.first
  dsimp only [inBytes]
  rw [h.size_eq, hcut]
  show some (String.ofList cursor.rest).toList.head? = _
  rw [String.toList_ofList]
  rfl

/-- **The next character is passed.** -/
theorem bump_inBytes (h : cursor.LiesIn line base) :
    (cursor.inBytes line base).bump = some (cursor.first, cursor.bump.inBytes line base) := by
  have hbase := h.base_le
  unfold ByteCursor.bump
  rw [h.first_inBytes]
  obtain ⟨_ | ⟨c, rest⟩, offset⟩ := cursor
  · rfl
  · have hindex : offset + c.utf8Size - base = offset - base + c.utf8Size :=
      Nat.sub_add_comm hbase
    show some (some c, ByteCursor.mk line base (offset - base + c.utf8Size))
      = some (some c, ByteCursor.mk line base (offset + c.utf8Size - base))
    rw [hindex]

/-- **Characters that are accepted are passed.** -/
theorem eatWhile_inBytes (accepts : List Char → Char → Bool) (seen : List Char)
    {rest : List Char} {offset : Nat} (h : LiesIn line base ⟨rest, offset⟩) :
    (inBytes line base ⟨rest, offset⟩).eatWhile accepts seen
      = some ((eatWhileSeen accepts seen rest offset).inBytes line base) := by
  induction rest generalizing seen offset with
  | nil =>
    rw [ByteCursor.eatWhile_eq, h.bump_inBytes]
    rfl
  | cons c rest ih =>
    rw [ByteCursor.eatWhile_eq, h.bump_inBytes]
    show (if accepts seen c then
        (inBytes line base ⟨rest, offset + c.utf8Size⟩).eatWhile accepts (seen ++ [c])
      else some (inBytes line base ⟨c :: rest, offset⟩)) = _
    rw [ih _ (Advances.trans h (.cons c rest offset)), eatWhileSeen]
    split <;> rfl

/-- Characters that pass a test are passed. -/
theorem eatWhile_inBytes_single (accepts : Char → Bool) (h : cursor.LiesIn line base) :
    (cursor.inBytes line base).eatWhile (fun _ => accepts) []
      = some ((cursor.eatWhile accepts).inBytes line base) := by
  rw [← eatWhileSeen_eq accepts []]
  exact h.eatWhile_inBytes _ _

/-- **A text is closed** where it is split, and otherwise the end of the line is reached. -/
theorem close_inBytes {text : List Char} {offset : Nat} (h : LiesIn line base ⟨text, offset⟩) :
    (inBytes line base ⟨text, offset⟩).close =
      match splitAtClosingMark text with
      | none => some (false, inBytes line base ⟨[], offset + Text.byteLength text⟩)
      | some (inside, after) =>
        some (true, inBytes line base ⟨after, offset + Text.byteLength inside⟩) := by
  induction text using pairs_induction generalizing offset with
  | nil =>
    rw [ByteCursor.close_eq, h.bump_inBytes]
    rfl
  | lone =>
    have hend : LiesIn line base ⟨[], offset + '\\'.utf8Size⟩ := Advances.trans h (.cons _ _ _)
    rw [ByteCursor.close_eq, h.bump_inBytes]
    show ((inBytes line base ⟨[], offset + '\\'.utf8Size⟩).bump).bind _ = _
    rw [hend.bump_inBytes]
    show (inBytes line base ⟨[], offset + '\\'.utf8Size⟩).close = _
    rw [ByteCursor.close_eq, hend.bump_inBytes]
    rfl
  | pair c rest ih =>
    have hnext : LiesIn line base ⟨c :: rest, offset + '\\'.utf8Size⟩ :=
      Advances.trans h (.cons _ _ _)
    have hlast : LiesIn line base ⟨rest, offset + '\\'.utf8Size + c.utf8Size⟩ :=
      Advances.trans hnext (.cons _ _ _)
    rw [ByteCursor.close_eq, h.bump_inBytes]
    show ((inBytes line base ⟨c :: rest, offset + '\\'.utf8Size⟩).bump).bind _ = _
    rw [hnext.bump_inBytes]
    show (inBytes line base ⟨rest, offset + '\\'.utf8Size + c.utf8Size⟩).close = _
    rw [ih hlast, splitAtClosingMark]
    cases splitAtClosingMark rest with
    | none => simp only [Option.map_none, Text.byteLength_cons, Nat.add_assoc]
    | some parts => simp only [Option.map_some, Text.byteLength_cons, Nat.add_assoc]
  | plain c rest hbackslash ih =>
    have hnext : LiesIn line base ⟨rest, offset + c.utf8Size⟩ := Advances.trans h (.cons _ _ _)
    rw [ByteCursor.close_eq, h.bump_inBytes]
    show (if c = '\\' then _ else if c = '"' then
        some (true, inBytes line base ⟨rest, offset + c.utf8Size⟩)
      else (inBytes line base ⟨rest, offset + c.utf8Size⟩).close) = _
    rw [if_neg hbackslash]
    by_cases hquote : c = '"'
    · subst hquote
      rfl
    · rw [if_neg hquote, ih hnext, splitAtClosingMark_plain hquote hbackslash]
      cases splitAtClosingMark rest with
      | none => simp only [Option.map_none, Text.byteLength_cons, Nat.add_assoc]
      | some parts => simp only [Option.map_some, Text.byteLength_cons, Nat.add_assoc]

/-- What was passed is where it was. -/
theorem spanFrom_inBytes (h : cursor.LiesIn line base) (length : Nat) (rest : List Char) :
    (inBytes line base ⟨rest, cursor.offset + length⟩).spanFrom (cursor.offset - base)
      = some ⟨cursor.offset, length⟩ := by
  have hstart : base + (cursor.offset - base) = cursor.offset := Nat.add_sub_cancel' h.base_le
  have hstop : cursor.offset + length - base = cursor.offset - base + length :=
    Nat.sub_add_comm h.base_le
  unfold ByteCursor.spanFrom inBytes
  dsimp only
  rw [hstop, if_pos (Nat.le_add_right _ _), hstart, Nat.add_sub_cancel_left]

/-- **What was passed is a word** where it was. -/
theorem wordFrom_inBytes (h : cursor.LiesIn line base) {passed rest : List Char}
    (hrest : cursor.rest = passed ++ rest) :
    (inBytes line base ⟨rest, cursor.offset + Text.byteLength passed⟩).wordFrom
        (cursor.offset - base)
      = some (.ok (some (cursor.take passed rest).1),
        (cursor.take passed rest).2.inBytes line base) := by
  have hcut : Text.cut? line (cursor.offset - base)
      (cursor.offset + Text.byteLength passed - base) = some (String.ofList passed) := by
    rw [Nat.sub_add_comm h.base_le]
    exact h.cut?_eq hrest
  unfold ByteCursor.wordFrom
  rw [h.spanFrom_inBytes]
  show ((Text.cut? line (cursor.offset - base)
    (cursor.offset + Text.byteLength passed - base)).bind _) = _
  rw [hcut]
  rfl

/-- A word goes on up to where it ends. -/
theorem takeWord_inBytes {text : List Char} {offset : Nat} (h : LiesIn line base ⟨text, offset⟩) :
    ((inBytes line base ⟨text, offset⟩).eatWhile (fun _ => continuesLexeme) []).bind
        (fun last => last.wordFrom (offset - base)) =
      let taken := take ⟨text, offset⟩ (text.takeWhile continuesLexeme)
        (text.dropWhile continuesLexeme)
      some (.ok (some taken.1), taken.2.inBytes line base) := by
  rw [h.eatWhile_inBytes_single]
  exact h.wordFrom_inBytes List.takeWhile_append_dropWhile.symm

/-- A text in quotation marks goes on behind the mark that closes it, if there is one. -/
theorem takeQuoted_inBytes {quoted : List Char} {offset : Nat}
    (h : LiesIn line base ⟨'"' :: quoted, offset⟩) :
    ((inBytes line base ⟨quoted, offset + '"'.utf8Size⟩).close.bind fun closed =>
      if closed.1 then
        (closed.2.eatWhile (fun _ => continuesLexeme) []).bind fun last =>
          last.wordFrom (offset - base)
      else (closed.2.spanFrom (offset - base)).bind fun span =>
        some (.error (.unterminatedString span), closed.2)) =
      some ((nextLexeme ⟨'"' :: quoted, offset⟩).1,
        (nextLexeme ⟨'"' :: quoted, offset⟩).2.inBytes line base) := by
  have hopened : LiesIn line base ⟨quoted, offset + '"'.utf8Size⟩ := Advances.trans h (.cons _ _ _)
  rw [hopened.close_inBytes, nextLexeme_quote]
  cases hsplit : splitAtClosingMark quoted with
  | none =>
    have hspan := h.spanFrom_inBytes (Text.byteLength ('"' :: quoted)) []
    rw [Text.byteLength_cons, ← Nat.add_assoc] at hspan ⊢
    show ((inBytes line base ⟨[], offset + '"'.utf8Size + Text.byteLength quoted⟩).spanFrom
      (offset - base)).bind _ = _
    rw [hspan]
    rfl
  | some parts =>
    obtain ⟨inside, after⟩ := parts
    obtain ⟨hquoted, -⟩ := splitAtClosingMark_append hsplit
    have hclosed : LiesIn line base ⟨after, offset + '"'.utf8Size + Text.byteLength inside⟩ :=
      Advances.trans hopened ⟨inside, hquoted, rfl⟩
    have hahead : '"' :: quoted = ('"' :: inside ++ after.takeWhile continuesLexeme)
        ++ after.dropWhile continuesLexeme := by
      rw [hquoted, List.append_assoc, List.takeWhile_append_dropWhile]
      rfl
    have hword := h.wordFrom_inBytes hahead
    rw [Text.byteLength_append, Text.byteLength_cons, ← Nat.add_assoc, ← Nat.add_assoc] at hword
    show ((inBytes line base ⟨after, offset + '"'.utf8Size + Text.byteLength inside⟩).eatWhile
      (fun _ => continuesLexeme) []).bind _ = _
    rw [hclosed.eatWhile_inBytes_single]
    exact hword

/-- **The next word is found** where the characters that are ahead say. -/
theorem nextLexeme_inBytes (h : cursor.LiesIn line base) :
    (cursor.inBytes line base).nextLexeme
      = some (cursor.nextLexeme.1, cursor.nextLexeme.2.inBytes line base) := by
  have hstart : (cursor.eatWhile isSeparator).LiesIn line base := Advances.trans h (.eatWhile _ _)
  unfold ByteCursor.nextLexeme
  rw [h.eatWhile_inBytes_single, nextLexeme_eatWhile]
  -- nothing separates words at the cursor any more
  have hhead : ∀ c ∈ (cursor.eatWhile isSeparator).rest.head?, isSeparator c = false := by
    intro c hc
    obtain ⟨rest, hrest⟩ := List.head?_eq_some_iff.mp hc
    exact head_dropWhile_false hrest
  generalize cursor.eatWhile isSeparator = start at hstart hhead
  obtain ⟨_ | ⟨c, rest⟩, offset⟩ := start
  · show ((inBytes line base ⟨[], offset⟩).first).bind _ = _
    rw [hstart.first_inBytes]
    rfl
  · show ((inBytes line base ⟨c :: rest, offset⟩).first).bind _ = _
    rw [hstart.first_inBytes]
    show (if c = ';' then _
      else if c = '"' then ((inBytes line base ⟨c :: rest, offset⟩).bump).bind _
      else _) = _
    by_cases hcomment : c = ';'
    · subst hcomment
      rw [if_pos rfl, nextLexeme_comment]
    by_cases hquote : c = '"'
    · subst hquote
      rw [if_neg hcomment, if_pos rfl, hstart.bump_inBytes]
      exact hstart.takeQuoted_inBytes
    · rw [if_neg hcomment, if_neg hquote, nextLexeme_plain (hhead c rfl) hcomment hquote]
      exact hstart.takeWord_inBytes

end LiesIn

end Cursor

end AccumulatorMachine
