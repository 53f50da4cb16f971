import AccumulatorMachine.Source.Fault

/-!
# Cutting a line into lexemes

A lexeme is a stretch of a line between separators. A `Cursor` stands in a
line: it holds the characters still ahead and its offset in the source.
`Cursor.nextLexeme` skips separators and takes the next lexeme. A quotation
mark at the start of a lexeme carries it past separators to the closing mark,
and whatever is glued to the closing mark stays part of the lexeme. A semicolon
outside quotation marks ends the line.

`Cursor.nextLexeme_shorter` says that taking a lexeme uses up characters, so
that a line is cut up in finitely many steps.
-/

namespace AccumulatorMachine

/-- Whether a character separates lexemes. -/
def isSeparator (c : Char) : Bool :=
  c == ' ' || c == '\t' || c == '\r'

/-- Whether a character goes on with a lexeme outside quotation marks. -/
def continuesLexeme (c : Char) : Bool :=
  !isSeparator c && c != ';'

/-- A stretch of a line between separators. -/
structure Lexeme where
  /-- The characters of the stretch. -/
  text : String
  /-- The place of the stretch. -/
  span : Span
  deriving DecidableEq

/-- Splits the text behind an opening quotation mark right behind the mark that
closes it. A backslash takes the character after it along, so that an escaped
mark closes nothing. The answer is `none` if the text is never closed. -/
def splitAtClosingMark : List Char → Option (List Char × List Char)
  | [] => none
  | '"' :: rest => some (['"'], rest)
  | '\\' :: c :: rest =>
    (splitAtClosingMark rest).map fun parts => ('\\' :: c :: parts.1, parts.2)
  | ['\\'] => none
  | c :: rest => (splitAtClosingMark rest).map fun parts => (c :: parts.1, parts.2)

/-- The two parts together are the text that was split, and the first is not empty. -/
theorem splitAtClosingMark_append {text inside after : List Char}
    (split : splitAtClosingMark text = some (inside, after)) :
    text = inside ++ after ∧ inside ≠ [] := by
  fun_induction splitAtClosingMark text generalizing inside after with
  | case1 => simp at split
  | case2 rest =>
    simp only [Option.some.injEq, Prod.mk.injEq] at split
    simp [← split.1, ← split.2]
  | case3 c rest ih =>
    obtain ⟨parts, inner, equal⟩ := Option.map_eq_some_iff.1 split
    simp only [Prod.mk.injEq] at equal
    simp [← equal.1, ← equal.2, ← (@ih parts.1 parts.2 inner).1]
  | case4 => simp at split
  | case5 c rest _ _ _ ih =>
    obtain ⟨parts, inner, equal⟩ := Option.map_eq_some_iff.1 split
    simp only [Prod.mk.injEq] at equal
    simp [← equal.1, ← equal.2, ← (@ih parts.1 parts.2 inner).1]

/-- A place in a line of source text. -/
structure Cursor where
  /-- The characters of the line that are still ahead. -/
  rest : List Char
  /-- The bytes of the source before those characters. -/
  offset : Nat
  deriving DecidableEq

namespace Cursor

/-- The cursor at the start of a line that begins `offset` bytes into the source. -/
def ofLine (line : List Char) (offset : Nat) : Cursor :=
  ⟨line, offset⟩

/-- The next character, if the line has one. -/
def first (cursor : Cursor) : Option Char :=
  cursor.rest.head?

/-- The cursor past the next character. -/
def bump (cursor : Cursor) : Cursor :=
  match cursor.rest with
  | [] => cursor
  | c :: rest => ⟨rest, cursor.offset + c.utf8Size⟩

/-- The cursor past all the characters in a row that satisfy `accepts`. -/
def eatWhile (accepts : Char → Bool) (cursor : Cursor) : Cursor :=
  ⟨cursor.rest.dropWhile accepts,
    cursor.offset + Text.byteLength (cursor.rest.takeWhile accepts)⟩

/-- The lexeme made of `text`, which lies ahead of the cursor, and the cursor behind it. -/
def take (cursor : Cursor) (text rest : List Char) : Lexeme × Cursor :=
  (⟨String.ofList text, ⟨cursor.offset, Text.byteLength text⟩⟩,
    ⟨rest, cursor.offset + Text.byteLength text⟩)

/-- The next lexeme of the line, or `none` at its end or at a comment, together
with the cursor that goes on from there. -/
def nextLexeme (cursor : Cursor) : Except Fault (Option Lexeme) × Cursor :=
  let start := cursor.eatWhile isSeparator
  match start.rest with
  | [] => (.ok none, start)
  | ';' :: _ => (.ok none, start)
  | '"' :: quoted =>
    match splitAtClosingMark quoted with
    | none =>
      let length := Text.byteLength start.rest
      (.error (.unterminatedString ⟨start.offset, length⟩), ⟨[], start.offset + length⟩)
    | some (inside, after) =>
      let taken := start.take ('"' :: inside ++ after.takeWhile continuesLexeme)
        (after.dropWhile continuesLexeme)
      (.ok (some taken.1), taken.2)
  | ahead =>
    let taken := start.take (ahead.takeWhile continuesLexeme) (ahead.dropWhile continuesLexeme)
    (.ok (some taken.1), taken.2)

/-- Dropping characters from the front leaves no more of them. -/
theorem length_dropWhile_le {α : Type} (p : α → Bool) (l : List α) :
    (l.dropWhile p).length ≤ l.length :=
  (List.dropWhile_suffix p).length_le

/-- The character where dropping stopped fails the test. -/
theorem head_dropWhile_false {α : Type} {p : α → Bool} {l rest : List α} {a : α}
    (dropped : l.dropWhile p = a :: rest) : p a = false := by
  induction l with
  | nil => simp at dropped
  | cons b l ih =>
    rw [List.dropWhile_cons] at dropped
    split at dropped
    · exact ih dropped
    · next fails => simp_all

/-- Taking a lexeme leaves fewer characters ahead. -/
theorem nextLexeme_shorter {cursor next : Cursor} {lexeme : Lexeme}
    (found : cursor.nextLexeme = (.ok (some lexeme), next)) :
    next.rest.length < cursor.rest.length := by
  have skipped : (cursor.eatWhile isSeparator).rest.length ≤ cursor.rest.length :=
    length_dropWhile_le _ _
  revert found
  unfold nextLexeme
  simp only
  split
  · simp
  · simp
  · next quoted ahead =>
    split
    · simp
    · next inside after split =>
      intro found
      have parts := (splitAtClosingMark_append split).1
      have next_eq : next.rest = after.dropWhile continuesLexeme := by
        simp only [take, Prod.mk.injEq] at found
        rw [← found.2]
      have shorter := length_dropWhile_le continuesLexeme after
      rw [ahead, List.length_cons, parts, List.length_append] at skipped
      rw [next_eq]
      omega
  · next empty comment quoted =>
    intro found
    have next_eq : next.rest =
        (cursor.eatWhile isSeparator).rest.dropWhile continuesLexeme := by
      simp only [take, Prod.mk.injEq] at found
      rw [← found.2]
    match ahead : (cursor.eatWhile isSeparator).rest with
    | [] => exact absurd ahead empty
    | c :: rest =>
      have separates : isSeparator c = false := head_dropWhile_false ahead
      have continues : continuesLexeme c = true := by
        have noComment : c ≠ ';' := fun equal => comment rest (equal ▸ ahead)
        simp [continuesLexeme, separates, noComment]
      have shorter := length_dropWhile_le continuesLexeme rest
      rw [next_eq, ahead, List.dropWhile_cons_of_pos continues]
      rw [ahead, List.length_cons] at skipped
      omega

end Cursor

end AccumulatorMachine
