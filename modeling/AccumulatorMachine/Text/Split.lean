/-!
# Splitting text

A text is split at every occurrence of one character, which belongs to none of
the parts. There is always one part more than occurrences, so the parts, put
together again with the character between them, are the text.
-/

namespace AccumulatorMachine.Text

/-- The parts of a text between the occurrences of `separator`. -/
def splitOn (separator : Char) : List Char → List (List Char)
  | [] => [[]]
  | c :: rest =>
    match splitOn separator rest with
    | [] => [[c]]
    | part :: parts => if c = separator then [] :: part :: parts else (c :: part) :: parts

/-- The parts joined with `separator` between them. -/
def joinWith (separator : Char) : List (List Char) → List Char
  | [] => []
  | [part] => part
  | part :: parts => part ++ separator :: joinWith separator parts

/-- A text has at least one part. -/
theorem splitOn_ne_nil (separator : Char) (text : List Char) : splitOn separator text ≠ [] := by
  cases text with
  | nil => simp [splitOn]
  | cons c rest =>
    rw [splitOn]
    split
    · simp
    · split <;> simp

/-- Joining the parts of a text gives the text. -/
theorem joinWith_splitOn (separator : Char) (text : List Char) :
    joinWith separator (splitOn separator text) = text := by
  induction text with
  | nil => rfl
  | cons c rest ih =>
    rw [splitOn]
    split
    · next empty => exact absurd empty (splitOn_ne_nil separator rest)
    · next part parts parted =>
      rw [parted] at ih
      split
      · next equal => rw [joinWith, ih, List.nil_append, equal]; simp
      · cases parts with
        | nil => simpa [joinWith] using ih
        | cons second others => simpa [joinWith] using ih

end AccumulatorMachine.Text
