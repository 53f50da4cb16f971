import AccumulatorMachine.Text.Split

/-!
# The parts of a text

The parts that a text is split into are determined by two facts: joined again
they are the text, and the character at which it was split is in none of them.
`splitOn_eq_iff` says so, and lets a text be read as its lines.
-/

namespace AccumulatorMachine.Text

/-- A separator ends an empty part. -/
theorem splitOn_cons_separator (separator : Char) (text : List Char) :
    splitOn separator (separator :: text) = [] :: splitOn separator text := by
  rw [splitOn]
  split
  · next hempty => exact absurd hempty (splitOn_ne_nil separator text)
  · next part parts hparts => rw [if_pos rfl, hparts]

/-- Any other character belongs to the first part. -/
theorem splitOn_cons_of_ne {separator c : Char} (h : c ≠ separator) {text part : List Char}
    {parts : List (List Char)} (hparts : splitOn separator text = part :: parts) :
    splitOn separator (c :: text) = (c :: part) :: parts := by
  rw [splitOn, hparts]
  exact if_neg h

/-- **A separator divides the parts** in front of it from those behind it. -/
theorem splitOn_append (separator : Char) (front back : List Char) :
    splitOn separator (front ++ separator :: back)
      = splitOn separator front ++ splitOn separator back := by
  induction front with
  | nil => exact splitOn_cons_separator separator back
  | cons c front ih =>
    by_cases hc : c = separator
    · subst hc
      rw [List.cons_append, splitOn_cons_separator, splitOn_cons_separator, ih, List.cons_append]
    · obtain ⟨part, parts, hparts⟩ :=
        List.exists_cons_of_ne_nil (splitOn_ne_nil separator front)
      rw [hparts, List.cons_append] at ih
      rw [List.cons_append, splitOn_cons_of_ne hc ih, splitOn_cons_of_ne hc hparts,
        List.cons_append]

/-- A text without the separator is its only part. -/
theorem splitOn_of_notMem {separator : Char} {text : List Char} (h : separator ∉ text) :
    splitOn separator text = [text] := by
  induction text with
  | nil => rfl
  | cons c text ih =>
    rw [List.mem_cons, not_or] at h
    exact splitOn_cons_of_ne (Ne.symm h.1) (ih h.2)

/-- A part without the separator is split off at the first one. -/
theorem splitOn_append_separator {separator : Char} {part : List Char} (h : separator ∉ part)
    (text : List Char) :
    splitOn separator (part ++ separator :: text) = part :: splitOn separator text := by
  rw [splitOn_append, splitOn_of_notMem h, List.singleton_append]

/-- **Parts are got back** from what they are joined to. -/
theorem splitOn_joinWith {separator : Char} {parts : List (List Char)} (hne : parts ≠ [])
    (h : ∀ part ∈ parts, separator ∉ part) :
    splitOn separator (joinWith separator parts) = parts := by
  induction parts with
  | nil => exact absurd rfl hne
  | cons part parts ih =>
    have hpart : separator ∉ part := h part List.mem_cons_self
    have hrest : ∀ other ∈ parts, separator ∉ other :=
      fun other hother => h other (List.mem_cons_of_mem part hother)
    cases parts with
    | nil => exact splitOn_of_notMem hpart
    | cons second others =>
      rw [joinWith, splitOn_append_separator hpart, ih (List.cons_ne_nil second others) hrest]
      exact fun hnil => absurd hnil (List.cons_ne_nil second others)

/-- The separator is in no part. -/
theorem separator_notMem_of_mem_splitOn {separator : Char} {text part : List Char}
    (h : part ∈ splitOn separator text) : separator ∉ part := by
  induction text generalizing part with
  | nil =>
    obtain rfl := List.mem_singleton.mp h
    exact List.not_mem_nil
  | cons c text ih =>
    obtain ⟨first, rest, hparts⟩ := List.exists_cons_of_ne_nil (splitOn_ne_nil separator text)
    by_cases hc : c = separator
    · subst hc
      rw [splitOn_cons_separator] at h
      rcases List.mem_cons.mp h with rfl | hrest
      · exact List.not_mem_nil
      · exact ih hrest
    · rw [splitOn_cons_of_ne hc hparts] at h
      rw [hparts] at ih
      rcases List.mem_cons.mp h with rfl | hrest
      · rw [List.mem_cons, not_or]
        exact ⟨Ne.symm hc, ih List.mem_cons_self⟩
      · exact ih (List.mem_cons_of_mem first hrest)

/-- **The parts of a text** are those that it is joined from, with the separator
in none of them. -/
theorem splitOn_eq_iff {separator : Char} {text : List Char} {parts : List (List Char)} :
    splitOn separator text = parts ↔
      parts ≠ [] ∧ (∀ part ∈ parts, separator ∉ part) ∧ joinWith separator parts = text := by
  constructor
  · rintro rfl
    exact ⟨splitOn_ne_nil separator text, fun part => separator_notMem_of_mem_splitOn,
      joinWith_splitOn separator text⟩
  · rintro ⟨hne, hnone, rfl⟩
    exact splitOn_joinWith hne hnone

/-- **The last part** stands behind the others, each with a separator behind it. -/
theorem joinWith_concat (separator : Char) (parts : List (List Char)) (last : List Char) :
    joinWith separator (parts ++ [last]) = parts.flatMap (· ++ [separator]) ++ last := by
  induction parts with
  | nil => rfl
  | cons part parts ih =>
    have hjoin : joinWith separator (part :: (parts ++ [last]))
        = part ++ separator :: joinWith separator (parts ++ [last]) := by
      rw [joinWith]
      exact fun hnil => absurd hnil (List.concat_ne_nil last parts)
    rw [List.cons_append, hjoin, ih, List.flatMap_cons, List.append_assoc, List.append_assoc]
    rfl

/-- A text has parts in front of its last one and the last one. -/
theorem exists_splitOn_eq_concat (separator : Char) (text : List Char) :
    ∃ parts last, splitOn separator text = parts ++ [last] :=
  ⟨_, _, (List.dropLast_concat_getLast (splitOn_ne_nil separator text)).symm⟩

/-- **The parts of a text, the last one by itself.** -/
theorem splitOn_eq_concat_iff {separator : Char} {text last : List Char}
    {parts : List (List Char)} :
    splitOn separator text = parts ++ [last] ↔
      (∀ part ∈ parts, separator ∉ part) ∧ separator ∉ last ∧
        parts.flatMap (· ++ [separator]) ++ last = text := by
  rw [splitOn_eq_iff, List.forall_mem_append, List.forall_mem_singleton, joinWith_concat,
    and_iff_right (List.concat_ne_nil last parts), and_assoc]

/-- **The last separator** splits off the last part. -/
theorem splitOn_append_cons {separator : Char} {last : List Char} (h : separator ∉ last)
    (text : List Char) :
    splitOn separator (text ++ separator :: last) = splitOn separator text ++ [last] := by
  rw [splitOn_append, splitOn_of_notMem h]

/-- Strings joined by one character have their characters joined by it. -/
theorem toList_intercalate (separator : Char) (parts : List String) :
    ((String.singleton separator).intercalate parts).toList
      = joinWith separator (parts.map String.toList) := by
  rw [String.toList_intercalate, String.toList_singleton]
  induction parts with
  | nil => rfl
  | cons part parts ih =>
    cases parts with
    | nil => exact List.intercalate_singleton
    | cons second others =>
      rw [List.map_cons, List.map_cons, List.intercalate_cons_cons, ← List.map_cons, ih, joinWith,
        List.append_assoc]
      · rfl
      · exact fun h => absurd h (List.cons_ne_nil _ _)

/-- A character of a joined text is in one of the texts, or joins them. -/
theorem mem_joinWith {separator c : Char} {parts : List (List Char)}
    (h : c ∈ joinWith separator parts) : c = separator ∨ ∃ part ∈ parts, c ∈ part := by
  induction parts with
  | nil => exact absurd h List.not_mem_nil
  | cons part parts ih =>
    cases parts with
    | nil => exact Or.inr ⟨part, List.mem_cons_self, h⟩
    | cons second others =>
      rw [joinWith, List.mem_append, List.mem_cons] at h
      · rcases h with hpart | rfl | hrest
        · exact Or.inr ⟨part, List.mem_cons_self, hpart⟩
        · exact Or.inl rfl
        · rcases ih hrest with rfl | ⟨other, hother, hmem⟩
          · exact Or.inl rfl
          · exact Or.inr ⟨other, List.mem_cons_of_mem part hother, hmem⟩
      · exact fun hnil => absurd hnil (List.cons_ne_nil _ _)

end AccumulatorMachine.Text
