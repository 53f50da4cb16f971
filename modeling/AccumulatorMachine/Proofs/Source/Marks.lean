import AccumulatorMachine.Proofs.Source.Kinds
import AccumulatorMachine.Proofs.Source.Tiling
import Mathlib.Data.List.Induction

/-!
# Where a string ends

Two recognisers decide where a string ends: the cursor, which looks for the mark that
closes it, and the pattern of strings, which wants that mark to be the last character
of a word. Both go from left to right and pair each backslash with the character
behind it.

Said without going through the text, a quotation mark closes nothing exactly if an odd
number of backslashes stands right in front of it (`Unescaped`), and a string ends at
its first mark of which that is not so (`ClosedBehind`). Both recognisers find this
mark (`enclosed_iff_closedBehind`), so that a word with a string in front is a string
exactly if nothing is glued to it (`Source.strings_end_alike`).

The same count says when a body is unescaped to its end with no backslash left over
(`Spelling.unescapeWhole?_eq`), which is always so between two marks.
-/

namespace AccumulatorMachine

/-! ## Pairs -/

/-- **Every text is made of plain characters and of pairs** of a backslash and the
character behind it, but for a backslash that may be left over at the end. -/
@[elab_as_elim]
theorem pairs_induction {motive : List Char → Prop} (text : List Char) (nil : motive [])
    (lone : motive ['\\']) (pair : ∀ c rest, motive rest → motive ('\\' :: c :: rest))
    (plain : ∀ c rest, c ≠ '\\' → motive rest → motive (c :: rest)) : motive text := by
  induction hlength : text.length using Nat.strong_induction_on generalizing text with
  | _ length ih =>
  subst hlength
  rcases text with _ | ⟨c, rest⟩
  · exact nil
  by_cases hbackslash : c = '\\'
  · subst hbackslash
    rcases rest with _ | ⟨d, rest⟩
    · exact lone
    · exact pair d rest (ih rest.length (Nat.lt_succ_of_lt (Nat.lt_succ_self _)) rest rfl)
  · exact plain c rest hbackslash (ih rest.length (Nat.lt_succ_self _) rest rfl)

/-! ## Backslashes in front of a character -/

/-- **Nothing escapes what stands behind a text**: the number of backslashes that the
text ends in is even. -/
def Unescaped (front : List Char) : Prop :=
  (front.reverse.takeWhile (· == '\\')).length % 2 = 0

instance (front : List Char) : Decidable (Unescaped front) :=
  inferInstanceAs (Decidable (_ = 0))

/-- **One character more**: a backslash escapes what stands behind it unless it is
escaped itself, and no other character does. -/
theorem unescaped_concat_iff {front : List Char} {c : Char} :
    Unescaped (front ++ [c]) ↔ (c = '\\' → ¬ Unescaped front) := by
  unfold Unescaped
  rw [List.reverse_concat, List.takeWhile_cons]
  by_cases hc : c = '\\'
  · rw [if_pos (beq_iff_eq.mpr hc), List.length_cons, forall_prop_of_true hc]
    omega
  · rw [if_neg (mt beq_iff_eq.mp hc), List.length_nil]
    exact iff_of_true rfl fun h => absurd h hc

/-- **Behind a text that escapes nothing** it is as if the text were not there. -/
theorem Unescaped.append_iff {front : List Char} (h : Unescaped front) (back : List Char) :
    Unescaped (front ++ back) ↔ Unescaped back := by
  induction back using List.reverseRecOn with
  | nil =>
    rw [List.append_nil]
    exact iff_of_true h rfl
  | append_singleton back c ih =>
    rw [← List.append_assoc, unescaped_concat_iff, unescaped_concat_iff, ih]

/-- A pair of a backslash and a character escapes nothing behind it. -/
theorem unescaped_pair (c : Char) : Unescaped ['\\', c] :=
  (@unescaped_concat_iff ['\\'] c).mpr fun _ => by decide

/-- A character that is no backslash escapes nothing behind it. -/
theorem unescaped_singleton {c : Char} (h : c ≠ '\\') : Unescaped [c] :=
  (@unescaped_concat_iff [] c).mpr fun heq => absurd heq h

/-- Pairs in front of a text escape nothing behind it. -/
theorem unescaped_pair_append_iff {c : Char} {text : List Char} :
    Unescaped ('\\' :: c :: text) ↔ Unescaped text :=
  (unescaped_pair c).append_iff text

/-- Plain characters in front of a text escape nothing behind it. -/
theorem unescaped_cons_iff {c : Char} (h : c ≠ '\\') {text : List Char} :
    Unescaped (c :: text) ↔ Unescaped text :=
  (unescaped_singleton h).append_iff text

/-! ## The mark that closes a text -/

/-- **A mark behind a text closes it**: nothing escapes this mark, and every mark in the
text is escaped. -/
structure ClosedBehind (body : List Char) : Prop where
  /-- Nothing escapes a mark behind the text. -/
  unescaped : Unescaped body
  /-- The marks in the text are escaped. -/
  escaped : ∀ front behind, body = front ++ '"' :: behind → ¬ Unescaped front

namespace ClosedBehind

/-- **Where one text could be closed** another one begins. -/
theorem append_iff {front : List Char} (h : ClosedBehind front) (body : List Char) :
    ClosedBehind (front ++ body) ↔ ClosedBehind body := by
  constructor
  · rintro ⟨hend, hmarks⟩
    refine ⟨(h.unescaped.append_iff body).mp hend, fun before behind hbody hbefore => ?_⟩
    refine hmarks (front ++ before) behind ?_ ((h.unescaped.append_iff before).mpr hbefore)
    rw [hbody, List.append_assoc]
  · rintro ⟨hend, hmarks⟩
    refine ⟨(h.unescaped.append_iff body).mpr hend, fun before behind hboth hbefore => ?_⟩
    rcases List.append_eq_append_iff.mp hboth with ⟨rest, rfl, hrest⟩ | ⟨rest, hfront, hrest⟩
    · -- the mark is in the second text
      exact hmarks rest behind hrest ((h.unescaped.append_iff rest).mp hbefore)
    · cases rest with
      | nil => exact hmarks [] behind hrest.symm rfl
      | cons c rest =>
        obtain ⟨rfl, -⟩ := List.cons.inj hrest
        exact h.escaped before rest hfront hbefore

/-- No text is closed by the first mark. -/
theorem nil : ClosedBehind [] :=
  ⟨rfl, fun _ _ h => absurd h.symm (List.append_ne_nil_of_right_ne_nil _ (List.cons_ne_nil _ _))⟩

/-- A plain character could be closed behind. -/
theorem singleton {c : Char} (hquote : c ≠ '"') (hbackslash : c ≠ '\\') : ClosedBehind [c] := by
  refine ⟨unescaped_singleton hbackslash, fun front behind h => ?_⟩
  rcases List.cons_eq_append_iff.mp h with ⟨-, hmark⟩ | ⟨rest, -, hnil⟩
  · exact absurd (List.cons.inj hmark).1.symm hquote
  · exact absurd hnil.symm (List.append_ne_nil_of_right_ne_nil _ (List.cons_ne_nil _ _))

/-- A pair of a backslash and a character could be closed behind. -/
theorem pair (c : Char) : ClosedBehind ['\\', c] := by
  refine ⟨unescaped_pair c, fun front behind h => ?_⟩
  rcases front with _ | ⟨first, _ | ⟨second, rest⟩⟩
  · exact absurd (List.cons.inj h).1 (by decide)
  · rw [← (List.cons.inj h).1]
    decide
  · exact absurd h (by simp)

end ClosedBehind

/-- **A text can stand between quotation marks** exactly if a mark behind it closes it. -/
theorem enclosed_iff_closedBehind {body : List Char} :
    Enclosed (fun _ => True) body ↔ ClosedBehind body := by
  constructor
  · intro h
    induction h with
    | nil => exact .nil
    | @plain c body hquote hbackslash _ ih =>
      exact ((ClosedBehind.singleton hquote hbackslash).append_iff body).mpr ih
    | @pair c body _ _ ih => exact ((ClosedBehind.pair c).append_iff body).mpr ih
  · intro h
    induction body using pairs_induction with
    | nil => exact .nil
    | lone => exact absurd h.unescaped (by decide)
    | pair c rest ih => exact .pair trivial (ih (((ClosedBehind.pair c).append_iff rest).mp h))
    | plain c rest hbackslash ih =>
      have hquote : c ≠ '"' := by
        rintro rfl
        exact h.escaped [] rest rfl rfl
      exact .plain hquote hbackslash
        (ih (((ClosedBehind.singleton hquote hbackslash).append_iff rest).mp h))

/-- **A text with a mark that is not escaped** is closed by the first one. -/
theorem exists_closedBehind {front : List Char} (h : Unescaped front) (behind : List Char) :
    ∃ body after, front ++ '"' :: behind = body ++ '"' :: after ∧ ClosedBehind body := by
  induction hlength : front.length using Nat.strong_induction_on generalizing front behind with
  | _ length ih =>
  subst hlength
  by_cases hearlier : ∃ before between, front = before ++ '"' :: between ∧ Unescaped before
  · obtain ⟨before, between, rfl, hbefore⟩ := hearlier
    have hlt : before.length < (before ++ '"' :: between).length := by
      rw [List.length_append]
      exact Nat.lt_add_of_pos_right (Nat.succ_pos _)
    obtain ⟨body, after, htext, hbody⟩ :=
      ih before.length hlt hbefore (between ++ '"' :: behind) rfl
    refine ⟨body, after, ?_, hbody⟩
    rw [← htext, List.append_assoc]
    rfl
  · refine ⟨front, behind, rfl, h, fun before between hfront hbefore => ?_⟩
    exact hearlier ⟨before, between, hfront, hbefore⟩

/-- **A text is never closed** exactly if every mark in it is escaped. -/
theorem splitAtClosingMark_eq_none_iff {text : List Char} :
    splitAtClosingMark text = none ↔
      ∀ front behind, text = front ++ '"' :: behind → ¬ Unescaped front := by
  constructor
  · rintro hnone front behind rfl hfront
    obtain ⟨body, after, htext, hbody⟩ := exists_closedBehind hfront behind
    have hsome : splitAtClosingMark (front ++ '"' :: behind) = some (body ++ ['"'], after) :=
      splitAtClosingMark_eq_some_iff.mpr
        ⟨body, enclosed_iff_closedBehind.mpr hbody, rfl, htext⟩
    exact absurd (hnone.symm.trans hsome) (Option.some_ne_none _).symm
  · intro hmarks
    refine Option.eq_none_iff_forall_ne_some.mpr fun ⟨inside, after⟩ hsome => ?_
    obtain ⟨body, hbody, -, htext⟩ := splitAtClosingMark_eq_some_iff.mp hsome
    exact hmarks body after htext (enclosed_iff_closedBehind.mp hbody).unescaped

/-! ## Words that begin with a mark -/

/-- What begins with a quotation mark can only be a string. -/
theorem TokenKind.eq_string_of_matches {kind : TokenKind} {text : List Char}
    (h : kind.Matches ('"' :: text)) : kind = string := by
  obtain ⟨c, rest, htext, hfirst⟩ := h.ofFirst?_eq
  obtain ⟨rfl, -⟩ := List.cons.inj htext
  cases kind with
  | string => rfl
  | label | address | number | identifier => exact absurd hfirst (by decide)

/-- On one line a backslash can be paired with every character. -/
theorem Enclosed.of_feed_notMem {body : List Char} (h : Enclosed (fun _ => True) body)
    (hfeed : '\n' ∉ body) : Enclosed (· ≠ '\n') body := by
  induction h with
  | nil => exact .nil
  | plain hquote hbackslash _ ih =>
    exact .plain hquote hbackslash (ih fun hmem => hfeed (List.mem_cons_of_mem _ hmem))
  | @pair c body _ _ ih =>
    rw [List.mem_cons, List.mem_cons, not_or, not_or] at hfeed
    exact .pair (Ne.symm hfeed.2.1) (ih hfeed.2.2)

/-- **A word that begins with a closed text is a string** exactly if nothing is glued to
the mark that closes it. -/
theorem TokenKind.matches_string_iff {body glued : List Char} (hbody : ClosedBehind body)
    (hfeed : '\n' ∉ body) : string.Matches ('"' :: (body ++ '"' :: glued)) ↔ glued = [] := by
  have henclosed := enclosed_iff_closedBehind.mpr hbody
  constructor
  · rintro ⟨other, htext, hother⟩
    -- the cursor closes both texts, and at the same mark
    have hfirst : splitAtClosingMark (body ++ '"' :: glued) = some (body ++ ['"'], glued) :=
      splitAtClosingMark_eq_some_iff.mpr ⟨body, henclosed, rfl, rfl⟩
    have hlast : splitAtClosingMark (body ++ '"' :: glued) = some (other ++ ['"'], []) :=
      splitAtClosingMark_eq_some_iff.mpr
        ⟨other, hother.imp fun _ _ => trivial, rfl, (List.cons.inj htext).2⟩
    exact (Prod.mk.inj (Option.some.inj (hfirst.symm.trans hlast))).2
  · rintro rfl
    exact ⟨body, rfl, henclosed.of_feed_notMem hfeed⟩

/-- A string is a token, or is refused as a literal. -/
theorem Token.ofLexeme_of_matches_string {lexeme : Lexeme}
    (h : TokenKind.string.Matches lexeme.text.toList) :
    (∃ token, ofLexeme lexeme = .ok token ∧ token.kind = .string) ∨
      ∃ flaw, ofLexeme lexeme = .error (.invalidLiteral lexeme.text flaw lexeme.span) := by
  rw [ofLexeme_of_matches h, readAs]
  split
  · exact Or.inl ⟨_, rfl, rfl⟩
  · exact Or.inr ⟨_, rfl⟩

/-- **A word that begins with a closed text is read as a string** exactly if nothing is
glued to the mark that closes it, and else it is no token. -/
theorem Token.ofLexeme_closed_iff {lexeme : Lexeme} {body glued : List Char}
    (htext : lexeme.text.toList = '"' :: (body ++ '"' :: glued)) (hbody : ClosedBehind body)
    (hfeed : '\n' ∉ body) :
    ((∃ token, ofLexeme lexeme = .ok token ∧ token.kind = .string) ∨
      (∃ flaw, ofLexeme lexeme = .error (.invalidLiteral lexeme.text flaw lexeme.span)) ↔
        glued = []) ∧
    (ofLexeme lexeme = .error (.unknownToken lexeme.text lexeme.span) ↔ glued ≠ []) := by
  have hmatches : TokenKind.string.Matches lexeme.text.toList ↔ glued = [] :=
    htext ▸ TokenKind.matches_string_iff hbody hfeed
  by_cases hglued : glued = []
  · have hstring := ofLexeme_of_matches_string (hmatches.mpr hglued)
    refine ⟨iff_of_true hstring hglued, iff_of_false (fun hnone => ?_) (not_not.mpr hglued)⟩
    rcases hstring with ⟨token, htoken, -⟩ | ⟨flaw, hflaw⟩
    · exact absurd (htoken.symm.trans hnone) (by simp)
    · exact absurd (hflaw.symm.trans hnone) (by simp)
  · have hnone : ofLexeme lexeme = .error (.unknownToken lexeme.text lexeme.span) := by
      refine ofLexeme_of_not_matches fun kind hkind => hglued (hmatches.mp ?_)
      have hstring : kind = .string := TokenKind.eq_string_of_matches (htext ▸ hkind)
      exact hstring ▸ hkind
    refine ⟨iff_of_false ?_ hglued, iff_of_true hnone hglued⟩
    rintro (⟨token, htoken, -⟩ | ⟨flaw, hflaw⟩)
    · exact absurd (htoken.symm.trans hnone) (by simp)
    · exact absurd (hflaw.symm.trans hnone) (by simp)

/-! ## Unescaping to the end -/

namespace Spelling

/-- What a pair of a backslash and a character stands for. -/
def meaning (c : Char) : List Char :=
  match escape? c with
  | some meant => [meant]
  | none => ['\\', c]

/-- **The characters that a body stands for**, if no backslash is left over at its
end. -/
def unescapeWhole? : List Char → Option (List Char)
  | [] => some []
  | ['\\'] => none
  | '\\' :: c :: rest => (unescapeWhole? rest).map (meaning c ++ ·)
  | c :: rest => (unescapeWhole? rest).map (c :: ·)

/-- A pair stands for its meaning. -/
theorem unescape_pair (c : Char) (rest : List Char) :
    unescape ('\\' :: c :: rest) = meaning c ++ unescape rest := by
  rw [unescape, meaning]
  cases escape? c <;> rfl

/-- A plain character stands for itself. -/
theorem unescape_plain {c : Char} (h : c ≠ '\\') (rest : List Char) :
    unescape (c :: rest) = c :: unescape rest := by
  rw [unescape.eq_def]
  split
  · next heq => exact absurd heq (List.cons_ne_nil _ _)
  · next heq => exact absurd (List.cons.inj heq).1 h
  · next heq =>
    obtain ⟨rfl, rfl⟩ := List.cons.inj heq
    rfl

/-- A plain character is unescaped by itself. -/
theorem unescapeWhole?_plain {c : Char} (h : c ≠ '\\') (rest : List Char) :
    unescapeWhole? (c :: rest) = (unescapeWhole? rest).map (c :: ·) := by
  rw [unescapeWhole?.eq_def]
  split <;> simp_all

/-- **A body is unescaped without the case of a backslash at the end** exactly if there
is no such backslash, and then to what it is unescaped to with it. -/
theorem unescapeWhole?_eq (body : List Char) :
    unescapeWhole? body = if Unescaped body then some (unescape body) else none := by
  induction body using pairs_induction with
  | nil => rfl
  | lone => rfl
  | pair c rest ih =>
    rw [unescapeWhole?, ih, unescape_pair, if_congr unescaped_pair_append_iff rfl rfl]
    split <;> rfl
  | plain c rest hbackslash ih =>
    rw [unescapeWhole?_plain hbackslash, ih, unescape_plain hbackslash,
      if_congr (unescaped_cons_iff hbackslash) rfl rfl]
    split <;> rfl

/-- **A text that escapes nothing behind it is unescaped by itself.** -/
theorem unescape_append {front : List Char} (h : Unescaped front) (back : List Char) :
    unescape (front ++ back) = unescape front ++ unescape back := by
  induction front using pairs_induction with
  | nil => rfl
  | lone => exact absurd h (by decide)
  | pair c rest ih =>
    rw [List.cons_append, List.cons_append, unescape_pair, unescape_pair,
      ih (unescaped_pair_append_iff.mp h), List.append_assoc]
  | plain c rest hbackslash ih =>
    rw [List.cons_append, unescape_plain hbackslash, unescape_plain hbackslash,
      ih ((unescaped_cons_iff hbackslash).mp h), List.cons_append]

end Spelling

/-! ## The two recognisers -/

/-- A lexeme ends in front of a separator or a semicolon. -/
theorem continuesLexeme_eq_false_iff {c : Char} :
    continuesLexeme c = false ↔ c ∈ [' ', '\t', '\r', ';'] := by
  unfold continuesLexeme isSeparator
  rw [← Bool.not_eq_true]
  simp only [Bool.and_eq_true, Bool.not_eq_true', Bool.or_eq_false_iff, beq_eq_false_iff_ne,
    bne_iff_ne, List.mem_cons, List.not_mem_nil, or_false]
  tauto

namespace Cursor

/-- Separators are passed over. -/
theorem nextLexeme_skipAll {skipped : List Char}
    (hskipped : ∀ c ∈ skipped, isSeparator c = true) (text : List Char) (offset : Nat) :
    nextLexeme ⟨skipped ++ text, offset⟩ = nextLexeme ⟨text, offset + Text.byteLength skipped⟩ := by
  induction skipped generalizing offset with
  | nil => rfl
  | cons c skipped ih =>
    rw [List.forall_mem_cons] at hskipped
    rw [List.cons_append, nextLexeme_skip hskipped.1, ih hskipped.2, Text.byteLength_cons,
      Nat.add_assoc]

/-- **The cursor reports a text that is never closed** exactly if every mark in it is
escaped. -/
theorem nextLexeme_eq_unterminated_iff {text : List Char} {offset : Nat} :
    (nextLexeme ⟨'"' :: text, offset⟩).1
        = .error (.unterminatedString ⟨offset, Text.byteLength ('"' :: text)⟩) ↔
      ∀ front behind, text = front ++ '"' :: behind → ¬ Unescaped front := by
  rw [← splitAtClosingMark_eq_none_iff, nextLexeme_quote]
  cases splitAtClosingMark text with
  | none => exact iff_of_true rfl rfl
  | some parts => exact iff_of_false (by simp) (Option.some_ne_none parts)

/-- **The cursor takes a closed text** and what is glued to the mark that closes it. -/
theorem exists_nextLexeme_eq {front : List Char} (h : Unescaped front) (behind : List Char)
    (offset : Nat) :
    ∃ body glued rest, front ++ '"' :: behind = body ++ '"' :: (glued ++ rest) ∧
      ClosedBehind body ∧ (∀ c ∈ glued, continuesLexeme c = true) ∧ EndsWord rest ∧
      nextLexeme ⟨'"' :: (front ++ '"' :: behind), offset⟩
        = (.ok (some (Lexeme.ofWord ('"' :: (body ++ '"' :: glued)) offset)),
          ⟨rest, offset + Text.byteLength ('"' :: (body ++ '"' :: glued))⟩) := by
  obtain ⟨body, after, htext, hbody⟩ := exists_closedBehind h behind
  have hglued : ∀ c ∈ after.takeWhile continuesLexeme, continuesLexeme c = true :=
    List.all_eq_true.mp List.all_takeWhile
  have hrest : EndsWord (after.dropWhile continuesLexeme) := by
    intro c hc
    obtain ⟨others, hothers⟩ := List.head?_eq_some_iff.mp hc
    exact head_dropWhile_false hothers
  have htaken := nextLexeme_of_word (.quoted (enclosed_iff_closedBehind.mpr hbody) hglued) hrest
    offset
  refine ⟨body, _, _, ?_, hbody, hglued, hrest, ?_⟩
  · rw [List.takeWhile_append_dropWhile]
    exact htext
  · rwa [List.cons_append, List.append_assoc, List.cons_append, List.takeWhile_append_dropWhile,
      ← htext] at htaken

end Cursor

namespace Source

/-- **In the strings of a source text** no backslash is left over at the end. -/
theorem exists_body_of_string {source : String} {rows : List (List Token)}
    (hrows : tokens source = .ok rows) {token : Token} (htoken : token ∈ rows.flatten)
    (hkind : token.kind = .string) :
    ∃ body, token.literal.toList = '"' :: (body ++ ['"']) ∧ ClosedBehind body := by
  obtain ⟨row, hrow, hmem⟩ := List.mem_flatten.mp htoken
  obtain ⟨term, hspells, hterm⟩ :=
    Token.exists_spells ((written_of_tokens hrows row hrow).2 token hmem).spelled
  rw [hterm] at hkind
  cases term with
  | string values =>
    obtain ⟨body, htext, hbody, -⟩ := spells_string_iff.mp hspells
    exact ⟨body, htext, enclosed_iff_closedBehind.mp (hbody.imp fun _ _ => trivial)⟩
  | label | address | number | identifier => exact absurd hkind (by simp [Term.token, Term.kind])

/-- **The cursor and the pattern of strings agree on where a string ends.** At a
quotation mark in a line the cursor reports a text that is never closed exactly if every
mark behind it is escaped. Otherwise it takes the text up to the first mark that is not,
and everything up to the next separator or semicolon. What it takes is a string, which
may still have a character beyond a byte, exactly if nothing is glued to that mark, and no
token otherwise. In strings, and so in all that a source text has, no backslash is left
over when they are unescaped. -/
theorem strings_end_alike :
    (∀ (skipped text : List Char) (offset : Nat), (∀ c ∈ skipped, isSeparator c = true) →
      '\n' ∉ text →
      let start := offset + Text.byteLength skipped
      let found := Cursor.nextLexeme ⟨skipped ++ '"' :: text, offset⟩
      (found.1 = .error (.unterminatedString ⟨start, Text.byteLength ('"' :: text)⟩) ↔
        ∀ front behind, text = front ++ '"' :: behind → ¬ Unescaped front) ∧
      ∀ front behind, text = front ++ '"' :: behind → Unescaped front →
        ∃ body glued rest, text = body ++ '"' :: (glued ++ rest) ∧
          Unescaped body ∧ (∀ front behind, body = front ++ '"' :: behind → ¬ Unescaped front) ∧
          (∀ c ∈ glued, c ∉ [' ', '\t', '\r', ';']) ∧
          (∀ c ∈ rest.head?, c ∈ [' ', '\t', '\r', ';']) ∧
          let word := '"' :: (body ++ '"' :: glued)
          let lexeme : Lexeme := ⟨String.ofList word, ⟨start, Text.byteLength word⟩⟩
          found = (.ok (some lexeme), ⟨rest, start + Text.byteLength word⟩) ∧
          ((∃ token, Token.ofLexeme lexeme = .ok token ∧ token.kind = .string) ∨
            (∃ flaw, Token.ofLexeme lexeme
              = .error (.invalidLiteral lexeme.text flaw lexeme.span)) ↔ glued = []) ∧
          (Token.ofLexeme lexeme = .error (.unknownToken lexeme.text lexeme.span) ↔
            glued ≠ []) ∧
          Spelling.unescapeWhole? body = some (Spelling.unescape body)) ∧
    ∀ (source : String) (rows : List (List Token)), tokens source = .ok rows →
      ∀ token ∈ rows.flatten, token.kind = .string →
        ∃ body, token.literal.toList = '"' :: (body ++ ['"']) ∧
          Spelling.unescapeWhole? body = some (Spelling.unescape body) := by
  have hwhole : ∀ {body : List Char}, ClosedBehind body →
      Spelling.unescapeWhole? body = some (Spelling.unescape body) := by
    intro body hbody
    rw [Spelling.unescapeWhole?_eq, if_pos hbody.unescaped]
  constructor
  · intro skipped text offset hskipped hline start found
    have hfound : found = Cursor.nextLexeme ⟨'"' :: text, start⟩ :=
      Cursor.nextLexeme_skipAll hskipped ('"' :: text) offset
    rw [hfound]
    refine ⟨Cursor.nextLexeme_eq_unterminated_iff, ?_⟩
    rintro front behind rfl hfront
    obtain ⟨body, glued, rest, htext, hbody, hglued, hrest, htaken⟩ :=
      Cursor.exists_nextLexeme_eq hfront behind start
    have hfeed : '\n' ∉ body := fun hmem => hline (htext ▸ List.mem_append_left _ hmem)
    obtain ⟨hstring, hnone⟩ :=
      Token.ofLexeme_closed_iff (Lexeme.toList_text_ofWord _ start) hbody hfeed
    refine ⟨body, glued, rest, htext, hbody.unescaped, hbody.escaped, fun c hc hend => ?_,
      fun c hc => continuesLexeme_eq_false_iff.mp (hrest c hc), htaken, hstring, hnone,
      hwhole hbody⟩
    exact absurd ((hglued c hc).symm.trans (continuesLexeme_eq_false_iff.mpr hend)) (by decide)
  · intro source rows hrows token htoken hkind
    obtain ⟨body, htext, hbody⟩ := exists_body_of_string hrows htoken hkind
    exact ⟨body, htext, hwhole hbody⟩

/-- A mark behind a pair of backslashes, once with a letter glued to it and once at the
end of a source text. -/
theorem strings_end_alike_glued :
    let text := ['a', '\\', '\\', '"', 'z', ';']
    (∀ c ∈ [' '], isSeparator c = true) ∧ '\n' ∉ text ∧ Unescaped ['a', '\\', '\\'] ∧
      (∃ body glued rest, text = body ++ '"' :: (glued ++ rest) ∧ Unescaped body ∧
        let word := '"' :: (body ++ '"' :: glued)
        let lexeme : Lexeme := ⟨String.ofList word, ⟨4, Text.byteLength word⟩⟩
        Cursor.nextLexeme ⟨[' '] ++ '"' :: text, 3⟩
          = (.ok (some lexeme), ⟨rest, 4 + Text.byteLength word⟩) ∧
        (Token.ofLexeme lexeme = .error (.unknownToken lexeme.text lexeme.span) ↔ glued ≠ [])) ∧
      ∃ rows, tokens "DB \"\\\\\"" = .ok rows ∧
        ∀ token ∈ rows.flatten, token.kind = .string →
          ∃ body, token.literal.toList = '"' :: (body ++ ['"']) ∧
            Spelling.unescapeWhole? body = some (Spelling.unescape body) := by
  intro text
  have hskipped : ∀ c ∈ [' '], isSeparator c = true := List.all_eq_true.mp (by decide)
  have hline : '\n' ∉ text := by decide
  have hfront : Unescaped ['a', '\\', '\\'] := by decide
  have hrows : tokens "DB \"\\\\\"" = .ok
      [[⟨.identifier, "DB", .name "DB", ⟨0, 2⟩⟩, ⟨.string, "\"\\\\\"", .bytes [92], ⟨3, 4⟩⟩]] := by
    decide +kernel
  obtain ⟨body, glued, rest, htext, hbody, -, -, -, hfound, -, hnone, -⟩ :=
    (strings_end_alike.1 [' '] text 3 hskipped hline).2 ['a', '\\', '\\'] ['z', ';'] rfl hfront
  exact ⟨hskipped, hline, hfront, ⟨body, glued, rest, htext, hbody, hfound, hnone⟩, _, hrows,
    strings_end_alike.2 _ _ hrows⟩

end Source

end AccumulatorMachine
