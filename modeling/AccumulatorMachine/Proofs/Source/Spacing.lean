import AccumulatorMachine.Proofs.Source.Printing
import Mathlib.Logic.Relation

/-!
# Spacing

How a source text is laid out makes no difference to its tokens. `Edit` lists what can
be done to the layout: line feeds become pairs of a carriage return and a line feed, lines
are added that are blank or hold only a comment, a comment is added to a line, and
separators are added at a place in a line that is in none of its words.

Each of these is seen on one line at a time. A line has the words of another
(`SameWords`) if a comment is added behind it (`SameWords.append_comment`), or if
separators are added that split no word (`SameWords.insert`); separators and semicolons
inside quotation marks are part of a word, and the places there are excluded. Lines whose
words are the same up to lines without words (`Respaced`) have the same tokens up to
places, and so has a source text after any number of edits (`Source.exists_tokens_of_edits`).
-/

namespace AccumulatorMachine

/-! ## Adding to a line -/

/-- Where a word can end, it can end with separators added. -/
theorem EndsWord.insert {added : List Char} (hadded : ∀ c ∈ added, isSeparator c = true)
    {front back : List Char} (h : EndsWord (front ++ back)) :
    EndsWord (front ++ (added ++ back)) := by
  cases front with
  | cons => exact h
  | nil =>
    cases added with
    | nil => exact h
    | cons first added =>
      intro c hc
      obtain rfl : first = c := Option.some.inj hc
      unfold continuesLexeme
      rw [hadded first List.mem_cons_self]
      rfl

namespace Cuts

variable {line added before behind : List Char} {offset : Nat} {lexemes : List Lexeme}

/-- Separators are passed over. -/
theorem skipAll (hadded : ∀ c ∈ added, isSeparator c = true)
    (h : Cuts line (offset + Text.byteLength added) lexemes) :
    Cuts (added ++ line) offset lexemes := by
  induction added generalizing offset with
  | nil => exact h
  | cons c added ih =>
    rw [List.forall_mem_cons] at hadded
    rw [Text.byteLength_cons, ← Nat.add_assoc] at h
    exact .skip hadded.1 (ih hadded.2 h)

/-- **A line without a comment goes on** where its last word can end. -/
theorem append {back : List Char} {more : List Lexeme} (h : Cuts line offset lexemes)
    (hcomment : ';' ∉ line) (hend : EndsWord back)
    (hback : Cuts back (offset + Text.byteLength line) more) :
    Cuts (line ++ back) offset (lexemes ++ more) := by
  induction h with
  | done => exact hback
  | comment => exact absurd List.mem_cons_self hcomment
  | skip hseparator _ ih =>
    rw [List.mem_cons, not_or] at hcomment
    rw [Text.byteLength_cons, ← Nat.add_assoc] at hback
    exact .skip hseparator (ih hcomment.2 hback)
  | @word word rest _ _ hword hrest _ ih =>
    rw [List.mem_append, not_or] at hcomment
    rw [Text.byteLength_append, ← Nat.add_assoc] at hback
    rw [List.append_assoc]
    refine .word hword (fun c hc => ?_) (ih hcomment.2 hback)
    cases rest with
    | nil => exact hend c hc
    | cons => exact hrest c hc

/-- **A comment changes nothing** about the lexemes in front of it. -/
theorem append_comment (h : Cuts line offset lexemes) (text : List Char) :
    Cuts (line ++ ';' :: text) offset lexemes := by
  induction h with
  | done | comment => exact .comment
  | skip hseparator _ ih => exact .skip hseparator ih
  | @word word rest _ _ hword hend _ ih =>
    rw [List.append_assoc]
    refine .word hword (fun c hc => ?_) ih
    cases rest with
    | cons => exact hend c hc
    | nil =>
      obtain rfl : ';' = c := Option.some.inj hc
      decide

/-- Separators in front of a line move its lexemes. -/
theorem insert_front (hadded : ∀ c ∈ added, isSeparator c = true)
    (h : Cuts line offset lexemes) :
    ∃ again, Cuts (added ++ line) offset again ∧
      again.map Lexeme.text = lexemes.map Lexeme.text := by
  obtain ⟨moved, hmoved, hsame⟩ := h.move (offset + Text.byteLength added)
  exact ⟨moved, skipAll hadded hmoved, (map_eq_of_forall₂ hsame fun _ _ => id).symm⟩

/-- **Separators at a place in none of the lexemes** leave their texts as they are. -/
theorem insert (hadded : ∀ c ∈ added, isSeparator c = true)
    (h : Cuts (before ++ behind) offset lexemes)
    (hplace : ∀ lexeme ∈ lexemes, lexeme.span.stop ≤ offset + Text.byteLength before ∨
      offset + Text.byteLength before ≤ lexeme.span.start) :
    ∃ again, Cuts (before ++ (added ++ behind)) offset again ∧
      again.map Lexeme.text = lexemes.map Lexeme.text := by
  generalize hline : before ++ behind = line at h
  induction h generalizing before with
  | done =>
    obtain ⟨rfl, rfl⟩ := List.append_eq_nil_iff.mp hline
    rw [List.nil_append]
    exact Cuts.done.insert_front hadded
  | comment =>
    cases before with
    | nil =>
      rw [List.nil_append] at hline ⊢
      exact hline ▸ Cuts.comment.insert_front hadded
    | cons first before =>
      obtain ⟨rfl, rfl⟩ := List.cons.inj hline
      exact ⟨[], .comment, rfl⟩
  | @skip c text offset lexemes hseparator htext ih =>
    cases before with
    | nil =>
      rw [List.nil_append] at hline ⊢
      exact hline ▸ (Cuts.skip hseparator htext).insert_front hadded
    | cons first before =>
      obtain ⟨rfl, hrest⟩ := List.cons.inj hline
      rw [Text.byteLength_cons, ← Nat.add_assoc] at hplace
      obtain ⟨again, hagain, hsame⟩ := ih hplace hrest
      exact ⟨again, .skip hseparator hagain, hsame⟩
  | @word word text offset lexemes hword hend htext ih =>
    cases before with
    | nil =>
      rw [List.nil_append] at hline ⊢
      exact hline ▸ (Cuts.word hword hend htext).insert_front hadded
    | cons first before =>
      obtain ⟨hfirst, hothers⟩ := List.forall_mem_cons.mp hplace
      -- the place is not in the word, and not in front of it
      have hle : Text.byteLength word ≤ Text.byteLength (first :: before) := by
        have hpos := Text.byteLength_pos (List.cons_ne_nil first before)
        rcases hfirst with hstop | hstart
        · exact Nat.le_of_add_le_add_left hstop
        · exact absurd hstart (Nat.not_le.mpr (Nat.lt_add_of_pos_right hpos))
      obtain ⟨rest, hbefore, rfl⟩ := Text.exists_append_of_byteLength_le hline.symm hle
      rw [hbefore, Text.byteLength_append, ← Nat.add_assoc] at hothers
      obtain ⟨again, hagain, hsame⟩ := ih hothers rfl
      rw [hbefore, List.append_assoc]
      exact ⟨_, .word hword (hend.insert hadded) hagain,
        by rw [List.map_cons, List.map_cons, hsame]⟩

end Cuts

/-! ## Lines with the same words -/

/-- **A line has the words of another** if it is cut into the same texts. -/
def SameWords (line other : List Char) : Prop :=
  ∀ lexemes, Cuts line 0 lexemes →
    ∃ again, Cuts other 0 again ∧ again.map Lexeme.text = lexemes.map Lexeme.text

/-- **A place in a line that is in none of its words**: the start, the end, or one between
the tokens. -/
def Gap (before behind : List Char) : Prop :=
  before = [] ∨ behind = [] ∨
    ∃ row, Cursor.tokens ⟨before ++ behind, 0⟩ = .ok row ∧
      ∀ token ∈ row, token.span.stop ≤ Text.byteLength before ∨
        Text.byteLength before ≤ token.span.start

/-- A line has its own words. -/
theorem SameWords.refl (line : List Char) : SameWords line line :=
  fun lexemes h => ⟨lexemes, h, rfl⟩

/-- **A comment behind a line** leaves its words. -/
theorem SameWords.append_comment (line text : List Char) : SameWords line (line ++ ';' :: text) :=
  fun lexemes h => ⟨lexemes, h.append_comment text, rfl⟩

/-- **Separators in none of the words** of a line leave them. -/
theorem SameWords.insert {before behind added : List Char}
    (hadded : ∀ c ∈ added, isSeparator c = true) (hgap : Gap before behind) :
    SameWords (before ++ behind) (before ++ (added ++ behind)) := by
  intro lexemes h
  refine h.insert hadded fun lexeme hmem => ?_
  obtain ⟨hstart, -, hstop⟩ := h.bounds lexeme hmem
  rw [Nat.zero_add] at hstop ⊢
  rcases hgap with rfl | rfl | ⟨row, hrow, hplace⟩
  · exact Or.inr hstart
  · rw [List.append_nil] at hstop
    exact Or.inl hstop
  · obtain rfl := h.eq_map_lexeme hrow
    obtain ⟨token, htoken, rfl⟩ := List.mem_map.mp hmem
    exact hplace token htoken

/-- **A line with the words of another has its tokens**, up to their places. -/
theorem SameWords.exists_tokens {line other : List Char} (h : SameWords line other)
    {offset : Nat} {row : List Token} (hrow : Cursor.tokens ⟨line, offset⟩ = .ok row)
    (start : Nat) :
    ∃ again, Cursor.tokens ⟨other, start⟩ = .ok again ∧
      again.map Token.unplaced = row.map Token.unplaced := by
  obtain ⟨hcuts, hspelled⟩ := Cursor.cuts_of_tokens hrow
  obtain ⟨first, hfirst, htexts⟩ := hcuts.move 0
  obtain ⟨second, hsecond, hsame⟩ := h first hfirst
  obtain ⟨last, hlast, hmoved⟩ := hsecond.move start
  refine Cursor.exists_tokens_of_cuts hlast ?_ hspelled
  rw [← map_eq_of_forall₂ hmoved fun _ _ => id, hsame, ← map_eq_of_forall₂ htexts fun _ _ => id,
    List.map_map]
  rfl

/-! ## Lines with and without words -/

/-- **A line without words**: separators, and behind them at most a comment. -/
def BlankLine (line : List Char) : Prop :=
  ∃ blanks comment, line = blanks ++ comment ∧ (∀ c ∈ blanks, isSeparator c = true) ∧
    (comment = [] ∨ ∃ text, comment = ';' :: text)

/-- **Lines that have the words of others**, up to lines without words. -/
inductive Respaced : List (List Char) → List (List Char) → Prop
  /-- No lines have the words of none. -/
  | nil : Respaced [] []
  /-- A line has the words of another one. -/
  | line {line other : List Char} {lines others : List (List Char)} (hline : SameWords line other)
    (hlines : Respaced lines others) : Respaced (line :: lines) (other :: others)
  /-- A line without words is added. -/
  | blank {line : List Char} {lines others : List (List Char)} (hline : BlankLine line)
    (hlines : Respaced lines others) : Respaced lines (line :: others)

/-- A line without words has no lexemes. -/
theorem BlankLine.cuts {line : List Char} (h : BlankLine line) (offset : Nat) :
    Cuts line offset [] := by
  obtain ⟨blanks, comment, rfl, hblanks, hcomment⟩ := h
  refine Cuts.skipAll hblanks ?_
  rcases hcomment with rfl | ⟨text, rfl⟩
  · exact .done
  · exact .comment

/-- A line without words has no tokens. -/
theorem BlankLine.tokens_eq {line : List Char} (h : BlankLine line) (offset : Nat) :
    Cursor.tokens ⟨line, offset⟩ = .ok [] :=
  Cursor.tokens_eq_ok_iff.mpr ⟨[], h.cuts offset, .nil⟩

/-- A word can end in front of a line without words. -/
theorem BlankLine.endsWord {line : List Char} (h : BlankLine line) : EndsWord line := by
  obtain ⟨blanks, comment, rfl, hblanks, hcomment⟩ := h
  have hend : EndsWord comment := by
    rcases hcomment with rfl | ⟨text, rfl⟩
    · exact fun c hc => absurd hc (Option.not_mem_none c)
    · intro c hc
      obtain rfl : ';' = c := Option.some.inj hc
      decide
  have hboth : EndsWord ([] ++ (blanks ++ comment)) := EndsWord.insert hblanks hend
  exact hboth

namespace Respaced

variable {lines others : List (List Char)}

/-- Lines have their own words. -/
theorem refl (lines : List (List Char)) : Respaced lines lines := by
  induction lines with
  | nil => exact .nil
  | cons line lines ih => exact .line (.refl line) ih

/-- What is done behind some lines leaves their words. -/
theorem prepend (h : Respaced lines others) (front : List (List Char)) :
    Respaced (front ++ lines) (front ++ others) := by
  induction front with
  | nil => exact h
  | cons line front ih => exact .line (.refl line) ih

/-- **Lines with the same words have the same tokens**, up to places. -/
theorem exists_tokensOfLines (h : Respaced lines others) {offset : Nat} {rows : List (List Token)}
    (hrows : Source.tokensOfLines lines offset = .ok rows) (start : Nat) :
    ∃ again, Source.tokensOfLines others start = .ok again ∧
      again.map (List.map Token.unplaced) = rows.map (List.map Token.unplaced) := by
  induction h generalizing offset rows start with
  | nil => exact ⟨rows, hrows, rfl⟩
  | @line line other lines others hline _ ih =>
    obtain ⟨row, rest, hrow, hrest, rfl⟩ := Source.tokensOfLines_cons_eq_ok_iff.mp hrows
    obtain ⟨again, hagain, hsame⟩ := hline.exists_tokens hrow start
    obtain ⟨more, hmore, hothers⟩ := ih hrest (start + Text.byteLength other + 1)
    refine ⟨_, Source.tokensOfLines_cons_eq_ok_iff.mpr ⟨again, more, hagain, hmore, rfl⟩, ?_⟩
    have hempty : again.isEmpty = row.isEmpty := by
      rw [← List.isEmpty_map (f := Token.unplaced), hsame, List.isEmpty_map]
    rw [hempty]
    cases row.isEmpty with
    | true => exact hothers
    | false => exact congrArg₂ List.cons hsame hothers
  | @blank line lines others hline _ ih =>
    obtain ⟨again, hagain, hsame⟩ := ih hrows (start + Text.byteLength line + 1)
    exact ⟨again, Source.tokensOfLines_cons_eq_ok_iff.mpr
      ⟨[], again, hline.tokens_eq start, hagain, rfl⟩, hsame⟩

end Respaced

/-! ## Edits -/

namespace Source

/-- The lines of a source text. -/
def lines (source : String) : List (List Char) :=
  Text.splitOn '\n' source.toList

/-- **An edit of the layout** of a source text. -/
inductive Edit (source edited : String) : Prop
  /-- A carriage return is put in front of every line feed. -/
  | returns (hedited : edited.toList
      = source.toList.flatMap fun c => if c = '\n' then ['\r', '\n'] else [c])
  /-- A line is added that is blank or holds only a comment. -/
  | blank {front back : List (List Char)} {line : List Char}
    (hlines : lines source = front ++ back) (hedited : lines edited = front ++ line :: back)
    (hline : BlankLine line)
  /-- A comment is added behind a line. -/
  | comment {front back : List (List Char)} {line text : List Char}
    (hlines : lines source = front ++ line :: back)
    (hedited : lines edited = front ++ (line ++ ';' :: text) :: back)
  /-- Separators are added to a line at a place in none of its words. -/
  | separators {front back : List (List Char)} {before behind added : List Char}
    (hlines : lines source = front ++ (before ++ behind) :: back)
    (hedited : lines edited = front ++ (before ++ (added ++ behind)) :: back)
    (hadded : ∀ c ∈ added, isSeparator c = true) (hgap : Gap before behind)

/-- Carriage returns in front of line feeds are at the ends of all lines but the last. -/
theorem lines_returns {source edited : String} (h : edited.toList
      = source.toList.flatMap fun c => if c = '\n' then ['\r', '\n'] else [c]) :
    ∃ front last, lines source = front ++ [last] ∧
      lines edited = front.map (· ++ ['\r']) ++ [last] := by
  obtain ⟨front, last, hlines⟩ := Text.exists_splitOn_eq_concat '\n' source.toList
  obtain ⟨hfront, hlast, hjoin⟩ := Text.splitOn_eq_concat_iff.mp hlines
  have hkept : ∀ text : List Char, '\n' ∉ text →
      (text.flatMap fun c => if c = '\n' then ['\r', '\n'] else [c]) = text := by
    intro text htext
    induction text with
    | nil => rfl
    | cons c text ih =>
      rw [List.mem_cons, not_or] at htext
      rw [List.flatMap_cons, if_neg (Ne.symm htext.1), ih htext.2]
      rfl
  refine ⟨front, last, hlines, Text.splitOn_eq_concat_iff.mpr ⟨?_, hlast, ?_⟩⟩
  · refine List.forall_mem_map.mpr fun line hmem hfeed => ?_
    rcases List.mem_append.mp hfeed with hline | hreturn
    · exact hfront line hmem hline
    · exact absurd hreturn (by decide)
  · rw [h, ← hjoin, List.flatMap_append, hkept last hlast]
    refine congrArg (· ++ last) ?_
    clear hlines hjoin h
    induction front with
    | nil => rfl
    | cons line front ih =>
      rw [List.forall_mem_cons] at hfront
      rw [List.map_cons, List.flatMap_cons, ih hfront.2, List.flatMap_cons, List.flatMap_append,
        List.flatMap_append, hkept line hfront.1, List.flatMap_singleton, if_pos rfl,
        List.append_assoc line]
      rfl

/-- **An edit leaves the words of the lines**, up to lines without words. -/
theorem Edit.respaced {source edited : String} (h : Edit source edited) :
    Respaced (lines source) (lines edited) := by
  cases h with
  | returns hedited =>
    obtain ⟨front, last, hlines, hlinesEdited⟩ := lines_returns hedited
    rw [hlines, hlinesEdited]
    clear hlines hlinesEdited
    induction front with
    | nil => exact .refl [last]
    | cons line front ih =>
      have hreturn : ∀ c ∈ ['\r'], isSeparator c = true := List.all_eq_true.mp (by decide)
      have hline := SameWords.insert hreturn (Or.inr (Or.inl rfl) : Gap line [])
      rw [List.append_nil, List.append_nil] at hline
      exact .line hline ih
  | @blank front back line hlines hedited hline =>
    rw [hlines, hedited]
    exact (Respaced.blank hline (.refl back)).prepend front
  | @comment front back line text hlines hedited =>
    rw [hlines, hedited]
    exact (Respaced.line (.append_comment line text) (.refl back)).prepend front
  | @separators front back before behind added hlines hedited hadded hgap =>
    rw [hlines, hedited]
    exact (Respaced.line (.insert hadded hgap) (.refl back)).prepend front

/-- **Edits of the layout leave the tokens**, up to their places. -/
theorem exists_tokens_of_edits {source edited : String} {rows : List (List Token)}
    (hrows : tokens source = .ok rows) (h : Relation.ReflTransGen Edit source edited) :
    ∃ again, tokens edited = .ok again ∧
      again.map (List.map Token.unplaced) = rows.map (List.map Token.unplaced) := by
  induction h with
  | refl => exact ⟨rows, hrows, rfl⟩
  | tail _ hedit ih =>
    obtain ⟨some, hsome, hsame⟩ := ih
    obtain ⟨again, hagain, hunplaced⟩ := hedit.respaced.exists_tokensOfLines hsome 0
    exact ⟨again, hagain, hunplaced.trans hsame⟩

end Source

end AccumulatorMachine
