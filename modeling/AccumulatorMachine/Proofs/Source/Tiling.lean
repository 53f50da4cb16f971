import AccumulatorMachine.Proofs.Source.Lines
import AccumulatorMachine.Proofs.Source.Places

/-!
# Tokens tile their source

A source text is covered by its tokens, by separators and line feeds, and by
comments, and by nothing twice. Inside a line that is so because of how the line is
cut (`Cuts.covers`, `Cuts.pairwise`), where offsets are counted from the beginning
of the line. `Tiled` is what it comes to from an offset of the whole source on, and
`Tiled.cons` puts one more line in front: its tokens end before its line feed, and
all others begin behind it.
-/

namespace AccumulatorMachine

/-! ## Inside a line -/

/-- The lexeme that a token is. -/
def Token.lexeme (token : Token) : Lexeme :=
  ⟨token.literal, token.span⟩

/-- Lexemes that are tokens are the lexemes of these. -/
theorem Token.eq_map_lexeme {lexemes : List Lexeme} {row : List Token}
    (h : List.Forall₂ (fun lexeme token => ofLexeme lexeme = .ok token) lexemes row) :
    lexemes = row.map lexeme := by
  refine eq_map_iff_forall₂.mpr (h.imp fun lexeme token htoken => ?_)
  obtain ⟨term, -, rfl⟩ := exists_spells htoken
  rfl

/-- **A line with tokens is cut into them.** -/
theorem Cursor.cuts_of_tokens {line : List Char} {offset : Nat} {row : List Token}
    (h : tokens ⟨line, offset⟩ = .ok row) :
    Cuts line offset (row.map Token.lexeme) ∧
      ∀ token ∈ row, Token.ofLexeme token.lexeme = .ok token := by
  obtain ⟨lexemes, hcuts, htokens⟩ := tokens_eq_ok_iff.mp h
  obtain rfl := Token.eq_map_lexeme htokens
  refine ⟨hcuts, fun token hmem => ?_⟩
  rw [List.forall₂_map_left_iff, List.forall₂_same] at htokens
  exact htokens token hmem

/-- **There is one way to cut a line** that has tokens. -/
theorem Cuts.eq_map_lexeme {line : List Char} {offset : Nat} {lexemes : List Lexeme}
    {row : List Token} (h : Cuts line offset lexemes)
    (htokens : Cursor.tokens ⟨line, offset⟩ = .ok row) : lexemes = row.map Token.lexeme := by
  rw [Cursor.tokens_eq_mapM (Cursor.words_of_cuts h), mapM_eq_ok_iff,
    List.forall₂_map_left_iff] at htokens
  exact Token.eq_map_lexeme htokens

/-- The lexeme of a word has its characters. -/
@[simp] theorem Lexeme.toList_text_ofWord (word : List Char) (offset : Nat) :
    (Lexeme.ofWord word offset).text.toList = word :=
  String.toList_ofList

/-- A word is not empty. -/
theorem IsWord.ne_nil {word : List Char} (h : IsWord word) : word ≠ [] := by
  cases h with
  | plain => exact List.cons_ne_nil _ _
  | quoted => exact List.cons_ne_nil _ _

namespace Cuts

variable {source line : List Char} {offset : Nat} {lexemes : List Lexeme}

/-- The lexemes of a line are in it, and are not empty. -/
theorem bounds (h : Cuts line offset lexemes) :
    ∀ lexeme ∈ lexemes, offset ≤ lexeme.span.start ∧ lexeme.span.start < lexeme.span.stop ∧
      lexeme.span.stop ≤ offset + Text.byteLength line := by
  induction h with
  | done => exact fun lexeme hmem => absurd hmem List.not_mem_nil
  | comment => exact fun lexeme hmem => absurd hmem List.not_mem_nil
  | @skip c text offset lexemes _ _ ih =>
    intro lexeme hmem
    obtain ⟨hstart, hlt, hstop⟩ := ih lexeme hmem
    rw [Text.byteLength_cons]
    exact ⟨by omega, hlt, by omega⟩
  | @word word text offset lexemes hword _ _ ih =>
    intro lexeme hmem
    rw [Text.byteLength_append]
    rcases List.mem_cons.mp hmem with rfl | hrest
    · have hpos := Text.byteLength_pos hword.ne_nil
      have hstop : (Lexeme.ofWord word offset).span.stop = offset + Text.byteLength word := rfl
      exact ⟨Nat.le_refl _, Nat.lt_add_of_pos_right hpos, by omega⟩
    · obtain ⟨hstart, hlt, hstop⟩ := ih lexeme hrest
      exact ⟨by omega, hlt, by omega⟩

/-- The lexemes of a line are words, made of characters of the line. -/
theorem isWord (h : Cuts line offset lexemes) :
    ∀ lexeme ∈ lexemes, IsWord lexeme.text.toList ∧ ∀ c ∈ lexeme.text.toList, c ∈ line := by
  induction h with
  | done => exact fun lexeme hmem => absurd hmem List.not_mem_nil
  | comment => exact fun lexeme hmem => absurd hmem List.not_mem_nil
  | skip _ _ ih =>
    intro lexeme hmem
    exact ⟨(ih lexeme hmem).1, fun c hc => List.mem_cons_of_mem _ ((ih lexeme hmem).2 c hc)⟩
  | @word word text offset lexemes hword _ _ ih =>
    rw [List.forall_mem_cons]
    refine ⟨?_, fun lexeme hmem => ?_⟩
    · rw [Lexeme.toList_text_ofWord]
      exact ⟨hword, fun c hc => List.mem_append_left text hc⟩
    · exact ⟨(ih lexeme hmem).1, fun c hc => List.mem_append_right word ((ih lexeme hmem).2 c hc)⟩

/-- **The span of a lexeme** marks its text, wherever the line is. -/
theorem marks (h : Cuts line offset lexemes)
    (hline : EndsLine source ⟨offset, Text.byteLength line⟩ line) :
    ∀ lexeme ∈ lexemes, lexeme.span.Marks source lexeme.text.toList := by
  induction h with
  | done => exact fun lexeme hmem => absurd hmem List.not_mem_nil
  | comment => exact fun lexeme hmem => absurd hmem List.not_mem_nil
  | skip _ _ ih => exact ih hline.tail
  | @word word text offset lexemes _ _ _ ih =>
    intro lexeme hmem
    rcases List.mem_cons.mp hmem with rfl | hrest
    · rw [Lexeme.toList_text_ofWord]
      exact hline.marks_front
    · exact ih hline.suffix lexeme hrest

/-- **A lexeme ends before the next one begins.** -/
theorem pairwise (h : Cuts line offset lexemes) :
    lexemes.Pairwise fun lexeme next => lexeme.span.stop ≤ next.span.start := by
  induction h with
  | done => exact .nil
  | comment => exact .nil
  | skip _ _ ih => exact ih
  | word _ _ htext ih =>
    exact List.pairwise_cons.mpr ⟨fun next hmem => (htext.bounds next hmem).1, ih⟩

/-- **Every character of a line** is in a lexeme or separates lexemes, or stands in a
comment behind all of them. -/
theorem covers (h : Cuts line offset lexemes) {place : Nat} {c : Char}
    (hc : Text.StandsAt line place c) :
    (∃ lexeme ∈ lexemes, lexeme.span.Covers (offset + place)) ∨ isSeparator c = true ∨
      ∃ front text, line = front ++ ';' :: text ∧ Text.byteLength front ≤ place ∧
        ∀ lexeme ∈ lexemes, lexeme.span.stop ≤ offset + Text.byteLength front := by
  induction h generalizing place with
  | done => exact absurd hc.mem List.not_mem_nil
  | @comment text offset =>
    exact Or.inr (Or.inr ⟨[], text, rfl, Nat.zero_le _, fun _ hmem => absurd hmem List.not_mem_nil⟩)
  | @skip d text offset lexemes hseparator _ ih =>
    have hall : Text.StandsAt ([d] ++ text) place c := hc
    rcases Text.standsAt_append_iff.mp hall with hfirst | ⟨rest, rfl, hrest⟩
    · rw [List.mem_singleton.mp hfirst.mem]
      exact Or.inr (Or.inl hseparator)
    · rw [← Nat.add_assoc]
      rcases ih hrest with hlexeme | hsep | ⟨front, others, rfl, hle, hbehind⟩
      · exact Or.inl hlexeme
      · exact Or.inr (Or.inl hsep)
      · refine Or.inr (Or.inr ⟨d :: front, others, rfl, Nat.add_le_add_left hle _,
          fun lexeme hmem => ?_⟩)
        rw [Text.byteLength_cons, ← Nat.add_assoc]
        exact hbehind lexeme hmem
  | @word word text offset lexemes _ _ _ ih =>
    rcases Text.standsAt_append_iff.mp hc with hword | ⟨rest, rfl, hrest⟩
    · refine Or.inl ⟨_, List.mem_cons_self, Nat.le_add_right _ _, ?_⟩
      exact Nat.add_lt_add_left hword.lt_byteLength _
    · rw [← Nat.add_assoc]
      rcases ih hrest with ⟨lexeme, hmem, hcovers⟩ | hsep | ⟨front, others, rfl, hle, hbehind⟩
      · exact Or.inl ⟨lexeme, List.mem_cons_of_mem _ hmem, hcovers⟩
      · exact Or.inr (Or.inl hsep)
      · have hlength : offset + Text.byteLength (word ++ front)
            = offset + Text.byteLength word + Text.byteLength front := by
          rw [Text.byteLength_append, Nat.add_assoc]
        refine Or.inr (Or.inr ⟨word ++ front, others, (List.append_assoc _ _ _).symm, ?_, ?_⟩)
        · rw [Text.byteLength_append]
          exact Nat.add_le_add_left hle _
        · rw [hlength, List.forall_mem_cons]
          exact ⟨Nat.le_add_right _ _, hbehind⟩

end Cuts

/-! ## Tokens of lines -/

/-- A token that was written on one line. -/
structure Token.Written (token : Token) : Prop where
  /-- The token is written as a word. -/
  word : IsWord token.literal.toList
  /-- The word is this token. -/
  spelled : ofLexeme token.lexeme = .ok token
  /-- The word holds no line feed. -/
  line : '\n' ∉ token.literal.toList

namespace Source

/-- The tokens of lines were written on them. -/
theorem written_of_tokensOfLines {lines : List (List Char)} {offset : Nat}
    {rows : List (List Token)} (hlines : ∀ line ∈ lines, '\n' ∉ line)
    (h : tokensOfLines lines offset = .ok rows) :
    ∀ row ∈ rows, row ≠ [] ∧ ∀ token ∈ row, token.Written := by
  induction lines generalizing offset rows with
  | nil =>
    obtain rfl := Except.ok.inj h
    exact fun row hmem => absurd hmem List.not_mem_nil
  | cons line lines ih =>
    rw [List.forall_mem_cons] at hlines
    obtain ⟨found, others, hfound, hothers, rfl⟩ := tokensOfLines_cons_eq_ok_iff.mp h
    have hrest := ih hlines.2 hothers
    obtain ⟨lexemes, hcuts, htokens⟩ := Cursor.tokens_eq_ok_iff.mp hfound
    have hwritten : ∀ token ∈ found, token.Written := by
      intro token hmem
      obtain ⟨lexeme, hlexeme, htoken⟩ := exists_mem_of_forall₂ htokens.flip hmem
      obtain ⟨term, -, rfl⟩ := Token.exists_spells htoken
      obtain ⟨hword, hline⟩ := hcuts.isWord lexeme hlexeme
      exact ⟨hword, htoken, fun hfeed => hlines.1 (hline _ hfeed)⟩
    cases found with
    | nil => exact hrest
    | cons token found =>
      exact List.forall_mem_cons.mpr ⟨⟨List.cons_ne_nil token found, hwritten⟩, hrest⟩

/-- The tokens of a source text were written on its lines, and no row is empty. -/
theorem written_of_tokens {source : String} {rows : List (List Token)}
    (h : tokens source = .ok rows) : ∀ row ∈ rows, row ≠ [] ∧ ∀ token ∈ row, token.Written :=
  written_of_tokensOfLines (fun _ hmem => Text.separator_notMem_of_mem_splitOn hmem) h

end Source

/-! ## From line to line -/

/-- **A comment** runs from a semicolon to the end of its line, and there is no token
in it. -/
def IsComment (source : List Char) (tokens : List Token) (span : Span) : Prop :=
  (∃ text, EndsLine source span (';' :: text)) ∧
    ∀ token ∈ tokens, token.span.stop ≤ span.start ∨ span.stop ≤ token.span.start

/-- **Every character of a line** is in a token, stands between tokens or is in a
comment, whatever tokens there are behind the line. -/
theorem Cuts.covers_source {source line : List Char} {offset : Nat} {row others : List Token}
    (hcuts : Cuts line offset (row.map Token.lexeme))
    (hline : EndsLine source ⟨offset, Text.byteLength line⟩ line)
    (hothers : ∀ token ∈ others, offset + Text.byteLength line ≤ token.span.start)
    {place : Nat} {c : Char} (hc : Text.StandsAt source place c)
    (hcovers : Span.Covers ⟨offset, Text.byteLength line⟩ place) :
    (∃ token ∈ row ++ others, token.span.Covers place) ∨ c ∈ [' ', '\t', '\r', '\n'] ∨
      ∃ span, offset ≤ span.start ∧ IsComment source (row ++ others) span ∧ span.Covers place := by
  obtain ⟨rest, rfl, hrest⟩ := hline.standsAt hc hcovers
  rcases hcuts.covers hrest with
    ⟨lexeme, hmem, hlexeme⟩ | hsep | ⟨front, text, rfl, hfront, hall⟩
  · obtain ⟨token, htoken, rfl⟩ := List.mem_map.mp hmem
    exact Or.inl ⟨token, List.mem_append_left _ htoken, hlexeme⟩
  · refine Or.inr (Or.inl ?_)
    unfold isSeparator at hsep
    simpa [or_assoc] using Or.inl hsep
  · have hstop : offset + Text.byteLength front + Text.byteLength (';' :: text)
        = offset + Text.byteLength (front ++ ';' :: text) := by
      rw [Text.byteLength_append, Nat.add_assoc]
    refine Or.inr (Or.inr ⟨_, Nat.le_add_right _ _, ⟨⟨text, hline.suffix⟩, ?_⟩,
      Nat.add_le_add_left hfront _, Nat.lt_of_lt_of_eq hcovers.2 hstop.symm⟩)
    intro token hmem
    rcases List.mem_append.mp hmem with hmem | hmem
    · exact Or.inl (hall token.lexeme (List.mem_map_of_mem hmem))
    · exact Or.inr (Nat.le_trans (Nat.le_of_eq hstop) (hothers token hmem))

/-- **Rows of tokens tile a source** from an offset on. -/
structure Tiled (source : List Char) (offset : Nat) (rows : List (List Token)) : Prop where
  /-- The spans of the tokens mark what they are written as. -/
  marks : ∀ token ∈ rows.flatten, token.span.Marks source token.literal.toList
  /-- No token is empty, and none begins before the offset. -/
  bounds : ∀ token ∈ rows.flatten, offset ≤ token.span.start ∧ token.span.start < token.span.stop
  /-- Every token ends before the next one begins. -/
  ordered : rows.flatten.Pairwise fun token next => token.span.stop ≤ next.span.start
  /-- No line feed stands between the tokens of one row. -/
  together : ∀ row ∈ rows, ∀ token ∈ row, ∀ next ∈ row, ∀ place,
    token.span.stop ≤ place → place < next.span.start → ¬ Text.StandsAt source place '\n'
  /-- A line feed stands between the tokens of two rows. -/
  apart : rows.Pairwise fun row later => ∀ token ∈ row, ∀ next ∈ later, ∃ place,
    token.span.stop ≤ place ∧ place < next.span.start ∧ Text.StandsAt source place '\n'
  /-- Every character is in a token or in a comment, or stands between tokens. -/
  covered : ∀ place c, offset ≤ place → Text.StandsAt source place c →
    (∃ token ∈ rows.flatten, token.span.Covers place) ∨ c ∈ [' ', '\t', '\r', '\n'] ∨
      ∃ span, offset ≤ span.start ∧ IsComment source rows.flatten span ∧ span.Covers place

namespace Tiled

variable {source : List Char} {offset : Nat} {rows : List (List Token)}

/-- Behind the end of a source there is nothing to tile. -/
theorem nil (h : Text.byteLength source < offset) : Tiled source offset [] where
  marks _ hmem := absurd hmem List.not_mem_nil
  bounds _ hmem := absurd hmem List.not_mem_nil
  ordered := .nil
  together _ hmem := absurd hmem List.not_mem_nil
  apart := .nil
  covered place c hle hc := absurd hc.lt_byteLength (by omega)

/-- A row without tokens can be left out. -/
theorem of_nil_cons (h : Tiled source offset ([] :: rows)) : Tiled source offset rows where
  marks := h.marks
  bounds := h.bounds
  ordered := h.ordered
  together row hmem := h.together row (List.mem_cons_of_mem _ hmem)
  apart := (List.pairwise_cons.mp h.apart).2
  covered := h.covered

/-- **One line more** in front of what is tiled. -/
theorem cons {line : List Char} {row : List Token}
    (hline : EndsLine source ⟨offset, Text.byteLength line⟩ line)
    (hcuts : Cuts line offset (row.map Token.lexeme))
    (hrows : Tiled source (offset + Text.byteLength line + 1) rows) :
    Tiled source offset (row :: rows) := by
  have hrow : ∀ token ∈ row, offset ≤ token.span.start ∧ token.span.start < token.span.stop ∧
      token.span.stop ≤ offset + Text.byteLength line :=
    fun token hmem => hcuts.bounds token.lexeme (List.mem_map_of_mem hmem)
  have hbehind : ∀ token ∈ row, ∀ next ∈ rows.flatten,
      token.span.stop ≤ offset + Text.byteLength line ∧
        offset + Text.byteLength line < next.span.start := by
    intro token htoken next hnext
    have hstop := (hrow token htoken).2.2
    have hstart := (hrows.bounds next hnext).1
    exact ⟨hstop, by omega⟩
  refine ⟨?_, ?_, ?_, ?_, ?_, ?_⟩
  · intro token hmem
    rcases List.mem_append.mp hmem with hmem | hmem
    · exact hcuts.marks hline token.lexeme (List.mem_map_of_mem hmem)
    · exact hrows.marks token hmem
  · intro token hmem
    rcases List.mem_append.mp hmem with hmem | hmem
    · exact ⟨(hrow token hmem).1, (hrow token hmem).2.1⟩
    · have hstart := hrows.bounds token hmem
      exact ⟨by omega, hstart.2⟩
  · refine List.pairwise_append.mpr ⟨List.pairwise_map.mp hcuts.pairwise, hrows.ordered,
      fun token htoken next hnext => ?_⟩
    have hboth := hbehind token htoken next hnext
    omega
  · rw [List.forall_mem_cons]
    refine ⟨fun token htoken next hnext place hstop hstart => hline.not_feed ⟨?_, ?_⟩,
      hrows.together⟩
    · have hleft := hrow token htoken
      show offset ≤ place
      omega
    · have hright := hrow next hnext
      show place < offset + Text.byteLength line
      omega
  · refine List.pairwise_cons.mpr ⟨fun later hlater token htoken next hnext => ?_, hrows.apart⟩
    have hmem : next ∈ rows.flatten := List.mem_flatten_of_mem hlater hnext
    obtain ⟨hstop, hstart⟩ := hbehind token htoken next hmem
    have hinside := (hrows.marks next hmem).stop_le
    have hlt := (hrows.bounds next hmem).2
    exact ⟨_, hstop, hstart, hline.standsAt_feed (show offset + Text.byteLength line < _ by omega)⟩
  · intro place c hle hc
    rcases Nat.lt_trichotomy place (offset + Text.byteLength line) with hlt | rfl | hgt
    · refine hcuts.covers_source hline (fun token hmem => ?_) hc ⟨hle, hlt⟩
      exact Nat.le_trans (Nat.le_succ _) (hrows.bounds token hmem).1
    · exact Or.inr (Or.inl (by rw [hline.eq_feed hc]; decide))
    · rcases hrows.covered place c (by omega) hc with
        ⟨token, hmem, hcovers⟩ | hsep | ⟨span, hspan, ⟨htext, houtside⟩, hcovers⟩
      · exact Or.inl ⟨token, List.mem_append_right _ hmem, hcovers⟩
      · exact Or.inr (Or.inl hsep)
      · refine Or.inr (Or.inr ⟨span, by omega, ⟨htext, fun token hmem => ?_⟩, hcovers⟩)
        rcases List.mem_append.mp hmem with hmem | hmem
        · have hstop := (hrow token hmem).2.2
          exact Or.inl (by omega)
        · exact houtside token hmem

/-- **Tokens are in one row** exactly if no line feed stands between them. -/
theorem eq_iff_no_feed (h : Tiled source offset rows) {i k : Nat} {row later : List Token}
    (hle : i ≤ k) (hrow : rows[i]? = some row) (hlater : rows[k]? = some later) {token next : Token}
    (htoken : token ∈ row) (hnext : next ∈ later) :
    i = k ↔ ∀ place, token.span.stop ≤ place → place < next.span.start →
      ¬ Text.StandsAt source place '\n' := by
  constructor
  · rintro rfl
    obtain rfl : row = later := Option.some.inj (hrow.symm.trans hlater)
    exact h.together row (List.mem_of_getElem? hrow) token htoken next hnext
  · intro hnone
    by_contra hne
    obtain ⟨hi, rfl⟩ := List.getElem?_eq_some_iff.mp hrow
    obtain ⟨hk, rfl⟩ := List.getElem?_eq_some_iff.mp hlater
    obtain ⟨place, hstop, hstart, hfeed⟩ := List.pairwise_iff_getElem.mp h.apart i k hi hk
      (Nat.lt_of_le_of_ne hle hne) token htoken next hnext
    exact hnone place hstop hstart hfeed

/-- **The tokens of lines tile the source** from the first of the lines on. -/
theorem of_tokensOfLines {lines : List (List Char)} (hlines : LinesAt source offset lines)
    (h : Source.tokensOfLines lines offset = .ok rows) : Tiled source offset rows := by
  induction hlines generalizing rows with
  | nil hend =>
    obtain rfl := Except.ok.inj h
    exact nil hend
  | @cons line lines offset hline _ ih =>
    obtain ⟨row, others, hrow, hothers, rfl⟩ := Source.tokensOfLines_cons_eq_ok_iff.mp h
    have hall := cons hline (Cursor.cuts_of_tokens hrow).1 (ih hothers)
    -- a line without tokens leaves no row behind
    cases row with
    | nil => exact hall.of_nil_cons
    | cons token row => exact hall

end Tiled

/-! ## The whole source -/

/-- The tokens of a source text tile all of it. -/
theorem Tiled.of_tokens {source : String} {rows : List (List Token)}
    (h : Source.tokens source = .ok rows) : Tiled source.toList 0 rows :=
  of_tokensOfLines (linesAt_splitOn source.toList) h

namespace Source

/-- **Tokens tile their source.** Every token is written in the source where its span
says, tokens follow each other without overlap, rows are what line feeds divide,
and what is in no token is space or comment. -/
theorem tokens_tile {source : String} {rows : List (List Token)} (h : tokens source = .ok rows) :
    (∀ token ∈ rows.flatten, token.literal ≠ "" ∧
      token.span.Marks source.toList token.literal.toList ∧
      token.span.stop ≤ source.utf8ByteSize ∧
      source.toUTF8.extract token.span.start token.span.stop = token.literal.toUTF8) ∧
    (rows.flatten.Pairwise fun (token next : Token) =>
      token.span.start < next.span.start ∧ token.span.stop ≤ next.span.start) ∧
    (∀ (i k : Nat) (row later : List Token), i ≤ k → rows[i]? = some row → rows[k]? = some later →
      ∀ token ∈ row, ∀ next ∈ later,
        (i = k ↔ ∀ place, token.span.stop ≤ place → place < next.span.start →
          ¬ Text.StandsAt source.toList place '\n')) ∧
    ∀ place c, Text.StandsAt source.toList place c →
      (∃ token ∈ rows.flatten, token.span.Covers place) ∨ c ∈ [' ', '\t', '\r', '\n'] ∨
        ∃ span, IsComment source.toList rows.flatten span ∧ span.Covers place := by
  have htiled := Tiled.of_tokens h
  refine ⟨fun token hmem => ?_, ?_, ?_, ?_⟩
  · have hmarks := htiled.marks token hmem
    refine ⟨?_, hmarks, ?_, hmarks.extract_toUTF8⟩
    · intro hempty
      obtain ⟨-, -, -, -, hlength⟩ := hmarks
      have hlt := (htiled.bounds token hmem).2
      rw [hempty] at hlength
      rw [Span.stop, ← hlength] at hlt
      exact absurd hlt (Nat.lt_irrefl _)
    · rw [Text.utf8ByteSize_eq]
      exact hmarks.stop_le
  · refine htiled.ordered.imp_of_mem fun htoken _ hstop => ⟨?_, hstop⟩
    exact Nat.lt_of_lt_of_le (htiled.bounds _ htoken).2 hstop
  · intro i k row later hle hrow hlater token htoken next hnext
    exact htiled.eq_iff_no_feed hle hrow hlater htoken hnext
  · intro place c hc
    rcases htiled.covered place c (Nat.zero_le place) hc with htoken | hsep | ⟨span, -, hcomment⟩
    · exact Or.inl htoken
    · exact Or.inr (Or.inl hsep)
    · exact Or.inr (Or.inr ⟨span, hcomment⟩)

/-- A semicolon in a string, characters of two bytes, a comment and an empty line. -/
theorem tokens_tile_comment :
    ∃ rows, tokens "l\u00e9: DB \"\u00e9;\" ;\u00e9\r\n\n\tOUT" = .ok rows ∧
      rows.map (List.map fun token => (token.literal, token.span))
        = [[("l\u00e9:", ⟨0, 4⟩), ("DB", ⟨5, 2⟩), ("\"\u00e9;\"", ⟨8, 5⟩)], [("OUT", ⟨21, 3⟩)]] ∧
      rows.flatten.Pairwise fun (token next : Token) =>
        token.span.start < next.span.start ∧ token.span.stop ≤ next.span.start := by
  have hrows : tokens "l\u00e9: DB \"\u00e9;\" ;\u00e9\r\n\n\tOUT" = .ok
      [[⟨.label, "l\u00e9:", .name "l\u00e9", ⟨0, 4⟩⟩, ⟨.identifier, "DB", .name "DB", ⟨5, 2⟩⟩,
        ⟨.string, "\"\u00e9;\"", .bytes [233, 59], ⟨8, 5⟩⟩],
      [⟨.identifier, "OUT", .name "OUT", ⟨21, 3⟩⟩]] := by
    decide +kernel
  exact ⟨_, hrows, rfl, (tokens_tile hrows).2.1⟩

end Source

end AccumulatorMachine
