import AccumulatorMachine.Proofs.Source.Lines

/-!
# Writing programs

Which program a source text writes can be computed, since a token tells the term
that it was written for (`writesProgram_iff`). So what a fixed text writes is a
matter of evaluation, and a text that is only known in part is taken apart: a line
into its words (`WritesTerms.word`), and a source text into its lines
(`WritesProgram.line`).
-/

namespace AccumulatorMachine

/-! ## Reading terms off tokens -/

/-- **The term that a token was written for.** -/
def Token.term (token : Token) : Term :=
  match token.kind, token.value with
  | .label, .name text => .label text
  | .address, .name text => .address text
  | .number, .byte value => .number value
  | .string, .bytes values => .string values
  | _, .name text => .identifier text
  | _, _ => .identifier token.literal

/-- A token tells the term that it says. -/
theorem Token.Says.term_eq {token : Token} {term : Term} (h : token.Says term) :
    token.term = term := by
  unfold Token.term
  rw [h.kind, h.value]
  cases term <;> rfl

/-- Rows of tokens tell the terms that they say. -/
theorem map_term_eq {rows : List (List Token)} {terms : List (List Term)}
    (h : List.Forall₂ (List.Forall₂ Token.Says) rows terms) :
    rows.map (List.map Token.term) = terms :=
  (map_eq_of_forall₂ h fun _ line hline =>
    (map_eq_of_forall₂ hline fun _ _ hsays => hsays.term_eq).trans (List.map_id line)).trans
      (List.map_id terms)

/-- **What a source text writes can be read off its tokens.** -/
theorem writesProgram_iff {source : String} {program : List SourceLine} :
    WritesProgram source program ↔
      (Source.tokens source).map (List.map (List.map Token.term))
        = .ok (program.map SourceLine.terms) := by
  constructor
  · rintro ⟨texts, terms, hne, hnone, hjoin, hterms, hprogram⟩
    obtain ⟨rows, hrows, hsaid⟩ := Source.exists_tokensOfLines hterms 0
    have htokens : Source.tokens source = .ok rows := by
      rw [Source.tokens, Text.splitOn_eq_iff.mpr ⟨hne, hnone, hjoin⟩, hrows]
    exact map_eq_ok_iff.mpr ⟨rows, htokens, (map_term_eq hsaid).trans hprogram⟩
  · intro h
    obtain ⟨rows, hrows, hsame⟩ := map_eq_ok_iff.mp h
    obtain ⟨terms, hterms, hsaid⟩ := Source.writesTerms_of_tokensOfLines hrows
    obtain ⟨hne, hnone, hjoin⟩ :=
      Text.splitOn_eq_iff.mp (rfl : Text.splitOn '\n' source.toList = _)
    exact ⟨_, terms, hne, hnone, hjoin, hterms, (map_term_eq hsaid).symm.trans hsame⟩

instance (source : String) (program : List SourceLine) : Decidable (WritesProgram source program) :=
  decidable_of_iff _ writesProgram_iff.symm

example : WritesProgram "end: JMP [end] ; rest" [⟨some "end", "JMP", [.address "end"]⟩] := by
  decide +kernel

/-- **Lines with line feeds between them** write what can be read off the tokens of the
lines. -/
theorem writesProgram_intercalate_iff {lines : List String} (hne : lines ≠ [])
    (hfeed : ∀ line ∈ lines, '\n' ∉ line.toList) {program : List SourceLine} :
    WritesProgram ("\n".intercalate lines) program ↔
      (Source.tokensOfLines (lines.map String.toList) 0).map (List.map (List.map Token.term))
        = .ok (program.map SourceLine.terms) := by
  have hsplit : Text.splitOn '\n' ("\n".intercalate lines).toList = lines.map String.toList := by
    rw [show ("\n".intercalate lines).toList = _ from Text.toList_intercalate '\n' lines]
    exact Text.splitOn_joinWith (mt List.map_eq_nil_iff.mp hne) (List.forall_mem_map.mpr hfeed)
  rw [writesProgram_iff, Source.tokens, hsplit]

/-! ## Lines from words -/

/-- A separator in front of a line makes no difference to its terms. -/
theorem WritesTerms.skip {c : Char} {text : List Char} {terms : List Term}
    (hseparator : isSeparator c = true) (h : WritesTerms text terms) :
    WritesTerms (c :: text) terms := by
  obtain ⟨lexemes, hcuts, hspells⟩ := (writesTerms_iff (0 + c.utf8Size)).mp h
  exact ⟨lexemes, .skip hseparator hcuts, hspells⟩

/-- **A word in front of a line** is one more term. -/
theorem WritesTerms.word {word text : List Char} {term : Term} {terms : List Term}
    (hword : IsWord word) (hend : EndsWord text) (hspells : Spells word term)
    (h : WritesTerms text terms) : WritesTerms (word ++ text) (term :: terms) := by
  obtain ⟨lexemes, hcuts, hrest⟩ := (writesTerms_iff (0 + Text.byteLength word)).mp h
  refine ⟨_, .word hword hend hcuts, .cons ?_ hrest⟩
  show Spells (String.ofList word).toList term
  rw [String.toList_ofList]
  exact hspells

/-- Nothing writes no terms. -/
theorem WritesTerms.nil : WritesTerms [] [] :=
  ⟨[], .done, .nil⟩

/-- A word alone is one term. -/
theorem WritesTerms.single {word : List Char} {term : Term} (hword : IsWord word)
    (hspells : Spells word term) : WritesTerms word [term] := by
  have hend : EndsWord [] := fun c hc => absurd hc (by simp)
  have hterms := WritesTerms.word hword hend hspells .nil
  rwa [List.append_nil] at hterms

/-- A word can end before a separator. -/
theorem EndsWord.of_isSeparator {c : Char} (h : isSeparator c = true) (text : List Char) :
    EndsWord (c :: text) := by
  intro d hd
  obtain rfl := Option.some.inj hd
  unfold continuesLexeme
  rw [h]
  rfl

/-- The name of data in front of a line. -/
theorem WritesTerms.data {text : List Char} {terms : List Term} (h : WritesTerms text terms) :
    WritesTerms (['D', 'B'] ++ ' ' :: text) (.identifier "DB" :: terms) := by
  have hword : IsWord ['D', 'B'] := .plain (by decide) (List.all_eq_true.mp (by decide))
  have hname : Spells ['D', 'B'] (.identifier "DB") :=
    .identifier (Spelling.isName_iff.mp (by decide))
  have hspace : isSeparator ' ' = true := by decide
  exact .word hword (.of_isSeparator hspace _) hname (.skip hspace h)

/-! ## Programs from lines -/

/-- **One more line** adds the lines of a program that its terms are. -/
theorem WritesProgram.line {source : String} {program more : List SourceLine}
    (h : WritesProgram source program) {line : String} (hfeed : '\n' ∉ line.toList)
    {terms : List Term} (hterms : WritesTerms line.toList terms)
    (hmore : [terms].filter (· ≠ []) = more.map SourceLine.terms) :
    WritesProgram (source ++ "\n" ++ line) (program ++ more) := by
  obtain ⟨lines, others, hne, hnone, hjoin, hlines, hprogram⟩ := h
  have htext : (source ++ "\n" ++ line).toList = source.toList ++ '\n' :: line.toList := by
    rw [String.toList_append, String.toList_append, List.append_assoc]
    rfl
  have hsplit : Text.splitOn '\n' (source ++ "\n" ++ line).toList = lines ++ [line.toList] := by
    rw [htext, Text.splitOn_append_cons hfeed, Text.splitOn_eq_iff.mpr ⟨hne, hnone, hjoin⟩]
  obtain ⟨hne, hnone, hjoin⟩ := Text.splitOn_eq_iff.mp hsplit
  refine ⟨_, others ++ [terms], hne, hnone, hjoin,
    List.rel_append hlines (.cons hterms .nil), ?_⟩
  rw [List.filter_append, hprogram, hmore, List.map_append]

/-- A line feed behind a source text adds nothing to its program. -/
theorem WritesProgram.feed {source : String} {program : List SourceLine}
    (h : WritesProgram source program) : WritesProgram (source ++ "\n") program := by
  have hempty : '\n' ∉ "".toList := by decide
  have hline : WritesProgram (source ++ "\n" ++ "") (program ++ []) := h.line hempty .nil rfl
  rwa [String.append_empty, List.append_nil] at hline

end AccumulatorMachine
