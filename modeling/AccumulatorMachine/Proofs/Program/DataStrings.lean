import AccumulatorMachine.Proofs.Program.Linking
import AccumulatorMachine.Proofs.Source.Literals
import AccumulatorMachine.Proofs.Source.Spacing
import AccumulatorMachine.Proofs.Source.Writing

/-!
# Strings of data

Every list of bytes can be put into memory by a line of source text: written as a string
(`Literal.quoted`), it comes back as it was through every stage. The cursor takes the
string as one lexeme and the lexeme is a token of these bytes
(`Literal.nextLexeme_quoted`, `Literal.ofLexeme_quoted`), behind whatever opens a line of
data (`OpensData.exists_tokens`); the statement of the line takes a word for each byte and
one more (`Layout.exists_place_data`), and has the bytes and a zero as its words.

On the way a string is unescaped. A body without backslashes stands for itself
(`Spelling.unescape_of_notMem`), and so does a backslash that does not escape anything,
with the character behind it (`Spelling.unescape_kept`).
-/

namespace AccumulatorMachine

/-! ## Bodies that stand for themselves -/

namespace Spelling

/-- **A body without backslashes** stands for itself. -/
theorem unescape_of_notMem {body : List Char} (h : '\\' ∉ body) : unescape body = body := by
  induction body with
  | nil => rfl
  | cons c body ih =>
    rw [List.mem_cons, not_or] at h
    rw [unescape_plain (Ne.symm h.1), ih h.2]

/-- A character that no backslash gives a meaning to. -/
theorem escape?_eq_none {c : Char} (h : c ∉ ['n', 't', 'r', '0', '\\', '"']) :
    escape? c = none := by
  simp only [List.mem_cons, List.not_mem_nil, or_false, not_or] at h
  obtain ⟨hline, htab, hreturn, hzero, hbackslash, hquote⟩ := h
  rw [escape?] <;> assumption

/-- **A backslash in front of any other character** is kept with it. -/
theorem unescape_kept {front : List Char} (hfront : Unescaped front) {c : Char}
    (hc : c ∉ ['n', 't', 'r', '0', '\\', '"']) (rest : List Char) :
    unescape (front ++ '\\' :: c :: rest) = unescape front ++ '\\' :: c :: unescape rest := by
  rw [unescape_append hfront, unescape_pair, meaning, escape?_eq_none hc]
  rfl

end Spelling

/-! ## The token of a string -/

namespace Literal

variable (values : List UInt8)

/-- **The cursor takes written bytes as one lexeme** where a lexeme can end. -/
theorem nextLexeme_quoted {rest : List Char} (hrest : EndsWord rest) (offset : Nat) :
    Cursor.nextLexeme ⟨quoted values ++ rest, offset⟩
      = (.ok (some (Lexeme.ofWord (quoted values) offset)),
        ⟨rest, offset + Text.byteLength (quoted values)⟩) :=
  Cursor.nextLexeme_of_word (isWord_quoted values) hrest offset

/-- The token of written bytes at an offset. -/
def token (offset : Nat) : Token :=
  ⟨.string, String.ofList (quoted values), .bytes values, ⟨offset, Text.byteLength (quoted values)⟩⟩

/-- The lexeme of written bytes is spelled as their string. -/
theorem spells_lexeme (offset : Nat) :
    Spells (Lexeme.ofWord (quoted values) offset).text.toList (.string values) := by
  rw [Lexeme.toList_text_ofWord]
  exact spells_quoted values

/-- **The lexeme of written bytes is their token.** -/
theorem ofLexeme_quoted (offset : Nat) :
    Token.ofLexeme (Lexeme.ofWord (quoted values) offset) = .ok (token values offset) :=
  (spells_lexeme values offset).ofLexeme_eq

/-- The token of written bytes says their string. -/
theorem says_token (offset : Nat) : (token values offset).Says (.string values) :=
  Term.says_token (spells_lexeme values offset)

end Literal

/-! ## Lines of data -/

/-- **What opens a line of data**: a label, if there is one, the mnemonic of data in any
case, and a separator at least. -/
def OpensData (label : Option String) (front : List Char) : Prop :=
  ∃ before gap word, front = before ++ gap ∧ ';' ∉ before ∧
    WritesTerms before ((label.map Term.label).toList ++ [.identifier word]) ∧
    Text.upperCase word = Mnemonic.data.name ∧ gap ≠ [] ∧ ∀ c ∈ gap, isSeparator c = true

/-- **The tokens of a line of data** are those of its front and the token of the string. -/
theorem OpensData.exists_tokens {label : Option String} {front : List Char}
    (h : OpensData label front) (values : List UInt8) {trail : List Char}
    (htrail : BlankLine trail) (offset : Nat) :
    ∃ opening word, Text.upperCase word = Mnemonic.data.name ∧
      List.Forall₂ Token.Says opening ((label.map Term.label).toList ++ [.identifier word]) ∧
      Cursor.tokens ⟨front ++ (Literal.quoted values ++ trail), offset⟩
        = .ok (opening ++ [Literal.token values (offset + Text.byteLength front)]) := by
  obtain ⟨before, gap, word, rfl, hcomment, hwrites, hword, hgap, hseparators⟩ := h
  obtain ⟨opening, hopening, hsaid⟩ := hwrites.exists_tokens offset
  obtain ⟨lexemes, hcuts, htokens⟩ := Cursor.tokens_eq_ok_iff.mp hopening
  obtain ⟨first, others, rfl⟩ := List.exists_cons_of_ne_nil hgap
  have hend : EndsWord (first :: others ++ (Literal.quoted values ++ trail)) :=
    .of_isSeparator (hseparators first List.mem_cons_self) _
  have hstring := Cuts.word (Literal.isWord_quoted values) htrail.endsWord (htrail.cuts
    (offset + Text.byteLength before + Text.byteLength (first :: others)
      + Text.byteLength (Literal.quoted values)))
  have hline := hcuts.append hcomment hend (hstring.skipAll hseparators)
  refine ⟨opening, word, hword, hsaid, ?_⟩
  rw [List.append_assoc, Text.byteLength_append, ← Nat.add_assoc]
  exact Cursor.tokens_eq_ok_iff.mpr
    ⟨_, hline, List.rel_append htokens (.cons (Literal.ofLexeme_quoted values _) .nil)⟩

/-- The operands of a statement are the last of its tokens. -/
theorem Statement.operands_suffix {tokens : List Token} {statement : Statement}
    (h : ofTokens tokens = .ok statement) : statement.operands <:+ tokens := by
  cases tokens with
  | nil => exact absurd h (by simp [ofTokens, ofRest])
  | cons token rest =>
    rw [ofTokens] at h
    split at h
    · obtain ⟨word, operands, rfl, -, rfl⟩ := ofRest_eq_ok_iff.mp h
      exact (List.suffix_cons word operands).trans (List.suffix_cons token _)
    · obtain ⟨word, operands, heq, -, rfl⟩ := ofRest_eq_ok_iff.mp h
      rw [heq]
      exact List.suffix_cons word operands

/-- **The statement of a line of data** has the token of the string as its operand. -/
theorem Statement.exists_ofTokens_data {label : Option String} {word : String}
    (hword : Text.upperCase word = Mnemonic.data.name) {opening : List Token}
    (hsaid : List.Forall₂ Token.Says opening ((label.map Term.label).toList ++ [.identifier word]))
    (values : List UInt8) (offset : Nat) :
    ∃ statement, Statement.ofTokens (opening ++ [Literal.token values offset]) = .ok statement ∧
      statement.labelName = label ∧ statement.mnemonic = Mnemonic.data.name ∧
      statement.operands = [Literal.token values offset] := by
  have hterms : ((label.map Term.label).toList ++ [.identifier word]) ++ [.string values]
      = SourceLine.terms ⟨label, word, [.string values]⟩ :=
    List.append_assoc _ _ _
  have hboth : List.Forall₂ Token.Says (opening ++ [Literal.token values offset])
      (SourceLine.terms ⟨label, word, [.string values]⟩) := by
    rw [← hterms]
    exact List.rel_append hsaid (.cons (Literal.says_token values offset) .nil)
  obtain ⟨statement, hstatement, hsays⟩ := Statement.exists_ofTokens hboth
  refine ⟨statement, hstatement, hsays.label, hsays.mnemonic.trans hword, ?_⟩
  obtain ⟨operand, others, -, hothers, hoperands⟩ :=
    List.forall₂_cons_right_iff.mp hsays.operands
  rw [List.forall₂_nil_right_iff.mp hothers] at hoperands
  have hsuffix := Statement.operands_suffix hstatement
  rw [hoperands] at hsuffix ⊢
  obtain ⟨front, hfront⟩ := hsuffix
  exact (List.append_inj' hfront rfl).2

/-! ## The words of a string -/

/-- **Placing a string of data** takes a word for each byte and one more. -/
theorem Layout.exists_place_data {layout : Layout} {statement : Statement} {values : List UInt8}
    {offset : Nat} (hmnemonic : statement.mnemonic = Mnemonic.data.name)
    (hoperands : statement.operands = [Literal.token values offset])
    (hnew : ∀ name, statement.labelName = some name → layout.labels.lookup name = none) :
    ∃ placed added, layout.place statement = .ok placed ∧
      placed.statements = layout.statements ++ [added] ∧ added.size = values.length + 1 ∧
      added.mnemonic = .data ∧ added.operands = [.bytes values] := by
  have hname : Mnemonic.ofName? statement.mnemonic = some .data := by
    rw [hmnemonic]
    rfl
  have hread : operands .data statement.span statement.operands = .ok [.bytes values] := by
    rw [hoperands]
    rfl
  let added : PlacedStatement :=
    ⟨statement.label, .data, [.bytes values], layout.size, values.length + 1, statement.span⟩
  have hreads : added.Reads statement := ⟨rfl, hname, hread, rfl, rfl⟩
  exact ⟨_, added, place_eq_ok_iff.mpr ⟨hnew, added, hreads, rfl, rfl⟩, rfl, rfl, rfl, rfl⟩

/-- **A string of data has its bytes and a zero as its words**, wherever it is. -/
theorem Layout.exists_assembleStatement_data {placed : PlacedStatement} {values : List UInt8}
    (hmnemonic : placed.mnemonic = .data) (hoperands : placed.operands = [.bytes values])
    (layout : Layout) :
    ∃ assembled, layout.assembleStatement placed = .ok assembled ∧
      assembled.words = values ++ [0] := by
  obtain ⟨label, mnemonic, operands, address, size, span⟩ := placed
  subst hmnemonic hoperands
  exact ⟨_, rfl, rfl⟩

namespace Literal

/-- **Every list of bytes can be written as a string and comes back.** In front of the end
of a line, a separator or a comment the cursor takes the written bytes as one lexeme, which
is a token of these bytes. In a line of data this token is the operand of its statement,
which takes a word for each byte and one more, and has the bytes and a zero as its words.

A body without backslashes stands for itself, and a backslash in front of a character that
it gives no meaning to is kept with this character. -/
theorem quoted_comesBack :
    (∀ (values : List UInt8) (rest : List Char) (offset : Nat),
      (∀ c ∈ rest.head?, c ∈ [' ', '\t', '\r', ';']) →
      let lexeme : Lexeme :=
        ⟨String.ofList (quoted values), ⟨offset, Text.byteLength (quoted values)⟩⟩
      '\n' ∉ quoted values ∧
      Cursor.nextLexeme ⟨quoted values ++ rest, offset⟩
        = (.ok (some lexeme), ⟨rest, lexeme.span.stop⟩) ∧
      Token.ofLexeme lexeme = .ok ⟨.string, lexeme.text, .bytes values, lexeme.span⟩) ∧
    (∀ (label : Option String) (front trail : List Char) (values : List UInt8) (offset : Nat),
      OpensData label front → BlankLine trail →
      ∃ opening statement,
        Cursor.tokens ⟨front ++ (quoted values ++ trail), offset⟩
          = .ok (opening ++ [token values (offset + Text.byteLength front)]) ∧
        Statement.ofTokens (opening ++ [token values (offset + Text.byteLength front)])
          = .ok statement ∧
        statement.labelName = label ∧
        statement.operands = [token values (offset + Text.byteLength front)] ∧
        ∀ layout : Layout, (∀ name, label = some name → layout.labels.lookup name = none) →
          ∃ placed added, layout.place statement = .ok placed ∧
            placed.statements = layout.statements ++ [added] ∧ added.size = values.length + 1 ∧
            ∀ whole : Layout, ∃ assembled, whole.assembleStatement added = .ok assembled ∧
              assembled.words = values ++ [0]) ∧
    (∀ body : List Char, '\\' ∉ body → Spelling.unescape body = body) ∧
    ∀ (front : List Char) (c : Char) (rest : List Char), Unescaped front →
      c ∉ ['n', 't', 'r', '0', '\\', '"'] →
      Spelling.unescape (front ++ '\\' :: c :: rest)
        = Spelling.unescape front ++ '\\' :: c :: Spelling.unescape rest := by
  refine ⟨?_, ?_, fun body h => Spelling.unescape_of_notMem h,
    fun front c rest hfront hc => Spelling.unescape_kept hfront hc rest⟩
  · intro values rest offset hrest lexeme
    have hend : EndsWord rest := fun c hc => continuesLexeme_eq_false_iff.mpr (hrest c hc)
    exact ⟨feed_notMem_quoted values, nextLexeme_quoted values hend offset,
      ofLexeme_quoted values offset⟩
  · intro label front trail values offset hfront htrail
    obtain ⟨opening, word, hword, hsaid, htokens⟩ := hfront.exists_tokens values htrail offset
    obtain ⟨statement, hstatement, hlabel, hmnemonic, hoperands⟩ :=
      Statement.exists_ofTokens_data hword hsaid values (offset + Text.byteLength front)
    refine ⟨opening, statement, htokens, hstatement, hlabel, hoperands, fun layout hnew => ?_⟩
    obtain ⟨placed, added, hplaced, hadded, hsize, hdata, hbytes⟩ :=
      Layout.exists_place_data hmnemonic hoperands (hlabel ▸ hnew)
    exact ⟨placed, added, hplaced, hadded, hsize,
      Layout.exists_assembleStatement_data hdata hbytes⟩

/-- Bytes that are written by pairs, one of them in front of a letter that a backslash gives
a meaning to, and a carriage return, a zero and a semicolon, in a line with a label, the
mnemonic in both cases and a comment. -/
theorem quoted_comesBack_mixed :
    let values : List UInt8 := [34, 92, 110, 10, 13, 0, 59]
    let front := ['a', ':', ' ', 'd', 'B', '\t']
    quoted values
        = ['"', '\\', '"', '\\', '\\', 'n', '\\', 'n', '\r', '\x00', ';', '"'] ∧
      Cursor.nextLexeme ⟨quoted values ++ [';', '"'], 6⟩
        = (.ok (some ⟨String.ofList (quoted values), ⟨6, 12⟩⟩), ⟨[';', '"'], 18⟩) ∧
      OpensData (some "a") front ∧ BlankLine [';', '"'] ∧
      (∃ opening statement,
        Cursor.tokens ⟨front ++ (quoted values ++ [';', '"']), 0⟩
          = .ok (opening ++ [token values 6]) ∧
        Statement.ofTokens (opening ++ [token values 6]) = .ok statement ∧
        ∃ placed added, Layout.empty.place statement = .ok placed ∧
          placed.statements = [added] ∧ added.size = 8 ∧
          ∃ assembled, placed.assembleStatement added = .ok assembled ∧
            assembled.words = [34, 92, 110, 10, 13, 0, 59, 0]) ∧
      Spelling.unescape ['a', ';'] = ['a', ';'] ∧
      Spelling.unescape ['\\', '\\', '\\', 'x', 'n'] = ['\\', '\\', 'x', 'n'] := by
  intro values front
  have hspace : isSeparator ' ' = true := by decide
  have hlabel : Spells (['a'] ++ [':']) (.label "a") := .label (Spelling.isName_iff.mp (by decide))
  have hmnemonic : Spells ['d', 'B'] (.identifier "dB") :=
    .identifier (Spelling.isName_iff.mp (by decide))
  have hwrites : WritesTerms (['a', ':'] ++ ' ' :: (['d', 'B'] ++ []))
      [.label "a", .identifier "dB"] :=
    .word (.plain (by decide) (List.all_eq_true.mp (by decide))) (.of_isSeparator hspace _) hlabel
      (.skip hspace (.word (.plain (by decide) (List.all_eq_true.mp (by decide)))
        (fun c hc => absurd hc (Option.not_mem_none c)) hmnemonic .nil))
  have hfront : OpensData (some "a") front :=
    ⟨['a', ':', ' ', 'd', 'B'], ['\t'], "dB", rfl, by decide, hwrites, by decide,
      List.cons_ne_nil _ _, List.all_eq_true.mp (by decide)⟩
  have htrail : BlankLine [';', '"'] :=
    ⟨[], [';', '"'], rfl, List.all_eq_true.mp rfl, Or.inr ⟨['"'], rfl⟩⟩
  have hend : ∀ c ∈ [';', '"'].head?, c ∈ [' ', '\t', '\r', ';'] := by
    rintro c hc
    obtain rfl : ';' = c := Option.some.inj hc
    decide
  obtain ⟨hlexeme, hline, hplain, hkept⟩ := quoted_comesBack
  obtain ⟨opening, statement, htokens, hstatement, -, -, hplace⟩ :=
    hline (some "a") front [';', '"'] values 0 hfront htrail
  obtain ⟨placed, added, hplaced, hadded, hsize, hwords⟩ := hplace .empty fun _ _ => rfl
  exact ⟨rfl, (hlexeme values [';', '"'] 6 hend).2.1, hfront, htrail,
    ⟨opening, statement, htokens, hstatement, placed, added, hplaced, hadded, hsize,
      hwords placed⟩,
    hplain ['a', ';'] (by decide), hkept ['\\', '\\'] 'x' ['n'] (by decide) (by decide)⟩

end Literal

end AccumulatorMachine
