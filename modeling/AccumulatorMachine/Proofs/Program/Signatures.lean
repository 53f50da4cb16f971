import AccumulatorMachine.Proofs.Program.Checks

/-!
# Counts and positions of operands

A signature is asked two questions: whether it accepts a number of operands, and what
kinds a position takes. It answers them apart, the first within bounds of which both are
included, the second below the upper one. The two agree: below an accepted number every
position has kinds (`Signature.exists_kindsAt`), and a signature that accepts some number
has none past the largest (`Signature.kindsAt_eq_none_iff`). A signature that accepts no
number at all is the exception, since it may have positions that no operand can stand in.

So once the operands of a statement are counted, the check of a position always finds
kinds, and only two things can still be wrong with an operand: its kind, or the name of
an operator (`Layout.operands_eq_checked`). No instruction takes labels, which therefore
never get as far as being read.
-/

namespace AccumulatorMachine

namespace Signature

/-- **A position below an accepted number has kinds.** -/
theorem exists_kindsAt {signature : Signature} {count index : Nat}
    (hcount : signature.acceptsCount count = true) (hindex : index < count) :
    ∃ kinds, signature.kindsAt index = some kinds := by
  cases signature with
  | exact kinds =>
    obtain rfl : kinds.length = count := beq_iff_eq.mp hcount
    exact ⟨kinds[index], List.getElem?_eq_getElem hindex⟩
  | repeated kinds least most =>
    have hbounds : least ≤ count ∧ count ≤ most := by simpa [acceptsCount] using hcount
    exact ⟨kinds, if_pos (Nat.lt_of_lt_of_le hindex hbounds.2)⟩

/-- **A position has no kinds** if it is not below any accepted number, as long as there
is one. -/
theorem kindsAt_eq_none_iff {signature : Signature}
    (hsome : ∃ count, signature.acceptsCount count = true) {index : Nat} :
    signature.kindsAt index = none ↔
      ¬ ∃ count, signature.acceptsCount count = true ∧ index < count := by
  constructor
  · rintro hnone ⟨count, hcount, hindex⟩
    obtain ⟨kinds, hkinds⟩ := exists_kindsAt hcount hindex
    exact absurd (hnone.symm.trans hkinds) (by simp)
  · intro hpast
    cases signature with
    | exact kinds =>
      exact List.getElem?_eq_none
        (Nat.le_of_not_lt fun hlt => hpast ⟨kinds.length, beq_self_eq_true _, hlt⟩)
    | repeated kinds least most =>
      -- the upper bound is accepted as soon as anything is
      obtain ⟨count, hcount⟩ := hsome
      have hbounds : least ≤ count ∧ count ≤ most := by simpa [acceptsCount] using hcount
      have hmost : (Signature.repeated kinds least most).acceptsCount most = true := by
        simpa [acceptsCount] using Nat.le_trans hbounds.1 hbounds.2
      exact if_neg fun hlt => hpast ⟨most, hmost, hlt⟩

/-- A signature that accepts no number of operands, and has kinds at a position all the
same. -/
example : (∀ count, (repeated (.ofList [.number]) 2 1).acceptsCount count = false) ∧
    (repeated (.ofList [.number]) 2 1).kindsAt 0 = some (.ofList [.number]) := by
  refine ⟨fun count => ?_, rfl⟩
  rw [acceptsCount, Bool.and_eq_false_iff, decide_eq_false_iff_not, decide_eq_false_iff_not]
  omega

end Signature

namespace Layout

/-- **An operand is checked** against the kinds of its position, and read if it is of one
of them. -/
def checkedOperand (mnemonic : Mnemonic) (kinds : KindSet) (index : Nat) (token : Token) :
    Except Fault (Operand Reference) :=
  if kinds.contains token.kind then Operand.ofToken token
  else .error (.wrongKind mnemonic.name index kinds token.kind token.span)

/-- An operand whose position has kinds is checked against them. -/
theorem operand_eq_checked {mnemonic : Mnemonic} {kinds : KindSet} {index : Nat}
    (hkinds : mnemonic.signature.kindsAt index = some kinds) (count : Nat) (token : Token) :
    operand mnemonic count index token = checkedOperand mnemonic kinds index token := by
  unfold operand checkedOperand
  rw [hkinds]

/-- **The operands from a position on** are each checked against the kinds of the
instruction. -/
theorem operandsFrom_eq_checked {mnemonic : Mnemonic} {count index : Nat} {tokens : List Token}
    (hcount : mnemonic.signature.acceptsCount count = true)
    (hindex : index + tokens.length = count) :
    operandsFrom mnemonic count index tokens = (tokens.zipIdx index).mapM fun entry =>
      checkedOperand mnemonic (.ofList mnemonic.kinds) entry.2 entry.1 := by
  induction tokens generalizing index with
  | nil => rfl
  | cons token tokens ih =>
    rw [List.length_cons] at hindex
    have hkinds : mnemonic.signature.kindsAt index = some (.ofList mnemonic.kinds) :=
      Mnemonic.kindsAt_signature hcount (by omega)
    rw [operandsFrom, List.zipIdx_cons, List.mapM_cons, operand_eq_checked hkinds,
      ih (by omega)]
    cases checkedOperand mnemonic (.ofList mnemonic.kinds) index token with
    | error fault => rfl
    | ok first =>
      show Except.map _ _ = Except.bind _ _
      cases (tokens.zipIdx (index + 1)).mapM fun entry =>
        checkedOperand mnemonic (.ofList mnemonic.kinds) entry.2 entry.1 <;> rfl

/-- **Operands of an accepted number** are each checked against the kinds of the
instruction, and nothing else can go wrong with them than that check and their
reading. -/
theorem operands_eq_checked {mnemonic : Mnemonic} {tokens : List Token}
    (hcount : mnemonic.signature.acceptsCount tokens.length = true) (span : Span) :
    operands mnemonic span tokens = tokens.zipIdx.mapM fun entry =>
      checkedOperand mnemonic (.ofList mnemonic.kinds) entry.2 entry.1 := by
  unfold operands
  rw [if_pos hcount, operandsFrom_eq_checked hcount (Nat.zero_add _)]

/-- **Operands of an accepted number fail with no fault of their number.** -/
theorem operands_ne_wrongArity {mnemonic : Mnemonic} {tokens : List Token}
    (hcount : mnemonic.signature.acceptsCount tokens.length = true) (span : Span) (name : String)
    (expected : Arity) (found : Nat) (place : Span) :
    operands mnemonic span tokens ≠ .error (.wrongArity name expected found place) := by
  intro herror
  obtain ⟨hother, -⟩ | ⟨-, _, token, _, -, -, hrefused⟩ := operands_eq_error_iff.mp herror
  · exact hother hcount
  · cases hrefused

/-- A statement with an accepted number of operands is not refused for it. -/
theorem place_ne_wrongArity {mnemonic : Mnemonic} {statement : Statement}
    (hmnemonic : Mnemonic.ofName? statement.mnemonic = some mnemonic)
    (hcount : mnemonic.signature.acceptsCount statement.operands.length = true) (layout : Layout)
    (name : String) (expected : Arity) (found : Nat) (place : Span) :
    layout.place statement ≠ .error (.wrongArity name expected found place) := by
  unfold Layout.place
  rw [hmnemonic]
  dsimp only
  cases hdefine : layout.defineLabel statement.label with
  | ok defined =>
    exact fun herror => operands_ne_wrongArity hcount _ _ _ _ _ (map_eq_error_iff.mp herror)
  | error fault =>
    -- a label can only be refused for being taken
    intro herror
    obtain rfl := Except.error.inj herror
    cases hlabel : statement.label with
    | none => simp [defineLabel, hlabel] at hdefine
    | some label =>
      rw [hlabel, defineLabel] at hdefine
      split at hdefine <;> simp at hdefine

/-- Kinds that an instruction takes are not that of labels. -/
theorem mem_of_contains_kinds {mnemonic : Mnemonic} {kind : TokenKind}
    (h : (KindSet.ofList mnemonic.kinds).contains kind = true) :
    kind ∈ [TokenKind.number, .string, .address, .identifier] := by
  rw [KindSet.contains_ofList, decide_eq_true_iff] at h
  have hlabel := Mnemonic.ne_label_of_mem_kinds h
  cases kind with
  | label => exact absurd rfl hlabel
  | _ => decide

/-- **The number of operands is decided once and for all.** A signature of any form has
kinds at every position below a number of operands that it accepts and, if it accepts any
number, at no position that is not below one.

So when the number of operands of a statement was accepted, every operand is checked
against kinds, and is read only if it is a number, a string, an address or an identifier,
never a label. All its operands together come to what this check of each of them comes to, in
order, and neither they nor the statement are refused for their number again. -/
theorem count_settles_positions :
    (∀ (signature : Signature) (count : Nat), signature.acceptsCount count = true →
      ∀ index < count, ∃ kinds, signature.kindsAt index = some kinds) ∧
    (∀ signature : Signature, (∃ count, signature.acceptsCount count = true) →
      ∀ index, (¬ ∃ count, signature.acceptsCount count = true ∧ index < count) →
        signature.kindsAt index = none) ∧
    ∀ (mnemonic : Mnemonic) (tokens : List Token),
      mnemonic.signature.acceptsCount tokens.length = true →
      (∃ kinds : KindSet,
        (∀ index < tokens.length, mnemonic.signature.kindsAt index = some kinds) ∧
        (∀ index token, tokens[index]? = some token →
          operand mnemonic tokens.length index token
            = checkedOperand mnemonic kinds index token) ∧
        (∀ span, operands mnemonic span tokens = tokens.zipIdx.mapM fun entry =>
          checkedOperand mnemonic kinds entry.2 entry.1) ∧
        ∀ token : Token, kinds.contains token.kind = true →
          token.kind ∈ [TokenKind.number, .string, .address, .identifier]) ∧
      ∀ (name : String) (expected : Arity) (found : Nat) (place : Span),
        (∀ index token, tokens[index]? = some token →
          operand mnemonic tokens.length index token
            ≠ .error (.wrongArity name expected found place)) ∧
        (∀ span, operands mnemonic span tokens
          ≠ .error (.wrongArity name expected found place)) ∧
        ∀ (layout : Layout) (statement : Statement),
          Mnemonic.ofName? statement.mnemonic = some mnemonic → statement.operands = tokens →
            layout.place statement ≠ .error (.wrongArity name expected found place) := by
  refine ⟨fun _ _ hcount _ hindex => Signature.exists_kindsAt hcount hindex,
    fun _ hsome _ hpast => (Signature.kindsAt_eq_none_iff hsome).mpr hpast,
    fun mnemonic tokens hcount => ⟨⟨.ofList mnemonic.kinds, ?_, ?_, operands_eq_checked hcount,
      fun _ => mem_of_contains_kinds⟩, fun name expected found place => ⟨?_,
      fun span => operands_ne_wrongArity hcount span name expected found place, ?_⟩⟩⟩
  · exact fun index hindex => Mnemonic.kindsAt_signature hcount hindex
  · intro index token htoken
    obtain ⟨hindex, -⟩ := List.getElem?_eq_some_iff.mp htoken
    exact operand_eq_checked (Mnemonic.kindsAt_signature hcount hindex) _ token
  · intro index token htoken herror
    obtain ⟨hindex, -⟩ := List.getElem?_eq_some_iff.mp htoken
    cases (operand_eq_error_iff hcount hindex).mp herror
  · rintro layout statement hmnemonic rfl
    exact place_ne_wrongArity hmnemonic hcount layout name expected found place

/-- Five operators, the most that are accepted, and a label among them, which is refused
for its kind and not read. -/
theorem count_settles_positions_five :
    let word : Token := ⟨.identifier, "ror", .name "ror", ⟨4, 3⟩⟩
    let label : Token := ⟨.label, "inc:", .name "inc", ⟨8, 4⟩⟩
    let tokens := [word, label, word, word, word]
    Mnemonic.operate.signature.acceptsCount tokens.length = true ∧
      (∃ kinds, Mnemonic.operate.signature.kindsAt 4 = some kinds) ∧
      Mnemonic.operate.signature.kindsAt 5 = none ∧
      operands .operate ⟨0, 3⟩ tokens
        = .error (.wrongKind "OPR" 1 (.ofList [.identifier]) .label ⟨8, 4⟩) ∧
      operands .operate ⟨0, 3⟩ tokens ≠ .error (.wrongArity "OPR" (.between 1 5) 5 ⟨8, 4⟩) := by
  intro word label tokens
  have hcount : Mnemonic.operate.signature.acceptsCount tokens.length = true := rfl
  obtain ⟨hbelow, hpast, hstatement⟩ := count_settles_positions
  refine ⟨hcount, hbelow _ _ hcount 4 (by decide), ?_, by decide,
    ((hstatement .operate tokens hcount).2 _ _ _ _).2.1 _⟩
  refine hpast _ ⟨_, hcount⟩ 5 ?_
  rintro ⟨count, haccepted, hlt⟩
  have hbounds : 1 ≤ count ∧ count ≤ Operator.all.length := by
    simpa [Mnemonic.signature, Signature.acceptsCount] using haccepted
  exact absurd hlt (Nat.not_lt.mpr hbounds.2)

end Layout

end AccumulatorMachine
