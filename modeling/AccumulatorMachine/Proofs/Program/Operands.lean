import AccumulatorMachine.Program.Layout
import AccumulatorMachine.Proofs.Source.Lines

/-!
# Which operands are understood

A signature answers position by position, and it answers before an operand is
looked at. For the instructions of the language neither matters: the positions
of one instruction all take the same kinds, `Mnemonic.kinds`, so its operands
are understood exactly if there are as many as it takes and each is of one of
the kinds and means something (`Layout.operands_eq_ok_iff`).

What an operand means depends on the term that its token says, and on nothing
else but for the place where a reference stands: `Term.Denotes`.
-/

namespace AccumulatorMachine

namespace Mnemonic

/-- **The kinds of token that an instruction takes**, at every position that it
has. -/
def kinds : Mnemonic → List TokenKind
  | data => [.address, .number, .string]
  | operate => [.identifier]
  | operator _ => []
  | addressed _ => [.address]
  | output => []

/-- Within the number of operands that an instruction takes, all positions take
its kinds. -/
theorem kindsAt_signature {mnemonic : Mnemonic} {count index : Nat}
    (hcount : mnemonic.signature.acceptsCount count = true) (hindex : index < count) :
    mnemonic.signature.kindsAt index = some (.ofList mnemonic.kinds) := by
  rcases mnemonic with _ | _ | op | op | _
  · obtain rfl : 1 = count := beq_iff_eq.mp hcount
    obtain rfl : index = 0 := by omega
    rfl
  · have hbounds : 1 ≤ count ∧ count ≤ Operator.all.length := by
      simpa [signature, Signature.acceptsCount] using hcount
    exact if_pos (by omega)
  · obtain rfl : 0 = count := beq_iff_eq.mp hcount
    omega
  · obtain rfl : 1 = count := beq_iff_eq.mp hcount
    obtain rfl : index = 0 := by omega
    rfl
  · obtain rfl : 0 = count := beq_iff_eq.mp hcount
    omega

end Mnemonic

namespace Layout

/-- **An operand is read in two steps**: its kind is compared with those of the
instruction, and then the token is read. -/
theorem operand_eq {mnemonic : Mnemonic} {count index : Nat} {token : Token}
    (hcount : mnemonic.signature.acceptsCount count = true) (hindex : index < count) :
    operand mnemonic count index token =
      if token.kind ∈ mnemonic.kinds then Operand.ofToken token
      else .error
        (.wrongKind mnemonic.name index (.ofList mnemonic.kinds) token.kind token.span) := by
  unfold operand
  rw [Mnemonic.kindsAt_signature hcount hindex]
  dsimp only
  rw [KindSet.contains_ofList]
  exact if_congr decide_eq_true_iff rfl rfl

/-- **An operand is understood** if its position takes its kind and the token
stands for an operand. -/
theorem operand_eq_ok_iff {mnemonic : Mnemonic} {count index : Nat} {token : Token}
    {understood : Operand Reference} (hcount : mnemonic.signature.acceptsCount count = true)
    (hindex : index < count) :
    operand mnemonic count index token = .ok understood ↔
      token.kind ∈ mnemonic.kinds ∧ Operand.ofToken token = .ok understood := by
  rw [operand_eq hcount hindex]
  by_cases hkind : token.kind ∈ mnemonic.kinds
  · rw [if_pos hkind]
    exact (and_iff_right hkind).symm
  · rw [if_neg hkind]
    exact ⟨fun h => absurd h (by simp), fun h => absurd h.1 hkind⟩

/-- The operands from a position on are understood one by one. -/
theorem operandsFrom_eq_ok_iff {mnemonic : Mnemonic} {count index : Nat} {tokens : List Token}
    {understood : List (Operand Reference)}
    (hcount : mnemonic.signature.acceptsCount count = true)
    (hindex : index + tokens.length = count) :
    operandsFrom mnemonic count index tokens = .ok understood ↔
      List.Forall₂ (fun token operand =>
        token.kind ∈ mnemonic.kinds ∧ Operand.ofToken token = .ok operand) tokens understood := by
  induction tokens generalizing index understood with
  | nil =>
    rw [operandsFrom, List.forall₂_nil_left_iff]
    exact ⟨fun h => (Except.ok.inj h).symm, fun h => h ▸ rfl⟩
  | cons token tokens ih =>
    rw [List.length_cons] at hindex
    have htoken : ∀ first, operand mnemonic count index token = .ok first ↔
        token.kind ∈ mnemonic.kinds ∧ Operand.ofToken token = .ok first :=
      fun first => operand_eq_ok_iff hcount (by omega)
    rw [operandsFrom, List.forall₂_cons_left_iff]
    constructor
    · intro h
      split at h
      · exact absurd h (by simp)
      · next first hfirst =>
        obtain ⟨rest, hrest, rfl⟩ := map_eq_ok_iff.mp h
        exact ⟨first, rest, (htoken first).mp hfirst, (ih (by omega)).mp hrest, rfl⟩
    · rintro ⟨first, rest, hfirst, hrest, rfl⟩
      rw [(htoken first).mpr hfirst]
      exact map_eq_ok_iff.mpr ⟨rest, (ih (by omega)).mpr hrest, rfl⟩

/-- **The operands of an instruction are understood** if it takes so many, and
each is of a kind that it takes and stands for an operand. -/
theorem operands_eq_ok_iff {mnemonic : Mnemonic} {span : Span} {tokens : List Token}
    {understood : List (Operand Reference)} :
    operands mnemonic span tokens = .ok understood ↔
      mnemonic.signature.acceptsCount tokens.length = true ∧
        List.Forall₂ (fun token operand =>
          token.kind ∈ mnemonic.kinds ∧ Operand.ofToken token = .ok operand) tokens understood := by
  unfold operands
  by_cases hcount : mnemonic.signature.acceptsCount tokens.length = true
  · rw [if_pos hcount, operandsFrom_eq_ok_iff hcount (Nat.zero_add _)]
    exact (and_iff_right hcount).symm
  · rw [if_neg hcount]
    exact ⟨fun h => absurd h (by simp), fun h => absurd h.1 hcount⟩

end Layout

/-! ## What operands mean -/

/-- **A term denotes an operand**, as long as addresses are labels. -/
inductive Term.Denotes : Term → Operand Reference → Prop
  /-- An address denotes a reference to its label. -/
  | address {name : String} {span : Span} : Denotes (.address name) (.address ⟨name, span⟩)
  /-- A number denotes its byte. -/
  | number {value : UInt8} : Denotes (.number value) (.byte value)
  /-- A string denotes its bytes. -/
  | string {values : List UInt8} : Denotes (.string values) (.bytes values)
  /-- An identifier denotes the operator of its name. -/
  | identifier {name : String} {op : Operator} (hop : Operator.ofName? name = some op) :
    Denotes (.identifier name) (.operator op)

/-- A token of an address is the reference to its label. -/
theorem Operand.ofToken_address {token : Token} {name : String} (h : token.Says (.address name)) :
    ofToken token = .ok (.address ⟨name, token.span⟩) := by
  have hkind : token.kind = .address := h.kind
  unfold ofToken
  rw [h.value]
  exact if_pos hkind

/-- A token of an identifier is the operator of its name, if there is one. -/
theorem Operand.ofToken_identifier {token : Token} {name : String}
    (h : token.Says (.identifier name)) :
    ofToken token =
      match Operator.ofName? name with
      | some op => .ok (.operator op)
      | none => .error (.unknownOperator name token.span) := by
  have hkind : token.kind ≠ .address := by
    rw [h.kind]
    simp [Term.kind]
  unfold ofToken
  rw [h.value]
  exact if_neg hkind

/-- **The operand of a token is what its term denotes**, if it is no label. -/
theorem Term.Denotes.of_ofToken {token : Token} {term : Term} {operand : Operand Reference}
    (hsaid : token.Says term) (hlabel : term.kind ≠ .label)
    (h : Operand.ofToken token = .ok operand) : term.Denotes operand := by
  cases term with
  | label name => exact absurd rfl hlabel
  | address name =>
    rw [Operand.ofToken_address hsaid] at h
    obtain rfl := Except.ok.inj h
    exact .address
  | number value =>
    rw [Operand.ofToken, hsaid.value] at h
    obtain rfl := Except.ok.inj h
    exact .number
  | string values =>
    rw [Operand.ofToken, hsaid.value] at h
    obtain rfl := Except.ok.inj h
    exact .string
  | identifier name =>
    rw [Operand.ofToken_identifier hsaid] at h
    split at h
    · next op hop =>
      obtain rfl := Except.ok.inj h
      exact .identifier hop
    · exact absurd h (by simp)

/-- **A token has an operand** unless it names no operator. -/
theorem Operand.exists_ofToken_iff {token : Token} {term : Term} (hsaid : token.Says term)
    (hlabel : term.kind ≠ .label) :
    (∃ operand, ofToken token = .ok operand) ↔
      ∀ name, term = .identifier name → ∃ op, Operator.ofName? name = some op := by
  cases term with
  | label name => exact absurd rfl hlabel
  | address name =>
    exact ⟨fun _ name h => absurd h (by simp), fun _ => ⟨_, ofToken_address hsaid⟩⟩
  | number value =>
    exact ⟨fun _ name h => absurd h (by simp), fun _ => ⟨_, by rw [ofToken, hsaid.value]; rfl⟩⟩
  | string values =>
    exact ⟨fun _ name h => absurd h (by simp), fun _ => ⟨_, by rw [ofToken, hsaid.value]; rfl⟩⟩
  | identifier name =>
    rw [ofToken_identifier hsaid]
    cases hop : Operator.ofName? name with
    | none =>
      refine ⟨fun ⟨operand, h⟩ => absurd h (by simp), fun h => ?_⟩
      obtain ⟨op, hsome⟩ := h name rfl
      exact absurd (hop.symm.trans hsome) (by simp)
    | some op =>
      refine ⟨fun _ other hother => ?_, fun _ => ⟨_, rfl⟩⟩
      obtain rfl := Term.identifier.inj hother
      exact ⟨op, hop⟩

/-- No instruction takes labels. -/
theorem Mnemonic.ne_label_of_mem_kinds {mnemonic : Mnemonic} {kind : TokenKind}
    (h : kind ∈ mnemonic.kinds) : kind ≠ .label := by
  rintro rfl
  rcases mnemonic with _ | _ | op | op | _
  all_goals exact absurd h (by simp [kinds])

/-- **The operands of an instruction are what its terms denote.** -/
theorem Layout.denotes_of_operands {mnemonic : Mnemonic} {span : Span} {tokens : List Token}
    {terms : List Term} {understood : List (Operand Reference)}
    (hsaid : List.Forall₂ Token.Says tokens terms)
    (h : operands mnemonic span tokens = .ok understood) :
    List.Forall₂ Term.Denotes terms understood := by
  refine forall₂_of_forall₂ hsaid (operands_eq_ok_iff.mp h).2 ?_
  rintro token term operand hterm ⟨hkind, hoperand⟩
  rw [hterm.kind] at hkind
  exact .of_ofToken hterm (Mnemonic.ne_label_of_mem_kinds hkind) hoperand

end AccumulatorMachine
