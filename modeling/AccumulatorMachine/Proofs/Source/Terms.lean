import AccumulatorMachine.Proofs.Lists
import AccumulatorMachine.Proofs.Text.Numeral
import AccumulatorMachine.Source.Spelling

/-!
# The terms of the language

`Spells` is the grammar of tokens: it says of each of the five kinds which texts
are written so, without an order in which they are tried. Each of the spellings that
are tried is recognised for itself (`Spelling.label?_eq_some_iff` and the others).

A text between quotation marks is `Enclosed`: a mark inside follows a backslash,
and no backslash stands alone. The cursor and the spelling of strings both go by
this, and differ only in what a backslash may be paired with.
-/

namespace AccumulatorMachine

/-- **A term of the language**: what a token says, apart from how and where it
is written. -/
inductive Term
  /-- A name with a colon, in front of an instruction. -/
  | label (name : String)
  /-- The address of a label. -/
  | address (name : String)
  /-- A byte. -/
  | number (value : UInt8)
  /-- A string of bytes. -/
  | string (values : List UInt8)
  /-- A bare name. -/
  | identifier (name : String)
  deriving DecidableEq

namespace Term

/-- The kind of token that the term is written as. -/
def kind : Term → TokenKind
  | label _ => .label
  | address _ => .address
  | number _ => .number
  | string _ => .string
  | identifier _ => .identifier

/-- The meaning of the token that the term is written as. -/
def value : Term → TokenValue
  | label name => .name name
  | address name => .name name
  | number value => .byte value
  | string values => .bytes values
  | identifier name => .name name

end Term

/-! ## The grammar -/

/-- **A name** begins with an ASCII letter or an underscore and goes on with word
characters. -/
def IsName (text : List Char) : Prop :=
  ∃ first rest, text = first :: rest ∧ Spelling.startsName first = true ∧
    ∀ c ∈ rest, Text.isWordCharacter c = true

/-- **A text that can stand between quotation marks**: plain characters, and
backslashes each with a character behind it, for which `escapable` holds. -/
inductive Enclosed (escapable : Char → Prop) : List Char → Prop
  /-- No text. -/
  | nil : Enclosed escapable []
  /-- A character that is no quotation mark and no backslash. -/
  | plain {c : Char} {body : List Char} (hquote : c ≠ '"') (hbackslash : c ≠ '\\')
    (hbody : Enclosed escapable body) : Enclosed escapable (c :: body)
  /-- A backslash and the character behind it. -/
  | pair {c : Char} {body : List Char} (hescapable : escapable c)
    (hbody : Enclosed escapable body) : Enclosed escapable ('\\' :: c :: body)

/-- A text that can stand between quotation marks still can where more may be escaped. -/
theorem Enclosed.imp {escapable other : Char → Prop} (himp : ∀ c, escapable c → other c)
    {body : List Char} (h : Enclosed escapable body) : Enclosed other body := by
  induction h with
  | nil => exact .nil
  | plain hquote hbackslash _ ih => exact .plain hquote hbackslash ih
  | pair hescapable _ ih => exact .pair (himp _ hescapable) ih

/-- **How terms are written.** -/
inductive Spells : List Char → Term → Prop
  /-- A label is a name and a colon. -/
  | label {name : List Char} (hname : IsName name) :
    Spells (name ++ [':']) (.label (String.ofList name))
  /-- An address is a name in brackets. -/
  | address {name : List Char} (hname : IsName name) :
    Spells ('[' :: (name ++ [']'])) (.address (String.ofList name))
  /-- A number is a numeral of a byte. -/
  | number {digits : List Char} (hdigits : digits ≠ []) (hall : ∀ c ∈ digits, c.isDigit = true)
    (hbyte : Text.numeralValue digits ≤ 255) :
    Spells digits (.number (UInt8.ofNat (Text.numeralValue digits)))
  /-- A string is a text in quotation marks that stands for code points of one
  byte. -/
  | string {body : List Char} (hbody : Enclosed (· ≠ '\n') body)
    (hbytes : ∀ c ∈ Spelling.unescape body, c.toNat ≤ 255) :
    Spells ('"' :: (body ++ ['"']))
      (.string ((Spelling.unescape body).map fun c => UInt8.ofNat c.toNat))
  /-- An identifier is a name. -/
  | identifier {name : List Char} (hname : IsName name) :
    Spells name (.identifier (String.ofList name))

/-! ## The spellings that are tried -/

namespace Spelling

/-- **A name begins with an ASCII letter or an underscore.** -/
theorem startsName_iff {c : Char} :
    startsName c = true ↔
      (65 ≤ c.toNat ∧ c.toNat ≤ 90) ∨ (97 ≤ c.toNat ∧ c.toNat ≤ 122) ∨ c = '_' := by
  show (decide (c.val ≥ 65 ∧ c.val ≤ 90) || (decide (c.val ≥ 97) && decide (c.val ≤ 122))
    || c == '_') = true ↔ _
  simp only [Bool.or_eq_true, Bool.and_eq_true, decide_eq_true_eq, beq_iff_eq,
    UInt32.le_iff_toNat_le, ge_iff_le]
  exact or_assoc

/-- A digit begins no name. -/
theorem startsName_of_isDigit {c : Char} (h : c.isDigit = true) : startsName c = false := by
  have hdigit : 48 ≤ c.toNat ∧ c.toNat ≤ 57 := by
    simpa [Char.isDigit, UInt32.le_iff_toNat_le] using h
  rw [← Bool.not_eq_true, startsName_iff]
  rintro (hupper | hlower | rfl)
  · omega
  · omega
  · exact absurd hdigit (by decide)

/-- The names are recognised. -/
theorem isName_iff {text : List Char} : isName text = true ↔ IsName text := by
  cases text with
  | nil => exact ⟨fun h => absurd h (by decide), fun ⟨_, _, h, _⟩ => absurd h (by simp)⟩
  | cons c rest =>
    rw [isName, Bool.and_eq_true, List.all_eq_true]
    constructor
    · rintro ⟨hfirst, hrest⟩
      exact ⟨c, rest, rfl, hfirst, hrest⟩
    · rintro ⟨first, others, heq, hfirst, hrest⟩
      obtain ⟨rfl, rfl⟩ := List.cons.inj heq
      exact ⟨hfirst, hrest⟩

/-- A name in front of a character is recognised. -/
theorem nameBefore?_eq_some_iff {last : Char} {text name : List Char} :
    nameBefore? last text = some name ↔ text = name ++ [last] ∧ IsName name := by
  unfold nameBefore?
  constructor
  · intro h
    split at h
    · next hboth =>
      obtain ⟨hlast, hname⟩ := hboth
      obtain rfl := Option.some.inj h
      obtain ⟨front, rfl⟩ := List.getLast?_eq_some_iff.mp hlast
      rw [List.dropLast_concat] at hname ⊢
      exact ⟨rfl, isName_iff.mp hname⟩
    · exact absurd h (by simp)
  · rintro ⟨rfl, hname⟩
    rw [List.dropLast_concat, List.getLast?_concat, if_pos ⟨rfl, isName_iff.mpr hname⟩]

/-- The labels are recognised. -/
theorem label?_eq_some_iff {text name : List Char} :
    label? text = some name ↔ text = name ++ [':'] ∧ IsName name :=
  nameBefore?_eq_some_iff

/-- The addresses are recognised. -/
theorem address?_eq_some_iff {text name : List Char} :
    address? text = some name ↔ text = '[' :: (name ++ [']']) ∧ IsName name := by
  unfold address?
  constructor
  · intro h
    split at h
    · obtain ⟨rfl, hname⟩ := nameBefore?_eq_some_iff.mp h
      exact ⟨rfl, hname⟩
    · exact absurd h (by simp)
  · rintro ⟨rfl, hname⟩
    exact nameBefore?_eq_some_iff.mpr ⟨rfl, hname⟩

/-- A plain character is part of the body. -/
theorem body?_plain {c : Char} {rest : List Char} (hquote : c ≠ '"') (hbackslash : c ≠ '\\') :
    body? (c :: rest) = (body? rest).map (c :: ·) := by
  rw [body?.eq_def]
  split <;> simp_all

/-- The text up to a closing mark that comes last is recognised. -/
theorem body?_eq_some_iff {text body : List Char} :
    body? text = some body ↔ text = body ++ ['"'] ∧ Enclosed (· ≠ '\n') body := by
  constructor
  · intro h
    fun_induction body? text generalizing body with
    | case1 => exact absurd h (by simp)
    | case2 => obtain rfl := Option.some.inj h; exact ⟨rfl, .nil⟩
    | case3 => exact absurd h (by simp)
    | case4 => exact absurd h (by simp)
    | case5 c rest hescapable ih =>
      obtain ⟨inner, hinner, rfl⟩ := Option.map_eq_some_iff.mp h
      obtain ⟨rfl, hbody⟩ := ih hinner
      exact ⟨rfl, .pair hescapable hbody⟩
    | case6 => exact absurd h (by simp)
    | case7 c rest hlone hquote hbackslash hend ih =>
      obtain ⟨inner, hinner, rfl⟩ := Option.map_eq_some_iff.mp h
      obtain ⟨rfl, hbody⟩ := ih hinner
      obtain ⟨d, others, hcons⟩ := List.exists_cons_of_ne_nil (List.concat_ne_nil '"' inner)
      exact ⟨rfl, .plain hquote (fun hc => hbackslash d others hc hcons) hbody⟩
  · rintro ⟨rfl, hbody⟩
    induction hbody with
    | nil => rfl
    | @plain c body hquote hbackslash _ ih =>
      rw [List.cons_append, body?_plain hquote hbackslash, ih]
      rfl
    | @pair c body hescapable _ ih =>
      show (if c = '\n' then none else (body? (body ++ ['"'])).map _) = _
      rw [if_neg hescapable, ih]
      rfl

/-- The strings are recognised. -/
theorem string?_eq_some_iff {text body : List Char} :
    string? text = some body ↔ text = '"' :: (body ++ ['"']) ∧ Enclosed (· ≠ '\n') body := by
  unfold string?
  constructor
  · intro h
    split at h
    · obtain ⟨rfl, hbody⟩ := body?_eq_some_iff.mp h
      exact ⟨rfl, hbody⟩
    · exact absurd h (by simp)
  · rintro ⟨rfl, hbody⟩
    exact body?_eq_some_iff.mpr ⟨rfl, hbody⟩

/-- Characters become bytes if their code points are bytes. -/
theorem bytes_eq_ok_iff {text : List Char} {values : List UInt8} :
    bytes text = .ok values ↔
      (∀ c ∈ text, c.toNat ≤ 255) ∧ values = text.map fun c => UInt8.ofNat c.toNat := by
  induction text generalizing values with
  | nil =>
    rw [bytes, Except.ok.injEq]
    exact ⟨fun h => ⟨fun c hc => absurd hc List.not_mem_nil, h.symm⟩, fun h => h.2.symm⟩
  | cons c rest ih =>
    rw [bytes, List.forall_mem_cons, List.map_cons]
    by_cases hbyte : c.toNat ≤ 255
    · rw [if_pos hbyte, and_iff_right hbyte, map_eq_ok_iff]
      constructor
      · rintro ⟨others, hrest, rfl⟩
        obtain ⟨hall, rfl⟩ := ih.mp hrest
        exact ⟨hall, rfl⟩
      · rintro ⟨hall, rfl⟩
        exact ⟨_, ih.mpr ⟨hall, rfl⟩, rfl⟩
    · rw [if_neg hbyte]
      exact ⟨fun h => absurd h (by simp), fun h => absurd h.1.1 hbyte⟩

/-- A name holds no colon, so it is no label. -/
theorem label?_eq_none_of_isName {text : List Char} (h : IsName text) : label? text = none := by
  obtain ⟨first, rest, rfl, hfirst, hrest⟩ := h
  refine Option.eq_none_iff_forall_ne_some.mpr (fun name hname => ?_)
  obtain ⟨heq, others, front, rfl, -, -⟩ := label?_eq_some_iff.mp hname
  obtain ⟨rfl, rfl⟩ := List.cons.inj heq
  exact absurd (hrest ':' (List.mem_append_right _ List.mem_cons_self)) (by decide)

end Spelling

end AccumulatorMachine
