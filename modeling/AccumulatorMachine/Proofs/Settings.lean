import AccumulatorMachine.Proofs.Text.Numeral
import AccumulatorMachine.Settings
import Mathlib.Data.List.DropRight

/-!
# Settings are read once, and exactly

A place for settings is filled by the first initialisation, with what the variables ask for
then, and stays as it is. So what a call is answered depends on one thing only, whether
there was an initialisation before it (`SettingsStore.after_empty`), and calls that fail in
between make no difference.

What the variables ask for is said by a grammar of texts: `Variables.IsCycleCount` allows
white space around a numeral and one plus sign in front of it, and nothing else
(`Variables.cycleCount?_eq_some_iff`).

A warning is what to expect of any value that is no number of ticks. But only a text is ever
read. Bytes that encode none are passed over in silence, and they are the one exception
(`Variables.warnsIfUnread_iff`).
-/

namespace AccumulatorMachine

namespace Text

/-! ## White space around a text -/

/-- **What is left of a text without the blanks at its ends** has blanks around it in the
text. -/
theorem exists_trimBlanks (text : List Char) :
    ∃ before behind, text = before ++ trimBlanks text ++ behind ∧
      ∀ c ∈ before ++ behind, isBlank c = true := by
  have htrim : trimBlanks text = (text.dropWhile isBlank).rdropWhile isBlank := rfl
  refine ⟨text.takeWhile isBlank, (text.dropWhile isBlank).rtakeWhile isBlank, ?_, ?_⟩
  · rw [htrim, List.append_assoc, List.rdropWhile_append_rtakeWhile,
      List.takeWhile_append_dropWhile]
  · exact List.forall_mem_append.mpr
      ⟨fun c => List.mem_takeWhile_imp, fun c => List.mem_rtakeWhile_imp⟩

/-- **Blanks around a text are dropped**, if the text holds none itself. -/
theorem trimBlanks_append {before core behind : List Char} (hne : core ≠ [])
    (hcore : ∀ c ∈ core, isBlank c = false) (haround : ∀ c ∈ before ++ behind, isBlank c = true) :
    trimBlanks (before ++ core ++ behind) = core := by
  obtain ⟨hbefore, hbehind⟩ := List.forall_mem_append.mp haround
  have hfront : (core ++ behind).dropWhile isBlank = core ++ behind := by
    obtain ⟨c, rest, rfl⟩ := List.exists_cons_of_ne_nil hne
    exact List.dropWhile_cons_of_neg (by rw [hcore c List.mem_cons_self]; decide)
  have hback : core.reverse.dropWhile isBlank = core.reverse := by
    obtain ⟨c, rest, hlast⟩ := List.exists_cons_of_ne_nil (List.reverse_ne_nil_iff.mpr hne)
    have hmem : c ∈ core := List.mem_reverse.mp (hlast ▸ List.mem_cons_self)
    rw [hlast]
    exact List.dropWhile_cons_of_neg (by rw [hcore c hmem]; decide)
  unfold trimBlanks
  rw [List.append_assoc, List.dropWhile_append_of_pos hbefore, hfront, List.reverse_append,
    List.dropWhile_append_of_pos fun c hc => hbehind c (List.mem_reverse.mp hc), hback,
    List.reverse_reverse]

/-- A digit is no blank. -/
theorem isBlank_of_isDigit {c : Char} (h : c.isDigit = true) : isBlank c = false := by
  have hdigit : 48 ≤ c.toNat ∧ c.toNat ≤ 57 := by
    simpa [Char.isDigit, UInt32.le_iff_toNat_le] using h
  unfold isBlank
  simp only [Bool.or_eq_false_iff, Bool.and_eq_false_iff, decide_eq_false_iff_not,
    beq_eq_false_iff_ne]
  omega

end Text

namespace Variables

/-! ## What the variables ask for -/

/-- **A text spells a number of ticks**: it is a numeral of one digit or more, with or without a
plus sign in front of it, and with any white space around it, whose value fits into 64 bits. -/
def IsCycleCount (text : String) (count : Nat) : Prop :=
  ∃ before sign digits behind : List Char, text.toList = before ++ (sign ++ digits) ++ behind ∧
    (∀ c ∈ before ++ behind, Text.isBlank c = true) ∧ (sign = [] ∨ sign = ['+']) ∧ digits ≠ [] ∧
    (∀ c ∈ digits, c.isDigit = true) ∧ Text.numeralValue digits = count ∧ count < 2 ^ 64

/-- **A number of ticks is read** from the texts that spell it. -/
theorem cycleCount?_eq_some_iff {text : String} {count : UInt64} :
    cycleCount? text = some count ↔ IsCycleCount text count.toNat := by
  have hlimit : maxCyclesLimit < 2 ^ 64 := by decide
  unfold cycleCount?
  constructor
  · intro h
    split at h
    · next read hread =>
      obtain ⟨sign, digits, htrim, hsign, hne, hall, hle, rfl⟩ :=
        Text.readSignedDecimal_eq_ok_iff.mp hread
      obtain ⟨before, behind, htext, haround⟩ := Text.exists_trimBlanks text.toList
      have hlt : Text.numeralValue digits < 2 ^ 64 := Nat.lt_of_le_of_lt hle hlimit
      obtain rfl := Option.some.inj h
      rw [UInt64.toNat_ofNat_of_lt' hlt]
      exact ⟨before, sign, digits, behind, htrim ▸ htext, haround, hsign, hne, hall, rfl, hlt⟩
    · exact absurd h (by simp)
  · rintro ⟨before, sign, digits, behind, htext, haround, hsign, hne, hall, hvalue, hlt⟩
    have hcore : ∀ c ∈ sign ++ digits, Text.isBlank c = false := by
      refine List.forall_mem_append.mpr ⟨?_, fun c hc => Text.isBlank_of_isDigit (hall c hc)⟩
      obtain rfl | rfl := hsign
      · exact List.forall_mem_nil _
      · exact List.forall_mem_singleton.mpr (by decide)
    have htrim : Text.trimBlanks text.toList = sign ++ digits := by
      rw [htext]
      exact Text.trimBlanks_append (List.append_ne_nil_of_right_ne_nil sign hne) hcore haround
    have hwithin : Text.numeralValue digits ≤ maxCyclesLimit := by
      rw [hvalue]
      exact Nat.le_of_lt_succ hlt
    have hread : Text.readSignedDecimal maxCyclesLimit (Text.trimBlanks text.toList)
        = .ok (Text.numeralValue digits) :=
      Text.readSignedDecimal_eq_ok_iff.mpr
        ⟨sign, digits, htrim, hsign, hne, hall, hwithin, rfl⟩
    rw [hread]
    dsimp only
    rw [hvalue, UInt64.ofNat_toNat]

example : cycleCount? " +007\n" = some 7 := by decide +kernel

example : cycleCount? "18446744073709551615" = some 18446744073709551615 ∧
    cycleCount? "18446744073709551616" = none := by decide +kernel

/-- The number that a text spells is read. -/
theorem IsCycleCount.cycleCount? {text : String} {count : Nat} (h : IsCycleCount text count) :
    Variables.cycleCount? text = some (UInt64.ofNat count) ∧
      (UInt64.ofNat count).toNat = count := by
  have hcount : (UInt64.ofNat count).toNat = count := by
    obtain ⟨_, _, _, _, -, -, -, -, -, -, hlt⟩ := h
    exact UInt64.toNat_ofNat_of_lt' hlt
  exact ⟨cycleCount?_eq_some_iff.mpr (hcount.symm ▸ h), hcount⟩

/-- No number is read from a text that spells none. -/
theorem cycleCount?_eq_none {text : String} (h : ¬ ∃ count, IsCycleCount text count) :
    cycleCount? text = none :=
  Option.eq_none_iff_forall_ne_some.mpr fun _ hcount => h ⟨_, cycleCount?_eq_some_iff.mp hcount⟩

/-- **The variables ask for a number of ticks** if the one for it is set to a text that spells this
number. -/
def AsksFor (environment : Variables) (count : Nat) : Prop :=
  ∃ text, environment.maxCycles = some (.ofText text) ∧ IsCycleCount text count

/-- **Whatever is no number of ticks is warned of**: there is exactly one warning if the variable
for it is set, to any value, and asks for none, and otherwise there is not. -/
def WarnsIfUnread (environment : Variables) : Prop :=
  environment.warnings.length = 1 ↔
    environment.maxCycles ≠ none ∧ ¬ ∃ count, environment.AsksFor count

section

variable {environment : Variables} {text : String}

/-- A text that is set asks for the number that it spells. -/
theorem asksFor_iff (htext : environment.maxCycles = some (.ofText text)) {count : Nat} :
    environment.AsksFor count ↔ IsCycleCount text count := by
  constructor
  · rintro ⟨other, hother, hcount⟩
    have hsame := (textIn?_eq_some_iff.mpr htext).symm.trans (textIn?_eq_some_iff.mpr hother)
    exact Option.some.inj hsame ▸ hcount
  · exact fun hcount => ⟨text, htext, hcount⟩

/-- **A run may take the number of ticks that is asked for.** -/
theorem maxCycles_settings_of_asksFor {count : Nat} (h : environment.AsksFor count) :
    environment.settings.maxCycles.toNat = count := by
  obtain ⟨text, htext, hcount⟩ := h
  unfold settings
  dsimp only
  rw [textIn?_eq_some_iff.mpr htext, Option.bind_some, hcount.cycleCount?.1, Option.getD_some,
    hcount.cycleCount?.2]

/-- **A run may take 1024 ticks** if no number is asked for. -/
theorem maxCycles_settings_of_not (h : ¬ ∃ count, environment.AsksFor count) :
    environment.settings.maxCycles = 1024 := by
  unfold settings
  dsimp only
  cases hread : textIn? environment.maxCycles with
  | none => rfl
  | some text =>
    have hcount : ¬ ∃ count, IsCycleCount text count := by
      simpa only [asksFor_iff (textIn?_eq_some_iff.mp hread)] using h
    rw [Option.bind_some, cycleCount?_eq_none hcount]
    rfl

/-- **Every tick is shown** if the variable is the digit one and nothing else. -/
theorem trace_settings_iff :
    environment.settings.trace = true ↔ environment.trace = some (.ofText "1") := by
  unfold settings
  exact beq_iff_eq.trans textIn?_eq_some_iff

/-- **A text that spells no number of ticks is warned of**, as it stands. -/
theorem warnings_of_not (htext : environment.maxCycles = some (.ofText text))
    (h : ¬ ∃ count, environment.AsksFor count) :
    environment.warnings
      = [⟨.warn, "ignoring CHIP3_MAX_CYCLES=" ++ Text.quoted text ++ ": not a cycle count"⟩] := by
  have hcount : ¬ ∃ count, IsCycleCount text count := by simpa only [asksFor_iff htext] using h
  unfold warnings
  simp only [textIn?_eq_some_iff.mpr htext, cycleCount?_eq_none hcount]

/-- **There is no warning** of a number. -/
theorem warnings_of_asksFor {count : Nat} (h : environment.AsksFor count) :
    environment.warnings = [] := by
  obtain ⟨text, htext, hcount⟩ := h
  unfold warnings
  simp only [textIn?_eq_some_iff.mpr htext, hcount.cycleCount?.1]

/-- **There is no warning** where there is no text. -/
theorem warnings_of_textIn?_eq_none (h : textIn? environment.maxCycles = none) :
    environment.warnings = [] := by
  unfold warnings
  rw [h]

/-- No number is asked for where there is no text. -/
theorem not_asksFor_of_textIn?_eq_none (h : textIn? environment.maxCycles = none) :
    ¬ ∃ count, environment.AsksFor count := by
  rintro ⟨count, text, htext, -⟩
  exact absurd (h.symm.trans (textIn?_eq_some_iff.mpr htext)) (by simp)

/-- **Whatever is no number of ticks is warned of** exactly if the variable is not set, or set to
what encodes a text. -/
theorem warnsIfUnread_iff :
    environment.WarnsIfUnread ↔
      ∀ value, environment.maxCycles = some value → ∃ text, value.text? = some text := by
  unfold WarnsIfUnread
  cases hset : environment.maxCycles with
  | none =>
    have hsilent : environment.warnings = [] := warnings_of_textIn?_eq_none (by rw [hset]; rfl)
    simp [hsilent]
  | some value =>
    cases htext : value.text? with
    | none =>
      have hread : textIn? environment.maxCycles = none := by rw [hset]; exact htext
      have hnone := not_asksFor_of_textIn?_eq_none hread
      simp [warnings_of_textIn?_eq_none hread, hnone, htext]
    | some text =>
      have hsome : environment.maxCycles = some (.ofText text) :=
        hset.trans (congrArg some (VariableValue.text?_eq_some_iff.mp htext))
      by_cases hasks : ∃ count, environment.AsksFor count
      · have ⟨count, hcount⟩ := hasks
        simp [warnings_of_asksFor hcount, hasks, htext]
      · simp [warnings_of_not hsome hasks, hasks, htext]

end

end Variables

namespace SettingsStore

/-! ## Calls one after the other -/

/-- **The place for settings behind some calls.** -/
def after (environment : Variables) (store : SettingsStore) (calls : List SettingsCall) :
    SettingsStore :=
  calls.foldl (fun store call => (store.call environment call).store) store

/-- **A place that is filled stays as it is**, whatever is called. -/
theorem store_call_filled (environment : Variables) (settings : Settings) (call : SettingsCall) :
    (SettingsStore.call environment ⟨some settings⟩ call).store = ⟨some settings⟩ := by
  cases call <;> rfl

/-- **An empty place is filled by an initialisation** and by nothing else. -/
theorem store_call_empty (environment : Variables) (call : SettingsCall) :
    (empty.call environment call).store
      = if call = .initialise then ⟨some environment.settings⟩ else empty := by
  cases call <;> rfl

/-- **Every initialisation warns** as the variables have it, and nothing else does. -/
theorem journal_call (environment : Variables) (store : SettingsStore) (call : SettingsCall) :
    (store.call environment call).journal
      = if call = .initialise then environment.warnings else [] := by
  obtain ⟨_ | settings⟩ := store <;> cases call <;> rfl

/-- Calls leave a place that is filled as it is. -/
theorem after_filled (environment : Variables) (settings : Settings) (calls : List SettingsCall) :
    after environment ⟨some settings⟩ calls = ⟨some settings⟩ := by
  induction calls with
  | nil => rfl
  | cons call calls ih =>
    rw [after, List.foldl_cons, store_call_filled]
    exact ih

/-- **Behind calls, the place is filled** with what the variables ask for exactly if one of the
calls was an initialisation. -/
theorem after_empty (environment : Variables) (calls : List SettingsCall) :
    after environment empty calls
      = if .initialise ∈ calls then ⟨some environment.settings⟩ else empty := by
  induction calls with
  | nil => rfl
  | cons call calls ih =>
    rw [after, List.foldl_cons, store_call_empty]
    by_cases hcall : call = .initialise
    · rw [if_pos hcall, if_pos (hcall ▸ List.mem_cons_self)]
      exact after_filled environment environment.settings calls
    · rw [if_neg hcall]
      simp only [List.mem_cons, Ne.symm hcall, false_or]
      exact ih

/-- **A call in a row of calls** meets the place as those before it left it. -/
theorem getElem?_callAll (environment : Variables) (store : SettingsStore)
    (calls : List SettingsCall) (place : Nat) :
    (store.callAll environment calls)[place]?
      = calls[place]?.map ((after environment store (calls.take place)).call environment) := by
  induction calls generalizing store place with
  | nil => rfl
  | cons call calls ih =>
    rw [callAll]
    cases place with
    | zero => rfl
    | succ place =>
      rw [List.getElem?_cons_succ, List.getElem?_cons_succ, List.take_succ_cons, ih]
      rfl

/-- There are as many replies as calls. -/
theorem length_callAll (environment : Variables) (store : SettingsStore)
    (calls : List SettingsCall) : (store.callAll environment calls).length = calls.length := by
  induction calls generalizing store with
  | nil => rfl
  | cons call calls ih =>
    rw [callAll, List.length_cons, List.length_cons, ih]

/-- The place behind one call more. -/
theorem after_take_succ (environment : Variables) (store : SettingsStore)
    {calls : List SettingsCall} {place : Nat} {call : SettingsCall}
    (h : calls[place]? = some call) :
    after environment store (calls.take (place + 1))
      = ((after environment store (calls.take place)).call environment call).store := by
  unfold after
  rw [List.take_add_one, h, Option.toList_some, List.foldl_append]
  rfl

/-- **Settings are read once, and exactly.** Whatever the variables are and whatever is called,
in any order, on a place for settings that was not filled yet:

Before the first initialisation every reading fails, and the first initialisation succeeds. Every
later one fails, and from then on every reading gives the same settings and every call leaves
them as they are. Each initialisation, also one that fails, warns as the variables have it, and
nothing else does.

Ticks are shown exactly if that variable is the digit one. A run may take the number of ticks
that the variables ask for, and 1024 if they ask for none. There is one warning of a text that
spells no number, and none of a number, of a variable that is not set, or of one that is set to
what encodes no text. In this last case alone something that is no number is not warned of. -/
theorem callAll_readsOnce (environment : Variables) (calls : List SettingsCall) :
    let replies := empty.callAll environment calls
    replies.length = calls.length ∧
    (∀ place call reply, calls[place]? = some call → replies[place]? = some reply →
      (.initialise ∉ calls.take place →
        (call = .initialise → reply.answer = .initialised) ∧
        (call ≠ .initialise → reply.answer = .failed .notInitialised)) ∧
      (.initialise ∈ calls.take place →
        (call = .initialise → reply.answer = .failed .initialisedTwice) ∧
        (call = .maxCycles → reply.answer = .maxCycles environment.settings.maxCycles) ∧
        (call = .trace → reply.answer = .trace environment.settings.trace)) ∧
      reply.store = (if .initialise ∈ calls.take (place + 1) then ⟨some environment.settings⟩
        else empty) ∧
      reply.journal = if call = .initialise then environment.warnings else []) ∧
    (environment.settings.trace = true ↔ environment.trace = some (.ofText "1")) ∧
    (∀ count, environment.AsksFor count → environment.settings.maxCycles.toNat = count) ∧
    ((¬ ∃ count, environment.AsksFor count) → environment.settings.maxCycles = 1024) ∧
    (∀ text, environment.maxCycles = some (.ofText text) →
      (¬ ∃ count, environment.AsksFor count) → environment.warnings
        = [⟨.warn, "ignoring CHIP3_MAX_CYCLES=" ++ Text.quoted text ++ ": not a cycle count"⟩]) ∧
    (∀ count, environment.AsksFor count → environment.warnings = []) ∧
    (environment.maxCycles = none → environment.warnings = []) ∧
    (∀ value, environment.maxCycles = some value → value.text? = none →
      environment.warnings = []) ∧
    (environment.WarnsIfUnread ↔
      ∀ value, environment.maxCycles = some value → ∃ text, value.text? = some text) := by
  intro replies
  refine ⟨length_callAll environment empty calls, ?_, Variables.trace_settings_iff,
    fun _ => Variables.maxCycles_settings_of_asksFor, Variables.maxCycles_settings_of_not,
    fun _ => Variables.warnings_of_not, fun _ => Variables.warnings_of_asksFor,
    fun hunset => Variables.warnings_of_textIn?_eq_none (by rw [hunset]; rfl),
    fun value hset htext => Variables.warnings_of_textIn?_eq_none (by rw [hset]; exact htext),
    Variables.warnsIfUnread_iff⟩
  intro place call reply hcall hreply
  rw [getElem?_callAll, hcall, Option.map_some, Option.some.injEq] at hreply
  have hstore : reply.store = after environment empty (calls.take (place + 1)) := by
    rw [after_take_succ environment empty hcall, hreply]
  have hjournal : reply.journal = if call = .initialise then environment.warnings else [] := by
    rw [← hreply, journal_call]
  rw [after_empty] at hreply hstore
  refine ⟨fun hfirst => ?_, fun hagain => ?_, hstore, hjournal⟩
  · rw [if_neg hfirst] at hreply
    subst hreply
    refine ⟨fun h => h ▸ rfl, fun h => ?_⟩
    cases call with
    | initialise => exact absurd rfl h
    | maxCycles => rfl
    | trace => rfl
  · rw [if_pos hagain] at hreply
    subst hreply
    exact ⟨fun h => h ▸ rfl, fun h => h ▸ rfl, fun h => h ▸ rfl⟩

/-- Reading too early and filling twice between what is read, and the first number that does not
fit into 64 bits. -/
theorem callAll_readsOnce_between :
    let environment : Variables := ⟨some (.ofText " +0042\n"), some (.ofText "1")⟩
    let calls : List SettingsCall := [.trace, .initialise, .initialise, .maxCycles, .trace]
    let large : Variables := ⟨some (.ofText "18446744073709551616"), some (.ofText "1 ")⟩
    (∃ reply, (empty.callAll environment calls)[3]? = some reply ∧
      reply.answer = .maxCycles environment.settings.maxCycles ∧ reply.journal = []) ∧
    environment.settings.maxCycles.toNat = 42 ∧ environment.settings.trace = true ∧
    large.settings.maxCycles = 1024 ∧ large.settings.trace ≠ true ∧
    large.warnings = [⟨.warn,
      "ignoring CHIP3_MAX_CYCLES=\"18446744073709551616\": not a cycle count"⟩] := by
  intro environment calls large
  obtain ⟨-, hreplies, hshown, hcount, -⟩ := callAll_readsOnce environment calls
  obtain ⟨-, -, htrace, -, hdefault, hwarning, -⟩ := callAll_readsOnce large calls
  have hasks : environment.AsksFor 42 :=
    ⟨" +0042\n", rfl, [' '], ['+'], ['0', '0', '4', '2'], ['\n'], by decide,
      List.all_eq_true.mp (by decide), .inr rfl, by decide, List.all_eq_true.mp (by decide),
      by decide, by decide⟩
  have hnone : ¬ ∃ count, large.AsksFor count := by
    rintro ⟨count, h⟩
    have hread := ((Variables.asksFor_iff rfl).mp h).cycleCount?.1
    have hunread : Variables.cycleCount? "18446744073709551616" = none := by decide +kernel
    exact absurd (hunread.symm.trans hread) (by simp)
  refine ⟨⟨_, rfl, ?_, rfl⟩, hcount 42 hasks, hshown.mpr rfl, hdefault hnone, ?_, ?_⟩
  · exact ((hreplies 3 .maxCycles _ rfl rfl).2.1 (by decide)).2.1 rfl
  · exact fun h => absurd (htrace.mp h) (by decide +kernel)
  · rw [hwarning _ rfl hnone]
    decide +kernel

/-- A variable that is set to the byte 255 asks for no number of ticks, and the initialisation
passes over it without a warning. -/
theorem initialise_silent_noText :
    let environment : Variables := ⟨some ⟨[255]⟩, none⟩
    environment.maxCycles ≠ none ∧ (¬ ∃ count, environment.AsksFor count) ∧
      (empty.callAll environment [.initialise, .maxCycles]).map
        (fun reply => (reply.answer, reply.journal))
          = [(.initialised, []), (.maxCycles 1024, [])] ∧
      ¬ environment.WarnsIfUnread := by
  intro environment
  have hread : Variables.textIn? environment.maxCycles = none := by decide +kernel
  have hset : environment.maxCycles ≠ none := by decide
  have hnone := Variables.not_asksFor_of_textIn?_eq_none hread
  refine ⟨hset, hnone, by decide +kernel, fun hwarns => ?_⟩
  have hone : environment.warnings.length = 1 := hwarns.mpr ⟨hset, hnone⟩
  rw [Variables.warnings_of_textIn?_eq_none hread] at hone
  exact absurd hone (by decide)

end SettingsStore

end AccumulatorMachine
