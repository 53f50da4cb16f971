import AccumulatorMachine.Journal
import AccumulatorMachine.Text.Blank
import AccumulatorMachine.Text.Bytes
import AccumulatorMachine.Text.Numeral
import AccumulatorMachine.Text.Quoted

/-!
# Settings

Two variables of the environment set how programs run: the number of ticks that
a run may take, and whether every tick is shown. A text that is no number of ticks
is passed over with a warning. Bytes that encode no text are passed over too, as if
the variable were not set, and nothing warns of them.

Settings are read once. A `SettingsStore` is empty until its first
initialisation; every later one fails and changes nothing, and reading fails
while it is empty. Each attempt to initialise reads the variables first, so it
warns whether it succeeds or not.
-/

namespace AccumulatorMachine

/-- The value of a variable of the environment. It is made of bytes, which need not
encode a text. -/
structure VariableValue where
  /-- The bytes. -/
  bytes : List UInt8
  deriving DecidableEq

namespace VariableValue

/-- The value that a text is written as. -/
def ofText (text : String) : VariableValue :=
  ⟨Text.toBytes text⟩

instance : Coe String VariableValue :=
  ⟨ofText⟩

/-- The text that a value encodes, if it encodes one. -/
def text? (value : VariableValue) : Option String :=
  Text.ofBytes? value.bytes

/-- A value encodes a text exactly if it is what the text is written as. -/
theorem text?_eq_some_iff {value : VariableValue} {text : String} :
    value.text? = some text ↔ value = ofText text := by
  unfold text? ofText
  rw [Text.ofBytes?_eq_some_iff, mk.injEq]

/-- The value of a text encodes the text. -/
theorem text?_ofText (text : String) : (ofText text).text? = some text :=
  text?_eq_some_iff.mpr rfl

end VariableValue

/-- The variables of the environment that matter, each `none` if it is not set. -/
structure Variables where
  /-- The number of ticks that a run may take. -/
  maxCycles : Option VariableValue
  /-- Whether every tick is shown. -/
  trace : Option VariableValue
  deriving DecidableEq

/-- How programs run. -/
structure Settings where
  /-- The number of ticks that a run may take. -/
  maxCycles : UInt64
  /-- Whether every tick is shown. -/
  trace : Bool
  deriving DecidableEq

namespace Variables

/-- The largest number of ticks that can be asked for. -/
def maxCyclesLimit : Nat := UInt64.size - 1

/-- The number of ticks that a run may take when nothing else is asked for. -/
def defaultMaxCycles : UInt64 := 1024

/-- The number of ticks that a text asks for, with white space around it and a
plus sign in front of it allowed. -/
def cycleCount? (text : String) : Option UInt64 :=
  match Text.readSignedDecimal maxCyclesLimit (Text.trimBlanks text.toList) with
  | .ok count => some (UInt64.ofNat count)
  | .error _ => none

/-- The text in a variable, if it is set and its value encodes one. -/
def textIn? (value : Option VariableValue) : Option String :=
  value.bind VariableValue.text?

/-- There is a text in a variable exactly if it is set to what the text is written as. -/
theorem textIn?_eq_some_iff {value : Option VariableValue} {text : String} :
    textIn? value = some text ↔ value = some (.ofText text) := by
  unfold textIn?
  rw [Option.bind_eq_some_iff]
  constructor
  · rintro ⟨set, rfl, htext⟩
    rw [VariableValue.text?_eq_some_iff.mp htext]
  · rintro rfl
    exact ⟨_, rfl, VariableValue.text?_ofText text⟩

/-- The settings that the variables ask for. -/
def settings (environment : Variables) : Settings where
  maxCycles := ((textIn? environment.maxCycles).bind cycleCount?).getD defaultMaxCycles
  trace := textIn? environment.trace == some "1"

/-- The warnings about the variables. -/
def warnings (environment : Variables) : List JournalEntry :=
  match textIn? environment.maxCycles with
  | none => []
  | some text =>
    match cycleCount? text with
    | some _ => []
    | none =>
      [⟨.warn, "ignoring CHIP3_MAX_CYCLES=" ++ Text.quoted text ++ ": not a cycle count"⟩]

end Variables

/-- A wrong use of a settings store. -/
inductive SettingsFault
  /-- The store was initialised before. -/
  | initialisedTwice
  /-- The store was not initialised yet. -/
  | notInitialised
  deriving DecidableEq

namespace SettingsFault

/-- What is wrong, in words. -/
def message : SettingsFault → String
  | initialisedTwice => "tried to initialize environment state multiple times"
  | notInitialised => "tried to access environment state before initialization"

end SettingsFault

/-- A place for settings, filled at most once. -/
structure SettingsStore where
  /-- The settings, once there are any. -/
  settings : Option Settings
  deriving DecidableEq

namespace SettingsStore

/-- The store before its first initialisation. -/
def empty : SettingsStore :=
  ⟨none⟩

/-- Fills the store with what the variables ask for. -/
def initialise (store : SettingsStore) (environment : Variables) :
    Except SettingsFault SettingsStore :=
  match store.settings with
  | some _ => .error .initialisedTwice
  | none => .ok ⟨some environment.settings⟩

/-- The settings in the store. -/
def read (store : SettingsStore) : Except SettingsFault Settings :=
  match store.settings with
  | some settings => .ok settings
  | none => .error .notInitialised

end SettingsStore

/-- A use of a settings store. -/
inductive SettingsCall
  /-- Fill the store. -/
  | initialise
  /-- Ask for the number of ticks that a run may take. -/
  | maxCycles
  /-- Ask whether every tick is shown. -/
  | trace
  deriving DecidableEq

/-- What a settings store answers to a call. -/
inductive SettingsAnswer
  /-- The store is filled. -/
  | initialised
  /-- The number of ticks that a run may take. -/
  | maxCycles (count : UInt64)
  /-- Whether every tick is shown. -/
  | trace (shown : Bool)
  /-- The call was wrong. -/
  | failed (fault : SettingsFault)
  deriving DecidableEq

/-- The outcome of one call: the answer, what it added to the journal, and the
store that it left. -/
structure SettingsReply where
  /-- The answer. -/
  answer : SettingsAnswer
  /-- What the journal says of the call. -/
  journal : List JournalEntry
  /-- The store after the call. -/
  store : SettingsStore
  deriving DecidableEq

namespace SettingsStore

/-- The outcome of a call. A call that fails leaves the store as it was, and an
initialisation has read the variables by then. -/
def call (environment : Variables) (store : SettingsStore) : SettingsCall → SettingsReply
  | .initialise =>
    match store.initialise environment with
    | .ok filled => ⟨.initialised, environment.warnings, filled⟩
    | .error fault => ⟨.failed fault, environment.warnings, store⟩
  | .maxCycles =>
    match store.read with
    | .ok settings => ⟨.maxCycles settings.maxCycles, [], store⟩
    | .error fault => ⟨.failed fault, [], store⟩
  | .trace =>
    match store.read with
    | .ok settings => ⟨.trace settings.trace, [], store⟩
    | .error fault => ⟨.failed fault, [], store⟩

/-- The outcomes of calls, one after the other. -/
def callAll (environment : Variables) : SettingsStore → List SettingsCall → List SettingsReply
  | _, [] => []
  | store, first :: calls =>
    let reply := store.call environment first
    reply :: callAll environment reply.store calls

end SettingsStore

end AccumulatorMachine
