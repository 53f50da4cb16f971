/-!
# Journal entries

What the assembler, the machine and the settings have to say about their work,
apart from its results. An entry has a level and a text.
-/

namespace AccumulatorMachine

/-- How much an entry of the journal matters. -/
inductive JournalLevel
  /-- Something is wrong, and the work goes on. -/
  | warn
  /-- A step of the work is done. -/
  | debug
  /-- A detail of the work. -/
  | trace
  deriving DecidableEq

namespace JournalLevel

/-- The name of the level in the journal. -/
def name : JournalLevel → String
  | warn => "WARN"
  | debug => "DEBUG"
  | trace => "TRACE"

end JournalLevel

/-- One entry of the journal. -/
structure JournalEntry where
  /-- How much the entry matters. -/
  level : JournalLevel
  /-- What the entry says. -/
  message : String
  deriving DecidableEq

namespace JournalEntry

/-- The entry as one text, the level first. -/
def text (entry : JournalEntry) : String :=
  entry.level.name ++ " " ++ entry.message

end JournalEntry

end AccumulatorMachine
