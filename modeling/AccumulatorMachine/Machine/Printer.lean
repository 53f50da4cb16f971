import AccumulatorMachine.Machine.Signal

/-!
# The printer

The printer appends a word to its paper on every tick on which output is
asked for.
-/

namespace AccumulatorMachine

/-- The paper and the request that the printer was given. -/
structure Printer where
  /-- Whether a reset is asked for. -/
  reset : Bool
  /-- Whether a word is to be printed. -/
  output : Bool
  /-- The word to print. -/
  register : UInt8
  /-- Everything printed so far. -/
  paper : List UInt8
  deriving DecidableEq

namespace Printer

/-- The printer with empty paper and no request. -/
def initial : Printer where
  reset := false
  output := false
  register := 0
  paper := []

/-- The printer after one tick. -/
def tick (printer : Printer) : Printer :=
  if printer.reset then initial
  else if printer.output then { printer with paper := printer.paper ++ [printer.register] }
  else printer

/-- What the printer drives on a line. -/
def drives (printer : Printer) : Line → Option Signal
  | .reset => some (.flag printer.reset)
  | .output => some (.flag printer.output)
  | .outputRegister => some (.word printer.register)
  | _ => none

/-- The printer after it heard a signal on a line. -/
def accept (printer : Printer) (line : Line) (signal : Signal) : Printer :=
  match line with
  | .reset => { printer with reset := signal.raised }
  | .output => { printer with output := signal.raised }
  | .outputRegister => { printer with register := signal.value }
  | _ => printer

end Printer

end AccumulatorMachine
