import AccumulatorMachine.Console.Request

/-!
# Ways to ask for a run

Arguments that do not begin with a dash are operands, wherever options may stand
(`Request.ne_option_of_head`). So a path alone asks for what it asks for behind the
name of the command, a run with nothing special about it, unless it is the name of a
command itself; and the number of ticks that a run may take can be given behind it.
-/

namespace AccumulatorMachine

namespace Request

variable {path : String}

/-- What does not begin with a dash is no option. -/
theorem ne_option_of_head (h : path.toList.head? ≠ some '-') :
    longOption? path = none ∧ letters? path = none ∧
      ∀ option ∈ ["--", "--help", "--version"], path ≠ option := by
  refine ⟨?_, ?_, ?_⟩
  · unfold longOption?
    split
    · next heq => exact absurd (congrArg List.head? heq) h
    · rfl
  · unfold letters?
    split
    · next heq => exact absurd (congrArg List.head? heq) h
    · rfl
  · rintro option hoption rfl
    simp only [List.mem_cons, List.not_mem_nil, or_false] at hoption
    rcases hoption with rfl | rfl | rfl <;> exact h rfl

/-- **A path alone asks for a run** with nothing special about it, if it is not the name
of a command. -/
theorem ofArguments_path (hempty : path ≠ "") (hdash : path.toList.head? ≠ some '-')
    (hname : Topic.ofName? path = none) :
    ofArguments [path] = .ok (.command (.run path {})) := by
  obtain ⟨-, hletters, hoptions⟩ := ne_option_of_head hdash
  unfold ofArguments ofArgumentsFrom
  rw [if_neg Bool.false_ne_true, hname]
  dsimp only
  rw [if_neg (hoptions _ (by simp)), if_neg (hoptions _ (by simp)),
    if_neg (hoptions _ (by simp)), hletters]
  dsimp only
  rw [if_neg (by simp), if_neg (by simpa using hempty)]
  rfl

/-- **The name of a command begins it.** -/
theorem ofArguments_name (topic : Topic) (arguments : List String) :
    ofArguments (topic.name :: arguments) = ofTopic topic arguments := by
  have htopic : Topic.ofName? topic.name = some topic := by cases topic <;> decide
  unfold ofArguments ofArgumentsFrom
  simp only [Bool.false_eq_true, if_false, htopic]

/-- An operand that has a place takes it. -/
theorem readArguments_operand (hdash : path.toList.head? ≠ some '-') {topic : Topic}
    {gathered more : Gathered} (h : gathered.addOperand topic path = .ok more)
    (arguments : List String) :
    readArguments topic false gathered (path :: arguments)
      = readArguments topic false more arguments := by
  obtain ⟨hlong, hletters, hoptions⟩ := ne_option_of_head hdash
  rw [readArguments.eq_def]
  simp only [Bool.false_eq_true, if_false, if_neg (hoptions "--" List.mem_cons_self), hlong,
    hletters, h]

/-- The path of a program to run is its first operand. -/
theorem addOperand_path (hempty : path ≠ "") :
    Gathered.addOperand {} .run path = .ok ⟨[path], {}⟩ := by
  unfold Gathered.addOperand
  rw [if_pos (by decide), if_neg (by simpa using hempty)]
  rfl

/-- The command to run a path asks for that. -/
theorem ofArguments_run (hempty : path ≠ "") (hdash : path.toList.head? ≠ some '-') :
    ofArguments ["run", path] = .ok (.command (.run path {})) := by
  rw [show "run" = Topic.run.name from rfl, ofArguments_name, ofTopic, if_neg (by decide),
    readArguments_operand hdash (addOperand_path hempty)]
  rfl

/-- **The number of ticks that a run may take** is asked for by an option behind the path. -/
theorem ofArguments_run_cycles (hempty : path ≠ "") (hdash : path.toList.head? ≠ some '-')
    {value : String} {n : Nat}
    (hvalue : Text.readSignedDecimal Variables.maxCyclesLimit value.toList = .ok n) :
    ofArguments ["run", path, "--cycles", value]
      = .ok (.command (.run path { cycles := some (UInt64.ofNat n) })) := by
  have hcycles : longOption? "--cycles" = some ("cycles", none) := by decide
  have hoption : CommandOption.ofLong? .run "cycles" = some .cycles := rfl
  have hset : Gathered.setCycles ⟨[path], {}⟩ "--cycles" value
      = .ok ⟨[path], { cycles := some (UInt64.ofNat n) }⟩ := by
    unfold Gathered.setCycles
    rw [hvalue]
    rfl
  have hread : readArguments .run false ⟨[path], {}⟩ ["--cycles", value]
      = .ok (.done ⟨[path], { cycles := some (UInt64.ofNat n) }⟩) := by
    rw [readArguments.eq_def]
    simp only [Bool.false_eq_true, if_false, if_neg (show ¬ "--cycles" = "--" by decide), hcycles,
      hoption, hset, readArguments]
  rw [show "run" = Topic.run.name from rfl, ofArguments_name, ofTopic, if_neg (by decide),
    readArguments_operand hdash (addOperand_path hempty), hread]
  rfl

end Request

end AccumulatorMachine
