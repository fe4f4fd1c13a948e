import RandomAccess.Proofs.StepConsequences

/-! All that a statement takes from its program is where labels lead. If every label is moved to another line,
a jump goes to the moved line, and everything else that the statement comes to is the same. -/

namespace RandomAccess

def Move.relocate (place : Int → Int) : Move → Move
  | .jump target => .jump (place target)
  | move => move

def Effect.relocate (place : Int → Int) (effect : Effect) : Effect :=
  { effect with next := Move.relocate place <$> effect.next }

def Consequence.relocate (place : Int → Int) (consequence : Consequence) : Consequence :=
  { consequence with next := Move.relocate place <$> consequence.next }

/-- Each label of the one program leads to the place of its line in the other. -/
def Program.Relocates (place : Int → Int) (before after : Program) : Prop :=
  ∀ label, after.jump label = Move.relocate place <$> before.jump label

variable {place : Int → Int} {before after : Program}

namespace Command

theorem jumpAtZero_relocate (relocates : before.Relocates place after) (memory : Memory) (target : Operand) (label : Text) :
    jumpAtZero after memory target label = Move.relocate place <$> jumpAtZero before memory target label := by
  simp only [jumpAtZero, map_bind, relocates label]
  refine bind_congr fun address => bind_congr fun value => ?_
  split <;> rfl

theorem effect_relocate (relocates : before.Relocates place after) (memory : Memory) (input : Input) (command : Command) :
    command.effect after memory input = Effect.relocate place <$> command.effect before memory input := by
  cases command with
  | skip | halt => rfl
  | load | store | arithmetic | read =>
    simp only [effect, map_bind]
    rfl
  | jump label =>
    simp only [effect, relocates label]
    cases before.jump label <;> rfl
  | jumpIf condition label =>
    simp only [effect, map_bind, relocates label]
    refine bind_congr fun value => ?_
    split
    · cases before.jump label <;> rfl
    · rfl
  | subtractJump target other label =>
    simp only [effect, map_bind, jumpAtZero_relocate relocates]
    rfl
  | write source =>
    simp only [effect, map_bind]
    refine bind_congr fun value => ?_
    split <;> rfl

end Command

theorem Effect.consequence_relocate (effect : Effect) (observer : Observer) (memory : Memory) :
    (effect.relocate place).consequence observer memory = (effect.consequence observer memory).relocate place := by
  have refused : (effect.relocate place).refusal? observer memory = effect.refusal? observer memory := rfl
  simp only [consequence, refused]
  cases effect.refusal? observer memory <;> rfl

theorem Command.performed_relocate (relocates : before.Relocates place after) (memory : Memory) (observer : Observer)
    (input : Input) (command : Command) :
    command.performed after memory observer input = (command.performed before memory observer input).relocate place := by
  simp only [performed, effect_relocate relocates]
  cases command.effect before memory input with
  | error fault => rfl
  | ok effect => exact effect.consequence_relocate observer memory

theorem Statement.consequence_relocate (relocates : before.Relocates place after) (memory : Memory) (observer : Observer)
    (input : Input) (statement : Statement) :
    statement.consequence after memory observer input =
      (statement.consequence before memory observer input).relocate place := by
  simp only [consequence]
  cases InstructionSet.standard.decode statement with
  | error fault => rfl
  | ok command =>
    simp only [Command.consequence, Command.performed_relocate relocates]
    split <;> rfl

/-- Two machines that are at the same text, and differ only in where their labels lead, do the same. -/
theorem Machine.consequence_relocate {first second : Machine} (relocates : first.program.Relocates place second.program)
    (text : second.fetched = first.fetched) (memory : second.workspace.memory = first.workspace.memory)
    (observer : second.workspace.observer = first.workspace.observer)
    (inputs : second.workspace.inputs = first.workspace.inputs) :
    second.consequence = first.consequence.relocate place := by
  simp only [consequence, text, memory, observer, inputs]
  cases first.fetched with
  | error fault => rfl
  | ok text => exact Statement.consequence_relocate relocates ..

end RandomAccess
