import Chip8.Note

/-! The outcome of an action on a state: the state after it, also after a fault,
the answer or the fault, and the notes taken on the way. -/

namespace Chip8

structure Outcome (State Answer : Type) where
  state : State
  result : Except Fault Answer
  notes : Array Note := #[]

namespace Outcome

variable {State Answer : Type}

/-- The outcome with its state seen otherwise. -/
def mapState {Other : Type} (f : State → Other) (o : Outcome State Answer) :
    Outcome Other Answer :=
  { state := f o.state, result := o.result, notes := o.notes }

def ok (state : State) (answer : Answer) : Outcome State Answer := { state, result := .ok answer }

end Outcome

end Chip8
