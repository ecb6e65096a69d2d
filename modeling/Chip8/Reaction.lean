import Chip8.Device

/-! The reaction of the front end to an event: the state after it, the calls it
makes on the devices and the notes it takes, both in order. Reactions follow one
another; a reaction cannot fail. -/

namespace Chip8

structure Reaction (State : Type) where
  state : State
  calls : List Call := []
  notes : Array Note := #[]

namespace Reaction

variable {State Other : Type}

def still (state : State) : Reaction State := { state }

def calling (state : State) (calls : List Call) : Reaction State := { state, calls }

def andThen (r : Reaction State) (next : State → Reaction Other) : Reaction Other :=
  let s := next r.state
  { state := s.state, calls := r.calls ++ s.calls, notes := r.notes ++ s.notes }

/-- The reaction of a part, as the reaction of the whole that it is put back into. -/
def within (r : Reaction State) (put : State → Other) : Reaction Other :=
  { state := put r.state, calls := r.calls, notes := r.notes }

@[simp] theorem state_andThen (r : Reaction State) (next : State → Reaction Other) :
    (r.andThen next).state = (next r.state).state := rfl

@[simp] theorem calls_andThen (r : Reaction State) (next : State → Reaction Other) :
    (r.andThen next).calls = r.calls ++ (next r.state).calls := rfl

theorem andThen_assoc {Third : Type} (r : Reaction State) (f : State → Reaction Other)
    (g : Other → Reaction Third) :
    (r.andThen f).andThen g = r.andThen fun s => (f s).andThen g := by
  simp [andThen, List.append_assoc, Array.append_assoc]

end Reaction

end Chip8
