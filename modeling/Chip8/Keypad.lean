import Chip8.Outcome

/-! The sixteen keys and the wait for a release. A poll with no wait under way
begins one; the first release after that is caught, whatever comes after it, and
the next poll hands it out and ends the wait. A release outside a wait is not
remembered. -/

namespace Chip8

abbrev Key := Fin 16

/-- The key with a number, which has to be the number of one. -/
def Key.of (number : Nat) (inside : number < 16 := by decide) : Key := ⟨number, inside⟩

def Key.ofInt? (index : Int) : Option Key :=
  if h : 0 ≤ index ∧ index < 16 then some ⟨index.toNat, by omega⟩ else none

theorem Key.ofInt?_val (key : Key) : Key.ofInt? (key.val : Int) = some key := by
  have := key.isLt
  rw [Key.ofInt?, dif_pos (by omega)]
  simp

/-- Whether a wait is under way, and the release that it has caught. -/
inductive Wait
  | idle
  | armed (caught : Option Key)
deriving DecidableEq, Repr

structure Keypad where
  pressed : Vector Bool 16
  wait : Wait
deriving DecidableEq

namespace Keypad

def atRest : Keypad where
  pressed := Vector.replicate 16 false
  wait := .idle

def isWaiting (pad : Keypad) : Bool :=
  match pad.wait with
  | .idle => false
  | .armed _ => true

def caught? (pad : Keypad) : Option Key :=
  match pad.wait with
  | .idle => none
  | .armed caught => caught

def isPressed (pad : Keypad) (key : Key) : Bool := pad.pressed[key]

def press (pad : Keypad) (key : Key) : Keypad := { pad with pressed := pad.pressed.set key true }

def release (pad : Keypad) (key : Key) : Keypad where
  pressed := pad.pressed.set key false
  wait :=
    match pad.wait with
    | .armed none => .armed (some key)
    | wait => wait

def releaseNotes (pad : Keypad) (key : Key) : Array Note :=
  match pad.wait with
  | .armed none => #[.releaseCaught key]
  | _ => #[]

/-- One step of the wait, with the release if it hands one out. -/
def poll (pad : Keypad) : Keypad × Option Key :=
  match pad.wait with
  | .idle => ({ pad with wait := .armed none }, none)
  | .armed none => (pad, none)
  | .armed (some key) => ({ pad with wait := .idle }, some key)

def pollNotes (pad : Keypad) : Array Note :=
  match pad.wait with
  | .idle => #[.awaitingRelease]
  | .armed _ => #[]

theorem isPressed_press (pad : Keypad) (key other : Key) :
    (pad.press key).isPressed other = if key = other then true else pad.isPressed other := by
  simp only [press, isPressed, Fin.getElem_fin, Vector.getElem_set, Fin.ext_iff]

theorem isPressed_release (pad : Keypad) (key other : Key) :
    (pad.release key).isPressed other = if key = other then false else pad.isPressed other := by
  simp only [release, isPressed, Fin.getElem_fin, Vector.getElem_set, Fin.ext_iff]

/-- A poll moves the wait on and nothing else. -/
theorem poll_pressed (pad : Keypad) : pad.poll.1.pressed = pad.pressed := by
  rw [poll]
  split <;> rfl

theorem poll_released (pad : Keypad) : pad.poll.2 = pad.caught? := by
  unfold poll caught?
  split <;> simp_all

/-- What a keypad can be asked, with keys that may not exist. -/
inductive Command
  | press (index : Int)
  | release (index : Int)
  | isPressed (index : Int)
  | poll
  | reset
deriving DecidableEq, Repr

inductive Answer
  | done
  | pressed (down : Bool)
  | released (key : Option Key)
deriving DecidableEq, Repr

/-- Asks for a key that may not exist; then nothing but the fault comes of it. -/
def withKey (pad : Keypad) (index : Int) (ask : Key → Outcome Keypad Answer) :
    Outcome Keypad Answer :=
  match Key.ofInt? index with
  | some key => ask key
  | none => { state := pad, result := .error (.noKey index) }

def perform (pad : Keypad) : Command → Outcome Keypad Answer
  | .press index => pad.withKey index fun key => .ok (pad.press key) .done
  | .release index => pad.withKey index fun key =>
    { state := pad.release key, result := .ok .done, notes := pad.releaseNotes key }
  | .isPressed index => pad.withKey index fun key => .ok pad (.pressed (pad.isPressed key))
  | .poll => { state := pad.poll.1, result := .ok (.released pad.poll.2), notes := pad.pollNotes }
  | .reset => .ok atRest .done

end Keypad

end Chip8
