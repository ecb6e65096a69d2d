import Chip8.Device

/-! The gamepad as a second keypad. A poll looks whether a pad is there, compares
the keys that its buttons and its first hat press with those that are held, and
reports the differences in ascending order. When the pad goes away, or anything
about it fails, the keys that are held are released, in the order in which each
was first pressed since the pad was connected. -/

namespace Chip8

namespace Pad

/-- The buttons that stand for keys. -/
def buttonKeys : List (Nat × Key) :=
  [(1, .of 0x1), (0, .of 0x2), (3, .of 0x3), (2, .of 0xC), (4, .of 0x4), (5, .of 0x5),
   (6, .of 0xD), (7, .of 0xE), (8, .of 0x7), (9, .of 0x8), (12, .of 0x9), (13, .of 0xA)]

/-- The directions that stand for keys; a hat that points between two stands for none. -/
def directionKeys : List ((Int × Int) × Key) :=
  [((0, 1), .of 0x8), ((0, -1), .of 0x2), ((-1, 0), .of 0x4), ((1, 0), .of 0x6)]

/-- The keys that a pad can press, in ascending order. -/
def keys : List Key :=
  (List.finRange 16).filter fun key =>
    buttonKeys.any (·.2 == key) || directionKeys.any (·.2 == key)

def presses (pad : Pad) (key : Key) : Bool :=
  buttonKeys.any (fun (button, k) => k == key && pad.buttons[button]? == some true) ||
  directionKeys.any (fun (direction, k) => k == key && pad.hats.head? == some direction)

/-- Whether reading a pad makes a request: a pad without buttons is not asked for
any, nor one without hats for a hat. -/
def needs (pad : Pad) : PadRequest → Bool
  | .button => !pad.buttons.isEmpty
  | .hat => !pad.hats.isEmpty
  | _ => false

end Pad

structure Gamepad where
  isEnabled : Bool
  /-- The name of the pad that is connected, as it was when it was connected. -/
  connected : Option String
  /-- The keys that were ever pressed since then, in the order of their first press,
  and whether each is held now. -/
  held : List (Key × Bool)
deriving DecidableEq, Repr

namespace Gamepad

inductive Event
  | key (key : Key) (down : Bool)
  | note (note : Note)
deriving DecidableEq, Repr

def idle (isEnabled : Bool) : Gamepad := { isEnabled, connected := none, held := [] }

def start (refusal : Option String) : Gamepad × Array Note :=
  match refusal with
  | none => (idle true, #[])
  | some reason => (idle false, #[.padsDisabled reason])

def isConnected (g : Gamepad) : Bool := g.connected.isSome

def name (g : Gamepad) : String := g.connected.getD "None"

def holds (g : Gamepad) (key : Key) : Bool := (g.held.lookup key).getD false

/-- A key keeps the place of its first press. -/
def record (held : List (Key × Bool)) (key : Key) (down : Bool) : List (Key × Bool) :=
  match held with
  | [] => [(key, down)]
  | (k, d) :: rest => if k = key then (k, down) :: rest else (k, d) :: record rest key down

theorem lookup_record (held : List (Key × Bool)) (key : Key) (down : Bool) (other : Key) :
    (record held key down).lookup other = if other = key then some down else held.lookup other := by
  induction held with
  | nil => by_cases same : other = key <;> simp [record, same]
  | cons entry rest ih =>
    obtain ⟨k, d⟩ := entry
    by_cases here : k = key
    · by_cases same : other = key
      · simp [record, here, same]
      · have unequal : (other == key) = false := by simpa using same
        simp [record, List.lookup_cons, here, same, unequal]
    · by_cases there : other = k
      · subst there
        simp [record, here]
      · have unequal : (other == k) = false := by simpa using there
        simp [record, List.lookup_cons, here, unequal, ih]

def releases (g : Gamepad) : List Event :=
  g.held.filterMap fun (key, down) => if down then some (.key key false) else none

def disconnect (g : Gamepad) : Gamepad × List Event := (idle g.isEnabled, g.releases)

def fail (g : Gamepad) (request : PadRequest) : Gamepad × List Event :=
  let (after, events) := g.disconnect
  (after, .note (.padFailed request.failureText) :: events)

/-- Brings one key up to date with the pad. -/
def follow (pad : Pad) (state : Gamepad × List Event) (key : Key) : Gamepad × List Event :=
  let (g, events) := state
  let down := pad.presses key
  if g.holds key = down then state
  else ({ g with held := record g.held key down }, events ++ [.key key down])

/-- Reads the pad that is connected, unless a request that it takes fails. -/
def read (g : Gamepad) (pad : Pad) (failing : Option PadRequest) : Gamepad × List Event :=
  match failing.filter pad.needs with
  | some request => g.fail request
  | none => Pad.keys.foldl (follow pad) (g, [])

def poll (g : Gamepad) (socket : Socket) : Gamepad × List Event :=
  if !g.isEnabled then (g, [])
  else
    match socket.failing, socket.pad, g.connected with
    | some .pump, _, _ => g.fail .pump
    | some .count, _, _ => g.fail .count
    | some .connect, some _, none => g.fail .connect
    | failing, some pad, none =>
      let (after, events) := { g with connected := some pad.name }.read pad failing
      (after, .note (.padConnected pad.name) :: events)
    | failing, some pad, some _ => g.read pad failing
    | _, none, some _ =>
      let (after, events) := g.disconnect
      (after, .note .padDisconnected :: events)
    | _, none, none => (g, [])

end Gamepad

end Chip8
