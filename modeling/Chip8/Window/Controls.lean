import Chip8.Window.Frame

/-! What the user does to the window: the keys of the keyboard that stand for the
keypad, and the controls for a reset, a pause, the speed and the end. -/

namespace Chip8

/-- The keyboard, in the layout of the keypad. -/
def Key.keyboard : List (Char × Int) :=
  [('1', 0x1), ('2', 0x2), ('3', 0x3), ('4', 0xC),
   ('q', 0x4), ('w', 0x5), ('e', 0x6), ('r', 0xD),
   ('a', 0x7), ('s', 0x8), ('d', 0x9), ('f', 0xE),
   ('z', 0xA), ('x', 0x0), ('c', 0xB), ('v', 0xF)]

/-- The number of the key that a key of the keyboard stands for. Capitals count as small
letters. -/
def Key.ofSymbol? (symbol : String) : Option Int :=
  match symbol.toList with
  | [c] => keyboard.lookup c.toLower
  | _ => none

theorem Key.exists_of_mem_keyboard : ∀ entry ∈ keyboard, ∃ key : Key, entry.2 = key.val := by
  decide

/-- No key of the keyboard stands for a key that does not exist. -/
theorem Key.exists_of_ofSymbol? {symbol : String} {index : Int}
    (found : ofSymbol? symbol = some index) : ∃ key : Key, index = key.val := by
  rw [ofSymbol?] at found
  split at found
  · obtain ⟨before, after, split, -⟩ := List.lookup_eq_some_iff.mp found
    exact exists_of_mem_keyboard _ (split ▸ List.mem_append_cons_self)
  · cases found

namespace Window

def pressKey (w : Window) (symbol : String) : Reaction Window :=
  match Key.ofSymbol? symbol with
  | some index => w.press index
  | none => .still w

def releaseKey (w : Window) (symbol : String) : Reaction Window :=
  match Key.ofSymbol? symbol with
  | some index => w.release index
  | none => .still w

def reset (w : Window) : Reaction Window :=
  (({ w with emulator := w.emulator.reset }.stopBeep).andThen render).andThen showStatus

def togglePause (w : Window) : Reaction Window :=
  let w := { w with isPaused := !w.isPaused }
  if w.isPaused then w.stopBeep.andThen showStatus else w.showStatus

def setSpeed (w : Window) (speed : Int) : Reaction Window :=
  { w with emulator := w.emulator.setSpeed speed }.showStatus

def highestSpeed : Int := 16

def faster (w : Window) : Reaction Window :=
  if w.emulator.speed < highestSpeed then w.setSpeed (w.emulator.speed * 2) else .still w

def slower (w : Window) : Reaction Window :=
  if 1 < w.emulator.speed then w.setSpeed (w.emulator.speed / 2) else .still w

def cancelTimer (w : Window) : Reaction Window :=
  .calling w (w.timer.toList.map .cancelTimer)

def close (w : Window) : Reaction Window :=
  (({ w with isOpen := false }.cancelTimer).andThen fun w =>
    w.buzzer.close.within fun buzzer => { w with buzzer }).andThen fun w => .calling w [.destroy]

/-- The first frame, after which the main loop waits for events. -/
def run (w : Window) (socket : Socket) (clock : Int) : Reaction Window :=
  (w.frame socket clock).andThen fun w => .calling w [.mainLoop]

end Window

end Chip8
