import Chip8.Window.Controls

/-! The desktop that a window lives on: the clock, the pad socket and the timers
that are still pending, the oldest first. It hands events to the window and keeps
the timers as the window's calls demand. -/

namespace Chip8

structure Desktop where
  window : Window
  socket : Socket
  clock : Int
  pending : List Nat

namespace Desktop

inductive Action
  | run
  /-- The oldest pending timer goes off. -/
  | elapse
  | press (symbol : String)
  | release (symbol : String)
  | reset
  | togglePause
  | slower
  | faster
  | close
  | setClock (seconds : Int)
  | plug (pad : Option Pad)
  | setFailing (request : Option PadRequest)
deriving DecidableEq, Repr

def create (emulator : Emulator) (title : String) (devices : Devices) :
    Except Wave.Unmakeable (Reaction Desktop) :=
  (Window.create emulator title devices 0).map fun opened =>
    opened.within fun window => { window, socket := {}, clock := 0, pending := [] }

def afterCall (pending : List Nat) : Call → List Nat
  | .startTimer timer _ => pending ++ [timer]
  | .cancelTimer timer => pending.filter (· ≠ timer)
  | _ => pending

/-- Takes over what an event has made of the window. -/
def settle (d : Desktop) (r : Reaction Window) : Reaction Desktop :=
  r.within fun window => { d with window, pending := r.calls.foldl afterCall d.pending }

def elapse (d : Desktop) : Reaction Desktop :=
  match d.pending with
  | [] => .still d
  | _ :: rest => { d with pending := rest }.settle (d.window.frame d.socket d.clock)

def perform (d : Desktop) : Action → Reaction Desktop
  | .run => d.settle (d.window.run d.socket d.clock)
  | .elapse => d.elapse
  | .press symbol => d.settle (d.window.pressKey symbol)
  | .release symbol => d.settle (d.window.releaseKey symbol)
  | .reset => d.settle d.window.reset
  | .togglePause => d.settle d.window.togglePause
  | .slower => d.settle d.window.slower
  | .faster => d.settle d.window.faster
  | .close => d.settle d.window.close
  | .setClock clock => .still { d with clock }
  | .plug pad => .still { d with socket := { d.socket with pad } }
  | .setFailing failing => .still { d with socket := { d.socket with failing } }

def performAll (d : Desktop) (actions : List Action) : Reaction Desktop :=
  actions.foldl (fun r action => r.andThen (perform · action)) (.still d)

end Desktop

end Chip8
