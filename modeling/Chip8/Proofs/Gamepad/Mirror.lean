import Mathlib.Data.List.Chain
import Mathlib.Data.List.DropRight
import Chip8.Proofs.Gamepad.Poll

/-! The gamepad mirrors the pad. All that it reports of a key goes down and up by turns, and
after every poll the keys that were last reported to be down are just those that the pad
presses, or none if the poll has lost the pad. A poll that loses the pad reports a release of
each key that was down, in the order of their first press, and nothing else
(`mirrors_pad`). -/

namespace Chip8.Gamepad

/-- The gamepad after polls, which find the socket in these states. -/
def after (g : Gamepad) (sockets : List Socket) : Gamepad :=
  sockets.foldl (fun g socket => (g.poll socket).1) g

/-- What came of each of the polls. -/
def history (g : Gamepad) : List Socket → List (Gamepad × List Event)
  | [] => []
  | socket :: rest => g.poll socket :: (g.poll socket).1.history rest

/-- The changes that a history reports. -/
def reported (history : List (Gamepad × List Event)) : List (Key × Bool) :=
  history.flatMap fun poll => changes poll.2

/-- The polls of a history that a pad has been connected for, up to its end. -/
def sinceConnection (history : List (Gamepad × List Event)) : List (Gamepad × List Event) :=
  history.rtakeWhile (·.1.isConnected)

/-- Whether changes leave a key down. -/
def isDown (made : List (Key × Bool)) (key : Key) : Bool := (turns key made).getLast? = some true

/-- Down, up, down and so on: what was up at first changes every time. -/
def ByTurns (turns : List Bool) : Prop := (false :: turns).IsChain (· ≠ ·)

theorem length_turn_le (before after : Bool) : (turn before after).length ≤ 1 := by
  rw [turn]
  split <;> simp

theorem ByTurns.append_turn {turns : List Bool} {before : Bool} (h : ByTurns turns)
    (last : turns.getLast?.getD false = before) (after : Bool) :
    ByTurns (turns ++ turn before after) ∧
      (turns ++ turn before after).getLast?.getD false = after := by
  by_cases same : before = after
  · simp [turn, same ▸ last, same, h]
  · refine ⟨?_, by simp [turn, same]⟩
    rw [turn, if_neg same, ByTurns, ← List.cons_append, List.isChain_append]
    refine ⟨h, .singleton _, ?_⟩
    simpa [List.getLast?_cons, last] using same

/-- What the history of a gamepad has to do with its state. -/
structure Mirrors (g : Gamepad) (history : List (Gamepad × List Event)) : Prop
    extends Kept g (reported (sinceConnection history)) where
  byTurns : ∀ key, ByTurns (turns key (reported history))
  latest : ∀ key, (turns key (reported history)).getLast?.getD false = g.holds key

namespace Mirrors

variable {g : Gamepad} {history : List (Gamepad × List Event)}

theorem start : (start none).1.Mirrors [] where
  toKept := .start
  byTurns _ := .singleton _
  latest _ := rfl

theorem poll (h : g.Mirrors history) (socket : Socket) :
    (g.poll socket).1.Mirrors (history ++ [g.poll socket]) := by
  have turned (key : Key) : turns key (reported (history ++ [g.poll socket])) =
      turns key (reported history) ++ turn (g.holds key) ((g.poll socket).1.holds key) := by
    simp [reported, h.poll_turns socket key]
  have recent : reported (sinceConnection (history ++ [g.poll socket])) =
      if (g.poll socket).1.isConnected then
        reported (sinceConnection history) ++ changes (g.poll socket).2
      else [] := by
    rw [sinceConnection, List.rtakeWhile_concat]
    split <;> simp [reported, sinceConnection]
  have next (key : Key) := (h.byTurns key).append_turn (h.latest key) ((g.poll socket).1.holds key)
  refine ⟨recent ▸ h.toKept.poll socket, ?_, ?_⟩
  · intro key
    rw [turned]
    exact (next key).1
  · intro key
    rw [turned]
    exact (next key).2

theorem polls (h : g.Mirrors history) (sockets : List Socket) :
    (g.after sockets).Mirrors (history ++ g.history sockets) := by
  induction sockets generalizing g history with
  | nil => simpa [after, Gamepad.history] using h
  | cons socket rest ih => simpa [after, Gamepad.history] using ih (h.poll socket)

theorem isDown_eq (h : g.Mirrors history) (key : Key) :
    isDown (reported history) key = g.holds key := by
  rw [isDown, ← h.latest key]
  cases (turns key (reported history)).getLast? <;> simp

end Mirrors

theorem mirrors_pad (sockets : List Socket) (socket : Socket) :
    let new := (start none).1
    let before := new.after sockets
    let poll := before.poll socket
    let past := new.history sockets
    let now := past ++ [poll]
    (∀ key, ByTurns (turns key (reported now)) ∧ (turns key (changes poll.2)).length ≤ 1) ∧
    (∀ key, isDown (reported now) key = true ↔
      poll.1.isConnected = true ∧ ∃ pad, socket.pad = some pad ∧ pad.Signals key) ∧
    (poll.1.isConnected = true ↔ ¬ before.Misses socket) ∧
    (before.Misses socket →
      let pressed := firstPressed (reported (sinceConnection past))
      (∀ key, isDown (reported past) key = true → key ∈ pressed) ∧
      changes poll.2 = (pressed.filter (isDown (reported past))).map (·, false)) := by
  intro new before poll past now
  have mirrors : before.Mirrors past := Mirrors.start.polls sockets
  have next : poll.1.Mirrors now := mirrors.poll socket
  refine ⟨?_, ?_, mirrors.poll_isConnected socket, ?_⟩
  · intro key
    refine ⟨next.byTurns key, ?_⟩
    rw [mirrors.poll_turns socket key]
    exact length_turn_le _ _
  · intro key
    rw [next.isDown_eq]
    exact mirrors.poll_holds socket key
  · intro missed pressed
    have order : before.held.map Prod.fst = pressed := mirrors.order
    have down : isDown (reported past) = before.holds := funext mirrors.isDown_eq
    rw [down, ← order]
    exact ⟨fun key => mem_of_holds, mirrors.poll_missed missed⟩

/-- A key keeps the place of its first press when it comes up and goes down again, be it a button
or a direction of the hat. -/
theorem mirrors_pad_pulled_out :
    let plugged (square circle : Bool) (hat : Int × Int) : Socket :=
      { pad := some { name := "Pad", buttons := [square, circle], hats := [hat] } }
    let sockets :=
      [plugged true false (0, 1), plugged true true (1, 1), plugged false true (-1, 0),
       plugged true true (0, 1)]
    let before := (start none).1.after sockets
    before.Misses {} ∧
      changes (before.poll {}).2 = [(2, false), (8, false), (1, false)] := by
  intro plugged sockets before
  have missed : before.Misses {} := .inr rfl
  obtain ⟨-, -, -, released⟩ := mirrors_pad sockets {}
  refine ⟨missed, (released missed).2.trans ?_⟩
  decide +kernel

end Chip8.Gamepad
