import Mathlib.Data.List.DropRight
import Mathlib.Data.List.Induction
import Mathlib.Data.List.Infix
import Chip8.Keypad

/-! Traces of a keypad. What a keypad answers can be told from what it was asked before. A key
is down if its last turn since the last reset was a press. A poll that finds no wait open opens
one, and from then on the first release counts: a later poll hands it out and ends the wait.
So a poll looks back to the poll that opened the wait and takes the first release since
(`answers_of_history`). -/

namespace Chip8.Keypad

/-- The keypad once it has been asked a list of things, whether they fail or not. -/
def after (pad : Keypad) (commands : List Command) : Keypad :=
  commands.foldl (fun pad command => (pad.perform command).state) pad

namespace Command

/-- The key that a command is about, which may not exist. -/
def index? : Command → Option Int
  | press index | release index | isPressed index => some index
  | poll | reset => none

/-- Whether a command presses or releases a key, if it does. -/
def turn? (key : Key) : Command → Option Bool
  | press index => if Key.ofInt? index = some key then some true else none
  | release index => if Key.ofInt? index = some key then some false else none
  | isPressed _ | poll | reset => none

def released? : Command → Option Key
  | release index => Key.ofInt? index
  | press _ | isPressed _ | poll | reset => none

end Command

/-- The last press or release of a key since the last reset. -/
def lastTurn (key : Key) (history : List Command) : Option Bool :=
  ((history.rtakeWhile (· ≠ .reset)).filterMap (Command.turn? key)).getLast?

def firstReleased (commands : List Command) : Option Key := commands.findSome? Command.released?

/-- A poll came between the two stretches of a history and opened a wait, which has been open
ever since. -/
structure OpenSince (earlier recent : List Command) : Prop where
  idle : (atRest.after earlier).isWaiting = false
  since : ∀ first, first <+: recent → (atRest.after (earlier ++ .poll :: first)).isWaiting = true

/-- The next poll takes the release that came after `before`: it is the first one since the
poll that opened the wait. -/
def HandsOut (history before : List Command) (key : Key) : Prop :=
  ∃ earlier quiet index rest,
    before = earlier ++ .poll :: quiet ∧ history = before ++ .release index :: rest ∧
      OpenSince earlier (quiet ++ .release index :: rest) ∧ firstReleased quiet = none ∧
        Key.ofInt? index = some key

variable {pad : Keypad} {history before earlier recent : List Command} {command : Command}
  {key : Key}

theorem after_concat (pad : Keypad) (history : List Command) (command : Command) :
    pad.after (history ++ [command]) = ((pad.after history).perform command).state := by
  simp [after, List.foldl_append]

theorem ofInt?_eq_none_iff {index : Int} : Key.ofInt? index = none ↔ index < 0 ∨ 16 ≤ index := by
  rw [Key.ofInt?]
  split <;> simp <;> omega

theorem perform_eq_error {index : Int} (about : command.index? = some index)
    (unknown : Key.ofInt? index = none) :
    pad.perform command = { state := pad, result := .error (.noKey index) } := by
  cases command with
  | press | release | isPressed =>
    cases about
    simp [perform, withKey, unknown]
  | poll | reset => cases about

theorem perform_eq_ok (known : ∀ index, command.index? = some index → Key.ofInt? index ≠ none) :
    ∃ answer, (pad.perform command).result = .ok answer := by
  cases command with
  | press index | release index | isPressed index =>
    obtain ⟨key, named⟩ := Option.ne_none_iff_exists'.mp (known index rfl)
    simp [perform, withKey, named, Outcome.ok]
  | poll | reset => exact ⟨_, rfl⟩

/-! ## Keys -/

theorem isPressed_perform (pad : Keypad) (command : Command) (key : Key) :
    (pad.perform command).state.isPressed key =
      if command = .reset then false else (command.turn? key).getD (pad.isPressed key) := by
  cases command with
  | press index =>
    cases named : Key.ofInt? index with
    | none => simp [perform, withKey, Command.turn?, named]
    | some other =>
      simp only [perform, withKey, Outcome.ok, Command.turn?, named, isPressed_press]
      split <;> simp_all
  | release index =>
    cases named : Key.ofInt? index with
    | none => simp [perform, withKey, Command.turn?, named]
    | some other =>
      simp only [perform, withKey, Command.turn?, named, isPressed_release]
      split <;> simp_all
  | isPressed index =>
    cases named : Key.ofInt? index <;> simp [perform, withKey, Outcome.ok, Command.turn?, named]
  | poll =>
    simp only [perform, poll, Command.turn?]
    split <;> simp [isPressed]
  | reset => exact Vector.getElem_replicate key.isLt

theorem lastTurn_concat (key : Key) (history : List Command) (command : Command) :
    lastTurn key (history ++ [command]) =
      if command = .reset then none else (command.turn? key).or (lastTurn key history) := by
  by_cases reset : command = .reset
  · simp [lastTurn, reset]
  · cases turn : command.turn? key <;>
      simp [lastTurn, reset, List.filterMap_append, turn]

theorem isPressed_after (history : List Command) (key : Key) :
    (atRest.after history).isPressed key = (lastTurn key history).getD false := by
  induction history using List.reverseRecOn with
  | nil => exact Vector.getElem_replicate key.isLt
  | append_singleton history command ih =>
    rw [after_concat, isPressed_perform, lastTurn_concat, ih]
    split
    · rfl
    · cases command.turn? key <;> rfl

/-! ## Waits -/

/-- Only polls and resets open and end a wait, and only a release can be caught in it. -/
theorem wait_perform (pad : Keypad) (command : Command) :
    (pad.perform command).state.wait =
      match command with
      | .poll => pad.poll.1.wait
      | .reset => .idle
      | _ =>
        match pad.wait with
        | .armed none => .armed command.released?
        | wait => wait := by
  cases command with
  | press index | release index | isPressed index =>
    cases named : Key.ofInt? index <;> rcases wait : pad.wait with _ | _ | _ <;>
      simp [perform, withKey, press, release, Outcome.ok, Command.released?, named, wait]
  | poll | reset => rfl

theorem isWaiting_perform (pad : Keypad) (command : Command) :
    (pad.perform command).state.isWaiting =
      match command with
      | .poll => !pad.isWaiting || pad.caught?.isNone
      | .reset => false
      | _ => pad.isWaiting := by
  rw [isWaiting, wait_perform]
  cases command with
  | poll => rcases wait : pad.wait with _ | _ | _ <;> simp [poll, isWaiting, caught?, wait]
  | press | release | isPressed | reset =>
    rcases wait : pad.wait with _ | _ | _ <;> simp [isWaiting, wait]

/-- As long as a wait goes on, what is caught in it first stays caught. -/
theorem caught?_perform (waiting : pad.isWaiting = true)
    (still : (pad.perform command).state.isWaiting = true) :
    (pad.perform command).state.caught? = pad.caught?.or command.released? := by
  rw [isWaiting_perform] at still
  rw [caught?, wait_perform]
  cases command with
  | poll =>
    rcases wait : pad.wait with _ | _ | _ <;>
      simp_all [poll, isWaiting, caught?, Command.released?]
  | press | release | isPressed =>
    rcases wait : pad.wait with _ | _ | _ <;>
      simp_all [isWaiting, caught?, Command.released?]
  | reset => cases still

theorem firstReleased_concat (commands : List Command) (command : Command) :
    firstReleased (commands ++ [command]) = (firstReleased commands).or command.released? := by
  simp [firstReleased, List.findSome?_append]

namespace OpenSince

theorem now (h : OpenSince earlier recent) :
    (atRest.after (earlier ++ .poll :: recent)).isWaiting = true :=
  h.since recent (List.prefix_refl recent)

theorem begin (idle : (atRest.after history).isWaiting = false) : OpenSince history [] := by
  refine ⟨idle, fun first empty => ?_⟩
  obtain rfl := List.prefix_nil.mp empty
  rw [after_concat, isWaiting_perform]
  simp [idle]

theorem concat (h : OpenSince earlier recent)
    (still : ((atRest.after (earlier ++ .poll :: recent)).perform command).state.isWaiting = true) :
    OpenSince earlier (recent ++ [command]) := by
  refine ⟨h.idle, fun first found => ?_⟩
  rcases List.prefix_concat_iff.mp found with rfl | found
  · rwa [← List.cons_append, ← List.append_assoc, after_concat]
  · exact h.since first found

/-- In a wait that is open the keypad has caught the first release since. -/
theorem caught (h : OpenSince earlier recent) :
    (atRest.after (earlier ++ .poll :: recent)).caught? = firstReleased recent := by
  induction recent using List.reverseRecOn with
  | nil =>
    have idle := h.idle
    rw [isWaiting] at idle
    rw [after_concat, caught?, wait_perform, poll]
    cases wait : (atRest.after earlier).wait with
    | idle => rfl
    | armed => simp [wait] at idle
  | append_singleton recent command ih =>
    have before : OpenSince earlier recent :=
      ⟨h.idle, fun first found => h.since first (found.trans (List.prefix_append _ _))⟩
    have still := h.now
    rw [← List.cons_append, ← List.append_assoc, after_concat] at still ⊢
    rw [caught?_perform before.now still, ih before, firstReleased_concat]

end OpenSince

theorem exists_openSince (waiting : (atRest.after history).isWaiting = true) :
    ∃ earlier recent, history = earlier ++ .poll :: recent ∧ OpenSince earlier recent := by
  induction history using List.reverseRecOn with
  | nil => cases waiting
  | append_singleton history command ih =>
    rw [after_concat] at waiting
    by_cases before : (atRest.after history).isWaiting = true
    · obtain ⟨earlier, recent, rfl, opened⟩ := ih before
      exact ⟨earlier, recent ++ [command], by simp, opened.concat waiting⟩
    · rw [isWaiting_perform] at waiting
      cases command with
      | poll => exact ⟨history, [], rfl, .begin (Bool.eq_false_iff.mpr before)⟩
      | reset => cases waiting
      | press | release | isPressed => exact absurd waiting before

/-! ## Releases that are handed out -/

theorem result_poll (pad : Keypad) :
    (pad.perform .poll).result = .ok (.released pad.caught?) := by
  rw [← poll_released]
  rfl

theorem isWaiting_of_caught (caught : pad.caught? = some key) : pad.isWaiting = true := by
  rw [isWaiting]
  rw [caught?] at caught
  split at caught <;> simp_all

/-- The next poll hands out just what has been released first in the wait. -/
theorem caught?_eq_some_iff :
    (atRest.after history).caught? = some key ↔ ∃ before, HandsOut history before key := by
  constructor
  · intro caught
    obtain ⟨earlier, recent, rfl, opened⟩ := exists_openSince (isWaiting_of_caught caught)
    rw [opened.caught, firstReleased, List.findSome?_eq_some_iff] at caught
    obtain ⟨quiet, command, rest, rfl, released, unreleased⟩ := caught
    cases command with
    | release index =>
      refine ⟨_, earlier, quiet, index, rest, rfl, by simp, opened, ?_, released⟩
      exact List.findSome?_eq_none_iff.mpr unreleased
    | press | isPressed | poll | reset => cases released
  · rintro ⟨_, earlier, quiet, index, rest, rfl, rfl, opened, unreleased, named⟩
    have caught : firstReleased (quiet ++ .release index :: rest) = some key := by
      rw [firstReleased] at unreleased ⊢
      rw [List.findSome?_append, unreleased, Option.none_or, List.findSome?_cons_of_isSome]
      · exact named
      · simp [Command.released?, named]
    rw [← caught, ← opened.caught]
    simp

theorem HandsOut.isWaiting (hands : HandsOut history before key) :
    (atRest.after before).isWaiting = true := by
  obtain ⟨earlier, quiet, index, rest, rfl, -, opened, -⟩ := hands
  exact opened.since quiet (List.prefix_append _ _)

/-- The poll that hands a release out ends the wait, so no later wait goes back to it. -/
theorem HandsOut.once (hands : HandsOut history before key) (later : List Command) (other : Key) :
    ¬ HandsOut (history ++ .poll :: later) before other := by
  have caught := caught?_eq_some_iff.mpr ⟨before, hands⟩
  have ended : (atRest.after (history ++ [.poll])).isWaiting = false := by
    have waiting : (atRest.after history).isWaiting = true := isWaiting_of_caught caught
    rw [after_concat, isWaiting_perform]
    simp [waiting, caught]
  obtain ⟨-, -, index, rest, -, rfl, -⟩ := hands
  rintro ⟨earlier, quiet, index', rest', rfl, parted, opened, -⟩
  have same : .release index :: rest ++ .poll :: later = .release index' :: rest' := by
    simpa using parted
  -- A later wait with this release in it would have been open after that poll.
  have found :
      quiet ++ .release index :: rest ++ [.poll] <+: quiet ++ .release index' :: rest' := by
    rw [← same]
    exact ⟨later, by simp⟩
  have waiting := opened.since _ found
  have place : earlier ++ .poll :: (quiet ++ .release index :: rest ++ [.poll]) =
      earlier ++ .poll :: quiet ++ .release index :: rest ++ [.poll] := by simp
  rw [place, ended] at waiting
  cases waiting

end Chip8.Keypad
