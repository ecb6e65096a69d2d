import Mathlib.Data.List.FinRange
import Chip8.Gamepad

/-! What a poll reports. A poll that fails or finds no pad (`Misses`) lets go of all keys,
any other brings every key in line with the pad. In either case it reports of each key just
the change that it makes, if it makes one (`Kept.poll_turns`). -/

namespace Chip8

namespace Pad

variable {pad : Pad} {key : Key}

/-- A button that is down, or the direction of the first hat, stands for the key. -/
def Signals (pad : Pad) (key : Key) : Prop :=
  (∃ button, (button, key) ∈ buttonKeys ∧ pad.buttons[button]? = some true) ∨
    ∃ direction, (direction, key) ∈ directionKeys ∧ pad.hats.head? = some direction

theorem presses_iff : pad.presses key = true ↔ pad.Signals key := by
  simp [presses, Signals, List.any_eq_true]

theorem mem_keys_of_presses (h : pad.presses key = true) : key ∈ keys := by
  simp only [keys, List.mem_filter, List.mem_finRange, true_and, Bool.or_eq_true, List.any_eq_true]
  rcases presses_iff.mp h with ⟨button, found, -⟩ | ⟨direction, found, -⟩
  · exact .inl ⟨_, found, by simp⟩
  · exact .inr ⟨_, found, by simp⟩

theorem nodup_keys : keys.Nodup := (List.nodup_finRange 16).filter _

end Pad

namespace Gamepad

/-! ## Changes of keys -/

/-- The change of a key that an event is about; a note is about none. -/
@[simp] def Event.change? : Event → Option (Key × Bool)
  | .key k down => some (k, down)
  | .note _ => none

def changes (events : List Event) : List (Key × Bool) := events.filterMap Event.change?

/-- What changes make of one key, in order. -/
def turns (key : Key) (made : List (Key × Bool)) : List Bool :=
  (made.filter (·.1 = key)).map (·.2)

/-- What there is to report of a key that goes from one state to another. -/
def turn (before after : Bool) : List Bool := if before = after then [] else [after]

/-- The keys that changes press, in the order in which each is first pressed. -/
def firstPressed (made : List (Key × Bool)) : List Key :=
  ((made.filter (·.2)).map (·.1)).eraseDups

@[simp] theorem changes_append (first second : List Event) :
    changes (first ++ second) = changes first ++ changes second :=
  List.filterMap_append

@[simp] theorem changes_key (key : Key) (down : Bool) (events : List Event) :
    changes (.key key down :: events) = (key, down) :: changes events := rfl

@[simp] theorem changes_nil : changes [] = [] := rfl

@[simp] theorem turns_append (key : Key) (first second : List (Key × Bool)) :
    turns key (first ++ second) = turns key first ++ turns key second := by
  simp [turns]

@[simp] theorem turns_singleton (key other : Key) (down : Bool) :
    turns key [(other, down)] = if other = key then [down] else [] := by
  by_cases same : other = key <;> simp [turns, same]

theorem firstPressed_append_release (made : List (Key × Bool)) (key : Key) :
    firstPressed (made ++ [(key, false)]) = firstPressed made := by
  simp [firstPressed]

theorem firstPressed_append_press (made : List (Key × Bool)) (key : Key) :
    firstPressed (made ++ [(key, true)]) =
      if key ∈ firstPressed made then firstPressed made else firstPressed made ++ [key] := by
  have single : [key].eraseDups = [key] := by simp [List.eraseDups_cons]
  simp only [firstPressed, List.filter_append, List.map_append, List.eraseDups_append,
    List.mem_eraseDups]
  split <;> simp_all [List.removeAll]

/-! ## What is held -/

variable {g : Gamepad}

theorem holds_record (key : Key) (down : Bool) (other : Key) :
    { g with held := record g.held key down }.holds other =
      if other = key then down else g.holds other := by
  rw [holds, lookup_record]
  split <;> rfl

theorem keys_record (held : List (Key × Bool)) (key : Key) (down : Bool) :
    (record held key down).map Prod.fst =
      if key ∈ held.map Prod.fst then held.map Prod.fst else held.map Prod.fst ++ [key] := by
  induction held with
  | nil => rfl
  | cons entry rest ih =>
    obtain ⟨k, d⟩ := entry
    by_cases here : k = key
    · simp [record, here]
    · simp only [record, here, if_false, List.map_cons, ih, List.mem_cons, Ne.symm here, false_or]
      split <;> rfl

theorem mem_of_holds {key : Key} (h : g.holds key = true) : key ∈ g.held.map Prod.fst := by
  rw [holds] at h
  cases found : g.held.lookup key with
  | none => rw [found] at h; cases h
  | some down =>
    obtain ⟨before, after, split, -⟩ := List.lookup_eq_some_iff.mp found
    simp [split]

/-- The keys on record are keys of a pad, each once, in the order in which the changes since the
connection first press them. -/
structure InOrder (g : Gamepad) (recent : List (Key × Bool)) : Prop where
  possible : g.held.map Prod.fst ⊆ Pad.keys
  nodup : (g.held.map Prod.fst).Nodup
  order : g.held.map Prod.fst = firstPressed recent

namespace InOrder

variable {recent : List (Key × Bool)}

/-- With which pad the gamepad is connected has no bearing on the keys. -/
theorem connect (h : g.InOrder recent) (name : String) :
    { g with connected := some name }.InOrder recent :=
  ⟨h.possible, h.nodup, h.order⟩

theorem record_press (h : g.InOrder recent) {key : Key} (possible : key ∈ Pad.keys) :
    { g with held := record g.held key true }.InOrder (recent ++ [(key, true)]) := by
  refine ⟨?_, ?_, by rw [keys_record, firstPressed_append_press, h.order]⟩
  · rw [keys_record]
    split
    · exact h.possible
    · exact List.append_subset.mpr ⟨h.possible, by simpa using possible⟩
  · rw [keys_record]
    split
    · exact h.nodup
    · rename_i new
      refine List.nodup_append.mpr ⟨h.nodup, by simp, ?_⟩
      intro other member _ single
      rw [List.mem_singleton.mp single]
      rintro rfl
      exact new member

theorem record_release {key : Key} (h : g.InOrder recent) (held : g.holds key = true) :
    { g with held := record g.held key false }.InOrder (recent ++ [(key, false)]) := by
  have same : (record g.held key false).map Prod.fst = g.held.map Prod.fst := by
    rw [keys_record, if_pos (mem_of_holds held)]
  exact ⟨same ▸ h.possible, same ▸ h.nodup, by rw [same, firstPressed_append_release, h.order]⟩

end InOrder

/-! ## Letting go of all keys -/

theorem holds_of_mem (nodup : (g.held.map Prod.fst).Nodup) {key : Key} {down : Bool}
    (member : (key, down) ∈ g.held) : g.holds key = down := by
  obtain ⟨before, after, split⟩ := List.append_of_mem member
  have first : ∀ entry ∈ before, (key != entry.1) = true := by
    intro entry earlier
    rw [split, List.map_append, List.map_cons] at nodup
    have apart := (List.nodup_append.mp nodup).2.2 _ (List.mem_map_of_mem earlier) key (by simp)
    simpa using Ne.symm apart
  rw [holds, List.lookup_eq_some_iff.mpr ⟨before, after, split, first⟩]
  rfl

theorem changes_releases (nodup : (g.held.map Prod.fst).Nodup) :
    changes g.releases = ((g.held.map Prod.fst).filter g.holds).map (·, false) := by
  rw [changes, releases, List.filterMap_filterMap, List.filter_map, List.map_map,
    ← List.filterMap_eq_map, List.filterMap_filter]
  apply List.filterMap_congr
  rintro ⟨key, down⟩ member
  have held := holds_of_mem nodup member
  cases down <;> simp [held]

theorem turns_map_release {keys : List Key} (nodup : keys.Nodup) (key : Key) :
    turns key (keys.map (·, false)) = if key ∈ keys then [false] else [] := by
  induction keys with
  | nil => rfl
  | cons first rest ih =>
    obtain ⟨new, nodup⟩ := List.nodup_cons.mp nodup
    have split : turns key ((first :: rest).map (·, false)) =
        turns key [(first, false)] ++ turns key (rest.map (·, false)) := turns_append key [_] _
    rw [split, ih nodup, turns_singleton]
    by_cases here : first = key
    · subst here
      simp [new]
    · simp [here, Ne.symm here]

theorem turns_releases (nodup : (g.held.map Prod.fst).Nodup) (key : Key) :
    turns key (changes g.releases) = turn (g.holds key) false := by
  rw [changes_releases nodup, turns_map_release (nodup.filter _), turn]
  by_cases held : g.holds key = true <;> simp [held, -List.mem_map, mem_of_holds]

/-! ## Following the pad -/

variable {pad : Pad}

/-- One key is brought in line with the pad, and the others are left as they are. -/
theorem follow_holds (state : Gamepad × List Event) (key other : Key) :
    (follow pad state key).1.holds other =
      if key = other then pad.presses key else state.1.holds other := by
  simp only [follow]
  split
  · split <;> simp_all
  · simp only [holds_record, eq_comm]

theorem follow_turns (state : Gamepad × List Event) (key other : Key) :
    turns other (changes (follow pad state key).2) =
      turns other (changes state.2) ++
        if key = other then turn (state.1.holds key) (pad.presses key) else [] := by
  simp only [follow, turn]
  split <;> simp_all

theorem follow_inOrder {recent : List (Key × Bool)} {state : Gamepad × List Event}
    (h : state.1.InOrder (recent ++ changes state.2)) {key : Key} (possible : key ∈ Pad.keys) :
    (follow pad state key).1.InOrder (recent ++ changes (follow pad state key).2) := by
  simp only [follow]
  split
  · exact h
  · rename_i differs
    rw [changes_append, ← List.append_assoc]
    cases down : pad.presses key with
    | true => exact h.record_press possible
    | false => exact h.record_release (by simpa [down] using differs)

/-- Each of the keys is looked at once, as they are distinct. -/
theorem foldl_follow {keys : List Key} (nodup : keys.Nodup) (state : Gamepad × List Event)
    (key : Key) :
    (keys.foldl (follow pad) state).1.holds key =
        (if key ∈ keys then pad.presses key else state.1.holds key) ∧
      turns key (changes (keys.foldl (follow pad) state).2) =
        turns key (changes state.2) ++
          turn (state.1.holds key) ((keys.foldl (follow pad) state).1.holds key) := by
  induction keys generalizing state with
  | nil => simp [turn]
  | cons first rest ih =>
    obtain ⟨new, nodup⟩ := List.nodup_cons.mp nodup
    obtain ⟨holds, turned⟩ := ih nodup (follow pad state first)
    rw [List.foldl_cons, turned, holds, follow_holds, follow_turns]
    by_cases here : first = key
    · subst here
      simp [new, turn]
    · simp [here, Ne.symm here]

/-- The gamepad once it has been brought in line with a pad, and what it reports of that. -/
def caughtUp (g : Gamepad) (pad : Pad) : Gamepad × List Event := Pad.keys.foldl (follow pad) (g, [])

theorem caughtUp_turns (g : Gamepad) (pad : Pad) (key : Key) :
    turns key (changes (g.caughtUp pad).2) = turn (g.holds key) ((g.caughtUp pad).1.holds key) :=
  (foldl_follow Pad.nodup_keys _ key).2

theorem caughtUp_same (g : Gamepad) (pad : Pad) :
    (g.caughtUp pad).1.isEnabled = g.isEnabled ∧ (g.caughtUp pad).1.connected = g.connected := by
  rw [caughtUp]
  refine List.foldlRecOn (motive := fun state : Gamepad × List Event =>
    state.1.isEnabled = g.isEnabled ∧ state.1.connected = g.connected) _ _ ⟨rfl, rfl⟩ ?_
  intro state same key _
  simp only [follow]
  split <;> exact same

namespace InOrder

variable {recent : List (Key × Bool)}

theorem caughtUp (h : g.InOrder recent) (pad : Pad) :
    (g.caughtUp pad).1.InOrder (recent ++ changes (g.caughtUp pad).2) := by
  rw [Gamepad.caughtUp]
  refine List.foldlRecOn (motive := fun state : Gamepad × List Event =>
    state.1.InOrder (recent ++ changes state.2)) _ _ (by simpa using h) ?_
  intro state h key possible
  exact follow_inOrder h possible

theorem caughtUp_holds (h : g.InOrder recent) (pad : Pad) (key : Key) :
    (g.caughtUp pad).1.holds key = pad.presses key := by
  rw [Gamepad.caughtUp, (foldl_follow Pad.nodup_keys _ key).1]
  split
  · rfl
  · rename_i impossible
    -- No pad presses such a key, so none was ever recorded either.
    have released : g.holds key = false := by
      by_contra held
      exact impossible (h.possible (mem_of_holds (Bool.not_eq_false _ ▸ held)))
    have silent : pad.presses key = false := by
      by_contra down
      exact impossible (Pad.mem_keys_of_presses (Bool.not_eq_false _ ▸ down))
    rw [released, silent]

end InOrder

/-! ## The two ways of a poll -/

/-- The requests that a poll makes, if no earlier one fails. -/
def Asks (g : Gamepad) (socket : Socket) : PadRequest → Prop
  | .pump | .count => True
  | .connect => g.connected = none ∧ socket.pad ≠ none
  | .button => ∃ pad, socket.pad = some pad ∧ pad.buttons ≠ []
  | .hat => ∃ pad, socket.pad = some pad ∧ pad.hats ≠ []

/-- The poll fails, or it finds no pad. -/
def Misses (g : Gamepad) (socket : Socket) : Prop :=
  (∃ request, socket.failing = some request ∧ g.Asks socket request) ∨ socket.pad = none

/-- What a poll leaves, and the changes that it reports. -/
inductive Polled (g : Gamepad) (socket : Socket) : Gamepad → List (Key × Bool) → Prop
  | missed (missed : g.Misses socket) : Polled g socket (idle true) (changes g.releases)
  | read {pad : Pad} (found : ¬ g.Misses socket) (plugged : socket.pad = some pad) (name : String) :
    Polled g socket ({ g with connected := some name }.caughtUp pad).1
      (changes ({ g with connected := some name }.caughtUp pad).2)

/-- What the polls so far have made of a gamepad that can use pads. -/
structure Kept (g : Gamepad) (recent : List (Key × Bool)) : Prop extends InOrder g recent where
  enabled : g.isEnabled = true
  apart : g.connected = none → g.held = []

variable {recent : List (Key × Bool)} {socket : Socket}

theorem Kept.start : (start none).1.Kept [] :=
  ⟨⟨List.nil_subset _, .nil, rfl⟩, rfl, fun _ => rfl⟩

theorem asks_of_needs (plugged : socket.pad = some pad) {request : PadRequest}
    (needed : pad.needs request = true) : g.Asks socket request := by
  cases request <;> simp_all [Pad.needs, Asks]

theorem Kept.polled_missed (h : g.Kept recent) (missed : g.Misses socket) :
    g.Polled socket g.disconnect.1 (changes g.disconnect.2) := by
  rw [disconnect, h.enabled]
  exact .missed missed

/-- Once a poll has got so far as to read the pad, only what it reads can still fail. -/
theorem Kept.polled_read (h : g.Kept recent) (plugged : socket.pad = some pad) (name : String)
    (onward : ∀ request, socket.failing = some request → g.Asks socket request →
      pad.needs request = true) :
    let read := { g with connected := some name }.read pad socket.failing
    g.Polled socket read.1 (changes read.2) := by
  simp only [read]
  split
  · rename_i request fails
    obtain ⟨failing, needed⟩ := Option.filter_eq_some_iff.mp fails
    exact h.polled_missed (.inl ⟨request, failing, asks_of_needs plugged needed⟩)
  · rename_i works
    have found : ¬ g.Misses socket := by
      rintro (⟨request, failing, asked⟩ | unplugged)
      · simp [failing, onward request failing asked] at works
      · simp [plugged] at unplugged
    exact .read found plugged name

theorem Kept.polled (h : g.Kept recent) (socket : Socket) :
    g.Polled socket (g.poll socket).1 (changes (g.poll socket).2) := by
  rw [poll, if_neg (by simp [h.enabled])]
  split
  · rename_i failing
    exact h.polled_missed (.inl ⟨.pump, failing, trivial⟩)
  · rename_i failing
    exact h.polled_missed (.inl ⟨.count, failing, trivial⟩)
  · rename_i failing plugged unconnected
    exact h.polled_missed (.inl ⟨.connect, failing, unconnected, by simp [plugged]⟩)
  · rename_i pad plugged unconnected pump count connect
    refine h.polled_read plugged pad.name ?_
    intro request failing asked
    cases request with
    | pump => exact (pump failing).elim
    | count => exact (count failing).elim
    | connect => exact (connect failing).elim
    | button | hat => simpa [Asks, plugged, Pad.needs] using asked
  · rename_i pad name plugged connected pump count
    have same : { g with connected := some name } = g := by rw [← connected]
    have read := h.polled_read plugged name ?_
    · rwa [same] at read
    · intro request failing asked
      cases request with
      | pump => exact (pump failing).elim
      | count => exact (count failing).elim
      | connect => exact absurd asked.1 (by simp [connected])
      | button | hat => simpa [Asks, plugged, Pad.needs] using asked
  · rename_i unplugged _ _ _
    exact h.polled_missed (.inr unplugged)
  · rename_i unplugged unconnected _ _
    have empty := h.apart unconnected
    have still : g.disconnect = (g, []) := by
      cases g
      simp_all [disconnect, releases, idle]
    exact still ▸ h.polled_missed (.inr unplugged)

namespace Kept

/-- A poll holds no key unless it ends with a pad that presses it. -/
theorem poll_holds (h : g.Kept recent) (socket : Socket) (key : Key) :
    (g.poll socket).1.holds key = true ↔
      (g.poll socket).1.isConnected = true ∧ ∃ pad, socket.pad = some pad ∧ pad.Signals key := by
  have polled := h.polled socket
  generalize (g.poll socket).1 = after, changes (g.poll socket).2 = made at polled
  cases polled with
  | missed => simp [idle, holds, isConnected]
  | read found plugged name =>
    rw [(h.connect name).caughtUp_holds, Pad.presses_iff]
    simp [isConnected, caughtUp_same, plugged]

theorem poll_turns (h : g.Kept recent) (socket : Socket) (key : Key) :
    turns key (changes (g.poll socket).2) = turn (g.holds key) ((g.poll socket).1.holds key) := by
  have polled := h.polled socket
  generalize (g.poll socket).1 = after, changes (g.poll socket).2 = made at polled
  cases polled with
  | missed => exact turns_releases h.nodup key
  | read => exact caughtUp_turns _ _ key

theorem poll_isConnected (h : g.Kept recent) (socket : Socket) :
    (g.poll socket).1.isConnected = true ↔ ¬ g.Misses socket := by
  have polled := h.polled socket
  generalize (g.poll socket).1 = after, changes (g.poll socket).2 = made at polled
  cases polled with
  | missed missed => simp [idle, isConnected, missed]
  | read found => simp [isConnected, caughtUp_same, found]

theorem poll_missed (h : g.Kept recent) (missed : g.Misses socket) :
    changes (g.poll socket).2 = ((g.held.map Prod.fst).filter g.holds).map (·, false) := by
  have polled := h.polled socket
  generalize (g.poll socket).1 = after, changes (g.poll socket).2 = made at polled
  cases polled with
  | missed => exact changes_releases h.nodup
  | read found => exact absurd missed found

theorem poll (h : g.Kept recent) (socket : Socket) :
    (g.poll socket).1.Kept
      (if (g.poll socket).1.isConnected then recent ++ changes (g.poll socket).2 else []) := by
  have polled := h.polled socket
  generalize (g.poll socket).1 = after, changes (g.poll socket).2 = made at polled
  cases polled with
  | missed => exact ⟨⟨by simp [idle], by simp [idle], rfl⟩, rfl, fun _ => rfl⟩
  | @read pad found plugged name =>
    have same := caughtUp_same { g with connected := some name } pad
    have connected : ({ g with connected := some name }.caughtUp pad).1.isConnected = true := by
      simp [isConnected, same]
    rw [if_pos connected]
    exact ⟨(h.connect name).caughtUp pad, same.1.trans h.enabled, by simp [same]⟩

end Kept

end Gamepad

end Chip8
