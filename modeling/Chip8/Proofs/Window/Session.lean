import Mathlib.Data.List.Induction
import Chip8.Desktop

/-! Sessions at a window. A reaction adds to the calls that have been made so far, and
most that is to be said of a window concerns its state together with all of these, such
as what its canvas shows. `Leads` says how a reaction takes one property of states and
past calls to another; a property that every reaction of a window upholds outlasts
whatever happens on the desktop (`Upheld.performAll`). -/

namespace Chip8

namespace Reaction

variable {State Other Third : Type} {P : List Call → State → Prop} {Q : List Call → Other → Prop}
  {R : List Call → Third → Prop}

/-- Wherever the one property holds, the reaction makes the other one hold. -/
def Leads (P : List Call → State → Prop) (f : State → Reaction Other)
    (Q : List Call → Other → Prop) : Prop :=
  ∀ past s, P past s → Q (past ++ (f s).calls) (f s).state

namespace Leads

theorem still : Leads P .still P := by
  intro past s h
  rwa [show (Reaction.still s).calls = [] from rfl, List.append_nil]

theorem andThen {f : State → Reaction Other} {g : Other → Reaction Third} (first : Leads P f Q)
    (second : Leads Q g R) : Leads P (fun s => (f s).andThen g) R := by
  intro past s h
  have both := second _ _ (first past s h)
  rwa [List.append_assoc] at both

theorem foldl {Item : Type} {f : State → Item → Reaction State}
    (each : ∀ item, Leads P (f · item) P) (past : List Call) (items : List Item)
    {r : Reaction State} (h : P (past ++ r.calls) r.state) :
    let all := items.foldl (fun r item => r.andThen (f · item)) r
    P (past ++ all.calls) all.state := by
  -- What grows is the reaction to the items so far; the past stays behind.
  induction items generalizing r with
  | nil => exact h
  | cons item rest ih =>
    apply ih
    have both := each item _ _ h
    rwa [List.append_assoc] at both

theorem all {Item : Type} {f : State → Item → Reaction State} {items : List Item}
    (each : ∀ item, Leads P (f · item) P) :
    Leads P (fun s => items.foldl (fun r item => r.andThen (f · item)) (.still s)) P :=
  fun past s h => foldl each past items (still past s h)

theorem quiet {f : State → Reaction Other} (silent : ∀ s, (f s).calls = [])
    (keeps : ∀ past s, P past s → Q past (f s).state) : Leads P f Q := by
  intro past s h
  rw [silent, List.append_nil]
  exact keeps past s h

end Leads

end Reaction

/-- Whether the mixer takes the calls that it is asked for. -/
def Mixer.isReady : Mixer → Bool
  | .refused _ => false
  | .ready _ _ => true

namespace Buzzer

variable (b : Buzzer)

/-! What a buzzer can ask of the mixer. -/

theorem toMixer_subset (calls : List Call) : b.toMixer calls ⊆ calls := by
  rw [toMixer]
  split
  · exact List.Subset.refl calls
  · exact List.nil_subset calls

theorem start_subset : b.start.calls ⊆ [.playSound (-1)] := by
  rw [start]
  split
  · exact List.nil_subset _
  · exact b.toMixer_subset _

theorem stop_subset : b.stop.calls ⊆ [.stopSound] := by
  rw [stop]
  split
  · exact b.toMixer_subset _
  · exact List.nil_subset _

theorem follow_subset (isSounding : Bool) :
    (b.follow isSounding).calls ⊆ [.playSound (-1), .stopSound] := by
  rw [follow]
  split
  · exact List.subset_append_of_subset_left [.stopSound] b.start_subset
  · exact List.subset_append_of_subset_right [.playSound (-1)] b.stop_subset

theorem close_subset : b.close.calls ⊆ [.stopSound, .closeMixer] := by
  apply List.append_subset.mpr
  constructor
  · exact List.subset_append_of_subset_left [.closeMixer] b.stop_subset
  · exact List.subset_append_of_subset_right [.stopSound] (b.stop.state.toMixer_subset _)

end Buzzer

/-- A new buzzer is silent and has a wave if there is a mixer, which has only been opened. -/
theorem Buzzer.connect_ok {mixer : Mixer} {pitch : Int} {room : Wave.Room}
    {sound : Reaction Buzzer} (connected : connect mixer pitch room = .ok sound) :
    sound.calls = [.openMixer sampleRate sampleSize 1] ∧ sound.state.isBeeping = false ∧
      sound.state.wave.isSome = mixer.isReady := by
  cases mixer with
  | refused =>
    cases connected
    exact ⟨rfl, rfl, rfl⟩
  | ready frequency channels =>
    rw [connect] at connected
    cases made : Wave.ofRates frequency channels pitch room with
    | error => rw [made] at connected; cases connected
    | ok =>
      rw [made] at connected
      cases connected
      exact ⟨rfl, rfl, rfl⟩

open Reaction

namespace Window

variable {P : List Call → Window → Prop}

/-- A property that outlasts the change of a key. -/
structure KeptByKeys (P : List Call → Window → Prop) : Prop where
  press : ∀ past w (key : Key), P past w → P past { w with emulator := w.emulator.press key }
  release : ∀ past w (key : Key), P past w → P past { w with emulator := w.emulator.release key }

/-- No key that exists is refused, so a change of one makes no calls. -/
theorem KeptByKeys.leads_press (keys : KeptByKeys P) (key : Key) :
    Leads P (·.press key.val) P := by
  simp only [press_val]
  exact .quiet (fun _ => rfl) fun past w h => keys.press past w key h

theorem KeptByKeys.leads_release (keys : KeptByKeys P) (key : Key) :
    Leads P (·.release key.val) P := by
  simp only [release_val]
  exact .quiet (fun _ => rfl) fun past w h => keys.release past w key h

/-- A poll of the pad does no more than to replace it and to press and release keys. -/
theorem leads_pollPad (plug : ∀ past w gamepad, P past w → P past { w with gamepad })
    (keys : KeptByKeys P) (socket : Socket) : Leads P (·.pollPad socket) P := by
  have deliver (event : Gamepad.Event) : Leads P (·.deliver event) P := by
    match event with
    | .note _ => exact .quiet (fun _ => rfl) fun _ _ h => h
    | .key key true => exact keys.leads_press key
    | .key key false => exact keys.leads_release key
  intro past w h
  exact Leads.all deliver past { w with gamepad := (w.gamepad.poll socket).1 } (plug past w _ h)

/-- A frame of the machine has the buzzer follow it, or silences the buzzer and is reported. -/
theorem leads_runMachine
    (ran : ∀ past w, P past w → P past { w with emulator := w.emulator.runFrame.state })
    (follow : ∀ isSounding, Leads P
      (fun w => (w.buzzer.follow isSounding).within fun buzzer => { w with buzzer }) P)
    (stopBeep : Leads P stopBeep P) (showStatus : Leads P showStatus P)
    (report : ∀ title text, Leads P (fun w => .calling w [.showError title text]) P) :
    Leads P runMachine P := by
  intro past w h
  rw [runMachine]
  split
  · exact Leads.still past w h
  simp only
  cases w.emulator.runFrame.result with
  | ok => exact follow _ past _ (ran past w h)
  | error fault =>
    exact (stopBeep.andThen showStatus).andThen (report _ fault.message) past _ (ran past w h)

theorem frame_of_closed {w : Window} (closed : w.isOpen = false) (socket : Socket) (clock : Int) :
    w.frame socket clock = .still w := by
  simp [frame, closed]

/-- What all parts of a frame keep is kept by the whole of it. -/
theorem leads_frame {socket : Socket} {clock : Int} (pollPad : Leads P (·.pollPad socket) P)
    (runMachine : Leads P runMachine P) (redraw : Leads P redraw P)
    (countFrame : Leads P (·.countFrame clock) P) (schedule : Leads P schedule P) :
    Leads P (·.frame socket clock) P := by
  intro past w h
  simp only [frame]
  split
  · exact (((pollPad.andThen runMachine).andThen redraw).andThen countFrame).andThen schedule
      past w h
  · exact Leads.still past w h

theorem leads_pressKey (keys : KeptByKeys P) (symbol : String) :
    Leads P (·.pressKey symbol) P := by
  intro past w h
  simp only [pressKey]
  split
  · next found =>
    obtain ⟨key, rfl⟩ := Key.exists_of_ofSymbol? found
    exact keys.leads_press key past w h
  · exact Leads.still past w h

theorem leads_releaseKey (keys : KeptByKeys P) (symbol : String) :
    Leads P (·.releaseKey symbol) P := by
  intro past w h
  simp only [releaseKey]
  split
  · next found =>
    obtain ⟨key, rfl⟩ := Key.exists_of_ofSymbol? found
    exact keys.leads_release key past w h
  · exact Leads.still past w h

theorem leads_reset (ended : ∀ past w, P past w → P past { w with emulator := w.emulator.reset })
    (stopBeep : Leads P stopBeep P) (render : Leads P render P)
    (showStatus : Leads P showStatus P) : Leads P reset P :=
  fun past w h => (stopBeep.andThen render).andThen showStatus past _ (ended past w h)

theorem leads_togglePause
    (toggled : ∀ past w, P past w → P past { w with isPaused := !w.isPaused })
    (stopBeep : Leads P stopBeep P) (showStatus : Leads P showStatus P) :
    Leads P togglePause P := by
  intro past w h
  simp only [togglePause]
  split
  · exact stopBeep.andThen showStatus past _ (toggled past w h)
  · exact showStatus past _ (toggled past w h)

theorem leads_slower (setSpeed : ∀ speed, Leads P (·.setSpeed speed) P) : Leads P slower P := by
  intro past w h
  rw [slower]
  split
  · exact setSpeed _ past w h
  · exact Leads.still past w h

theorem leads_faster (setSpeed : ∀ speed, Leads P (·.setSpeed speed) P) : Leads P faster P := by
  intro past w h
  rw [faster]
  split
  · exact setSpeed _ past w h
  · exact Leads.still past w h

end Window

/-- A new window lives on a desktop on which nothing has happened yet. -/
theorem Desktop.create_ok {emulator : Emulator} {title : String} {devices : Devices}
    {opened : Reaction Desktop} (created : create emulator title devices = .ok opened) :
    ∃ sound, Buzzer.connect devices.mixer emulator.config.pitch devices.room = .ok sound ∧
      opened = (Window.opened emulator title sound devices.padRefusal 0).within fun window =>
        { window, socket := {}, clock := 0, pending := [] } := by
  rw [create, Window.create] at created
  cases connected : Buzzer.connect devices.mixer emulator.config.pitch devices.room with
  | error => rw [connected] at created; cases created
  | ok sound =>
    rw [connected] at created
    cases created
    exact ⟨sound, rfl, rfl⟩

/-- What is to be shown of a property of a window and all past calls for it to outlast a
session. -/
structure Window.Upheld (P : List Call → Window → Prop) : Prop extends KeptByKeys P where
  frame : ∀ socket clock, Leads P (·.frame socket clock) P
  mainLoop : Leads P (fun w => .calling w [.mainLoop]) P
  reset : Leads P Window.reset P
  togglePause : Leads P Window.togglePause P
  slower : Leads P Window.slower P
  faster : Leads P Window.faster P
  close : Leads P Window.close P

namespace Window.Upheld

/-- A property of windows as one of the desktops that they live on. -/
def OnDesktop (P : List Call → Window → Prop) (past : List Call) (d : Desktop) : Prop :=
  P past d.window

variable {P : List Call → Window → Prop}

theorem elapse (upheld : Upheld P) : Leads (OnDesktop P) Desktop.elapse (OnDesktop P) := by
  intro past d h
  simp only [Desktop.elapse]
  split
  · exact Leads.still past d.window h
  · exact upheld.frame _ _ past d.window h

theorem perform (upheld : Upheld P) (action : Desktop.Action) :
    Leads (OnDesktop P) (·.perform action) (OnDesktop P) := by
  intro past d h
  cases action with
  | run => exact (upheld.frame d.socket d.clock).andThen upheld.mainLoop past d.window h
  | elapse => exact upheld.elapse past d h
  | press symbol => exact leads_pressKey upheld.toKeptByKeys symbol past d.window h
  | release symbol => exact leads_releaseKey upheld.toKeptByKeys symbol past d.window h
  | reset => exact upheld.reset past d.window h
  | togglePause => exact upheld.togglePause past d.window h
  | slower => exact upheld.slower past d.window h
  | faster => exact upheld.faster past d.window h
  | close => exact upheld.close past d.window h
  | setClock | plug | setFailing => exact Leads.still past d.window h

theorem performAll (upheld : Upheld P) (actions : List Desktop.Action) :
    Leads (OnDesktop P) (·.performAll actions) (OnDesktop P) :=
  Leads.all upheld.perform

/-- A property that holds of every new window holds after every session. -/
theorem session (upheld : Upheld P) {emulator : Emulator} {title : String} {devices : Devices}
    {opened : Reaction Desktop} (created : Desktop.create emulator title devices = .ok opened)
    (begins : ∀ sound, Buzzer.connect devices.mixer emulator.config.pitch devices.room = .ok sound →
      let new := Window.opened emulator title sound devices.padRefusal 0
      P new.calls new.state)
    (actions : List Desktop.Action) :
    let after := opened.andThen (·.performAll actions)
    P after.calls after.state.window := by
  obtain ⟨sound, connected, rfl⟩ := Desktop.create_ok created
  exact upheld.performAll actions _ _ (begins sound connected)

end Window.Upheld

namespace Desktop

variable (d : Desktop)

theorem performAll_append (actions more : List Action) :
    d.performAll (actions ++ more) = (d.performAll actions).andThen (·.performAll more) := by
  induction more using List.reverseRecOn with
  | nil => simp [performAll, andThen, still]
  | append_singleton more action ih =>
    rw [performAll, ← List.append_assoc, List.foldl_append]
    change (d.performAll (actions ++ more)).andThen (perform · action) = _
    rw [ih, andThen_assoc]
    simp [performAll, List.foldl_append]

theorem performAll_single (action : Action) : d.performAll [action] = d.perform action := by
  simp [performAll, andThen, still]

theorem performAll_cons (action : Action) (rest : List Action) :
    d.performAll (action :: rest) = (d.perform action).andThen (·.performAll rest) := by
  rw [← performAll_single]
  exact d.performAll_append [action] rest

theorem performAll_concat (actions : List Action) (action : Action) :
    d.performAll (actions ++ [action]) = (d.performAll actions).andThen (·.perform action) := by
  rw [performAll_append]
  simp only [performAll_single]

/-- The actions that have the window run a frame, if it is open. -/
def RunsFrame (d : Desktop) : Action → Prop
  | .run => True
  | .elapse => d.pending ≠ []
  | _ => False

instance (d : Desktop) : DecidablePred d.RunsFrame
  | .run => .isTrue trivial
  | .elapse => inferInstanceAs (Decidable (d.pending ≠ []))
  | .press _ | .release _ | .reset | .togglePause | .slower | .faster | .close | .setClock _
  | .plug _ | .setFailing _ => .isFalse id

theorem RunsFrame.window {d : Desktop} {action : Action} (runs : d.RunsFrame action) :
    (d.perform action).state.window = (d.window.frame d.socket d.clock).state := by
  cases action with
  | run => rfl
  | elapse =>
    cases pending : d.pending with
    | nil => exact absurd pending runs
    | cons => simp [perform, elapse, settle, Reaction.within, pending]
  | _ => exact runs.elim

end Desktop

/-! ## What is seen of a session -/

/-- The latest of the calls that have to do with something, as far as they do. -/
def latest {View : Type} (view : Call → Option View) (calls : List Call) : Option View :=
  (calls.filterMap view).getLast?

theorem latest_append {View : Type} (view : Call → Option View) (past calls : List Call) :
    latest view (past ++ calls) = (latest view calls).or (latest view past) := by
  rw [latest, List.filterMap_append, List.getLast?_append]
  rfl

theorem latest_of_none {View : Type} {view : Call → Option View} (past : List Call)
    {calls : List Call} (h : ∀ call ∈ calls, view call = none) :
    latest view (past ++ calls) = latest view past := by
  rw [latest_append, latest, List.filterMap_eq_nil_iff.mpr h]
  rfl

end Chip8
