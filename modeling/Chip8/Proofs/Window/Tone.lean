import Chip8.Proofs.Emulator.Frame
import Chip8.Proofs.Window.Session

/-! The tone of a session. The buzzer makes it begin and end by turns, as it remembers
which of the two it did last. It ends as soon as the run is paused, halts, is reset or is
closed, and every frame brings it in line with the sound timer, so that it cannot be left
on. -/

namespace Chip8

open Reaction

/-- Whether a call makes the tone begin or end. -/
@[simp] def Call.isBeep : Call → Bool
  | .playSound _ | .stopSound => true
  | _ => false

/-- The calls that make the tone begin and end. -/
def beeps (calls : List Call) : List Call := calls.filter Call.isBeep

/-- So many calls that make the tone begin and end by turns. -/
def alternation (count : Nat) : List Call :=
  (List.range count).map fun k => if k % 2 = 0 then .playSound (-1) else .stopSound

theorem beeps_append (past calls : List Call) : beeps (past ++ calls) = beeps past ++ beeps calls :=
  List.filter_append past calls

theorem alternation_succ (count : Nat) : alternation (count + 1) =
    alternation count ++ [if count % 2 = 0 then .playSound (-1) else .stopSound] := by
  simp [alternation, List.range_succ]

theorem getLast?_alternation (count : Nat) :
    (alternation count).getLast? = some (.playSound (-1)) ↔ count % 2 = 1 := by
  cases count with
  | zero => simp [alternation]
  | succ count =>
    rw [alternation_succ, List.getLast?_concat, Option.some_inj]
    split <;> simp <;> omega

/-- Nothing here makes the tone begin. -/
def Mute (calls : List Call) : Prop := ∀ loops, .playSound loops ∉ calls

@[simp] theorem Mute.nil : Mute [] := by simp [Mute]

@[simp] theorem Mute.cons_iff {call : Call} {calls : List Call} :
    Mute (call :: calls) ↔ (∀ loops, .playSound loops ≠ call) ∧ Mute calls := by
  simp [Mute, forall_and]

theorem Mute.subset {calls more : List Call} (mute : Mute more) (within : calls ⊆ more) :
    Mute calls :=
  fun loops member => mute loops (within member)

theorem Mute.append {past calls : List Call} (first : Mute past) (second : Mute calls) :
    Mute (past ++ calls) := by
  intro loops member
  rcases List.mem_append.mp member with member | member
  · exact first loops member
  · exact second loops member

namespace Buzzer

variable (b : Buzzer)

theorem toMixer_append (first second : List Call) :
    b.toMixer (first ++ second) = b.toMixer first ++ b.toMixer second := by
  simp only [toMixer]
  split <;> simp

theorem beeps_toMixer (calls : List Call) : beeps (b.toMixer calls) = b.toMixer (beeps calls) := by
  simp only [toMixer]
  split <;> rfl

@[simp] theorem stop_isBeeping : b.stop.state.isBeeping = false := by
  rw [stop]
  split
  · rfl
  · exact (Bool.not_eq_true _).mp ‹_›

@[simp] theorem start_isBeeping : b.start.state.isBeeping = true := by
  rw [start]
  split
  · assumption
  · rfl

@[simp] theorem follow_isBeeping (isSounding : Bool) :
    (b.follow isSounding).state.isBeeping = isSounding := by
  cases isSounding with
  | false => exact b.stop_isBeeping
  | true => exact b.start_isBeeping

/-- The buzzer has made the tone begin and end by turns, if there is a mixer, and remembers
which was last. -/
def InTurn (heard : Bool) (past : List Call) (b : Buzzer) : Prop :=
  b.wave.isSome = heard ∧
    ∃ count, beeps past = b.toMixer (alternation count) ∧ (b.isBeeping = true ↔ count % 2 = 1)

variable {heard : Bool}

theorem InTurn.aside {past calls : List Call} {b : Buzzer} (h : InTurn heard past b)
    (unheard : beeps calls = []) : InTurn heard (past ++ calls) b := by
  rwa [InTurn, beeps_append, unheard, List.append_nil]

theorem InTurn.turn {past : List Call} {b : Buzzer} (h : InTurn heard past b) :
    InTurn heard (past ++ b.toMixer [if b.isBeeping then .stopSound else .playSound (-1)])
      { b with isBeeping := !b.isBeeping } := by
  obtain ⟨same, count, made, parity⟩ := h
  have next : (if b.isBeeping then Call.stopSound else .playSound (-1)) =
      if count % 2 = 0 then .playSound (-1) else .stopSound := by
    simp only [parity]
    split <;> split <;> first | rfl | omega
  refine ⟨same, count + 1, ?_, ?_⟩
  · rw [next, beeps_append, made, beeps_toMixer]
    calc b.toMixer (alternation count) ++
          b.toMixer (beeps [if count % 2 = 0 then .playSound (-1) else .stopSound])
        = b.toMixer (alternation count) ++
          b.toMixer [if count % 2 = 0 then .playSound (-1) else .stopSound] := by split <;> rfl
      _ = b.toMixer (alternation (count + 1)) := by rw [← toMixer_append, ← alternation_succ]
  · rw [Bool.not_eq_true', ← Bool.not_eq_true, parity]
    omega

theorem start_inTurn : Leads (InTurn heard) start (InTurn heard) := by
  intro past b h
  rw [start]
  split
  · exact Leads.still past b h
  · simpa [*, calling] using h.turn

theorem stop_inTurn : Leads (InTurn heard) stop (InTurn heard) := by
  intro past b h
  rw [stop]
  split
  · simpa [*, calling] using h.turn
  · exact Leads.still past b h

theorem follow_inTurn (isSounding : Bool) :
    Leads (InTurn heard) (·.follow isSounding) (InTurn heard) := by
  intro past b h
  simp only [follow]
  split
  · exact start_inTurn past b h
  · exact stop_inTurn past b h

theorem close_inTurn : Leads (InTurn heard) close (InTurn heard) := by
  refine stop_inTurn.andThen fun past b h => h.aside ?_
  exact (b.beeps_toMixer _).trans (by simp [beeps, toMixer])

end Buzzer

namespace Window

variable {heard : Bool}

def InTurn (heard : Bool) (past : List Call) (w : Window) : Prop := w.buzzer.InTurn heard past

/-- What neither touches the buzzer nor is heard. -/
theorem InTurn.unheard {f : Window → Reaction Window} (same : ∀ w, (f w).state.buzzer = w.buzzer)
    (silent : ∀ w, beeps (f w).calls = []) : Leads (InTurn heard) f (InTurn heard) := by
  intro past w h
  rw [InTurn, same]
  exact Buzzer.InTurn.aside h (silent w)

theorem stopBeep_inTurn : Leads (InTurn heard) stopBeep (InTurn heard) :=
  fun past w h => Buzzer.stop_inTurn past w.buzzer h

theorem showStatus_inTurn : Leads (InTurn heard) showStatus (InTurn heard) :=
  .unheard (fun _ => rfl) fun _ => rfl

theorem pollPad_inTurn (socket : Socket) : Leads (InTurn heard) (·.pollPad socket) (InTurn heard) :=
  leads_pollPad (fun _ _ _ h => h) ⟨fun _ _ _ h => h, fun _ _ _ h => h⟩ socket

theorem runMachine_inTurn : Leads (InTurn heard) runMachine (InTurn heard) :=
  leads_runMachine (fun _ _ h => h)
    (fun isSounding past w h => Buzzer.follow_inTurn isSounding past w.buzzer h)
    stopBeep_inTurn showStatus_inTurn fun _ _ => .unheard (fun _ => rfl) fun _ => rfl

theorem redraw_inTurn : Leads (InTurn heard) redraw (InTurn heard) := by
  refine .unheard (fun w => ?_) fun w => ?_
  all_goals
    rw [redraw]
    split <;> rfl

theorem countFrame_inTurn (clock : Int) :
    Leads (InTurn heard) (·.countFrame clock) (InTurn heard) := by
  refine .unheard (fun w => ?_) fun w => ?_
  all_goals
    simp only [countFrame]
    split <;> rfl

theorem schedule_inTurn : Leads (InTurn heard) schedule (InTurn heard) :=
  .unheard (fun _ => rfl) fun _ => rfl

theorem frame_inTurn (socket : Socket) (clock : Int) :
    Leads (InTurn heard) (·.frame socket clock) (InTurn heard) :=
  leads_frame (pollPad_inTurn socket) runMachine_inTurn redraw_inTurn (countFrame_inTurn clock)
    schedule_inTurn

theorem reset_inTurn : Leads (InTurn heard) reset (InTurn heard) := by
  have render_inTurn : Leads (InTurn heard) render (InTurn heard) :=
    .unheard (fun _ => rfl) fun _ => rfl
  exact leads_reset (fun _ _ h => h) stopBeep_inTurn render_inTurn showStatus_inTurn

theorem togglePause_inTurn : Leads (InTurn heard) togglePause (InTurn heard) :=
  leads_togglePause (fun _ _ h => h) stopBeep_inTurn showStatus_inTurn

theorem setSpeed_inTurn (speed : Int) : Leads (InTurn heard) (·.setSpeed speed) (InTurn heard) :=
  .unheard (fun _ => rfl) fun _ => rfl

theorem close_inTurn : Leads (InTurn heard) close (InTurn heard) := by
  have cancel : Leads (InTurn heard) cancelTimer (InTurn heard) := by
    refine .unheard (fun _ => rfl) fun w => ?_
    simp [beeps, cancelTimer, calling]
  have quit : Leads (InTurn heard) (fun w => w.buzzer.close.within fun buzzer => { w with buzzer })
      (InTurn heard) :=
    fun past w h => Buzzer.close_inTurn past w.buzzer h
  have destroy : Leads (InTurn heard) (fun w => .calling w [.destroy]) (InTurn heard) :=
    .unheard (fun _ => rfl) fun _ => rfl
  exact fun past w h => (cancel.andThen quit).andThen destroy past { w with isOpen := false } h

theorem upheld_inTurn : Upheld (InTurn heard) where
  frame := frame_inTurn
  mainLoop := .unheard (fun _ => rfl) fun _ => rfl
  press _ _ _ h := h
  release _ _ _ h := h
  reset := reset_inTurn
  togglePause := togglePause_inTurn
  slower := leads_slower setSpeed_inTurn
  faster := leads_faster setSpeed_inTurn
  close := close_inTurn

theorem opened_inTurn {mixer : Mixer} {room : Wave.Room} {emulator : Emulator}
    {sound : Reaction Buzzer}
    (connected : Buzzer.connect mixer emulator.config.pitch room = .ok sound) (title : String)
    (padRefusal : Option String) (clock : Int) :
    let new := opened emulator title sound padRefusal clock
    InTurn mixer.isReady new.calls new.state := by
  obtain ⟨calls, silent, ready⟩ := Buzzer.connect_ok connected
  refine ⟨ready, 0, ?_, ?_⟩
  · simp [opened, calls, beeps, alternation, Buzzer.toMixer]
  · simp [opened, silent]

/-! ## When the tone may sound -/

/-- The sound timer runs, and neither a pause nor a fault holds the run up. -/
def Audible (w : Window) : Prop :=
  0 < w.emulator.machine.sound ∧ w.isPaused = false ∧ w.emulator.machine.isHalted = false

/-- The tone sounds only if it may. -/
def Discreet (w : Window) : Prop := w.buzzer.isBeeping = true → w.Audible ∧ w.isOpen = true

/-- The window is open, and the tone sounds just if it may. -/
def Tuned (w : Window) : Prop := w.isOpen = true ∧ (w.buzzer.isBeeping = true ↔ w.Audible)

theorem Discreet.of_silent {w : Window} (silent : w.buzzer.isBeeping = false) : w.Discreet := by
  intro beeping
  rw [silent] at beeping
  cases beeping

theorem Tuned.discreet {w : Window} (h : w.Tuned) : w.Discreet :=
  fun beeping => ⟨h.2.mp beeping, h.1⟩

/-- Whether it runs the machine or not, a frame brings the tone in line. -/
theorem runMachine_tuned {w : Window} (isOpen : w.isOpen = true) (h : w.Discreet) :
    w.runMachine.state.Tuned := by
  have halted := w.emulator.runFrame_isHalted
  rw [runMachine]
  split
  case isTrue held =>
    show w.Tuned
    refine ⟨isOpen, fun beeping => (h beeping).1, ?_⟩
    rintro ⟨-, paused, running⟩
    rw [paused, running] at held
    cases held
  case isFalse held =>
    simp only [Bool.or_eq_true, not_or, Bool.not_eq_true] at held
    simp only
    cases result : w.emulator.runFrame.result with
    | ok =>
      rw [result] at halted
      refine ⟨isOpen, ?_⟩
      simp [Reaction.within, Emulator.isSounding, Audible, halted, held, UInt8.pos_iff_ne_zero]
    | error fault =>
      rw [result] at halted
      refine ⟨isOpen, ?_⟩
      simp [Reaction.within, showStatus, calling, stopBeep, Audible, halted]

theorem redraw_tuned {w : Window} (h : w.Tuned) : w.redraw.state.Tuned := by
  rw [redraw]
  split <;> exact h

theorem countFrame_tuned {w : Window} (clock : Int) (h : w.Tuned) :
    (w.countFrame clock).state.Tuned := by
  simp only [countFrame]
  split <;> exact h

theorem frame_tuned {w : Window} (socket : Socket) (clock : Int) (isOpen : w.isOpen = true)
    (h : w.Discreet) : (w.frame socket clock).state.Tuned := by
  have poll : Leads (fun _ (w : Window) => w.isOpen = true ∧ w.Discreet) (·.pollPad socket)
      (fun _ w => w.isOpen = true ∧ w.Discreet) :=
    leads_pollPad (fun _ _ _ h => h) ⟨fun _ _ _ h => h, fun _ _ _ h => h⟩ socket
  obtain ⟨isOpen', polled⟩ := poll [] w ⟨isOpen, h⟩
  rw [frame, if_pos isOpen]
  exact countFrame_tuned clock (redraw_tuned (runMachine_tuned isOpen' polled))

theorem upheld_discreet : Upheld fun _ => Discreet where
  frame socket clock _ w h := by
    by_cases isOpen : w.isOpen = true
    · exact (frame_tuned socket clock isOpen h).discreet
    · simp only [frame, if_neg isOpen]
      exact h
  mainLoop _ _ h := h
  press _ _ _ h := h
  release _ _ _ h := h
  reset _ w _ := .of_silent w.buzzer.stop_isBeeping
  togglePause _ w h := by
    simp only [togglePause]
    split
    case isTrue => exact .of_silent w.buzzer.stop_isBeeping
    case isFalse resumed =>
      -- While it was paused the tone did not sound.
      intro beeping
      obtain ⟨⟨-, unpaused, -⟩, -⟩ := h beeping
      exact absurd (congrArg (! ·) unpaused) resumed
  slower := leads_slower fun _ _ _ h => h
  faster := leads_faster fun _ _ _ h => h
  close _ w _ := .of_silent w.buzzer.stop_isBeeping

/-! ## After the end -/

/-- The window is closed, and the tone neither sounds nor has begun meanwhile. -/
structure Closed (past : List Call) (w : Window) : Prop where
  closed : w.isOpen = false
  silent : w.buzzer.isBeeping = false
  mute : Mute past

theorem Closed.aside {past calls : List Call} {w after : Window} (h : Closed past w)
    (mute : Mute calls) (same : after.isOpen = w.isOpen) (silent : after.buzzer.isBeeping = false) :
    Closed (past ++ calls) after :=
  ⟨same.trans h.closed, silent, h.mute.append mute⟩

theorem Closed.begin (w : Window) : Closed w.close.calls w.close.state := by
  have cancelled : Mute (w.timer.toList.map .cancelTimer) := by simp [Mute]
  have quit := cancelled.append (.subset (by simp) w.buzzer.close_subset)
  exact ⟨rfl, w.buzzer.stop_isBeeping, quit.append (by simp [calling])⟩

theorem frame_closed (socket : Socket) (clock : Int) :
    Leads Closed (·.frame socket clock) Closed := by
  intro past w h
  simp only [frame, h.closed]
  exact Leads.still past w h

theorem showStatus_closed : Leads Closed showStatus Closed :=
  fun _ _ h => h.aside (by simp [showStatus, calling]) rfl h.silent

theorem stopBeep_closed : Leads Closed stopBeep Closed :=
  fun _ w h => h.aside (.subset (by simp) w.buzzer.stop_subset) rfl w.buzzer.stop_isBeeping

theorem setSpeed_closed (speed : Int) : Leads Closed (·.setSpeed speed) Closed :=
  fun past w h => showStatus_closed past { w with emulator := w.emulator.setSpeed speed }
    ⟨h.closed, h.silent, h.mute⟩

theorem upheld_closed : Upheld Closed where
  frame := frame_closed
  mainLoop _ _ h := h.aside (by simp [calling]) rfl h.silent
  press _ _ _ h := ⟨h.closed, h.silent, h.mute⟩
  release _ _ _ h := ⟨h.closed, h.silent, h.mute⟩
  reset := by
    have render_closed : Leads Closed render Closed :=
      fun _ _ h => h.aside (by simp [render, calling]) rfl h.silent
    exact leads_reset (fun _ _ h => ⟨h.closed, h.silent, h.mute⟩) stopBeep_closed render_closed
      showStatus_closed
  togglePause := leads_togglePause (fun _ _ h => ⟨h.closed, h.silent, h.mute⟩) stopBeep_closed
    showStatus_closed
  slower := leads_slower setSpeed_closed
  faster := leads_faster setSpeed_closed
  close _ w h := ⟨rfl, (Closed.begin w).silent, h.mute.append (Closed.begin w).mute⟩

end Window

namespace Desktop

/-- The tone begins and ends by turns, if there is a mixer, and sounds when the last of
these was that it began. It sounds only while the sound timer runs in an open window and
nothing holds the run up, and after a frame of an open window it does sound then. Once the
window is closed it does not begin any more. -/
theorem tone_after {rom : Rom} {config : Config} {random : ByteSource} {title : String}
    {devices : Devices} {opened : Reaction Desktop}
    (created : create (.start rom config random) title devices = .ok opened)
    (actions : List Action) :
    let after := opened.andThen (·.performAll actions)
    let window := after.state.window
    (∃ count, beeps after.calls = alternation count) ∧
    (∀ reason, devices.mixer = .refused reason → beeps after.calls = []) ∧
    (∀ frequency channels, devices.mixer = .ready frequency channels →
      (window.buzzer.isBeeping = true ↔
        (beeps after.calls).getLast? = some (.playSound (-1)))) ∧
    (window.buzzer.isBeeping = true → window.Audible ∧ window.isOpen = true) ∧
    (∀ action, after.state.RunsFrame action → window.isOpen = true →
      let next := (after.state.perform action).state.window
      next.buzzer.isBeeping = true ↔ next.Audible) ∧
    (∀ later loops, .playSound loops ∉ (after.state.performAll (.close :: later)).calls) := by
  intro after window
  have discreet : window.Discreet :=
    Window.upheld_discreet.session created (fun _ connected =>
      .of_silent (Buzzer.connect_ok connected).2.1) actions
  have inTurn : window.InTurn devices.mixer.isReady after.calls :=
    Window.upheld_inTurn.session created (fun _ connected =>
      Window.opened_inTurn connected title _ _) actions
  obtain ⟨heard, count, made, parity⟩ := inTurn
  rw [Buzzer.toMixer, heard] at made
  refine ⟨?_, ?_, ?_, discreet, ?_, ?_⟩
  · split at made
    · exact ⟨count, made⟩
    · exact ⟨0, made⟩
  · intro reason refused
    simpa [refused, Mixer.isReady] using made
  · intro frequency channels ready
    rw [ready, Mixer.isReady, if_pos rfl] at made
    rw [made, getLast?_alternation, parity]
  · intro action runs isOpen
    rw [runs.window]
    exact (Window.frame_tuned _ _ isOpen discreet).2
  · intro later
    let closing := (still after.state).andThen (·.perform .close)
    have close : Window.Closed ([] ++ closing.calls) closing.state.window :=
      Window.Closed.begin window
    exact (Leads.foldl Window.upheld_closed.perform [] later close).mute

/-- A tone of five ticks sounds after the first frame. -/
theorem tone_after_first_frame :
    let config := { Config.standard with ipf := 2, ipf_pos := by decide }
    let emulator := Emulator.start ⟨[0x60, 0x05, 0xF0, 0x18], by decide⟩ config (.cycle #[])
    ∃ opened, create emulator "Tone" {} = .ok opened ∧
      let after := opened.andThen (·.performAll [.press "q"])
      (after.state.perform .run).state.window.buzzer.isBeeping = true := by
  intro config emulator
  let wave : Wave := { period := 100, repeats := 44, channels := 1 }
  let sound : Reaction Buzzer :=
    { state := { isBeeping := false, wave := some wave }
      calls := [.openMixer Buzzer.sampleRate Buzzer.sampleSize 1] }
  have made : Wave.ofRates 44100 1 emulator.config.pitch .addressable = .ok wave := by decide +kernel
  have created : create emulator "Tone" {} = .ok
      ((Window.opened emulator "Tone" sound none 0).within fun window =>
        { window, socket := {}, clock := 0, pending := [] }) := by
    rw [create, Window.create, Buzzer.connect, made]
    rfl
  obtain ⟨-, -, -, -, tuned, -⟩ := tone_after created [.press "q"]
  refine ⟨_, created, (tuned .run trivial rfl).mpr ?_⟩
  unfold Window.Audible
  decide +kernel

end Desktop

end Chip8
