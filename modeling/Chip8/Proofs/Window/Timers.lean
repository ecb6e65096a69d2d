import Mathlib.Data.List.Induction
import Chip8.Proofs.Window.Driving

/-! The loop of frames. A frame of an open window starts the timer for the next one, whatever
became of the pad and of the machine meanwhile, and nothing else starts a timer. So from the first
frame on just one timer is pending (`Paced`), which is the one that the window cancels when it is
closed (`frame_loop_goes_on`). -/

namespace Chip8

open Reaction

/-- Whether a call starts or cancels a timer. -/
@[simp] def Call.isTiming : Call → Bool
  | .startTimer _ _ | .cancelTimer _ => true
  | _ => false

/-- The calls that start and cancel timers. -/
def timings (calls : List Call) : List Call := calls.filter Call.isTiming

/-- The time that a timer is started for. -/
def Call.delay? : Call → Option Nat
  | .startTimer _ milliseconds => some milliseconds
  | _ => none

def delays (calls : List Call) : List Nat := calls.filterMap Call.delay?

theorem timings_append (past calls : List Call) :
    timings (past ++ calls) = timings past ++ timings calls :=
  List.filter_append past calls

theorem timings_subset {calls more : List Call} (within : calls ⊆ more)
    (none : timings more = []) : timings calls = [] := by
  rw [timings, List.filter_eq_nil_iff] at none ⊢
  exact fun call member => none call (within member)

theorem delays_timings (calls : List Call) : delays (timings calls) = delays calls := by
  rw [delays, timings, List.filterMap_filter]
  congr 1
  funext call
  cases call <;> rfl

theorem foldl_timings (pending : List Nat) (calls : List Call) :
    (timings calls).foldl Desktop.afterCall pending = calls.foldl Desktop.afterCall pending := by
  rw [timings, List.foldl_filter]
  congr 1
  funext pending call
  cases call <;> rfl

namespace Window

variable {timer : Option Nat} {config : Config}

/-! ## A frame -/

/-- No timer has been started or cancelled. -/
structure Steady (timer : Option Nat) (config : Config) (past : List Call) (w : Window) :
    Prop where
  untimed : timings past = []
  timer : w.timer = timer
  config : w.emulator.config = config

theorem Steady.begin (w : Window) : Steady w.timer w.emulator.config [] w := ⟨rfl, rfl, rfl⟩

theorem Steady.aside {past calls : List Call} {w after : Window} (h : Steady timer config past w)
    (untimed : timings calls = []) (same : after.timer = w.timer)
    (alike : after.emulator.config = w.emulator.config) :
    Steady timer config (past ++ calls) after := by
  refine ⟨?_, same.trans h.timer, alike.trans h.config⟩
  rw [timings_append, h.untimed, untimed, List.append_nil]

theorem keys_steady : KeptByKeys (Steady timer config) where
  press _ _ _ h := ⟨h.untimed, h.timer, h.config⟩
  release _ _ _ h := ⟨h.untimed, h.timer, h.config⟩

theorem stopBeep_steady : Leads (Steady timer config) stopBeep (Steady timer config) :=
  fun _ w h => h.aside (timings_subset w.buzzer.stop_subset rfl) rfl rfl

theorem showStatus_steady : Leads (Steady timer config) showStatus (Steady timer config) :=
  fun _ _ h => h.aside rfl rfl rfl

theorem runMachine_steady : Leads (Steady timer config) runMachine (Steady timer config) :=
  leads_runMachine (fun _ _ h => ⟨h.untimed, h.timer, by simpa using h.config⟩)
    (fun _ _ w h => h.aside (timings_subset (w.buzzer.follow_subset _) rfl) rfl rfl)
    stopBeep_steady showStatus_steady fun _ _ _ _ h => h.aside rfl rfl rfl

theorem redraw_steady : Leads (Steady timer config) redraw (Steady timer config) := by
  intro past w h
  rw [redraw]
  split
  · exact h.aside rfl rfl rfl
  · exact Leads.still past w h

theorem countFrame_steady (clock : Int) :
    Leads (Steady timer config) (·.countFrame clock) (Steady timer config) := by
  intro past w h
  simp only [countFrame]
  split
  · exact h.aside rfl rfl rfl
  · exact h.aside rfl rfl rfl

/-- The number of the next timer. -/
def nextTimer (w : Window) : Nat := (w.timer.map (· + 1)).getD 0

theorem frame_timings {w : Window} (isOpen : w.isOpen = true) (socket : Socket) (clock : Int) :
    timings (w.frame socket clock).calls = [.startTimer w.nextTimer w.delay] ∧
      (w.frame socket clock).state.timer = some w.nextTimer := by
  have polled : Leads (Steady w.timer w.emulator.config) (·.pollPad socket)
      (Steady w.timer w.emulator.config) :=
    leads_pollPad (fun _ _ _ h => ⟨h.untimed, h.timer, h.config⟩) keys_steady socket
  let counted :=
    (((w.pollPad socket).andThen runMachine).andThen redraw).andThen (countFrame · clock)
  have steady : Steady w.timer w.emulator.config counted.calls counted.state :=
    ((polled.andThen runMachine_steady).andThen redraw_steady).andThen (countFrame_steady clock)
      [] w (.begin w)
  have next : counted.state.nextTimer = w.nextTimer := by rw [nextTimer, steady.timer, nextTimer]
  have same : counted.state.delay = w.delay := by rw [delay, steady.config, delay]
  rw [frame, if_pos isOpen]
  refine ⟨?_, congrArg some next⟩
  calc timings (counted.andThen schedule).calls
      = [.startTimer counted.state.nextTimer counted.state.delay] := by
        rw [calls_andThen, timings_append, steady.untimed]
        rfl
    _ = [.startTimer w.nextTimer w.delay] := by rw [next, same]

/-! ## The controls -/

theorem reset_steady : Leads (Steady timer config) reset (Steady timer config) := by
  have render_steady : Leads (Steady timer config) render (Steady timer config) :=
    fun _ _ h => h.aside rfl rfl rfl
  exact leads_reset (fun _ _ h => ⟨h.untimed, h.timer, h.config⟩) stopBeep_steady render_steady
    showStatus_steady

theorem togglePause_steady : Leads (Steady timer config) togglePause (Steady timer config) :=
  leads_togglePause (fun _ _ h => ⟨h.untimed, h.timer, h.config⟩) stopBeep_steady
    showStatus_steady

theorem setSpeed_steady (speed : Int) :
    Leads (Steady timer config) (·.setSpeed speed) (Steady timer config) :=
  fun past w h => showStatus_steady past { w with emulator := w.emulator.setSpeed speed }
    ⟨h.untimed, h.timer, h.config⟩

theorem close_timings (w : Window) :
    timings w.close.calls = w.timer.toList.map .cancelTimer := by
  have silenced : timings w.buzzer.close.calls = [] := timings_subset w.buzzer.close_subset rfl
  have destroyed : timings [.destroy] = [] := rfl
  calc timings w.close.calls
      = timings (w.timer.toList.map .cancelTimer ++ w.buzzer.close.calls ++ [.destroy]) := rfl
    _ = timings (w.timer.toList.map .cancelTimer) := by
      rw [timings_append, timings_append, silenced, destroyed, List.append_nil, List.append_nil]
    _ = w.timer.toList.map .cancelTimer := by cases w.timer <;> rfl

end Window

namespace Desktop

variable {d : Desktop} {action : Action} {ran : Prop}

/-! ## One action -/

/-- A frame of an open window starts the next timer. -/
theorem perform_frame (runs : d.RunsFrame action) (isOpen : d.window.isOpen = true) :
    timings (d.perform action).calls = [.startTimer d.window.nextTimer d.window.delay] ∧
      (d.perform action).state.window.timer = some d.window.nextTimer := by
  have framed := d.window.frame_timings isOpen d.socket d.clock
  cases action with
  | run =>
    refine ⟨?_, framed.2⟩
    calc timings (d.perform .run).calls
        = timings (d.window.frame d.socket d.clock).calls ++ timings [.mainLoop] :=
          timings_append _ _
      _ = [.startTimer d.window.nextTimer d.window.delay] := by rw [framed.1]; rfl
  | elapse =>
    cases pending : d.pending with
    | nil => exact absurd pending runs
    | cons =>
      simp only [perform, elapse, pending]
      exact framed
  | _ => exact runs.elim

/-- Whatever else happens to a window that stays open has nothing to do with timers. -/
theorem perform_other (other : ¬ (d.RunsFrame action ∧ d.window.isOpen = true))
    (stays : action ≠ .close) :
    timings (d.perform action).calls = [] ∧
      (d.perform action).state.window.timer = d.window.timer := by
  have steady {f : Window → Reaction Window}
      (leads : Leads (Window.Steady d.window.timer d.window.emulator.config) f
        (Window.Steady d.window.timer d.window.emulator.config)) :
      timings (f d.window).calls = [] ∧ (f d.window).state.timer = d.window.timer := by
    have kept := leads [] d.window (.begin _)
    exact ⟨kept.untimed, kept.timer⟩
  have unframed (runs : d.RunsFrame action) :
      d.window.frame d.socket d.clock = .still d.window :=
    Window.frame_of_closed (by simpa [runs] using other) _ _
  cases action with
  | run =>
    simp only [perform, settle, within, Window.run, unframed trivial]
    exact ⟨rfl, rfl⟩
  | elapse =>
    cases pending : d.pending with
    | nil =>
      simp only [perform, elapse, pending]
      exact ⟨rfl, rfl⟩
    | cons =>
      have runs : d.RunsFrame .elapse := by simp [RunsFrame, pending]
      simp only [perform, elapse, pending, settle, within, unframed runs]
      exact ⟨rfl, rfl⟩
  | press symbol => exact steady (Window.leads_pressKey Window.keys_steady symbol)
  | release symbol => exact steady (Window.leads_releaseKey Window.keys_steady symbol)
  | reset => exact steady Window.reset_steady
  | togglePause => exact steady Window.togglePause_steady
  | slower => exact steady (Window.leads_slower Window.setSpeed_steady)
  | faster => exact steady (Window.leads_faster Window.setSpeed_steady)
  | close => exact absurd rfl stays
  | setClock | plug | setFailing => exact ⟨rfl, rfl⟩

/-- An elapse uses its timer up; apart from that, timings are what makes a difference. -/
theorem perform_pending (d : Desktop) (action : Action) :
    (d.perform action).state.pending =
      (timings (d.perform action).calls).foldl afterCall
        (if action = .elapse then d.pending.tail else d.pending) := by
  rw [foldl_timings]
  cases action with
  | elapse =>
    cases pending : d.pending with
    | nil => simp [perform, elapse, still, pending]
    | cons => simp [perform, elapse, settle, within, pending]
  | _ => rfl

/-! ## The loop -/

/-- One timer is pending while the loop goes on, the one that the window has started last, and
none otherwise. -/
inductive Paced (ran : Prop) (d : Desktop) : Prop
  | going (timer : Nat) (ran : ran) (isOpen : d.window.isOpen = true)
      (started : d.window.timer = some timer) (pending : d.pending = [timer])
  | resting (idle : ¬ (ran ∧ d.window.isOpen = true)) (pending : d.pending = [])

namespace Paced

/-- The timer that goes off makes room for the next one. -/
theorem frame (h : Paced ran d) (once : action = .run → ¬ ran) (runs : d.RunsFrame action)
    (isOpen : d.window.isOpen = true) :
    Paced (ran ∨ action = .run) (d.perform action).state := by
  have used : (if action = .elapse then d.pending.tail else d.pending) = [] ∧
      (ran ∨ action = .run) := by
    cases h with
    | going timer ran isOpen started pending =>
      cases action with
      | run => exact absurd ran (once rfl)
      | elapse => simp [pending, ran]
      | _ => exact runs.elim
    | resting idle pending =>
      cases action with
      | run => simp [pending]
      | elapse => exact absurd pending runs
      | _ => exact runs.elim
  have stays : action ≠ .close := by
    rintro rfl
    exact runs
  obtain ⟨started, timer⟩ := perform_frame runs isOpen
  refine .going d.window.nextTimer used.2 ?_ timer ?_
  · simp [perform_isOpen, isOpen, stays]
  · rw [perform_pending, started, used.1]
    rfl

theorem close (h : Paced ran d) :
    Paced (ran ∨ Action.close = .run) (d.perform .close).state := by
  refine .resting (by simp [perform_isOpen]) ?_
  have cancelled : timings (d.perform .close).calls = d.window.timer.toList.map .cancelTimer :=
    d.window.close_timings
  rw [perform_pending, cancelled, if_neg nofun]
  cases h with
  | going timer ran isOpen started pending => simp [started, pending, afterCall]
  | resting idle pending =>
    rw [pending]
    cases d.window.timer <;> rfl

theorem other (h : Paced ran d) (other : ¬ (d.RunsFrame action ∧ d.window.isOpen = true))
    (stays : action ≠ .close) : Paced (ran ∨ action = .run) (d.perform action).state := by
  obtain ⟨untimed, same⟩ := perform_other other stays
  have isOpen : (d.perform action).state.window.isOpen = d.window.isOpen := by
    simp [perform_isOpen, stays]
  have pending := d.perform_pending action
  rw [untimed, List.foldl_nil] at pending
  cases h with
  | going timer ran wasOpen started was =>
    have early : action ≠ .elapse := by
      rintro rfl
      exact other ⟨by simp [RunsFrame, was], wasOpen⟩
    rw [if_neg early] at pending
    exact .going timer (.inl ran) (isOpen.trans wasOpen) (same.trans started) (pending.trans was)
  | resting idle was =>
    refine .resting ?_ ?_
    · rintro ⟨ran | rfl, nowOpen⟩
      · exact idle ⟨ran, isOpen ▸ nowOpen⟩
      · exact other ⟨trivial, isOpen ▸ nowOpen⟩
    · rw [pending, was]
      split <;> rfl

theorem perform (h : Paced ran d) (once : action = .run → ¬ ran) :
    Paced (ran ∨ action = .run) (d.perform action).state := by
  by_cases runs : d.RunsFrame action ∧ d.window.isOpen = true
  · exact h.frame once runs.1 runs.2
  · by_cases closes : action = .close
    · subst closes
      exact h.close
    · exact h.other runs closes

theorem performAll {actions : List Action} (start : d.pending = [])
    (once : actions.count .run ≤ 1) : Paced (.run ∈ actions) (d.performAll actions).state := by
  induction actions using List.reverseRecOn with
  | nil => exact .resting (by simp) start
  | append_singleton actions action ih =>
    rw [List.count_append] at once
    have before := ih (Nat.le_of_add_right_le once)
    have first : action = .run → .run ∉ actions := by
      rintro rfl
      rw [List.count_singleton_self] at once
      exact List.count_eq_zero.mp (by omega)
    have next := before.perform first
    rw [performAll_concat]
    have ran : (.run ∈ actions ++ [action]) = (.run ∈ actions ∨ action = .run) := by
      simp [eq_comm]
    rw [ran]
    exact next

end Paced

/-! ## A session -/

/-- From the first frame on until the window is closed, just one timer is pending. A frame of an
open window starts just one, for the time of a frame, whatever the devices and the machine do,
and nothing else starts any. All faults end in boxes, those of frames that is, since nothing that
is done to the keys ever faults or halts the machine. Once the window is closed nothing is
pending, and there is nothing left that could go off. -/
theorem frame_loop_goes_on {rom : Rom} {config : Config} {random : ByteSource} {title : String}
    {devices : Devices} {opened : Reaction Desktop}
    (created : create (.start rom config random) title devices = .ok opened)
    {actions : List Action} (once : actions.count .run ≤ 1) :
    let now := (opened.andThen (·.performAll actions)).state
    let window := now.window
    let isHalted := window.emulator.machine.isHalted
    let delay := max 1 (1000 / config.fps)
    0 < config.fps ∧ 1 ≤ delay ∧
    (.run ∈ actions → .close ∉ actions → ∃ timer, now.pending = [timer]) ∧
    (.close ∈ actions → now.pending = [] ∧ now.perform .elapse = .still now) ∧
    (∀ action, delays (now.perform action).calls =
      if now.RunsFrame action ∧ window.isOpen = true then [delay] else []) ∧
    (∀ action, errorBoxes (now.perform action).calls =
      (window.emulator.faults (now.toldBy action)).map Fault.box) ∧
    (∀ action, ∀ command ∈ now.toldBy action, command ≠ .frame →
      ∀ e : Emulator, e.faults [command] = []) ∧
    (∀ symbol, (window.pressKey symbol).state.emulator.machine.isHalted = isHalted ∧
      (window.releaseKey symbol).state.emulator.machine.isHalted = isHalted) ∧
    (∀ socket, (window.pollPad socket).state.emulator.machine.isHalted = isHalted) := by
  intro now window isHalted delay
  obtain ⟨sound, -, rfl⟩ := create_ok created
  have paced : Paced (.run ∈ actions) now := Paced.performAll rfl once
  have isOpen : window.isOpen = decide (.close ∉ actions) := performAll_isOpen _ actions
  have same : window.emulator.config = config :=
    (performAll_driven _ actions).alike.config_eq.trans (Emulator.after_config _ _)
  refine ⟨config.fps_pos, Nat.le_max_left _ _, ?_, ?_, ?_, ?_, ?_, ?_, ?_⟩
  · intro ran stays
    cases paced with
    | going timer _ _ _ pending => exact ⟨timer, pending⟩
    | resting idle _ => exact absurd ⟨ran, isOpen.trans (decide_eq_true stays)⟩ idle
  · intro closed
    have pending : now.pending = [] := by
      cases paced with
      | going _ _ stillOpen _ _ => exact absurd closed (of_decide_eq_true (isOpen ▸ stillOpen))
      | resting _ pending => exact pending
    refine ⟨pending, ?_⟩
    rw [perform, elapse, pending]
  · intro action
    rw [← delays_timings]
    split
    next frame =>
      rw [(perform_frame frame.1 frame.2).1, Window.delay, same]
      rfl
    next other =>
      by_cases closes : action = .close
      · subst closes
        have cancelled :
            timings (now.perform .close).calls = window.timer.toList.map .cancelTimer :=
          window.close_timings
        rw [cancelled]
        cases window.timer <;> rfl
      · rw [(perform_other other closes).1]
        rfl
  · exact fun action => (perform_driven now action).boxes
  · exact fun _ _ member other e => toldBy_faults member other e
  · intro symbol
    let Same (_ : List Call) (w : Window) : Prop := w.emulator.machine.isHalted = isHalted
    have keys : Window.KeptByKeys Same := ⟨fun _ _ _ h => h, fun _ _ _ h => h⟩
    have pressed := Window.leads_pressKey keys symbol
    have released := Window.leads_releaseKey keys symbol
    exact ⟨pressed [] window rfl, released [] window rfl⟩
  · exact fun socket => (window.pollPad_status socket).2

/-- A machine that has faulted does not stop the loop. -/
theorem frame_loop_goes_on_after_fault :
    let emulator := Emulator.start ⟨[0x00, 0xEE], by decide⟩ .standard (.cycle #[])
    let actions : List Action := [.run, .press "no such key", .elapse]
    ∃ opened, create emulator "Pong" { mixer := .refused "none" } = .ok opened ∧
      let now := (opened.andThen (·.performAll actions)).state
      now.window.emulator.machine.isHalted = true ∧ (∃ timer, now.pending = [timer]) ∧
        delays (now.perform .elapse).calls = [16] := by
  intro emulator actions
  have created : create emulator "Pong" { mixer := .refused "none" } = .ok _ := rfl
  have once : actions.count .run ≤ 1 := by decide
  obtain ⟨-, -, pending, -, started, -⟩ := frame_loop_goes_on created once
  refine ⟨_, created, ?_, pending (by decide) (by decide), (started .elapse).trans ?_⟩
  · decide +kernel
  · decide +kernel

end Desktop

end Chip8
