import Chip8.Proofs.Emulator.Frame
import Chip8.Proofs.Grid.Torus
import Chip8.Proofs.Window.Session

/-! What a window shows. The canvas shows the screen of the machine as it was when it
was last put there, pixel by pixel in the bytes of one of two colours (`Depicts`), and
the status bar what was last written on it. A frame that has changed the screen puts
it on the canvas, and whatever changes the state or the speed of a run writes both
down, so between any two events all of them are up to date (`coherent_after`). -/

namespace Chip8

open Reaction

namespace Call

/-- The picture that a call puts on the canvas. -/
@[simp] def picture? : Call → Option Picture
  | .render picture => some picture
  | _ => none

/-- The text that a call writes in a field of the status bar. -/
@[simp] def text? (field : Label) : Call → Option String
  | .setLabel label text => if label = field then some text else none
  | _ => none

end Call

/-- These calls leave the canvas, the state and the speed on show as they are. -/
def Unseen (calls : List Call) : Prop :=
  ∀ call ∈ calls, call.picture? = none ∧ call.text? .state = none ∧ call.text? .speed = none

namespace Unseen

variable {calls : List Call}

theorem picture (unseen : Unseen calls) (past : List Call) :
    latest Call.picture? (past ++ calls) = latest Call.picture? past :=
  latest_of_none past fun call member => (unseen call member).1

theorem state (unseen : Unseen calls) (past : List Call) :
    latest (Call.text? .state) (past ++ calls) = latest (Call.text? .state) past :=
  latest_of_none past fun call member => (unseen call member).2.1

theorem speed (unseen : Unseen calls) (past : List Call) :
    latest (Call.text? .speed) (past ++ calls) = latest (Call.text? .speed) past :=
  latest_of_none past fun call member => (unseen call member).2.2

@[simp] theorem nil : Unseen [] := by
  rintro call ⟨⟩

@[simp] theorem cons_iff {call : Call} : Unseen (call :: calls) ↔
    (call.picture? = none ∧ call.text? .state = none ∧ call.text? .speed = none) ∧ Unseen calls :=
  List.forall_mem_cons

theorem subset {more : List Call} (unseen : Unseen more) (within : calls ⊆ more) : Unseen calls :=
  fun call member => unseen call (within member)

theorem append {more : List Call} (first : Unseen calls) (second : Unseen more) :
    Unseen (calls ++ more) := by
  intro call member
  rcases List.mem_append.mp member with member | member
  · exact first call member
  · exact second call member

end Unseen

/-! ## Pictures -/

/-- A pixel has the bytes of a colour that begin at bits 24, 16 and 8. -/
structure Rgb.OfColour (pixel : Rgb) (colour : Colour) : Prop where
  red : pixel.red.toNat = (colour.toNat >>> 24) % 256
  green : pixel.green.toNat = (colour.toNat >>> 16) % 256
  blue : pixel.blue.toNat = (colour.toNat >>> 8) % 256

theorem Rgb.OfColour.unique {pixel other : Rgb} {colour : Colour} (first : pixel.OfColour colour)
    (second : other.OfColour colour) : pixel = other := by
  obtain ⟨red, green, blue⟩ := pixel
  obtain rfl := UInt8.toNat_inj.mp (first.red.trans second.red.symm)
  obtain rfl := UInt8.toNat_inj.mp (first.green.trans second.green.symm)
  obtain rfl := UInt8.toNat_inj.mp (first.blue.trans second.blue.symm)
  rfl

theorem Colour.rgb_ofColour (colour : Colour) : colour.rgb.OfColour colour := by
  constructor
  all_goals
    rw [Nat.shiftRight_eq_div_pow]
    exact UInt8.toNat_ofNat

/-- A picture has a pixel for each one of the screen, row by row, and it has the foreground
colour where the screen is on and the background colour where it is off. -/
structure Picture.Depicts (picture : Picture) (config : Config) (screen : Screen) : Prop where
  width : picture.width = 64
  height : picture.height = 32
  scale : picture.scale = config.scale
  length : picture.pixels.length = 64 * 32
  pixel : ∀ x y : Nat, x < 64 → y < 32 → ∃ lit pixel,
    screen.get x y = .ok lit ∧ picture.pixels[64 * y + x]? = some pixel ∧
      pixel.OfColour (if lit then config.foreground else config.background)

namespace Window

theorem picture_depicts (w : Window) :
    w.picture.Depicts w.emulator.config w.emulator.machine.screen where
  width := rfl
  height := rfl
  scale := rfl
  length := Grid.length_paint ..
  pixel x y across down := by
    let cell : Fin (64 * 32) := Grid.spot ⟨x, across⟩ ⟨y, down⟩
    let config := w.emulator.config
    have read : w.emulator.machine.screen.get x y = .ok (w.emulator.machine.screen.pixel cell) :=
      Grid.get_spot _ ⟨x, across⟩ ⟨y, down⟩
    have painted : w.picture.pixels[cell.val]? = _ :=
      w.emulator.machine.screen.getElem?_paint config.foreground.rgb config.background.rgb cell
    have place : cell.val = 64 * y + x := congrArg (· + x) (Nat.mul_comm y 64)
    rw [place] at painted
    refine ⟨_, _, read, painted, ?_⟩
    cases w.emulator.machine.screen.pixel cell with
    | true => exact config.foreground.rgb_ofColour
    | false => exact config.background.rgb_ofColour

/-- The speeds that the controls can reach. -/
def speeds : List Int := [1, 2, 4, 8, 16]

theorem half_mem_speeds : ∀ speed ∈ speeds, 1 < speed → speed / 2 ∈ speeds := by decide

theorem double_mem_speeds : ∀ speed ∈ speeds, speed < highestSpeed → speed * 2 ∈ speeds := by decide

/-- The canvas shows the machine, unless its screen is marked; the status bar may be
out of date. -/
structure Pictured (config : Config) (past : List Call) (w : Window) : Prop where
  config : w.emulator.config = config
  speed : w.emulator.speed ∈ speeds
  picture : w.emulator.machine.screen.dirty = false → latest Call.picture? past = some w.picture

/-- The status bar is up to date, too. -/
structure Shown (config : Config) (past : List Call) (w : Window) : Prop
    extends Pictured config past w where
  stateText : latest (Call.text? .state) past = some w.stateText
  speedText : latest (Call.text? .speed) past = some w.speedText

variable {config : Config}

theorem Pictured.aside {past calls : List Call} {w after : Window} (h : Pictured config past w)
    (unseen : Unseen calls) (emulator : after.emulator = w.emulator) :
    Pictured config (past ++ calls) after where
  config := emulator ▸ h.config
  speed := emulator ▸ h.speed
  picture clean := by
    rw [unseen.picture, Window.picture, emulator]
    exact h.picture (emulator ▸ clean)

/-- Nothing is on show but the emulator and whether it is paused. -/
theorem Shown.aside {past calls : List Call} {w after : Window} (h : Shown config past w)
    (unseen : Unseen calls) (emulator : after.emulator = w.emulator)
    (paused : after.isPaused = w.isPaused) : Shown config (past ++ calls) after where
  toPictured := h.toPictured.aside unseen emulator
  stateText := by
    rw [unseen.state, h.stateText, Window.stateText, Window.stateText, emulator, paused]
  speedText := by
    rw [unseen.speed, h.speedText, Window.speedText, Window.speedText, emulator]

theorem stopBeep_pictured : Leads (Pictured config) stopBeep (Pictured config) :=
  fun _ w h => h.aside (.subset (by simp) w.buzzer.stop_subset) rfl

theorem latest_render (past : List Call) (w : Window) :
    latest Call.picture? (past ++ w.render.calls) = some w.picture := by
  rw [latest_append]
  rfl

theorem showStatus_shown : Leads (Pictured config) showStatus (Shown config) := by
  intro past w h
  refine ⟨⟨h.config, h.speed, fun clean => ?_⟩, ?_, ?_⟩
  · rw [latest_append]
    exact h.picture clean
  · rw [latest_append]
    rfl
  · rw [latest_append]
    rfl

/-! ## The parts of a frame -/

theorem keys_shown : KeptByKeys (Shown config) where
  press _ _ _ h := ⟨⟨h.config, h.speed, h.picture⟩, h.stateText, h.speedText⟩
  release _ _ _ h := ⟨⟨h.config, h.speed, h.picture⟩, h.stateText, h.speedText⟩

theorem pollPad_shown (socket : Socket) : Leads (Shown config) (·.pollPad socket) (Shown config) :=
  leads_pollPad (fun _ _ _ h => ⟨⟨h.config, h.speed, h.picture⟩, h.stateText, h.speedText⟩)
    keys_shown socket

/-- A frame that does not fault leaves the machine running, and one that does has the
window say so. -/
theorem runMachine_shown : Leads (Shown config) runMachine (Shown config) := by
  intro past w h
  rw [runMachine]
  split
  · exact Leads.still past w h
  -- After a fault the status bar lags behind until it is written, the canvas does not.
  have run : Pictured config past { w with emulator := w.emulator.runFrame.state } := by
    refine ⟨by simpa using h.config, by simpa using h.speed, fun clean => ?_⟩
    have same := w.emulator.runFrame_screen clean
    rw [same] at clean
    rw [h.picture clean]
    simp [Window.picture, Emulator.picture, same]
  have halted := w.emulator.runFrame_isHalted
  simp only
  cases result : w.emulator.runFrame.result with
  | ok =>
    rw [result] at halted
    have shown : Shown config past { w with emulator := w.emulator.runFrame.state } := by
      refine ⟨run, ?_, ?_⟩
      · simp only [stateText, halted]
        exact h.stateText
      · simp only [speedText, Emulator.runFrame_speed]
        exact h.speedText
    exact shown.aside (.subset (by simp) (w.buzzer.follow_subset _)) rfl rfl
  | error fault =>
    have status := stopBeep_pictured.andThen showStatus_shown past _ run
    rw [Reaction.calls_andThen, ← List.append_assoc]
    exact status.aside (by simp [calling]) rfl rfl

theorem redraw_shown : Leads (Shown config) redraw (Shown config) := by
  intro past w h
  rw [redraw]
  split
  · refine ⟨⟨h.config, h.speed, fun _ => latest_render past w⟩, ?_, ?_⟩
    · rw [latest_append]
      exact h.stateText
    · rw [latest_append]
      exact h.speedText
  · exact Leads.still past w h

theorem countFrame_shown (clock : Int) :
    Leads (Shown config) (·.countFrame clock) (Shown config) := by
  intro past w h
  simp only [countFrame]
  split
  · exact h.aside .nil rfl rfl
  · exact h.aside (by simp [calling]) rfl rfl

theorem schedule_shown : Leads (Shown config) schedule (Shown config) :=
  fun _ _ h => h.aside (by simp [schedule, calling]) rfl rfl

theorem frame_shown (socket : Socket) (clock : Int) :
    Leads (Shown config) (·.frame socket clock) (Shown config) :=
  leads_frame (pollPad_shown socket) runMachine_shown redraw_shown (countFrame_shown clock)
    schedule_shown

/-! ## The controls -/

theorem reset_shown : Leads (Shown config) reset (Shown config) := by
  intro past w h
  let drawn := ({ w with emulator := w.emulator.reset }.stopBeep).andThen render
  have pictured : Pictured config (past ++ drawn.calls) drawn.state := by
    refine ⟨h.config, h.speed, fun _ => ?_⟩
    rw [calls_andThen, ← List.append_assoc]
    exact latest_render _ _
  have status := showStatus_shown _ _ pictured
  rwa [List.append_assoc] at status

theorem togglePause_shown : Leads (Shown config) togglePause (Shown config) := by
  intro past w h
  have toggled : Pictured config past { w with isPaused := !w.isPaused } :=
    ⟨h.config, h.speed, h.picture⟩
  simp only [togglePause]
  split
  · exact stopBeep_pictured.andThen showStatus_shown past _ toggled
  · exact showStatus_shown past _ toggled

theorem setSpeed_shown {past : List Call} {w : Window} (h : Shown config past w) {speed : Int}
    (possible : speed ∈ speeds) :
    Shown config (past ++ (w.setSpeed speed).calls) (w.setSpeed speed).state :=
  showStatus_shown past _ ⟨h.config, possible, h.picture⟩

theorem slower_shown : Leads (Shown config) slower (Shown config) := by
  intro past w h
  rw [slower]
  split
  · exact setSpeed_shown h (half_mem_speeds _ h.speed ‹_›)
  · exact Leads.still past w h

theorem faster_shown : Leads (Shown config) faster (Shown config) := by
  intro past w h
  rw [faster]
  split
  · exact setSpeed_shown h (double_mem_speeds _ h.speed ‹_›)
  · exact Leads.still past w h

theorem close_shown : Leads (Shown config) close (Shown config) := by
  intro past w h
  have cancelled : Unseen (w.timer.toList.map .cancelTimer) := by simp [Unseen]
  have silenced := cancelled.append (.subset (by simp) w.buzzer.close_subset)
  exact h.aside (silenced.append (by simp [calling])) rfl rfl

theorem upheld_shown : Upheld (Shown config) where
  frame := frame_shown
  mainLoop _ _ h := h.aside (by simp [calling]) rfl rfl
  toKeptByKeys := keys_shown
  reset := reset_shown
  togglePause := togglePause_shown
  slower := slower_shown
  faster := faster_shown
  close := close_shown

/-! ## Between two events -/

/-- Nothing is left to be put on the canvas. -/
def Clean (w : Window) : Prop := w.emulator.machine.screen.dirty = false

theorem redraw_clean (w : Window) : w.redraw.state.Clean := by
  rw [redraw]
  split
  · rfl
  · exact (Bool.not_eq_true _).mp ‹_›

theorem countFrame_emulator (w : Window) (clock : Int) :
    (w.countFrame clock).state.emulator = w.emulator := by
  simp only [countFrame]
  split <;> rfl

theorem frame_clean (socket : Socket) (clock : Int) :
    Leads (fun _ => Clean) (·.frame socket clock) (fun _ => Clean) := by
  intro _ w h
  simp only [frame]
  split
  · simp only [state_andThen, schedule, calling, Clean, countFrame_emulator]
    exact redraw_clean _
  · exact h

theorem upheld_clean : Upheld fun _ => Clean where
  frame := frame_clean
  mainLoop _ _ h := h
  press _ _ _ h := h
  release _ _ _ h := h
  reset _ _ _ := rfl
  togglePause _ w h := by
    simp only [togglePause]
    split <;> exact h
  slower := leads_slower fun _ _ _ h => h
  faster := leads_faster fun _ _ _ h => h
  close _ _ h := h

theorem opened_shown {emulator : Emulator} (speed : emulator.speed ∈ speeds) (title : String)
    {sound : Reaction Buzzer} (unseen : Unseen sound.calls) (padRefusal : Option String)
    (clock : Int) :
    let new := opened emulator title sound padRefusal clock
    Shown emulator.config new.calls new.state := by
  refine ⟨⟨rfl, speed, fun _ => ?_⟩, ?_, ?_⟩
  · exact unseen.picture _
  · exact unseen.state _
  · exact unseen.speed _

end Window

namespace Desktop

/-- After any events at all, the canvas shows the screen of the machine in the configured
colours, and the status bar shows the state and the speed of the run. -/
theorem coherent_after {rom : Rom} {config : Config} {random : ByteSource} {title : String}
    {devices : Devices} {opened : Reaction Desktop}
    (created : create (.start rom config random) title devices = .ok opened)
    (actions : List Action) :
    let after := opened.andThen (·.performAll actions)
    let window := after.state.window
    let emulator := window.emulator
    (∃ picture, latest Call.picture? after.calls = some picture ∧
      picture.Depicts config emulator.machine.screen) ∧
    emulator.machine.screen.dirty = false ∧
    latest (Call.text? .state) after.calls = some
      (if emulator.machine.isHalted then "Halted"
       else if window.isPaused then "Paused"
       else "Running") ∧
    latest (Call.text? .speed) after.calls = some (toString emulator.speed ++ "×") ∧
    emulator.speed ∈ [1, 2, 4, 8, 16] := by
  intro after window emulator
  have shown : Window.Shown config after.calls window :=
    Window.upheld_shown.session created (fun sound connected => by
      have unseen : Unseen sound.calls := by simp [Buzzer.connect_ok connected]
      have speed : (Emulator.start rom config random).speed ∈ Window.speeds := List.mem_cons_self
      exact Window.opened_shown speed title unseen _ _) actions
  have clean : window.Clean := Window.upheld_clean.session created (fun _ _ => rfl) actions
  have depicts := shown.config ▸ window.picture_depicts
  exact ⟨⟨_, shown.picture clean, depicts⟩, clean, shown.stateText, shown.speedText, shown.speed⟩

/-- A program that draws a zero and then returns from nowhere is seen to be halted, even if it is
paused, too. The zero is seen as well, its lower right corner and that there is nothing beside
its right side. -/
theorem coherent_after_fault :
    let config :=
      { Config.standard with foreground := 0x33CCFF80, background := 0x10203040, scale := 3
                             scale_pos := by decide }
    let emulator := Emulator.start ⟨[0xD0, 0x05, 0x00, 0xEE], by decide⟩ config (.cycle #[])
    let actions : List Action := [.run, .togglePause, .faster]
    ∃ opened, create emulator "Pong" { mixer := .refused "none" } = .ok opened ∧
      let after := opened.andThen (·.performAll actions)
      (∃ picture, latest Call.picture? after.calls = some picture ∧ picture.scale = 3 ∧
        picture.pixels[64 * 4 + 3]? = some ⟨0x33, 0xCC, 0xFF⟩ ∧
        picture.pixels[64 * 3 + 4]? = some ⟨0x10, 0x20, 0x30⟩) ∧
      latest (Call.text? .state) after.calls = some "Halted" ∧
      latest (Call.text? .speed) after.calls = some "2×" := by
  intro config emulator actions
  have created : create emulator "Pong" { mixer := .refused "none" } = .ok _ := rfl
  have foreground : (⟨0x33, 0xCC, 0xFF⟩ : Rgb).OfColour config.foreground :=
    ⟨by decide, by decide, by decide⟩
  have background : (⟨0x10, 0x20, 0x30⟩ : Rgb).OfColour config.background :=
    ⟨by decide, by decide, by decide⟩
  obtain ⟨⟨picture, shown, depicts⟩, -, state, speed, -⟩ := coherent_after created actions
  refine ⟨_, created, ⟨picture, shown, depicts.scale, ?_, ?_⟩, state.trans ?_, speed.trans ?_⟩
  · obtain ⟨lit, pixel, read, place, bytes⟩ := depicts.pixel 3 4 (by decide) (by decide)
    obtain rfl : lit = true := Except.ok.inj (read.symm.trans (by decide +kernel))
    rw [place, bytes.unique foreground]
  · obtain ⟨lit, pixel, read, place, bytes⟩ := depicts.pixel 4 3 (by decide) (by decide)
    obtain rfl : lit = false := Except.ok.inj (read.symm.trans (by decide +kernel))
    rw [place, bytes.unique background]
  · decide +kernel
  · decide +kernel

end Desktop

end Chip8
