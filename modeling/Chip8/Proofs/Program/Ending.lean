import Mathlib.Algebra.Ring.Int.Defs
import Chip8.Proofs.CommandLine.Configured
import Chip8.Proofs.Window.Session

/-! How a run ends. Most of what a run could break off for is kept from it: settings that have
been read make a configuration, and no program, whatever it does, keeps its window from being
opened and run. A run that is provided for (`Provided`) comes to one of five ends (`Ending`), and
its status, its lines and its window follow from which one it is (`run_outcome`). Runs that are
not provided for may break off (`run_breaks_off`). -/

namespace Chip8

open CommandLine (Arguments Choices)

namespace CommandLine

theorem need_eq_ok {Value : Type} {setting : Setting} {given : Option Value} {value : Value} :
    Choices.need setting given = .ok value ↔ given = some value := by
  cases given <;> simp [Choices.need]

theorem Choices.pitch_of_options {c : Choices} {options : Config.Options}
    (made : c.options = .ok options) : c.pitch = some options.pitch := by
  simp only [Choices.options, bind_eq_ok, need_eq_ok] at made
  obtain ⟨_, -, _, -, _, -, _, -, pitch, given, _, -, _, -, made⟩ := made
  cases made
  exact given

theorem parse_sound {argv : List String} {arguments : Arguments}
    (accepted : parse argv = .ok arguments) : arguments.choices.Sound := by
  rw [parse] at accepted
  split at accepted
  · cases accepted
  · exact (ofLine_choices accepted).1

end CommandLine

namespace Program

variable {arguments : Arguments} {file : Except OpenError (List UInt8)} {devices : Devices}
  {bytes : List UInt8}

/-- A window with the title of the program is set up first, and at last its main loop is
entered. -/
def Presents (path : String) (calls : List Call) : Prop :=
  ∃ width height background between,
    calls = [.setTitle (title path), .createCanvas width height background] ++ between ++
      [.mainLoop]

theorem Presents.ne_nil {path : String} {calls : List Call} (presents : Presents path calls) :
    calls ≠ [] := by
  obtain ⟨_, _, _, _, rfl⟩ := presents
  nofun

/-- What a run needs beyond its file: a value for each setting that it comes to, a name that the
system takes, and rates of the mixer that have a wave in the room that there is. -/
structure Provided (arguments : Arguments) (file : Except OpenError (List UInt8))
    (devices : Devices) : Prop where
  level : arguments.choices.isRead .logLevel = true
  nameable : FileStore.isNameable arguments.program = true
  settings : ∀ bytes, file = .ok bytes → bytes ≠ [] → arguments.choices.disasmOnly = false →
    ∀ setting, arguments.choices.isRead setting = true
  audible : ∀ bytes, file = .ok bytes → bytes ≠ [] → arguments.choices.disasmOnly = false →
    bytes.length ≤ 3583 → ∀ frequency channels, devices.mixer = .ready frequency channels →
      ∀ pitch ∈ arguments.choices.pitch,
        ∃ wave, Wave.ofRates frequency channels pitch devices.room = .ok wave

/-- The lines of the program, if they are asked for. -/
def listing (choices : Choices) (bytes : List UInt8) : List String :=
  if choices.disasm || choices.disasmOnly then Listing.lines bytes 0x200 else []

/-- The ends that a run can come to. -/
inductive Ending (arguments : Arguments) (file : Except OpenError (List UInt8)) : Result → Prop
  | unopened {error notes} (opened : file = .error error) :
    Ending arguments file { status := .ok 1, notes }
  | empty {notes} (opened : file = .ok []) : Ending arguments file { status := .ok 1, notes }
  | listed {bytes notes} (opened : file = .ok bytes) (filled : bytes ≠ [])
      (only : arguments.choices.disasmOnly = true) :
    Ending arguments file
      { status := .ok 0, lines := listing arguments.choices bytes, notes }
  | tooLong {bytes notes} (opened : file = .ok bytes) (more : arguments.choices.disasmOnly = false)
      (long : 3583 < bytes.length) :
    Ending arguments file
      { status := .ok 1, lines := listing arguments.choices bytes, notes }
  | shown {bytes notes calls} (opened : file = .ok bytes) (filled : bytes ≠ [])
      (more : arguments.choices.disasmOnly = false) (fits : bytes.length ≤ 3583)
      (presents : Presents arguments.program calls) :
    Ending arguments file
      { status := .ok 0, lines := listing arguments.choices bytes, notes, calls }

theorem Ending.withNotes {result : Result} (ending : Ending arguments file result)
    (notes : List Note) : Ending arguments file { result with notes } := by
  cases ending with
  | unopened opened => exact .unopened opened
  | empty opened => exact .empty opened
  | listed opened filled only => exact .listed opened filled only
  | tooLong opened more long => exact .tooLong opened more long
  | shown opened filled more fits presents => exact .shown opened filled more fits presents

/-! ## The window -/

theorem exists_sound {mixer : Mixer} {pitch : Int} {room : Wave.Room}
    (audible : ∀ frequency channels, mixer = .ready frequency channels →
      ∃ wave, Wave.ofRates frequency channels pitch room = .ok wave) :
    ∃ sound, Buzzer.connect mixer pitch room = .ok sound := by
  cases mixer with
  | refused reason => exact ⟨_, rfl⟩
  | ready frequency channels =>
    obtain ⟨wave, made⟩ := audible frequency channels rfl
    rw [Buzzer.connect, made]
    exact ⟨_, rfl⟩

theorem exists_window {emulator : Emulator} (path : String)
    (audible : ∀ frequency channels, devices.mixer = .ready frequency channels →
      ∃ wave, Wave.ofRates frequency channels emulator.config.pitch devices.room = .ok wave) :
    ∃ window, runWindow emulator path devices = .ok window := by
  obtain ⟨sound, connected⟩ := exists_sound audible
  rw [runWindow, Desktop.create, Window.create, connected]
  exact ⟨_, rfl⟩

theorem runWindow_presents {emulator : Emulator} {path : String} {window : Reaction Desktop}
    (shown : runWindow emulator path devices = .ok window) : Presents path window.calls := by
  rw [runWindow, map_eq_ok] at shown
  obtain ⟨opened, created, rfl⟩ := shown
  obtain ⟨sound, -, rfl⟩ := Desktop.create_ok created
  let first := Window.opened emulator (title path) sound devices.padRefusal 0
  let frame := first.state.frame {} 0
  have order : first.calls ++ (frame.calls ++ [.mainLoop]) =
      first.calls.take 2 ++ (first.calls.drop 2 ++ frame.calls) ++ [.mainLoop] := by
    simp only [← List.append_assoc, List.take_append_drop]
  exact ⟨_, _, _, _, order⟩

/-! ## The run -/

theorem load_config {options : Config.Options} {random : ByteSource} {emulator : Emulator}
    (loaded : load bytes options random = .ok emulator) :
    Config.ofOptions options = .ok emulator.config := by
  rw [load, bind_eq_ok] at loaded
  obtain ⟨config, checked, loaded⟩ := loaded
  rw [bind_eq_ok] at loaded
  obtain ⟨rom, -, loaded⟩ := loaded
  cases loaded
  cases made : Config.ofOptions options with
  | error invalid => rw [made] at checked; cases checked
  | ok _ => rw [made] at checked; cases checked; rfl

/-- With all settings read, a program is loaded unless it is too long. -/
theorem load_cases {choices : Choices} (sound : choices.Sound)
    (read : ∀ setting, choices.isRead setting = true) (bytes : List UInt8) (random : ByteSource) :
    ∃ options, choices.options = .ok options ∧
      ((∃ error, load bytes options random = .error error ∧ 3583 < bytes.length) ∨
        ∃ emulator, load bytes options random = .ok emulator ∧ bytes.length ≤ 3583 ∧
          choices.pitch = some (emulator.config.pitch : Int)) := by
  obtain ⟨preset, options, -, made, sensible, -⟩ :=
    Choices.exists_options sound fun setting _ => read setting
  obtain ⟨config, checked, asked⟩ := Config.ofOptions_of_sensible sensible
  have refused_iff := CommandLine.load_error_iff checked bytes random
  refine ⟨options, made, ?_⟩
  cases loaded : load bytes options random with
  | error error => exact .inl ⟨error, rfl, ((refused_iff error).mp loaded).2⟩
  | ok emulator =>
    obtain rfl : config = emulator.config := Except.ok.inj (checked.symm.trans (load_config loaded))
    refine .inr ⟨emulator, rfl, ?_, ?_⟩
    · by_contra long
      have refused := (refused_iff _).mpr ⟨rfl, Nat.not_le.mp long⟩
      rw [loaded] at refused
      cases refused
    · rw [Choices.pitch_of_options made, ← asked]
      rfl

theorem runBytes_ending (sound : arguments.choices.Sound)
    (provided : Provided arguments (.ok bytes) devices) (random : ByteSource) :
    Ending arguments (.ok bytes) (runBytes bytes arguments devices random) := by
  by_cases filled : bytes = []
  · subst filled
    exact .empty rfl
  have nonempty : ¬bytes.isEmpty = true := by rwa [List.isEmpty_iff]
  have lines : (if arguments.choices.disasm || arguments.choices.disasmOnly then
      Listing.lines bytes Memory.programStart else []) = listing arguments.choices bytes := rfl
  simp only [runBytes, if_neg nonempty, lines]
  by_cases only : arguments.choices.disasmOnly = true
  · rw [if_pos only]
    exact .listed rfl filled only
  have more : arguments.choices.disasmOnly = false := Bool.eq_false_iff.mpr only
  obtain ⟨options, made, refused | started⟩ :=
    load_cases sound (provided.settings bytes rfl filled more) bytes random
  · obtain ⟨error, loaded, long⟩ := refused
    simp only [if_neg only, made, loaded]
    exact .tooLong rfl more long
  · obtain ⟨emulator, loaded, fits, pitch⟩ := started
    obtain ⟨window, shown⟩ := exists_window arguments.program fun frequency channels ready =>
      provided.audible bytes rfl filled more fits frequency channels ready _ pitch
    simp only [if_neg only, made, loaded, shown]
    exact .shown rfl filled more fits (runWindow_presents shown)

theorem run_ending (sound : arguments.choices.Sound) (provided : Provided arguments file devices)
    (random : ByteSource) : Ending arguments file (run arguments file devices random) := by
  obtain ⟨least, level⟩ := Option.isSome_iff_exists.mp provided.level
  simp only [run, level, provided.nameable]
  refine Ending.withNotes ?_ _
  cases file with
  | error error => exact .unopened rfl
  | ok bytes => exact runBytes_ending sound provided random

/-! ## What the end shows -/

/-- The file cannot be opened or is empty, or it is too long for a program that is to be run. -/
def Fails (arguments : Arguments) (file : Except OpenError (List UInt8)) : Prop :=
  (∃ error, file = .error error) ∨ file = .ok [] ∨
    arguments.choices.disasmOnly = false ∧ ∃ bytes, file = .ok bytes ∧ 3583 < bytes.length

variable {result : Result}

theorem Ending.status (ending : Ending arguments file result) :
    result.status = .ok 1 ∧ Fails arguments file ∨
      result.status = .ok 0 ∧ ¬Fails arguments file := by
  cases ending with
  | unopened opened => exact .inl ⟨rfl, .inl ⟨_, opened⟩⟩
  | empty opened => exact .inl ⟨rfl, .inr (.inl opened)⟩
  | tooLong opened more long => exact .inl ⟨rfl, .inr (.inr ⟨more, _, opened, long⟩)⟩
  | listed opened filled only =>
    subst opened
    exact .inr ⟨rfl, by simp [Fails, filled, only]⟩
  | shown opened filled more fits =>
    subst opened
    exact .inr ⟨rfl, by simp [Fails, filled, fits]⟩

theorem Ending.lines_of_filled (ending : Ending arguments file result)
    (read : file = .ok bytes) (filled : bytes ≠ []) :
    result.lines = listing arguments.choices bytes := by
  subst read
  cases ending with
  | unopened opened => cases opened
  | empty opened => exact absurd (Except.ok.inj opened) filled
  | listed opened | tooLong opened | shown opened => rw [Except.ok.inj opened]

theorem Ending.lines_of_unfilled (ending : Ending arguments file result)
    (unfilled : ¬∃ bytes, file = .ok bytes ∧ bytes ≠ []) : result.lines = [] := by
  cases ending with
  | unopened | empty => rfl
  | listed opened filled | shown opened filled => exact absurd ⟨_, opened, filled⟩ unfilled
  | tooLong opened more long =>
    exact absurd ⟨_, opened, List.ne_nil_of_length_pos (Nat.zero_lt_of_lt long)⟩ unfilled

/-- A window is presented, or the devices are not called at all. -/
theorem Ending.calls (ending : Ending arguments file result) :
    Presents arguments.program result.calls ∧
        result.status = .ok 0 ∧ arguments.choices.disasmOnly = false ∨
      result.calls = [] ∧ ¬(result.status = .ok 0 ∧ arguments.choices.disasmOnly = false) := by
  cases ending with
  | shown opened filled more fits presents => exact .inl ⟨presents, rfl, more⟩
  | listed opened filled only => exact .inr ⟨rfl, by simp [only]⟩
  | unopened | empty | tooLong => exact .inr ⟨rfl, nofun⟩

end Program

end Chip8
