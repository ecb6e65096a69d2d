import Mathlib.Data.List.Basic
import Chip8.Program

/-! Command lines that are accepted. The readers of the settings and the checks of a
configuration are written apart, but they agree: whatever a line chooses has been read by a
reader that let only sensible values through (`Choices.Sound`), and options that are sensible
make a configuration. A line also turns toggles on. All of them are spelled out in arguments of
their own, so which ones does not depend on how the rest of the line is taken apart, and for the
dialect their order does not matter (`parse_configured`). -/

namespace Chip8

theorem bind_eq_ok {Error α β : Type} {first : Except Error α} {next : α → Except Error β}
    {answer : β} :
    first >>= next = .ok answer ↔ ∃ value, first = .ok value ∧ next value = .ok answer := by
  cases first <;> simp [bind, Except.bind]

theorem map_eq_ok {Error α β : Type} {first : Except Error α} {f : α → β} {answer : β} :
    first.map f = .ok answer ↔ ∃ value, first = .ok value ∧ f value = answer := by
  cases first <;> simp [Except.map]

theorem of_check {Error α : Type} {condition : Prop} [Decidable condition] {value answer : α}
    {error : Error} (checked : (if condition then .ok value else .error error) = Except.ok answer) :
    condition ∧ value = answer := by
  split at checked
  · next holds => exact ⟨holds, Except.ok.inj checked⟩
  · cases checked

/-- An invariant of a fold that does not break off, which may speak of the entries to come. -/
theorem foldlM_invariant {Error Entry State : Type} {next : State → Entry → Except Error State}
    {Holds : List Entry → State → Prop}
    (round : ∀ entry rest state after, next state entry = .ok after →
      Holds (entry :: rest) state → Holds rest after)
    {entries : List Entry} {state last : State} (folded : entries.foldlM next state = .ok last)
    (start : Holds entries state) : Holds [] last := by
  induction entries generalizing state with
  | nil =>
    cases folded
    exact start
  | cons entry rest ih =>
    rw [List.foldlM_cons, bind_eq_ok] at folded
    obtain ⟨after, entered, folded⟩ := folded
    exact ih folded (round entry rest state after entered start)

namespace Dialect

theorem ext_get {d other : Dialect} (same : ∀ t, d.get t = other.get t) : d = other := by
  have resetFlag := same .resetFlag
  have shiftSource := same .shiftSource
  have jumpRegister := same .jumpRegister
  have wrapSprites := same .wrapSprites
  have advanceIndex := same .advanceIndex
  cases d
  cases other
  simp_all [get]

/-- Toggles are turned on once and for all. -/
theorem get_foldl_set (d : Dialect) (toggles : List Toggle) (t : Toggle) :
    (toggles.foldl (·.set true ·) d).get t = (d.get t || decide (t ∈ toggles)) := by
  induction toggles generalizing d with
  | nil => simp
  | cons s rest ih =>
    rw [List.foldl_cons, ih, get_set]
    by_cases same : t = s <;> simp [same]

end Dialect

namespace Config

/-- Options that make a configuration. -/
structure Options.Sensible (o : Options) : Prop where
  fps : 1 ≤ o.fps
  ipf : 1 ≤ o.ipf
  scale : 1 ≤ o.scale
  pitch : 20 ≤ o.pitch ∧ o.pitch ≤ 10000
  foreground : 0 ≤ o.foreground ∧ o.foreground < 4294967296
  background : 0 ≤ o.background ∧ o.background < 4294967296

/-- The options that a configuration is made of. -/
def asked (c : Config) : Options where
  fps := c.fps
  ipf := c.ipf
  scale := c.scale
  foreground := c.foreground.toNat
  background := c.background.toNat
  displayWait := c.displayWait
  pitch := c.pitch
  dialect := c.dialect

theorem exists_colour {value : Int} (range : 0 ≤ value ∧ value < 4294967296) :
    ∃ c : Colour, Colour.ofInt? value = some c ∧ (c.toNat : Int) = value := by
  refine ⟨UInt32.ofNat value.toNat, if_pos range, ?_⟩
  have size : UInt32.size = 4294967296 := rfl
  have small : value.toNat < UInt32.size := by omega
  rw [UInt32.toNat_ofNat_of_lt' small]
  omega

theorem ofOptions_of_sensible {o : Options} (sensible : o.Sensible) :
    ∃ c, ofOptions o = .ok c ∧ c.asked = o := by
  obtain ⟨fps, ipf, scale, pitch, foreground, background⟩ := sensible
  obtain ⟨front, asFront, front_eq⟩ := exists_colour foreground
  obtain ⟨back, asBack, back_eq⟩ := exists_colour background
  rw [ofOptions, dif_pos fps, dif_pos ipf, dif_pos scale, dif_pos pitch, asFront, asBack]
  refine ⟨_, rfl, ?_⟩
  simp only [asked, front_eq, back_eq]
  congr 1 <;> omega

end Config

namespace CommandLine

/-! ## Choices -/

/-- The switch turns a toggle on. -/
def Flag.toggle? : Flag → Option Toggle
  | .toggle t => some t
  | .help | .disasm | .disasmOnly | .displayWait => none

/-- What would have to be given to a setting for its default. -/
def Setting.defaultText : Setting → String
  | .fps => "60"
  | .ipf | .scale => "10"
  | .colour => "0xFFFFFFFF"
  | .background => "0x000000"
  | .pitch => "440"
  | .preset => "classic"
  | .logLevel => "WARNING"

namespace Choices

variable {c next : Choices} {setting : Setting} {text : String}

/-- Whether the value of a setting comes from its reader. The separator is not read, and leaves
the setting without a value. -/
def isRead (c : Choices) : Setting → Bool
  | .fps => c.fps.isSome
  | .ipf => c.ipf.isSome
  | .scale => c.scale.isSome
  | .colour => c.colour.isSome
  | .background => c.background.isSome
  | .pitch => c.pitch.isSome
  | .preset => c.preset.isSome
  | .logLevel => c.logLevel.isSome

/-- The numbers that have been chosen are in their ranges. -/
structure Sound (c : Choices) : Prop where
  fps : ∀ value ∈ c.fps, 1 ≤ value
  ipf : ∀ value ∈ c.ipf, 1 ≤ value
  scale : ∀ value ∈ c.scale, 1 ≤ value
  pitch : ∀ value ∈ c.pitch, 20 ≤ value ∧ value ≤ 10000

theorem sound_default : Sound {} := by constructor <;> simp

/-- The defaults pass the readers. -/
theorem assign_defaultText (setting : Setting) :
    ({} : Choices).assign setting setting.defaultText = .ok {} := by
  cases setting <;> rfl

theorem readRate_range {value : Int} (read : readRate text = .ok value) : 1 ≤ value := by
  rw [readRate, bind_eq_ok] at read
  obtain ⟨number, -, checked⟩ := read
  obtain ⟨range, rfl⟩ := of_check checked
  exact range

theorem readPitch_range {value : Int} (read : readPitch text = .ok value) :
    20 ≤ value ∧ value ≤ 10000 := by
  rw [readPitch, bind_eq_ok] at read
  obtain ⟨number, -, checked⟩ := read
  obtain ⟨range, rfl⟩ := of_check checked
  exact range

/-- What a setting is given has gone through its reader. -/
theorem valueOf_forall {Value : Type} {read : String → Except Complaint Value}
    {P : Value → Prop} (range : ∀ {v}, read text = .ok v → P v) {value : Option Value}
    (given : valueOf read text = .ok value) : ∀ v ∈ value, P v := by
  rw [valueOf] at given
  split at given
  · cases given
    simp
  · rw [map_eq_ok] at given
    obtain ⟨v, result, rfl⟩ := given
    rintro _ ⟨⟩
    exact range result

theorem assign_sound (assigned : c.assign setting text = .ok next) (sound : c.Sound) :
    next.Sound := by
  cases setting <;> rw [assign, map_eq_ok] at assigned <;>
    obtain ⟨value, given, rfl⟩ := assigned
  case fps => exact { sound with fps := valueOf_forall readRate_range given }
  case ipf => exact { sound with ipf := valueOf_forall readRate_range given }
  case scale => exact { sound with scale := valueOf_forall readRate_range given }
  case pitch => exact { sound with pitch := valueOf_forall readPitch_range given }
  all_goals exact { sound with }

theorem assign_toggles (assigned : c.assign setting text = .ok next) :
    next.toggles = c.toggles := by
  cases setting <;> rw [assign, map_eq_ok] at assigned <;>
    obtain ⟨value, -, rfl⟩ := assigned <;> rfl

theorem turnOn_sound (flag : Flag) (sound : c.Sound) : (c.turnOn flag).Sound := by
  cases flag <;> exact { sound with }

theorem turnOn_toggles (c : Choices) (flag : Flag) :
    (c.turnOn flag).toggles = c.toggles ++ flag.toggle?.toList := by
  cases flag <;> simp [turnOn, Flag.toggle?]

end Choices

/-! ## Toggles on the line -/

def Switch.toggle? : Switch → Option Toggle
  | .flag f => f.toggle?
  | .setting _ => none

def Deed.toggle? : Deed → Option Toggle
  | .turnOn flag => flag.toggle?
  | .assign _ _ => none

def Token.toggle? : Token → Option Toggle
  | .switch s _ _ => s.toggle?
  | .value _ | .unknown _ => none

/-- The toggles that arguments ask for, one by one. -/
def togglesIn (argv : List String) : List Toggle :=
  (argv.takeWhile (· ≠ separator)).filterMap fun text =>
    match Token.classify text with
    | .ok token => token.toggle?
    | .error _ => none

theorem classifyAll_toggles {argv : List String} {line : Token.Line}
    (classified : Token.classifyAll argv = .ok line) :
    line.tokens.filterMap Token.toggle? = togglesIn argv := by
  induction argv generalizing line with
  | nil =>
    cases classified
    rfl
  | cons text rest ih =>
    rw [Token.classifyAll] at classified
    split at classified
    · next last =>
      cases classified
      simp [togglesIn, last]
    · next within =>
      rw [bind_eq_ok] at classified
      obtain ⟨token, known, classified⟩ := classified
      rw [bind_eq_ok] at classified
      obtain ⟨others, rest_classified, classified⟩ := classified
      cases classified
      have kept : (text :: rest).takeWhile (· ≠ separator) =
          text :: rest.takeWhile (· ≠ separator) :=
        List.takeWhile_cons_of_pos (decide_eq_true within)
      rw [togglesIn, kept, List.filterMap_cons, List.filterMap_cons, ih rest_classified, known]
      rfl

/-- No toggle has a short spelling, so none is bundled with another flag. -/
theorem toggle?_of_short {c : Char} {s : Switch}
    (named : Switch.ofSpelling? (String.ofList ['-', c]) = some s) : s.toggle? = none := by
  have long : ∀ entry ∈ Switch.table, entry.1.toList.length = 2 → entry.2.toggle? = none := by
    decide
  rw [Switch.ofSpelling?, List.lookup_eq_some_iff] at named
  obtain ⟨before, after, split, -⟩ := named
  have listed : (String.ofList ['-', c], s) ∈ Switch.table :=
    split ▸ List.mem_append_right before List.mem_cons_self
  exact long _ listed (by rw [String.toList_ofList]; rfl)

theorem unbundle_toggles {flag : Flag} {text : List Char} {u : Unfolded}
    (unbundled : unbundle flag text = .ok u) :
    u.deeds.filterMap Deed.toggle? = flag.toggle?.toList := by
  have single (flag : Flag) (rest : List Deed) (still : rest.filterMap Deed.toggle? = []) :
      (.turnOn flag :: rest).filterMap Deed.toggle? = flag.toggle?.toList := by
    cases toggle : flag.toggle? <;> simp [Deed.toggle?, toggle, still]
  induction text generalizing flag u with
  | nil =>
    cases unbundled
    exact single flag [] rfl
  | cons c rest ih =>
    rw [unbundle] at unbundled
    split at unbundled
    · cases unbundled
    · split at unbundled <;> cases unbundled <;> exact single flag _ rfl
    · next next named =>
      rw [bind_eq_ok] at unbundled
      obtain ⟨others, unbundled, collected⟩ := unbundled
      cases collected
      have short : next.toggle? = none := toggle?_of_short named
      exact single flag _ (by rw [ih unbundled, short]; rfl)

theorem unfoldSwitch_toggles {s : Switch} {spelling : String} {attached : Option String}
    {u : Unfolded} (unfolded : unfoldSwitch s spelling attached = .ok u) :
    u.deeds.filterMap Deed.toggle? = s.toggle?.toList := by
  rw [unfoldSwitch.eq_def] at unfolded
  split at unfolded
  · cases unfolded
    rfl
  · cases unfolded
    rfl
  · next f =>
    have alone : unbundle f [] = .ok u := unfolded
    exact unbundle_toggles alone
  · split at unfolded
    · exact unbundle_toggles unfolded
    · cases unfolded

namespace Draft

variable {all : List Toggle} {deeds : List Deed} {tokens : List Token} {d after : Draft}

/-- Deeds that wait for a value. -/
def waiting (d : Draft) : List Deed :=
  match d.mode with
  | .wanting deeds _ => deeds
  | .plain | .atProgram => []

theorem waiting_of_calm (calm : ∀ deeds setting, d.mode = .wanting deeds setting → False) :
    d.waiting = [] := by
  rw [waiting]
  split
  · next deeds setting wanting => exact (calm deeds setting wanting).elim
  · rfl
  · rfl

/-- All toggles of the line are those that are on, those of some deeds that are still to be
carried out, and those of the tokens to come. -/
structure Leads (all : List Toggle) (deeds : List Deed) (tokens : List Token) (d : Draft) :
    Prop where
  sound : d.choices.Sound
  toggles :
    d.choices.toggles ++ deeds.filterMap Deed.toggle? ++ tokens.filterMap Token.toggle? = all

theorem carryOut_leads {deed : Deed} (carried : d.carryOut deed = .ok after)
    (leads : Leads all (deed :: deeds) tokens d) :
    Leads all deeds tokens after ∧ after.mode = d.mode := by
  obtain ⟨sound, toggles⟩ := leads
  rw [carryOut.eq_def] at carried
  split at carried
  · cases carried
  · next flag _ =>
    cases carried
    refine ⟨⟨Choices.turnOn_sound flag sound, ?_⟩, rfl⟩
    rw [Choices.turnOn_toggles, ← toggles]
    cases toggle : flag.toggle? <;> simp [Deed.toggle?, toggle]
  · split at carried
    · next assigned =>
      cases carried
      refine ⟨⟨Choices.assign_sound assigned sound, ?_⟩, rfl⟩
      rw [Choices.assign_toggles assigned, ← toggles]
      rfl
    · cases carried

theorem carryOutAll_leads (carried : d.carryOutAll deeds = .ok after)
    (leads : Leads all deeds tokens d) : Leads all after.waiting tokens after := by
  let Holds (deeds : List Deed) (d : Draft) : Prop := Leads all deeds tokens d ∧ d.mode = .plain
  have round (deed : Deed) (rest : List Deed) (state next : Draft)
      (carried : state.carryOut deed = .ok next) (holds : Holds (deed :: rest) state) :
      Holds rest next := by
    obtain ⟨leads, mode⟩ := carryOut_leads carried holds.1
    exact ⟨leads, mode.trans holds.2⟩
  obtain ⟨done, plain⟩ : Holds [] after :=
    foldlM_invariant round carried ⟨⟨leads.sound, leads.toggles⟩, rfl⟩
  rwa [waiting, plain]

theorem advance_leads {token : Token} (advanced : d.advance token = .ok after)
    (leads : Leads all d.waiting (token :: tokens) d) : Leads all after.waiting tokens after := by
  obtain ⟨sound, toggles⟩ := leads
  rw [advance.eq_def] at advanced
  split at advanced
  · next deeds setting text wanting =>
    -- The value ends the wait, and is itself given to a setting, which turns no toggle on.
    rw [waiting, wanting] at toggles
    refine carryOutAll_leads advanced ⟨sound, ?_⟩
    rw [List.filterMap_append, ← toggles]
    simp only [List.append_assoc]
    rfl
  · cases advanced
  · next calm =>
    rw [waiting_of_calm calm] at toggles
    split at advanced <;> cases advanced <;> exact ⟨sound, toggles⟩
  · next calm =>
    rw [waiting_of_calm calm] at toggles
    cases advanced
    exact ⟨sound, toggles⟩
  · next s spelling attached calm =>
    rw [waiting_of_calm calm] at toggles
    split at advanced
    · cases advanced
    · next u unfolded =>
      have begun : Leads all u.deeds tokens d := by
        refine ⟨sound, ?_⟩
        rw [unfoldSwitch_toggles unfolded, ← toggles]
        cases toggle : s.toggle? <;> simp [Token.toggle?, toggle]
      split at advanced
      · exact carryOutAll_leads advanced begun
      · cases advanced
        exact ⟨begun.sound, begun.toggles⟩

theorem finish_choices {behind : Option (List String)} (finished : d.finish behind = .ok after) :
    after.choices = d.choices ∧ d.waiting = [] := by
  rw [finish.eq_def] at finished
  split at finished
  · cases finished
  · next calm =>
    cases finished
    exact ⟨rfl, waiting_of_calm calm⟩
  · next mode =>
    cases finished
    exact ⟨rfl, by rw [waiting, mode]⟩
  · next mode =>
    split at finished <;> cases finished <;> exact ⟨rfl, by rw [waiting, mode]⟩

end Draft

theorem ofLine_choices {line : Token.Line} {arguments : Arguments}
    (accepted : ofLine line = .ok arguments) :
    arguments.choices.Sound ∧
      arguments.choices.toggles = line.tokens.filterMap Token.toggle? := by
  rw [ofLine, bind_eq_ok] at accepted
  obtain ⟨read, advanced, accepted⟩ := accepted
  rw [bind_eq_ok] at accepted
  obtain ⟨finished, ended, accepted⟩ := accepted
  let Holds (tokens : List Token) (d : Draft) : Prop :=
    d.Leads (line.tokens.filterMap Token.toggle?) d.waiting tokens
  have start : Holds line.tokens {} := ⟨Choices.sound_default, rfl⟩
  have leads : Holds [] read :=
    foldlM_invariant (fun _ _ _ _ advanced => Draft.advance_leads advanced) advanced start
  obtain ⟨same, done⟩ := Draft.finish_choices ended
  split at accepted
  · cases accepted
  · split at accepted
    · cases accepted
      rw [same]
      refine ⟨leads.sound, ?_⟩
      simpa [done] using leads.toggles
    · cases accepted

/-! ## Configurations -/

namespace Choices

variable {c : Choices}

theorem dialect_get (c : Choices) (preset : Preset) (t : Toggle) :
    (c.dialect preset).get t = (preset.dialect.get t || decide (t ∈ c.toggles)) :=
  preset.dialect.get_foldl_set c.toggles t

/-- Colours are always in their range. -/
theorem colour_range (colour : Colour) :
    (0 : Int) ≤ colour.toNat ∧ (colour.toNat : Int) < 4294967296 := by
  have below := colour.toNat_lt
  omega

theorem exists_options (sound : c.Sound)
    (read : ∀ setting, setting ≠ .logLevel → c.isRead setting = true) :
    ∃ preset options,
      c.preset = some preset ∧ c.options = .ok options ∧ options.Sensible ∧
        options.dialect = c.dialect preset := by
  obtain ⟨preset, has_preset⟩ := Option.isSome_iff_exists.mp (read .preset nofun)
  obtain ⟨fps, has_fps⟩ := Option.isSome_iff_exists.mp (read .fps nofun)
  obtain ⟨ipf, has_ipf⟩ := Option.isSome_iff_exists.mp (read .ipf nofun)
  obtain ⟨scale, has_scale⟩ := Option.isSome_iff_exists.mp (read .scale nofun)
  obtain ⟨pitch, has_pitch⟩ := Option.isSome_iff_exists.mp (read .pitch nofun)
  obtain ⟨colour, has_colour⟩ := Option.isSome_iff_exists.mp (read .colour nofun)
  obtain ⟨background, has_background⟩ := Option.isSome_iff_exists.mp (read .background nofun)
  let asked : Config.Options :=
    { fps, ipf, scale, pitch, foreground := colour.toNat, background := background.toNat
      displayWait := c.displayWait, dialect := c.dialect preset }
  have made : c.options = .ok asked := by
    rw [options, has_preset, has_fps, has_ipf, has_scale, has_pitch, has_colour, has_background]
    rfl
  have sensible : asked.Sensible :=
    { fps := sound.fps fps has_fps
      ipf := sound.ipf ipf has_ipf
      scale := sound.scale scale has_scale
      pitch := sound.pitch pitch has_pitch
      foreground := colour_range colour
      background := colour_range background }
  exact ⟨preset, asked, has_preset, made, sensible, rfl⟩

end Choices

/-- The check of the program's length is the only one that can fail once there is a
configuration. -/
theorem load_error_iff {options : Config.Options} {config : Config}
    (checked : Config.ofOptions options = .ok config) (bytes : List UInt8) (random : ByteSource)
    (error : Program.LoadError) :
    Program.load bytes options random = .error error ↔
      error = .tooLarge ⟨bytes.length⟩ ∧ 3583 < bytes.length := by
  have longest : Memory.longestProgram = 3583 := rfl
  by_cases fits : bytes.length ≤ Memory.longestProgram
  · have loaded :
        Program.load bytes options random = .ok (.start ⟨bytes, fits⟩ config random) := by
      rw [Program.load, checked, Rom.ofBytes, dif_pos fits]
      rfl
    rw [loaded]
    refine ⟨nofun, fun refused => ?_⟩
    omega
  · have refused : Program.load bytes options random = .error (.tooLarge ⟨bytes.length⟩) := by
      rw [Program.load, checked, Rom.ofBytes, dif_neg fits]
      rfl
    rw [refused]
    refine ⟨?_, fun expected => expected.1 ▸ rfl⟩
    rintro ⟨⟩
    exact ⟨rfl, by omega⟩

/-- A line that is accepted makes a configuration, if the values that this takes have been read.
Loading a program with it can fail only for the length of the program. -/
theorem parse_configured {argv : List String} {arguments : Arguments}
    (accepted : parse argv = .ok arguments)
    (read : ∀ setting, setting ≠ .logLevel → arguments.choices.isRead setting = true) :
    ∃ preset options config,
      arguments.choices.preset = some preset ∧
      arguments.choices.options = .ok options ∧ options.Sensible ∧
      Config.ofOptions options = .ok config ∧ config.asked = options ∧
      (∀ t, config.dialect.get t = (preset.dialect.get t || decide (t ∈ togglesIn argv))) ∧
      (∀ toggles : List Toggle, (∀ t, t ∈ toggles ↔ t ∈ togglesIn argv) →
        config.dialect = toggles.foldl (·.set true ·) preset.dialect) ∧
      ∀ bytes random error,
        Program.load bytes options random = .error error ↔
          error = .tooLarge ⟨bytes.length⟩ ∧ 3583 < bytes.length := by
  rw [parse] at accepted
  split at accepted
  · cases accepted
  · next line classified =>
    obtain ⟨sound, toggles⟩ := ofLine_choices accepted
    rw [classifyAll_toggles classified] at toggles
    obtain ⟨preset, options, chosen, made, sensible, dialect⟩ :=
      Choices.exists_options sound read
    obtain ⟨config, checked, asked⟩ := Config.ofOptions_of_sensible sensible
    have same : config.dialect = arguments.choices.dialect preset := by
      rw [← dialect, ← asked]
      rfl
    have formula (t : Toggle) :
        config.dialect.get t = (preset.dialect.get t || decide (t ∈ togglesIn argv)) := by
      rw [same, Choices.dialect_get, toggles]
    refine ⟨preset, options, config, chosen, made, sensible, checked, asked, formula, ?_,
      load_error_iff checked⟩
    intro others alike
    apply Dialect.ext_get
    intro t
    rw [formula, Dialect.get_foldl_set, decide_eq_decide.mpr (alike t)]

/-- All five toggles are on, three of them by the preset, which comes between the other two. -/
theorem parse_configured_bundled :
    let argv := ["--wrap", "-df30", "--quirks", "cosmac_vip", "--jump", "-c", "#4294967295",
      "--pitch=20", "--", "rom.ch8"]
    ∃ arguments options config,
      parse argv = .ok arguments ∧ arguments.choices.options = .ok options ∧
      Config.ofOptions options = .ok config ∧ config.fps = 30 ∧ config.pitch = 20 ∧
      config.foreground = Colour.white ∧ ∀ t, config.dialect.get t = true := by
  intro argv
  let arguments : Arguments :=
    { program := "rom.ch8"
      choices :=
        { fps := some 30, pitch := some 20, colour := some Colour.white, displayWait := true
          preset := some .cosmacVip, toggles := [.wrapSprites, .jumpRegister] } }
  have accepted : parse argv = .ok arguments := rfl
  have read (setting : Setting) (_ : setting ≠ .logLevel) :
      arguments.choices.isRead setting = true := by
    cases setting <;> rfl
  obtain ⟨preset, options, config, chosen, made, -, checked, asked, toggled, -⟩ :=
    parse_configured accepted read
  cases chosen
  cases made
  refine ⟨arguments, _, config, accepted, rfl, checked, ?_, ?_, ?_, ?_⟩
  · exact Int.ofNat_inj.mp (congrArg Config.Options.fps asked)
  · exact Int.ofNat_inj.mp (congrArg Config.Options.pitch asked)
  · exact UInt32.toNat_inj.mp (Int.ofNat_inj.mp (congrArg Config.Options.foreground asked))
  · intro t
    rw [toggled]
    have line : togglesIn argv = [.wrapSprites, .jumpRegister] := rfl
    rw [line]
    cases t <;> rfl

end CommandLine

end Chip8
