import Chip8.Proofs.Emulator.Run
import Chip8.Proofs.Grid.Drawing
import Chip8.Proofs.Machine.Footprint

/-! Dialects. A toggle matters to the instructions that it is about, and to these only
where its two sides come apart (`Toggle.Matters`). Emulators that differ in nothing but
their dialects give the same answers and faults and go through the same states, as long
as no step that the one executes is sensitive to a toggle on which they differ
(`outcomes_eq_of_insensitive`). -/

namespace Chip8

/-- The instructions on which the two sides of a toggle come apart. -/
inductive Toggle.Matters (v : Registers) : Toggle → Instruction → Prop
  | resetFlag {operation : Operation} {x y : Register}
      (bitwise : operation = .or ∨ operation = .and ∨ operation = .xor) :
    Matters v .resetFlag (.combine operation x y)
  | shiftSource {operation : Operation} {x y : Register}
      (shift : operation = .shiftRight ∨ operation = .shiftLeft) (distinct : x ≠ y) :
    Matters v .shiftSource (.combine operation x y)
  | jumpRegister {target : Address} (distinct : Instruction.leadRegister target ≠ 0) :
    Matters v .jumpRegister (.jumpOffset target)
  | wrapSprites {x y : Register} {rows : Fin 16}
      (beyond : 64 < (v.read x).toNat % 64 + 8 ∨ 32 < (v.read y).toNat % 32 + rows.val) :
    Matters v .wrapSprites (.draw x y rows)
  | store {x : Register} : Matters v .advanceIndex (.store x)
  | load {x : Register} : Matters v .advanceIndex (.load x)

variable {d d₁ d₂ : Dialect}

/-! ## One instruction -/

theorem Operation.evaluate_congr {operation : Operation} {a b : UInt8}
    (bitwise : operation = .or ∨ operation = .and ∨ operation = .xor →
      d₁.resetFlag = d₂.resetFlag)
    (shift : operation = .shiftRight ∨ operation = .shiftLeft →
      a = b ∨ d₁.shiftSource = d₂.shiftSource) :
    operation.evaluate d₁ a b = operation.evaluate d₂ a b := by
  cases operation with
  | or | and | xor => simp [evaluate, bitwise]
  | shiftRight | shiftLeft =>
    rcases shift (by simp) with rfl | same
    · simp [evaluate]
    · simp [evaluate, same]
  | copy | add | subtract | subtractFrom => rfl

namespace Machine

variable {m : Machine}

/-- The machine as it would be under another dialect. -/
def speaking (m : Machine) (dialect : Dialect) : Machine := { m with dialect }

/-- A toggle matters to the instruction that the next step executes. -/
def Sensitive (m : Machine) (toggle : Toggle) : Prop :=
  ∃ instruction, m.AboutTo instruction ∧ toggle.Matters m.registers instruction

/-- No toggle on which two dialects differ matters to the next step. -/
def Indifferent (m : Machine) (d₁ d₂ : Dialect) : Prop :=
  ∀ toggle : Toggle, d₁.get toggle ≠ d₂.get toggle → ¬ m.Sensitive toggle

theorem combine_speaking {operation : Operation} {x y : Register}
    (same : ∀ toggle : Toggle, toggle.Matters m.registers (.combine operation x y) →
      m.dialect.get toggle = d.get toggle) :
    m.registers.combine d operation x y = m.registers.combine m.dialect operation x y := by
  have evaluated : operation.evaluate d (m.registers.read x) (m.registers.read y) =
      operation.evaluate m.dialect (m.registers.read x) (m.registers.read y) := by
    apply Operation.evaluate_congr
    · intro bitwise
      exact (same .resetFlag (.resetFlag bitwise)).symm
    · intro shift
      by_cases distinct : x = y
      · exact .inl (congrArg _ distinct)
      · exact .inr (same .shiftSource (.shiftSource shift distinct)).symm
  rw [Registers.combine, evaluated, Registers.combine]

theorem draw_speaking {x y : Register} {rows : Fin 16}
    (same : ∀ toggle : Toggle, toggle.Matters m.registers (.draw x y rows) →
      m.dialect.get toggle = d.get toggle) :
    let draw := m.screen.draw (m.registers.read x).toNat (m.registers.read y).toNat (m.sprite rows)
    draw d.wrapSprites = draw m.dialect.wrapSprites := by
  intro draw
  by_cases beyond :
      64 < (m.registers.read x).toNat % 64 + 8 ∨ 32 < (m.registers.read y).toNat % 32 + rows.val
  · have toggle : m.dialect.wrapSprites = d.wrapSprites := same .wrapSprites (.wrapSprites beyond)
    rw [toggle]
  · have across : ((m.registers.read x).toNat : Int) % (64 : Nat) + 8 ≤ (64 : Nat) := by omega
    have down : ((m.registers.read y).toNat : Int) % (32 : Nat) + (m.sprite rows).length ≤
        (32 : Nat) := by
      simp only [sprite, List.length_map, Memory.length_slice]
      omega
    have inside := m.screen.draw_of_inside across down
    exact (inside d.wrapSprites).trans (inside m.dialect.wrapSprites).symm

theorem skip_speaking (condition : Bool) :
    (m.speaking d).skip condition = (m.skip condition).speaking d := by
  cases condition <;> rfl

theorem effect_speaking {instruction : Instruction}
    (same : ∀ toggle : Toggle, toggle.Matters m.registers instruction →
      m.dialect.get toggle = d.get toggle) :
    (m.speaking d).effect instruction = (m.effect instruction).speaking d := by
  cases instruction with
  | combine operation x y =>
    exact congrArg (fun registers => { (m.speaking d).advance with registers })
      (combine_speaking same)
  | jumpOffset target =>
    by_cases lead : Instruction.leadRegister target = 0
    · simp only [effect, speaking, lead, ite_self]
      rfl
    · have toggle : m.dialect.jumpRegister = d.jumpRegister :=
        same .jumpRegister (.jumpRegister lead)
      simp only [effect, speaking, toggle]
      rfl
  | draw x y rows =>
    exact congrArg (fun drawn : Screen × Bool =>
      { (m.speaking d).advance with
        screen := drawn.1
        registers := m.registers.write flagRegister (if drawn.2 then 1 else 0) })
      (draw_speaking same)
  | store x =>
    have toggle : m.dialect.advanceIndex = d.advanceIndex := same .advanceIndex .store
    simp only [effect, speaking, indexPast, toggle]
    rfl
  | load x =>
    have toggle : m.dialect.advanceIndex = d.advanceIndex := same .advanceIndex .load
    simp only [effect, speaking, indexPast, toggle]
    rfl
  | skipIfByte | skipUnlessByte | skipIfEqual | skipUnlessEqual | skipIfPressed
  | skipUnlessPressed => exact skip_speaking _
  | awaitRelease x =>
    rw [effect_awaitRelease, effect_awaitRelease]
    rfl
  | _ => rfl

theorem hindrance_speaking (instruction : Instruction) :
    (m.speaking d).hindrance instruction = m.hindrance instruction := by
  cases instruction <;> rfl

/-- The dialect is settled at power-on. -/
theorem kept_dialect (d : Dialect) : Kept (·.dialect = d) where
  step m h := by
    have untouched (instruction : Instruction) : ¬ m.Touches instruction .dialect := nofun
    exact (step_frame .dialect (untouched m.current) nofun).trans h
  press _ _ h := h
  release _ _ h := h
  halt _ h := h
  tick _ h := h
  reset _ h := h

theorem speaking_unseen (d : Dialect) : Unseen (·.speaking d) where
  isHalted _ := rfl
  pc _ := rfl
  word _ := rfl
  remarks _ := rfl
  hindrance _ := hindrance_speaking
  halt _ := rfl
  remember _ _ := rfl
  advance _ := rfl

theorem step_speaking (spoken : m.dialect = d₁) (indifferent : m.Indifferent d₁ d₂) :
    (m.speaking d₂).step = m.step.mapState (·.speaking d₂) := by
  apply (speaking_unseen d₂).step
  intro next
  apply effect_speaking
  intro toggle matters
  by_contra differ
  exact indifferent toggle (spoken ▸ differ) ⟨m.current, next, matters⟩

end Machine

/-! ## Whole runs -/

namespace Emulator

variable {e : Emulator} {m : Machine}

def speaking (e : Emulator) (dialect : Dialect) : Emulator :=
  { e with config := { e.config with dialect }, machine := e.machine.speaking dialect }

theorem runBatch_speaking (displayWait : Bool) (budget done : Nat) (notes : Array Note)
    (spoken : m.dialect = d₁)
    (indifferent : ∀ s ∈ batchSteps displayWait budget m, s.Indifferent d₁ d₂) :
    runBatch displayWait budget done (m.speaking d₂) notes =
      (runBatch displayWait budget done m notes).mapState (·.speaking d₂) := by
  refine runBatch_map (f := (·.speaking d₂)) (fun _ => rfl) displayWait budget done notes ?_
  intro s taken
  have spoken : s.dialect = d₁ := (Machine.kept_dialect d₁).batchSteps spoken taken
  exact Machine.step_speaking spoken (indifferent s taken)

theorem runFrame_speaking (spoken : e.machine.dialect = d₁)
    (indifferent : ∀ s ∈ e.stepsOf .frame, s.Indifferent d₁ d₂) :
    (e.speaking d₂).runFrame = e.runFrame.mapState (·.speaking d₂) := by
  have batch : runBatch (e.speaking d₂).config.displayWait
      (e.speaking d₂).instructionsPerFrame.toNat 0 (e.speaking d₂).machine #[] = _ :=
    runBatch_speaking e.config.displayWait e.instructionsPerFrame.toNat 0 #[] spoken indifferent
  simp only [runFrame, batch, Outcome.mapState]
  split <;> rfl

theorem perform_speaking (spoken : e.machine.dialect = d₁) (command : Command)
    (indifferent : ∀ s ∈ e.stepsOf command, s.Indifferent d₁ d₂) :
    (e.speaking d₂).perform command = (e.perform command).mapState (·.speaking d₂) := by
  cases command with
  | step =>
    have stepped := Machine.step_speaking spoken (indifferent e.machine (by simp [stepsOf]))
    exact congrArg (fun o => perform.withoutAnswer ((e.speaking d₂).lift o)) stepped
  | frame =>
    have framed := runFrame_speaking spoken indifferent
    simp only [perform, framed]
    rfl
  | keyDown index =>
    simp only [perform, keyDown, Machine.keyDown]
    split <;> rfl
  | keyUp index =>
    simp only [perform, keyUp, Machine.keyUp]
    split <;> rfl
  | tick | reset | setSpeed => rfl

theorem outcomes_speaking (spoken : e.machine.dialect = d₁) (commands : List Command)
    (indifferent : ∀ s ∈ e.steps commands, s.Indifferent d₁ d₂) :
    (e.speaking d₂).outcomes commands =
      (e.outcomes commands).map (·.mapState (·.speaking d₂)) := by
  induction commands generalizing e with
  | nil => rfl
  | cons command rest ih =>
    simp only [steps_cons, List.mem_append, or_imp, forall_and] at indifferent
    have performed := perform_speaking spoken command indifferent.1
    have spoken := (Machine.kept_dialect d₁).perform spoken command
    simp only [outcomes, List.map_cons, performed]
    exact congrArg _ (ih spoken indifferent.2)

/-- The dialect of an emulator bears on a run through the steps that are sensitive to it alone. -/
theorem outcomes_eq_of_insensitive (rom : Rom) (config : Config) (random : ByteSource)
    (d₁ d₂ : Dialect) (commands : List Command)
    (insensitive : ∀ m ∈ (start rom { config with dialect := d₁ } random).steps commands,
      ∀ toggle : Toggle, d₁.get toggle ≠ d₂.get toggle → ¬ m.Sensitive toggle) :
    (start rom { config with dialect := d₂ } random).outcomes commands =
      ((start rom { config with dialect := d₁ } random).outcomes commands).map
        (·.mapState (·.speaking d₂)) := by
  have spoken : (start rom { config with dialect := d₁ } random).machine.dialect = d₁ := rfl
  exact outcomes_speaking spoken commands insensitive

/-- A shift in place and a sprite within the edges come out alike in every dialect. -/
theorem outcomes_of_shift_in_place :
    let rom : Rom := ⟨[0x81, 0x16, 0xD0, 0x15, 0x12, 0x00], by decide⟩
    let commands := [.step, .keyDown 3, .step, .tick, .step]
    let plain := start rom { Config.standard with dialect := {} } (.cycle #[])
    let extreme : Dialect := ⟨true, true, true, true, true⟩
    let strange := start rom { Config.standard with dialect := extreme } (.cycle #[])
    strange.outcomes commands =
      (plain.outcomes commands).map (·.mapState (·.speaking extreme)) := by
  intro rom commands plain extreme strange
  have possible : ∀ m ∈ plain.steps commands,
      m.current ∈ [.combine .shiftRight 1 1, .draw 0 1 5, .jump 0x200] ∧
        m.registers.read 0 = 0 ∧ m.registers.read 1 = 0 := by
    decide +kernel
  apply outcomes_eq_of_insensitive rom .standard (.cycle #[]) {} extreme commands
  rintro m taken toggle - ⟨instruction, next, matters⟩
  obtain ⟨fetched, left, top⟩ := possible m taken
  rw [next.fetched] at fetched
  cases matters with
  | @wrapSprites x y rows beyond =>
    obtain ⟨rfl, rfl, rfl⟩ : x = 0 ∧ y = 1 ∧ rows = 5 := by simpa using fetched
    rw [left, top] at beyond
    exact absurd beyond (by decide)
  | _ => simp_all

end Emulator

end Chip8
