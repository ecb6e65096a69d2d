import Chip8.Emulator

/-! Runs of an emulator: commands one after the other, whether they fault or not. A run
takes its steps, those inside its frames included, each in some state of the machine;
these states in order are its history. What every change of a machine keeps is kept by
whole runs (`Kept.after`), and what a step carries over to the history that it prolongs
holds all along a run without a reset (`Followed.after`, `Followed.during`). -/

namespace Chip8

/-- An entry of a list that has just grown is the new one, or it was there before. -/
theorem split_of_concat {α : Type} {entries before later : List α} {last entry : α}
    (split : entries ++ [last] = before ++ entry :: later) :
    (before = entries ∧ entry = last) ∨ ∃ rest, entries = before ++ entry :: rest := by
  rcases List.eq_nil_or_concat later with rfl | ⟨rest, final, rfl⟩
  · obtain ⟨rfl, same⟩ := List.append_inj' split rfl
    cases same
    exact .inl ⟨rfl, rfl⟩
  · have split : entries ++ [last] = (before ++ entry :: rest) ++ [final] := by simpa using split
    exact .inr ⟨rest, (List.append_inj' split rfl).1⟩

/-- What is to be shown of a property of a machine and the states in which it has taken
its steps, for it to hold all along a run that does not reset the machine. -/
structure Machine.Followed (P : List Machine → Machine → Prop) : Prop where
  step : ∀ (past : List Machine) (m : Machine), P past m → P (past ++ [m]) m.step.state
  press : ∀ (past : List Machine) (m : Machine) (key : Key), P past m → P past (m.press key)
  release : ∀ (past : List Machine) (m : Machine) (key : Key), P past m → P past (m.release key)
  halt : ∀ (past : List Machine) (m : Machine), P past m → P past { m with isHalted := true }
  tick : ∀ (past : List Machine) (m : Machine), P past m → P past m.tick

/-- What is to be shown of a property for it to outlast a run. -/
structure Machine.Kept (P : Machine → Prop) : Prop where
  step : ∀ m : Machine, P m → P m.step.state
  press : ∀ (m : Machine) (key : Key), P m → P (m.press key)
  release : ∀ (m : Machine) (key : Key), P m → P (m.release key)
  halt : ∀ m : Machine, P m → P { m with isHalted := true }
  tick : ∀ m : Machine, P m → P m.tick
  reset : ∀ m : Machine, P m → P m.reset

namespace Emulator

/-- The emulator once it has been told a list of things. -/
def after (e : Emulator) (commands : List Command) : Emulator :=
  commands.foldl (fun e command => (e.perform command).state) e

/-- What comes of a list of commands, one by one. -/
def outcomes (e : Emulator) : List Command → List (Outcome Emulator (Option Int))
  | [] => []
  | command :: rest => e.perform command :: (e.perform command).state.outcomes rest

/-- The faults that commands run into. -/
def faults (e : Emulator) (commands : List Command) : List Fault :=
  (e.outcomes commands).filterMap fun o =>
    match o.result with
    | .error fault => some fault
    | .ok _ => none

/-- The states in which a batch takes its steps. -/
def batchSteps (displayWait : Bool) (budget : Nat) (m : Machine) : List Machine :=
  match budget with
  | 0 => []
  | budget + 1 =>
    m :: match m.step.result with
      | .error _ => []
      | .ok () =>
        if displayWait && m.step.state.last.any Instruction.isDraw then []
        else batchSteps displayWait budget m.step.state

/-- The states in which a command takes its steps. -/
def stepsOf (e : Emulator) : Command → List Machine
  | .step => [e.machine]
  | .frame => batchSteps e.config.displayWait e.instructionsPerFrame.toNat e.machine
  | _ => []

/-- The history of a list of commands. -/
def steps (e : Emulator) : List Command → List Machine
  | [] => []
  | command :: rest => e.stepsOf command ++ (e.perform command).state.steps rest

variable (e : Emulator)

@[simp] theorem after_nil : e.after [] = e := rfl

@[simp] theorem after_cons (command : Command) (rest : List Command) :
    e.after (command :: rest) = (e.perform command).state.after rest := rfl

theorem after_append (commands more : List Command) :
    e.after (commands ++ more) = (e.after commands).after more := List.foldl_append

theorem perform_keyDown (key : Key) :
    e.perform (.keyDown key.val) = .ok (e.press key) none := by
  simp only [perform, keyDown, Machine.keyDown, Key.ofInt?_val]
  rfl

theorem perform_keyUp (key : Key) :
    e.perform (.keyUp key.val) =
      { state := e.release key, result := .ok none
        notes := e.machine.keypad.releaseNotes key } := by
  simp only [perform, keyUp, Machine.keyUp, Key.ofInt?_val]
  rfl

theorem outcomes_append (commands more : List Command) :
    e.outcomes (commands ++ more) = e.outcomes commands ++ (e.after commands).outcomes more := by
  induction commands generalizing e with
  | nil => rfl
  | cons command rest ih => simp [outcomes, ih]

@[simp] theorem steps_nil : e.steps [] = [] := rfl

@[simp] theorem steps_cons (command : Command) (rest : List Command) :
    e.steps (command :: rest) = e.stepsOf command ++ (e.perform command).state.steps rest := rfl

/-- A batch passes a change of the machine on as long as each of its steps does. -/
theorem runBatch_map {f : Machine → Machine} (last : ∀ m, (f m).last = m.last)
    (displayWait : Bool) (budget done : Nat) {m : Machine} (notes : Array Note)
    (stepped : ∀ s ∈ batchSteps displayWait budget m, (f s).step = s.step.mapState f) :
    runBatch displayWait budget done (f m) notes =
      (runBatch displayWait budget done m notes).mapState f := by
  induction budget generalizing done m notes with
  | zero => rfl
  | succ budget ih =>
    simp only [batchSteps, List.mem_cons, forall_eq_or_imp] at stepped
    obtain ⟨first, rest⟩ := stepped
    simp only [runBatch, first, Outcome.mapState, last]
    cases result : m.step.result with
    | error => rfl
    | ok =>
      simp only [result] at rest ⊢
      by_cases ended : (displayWait && m.step.state.last.any Instruction.isDraw) = true
      · rw [if_pos ended, if_pos ended]
      · rw [if_neg ended] at rest
        rw [if_neg ended, if_neg ended]
        exact ih _ _ rest

/-- What each step carries over to the steps that it prolongs, a batch carries over. -/
theorem runBatch_follows {P : List Machine → Machine → Prop}
    (step : ∀ (past : List Machine) (m : Machine), P past m → P (past ++ [m]) m.step.state)
    (displayWait : Bool) (budget done : Nat) {past : List Machine} {m : Machine}
    (notes : Array Note) (h : P past m) :
    P (past ++ batchSteps displayWait budget m)
      (runBatch displayWait budget done m notes).state := by
  induction budget generalizing done past m notes with
  | zero => rwa [batchSteps, List.append_nil]
  | succ budget ih =>
    have stepped := step past m h
    simp only [runBatch, batchSteps]
    cases m.step.result with
    | error => exact stepped
    | ok =>
      simp only
      split
      · exact stepped
      · rw [List.append_cons]
        exact ih _ _ stepped

/-! ## Faults of a run -/

theorem faults_append (commands more : List Command) :
    e.faults (commands ++ more) = e.faults commands ++ (e.after commands).faults more := by
  rw [faults, outcomes_append, List.filterMap_append]
  rfl

variable {e} in
theorem faults_of_ok {command : Command} {answer : Option Int}
    (ok : (e.perform command).result = .ok answer) : e.faults [command] = [] := by
  simp [faults, outcomes, ok]

variable {e} in
theorem faults_of_error {command : Command} {fault : Fault}
    (error : (e.perform command).result = .error fault) : e.faults [command] = [fault] := by
  simp [faults, outcomes, error]

theorem runBatch_error_iff (displayWait : Bool) (budget done : Nat) (m : Machine)
    (notes : Array Note) (fault : Fault) :
    (runBatch displayWait budget done m notes).result = .error fault ↔
      ∃ s ∈ batchSteps displayWait budget m, s.step.result = .error fault := by
  induction budget generalizing done m notes with
  | zero => simp [runBatch, batchSteps]
  | succ budget ih =>
    cases result : m.step.result with
    | error => simp [runBatch, batchSteps, result]
    | ok =>
      simp only [runBatch, batchSteps, result]
      split
      · simp [result]
      · simp [ih, result]

/-- A frame faults just as one of its steps does. -/
theorem runFrame_error_iff (fault : Fault) :
    e.runFrame.result = .error fault ↔ ∃ s ∈ e.stepsOf .frame, s.step.result = .error fault := by
  rw [stepsOf, ← runBatch_error_iff _ _ 0 _ #[], runFrame]
  split <;> simp_all

/-- But for a key that does not exist, a command faults just as one of its steps does. -/
theorem perform_error_iff (command : Command) {fault : Fault}
    (key : ∀ index, fault ≠ .noKey index) :
    (e.perform command).result = .error fault ↔
      ∃ s ∈ e.stepsOf command, s.step.result = .error fault := by
  cases command with
  | step =>
    cases result : e.machine.step.result <;>
      simp [perform, perform.withoutAnswer, step, lift, stepsOf, Except.map, result]
  | frame =>
    rw [← runFrame_error_iff]
    cases result : e.runFrame.result <;> simp [perform, Functor.map, Except.map, result]
  | keyDown index =>
    cases asked : Key.ofInt? index <;>
      simp [perform, perform.withoutAnswer, keyDown, lift, stepsOf, Machine.keyDown, Machine.halt,
        Outcome.ok, Except.map, asked]
    exact (key index).symm
  | keyUp index =>
    cases asked : Key.ofInt? index <;>
      simp [perform, perform.withoutAnswer, keyUp, lift, stepsOf, Machine.keyUp, Machine.halt,
        Except.map, asked]
    exact (key index).symm
  | tick | reset | setSpeed => simp [perform, stepsOf, Outcome.ok]

end Emulator

namespace Machine

variable {P : List Machine → Machine → Prop} {e : Emulator}

namespace Followed

theorem keyDown (followed : Followed P) {past : List Machine} {m : Machine} (h : P past m)
    (index : Int) : P past (m.keyDown index).state := by
  rw [keyDown_state]
  split
  · exact followed.press past m _ h
  · exact followed.halt past m h

theorem keyUp (followed : Followed P) {past : List Machine} {m : Machine} (h : P past m)
    (index : Int) : P past (m.keyUp index).state := by
  rw [keyUp_state]
  split
  · exact followed.release past m _ h
  · exact followed.halt past m h

theorem runBatch (followed : Followed P) (displayWait : Bool) (budget done : Nat)
    {past : List Machine} {m : Machine} (notes : Array Note) (h : P past m) :
    P (past ++ Emulator.batchSteps displayWait budget m)
      (Emulator.runBatch displayWait budget done m notes).state :=
  Emulator.runBatch_follows followed.step displayWait budget done notes h

theorem runFrame (followed : Followed P) (past : List Machine) (h : P past e.machine) :
    P (past ++ e.stepsOf .frame) e.runFrame.state.machine := by
  have batch := followed.runBatch e.config.displayWait e.instructionsPerFrame.toNat 0 #[] h
  simp only [Emulator.runFrame]
  split
  · exact batch
  · exact followed.tick _ _ batch

theorem perform (followed : Followed P) (past : List Machine) (h : P past e.machine)
    {command : Emulator.Command} (calm : command ≠ .reset) :
    P (past ++ e.stepsOf command) (e.perform command).state.machine := by
  cases command with
  | step => exact followed.step past _ h
  | frame => exact followed.runFrame past h
  | reset => exact absurd rfl calm
  | keyDown index => exact (List.append_nil past).symm ▸ followed.keyDown h index
  | keyUp index => exact (List.append_nil past).symm ▸ followed.keyUp h index
  | tick => exact (List.append_nil past).symm ▸ followed.tick past _ h
  | setSpeed => exact (List.append_nil past).symm ▸ h

theorem after (followed : Followed P) {past : List Machine} (h : P past e.machine)
    {commands : List Emulator.Command} (calm : .reset ∉ commands) :
    P (past ++ e.steps commands) (e.after commands).machine := by
  induction commands generalizing e past with
  | nil => simpa using h
  | cons command rest ih =>
    rw [List.mem_cons, not_or] at calm
    have performed := followed.perform past h (Ne.symm calm.1)
    simpa using ih performed calm.2

/-- A property holds of a machine, and did so in each state in which it took a step. -/
def Throughout (P : List Machine → Machine → Prop) (past : List Machine) (m : Machine) : Prop :=
  P past m ∧ ∀ before s later, past = before ++ s :: later → P before s

theorem Throughout.split {past : List Machine} {m : Machine} (h : Throughout P past m)
    (before : List Machine) (s : Machine) (later : List Machine)
    (taken : past ++ [m] = before ++ s :: later) : P before s := by
  rcases split_of_concat taken with ⟨rfl, rfl⟩ | ⟨rest, found⟩
  · exact h.1
  · exact h.2 before s rest found

theorem throughout (followed : Followed P) : Followed (Throughout P) where
  step past m h := ⟨followed.step past m h.1, h.split⟩
  press past m key h := ⟨followed.press past m key h.1, h.2⟩
  release past m key h := ⟨followed.release past m key h.1, h.2⟩
  halt past m h := ⟨followed.halt past m h.1, h.2⟩
  tick past m h := ⟨followed.tick past m h.1, h.2⟩

theorem afresh (followed : Followed P) (past : List Machine) :
    Followed fun recent m => P (past ++ recent) m where
  step recent m h := List.append_assoc past recent [m] ▸ followed.step _ m h
  press _ := followed.press _
  release _ := followed.release _
  halt _ := followed.halt _
  tick _ := followed.tick _

/-- The property holds already in each of the states in which a command takes a step. -/
theorem during (followed : Followed P) {past before later : List Machine} {m : Machine}
    (h : P past e.machine) {command : Emulator.Command}
    (taken : e.stepsOf command = before ++ m :: later) : P (past ++ before) m := by
  have calm : command ≠ .reset := by
    rintro rfl
    simp [Emulator.stepsOf] at taken
  have start : Throughout (fun recent m => P (past ++ recent) m) [] e.machine := by
    simpa [Throughout] using h
  exact ((followed.afresh past).throughout.perform [] start calm).2 before m later taken

end Followed

namespace Kept

variable {P : Machine → Prop}

theorem followed (kept : Kept P) : Followed fun _ m => P m where
  step _ := kept.step
  press _ := kept.press
  release _ := kept.release
  halt _ := kept.halt
  tick _ := kept.tick

theorem batchSteps (kept : Kept P) {m s : Machine} (h : P m) {displayWait : Bool} {budget : Nat}
    (taken : s ∈ Emulator.batchSteps displayWait budget m) : P s := by
  have start : Followed.Throughout (fun _ m => P m) [] m := ⟨h, by simp⟩
  have all := (kept.followed.throughout.runBatch displayWait budget 0 #[] start).2
  obtain ⟨before, later, split⟩ := List.append_of_mem taken
  exact all before s later split

theorem perform (kept : Kept P) (h : P e.machine) (command : Emulator.Command) :
    P (e.perform command).state.machine := by
  by_cases reset : command = .reset
  · subst reset
    exact kept.reset _ h
  · exact kept.followed.perform [] h reset

theorem after (kept : Kept P) (h : P e.machine) (commands : List Emulator.Command) :
    P (e.after commands).machine := by
  induction commands generalizing e with
  | nil => exact h
  | cons command rest ih => exact ih (kept.perform h command)

end Kept

end Machine

end Chip8
