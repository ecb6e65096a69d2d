import Chip8.Machine.Effect

/-! Steps and events. A step is one cycle. A fault, also one that an event from outside
causes, halts the machine as it then is; a halted machine refuses every step until it
is reset. -/

namespace Chip8.Machine

def halt (m : Machine) (fault : Fault) (notes : Array Note) : Outcome Machine Unit where
  state := { m with isHalted := true }
  result := .error fault
  notes := notes.push (.stopped fault)

/-- What there is to say about the instruction that the next step carries out. -/
def remarks (m : Machine) : Array Note :=
  if 4095 ≤ m.pc then #[]
  else match m.current with
    | .unknown word => #[.unknownWord word m.pc]
    | .awaitRelease _ => m.keypad.pollNotes
    | _ => #[]

def step (m : Machine) : Outcome Machine Unit :=
  if m.isHalted then { state := m, result := .error (.halted m.pc) }
  else
    match ended : cycle.run m with
    | .ok () state => { state, result := .ok (), notes := m.remarks }
    | .error (.fault fault) state => state.halt fault m.remarks
    | .error (.breach breach) state => absurd ended (m.cycle_ne_breach breach state)

variable {m : Machine}

theorem step_of_cycle_ok {state : Machine} (running : m.isHalted = false)
    (ended : cycle.run m = .ok () state) :
    m.step = { state, result := .ok (), notes := m.remarks } := by
  rw [step, if_neg (by simp [running])]
  split <;> simp_all

theorem step_of_cycle_fault {state : Machine} {fault : Fault} (running : m.isHalted = false)
    (ended : cycle.run m = .error (.fault fault) state) :
    m.step = state.halt fault m.remarks := by
  rw [step, if_neg (by simp [running])]
  split <;> simp_all

theorem step_of_halted (halted : m.isHalted = true) :
    m.step = { state := m, result := .error (.halted m.pc) } := by
  rw [step, if_pos halted]

theorem step_of_outside (running : m.isHalted = false) (outside : 4095 ≤ m.pc) :
    m.step = m.halt (.counterOutside m.pc) #[] := by
  have ended : cycle.run m = .error (.fault (.counterOutside m.pc)) m := by
    rw [run_cycle, if_pos outside]
  rw [step_of_cycle_fault running ended, remarks, if_pos outside]

theorem step_of_hindered {fault : Fault} (running : m.isHalted = false) (inside : m.pc < 4095)
    (hindered : m.hindrance m.current = some fault) :
    m.step = (m.remember m.current).advance.halt fault m.remarks := by
  apply step_of_cycle_fault running
  rw [run_cycle, if_neg (by omega), hindered]

theorem step_of_free (running : m.isHalted = false) (inside : m.pc < 4095)
    (free : m.hindrance m.current = none) :
    m.step =
      { state := (m.remember m.current).effect m.current, result := .ok ()
        notes := m.remarks } := by
  apply step_of_cycle_ok running
  rw [run_cycle, if_neg (by omega), free]

/-- The four ways in which a step can go. -/
inductive Stepped (m : Machine) : Outcome Machine Unit → Prop
  | refused (halted : m.isHalted = true) :
    Stepped m { state := m, result := .error (.halted m.pc) }
  | lost (running : m.isHalted = false) (outside : 4095 ≤ m.pc) :
    Stepped m (m.halt (.counterOutside m.pc) #[])
  | hindered {fault : Fault} (running : m.isHalted = false) (inside : m.pc < 4095)
      (hindered : m.hindrance m.current = some fault) :
    Stepped m ((m.remember m.current).advance.halt fault m.remarks)
  | done (running : m.isHalted = false) (inside : m.pc < 4095)
      (free : m.hindrance m.current = none) :
    Stepped m
      { state := (m.remember m.current).effect m.current, result := .ok (), notes := m.remarks }

theorem stepped (m : Machine) : m.Stepped m.step := by
  cases running : m.isHalted with
  | true => exact step_of_halted running ▸ .refused running
  | false =>
    by_cases outside : 4095 ≤ m.pc
    · exact step_of_outside running outside ▸ .lost running outside
    · have inside : m.pc < 4095 := by omega
      cases hindered : m.hindrance m.current with
      | some fault =>
        exact step_of_hindered running inside hindered ▸ .hindered running inside hindered
      | none => exact step_of_free running inside hindered ▸ .done running inside hindered

def press (m : Machine) (key : Key) : Machine := { m with keypad := m.keypad.press key }

def release (m : Machine) (key : Key) : Machine := { m with keypad := m.keypad.release key }

/-- The event that a key goes down, for a key that may not exist. -/
def keyDown (m : Machine) (index : Int) : Outcome Machine Unit :=
  match Key.ofInt? index with
  | some key => .ok (m.press key) ()
  | none => m.halt (.noKey index) #[]

/-- The event that a key comes up, for a key that may not exist. -/
def keyUp (m : Machine) (index : Int) : Outcome Machine Unit :=
  match Key.ofInt? index with
  | some key => { state := m.release key, result := .ok (), notes := m.keypad.releaseNotes key }
  | none => m.halt (.noKey index) #[]

theorem keyDown_state (m : Machine) (index : Int) :
    (m.keyDown index).state =
      match Key.ofInt? index with
      | some key => m.press key
      | none => { m with isHalted := true } := by
  rw [keyDown]
  cases Key.ofInt? index <;> rfl

theorem keyUp_state (m : Machine) (index : Int) :
    (m.keyUp index).state =
      match Key.ofInt? index with
      | some key => m.release key
      | none => { m with isHalted := true } := by
  rw [keyUp]
  cases Key.ofInt? index <;> rfl

end Chip8.Machine
