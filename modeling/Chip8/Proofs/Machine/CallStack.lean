import Chip8.Proofs.Machine.Faults
import Chip8.Proofs.Machine.Safety

/-! The call stack. A return answers the innermost call that is still open, so between a
call and its return all calls and returns pair off (`Paired`). Which calls are open is a
matter of the calls and returns that a run has completed (`StillOpen`); the stack holds
just these, it overflows and runs empty just where there are sixteen of them and none,
and every return goes on behind the call that it answers (`stack_of_run`). -/

namespace Chip8.CallStack

/-- A completed call with its address, or a completed return with the address at which
the program goes on. -/
inductive Passage
  | call (site : Nat)
  | ret (target : Nat)
deriving DecidableEq, Repr

/-- Every call has its return and every return its call. -/
inductive Paired : List Passage → Prop
  | nil : Paired []
  | pair {inner rest : List Passage} (site target : Nat) (inside : Paired inner)
      (after : Paired rest) : Paired (.call site :: inner ++ .ret target :: rest)

/-- The addresses of the calls that no return has answered, the oldest first. -/
inductive StillOpen : List Passage → List Nat → Prop
  | none {history : List Passage} (paired : Paired history) : StillOpen history []
  | call {before history : List Passage} {sites : List Nat} (site : Nat) (paired : Paired before)
      (rest : StillOpen history sites) : StillOpen (before ++ .call site :: history) (site :: sites)

variable {history inner : List Passage} {sites stack last : List Nat}

theorem Paired.append {first second : List Passage} (one : Paired first) (two : Paired second) :
    Paired (first ++ second) := by
  induction one with
  | nil => exact two
  | pair site target inside _ _ ih => simpa using Paired.pair site target inside ih

namespace StillOpen

theorem append_call (opened : StillOpen history sites) (site : Nat) :
    StillOpen (history ++ [.call site]) (sites ++ [site]) := by
  induction opened with
  | none paired => exact .call site paired (.none .nil)
  | call older paired _ ih => simpa using StillOpen.call older paired ih

/-- A return answers the youngest of the open calls. -/
theorem append_ret {site : Nat} (opened : StillOpen history (sites ++ [site])) (target : Nat) :
    StillOpen (history ++ [.ret target]) sites := by
  generalize all : sites ++ [site] = found at opened
  induction opened generalizing sites with
  | none => simp at all
  | @call before history found older paired rest ih =>
    cases sites with
    | nil =>
      obtain ⟨rfl, rfl⟩ : site = older ∧ [] = found := by simpa using all
      cases rest with
      | none inside =>
        have closed := paired.append (.pair site target inside .nil)
        exact .none (by simpa using closed)
    | cons oldest younger =>
      obtain ⟨rfl, rfl⟩ : oldest = older ∧ younger ++ [site] = found := by simpa using all
      simpa using StillOpen.call oldest paired (ih rfl)

end StillOpen

/-! ## Replaying a history -/

/-- What the passages make of a stack, the innermost call first, if every return goes on
behind the call that it takes from there. -/
def replay (stack : List Nat) : List Passage → Option (List Nat)
  | [] => some stack
  | .call site :: rest => replay (site :: stack) rest
  | .ret target :: rest =>
    match stack with
    | [] => none
    | site :: callers => if target = site + 2 then replay callers rest else none

theorem replay_append (stack : List Nat) (first second : List Passage) :
    replay stack (first ++ second) = (replay stack first).bind (replay · second) := by
  fun_induction replay stack first with
  | case1 => rfl
  | case2 stack site rest ih => exact ih
  | case3 => rfl
  | case4 rest site callers ih => simpa [replay] using ih
  | case5 target rest site callers astray => simp [replay, astray]

/-- Passages that pair off leave the stack as it was. -/
theorem Paired.replay_eq {rest : List Passage} (paired : Paired inner)
    (replayed : replay stack (inner ++ rest) = some last) : replay stack rest = some last := by
  induction paired generalizing stack rest with
  | nil => exact replayed
  | pair site target inside after ihInside ihAfter =>
    have answered : replay (site :: stack) (.ret target :: (_ ++ rest)) = some last :=
      ihInside (by simpa [replay] using replayed)
    simp only [replay] at answered
    split at answered
    · exact ihAfter answered
    · cases answered

theorem StillOpen.of_replay {past : List Passage} (opened : StillOpen past stack.reverse)
    (replayed : replay stack history = some last) : StillOpen (past ++ history) last.reverse := by
  fun_induction replay stack history generalizing past with
  | case1 => simp_all
  | case2 stack site rest ih =>
    rw [List.append_cons]
    exact ih (by simpa using opened.append_call site) replayed
  | case3 => cases replayed
  | case4 rest site callers ih =>
    rw [List.reverse_cons] at opened
    rw [List.append_cons]
    exact ih (opened.append_ret (site + 2)) replayed
  | case5 => cases replayed

theorem StillOpen.eq_of_replay (opened : StillOpen history sites)
    (replayed : replay stack history = some last) : last = sites.reverse ++ stack := by
  induction opened generalizing stack with
  | none paired =>
    have done : replay stack [] = some last := paired.replay_eq (by simpa using replayed)
    exact (Option.some.inj done).symm
  | @call before history sites site paired _ ih =>
    have called := paired.replay_eq replayed
    rw [replay] at called
    simpa using ih called

theorem stillOpen_iff (replayed : replay [] history = some stack) :
    StillOpen history sites ↔ sites = stack.reverse := by
  constructor
  · intro opened
    simp [opened.eq_of_replay replayed]
  · rintro rfl
    have opened : StillOpen [] [].reverse := .none .nil
    exact opened.of_replay replayed

theorem target_of_replay {before later : List Passage} {site target : Nat}
    (replayed : replay stack (before ++ .call site :: inner ++ .ret target :: later) = some last)
    (paired : Paired inner) : target = site + 2 := by
  rw [List.append_assoc, replay_append] at replayed
  obtain ⟨reached, _, replayed⟩ := Option.bind_eq_some_iff.mp replayed
  have answered : replay (site :: reached) (.ret target :: later) = some last :=
    paired.replay_eq replayed
  simp only [replay] at answered
  split at answered
  · assumption
  · cases answered

/-! ## The machine -/

variable {m : Machine} {past : List Machine}

/-- The call or return that the next step completes. -/
def passage? (m : Machine) : Option Passage :=
  match m.step.result, m.current with
  | .ok (), .call _ => some (.call m.pc)
  | .ok (), .ret => some (.ret m.step.state.pc)
  | _, _ => none

def passages (history : List Machine) : List Passage := history.filterMap passage?

theorem replay_passage (m : Machine) :
    replay m.stack (passage? m).toList = some m.step.state.stack := by
  have stepped := m.stepped
  rw [passage?]
  generalize m.step = outcome at stepped
  cases stepped with
  | refused | lost | hindered => rfl
  | done _ _ free =>
    dsimp only
    rw [Machine.effect_stack]
    cases current : m.current with
    | call target => rfl
    | ret =>
      rw [current] at free
      cases stack : m.stack with
      | nil => simp [Machine.hindrance, stack] at free
      | cons site callers => simp [replay, Machine.effect, Machine.remember, stack]
    | _ => rfl

/-- The stack is what the history leaves. -/
structure Recorded (past : List Machine) (m : Machine) : Prop where
  bounded : m.Bounded
  replayed : replay [] (passages past) = some m.stack

theorem followed_recorded : Machine.Followed Recorded where
  step past m h := by
    refine ⟨h.bounded.step, ?_⟩
    have split : passages (past ++ [m]) = passages past ++ (passage? m).toList := by
      rw [passages, List.filterMap_append]
      cases found : passage? m <;> simp [passages, found]
    rw [split, replay_append, h.replayed]
    exact replay_passage m
  press _ _ _ h := ⟨h.bounded.of_eq rfl rfl, h.replayed⟩
  release _ _ _ h := ⟨h.bounded.of_eq rfl rfl, h.replayed⟩
  halt _ _ h := ⟨h.bounded.of_eq rfl rfl, h.replayed⟩
  tick _ _ h := ⟨h.bounded.of_eq rfl rfl, h.replayed⟩

theorem Recorded.stackFull_iff (recorded : Recorded past m) :
    (∃ pc, m.step.result = .error (.stackFull pc)) ↔
      (∃ target, m.AboutTo (.call target)) ∧
        ∃ sites, StillOpen (passages past) sites ∧ sites.length = 16 := by
  simp only [stillOpen_iff recorded.replayed, exists_eq_left, List.length_reverse]
  constructor
  · rintro ⟨pc, faulted⟩
    cases Machine.step_due recorded.bounded.depth_le faulted with
    | stackFull next depth => exact ⟨⟨_, next⟩, depth⟩
  · rintro ⟨⟨target, next⟩, depth⟩
    exact ⟨m.pc, (Machine.Due.stackFull next depth).step_error⟩

theorem Recorded.stackEmpty_iff (recorded : Recorded past m) :
    (∃ pc, m.step.result = .error (.stackEmpty pc)) ↔
      m.AboutTo .ret ∧ StillOpen (passages past) [] := by
  rw [stillOpen_iff recorded.replayed]
  constructor
  · rintro ⟨pc, faulted⟩
    cases Machine.step_due recorded.bounded.depth_le faulted with
    | stackEmpty next depth => exact ⟨next, by simpa using depth⟩
  · rintro ⟨next, depth⟩
    exact ⟨m.pc, (Machine.Due.stackEmpty next (by simp_all)).step_error⟩

/-- A command runs into a fault where one of the steps that it takes does. -/
theorem Recorded.perform_error_iff {e : Emulator} (recorded : Recorded past e.machine)
    (command : Emulator.Command) (fault : Nat → Fault) (key : ∀ pc index, fault pc ≠ .noKey index)
    {condition : List Machine → Machine → Prop}
    (step : ∀ {before m}, Recorded before m →
      ((∃ pc, m.step.result = .error (fault pc)) ↔ condition before m)) :
    (∃ pc, (e.perform command).result = .error (fault pc)) ↔
      ∃ before m later, e.stepsOf command = before ++ m :: later ∧
        condition (past ++ before) m := by
  simp only [e.perform_error_iff command (key _)]
  constructor
  · rintro ⟨pc, m, taken, faulted⟩
    obtain ⟨before, later, split⟩ := List.append_of_mem taken
    have recorded := followed_recorded.during recorded split
    exact ⟨before, m, later, split, (step recorded).mp ⟨pc, faulted⟩⟩
  · rintro ⟨before, m, later, split, met⟩
    have recorded := followed_recorded.during recorded split
    obtain ⟨pc, faulted⟩ := (step recorded).mpr met
    exact ⟨pc, m, by simp [split], faulted⟩

/-- In a run since a reset, or since the start, which a reset of a new emulator is, the stack
holds the calls that are still open, every return goes on behind the call that it answers,
and the next command overflows the stack, or finds it empty, just if it comes to a call with
sixteen of them, or to a return with none. -/
theorem stack_of_run (rom : Rom) (config : Config) (random : ByteSource)
    (earlier commands : List Emulator.Command) (calm : .reset ∉ commands) :
    let e := ((Emulator.start rom config random).after earlier).reset
    let history := passages (e.steps commands)
    let now := e.after commands
    (∀ sites, StillOpen history sites ↔ sites = now.machine.stack.reverse) ∧
    (∀ before site inner target later,
      history = before ++ .call site :: inner ++ .ret target :: later → Paired inner →
        target = site + 2) ∧
    ∀ command,
      ((∃ pc, (now.perform command).result = .error (.stackFull pc)) ↔
        ∃ before m later, now.stepsOf command = before ++ m :: later ∧
          (∃ target, m.AboutTo (.call target)) ∧
            ∃ sites, StillOpen (passages (e.steps commands ++ before)) sites ∧ sites.length = 16) ∧
      ((∃ pc, (now.perform command).result = .error (.stackEmpty pc)) ↔
        ∃ before m later, now.stepsOf command = before ++ m :: later ∧
          m.AboutTo .ret ∧ StillOpen (passages (e.steps commands ++ before)) []) := by
  intro e history now
  have begun : Recorded [] e.machine := ⟨Machine.bounded_powerOn .., rfl⟩
  have recorded : Recorded (e.steps commands) now.machine := followed_recorded.after begun calm
  refine ⟨fun sites => stillOpen_iff recorded.replayed, ?_, fun command => ⟨?_, ?_⟩⟩
  · intro before site inner target later split paired
    have replayed : replay [] history = some now.machine.stack := recorded.replayed
    rw [split] at replayed
    exact target_of_replay replayed paired
  · exact recorded.perform_error_iff command .stackFull (fun _ _ => nofun) Recorded.stackFull_iff
  · exact recorded.perform_error_iff command .stackEmpty (fun _ _ => nofun) Recorded.stackEmpty_iff

/-- Behind a call that has been answered a return finds nothing to answer. -/
theorem second_return :
    let e := Emulator.start ⟨[0x22, 0x04, 0x00, 0xEE, 0x00, 0xEE], by decide⟩ .standard (.cycle #[])
    let commands := [.step, .keyDown 3, .tick, .step]
    StillOpen (passages (e.steps commands)) [] ∧
      ∃ pc, ((e.after commands).perform .step).result = .error (.stackEmpty pc) := by
  intro e commands
  have calm : .reset ∉ commands := by decide
  obtain ⟨opened, _, faults⟩ := stack_of_run e.machine.rom .standard (.cycle #[]) [] commands calm
  have reached :
      let m := (e.after commands).machine
      m.stack = [] ∧ m.isHalted = false ∧ m.pc ≤ 4094 ∧ m.current = .ret := by
    decide +kernel
  obtain ⟨stack, running, inside, fetched⟩ := reached
  have answered := (opened []).mpr (congrArg List.reverse stack).symm
  have next : (e.after commands).machine.AboutTo .ret := ⟨running, inside, fetched⟩
  refine ⟨answered, (faults .step).2.mpr ⟨[], (e.after commands).machine, [], rfl, next, ?_⟩⟩
  rw [List.append_nil]
  exact answered

end Chip8.CallStack
