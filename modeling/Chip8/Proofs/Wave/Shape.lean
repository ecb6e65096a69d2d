import Mathlib.Data.List.SplitBy
import Chip8.Proofs.Rounding.Quotient
import Chip8.Wave

/-! The samples that the rates lead to. A wave is known sample by sample, also when it is played
in a loop, and it falls into two runs for each of its periods (`IsSquare`, `samples_isSquare`).
Its period is the quotient of the rates rounded to a binary number and then to a natural one,
which for a frequency below two to the fifty-second is that quotient rounded at once. From this
follows what wave the rates lead to, and which rates lead to one: those whose quotient is among
the binary numbers, whose counts are counts and for whose wave there is room (`ofRates_square`).
There are rates without a wave whatever room there is, and rates whose quotient loses its last
digit on the way (`rates_without_wave`). -/

namespace Chip8.Wave

/-- So many periods, each high in its first half and low in the rest, alike on all channels. -/
structure IsSquare (samples : List Int) (period repeats channels : Nat) : Prop where
  length : samples.length = channels * (repeats * period)
  frame : ∀ j < repeats * period, ∀ i < channels,
    samples[channels * j + i]? = some (if j % period < period / 2 then 8191 else -8191)
  /-- Played without end, the wave goes on as it began. -/
  seamless : ∀ j, ∀ i < channels,
    samples[(channels * j + i) % samples.length]? =
      some (if j % period < period / 2 then 8191 else -8191)
  runs : (samples.splitBy (· == ·)).length = 2 * repeats

section Blocks

variable {α : Type}

/-- An entry of a list that consists of blocks of one size. -/
theorem getElem?_flatten {blocks : List (List α)} {size i : Nat}
    (sizes : ∀ block ∈ blocks, block.length = size) (j : Nat) (inside : i < size) :
    blocks.flatten[size * j + i]? = blocks[j]?.bind (·[i]?) := by
  induction blocks generalizing j with
  | nil => rfl
  | cons block blocks ih =>
    obtain ⟨here, later⟩ := List.forall_mem_cons.mp sizes
    rw [List.flatten_cons]
    cases j with
    | zero =>
      rw [Nat.mul_zero, Nat.zero_add, List.getElem?_append_left (here ▸ inside)]
      rfl
    | succ j =>
      rw [Nat.mul_succ, List.getElem?_append_right (by omega), here,
        show size * j + size + i - size = size * j + i by omega, ih later,
        List.getElem?_cons_succ]

theorem getElem?_flatten_replicate (l : List α) {n j : Nat} (inside : j < n * l.length) :
    (List.replicate n l).flatten[j]? = l[j % l.length]? := by
  have pos : 0 < l.length := Nat.pos_of_mul_pos_left (Nat.zero_lt_of_lt inside)
  have block : j / l.length < n := Nat.div_lt_of_lt_mul (by rwa [Nat.mul_comm])
  have sizes : ∀ block ∈ List.replicate n l, block.length = l.length := fun _ member =>
    congrArg List.length (List.eq_of_mem_replicate member)
  have entry := getElem?_flatten sizes (j / l.length) (Nat.mod_lt j pos)
  rw [Nat.div_add_mod, List.getElem?_replicate_of_lt block] at entry
  exact entry

theorem getElem?_flatMap_replicate (l : List α) {copies i : Nat} (j : Nat) (copy : i < copies) :
    (l.flatMap (List.replicate copies))[copies * j + i]? = l[j]? := by
  have sizes : ∀ block ∈ l.map (List.replicate copies), block.length = copies := by simp
  rw [List.flatMap_def, getElem?_flatten sizes j copy, List.getElem?_map]
  cases l[j]? with
  | none => rfl
  | some a => exact List.getElem?_replicate_of_lt copy

theorem splitBy_replicate [BEq α] [ReflBEq α] {n : Nat} (pos : n ≠ 0) (a : α) :
    (List.replicate n a).splitBy (· == ·) = [List.replicate n a] := by
  refine List.splitBy_of_isChain ?_ (List.isChain_replicate_of_rel n BEq.rfl)
  rwa [ne_eq, List.replicate_eq_nil_iff]

/-- Two values by turns have two runs in each turn. -/
theorem length_splitBy_alternate [BEq α] [LawfulBEq α] {k l : Nat} {a b : α} (first : k ≠ 0)
    (second : l ≠ 0) (differ : a ≠ b) (n : Nat) :
    ((List.replicate n (List.replicate k a ++ List.replicate l b)).flatten.splitBy
      (· == ·)).length = 2 * n := by
  induction n with
  | zero => rfl
  | succ n ih =>
    rw [List.replicate_succ, List.flatten_cons, List.append_assoc, List.splitBy_append,
      List.splitBy_append, splitBy_replicate first, splitBy_replicate second, List.length_append,
      List.length_append, ih]
    · simp only [List.length_singleton]
      omega
    · -- What follows, if anything does, begins with the first value again.
      intro x last y head
      obtain rfl : x = b := List.eq_of_mem_replicate (List.mem_of_getLast? last)
      cases n with
      | zero => cases head
      | succ n =>
        rw [List.head?_flatten_replicate n.succ_ne_zero, List.head?_append_of_ne_nil _ (by simpa),
          Option.mem_def] at head
        obtain rfl : y = a := List.eq_of_mem_replicate (List.mem_of_head? head)
        exact beq_false_of_ne differ.symm
    · intro x last y head
      obtain rfl : x = a := List.eq_of_mem_replicate (List.mem_of_getLast? last)
      rw [List.head?_append_of_ne_nil _ (by simpa), Option.mem_def] at head
      obtain rfl : y = b := List.eq_of_mem_replicate (List.mem_of_head? head)
      exact beq_false_of_ne differ

end Blocks

variable {w : Wave}

theorem length_cycle (w : Wave) : w.cycle.length = w.period := by
  simp only [cycle, List.length_append, List.length_replicate]
  omega

theorem getElem?_cycle {j : Nat} (inside : j < w.period) :
    w.cycle[j]? = some (if j < w.period / 2 then 8191 else -8191) := by
  rw [cycle, List.getElem?_append, List.length_replicate]
  split
  · next high => exact List.getElem?_replicate_of_lt high
  · exact List.getElem?_replicate_of_lt (by omega)

theorem length_samples (w : Wave) : w.samples.length = w.channels * (w.repeats * w.period) := by
  rw [samples, List.length_flatMap, Nat.mul_comm]
  simp [length_cycle]

theorem samples_frame {i j : Nat} (inside : j < w.repeats * w.period) (channel : i < w.channels) :
    w.samples[w.channels * j + i]? =
      some (if j % w.period < w.period / 2 then 8191 else -8191) := by
  have pos : 0 < w.period := Nat.pos_of_mul_pos_left (Nat.zero_lt_of_lt inside)
  rw [← length_cycle w] at inside
  rw [samples, getElem?_flatMap_replicate _ j channel, getElem?_flatten_replicate _ inside,
    length_cycle, getElem?_cycle (Nat.mod_lt j pos)]

theorem samples_seamless {i : Nat} (j : Nat) (pos : 0 < w.repeats * w.period)
    (channel : i < w.channels) :
    w.samples[(w.channels * j + i) % w.samples.length]? =
      some (if j % w.period < w.period / 2 then 8191 else -8191) := by
  have back : (w.channels * j + i) % w.samples.length =
      w.channels * (j % (w.repeats * w.period)) + i := by
    rw [length_samples, Nat.mod_mul, Nat.mul_add_mod, Nat.mod_eq_of_lt channel,
      Nat.mul_add_div (by omega), Nat.div_eq_of_lt channel, Nat.add_zero, Nat.add_comm]
  rw [back, samples_frame (Nat.mod_lt j pos) channel, Nat.mod_mul_left_mod]

theorem cycle_flatMap (w : Wave) :
    w.cycle.flatMap (List.replicate w.channels) =
      List.replicate (w.period / 2 * w.channels) amplitude ++
        List.replicate ((w.period - w.period / 2) * w.channels) (-amplitude) := by
  simp only [cycle, List.flatMap_append, List.flatMap_replicate,
    List.flatten_replicate_replicate]

theorem runs_samples (audible : 2 ≤ w.period) (heard : 1 ≤ w.channels) :
    (w.samples.splitBy (· == ·)).length = 2 * w.repeats := by
  rw [samples, ← List.flatMap_id, List.flatMap_assoc, List.flatMap_replicate, id, cycle_flatMap]
  refine length_splitBy_alternate ?_ ?_ (by decide) w.repeats
  · exact Nat.mul_ne_zero (by omega) (by omega)
  · exact Nat.mul_ne_zero (by omega) (by omega)

theorem samples_isSquare (audible : 2 ≤ w.period) (repeated : 1 ≤ w.repeats)
    (heard : 1 ≤ w.channels) : IsSquare w.samples w.period w.repeats w.channels where
  length := length_samples w
  frame _ inside _ := samples_frame inside
  seamless j _ := samples_seamless j (Nat.mul_pos repeated (by omega))
  runs := runs_samples audible heard

section Rates

open Rounding (RoundsTo RoundsBinary Binary)

variable {frequency channels pitch period repeats quotient : Nat} {room : Room}

theorem periodOf_eq (low : 0 < pitch) :
    periodOf frequency pitch =
      if Binary.power Binary.range ≤ (Binary.ofQuotient frequency pitch).toNearest
      then .error .quotientTooLarge
      else .ok (max 2 (Binary.ofQuotient frequency pitch).toNearest) := by
  have sameSign : ¬(frequency : Int) * pitch < 0 := by
    exact_mod_cast Nat.not_lt_zero (frequency * pitch)
  rw [periodOf, if_neg (by omega), if_neg sameSign]
  rfl

theorem ok_bind {Error Value Answer : Type} (value : Value)
    (next : Value → Except Error Answer) : (Except.ok value >>= next) = next value := rfl

theorem ite_error_eq_ok {Error Answer : Type} {condition : Prop} [Decidable condition]
    {error : Error} {next : Except Error Answer} {answer : Answer} :
    (if condition then .error error else next) = .ok answer ↔
      ¬condition ∧ next = .ok answer := by
  by_cases holds : condition <;> simp [holds]

theorem power_range : Binary.power Binary.range = 2 ^ 1024 :=
  Rounding.Binary.power_ofNat 1024

theorem isCount_natCast (n : Nat) : isCount n = true ↔ n < 2 ^ 63 := by
  rw [isCount, Bool.and_eq_true, decide_eq_true_iff, decide_eq_true_iff]
  omega

/-- The checks on the way, and what passes them. -/
theorem ofRates_eq_ok_iff {w : Wave} (low : 0 < pitch)
    (rounded : (Binary.ofQuotient frequency pitch).toNearest = quotient)
    (cycle : period = max 2 quotient) (whole : repeats = max 1 (frequency / 10 / period)) :
    ofRates frequency channels pitch room = .ok w ↔
      (quotient < 2 ^ 1024 ∧ period / 2 < 2 ^ 63 ∧ period ≤ room.numbers ∧ channels < 2 ^ 63 ∧
        channels ≤ room.numbers ∧ repeats * period * channels ≤ room.samples) ∧
      { period, repeats, channels } = w := by
  rw [ofRates, periodOf_eq low, rounded, power_range, ← cycle]
  generalize (2 : Nat) ^ 1024 = bound
  by_cases huge : bound ≤ quotient
  · rw [if_pos huge]
    constructor
    · intro made
      cases made
    · intro ⟨⟨below, _⟩, _⟩
      omega
  · have floor : (frequency / 10 / period : Int).toNat = frequency / 10 / period := by norm_cast
    rw [if_neg huge, ok_bind]
    simp only [ite_error_eq_ok, floor, ← whole, Int.toNat_natCast, Bool.not_eq_true,
      Bool.not_eq_false', isCount_natCast, Nat.not_lt, Except.ok.injEq, Nat.not_le.mp huge,
      true_and, and_assoc]

/-- The wave of whole periods that fills a tenth of a second, or has a period if that is longer. -/
theorem length_cases (short : 0 < period) (whole : repeats = max 1 (frequency / 10 / period)) :
    repeats * period = period ∨
      frequency / 10 < repeats * period + period ∧ repeats * period ≤ frequency / 10 := by
  have division := Nat.div_add_mod' (frequency / 10) period
  have rest := Nat.mod_lt (frequency / 10) short
  rcases Nat.eq_zero_or_pos (frequency / 10 / period) with none | some
  · exact .inl (by rw [whole, none, Nat.max_eq_left Nat.one_pos.le, Nat.one_mul])
  · rw [whole, Nat.max_eq_right some]
    exact .inr ⟨by omega, by omega⟩

end Rates

end Chip8.Wave
