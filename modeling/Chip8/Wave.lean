import Chip8.Rounding

/-! The square wave of the buzzer. A period has as many frames as the quotient of
sample rate and pitch, rounded to a binary number and that to the nearest natural
one, but two at least. Its first half, the shorter one if they differ, is high and
the rest is low. Whole periods are repeated to fill a tenth of a second, once at
least, so the wave can be looped without a seam. A period is laid out as a list of
numbers before the samples are written, and each of them as one for all channels;
how long such lists and the wave may be depends on the memory at hand. -/

namespace Chip8

structure Wave where
  /-- Frames in a period. -/
  period : Nat
  repeats : Nat
  channels : Nat
deriving DecidableEq, Repr

namespace Wave

/-- A quarter of the range of sixteen bits. -/
def amplitude : Int := 8191

/-- Why there is no wave for given rates. -/
inductive Unmakeable
  | zeroPitch
  /-- The quotient of the rates is beyond the binary numbers. -/
  | quotientTooLarge
  /-- Half a period or the number of channels is no count. -/
  | countTooLarge
  /-- There is no room for them. -/
  | tooManySamples
deriving DecidableEq, Repr

def Unmakeable.message : Unmakeable → String
  | zeroPitch => "a pitch of 0 Hz has no wave"
  | quotientTooLarge => "the sample rate is too large for the pitch"
  | countTooLarge => "a count does not fit 64 bits"
  | tooManySamples => "the wave has too many samples"

/-- Counts have sixty-four bits, one of them for the sign. -/
def isCount (n : Int) : Bool := -0x8000000000000000 ≤ n && n < 0x8000000000000000

/-- What the memory at hand holds. -/
structure Room where
  /-- The longest list of numbers. -/
  numbers : Nat
  /-- The samples of the longest wave. -/
  samples : Nat
deriving DecidableEq, Repr

/-- As much as there can be with sizes of sixty-four bits, one of them for the sign: a number
in a list takes eight bytes, a sample two. -/
def Room.addressable : Room where
  numbers := 0xFFFFFFFFFFFFFFF
  samples := 0x3FFFFFFFFFFFFFFF

/-- Rates of different signs make the shortest period. -/
def periodOf (frequency pitch : Int) : Except Unmakeable Nat :=
  let quotient := (Rounding.Binary.ofQuotient frequency.natAbs pitch.natAbs).toNearest
  if pitch = 0 then .error .zeroPitch
  else if Rounding.Binary.power Rounding.Binary.range ≤ quotient then .error .quotientTooLarge
  else .ok (if frequency * pitch < 0 then 2 else max 2 quotient)

def ofRates (frequency channels pitch : Int) (room : Room) : Except Unmakeable Wave := do
  let period ← periodOf frequency pitch
  let repeats := max 1 (frequency / 10 / period).toNat
  if !isCount (period / 2 : Nat) then .error .countTooLarge
  else if room.numbers < period then .error .tooManySamples
  else if !isCount channels then .error .countTooLarge
  else if room.numbers < channels.toNat then .error .tooManySamples
  else if room.samples < repeats * period * channels.toNat then .error .tooManySamples
  else .ok { period, repeats, channels := channels.toNat }

def cycle (w : Wave) : List Int :=
  List.replicate (w.period / 2) amplitude ++ List.replicate (w.period - w.period / 2) (-amplitude)

/-- The samples in order, those of all channels side by side. -/
def samples (w : Wave) : List Int :=
  (List.replicate w.repeats w.cycle).flatten.flatMap (List.replicate w.channels)

/-- A sample takes two bytes. -/
def byteLength (w : Wave) : Nat := 2 * w.samples.length

end Wave

end Chip8
