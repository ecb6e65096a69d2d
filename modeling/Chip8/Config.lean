import Chip8.Colour
import Chip8.Dialect

/-! The settings of a run. `Config.Options` are the numbers as they are asked for;
a `Config` holds them once they are known to make sense. They are checked in a
fixed order, and the first that fails is reported. -/

namespace Chip8

structure Config where
  /-- Frames in a second. -/
  fps : Nat
  /-- Instructions in a frame. -/
  ipf : Nat
  /-- Screen pixels on a side of a machine pixel. -/
  scale : Nat
  foreground : Colour
  background : Colour
  /-- Whether a frame ends with its first sprite. -/
  displayWait : Bool
  /-- The pitch of the buzzer in hertz. -/
  pitch : Nat
  dialect : Dialect
  fps_pos : 0 < fps
  ipf_pos : 0 < ipf
  scale_pos : 0 < scale
  pitch_range : 20 ≤ pitch ∧ pitch ≤ 10000

namespace Config

structure Options where
  fps : Int := 60
  ipf : Int := 10
  scale : Int := 10
  foreground : Int := 0xFFFFFFFF
  background : Int := 0
  displayWait : Bool := false
  pitch : Int := 440
  dialect : Dialect := {}
deriving DecidableEq, Repr

inductive Rate
  | fps
  | ipf
  | scale
deriving DecidableEq, Repr

inductive Plane
  | foreground
  | background
deriving DecidableEq, Repr

inductive Invalid
  | tooSmall (rate : Rate) (value : Int)
  | pitch (value : Int)
  | colour (plane : Plane) (value : Int)
deriving DecidableEq, Repr

def Rate.name : Rate → String
  | fps => "fps"
  | ipf => "ipf"
  | scale => "scale"

def Plane.name : Plane → String
  | foreground => "fg"
  | background => "bg"

def Invalid.message : Invalid → String
  | tooSmall rate value => rate.name ++ " must be at least 1, got " ++ toString value
  | pitch value => "pitch must be between 20 and 10000 Hz, got " ++ toString value
  | colour plane value =>
    plane.name ++ " is not a valid RGBA8888 color: " ++ Text.Hex.signedMarked value

def ofOptions (o : Options) : Except Invalid Config :=
  if hf : 1 ≤ o.fps then
    if hi : 1 ≤ o.ipf then
      if hs : 1 ≤ o.scale then
        if hp : 20 ≤ o.pitch ∧ o.pitch ≤ 10000 then
          match Colour.ofInt? o.foreground, Colour.ofInt? o.background with
          | some foreground, some background => .ok
            { fps := o.fps.toNat, ipf := o.ipf.toNat, scale := o.scale.toNat, pitch := o.pitch.toNat
              foreground, background, displayWait := o.displayWait, dialect := o.dialect
              fps_pos := by omega, ipf_pos := by omega, scale_pos := by omega
              pitch_range := by omega }
          | none, _ => .error (.colour .foreground o.foreground)
          | some _, none => .error (.colour .background o.background)
        else .error (.pitch o.pitch)
      else .error (.tooSmall .scale o.scale)
    else .error (.tooSmall .ipf o.ipf)
  else .error (.tooSmall .fps o.fps)

/-- The settings of a run for which nothing is asked. -/
def standard : Config where
  fps := 60
  ipf := 10
  scale := 10
  foreground := Colour.white
  background := Colour.transparent
  displayWait := false
  pitch := 440
  dialect := {}
  fps_pos := by decide
  ipf_pos := by decide
  scale_pos := by decide
  pitch_range := by decide

theorem ofOptions_default : ofOptions {} = .ok standard := rfl

end Config

end Chip8
