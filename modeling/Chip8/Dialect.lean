/-! Dialects. Interpreters of the past disagree on five points; a dialect chooses
a side on each, and a preset is the choice of one interpreter. -/

namespace Chip8

/-- The points of disagreement. -/
inductive Toggle
  /-- The bitwise operations zero the flag register. -/
  | resetFlag
  /-- The shifts take their operand from `Vy`. -/
  | shiftSource
  /-- A jump with an offset adds the register that its target names. -/
  | jumpRegister
  /-- Sprites reappear on the opposite edge. -/
  | wrapSprites
  /-- Storing and loading registers leaves the index behind the last one. -/
  | advanceIndex
deriving DecidableEq, Repr

def Toggle.all : List Toggle := [resetFlag, shiftSource, jumpRegister, wrapSprites, advanceIndex]

structure Dialect where
  resetFlag : Bool := false
  shiftSource : Bool := false
  jumpRegister : Bool := false
  wrapSprites : Bool := false
  advanceIndex : Bool := false
deriving DecidableEq, Repr

namespace Dialect

def get (d : Dialect) : Toggle → Bool
  | .resetFlag => d.resetFlag
  | .shiftSource => d.shiftSource
  | .jumpRegister => d.jumpRegister
  | .wrapSprites => d.wrapSprites
  | .advanceIndex => d.advanceIndex

def set (d : Dialect) (on : Bool) : Toggle → Dialect
  | .resetFlag => { d with resetFlag := on }
  | .shiftSource => { d with shiftSource := on }
  | .jumpRegister => { d with jumpRegister := on }
  | .wrapSprites => { d with wrapSprites := on }
  | .advanceIndex => { d with advanceIndex := on }

theorem get_set (d : Dialect) (on : Bool) (s t : Toggle) :
    (d.set on s).get t = if t = s then on else d.get t := by
  cases s <;> cases t <;> rfl

end Dialect

inductive Preset
  | classic
  | cosmacVip
  | chip48
  | superchipModern
  | xoChip
deriving DecidableEq, Repr

namespace Preset

def all : List Preset := [classic, cosmacVip, chip48, superchipModern, xoChip]

def name : Preset → String
  | classic => "classic"
  | cosmacVip => "cosmac_vip"
  | chip48 => "chip48"
  | superchipModern => "superchip_modern"
  | xoChip => "xo_chip"

def ofName? (name : String) : Option Preset := all.find? (·.name == name)

def dialect : Preset → Dialect
  | classic => {}
  | cosmacVip => { resetFlag := true, shiftSource := true, advanceIndex := true }
  | chip48 => { jumpRegister := true }
  | superchipModern => { jumpRegister := true }
  | xoChip => { shiftSource := true, wrapSprites := true, advanceIndex := true }

end Preset

end Chip8
