/-! A source of random bytes: an endless sequence and how many of it have been
drawn. Nothing but a draw moves it on. -/

namespace Chip8

structure ByteSource where
  bytes : Nat → UInt8
  drawn : Nat

namespace ByteSource

/-- Hands out the listed bytes in turn, over and over; with none listed, zeros. -/
def cycle (bytes : Array UInt8) : ByteSource where
  bytes k := bytes.getD (k % bytes.size) 0
  drawn := 0

def draw (s : ByteSource) : UInt8 × ByteSource :=
  (s.bytes s.drawn, { s with drawn := s.drawn + 1 })

end ByteSource

end Chip8
