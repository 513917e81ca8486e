/-! The Keccak-256 hash: a sponge of 1600 bits, of which 1088 take up the message in each step, with the
    padding that starts with a single one bit. -/

namespace SplitterLaunch
namespace Keccak

/-- The state: 25 lanes of 64 bits, the lane of column `x` and row `y` at `x + 5 * y`. -/
abbrev State := Vector UInt64 25

/-- The lane of a column and a row, both taken modulo five. -/
def State.lane (s : State) (x y : Nat) : UInt64 := s.get ⟨x % 5 + 5 * (y % 5), by omega⟩

/-- The state with the lane of column `x` and row `y` given by `f x y`. -/
def State.ofLanes (f : Nat → Nat → UInt64) : State := Vector.ofFn fun i => f (i.val % 5) (i.val / 5)

/-- A lane turned left by fewer than 64 places. -/
def rotate (v : UInt64) (places : Nat) : UInt64 :=
  if places % 64 = 0 then v
  else v <<< UInt64.ofNat (places % 64) ||| v >>> UInt64.ofNat (64 - places % 64)

/-- Adds the parity of two neighbouring columns to each lane. -/
def theta (s : State) : State :=
  let parities := Vector.ofFn fun x : Fin 5 =>
    s.lane x.val 0 ^^^ s.lane x.val 1 ^^^ s.lane x.val 2 ^^^ s.lane x.val 3 ^^^ s.lane x.val 4
  let parity (x : Nat) : UInt64 := parities.get ⟨x % 5, by omega⟩
  .ofLanes fun x y => s.lane x y ^^^ parity (x + 4) ^^^ rotate (parity (x + 1)) 1

/-- How far each lane is turned, in the order of the lanes. -/
def offsets : Vector Nat 25 :=
  #v[0, 1, 62, 28, 27, 36, 44, 6, 55, 20, 3, 10, 43, 25, 39, 41, 45, 15, 21, 8, 18, 2, 61, 56, 14]

def rho (s : State) : State := Vector.ofFn fun i => rotate (s.get i) (offsets.get i)

def pi (s : State) : State := .ofLanes fun x y => s.lane (x + 3 * y) x

/-- Mixes each row, the only step that is not linear. -/
def chi (s : State) : State :=
  .ofLanes fun x y => s.lane x y ^^^ (~~~ (s.lane (x + 1) y) &&& s.lane (x + 2) y)

def constants : List UInt64 := [
  0x0000000000000001, 0x0000000000008082, 0x800000000000808a, 0x8000000080008000, 0x000000000000808b,
  0x0000000080000001, 0x8000000080008081, 0x8000000000008009, 0x000000000000008a, 0x0000000000000088,
  0x0000000080008009, 0x000000008000000a, 0x000000008000808b, 0x800000000000008b, 0x8000000000008089,
  0x8000000000008003, 0x8000000000008002, 0x8000000000000080, 0x000000000000800a, 0x800000008000000a,
  0x8000000080008081, 0x8000000000008080, 0x0000000080000001, 0x8000000080008008]

def round (s : State) (constant : UInt64) : State :=
  let mixed := chi (pi (rho (theta s)))
  mixed.set 0 (mixed.get 0 ^^^ constant)

def permute (s : State) : State := constants.foldl round s

/-- The bytes that one step of the sponge takes up. -/
def rate : Nat := 136

/-- The message with its padding: a byte `01`, zeros, and the top bit of the last byte of a block. -/
def pad (message : List UInt8) : List UInt8 :=
  let gap := rate - message.length % rate
  if gap = 1 then message ++ [0x81] else message ++ 0x01 :: (List.replicate (gap - 2) 0 ++ [0x80])

/-- The lane that starts with the first eight of these bytes, the lowest byte first. -/
def laneOfBytes (bytes : List UInt8) : UInt64 :=
  (bytes.take 8).foldr (fun b acc => acc <<< 8 ||| b.toUInt64) 0

/-- The bytes of a lane, the lowest first. -/
def bytesOfLane (v : UInt64) : List UInt8 :=
  (List.range 8).map fun i => (v >>> UInt64.ofNat (8 * i)).toUInt8

def absorb (s : State) (block : List UInt8) : State :=
  permute (Vector.ofFn fun i => if i.val < 17 then s.get i ^^^ laneOfBytes (block.drop (8 * i.val)) else s.get i)

def absorbAll : Nat → State → List UInt8 → State
  | 0, s, _ => s
  | n + 1, s, bytes => absorbAll n (absorb s (bytes.take rate)) (bytes.drop rate)

/-- The hash of a message, 32 bytes. -/
def hash (message : List UInt8) : List UInt8 :=
  let padded := pad message
  let s := absorbAll (padded.length / rate) (.ofLanes fun _ _ => 0) padded
  (s.toList.take 4).flatMap bytesOfLane

end Keccak
end SplitterLaunch
