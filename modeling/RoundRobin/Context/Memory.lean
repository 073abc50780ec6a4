/-!
# Memory

Memory is a byte at every address. Numbers of more than one byte lie with their low byte first.
-/

namespace RoundRobin

/-- The `count` low bytes of `value`, lowest first. -/
def toBytes : (count value : Nat) → List UInt8
  | 0, _ => []
  | count + 1, value => UInt8.ofNat (value % 256) :: toBytes count (value / 256)

/-- The number whose bytes are given, lowest first. -/
def ofBytes : List UInt8 → Nat
  | [] => 0
  | b :: rest => b.toNat + 256 * ofBytes rest

structure Memory where
  byte : Nat → UInt8

namespace Memory

def zero : Memory := ⟨fun _ => 0⟩

/-- Stores bytes from `address` upwards. -/
def store (m : Memory) (address : Nat) (bytes : List UInt8) : Memory :=
  ⟨fun a => if address ≤ a then (bytes[a - address]?).getD (m.byte a) else m.byte a⟩

/-- The `count` bytes from `address` upwards. -/
def load (m : Memory) (address count : Nat) : List UInt8 :=
  (List.range count).map fun i => m.byte (address + i)

def storeWord (m : Memory) (address : Nat) (w : UInt64) : Memory :=
  m.store address (toBytes 8 w.toNat)

def loadWord (m : Memory) (address : Nat) : UInt64 :=
  .ofNat (ofBytes (m.load address 8))

/-- Stores words from `address` upwards. -/
def storeWords (m : Memory) (address : Nat) : List UInt64 → Memory
  | [] => m
  | w :: rest => (m.storeWord address w).storeWords (address + 8) rest

end Memory

end RoundRobin
