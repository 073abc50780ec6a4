import RoundRobin.Checked
import RoundRobin.Context.Memory

/-!
# Switching contexts

A suspended thread is a saved stack pointer. What a callee has to preserve lies on the thread's own
stack above it, then the address at which the thread goes on:

* +0 vector control word (4 bytes), floating-point control word (2 bytes)
* +8 `r15`, +16 `r14`, +24 `r13`, +32 `r12`, +40 `rbx`, +48 `rbp`
* +56 return address

`Cpu.switch` is the instruction sequence that leaves one such frame behind and takes up another.
`prime` builds by hand the frame from which a fresh thread starts at the trampoline.
-/

namespace RoundRobin

/-- General registers, the stack pointer apart. -/
inductive Reg where
  | rbx
  | rbp
  | r12
  | r13
  | r14
  | r15
  | rdi
  deriving DecidableEq, Repr

/-- A floating-point control word as the processor holds it: bits 7 and 13 to 15 are always clear
and bit 6 is always set. -/
structure FloatControl where
  bits : UInt16
  fixed : bits &&& 0xE0C0 = 0x0040
  deriving DecidableEq, Repr

/-- What the processor makes of a word that is loaded. -/
def FloatControl.load (w : UInt16) : FloatControl where
  bits := (w &&& 0x1F3F) ||| 0x0040
  fixed := by
    apply UInt16.toBitVec_inj.1
    rw [UInt16.toBitVec_and, UInt16.toBitVec_or, UInt16.toBitVec_and, BitVec.and_comm,
      BitVec.and_or_distrib_left, BitVec.and_comm w.toBitVec, ← BitVec.and_assoc]
    simp

/-- Registers and memory, with the saved stack pointer of every context. -/
structure Cpu where
  rsp : Nat
  rip : UInt64
  reg : Reg → UInt64
  /-- Vector control word. -/
  mxcsr : UInt32
  /-- Floating-point control word. -/
  fcw : FloatControl
  memory : Memory
  saved : Nat → Nat

/-- The instructions that a switch consists of. -/
inductive Instruction where
  | push (r : Reg)
  | pop (r : Reg)
  | lower (bytes : Nat)
  | lift (bytes : Nat)
  | storeMxcsr (offset : Nat)
  | storeFcw (offset : Nat)
  | loadMxcsr (offset : Nat)
  | loadFcw (offset : Nat)
  /-- Stores the stack pointer in the context that is left. -/
  | leave
  /-- Loads the stack pointer of the context that is taken up. -/
  | takeUp
  | ret
  deriving DecidableEq, Repr

namespace Cpu

def setReg (c : Cpu) (r : Reg) (w : UInt64) : Cpu :=
  { c with reg := fun q => if q = r then w else c.reg q }

def pushWord (c : Cpu) (w : UInt64) : Cpu :=
  { c with rsp := c.rsp - 8, memory := c.memory.storeWord (c.rsp - 8) w }

/-- Executes one instruction of a switch from context `source` to context `target`. -/
def exec (source target : Nat) (c : Cpu) : Instruction → Cpu
  | .push r => c.pushWord (c.reg r)
  | .pop r => { c.setReg r (c.memory.loadWord c.rsp) with rsp := c.rsp + 8 }
  | .lower bytes => { c with rsp := c.rsp - bytes }
  | .lift bytes => { c with rsp := c.rsp + bytes }
  | .storeMxcsr offset =>
    { c with memory := c.memory.store (c.rsp + offset) (toBytes 4 c.mxcsr.toNat) }
  | .storeFcw offset =>
    { c with memory := c.memory.store (c.rsp + offset) (toBytes 2 c.fcw.bits.toNat) }
  | .loadMxcsr offset => { c with mxcsr := .ofNat (ofBytes (c.memory.load (c.rsp + offset) 4)) }
  | .loadFcw offset =>
    { c with fcw := .load (.ofNat (ofBytes (c.memory.load (c.rsp + offset) 2))) }
  | .leave => { c with saved := fun i => if i = source then c.rsp else c.saved i }
  | .takeUp => { c with rsp := c.saved target }
  | .ret => { c with rip := c.memory.loadWord c.rsp, rsp := c.rsp + 8 }

/-- Saves the running context and takes up another one. -/
def switchCode : List Instruction :=
  [.push .rbp, .push .rbx, .push .r12, .push .r13, .push .r14, .push .r15,
    .lower 8, .storeMxcsr 0, .storeFcw 4, .leave,
    .takeUp, .loadMxcsr 0, .loadFcw 4, .lift 8,
    .pop .r15, .pop .r14, .pop .r13, .pop .r12, .pop .rbx, .pop .rbp, .ret]

/-- Calls the switch from `source` to `target`; when taken up again, `source` goes on at `back`. -/
def switch (c : Cpu) (source target : Nat) (back : UInt64) : Cpu :=
  switchCode.foldl (exec source target) (c.pushWord back)

/-- What a fresh thread does first: it calls the function in `r12` with the argument in `r13` on an
aligned stack. `stop` is where that call would return to, which it never does. -/
def trampoline (c : Cpu) (stop : UInt64) : Cpu :=
  let c := c.setReg .rdi (c.reg .r13)
  let c := { c with rsp := c.rsp - c.rsp % 16 }
  { c.pushWord stop with rip := c.reg .r12 }

end Cpu

/-- Vector control word of a fresh thread: all exceptions masked, round to nearest. -/
def defaultMxcsr : UInt32 := 0x1F80

/-- Floating-point control word of a fresh thread: all exceptions masked, 64-bit precision. -/
def defaultFcw : FloatControl := .load 0x037F

/-- The words of a primed frame, lowest first. The last one keeps the stack aligned and ends a walk
along frame pointers. -/
def primedWords (trampoline start argument : UInt64) : List UInt64 :=
  [.ofNat (defaultMxcsr.toNat + defaultFcw.bits.toNat * 0x100000000), 0, 0, argument, start, 0, 0,
    trampoline, 0]

/-- Builds, below `stackTop`, the frame of a thread that calls `start` with `argument`. Gives the
saved stack pointer and the memory. -/
def prime (m : Memory) (stackTop : Nat) (trampoline start argument : UInt64) :
    Except Halt (Nat × Memory) := do
  let frame ← Checked.sub (stackTop - stackTop % 16) 72
  return (frame, m.storeWords frame (primedWords trampoline start argument))

end RoundRobin
