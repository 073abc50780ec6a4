import RoundRobin.Context.Cpu
import RoundRobin.Proofs.Checked
import RoundRobin.Proofs.Context.Memory

/-!
# Saved frames

`Saved` says which registers lie in a frame. A frame is written in one place, by the first half of a
switch, read in another, by the second half, and built by hand in a third, when a context is
primed. Each of the three is described by `Saved`, so they agree on the layout word for word.
-/

namespace RoundRobin

/-- A control word that the processor holds is loaded as it is: the bits that loading forces are
those that it has already. -/
theorem FloatControl.load_bits (f : FloatControl) : FloatControl.load f.bits = f := by
  obtain ⟨bits, fixed⟩ := f
  have whole : (bits &&& 0x1F3F) ||| (bits &&& 0xE0C0) = bits := by
    apply UInt16.toBitVec_inj.1
    rw [UInt16.toBitVec_or, UInt16.toBitVec_and, UInt16.toBitVec_and,
      ← BitVec.and_or_distrib_left]
    exact BitVec.and_allOnes
  rw [fixed] at whole
  simp only [load, whole]

/-- What a context finds again when it is taken up: the place at which it goes on, and all that a
callee has to preserve. -/
structure Registers where
  rsp : Nat
  rip : UInt64
  rbx : UInt64
  rbp : UInt64
  r12 : UInt64
  r13 : UInt64
  r14 : UInt64
  r15 : UInt64
  mxcsr : UInt32
  fcw : FloatControl
  deriving DecidableEq, Repr

def Cpu.registers (c : Cpu) : Registers where
  rsp := c.rsp
  rip := c.rip
  rbx := c.reg .rbx
  rbp := c.reg .rbp
  r12 := c.reg .r12
  r13 := c.reg .r13
  r14 := c.reg .r14
  r15 := c.reg .r15
  mxcsr := c.mxcsr
  fcw := c.fcw

def frameBytes : Nat := 64

/-- The frame at `frame` holds the registers `r`. -/
structure Memory.Saved (m : Memory) (frame : Nat) (r : Registers) : Prop where
  mxcsr : m.load frame 4 = toBytes 4 r.mxcsr.toNat
  fcw : m.load (frame + 4) 2 = toBytes 2 r.fcw.bits.toNat
  words : m.Words (frame + 8) [r.r15, r.r14, r.r13, r.r12, r.rbx, r.rbp, r.rip]
  rsp : r.rsp = frame + frameBytes

/-- A frame holds what it holds as long as nobody writes to its bytes. -/
theorem Memory.Saved.congr {m m' : Memory} {frame : Nat} {r : Registers} (saved : m.Saved frame r)
    (same : ∀ a, frame ≤ a → a < frame + frameBytes → m'.byte a = m.byte a) :
    m'.Saved frame r := by
  unfold frameBytes at same
  refine ⟨?_, ?_, ?_, saved.rsp⟩
  · rw [load_congr fun a above below => same a (by omega) (by omega)]
    exact saved.mxcsr
  · rw [load_congr fun a above below => same a (by omega) (by omega)]
    exact saved.fcw
  · apply saved.words.congr
    intro a above below
    simp only [List.length_cons, List.length_nil] at below
    exact same a (by omega) (by omega)

namespace Cpu

variable {c₀ c : Cpu} {ws : List UInt64}

/-- `c` has come from `c₀` by pushing words alone; `ws` are the pushed ones, the latest first. -/
structure Pushed (c₀ c : Cpu) (ws : List UInt64) : Prop where
  rsp : c.rsp + 8 * ws.length = c₀.rsp
  words : c.memory.Words c.rsp ws
  elsewhere : ∀ a, a < c.rsp ∨ c₀.rsp ≤ a → c.memory.byte a = c₀.memory.byte a
  rest : c = { c₀ with rsp := c.rsp, memory := c.memory }

namespace Pushed

theorem none (c : Cpu) : Pushed c c [] := ⟨rfl, trivial, fun _ _ => rfl, rfl⟩

theorem push (pushed : Pushed c₀ c ws) (room : 8 ≤ c.rsp) (w : UInt64) :
    Pushed c₀ (c.pushWord w) (w :: ws) := by
  have depth := pushed.rsp
  refine ⟨?_, ⟨c.memory.load_storeWord _ w, ?_⟩, ?_, ?_⟩
  · simp only [pushWord, List.length_cons]
    omega
  · have above : (c.pushWord w).rsp + 8 = c.rsp := by
      simp only [pushWord]
      omega
    rw [above]
    apply pushed.words.congr
    intro a inside _
    exact Memory.storeWord_byte_outside (by omega)
  · intro a outside
    simp only [pushWord] at outside ⊢
    rw [Memory.storeWord_byte_outside (by omega)]
    exact pushed.elsewhere a (by omega)
  · rw [pushWord, pushed.rest]

theorem pushAll (pushed : Pushed c₀ c ws) (source target : Nat) (regs : List Reg)
    (room : 8 * regs.length ≤ c.rsp) :
    Pushed c₀ ((regs.map .push).foldl (exec source target) c)
      ((regs.map c₀.reg).reverse ++ ws) := by
  induction regs generalizing c ws with
  | nil => exact pushed
  | cons r regs ih =>
    rw [List.length_cons] at room
    have value : c.reg r = c₀.reg r := by rw [pushed.rest]
    have next := pushed.push (by omega) (c.reg r)
    have lower : (c.pushWord (c.reg r)).rsp = c.rsp - 8 := rfl
    have all := ih next (by omega)
    rw [value] at all
    simpa [exec, value] using all

end Pushed

def leaveCode : List Instruction :=
  [.push .rbp, .push .rbx, .push .r12, .push .r13, .push .r14, .push .r15,
    .lower 8, .storeMxcsr 0, .storeFcw 4, .leave]

def takeUpCode : List Instruction :=
  [.takeUp, .loadMxcsr 0, .loadFcw 4, .lift 8,
    .pop .r15, .pop .r14, .pop .r13, .pop .r12, .pop .rbx, .pop .rbp, .ret]

def left (c : Cpu) (source target : Nat) (back : UInt64) : Cpu :=
  leaveCode.foldl (exec source target) (c.pushWord back)

theorem switchCode_eq : switchCode = leaveCode ++ takeUpCode := rfl

theorem switch_eq (c : Cpu) (source target : Nat) (back : UInt64) :
    c.switch source target back =
      takeUpCode.foldl (exec source target) (c.left source target back) := by
  rw [switch, switchCode_eq, List.foldl_append, left]

/-- Storing the control words fills the slot below the pushed words and disturbs nothing else. -/
theorem Pushed.leaves (pushed : Pushed c₀ c ws) (source target : Nat) {frame : Nat}
    (room : c.rsp = frame + 8) :
    ∃ memory, [.lower 8, .storeMxcsr 0, .storeFcw 4, .leave].foldl (exec source target) c =
        { c₀ with
          rsp := frame
          memory
          saved := fun i => if i = source then frame else c₀.saved i } ∧
      memory.load frame 4 = toBytes 4 c₀.mxcsr.toNat ∧
      memory.load (frame + 4) 2 = toBytes 2 c₀.fcw.bits.toNat ∧
      memory.Words (frame + 8) ws ∧
      ∀ a, a < frame ∨ c₀.rsp ≤ a → memory.byte a = c₀.memory.byte a := by
  have depth := pushed.rsp
  let first := c.memory.store frame (toBytes 4 c₀.mxcsr.toNat)
  let second := first.store (frame + 4) (toBytes 2 c₀.fcw.bits.toNat)
  have untouched : ∀ a, a < frame ∨ frame + 8 ≤ a → second.byte a = c.memory.byte a := by
    intro a outside
    rw [Memory.store_byte_outside (by simp; omega), Memory.store_byte_outside (by simp; omega)]
  refine ⟨second, ?_, ?_, ?_, ?_, ?_⟩
  · have lowered : c.rsp - 8 = frame := by omega
    simp only [List.foldl, exec, lowered]
    rw [pushed.rest]
    rfl
  · have stored := c.memory.load_store frame (toBytes 4 c₀.mxcsr.toNat)
    rw [length_toBytes] at stored
    rw [Memory.load_congr fun a _ below => Memory.store_byte_outside (.inl below)]
    exact stored
  · have stored := first.load_store (frame + 4) (toBytes 2 c₀.fcw.bits.toNat)
    rwa [length_toBytes] at stored
  · have words := pushed.words
    rw [room] at words
    apply words.congr
    intro a above _
    exact untouched a (.inr above)
  · intro a outside
    rw [untouched a (by omega)]
    exact pushed.elsewhere a (by omega)

/-- The first half of a switch leaves the registers in a frame right below the stack pointer and
writes nowhere else. -/
theorem left_eq (c : Cpu) (source target : Nat) (back : UInt64) {frame : Nat}
    (room : c.rsp = frame + frameBytes) :
    ∃ memory, c.left source target back =
        { c with
          rsp := frame
          memory
          saved := fun i => if i = source then frame else c.saved i } ∧
      memory.Saved frame { c.registers with rip := back } ∧
      ∀ a, a < frame ∨ frame + frameBytes ≤ a → memory.byte a = c.memory.byte a := by
  have deep : c.rsp = frame + 64 := room
  have called : Pushed c (c.pushWord back) [back] := (Pushed.none c).push (by omega) back
  have lower : (c.pushWord back).rsp = c.rsp - 8 := rfl
  have pushed := called.pushAll source target [.rbp, .rbx, .r12, .r13, .r14, .r15]
    (by simp [lower]; omega)
  have depth := pushed.rsp
  simp only [List.length_append, List.length_reverse, List.length_map, List.length_cons,
    List.length_nil] at depth
  obtain ⟨memory, eq, mxcsr, fcw, words, elsewhere⟩ :=
    pushed.leaves source target (show _ = frame + 8 by omega)
  rw [← List.foldl_append] at eq
  rw [room] at elsewhere
  exact ⟨memory, eq, ⟨mxcsr, fcw, words, room⟩, elsewhere⟩

/-- The second half takes the registers up from the frame of the target and writes nowhere. -/
theorem takeUp_eq {c : Cpu} {target frame : Nat} {r : Registers} (source : Nat)
    (there : c.saved target = frame) (saved : c.memory.Saved frame r) :
    (takeUpCode.foldl (exec source target) c).registers = r ∧
      (takeUpCode.foldl (exec source target) c).memory = c.memory ∧
      (takeUpCode.foldl (exec source target) c).saved = c.saved := by
  obtain ⟨mxcsr, fcw, ⟨r15, r14, r13, r12, rbx, rbp, rip, _⟩, rsp⟩ := saved
  refine ⟨?_, rfl, rfl⟩
  have vector : UInt32.ofNat (ofBytes (toBytes 4 r.mxcsr.toNat)) = r.mxcsr := by
    rw [ofBytes_toBytes_of_lt r.mxcsr.toNat_lt, UInt32.ofNat_toNat]
  have float : UInt16.ofNat (ofBytes (toBytes 2 r.fcw.bits.toNat)) = r.fcw.bits := by
    rw [ofBytes_toBytes_of_lt r.fcw.bits.toNat_lt, UInt16.ofNat_toNat]
  have top : frame + 8 + 8 + 8 + 8 + 8 + 8 + 8 + 8 = r.rsp := rsp.symm
  simp only [takeUpCode, List.foldl, exec, setReg, registers, there, Nat.add_zero, mxcsr, vector,
    fcw, float, FloatControl.load_bits, Memory.loadWord_eq r15, Memory.loadWord_eq r14,
    Memory.loadWord_eq r13, Memory.loadWord_eq r12, Memory.loadWord_eq rbx, Memory.loadWord_eq rbp,
    Memory.loadWord_eq rip, top, reduceCtorEq, if_true, if_false]

end Cpu

/-- What a primed context finds when it is first taken up, with its frame at `frame`. -/
def Registers.primed (frame : Nat) (trampoline start argument : UInt64) : Registers where
  rsp := frame + frameBytes
  rip := trampoline
  rbx := 0
  rbp := 0
  r12 := start
  r13 := argument
  r14 := 0
  r15 := 0
  mxcsr := defaultMxcsr
  fcw := defaultFcw

/-- Bytes that priming writes: a frame and a word above it. -/
def primedBytes : Nat := 72

theorem frameBytes_le_primedBytes : frameBytes ≤ primedBytes := by decide

/-- Priming stores its words right below the stack's aligned end. -/
theorem prime_stores (m : Memory) (trampoline start argument : UInt64) {stackTop frame : Nat}
    (aligned : stackTop - stackTop % 16 = frame + primedBytes) :
    prime m stackTop trampoline start argument =
      .ok (frame, m.storeWords frame (primedWords trampoline start argument)) := by
  have lowered : stackTop - stackTop % 16 - 72 = frame := by
    rw [aligned, primedBytes, Nat.add_sub_cancel]
  have enough : 72 ≤ stackTop - stackTop % 16 := by
    rw [aligned]
    exact Nat.le_add_left _ _
  rw [prime, Checked.sub_eq_ok enough, ok_bind, lowered, pure_eq_ok]

/-- Priming builds a frame below the stack's aligned end, and a word of its own above that. -/
theorem prime_eq (m : Memory) (trampoline start argument : UInt64) {stackTop frame : Nat}
    (aligned : stackTop - stackTop % 16 = frame + primedBytes) :
    ∃ memory, prime m stackTop trampoline start argument = .ok (frame, memory) ∧
      memory.Saved frame (.primed frame trampoline start argument) ∧
      ∀ a, a < frame ∨ frame + primedBytes ≤ a → memory.byte a = m.byte a := by
  obtain ⟨controls, r15, r14, r13, r12, rbx, rbp, rip, _⟩ :=
    m.words_storeWords frame (primedWords trampoline start argument)
  -- The two control words share one slot: four bytes, then two.
  obtain ⟨mxcsr, rest⟩ := Memory.load_parts (show Memory.load _ frame (4 + 4) = _ from controls)
  obtain ⟨fcw, _⟩ := Memory.load_parts (show Memory.load _ (frame + 4) (2 + 2) = _ from rest)
  have vector : Memory.load _ frame 4 = toBytes 4 defaultMxcsr.toNat := mxcsr.trans (by decide)
  have float : Memory.load _ (frame + 4) 2 = toBytes 2 defaultFcw.bits.toNat :=
    fcw.trans (by decide)
  refine ⟨_, prime_stores m trampoline start argument aligned, ?_, ?_⟩
  · exact ⟨vector, float, ⟨r15, r14, r13, r12, rbx, rbp, rip, trivial⟩, rfl⟩
  · intro a outside
    exact Memory.storeWords_byte_outside outside

end RoundRobin
