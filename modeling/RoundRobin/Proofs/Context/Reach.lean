import RoundRobin.Proofs.Stack
import RoundRobin.Proofs.Context.Isolation

/-!
# How far a switch reaches

Of all the memory, a switch reads the frame that it takes up and nothing else. `Cpu.reads` gives the
addresses instruction by instruction; that none is missing shows in `Alike.exec`: two processors
that differ only in bytes elsewhere do the same. A primed frame lies in the last bytes below the end
of its stack, wherever that end is, so the first switch to it stays inside the stack, and so does
the trampoline.
-/

namespace RoundRobin

namespace Cpu

variable {within : Nat → Prop} {c c' : Cpu} {source target p : Nat}

/-- Addresses of the bytes that an instruction reads. Saved stack pointers are kept apart from
memory. -/
def reads (c : Cpu) : Instruction → List Nat
  | .pop _ | .ret => List.range' c.rsp 8
  | .loadMxcsr offset => List.range' (c.rsp + offset) 4
  | .loadFcw offset => List.range' (c.rsp + offset) 2
  | .push _ | .lower _ | .lift _ | .storeMxcsr _ | .storeFcw _ | .leave | .takeUp => []

def readsAll (source target : Nat) (c : Cpu) : List Instruction → List Nat
  | [] => []
  | i :: code => c.reads i ++ readsAll source target (c.exec source target i) code

theorem readsAll_append (c : Cpu) (first second : List Instruction) :
    c.readsAll source target (first ++ second) = c.readsAll source target first ++
      (first.foldl (exec source target) c).readsAll source target second := by
  induction first generalizing c with
  | nil => rfl
  | cons i first ih =>
    rw [List.cons_append, readsAll, readsAll, ih, List.append_assoc, List.foldl_cons]

/-- Leaving a frame behind takes no look at memory. -/
theorem readsAll_leaveCode (c : Cpu) : c.readsAll source target leaveCode = [] := rfl

/-- Six bytes of control words, then seven words; two bytes between them are not looked at. -/
theorem readsAll_takeUpCode (there : c.saved target = p) :
    c.readsAll source target takeUpCode = List.range' p 6 ++ List.range' (p + 8) 56 := by
  -- No address depends on what was read before it, so all of them can be computed.
  subst there
  rfl

/-- Two processors that differ at most in bytes that are not `within`. -/
structure Alike (within : Nat → Prop) (c c' : Cpu) : Prop where
  bytes : ∀ a, within a → c'.memory.byte a = c.memory.byte a
  rest : c' = { c with memory := c'.memory }

namespace Alike

theorem pushWord (alike : Alike within c c') (w : UInt64) :
    Alike within (c.pushWord w) (c'.pushWord w) := by
  obtain ⟨bytes, rest⟩ := alike
  rw [rest]
  exact ⟨fun a inside => Memory.store_byte_congr _ (bytes a inside), rfl⟩

/-- What an instruction does depends on the bytes that it reads and on no others. -/
theorem exec (alike : Alike within c c') (i : Instruction) (inside : ∀ a ∈ c.reads i, within a) :
    Alike within (c.exec source target i) (c'.exec source target i) := by
  obtain ⟨bytes, rest⟩ := alike
  generalize c'.memory = m at bytes rest
  subst rest
  have stored : ∀ address data a, within a →
      (m.store address data).byte a = (c.memory.store address data).byte a :=
    fun _ data a inside => Memory.store_byte_congr data (bytes a inside)
  have loaded : ∀ {address count : Nat}, (∀ a ∈ List.range' address count, within a) →
      m.load address count = c.memory.load address count := fun inside =>
    Memory.load_congr fun a above below =>
      bytes a (inside a (List.mem_range'_1.mpr ⟨above, below⟩))
  cases i with
  | push r => exact ⟨stored _ _, rfl⟩
  | storeMxcsr offset => exact ⟨stored _ _, rfl⟩
  | storeFcw offset => exact ⟨stored _ _, rfl⟩
  | pop r =>
    refine ⟨bytes, ?_⟩
    simp only [Cpu.exec, Memory.loadWord, loaded inside]
    rfl
  | ret => exact ⟨bytes, by simp only [Cpu.exec, Memory.loadWord, loaded inside]⟩
  | loadMxcsr offset => exact ⟨bytes, by simp only [Cpu.exec, loaded inside]⟩
  | loadFcw offset => exact ⟨bytes, by simp only [Cpu.exec, loaded inside]⟩
  | lower n => exact ⟨bytes, rfl⟩
  | lift n => exact ⟨bytes, rfl⟩
  | leave => exact ⟨bytes, rfl⟩
  | takeUp => exact ⟨bytes, rfl⟩

theorem execAll (alike : Alike within c c') (code : List Instruction)
    (inside : ∀ a ∈ c.readsAll source target code, within a) :
    Alike within (code.foldl (Cpu.exec source target) c)
      (code.foldl (Cpu.exec source target) c') := by
  induction code generalizing c c' with
  | nil => exact alike
  | cons i code ih =>
    rw [readsAll, List.forall_mem_append] at inside
    exact ih (alike.exec i inside.1) inside.2

theorem switch (alike : Alike within c c') (back : UInt64)
    (inside : ∀ a ∈ (c.pushWord back).readsAll source target switchCode, within a) :
    Alike within (c.switch source target back) (c'.switch source target back) := by
  rw [Cpu.switch, Cpu.switch]
  exact (alike.pushWord back).execAll switchCode inside

/-- The trampoline has all that it needs in registers. -/
theorem trampoline (alike : Alike within c c') (stop : UInt64) :
    Alike within (c.trampoline stop) (c'.trampoline stop) := by
  obtain ⟨bytes, rest⟩ := alike
  rw [rest]
  exact ⟨fun a inside => Memory.store_byte_congr _ (bytes a inside), rfl⟩

end Alike

end Cpu

namespace Stint

open Cpu

variable {s : Stint} {p : Nat}

/-- The switch at the end of the stint takes up a frame at `p` that another context waits in. -/
def TakesUp (s : Stint) (p : Nat) : Prop := s.source ≠ s.target ∧ s.cpu.saved s.target = p

def reads (s : Stint) : List Nat :=
  (s.cpu.pushWord s.back).readsAll s.source s.target switchCode

def withMemory (s : Stint) (m : Memory) : Stint := { s with cpu := { s.cpu with memory := m } }

/-- The switch, and the trampoline after it, read bytes that are `within` and no others. `addresses`
says so of the instructions; `switched` and `started` say it of the outcome, which is the same
whatever bytes lie elsewhere. -/
structure ReadsOnly (s : Stint) (within : Nat → Prop) : Prop where
  addresses : ∀ a ∈ s.reads, within a
  switched : ∀ m, (∀ a, within a → m.byte a = s.cpu.memory.byte a) →
    Alike within s.after (s.withMemory m).after
  started : ∀ m stop, (∀ a, within a → m.byte a = s.cpu.memory.byte a) →
    Alike within (s.after.trampoline stop) ((s.withMemory m).after.trampoline stop)

theorem TakesUp.left_saved (takes : s.TakesUp p) :
    (s.cpu.left s.source s.target s.back).saved s.target = p :=
  (if_neg takes.1.symm).trans takes.2

theorem TakesUp.reads_eq (takes : s.TakesUp p) :
    s.reads = List.range' p 6 ++ List.range' (p + 8) 56 := by
  rw [reads, switchCode_eq, readsAll_append, readsAll_leaveCode, List.nil_append]
  exact readsAll_takeUpCode takes.left_saved

/-- A switch that takes up a frame reads that frame and nothing else. -/
theorem TakesUp.readsOnly (takes : s.TakesUp p) {within : Nat → Prop}
    (covers : ∀ a, p ≤ a → a < p + frameBytes → within a) : s.ReadsOnly within := by
  have addresses : ∀ a ∈ s.reads, within a := by
    intro a read
    rw [takes.reads_eq, List.mem_append, List.mem_range'_1, List.mem_range'_1] at read
    unfold frameBytes at covers
    exact covers a (by omega) (by omega)
  have switched : ∀ m, (∀ a, within a → m.byte a = s.cpu.memory.byte a) →
      Alike within s.after (s.withMemory m).after := by
    intro m same
    have alike : Alike within s.cpu (s.withMemory m).cpu := ⟨same, rfl⟩
    exact alike.switch s.back addresses
  exact ⟨addresses, switched, fun m stop same => (switched m same).trampoline stop⟩

/-- The switch leaves the stack pointer above the frame, and the trampoline lowers it again. -/
theorem TakesUp.rsp_eq (takes : s.TakesUp p) (aligned : p % 16 = 8) (stop : UInt64) :
    s.after.rsp = p + frameBytes ∧ (s.after.trampoline stop).rsp = p + 48 := by
  have lifted : s.after.rsp = p + frameBytes := by
    rw [Stint.after, switch_eq, ← takes.left_saved]
    rfl
  have entered : (s.after.trampoline stop).rsp = s.after.rsp - s.after.rsp % 16 - 8 := rfl
  refine ⟨lifted, ?_⟩
  rw [entered, lifted]
  unfold frameBytes
  omega

end Stint

section Priming

variable (m : Memory) (trampoline start argument : UInt64) {stackTop : Nat}

/-- Aligning the end of the stack costs fifteen bytes at most, so the words come to lie in the last
87; they are an odd number, so they begin in the middle of an aligned pair. -/
theorem prime_placed (room : 80 ≤ stackTop) :
    ∃ p, prime m stackTop trampoline start argument =
        .ok (p, m.storeWords p (primedWords trampoline start argument)) ∧
      p % 16 = 8 ∧ stackTop ≤ p + 87 ∧ p + primedBytes ≤ stackTop := by
  have aligned : stackTop - stackTop % 16 = stackTop - stackTop % 16 - 72 + primedBytes := by
    unfold primedBytes
    omega
  refine ⟨_, prime_stores m trampoline start argument aligned, ?_⟩
  unfold primedBytes
  omega

theorem prime_underflow_iff :
    prime m stackTop trampoline start argument = .error (.fault .subOverflow) ↔
      stackTop < 80 := by
  constructor
  · intro fails
    refine Nat.lt_of_not_le fun room => ?_
    obtain ⟨p, primed, _⟩ := prime_placed m trampoline start argument room
    cases fails.symm.trans primed
  · intro low
    rw [prime, Checked.sub, if_neg (by omega), error_bind]

end Priming

namespace Stack

variable {map : Nat → Except OsError Nat} {usable : Nat} {stack : Stack}

/-- What lies in the last 87 bytes below the end of a stack lies above its guard. -/
theorem holds_primed (requested : request map usable = .ok (.ok stack)) {p : Nat}
    (near : stack.top ≤ p + 87) (below : p + primedBytes ≤ stack.top) :
    stack.bottom < p ∧ ∀ a, p ≤ a → a < p + primedBytes → stack.contains a = true := by
  have page := bottom_add_page_le_top requested
  unfold pageSize at page
  refine ⟨by omega, ?_⟩
  intro a above inside
  simp only [contains, Bool.and_eq_true, decide_eq_true_eq]
  omega

end Stack

/-- Wherever a stack ends, aligned or not, its first frame is built in the last 87 bytes below: nine
words at `p`, and nothing is written elsewhere. Only an end below 80 leaves no room. The switch that
takes that frame up, and the trampoline after it, read nothing from the end of the stack upwards. On
a stack that the system has mapped, of whatever size, all of this happens above the guard. -/
theorem primed_frame_inside_stack (m : Memory) (trampoline start argument : UInt64) :
    (∀ stackTop, prime m stackTop trampoline start argument = .error (.fault .subOverflow) ↔
      stackTop < 80) ∧
    (∀ stackTop, 88 ≤ stackTop →
      ∃ p m', prime m stackTop trampoline start argument = .ok (p, m') ∧
        p % 16 = 8 ∧ stackTop - 87 ≤ p ∧ p + 72 ≤ stackTop ∧
        m'.Words p [0x037F00001F80, 0, 0, argument, start, 0, 0, trampoline, 0] ∧
        (∀ a, a < p ∨ p + 72 ≤ a → m'.byte a = m.byte a) ∧
        ∀ s : Stint, s.TakesUp p → s.ReadsOnly (· < stackTop) ∧
          ∀ stop, s.after.rsp = p + 64 ∧ (s.after.trampoline stop).rsp = p + 48) ∧
    ∀ map usable stack, Stack.request map usable = .ok (.ok stack) →
      88 ≤ stack.top ∧ ∃ p m', prime m stack.top trampoline start argument = .ok (p, m') ∧
        stack.bottom < p ∧ p + 72 ≤ stack.top ∧
        (∀ a, p ≤ a → a < p + 72 → stack.contains a = true) ∧
        (∀ a, stack.contains a = false → m'.byte a = m.byte a) ∧
        ∀ s : Stint, s.TakesUp p → s.ReadsOnly fun a => stack.contains a = true := by
  refine ⟨fun _ => prime_underflow_iff m trampoline start argument, ?_, ?_⟩
  · intro stackTop room
    obtain ⟨p, primed, aligned, near, below⟩ :=
      prime_placed m trampoline start argument (Nat.le_trans (by decide) room)
    refine ⟨p, _, primed, aligned, Nat.sub_le_of_le_add near, below, m.words_storeWords p _,
      fun a outside => Memory.storeWords_byte_outside outside, ?_⟩
    intro s takes
    have shorter := frameBytes_le_primedBytes
    refine ⟨takes.readsOnly ?_, takes.rsp_eq aligned⟩
    intro a _ inside
    omega
  · intro map usable stack requested
    have page := Stack.bottom_add_page_le_top requested
    have room : 88 ≤ stack.top :=
      Nat.le_trans (by decide) (Nat.le_trans (Nat.le_add_left pageSize stack.bottom) page)
    obtain ⟨p, primed, _, near, below⟩ :=
      prime_placed m trampoline start argument (Nat.le_trans (by decide) room)
    obtain ⟨above, held⟩ := Stack.holds_primed requested near below
    have apart : ∀ a, stack.contains a = false → a < p ∨ p + primedBytes ≤ a := by
      intro a outside
      by_contra inside
      have held := held a (by omega) (by omega)
      simp [held] at outside
    refine ⟨room, p, _, primed, above, below, held,
      fun a outside => Memory.storeWords_byte_outside (apart a outside), ?_⟩
    intro s takes
    have shorter := frameBytes_le_primedBytes
    exact takes.readsOnly fun a low inside => held a low (by omega)

def Stint.toFrame (p : Nat) (m : Memory) : Stint :=
  ⟨1, { duoCpu with memory := m, saved := fun _ => p }, 0, 0x3001⟩

/-- An end that is fifteen bytes past an aligned one, so that the frame lies as far below it as it
can, and the smallest stack that can be had. -/
theorem primed_frame_inside_stack_farthest :
    88 ≤ 0x1000F ∧
    (∃ m', prime .zero 0x1000F 0x1000 0x2000 7 = .ok (0x1000F - 87, m') ∧
      m'.Words (0x1000F - 87) [0x037F00001F80, 0, 0, 7, 0x2000, 0, 0, 0x1000, 0] ∧
      (Stint.toFrame (0x1000F - 87) m').TakesUp (0x1000F - 87) ∧
      (Stint.toFrame (0x1000F - 87) m').ReadsOnly (· < 0x1000F)) ∧
    Stack.request (mapAt 0x7000) 0 = .ok (.ok ⟨0x7000, 0x2000⟩) ∧
    ∃ p m', prime .zero 0x9000 0x1000 0x2000 7 = .ok (p, m') ∧ 0x8000 < p ∧ p + 72 ≤ 0x9000 ∧
      (Stint.toFrame p m').TakesUp p ∧
      (Stint.toFrame p m').ReadsOnly fun a => Stack.contains ⟨0x7000, 0x2000⟩ a = true := by
  obtain ⟨_, ends, onStack⟩ := primed_frame_inside_stack .zero 0x1000 0x2000 7
  have takes : ∀ p m, (Stint.toFrame p m).TakesUp p := fun _ _ => ⟨Nat.one_ne_zero, rfl⟩
  have mapped : Stack.request (mapAt 0x7000) 0 = .ok (.ok ⟨0x7000, 0x2000⟩) := rfl
  obtain ⟨p, m', primed, aligned, near, below, words, _, reads⟩ := ends 0x1000F (by decide)
  obtain rfl : p = 0x1000F - 87 := by omega
  obtain ⟨_, q, m'', primed', above, below', _, _, reads'⟩ := onStack _ _ _ mapped
  exact ⟨by decide, ⟨m', primed, words, takes _ _, (reads _ (takes _ _)).1⟩, mapped,
    q, m'', primed', above, below', takes _ _, reads' _ (takes _ _)⟩

end RoundRobin
