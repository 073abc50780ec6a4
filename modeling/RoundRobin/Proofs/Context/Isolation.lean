import RoundRobin.Proofs.Context.Frame

/-!
# Contexts on one processor

Any number of contexts share the registers and the memory. Between two switches the running one may
do what it likes with the registers and with memory, the frames of the others excepted. Whoever is
taken up then finds its registers as it left them; whoever was primed and has not run yet finds what
its frame was built from, and comes from there to its function on an aligned stack.
-/

namespace RoundRobin

/-- A stretch of memory, its top excluded. -/
structure Extent where
  bottom : Nat
  top : Nat
  deriving DecidableEq, Repr

def Extent.Apart (a b : Extent) : Prop := a.top ≤ b.bottom ∨ b.top ≤ a.bottom

instance (a b : Extent) : Decidable (a.Apart b) := inferInstanceAs (Decidable (_ ∨ _))

theorem Extent.Apart.symm {a b : Extent} (apart : a.Apart b) : b.Apart a := Or.symm apart

/-- A context that is to be primed. Its stack has room for what priming writes, wherever that is
moved to by alignment. -/
structure Newcomer where
  stack : Extent
  start : UInt64
  argument : UInt64
  room : stack.bottom + primedBytes + 15 ≤ stack.top

namespace Newcomer

def frame (x : Newcomer) : Nat := x.stack.top - x.stack.top % 16 - primedBytes

theorem aligned (x : Newcomer) :
    x.stack.top - x.stack.top % 16 = x.frame + primedBytes ∧ x.stack.bottom ≤ x.frame := by
  have room := x.room
  unfold frame primedBytes at *
  omega

def registers (x : Newcomer) (trampoline : UInt64) : Registers :=
  .primed x.frame trampoline x.start x.argument

end Newcomer

/-- Primes newcomers as the contexts `i`, `i + 1` and so on. -/
def Cpu.primeFrom (trampoline : UInt64) (c : Cpu) (i : Nat) : List Newcomer → Except Halt Cpu
  | [] => .ok c
  | x :: rest => do
    let (frame, memory) ← prime c.memory x.stack.top trampoline x.start x.argument
    { c with
      memory
      saved := fun j => if j = i then frame else c.saved j }.primeFrom trampoline (i + 1) rest

/-- Priming newcomers on stacks of their own builds a frame for each and writes to no other
stack. -/
theorem Cpu.primeFrom_eq (trampoline : UInt64) (c : Cpu) (i : Nat) (xs : List Newcomer)
    (apart : (xs.map Newcomer.stack).Pairwise Extent.Apart) :
    ∃ c', c.primeFrom trampoline i xs = .ok c' ∧ c'.registers = c.registers ∧
      (∀ k x, xs[k]? = some x → c'.saved (i + k) = x.frame ∧
        c'.memory.Saved x.frame (x.registers trampoline)) ∧
      (∀ j, j < i → c'.saved j = c.saved j) ∧
      ∀ a, (∀ x ∈ xs, a < x.stack.bottom ∨ x.stack.top ≤ a) →
        c'.memory.byte a = c.memory.byte a := by
  induction xs generalizing c i with
  | nil => exact ⟨c, rfl, rfl, by simp, fun _ _ => rfl, fun _ _ => rfl⟩
  | cons x rest ih =>
    rw [List.map_cons, List.pairwise_cons] at apart
    obtain ⟨aligned, bottom⟩ := x.aligned
    obtain ⟨memory, primed, saved, elsewhere⟩ :=
      prime_eq c.memory trampoline x.start x.argument aligned
    obtain ⟨c', rests, registers, frames, earlier, untouched⟩ :=
      ih { c with memory, saved := fun j => if j = i then x.frame else c.saved j } (i + 1) apart.2
    refine ⟨c', ?_, registers, ?_, ?_, ?_⟩
    · rw [primeFrom, primed, ok_bind]
      exact rests
    · intro k y there
      cases k with
      | zero =>
        obtain rfl := Option.some.inj there
        refine ⟨?_, saved.congr ?_⟩
        · exact (earlier i (by omega)).trans (if_pos rfl)
        · intro a above below
          refine untouched a ?_
          intro y other
          have apart : x.stack.Apart y.stack := apart.1 _ (List.mem_map_of_mem other)
          have shorter := frameBytes_le_primedBytes
          unfold Extent.Apart at apart
          omega
      | succ k =>
        have next := frames k y there
        rwa [Nat.add_assoc, Nat.add_comm 1 k] at next
    · intro j below
      have other : j ≠ i := by omega
      exact (earlier j (by omega)).trans (if_neg other)
    · intro a outside
      have own := outside x List.mem_cons_self
      rw [untouched a fun y other => outside y (List.mem_cons_of_mem x other)]
      exact elsewhere a (by omega)

/-- Contexts to be primed and the main context, which runs first, each on a stack of its own. -/
structure Cast where
  newcomers : List Newcomer
  mainStack : Extent
  apart : (newcomers.map Newcomer.stack ++ [mainStack]).Pairwise Extent.Apart

/-- A context's time on the processor, up to its call of a switch. -/
structure Stint where
  source : Nat
  /-- The processor when the switch is called. -/
  cpu : Cpu
  target : Nat
  /-- Where the source goes on when it is taken up again. -/
  back : UInt64

def Stint.after (s : Stint) : Cpu := s.cpu.switch s.source s.target s.back

namespace Cast

def main (t : Cast) : Nat := t.newcomers.length

def stack? (t : Cast) (i : Nat) : Option Extent :=
  (t.newcomers.map Newcomer.stack ++ [t.mainStack])[i]?

theorem apart_of_ne (t : Cast) {i j : Nat} {a b : Extent} (ne : i ≠ j) (ha : t.stack? i = some a)
    (hb : t.stack? j = some b) : a.Apart b := by
  obtain ⟨hi, rfl⟩ := List.getElem?_eq_some_iff.mp ha
  obtain ⟨hj, rfl⟩ := List.getElem?_eq_some_iff.mp hb
  have apart := List.pairwise_iff_getElem.mp t.apart
  rcases Nat.lt_or_gt_of_ne ne with before | after
  · exact apart i j hi hj before
  · exact (apart j i hj hi after).symm

/-- What context `i` may make of the processor before it calls a switch: it comes to that call with
room for a frame on its own stack, and leaves alone the frames of the others and their saved stack
pointers. -/
structure Works (t : Cast) (i : Nat) (c c' : Cpu) : Prop where
  inside : ∃ stack, t.stack? i = some stack ∧ stack.bottom + frameBytes ≤ c'.rsp ∧
    c'.rsp ≤ stack.top
  saved : ∀ j, j ≠ i → c'.saved j = c.saved j
  frames : ∀ j, j ≠ i → (t.stack? j).isSome → ∀ a, c.saved j ≤ a → a < c.saved j + frameBytes →
    c'.memory.byte a = c.memory.byte a

/-- Stints on the processor one after the other, the latest first, with the context that runs
after them. The main context begins. -/
inductive Run (t : Cast) (start : Cpu) : List Stint → Nat → Cpu → Prop where
  | begin : t.Run start [] t.main start
  | turn {history : List Stint} {c : Cpu} (s : Stint) (earlier : t.Run start history s.source c)
      (works : t.Works s.source c s.cpu) (known : (t.stack? s.target).isSome) :
      t.Run start (s :: history) s.target s.after

def latest? (history : List Stint) (i : Nat) : Option Stint :=
  history.find? fun s => s.source == i

/-- The registers that context `i` is to find: those of its latest stint, or those it was primed
with if it never ran. -/
inductive Due (t : Cast) (trampoline : UInt64) (history : List Stint) (i : Nat) : Registers → Prop
  | left (s : Stint) (latest : latest? history i = some s) :
      t.Due trampoline history i { s.cpu.registers with rip := s.back }
  | fresh (x : Newcomer) (never : latest? history i = none) (primed : t.newcomers[i]? = some x) :
      t.Due trampoline history i (x.registers trampoline)

/-- Context `i` waits in a frame on its own stack, with the registers that are due to it. -/
structure Parked (t : Cast) (trampoline : UInt64) (history : List Stint) (c : Cpu) (i : Nat) :
    Prop where
  frame : ∃ r, t.Due trampoline history i r ∧ c.memory.Saved (c.saved i) r
  inside : ∃ stack, t.stack? i = some stack ∧ stack.bottom ≤ c.saved i ∧
    c.saved i + frameBytes ≤ stack.top

variable {t : Cast} {trampoline : UInt64} {history : List Stint} {c : Cpu} {i j : Nat}

/-- Whoever waits goes on waiting while others work and switch: what is due to it does not change,
and nobody writes to its frame. -/
theorem Parked.stays {c' : Cpu} {s : Stint} (parked : t.Parked trampoline history c j)
    (other : s.source ≠ j) (saved : c'.saved j = c.saved j)
    (untouched : ∀ a, c.saved j ≤ a → a < c.saved j + frameBytes →
      c'.memory.byte a = c.memory.byte a) :
    t.Parked trampoline (s :: history) c' j := by
  obtain ⟨⟨r, due, frame⟩, inside⟩ := parked
  have same : latest? (s :: history) j = latest? history j := by
    simp [latest?, other]
  have due' : t.Due trampoline (s :: history) j r := by
    cases due with
    | left s' latest => exact .left s' (same.trans latest)
    | fresh x never primed => exact .fresh x (same.trans never) primed
  rw [← saved] at frame inside untouched
  exact ⟨⟨r, due', frame.congr untouched⟩, inside⟩

/-- Once a stint has left its frame behind, every context waits. -/
theorem Works.parks {s : Stint} (works : t.Works s.source c s.cpu)
    (others : ∀ j, j ≠ s.source → (t.stack? j).isSome → t.Parked trampoline history c j)
    (known : (t.stack? j).isSome) :
    t.Parked trampoline (s :: history) (s.cpu.left s.source s.target s.back) j := by
  obtain ⟨stack, own, low, high⟩ := works.inside
  have room : s.cpu.rsp = s.cpu.rsp - frameBytes + frameBytes := by omega
  obtain ⟨memory, left, saved, elsewhere⟩ := s.cpu.left_eq s.source s.target s.back room
  rw [left]
  by_cases same : s.source = j
  · subst same
    refine ⟨⟨_, .left s (by simp [latest?]), ?_⟩, stack, own, ?_, ?_⟩
    · simpa using saved
    · simp only [if_true]
      omega
    · simp only [if_true]
      omega
  · have parked := others j (Ne.symm same) known
    obtain ⟨other, theirs, bottom, top⟩ := parked.inside
    have apart := t.apart_of_ne same own theirs
    unfold Extent.Apart at apart
    refine parked.stays same ?_ ?_
    · simp only [Ne.symm same, if_false]
      exact works.saved j (Ne.symm same)
    · intro a above below
      rw [elsewhere a (by omega)]
      exact works.frames j (Ne.symm same) known a above below

/-- After any run the others wait, and the context that runs has found what was due to it. -/
theorem Run.parked {start : Cpu} (run : t.Run start history i c)
    (primed : ∀ j, j ≠ t.main → (t.stack? j).isSome → t.Parked trampoline [] start j) :
    (∀ j, j ≠ i → (t.stack? j).isSome → t.Parked trampoline history c j) ∧
      (history ≠ [] → t.Due trampoline history i c.registers) := by
  induction run with
  | begin => exact ⟨primed, fun nothing => absurd rfl nothing⟩
  | turn s earlier works known ih =>
    have waits := fun j => works.parks (j := j) ih.1
    obtain ⟨r, due, frame⟩ := (waits s.target known).frame
    obtain ⟨registers, memory, saved⟩ := Cpu.takeUp_eq s.source rfl frame
    rw [← Cpu.switch_eq] at registers memory saved
    refine ⟨?_, ?_⟩
    · intro j _ known
      obtain ⟨frame, inside⟩ := waits j known
      rw [← memory, ← saved] at frame
      rw [← saved] at inside
      exact ⟨frame, inside⟩
    · intro _
      rw [Stint.after, registers]
      exact due

/-- Priming leaves every newcomer waiting. -/
theorem primed_parked (t : Cast) (trampoline : UInt64) (c : Cpu) :
    ∃ start, c.primeFrom trampoline 0 t.newcomers = .ok start ∧ start.registers = c.registers ∧
      ∀ j, j ≠ t.main → (t.stack? j).isSome → t.Parked trampoline [] start j := by
  have apart := (List.pairwise_append.mp t.apart).1
  obtain ⟨start, primed, registers, frames, _⟩ := c.primeFrom_eq trampoline 0 t.newcomers apart
  refine ⟨start, primed, registers, ?_⟩
  intro j newcomer known
  obtain ⟨stack, own⟩ := Option.isSome_iff_exists.mp known
  have bound : j < t.newcomers.length := by
    obtain ⟨inside, _⟩ := List.getElem?_eq_some_iff.mp own
    simp only [List.length_append, List.length_map, List.length_singleton] at inside
    unfold main at newcomer
    omega
  have there : t.newcomers[j]? = some t.newcomers[j] := List.getElem?_eq_getElem bound
  obtain ⟨saved, frame⟩ := frames j _ there
  rw [Nat.zero_add] at saved
  obtain ⟨aligned, bottom⟩ := t.newcomers[j].aligned
  refine ⟨⟨_, .fresh _ rfl there, saved ▸ frame⟩, t.newcomers[j].stack, ?_, ?_, ?_⟩
  · rw [stack?, List.getElem?_append_left (by simpa using bound), List.getElem?_map, there]
    rfl
  · rw [saved]
    exact bottom
  · have shorter := frameBytes_le_primedBytes
    rw [saved]
    omega

end Cast

/-- A newcomer that is taken up comes through the trampoline to its function, with its argument, on
an aligned stack below the return address. -/
theorem Newcomer.starts (x : Newcomer) {trampoline : UInt64} {c : Cpu} (stop : UInt64)
    (found : c.registers = x.registers trampoline) :
    (c.trampoline stop).rip = x.start ∧ (c.trampoline stop).reg .rdi = x.argument ∧
      (c.trampoline stop).rsp % 16 = 8 := by
  have start : c.reg .r12 = x.start := congrArg Registers.r12 found
  have argument : c.reg .r13 = x.argument := congrArg Registers.r13 found
  have rsp : c.rsp = x.frame + frameBytes := congrArg Registers.rsp found
  obtain ⟨aligned, _⟩ := x.aligned
  refine ⟨?_, ?_, ?_⟩
  · simp [Cpu.trampoline, Cpu.pushWord, Cpu.setReg, start]
  · simp [Cpu.trampoline, Cpu.pushWord, Cpu.setReg, argument]
  · have entered : (c.trampoline stop).rsp = c.rsp - c.rsp % 16 - 8 := rfl
    rw [entered, rsp]
    unfold frameBytes
    unfold primedBytes at aligned
    omega

/-- Whatever contexts do between switches, short of writing to the frames of others, each finds its
registers and both control words as they were when it last switched away, and goes on after that
switch. A primed context that is taken up for the first time starts at the trampoline with its
function and its argument, cleared registers and default control words, and enters its function on
an aligned stack. -/
theorem contexts_isolated (t : Cast) (trampoline : UInt64) (c₀ : Cpu) :
    ∃ start, c₀.primeFrom trampoline 0 t.newcomers = .ok start ∧
      start.registers = c₀.registers ∧
      ∀ history i c, t.Run start history i c → history ≠ [] →
        (∀ s, Cast.latest? history i = some s →
          c.registers = { s.cpu.registers with rip := s.back }) ∧
        (Cast.latest? history i = none →
          ∃ x, t.newcomers[i]? = some x ∧ c.rip = trampoline ∧
            c.reg .r12 = x.start ∧ c.reg .r13 = x.argument ∧
            c.reg .rbx = 0 ∧ c.reg .rbp = 0 ∧ c.reg .r14 = 0 ∧ c.reg .r15 = 0 ∧
            c.mxcsr = 0x1F80 ∧ c.fcw.bits = 0x037F ∧
            ∀ stop, (c.trampoline stop).rip = x.start ∧
              (c.trampoline stop).reg .rdi = x.argument ∧ (c.trampoline stop).rsp % 16 = 8) := by
  obtain ⟨start, primed, registers, parked⟩ := t.primed_parked trampoline c₀
  refine ⟨start, primed, registers, ?_⟩
  intro history i c run switched
  have due := (run.parked parked).2 switched
  generalize found : c.registers = r at due
  cases due with
  | left s latest =>
    refine ⟨?_, ?_⟩
    · intro s' latest'
      rw [Option.some.inj (latest'.symm.trans latest)]
    · intro never
      simp [never] at latest
  | fresh x never there =>
    refine ⟨?_, ?_⟩
    · intro s latest
      simp [never] at latest
    · intro _
      refine ⟨x, there, congrArg Registers.rip found, congrArg Registers.r12 found,
        congrArg Registers.r13 found, congrArg Registers.rbx found, congrArg Registers.rbp found,
        congrArg Registers.r14 found, congrArg Registers.r15 found,
        congrArg Registers.mxcsr found, ?_, fun stop => x.starts stop found⟩
      exact congrArg (fun r => r.fcw.bits) found

/-- Two newcomers, one of them on a stack whose end is not aligned. -/
def duo : Cast where
  newcomers :=
    [⟨⟨0x10000, 0x11000⟩, 0x2000, 1, by decide⟩, ⟨⟨0x20000, 0x21007⟩, 0x2400, 2, by decide⟩]
  mainStack := ⟨0x30000, 0x31000⟩
  apart := by decide

def duoCpu : Cpu := ⟨0x30FF8, 0, fun _ => 0, defaultMxcsr, defaultFcw, .zero, fun _ => 0⟩

def duoStart : Cpu :=
  match duoCpu.primeFrom 0x1000 0 duo.newcomers with
  | .ok c => c
  | .error _ => duoCpu

def outward : Stint := ⟨2, { duoStart with reg := fun _ => 5 }, 0, 0x3002⟩

def onward : Stint :=
  ⟨0, { outward.after with reg := fun _ => 9, mxcsr := 0x9FC0, fcw := .load 0x0F7F }, 1, 0x3000⟩

def homeward : Stint := ⟨1, { onward.after with reg := fun _ => 11 }, 2, 0x3001⟩

def outwardAgain : Stint := ⟨2, homeward.after, 0, 0x3002⟩

/-- The first newcomer begins at the trampoline; after the second one and the main context have run,
it has its registers and control words back. -/
theorem contexts_isolated_interleaved :
    ∃ start, duoCpu.primeFrom 0x1000 0 duo.newcomers = .ok start ∧
      (duo.Run start [outward] 0 outward.after ∧ outward.after.rip = 0x1000 ∧
        outward.after.reg .r13 = 1 ∧ outward.after.mxcsr = 0x1F80) ∧
      duo.Run start [outwardAgain, homeward, onward, outward] 0 outwardAgain.after ∧
        outwardAgain.after.rip = 0x3000 ∧ outwardAgain.after.reg .rbx = 9 ∧
        outwardAgain.after.mxcsr = 0x9FC0 ∧ outwardAgain.after.fcw = .load 0x0F7F := by
  obtain ⟨start, primed, _, all⟩ := contexts_isolated duo 0x1000 duoCpu
  have same : duoStart = start := by rw [duoStart, primed]
  subst same
  have first : duo.Run duoStart [outward] 0 outward.after :=
    .turn outward .begin
      ⟨⟨_, rfl, by decide +kernel, by decide +kernel⟩, fun _ _ => rfl, fun _ _ _ _ _ _ => rfl⟩ rfl
  have second : duo.Run duoStart [onward, outward] 1 onward.after :=
    .turn onward first
      ⟨⟨_, rfl, by decide +kernel, by decide +kernel⟩, fun _ _ => rfl, fun _ _ _ _ _ _ => rfl⟩ rfl
  have third : duo.Run duoStart [homeward, onward, outward] 2 homeward.after :=
    .turn homeward second
      ⟨⟨_, rfl, by decide +kernel, by decide +kernel⟩, fun _ _ => rfl, fun _ _ _ _ _ _ => rfl⟩ rfl
  have fourth : duo.Run duoStart [outwardAgain, homeward, onward, outward] 0 outwardAgain.after :=
    .turn outwardAgain third
      ⟨⟨_, rfl, by decide +kernel, by decide +kernel⟩, fun _ _ => rfl, fun _ _ _ _ _ _ => rfl⟩ rfl
  obtain ⟨x, there, rip, _, argument, _, _, _, _, mxcsr, _⟩ :=
    (all _ _ _ first (List.cons_ne_nil _ _)).2 rfl
  obtain rfl := Option.some.inj there
  have back := (all _ _ _ fourth (List.cons_ne_nil _ _)).1 onward rfl
  generalize outwardAgain.after = c at fourth back ⊢
  exact ⟨duoStart, primed, ⟨first, rip, argument, mxcsr⟩, fourth, congrArg Registers.rip back,
    congrArg Registers.rbx back, congrArg Registers.mxcsr back, congrArg Registers.fcw back⟩

end RoundRobin
