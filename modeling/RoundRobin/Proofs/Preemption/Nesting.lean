import RoundRobin.Preemption.Gate

/-!
# Critical sections inside one another

A section remembers the mask that it found and puts it back blindly, so what the mask says in the end
depends on every value that was remembered on the way. If sections are left in the reverse order of
entry, each of them remembers whether preemption was held off from the start or some section was
held, and then the mask says the same of the sections that are held now.

Sections are entered and left by hand, or around a piece of code that may do the same inside.
-/

namespace RoundRobin.Gate

inductive Script where
  | done
  | enter (next : Script)
  /-- Leaves the section in this place, the newest one being in place 0. -/
  | drop (place : Nat) (next : Script)
  /-- Asks whether preemption is held off. -/
  | ask (next : Script)
  | within (body next : Script)
  deriving DecidableEq, Repr

/-- What can be seen on the way, with the number of sections held just before: whether preemption is
held off, and the section that is entered. -/
inductive Reading where
  | masked (held : Nat) (answer : Bool)
  | entered (held : Nat) (guard : Guard)
  deriving DecidableEq, Repr

structure Account where
  log : List Reading
  gate : Gate
  /-- The sections that were entered by hand and not left, newest first. -/
  held : List Guard
  deriving DecidableEq, Repr

def Account.after (readings : List Reading) (account : Account) : Account :=
  { account with log := readings ++ account.log }

namespace Script

/-- Runs a script while `around` sections of enclosing pieces of code are held besides those in
`held`. -/
def perform (around : Nat) : Script → Gate → List Guard → Account
  | .done, gate, held => ⟨[], gate, held⟩
  | .enter next, gate, held =>
    let (guard, gate) := gate.enter
    (next.perform around gate (guard :: held)).after [.entered (around + held.length) guard]
  | .drop place next, gate, held =>
    match held[place]? with
    | some guard => next.perform around (gate.leave guard) (held.eraseIdx place)
    | none => next.perform around gate held
  | .ask next, gate, held =>
    (next.perform around gate held).after [.masked (around + held.length) gate.masked]
  | .within body next, gate, held =>
    let (inner, outside) := gate.within fun inside =>
      let inner := body.perform (around + 1) inside held
      (inner, inner.gate)
    (next.perform around outside inner.held).after
      (.entered (around + held.length) gate.enter.1 :: inner.log)

def run (script : Script) (initially : Bool) : Account := script.perform 0 ⟨initially⟩ []

/-- Sections are left newest first, and a piece of code leaves the sections that it enters and no
others. The numbers count the sections held before and after. -/
inductive Lifo : Nat → Script → Nat → Prop where
  | done (own : Nat) : Lifo own .done own
  | enter {own left : Nat} {next : Script} : Lifo (own + 1) next left → Lifo own (.enter next) left
  | drop {own left : Nat} {next : Script} : Lifo own next left → Lifo (own + 1) (.drop 0 next) left
  | ask {own left : Nat} {next : Script} : Lifo own next left → Lifo own (.ask next) left
  | within {own left : Nat} {body next : Script} : Lifo 0 body 0 → Lifo own next left →
      Lifo own (.within body next) left

end Script

def holdsOff (initially : Bool) (held : Nat) : Bool := initially || 0 < held

theorem holdsOff_iff {initially : Bool} {held : Nat} :
    holdsOff initially held = true ↔ initially = true ∨ 0 < held := by
  simp [holdsOff]

theorem holdsOff_zero (initially : Bool) : holdsOff initially 0 = initially := by
  simp [holdsOff]

theorem holdsOff_succ (initially : Bool) (held : Nat) : holdsOff initially (held + 1) = true :=
  holdsOff_iff.mpr (.inr (Nat.succ_pos held))

/-- Each of these sections, newest first, was entered when the older ones, those in `rest` and
`around` others were held, and remembers what the mask was then. -/
def Remember (initially : Bool) (around : Nat) (rest : List Guard) : List Guard → Prop
  | [] => True
  | guard :: older => guard.saved = holdsOff initially (around + (older ++ rest).length) ∧
      Remember initially around rest older

def Reading.Fits (initially : Bool) : Reading → Prop
  | .masked held answer => answer = holdsOff initially held
  | .entered held guard => guard.isNested = holdsOff initially held

namespace Account

/-- How a script goes that nests: everything that it sees fits, and the sections in `rest`, held when
it began, are held in the end below `left` others. -/
structure Nests (initially : Bool) (around : Nat) (rest : List Guard) (left : Nat)
    (account : Account) : Prop where
  fits : ∀ reading ∈ account.log, reading.Fits initially
  gate : account.gate = ⟨holdsOff initially (around + account.held.length)⟩
  held : ∃ own, account.held = own ++ rest ∧ own.length = left

variable {initially : Bool} {around left : Nat} {rest : List Guard} {account : Account}

theorem Nests.after {readings : List Reading} (nests : account.Nests initially around rest left)
    (fits : ∀ reading ∈ readings, reading.Fits initially) :
    (account.after readings).Nests initially around rest left := by
  refine ⟨fun reading mem => ?_, nests.gate, nests.held⟩
  rcases List.mem_append.mp mem with before | later
  · exact fits reading before
  · exact nests.fits reading later

/-- A piece of code that leaves what it entered finds its surroundings as they were. -/
theorem Nests.closed (nests : account.Nests initially around rest 0) : account.held = rest := by
  obtain ⟨own, held, none⟩ := nests.held
  rw [held, List.eq_nil_of_length_eq_zero none, List.nil_append]

end Account

namespace Script

variable {initially : Bool} {count left : Nat} {script : Script}

/-- The induction is on how the script nests. Nothing is said of what the sections in `rest`
remember, since the script does not leave them. -/
theorem Lifo.nests (lifo : Lifo count script left) (around : Nat) (own rest : List Guard)
    (length : own.length = count) (remember : Remember initially around rest own) {gate : Gate}
    (masked : gate = ⟨holdsOff initially (around + (own ++ rest).length)⟩) :
    (script.perform around gate (own ++ rest)).Nests initially around rest left := by
  induction lifo generalizing around own rest gate with
  | done count => exact ⟨by simp [perform], masked, own, rfl, length⟩
  | enter _ ih =>
    have found := congrArg Gate.masked masked
    have inside : (⟨true⟩ : Gate) =
        ⟨holdsOff initially (around + (⟨gate.masked⟩ :: own ++ rest).length)⟩ :=
      congrArg Gate.mk (holdsOff_succ initially _).symm
    refine (ih around (⟨gate.masked⟩ :: own) rest (congrArg Nat.succ length) ⟨found, remember⟩
      inside).after ?_
    simpa [Reading.Fits, Guard.isNested] using found
  | drop _ ih =>
    obtain _ | ⟨guard, older⟩ := own
    · cases length
    · exact ih around older rest (Nat.succ.inj length) remember.2 (congrArg Gate.mk remember.1)
  | ask _ ih =>
    refine (ih around own rest length remember masked).after ?_
    simpa [Reading.Fits] using congrArg Gate.masked masked
  | within _ _ ihBody ihNext =>
    have found := congrArg Gate.masked masked
    have inside : (⟨true⟩ : Gate) =
        ⟨holdsOff initially (around + 1 + ([] ++ (own ++ rest)).length)⟩ := by
      rw [Nat.add_right_comm, holdsOff_succ]
    have inner := ihBody (around + 1) [] (own ++ rest) rfl trivial inside
    have next := ihNext around own rest length remember (congrArg Gate.mk found)
    rw [← inner.closed] at next
    refine next.after fun reading mem => ?_
    rcases List.mem_cons.mp mem with rfl | body
    · exact found
    · exact inner.fits reading body

/-- Whatever is done with sections, as long as they nest: the mask says whether preemption was held
off from the start or a section is held, a section whether that was so when it was entered, and the
mask is back where it was as soon as none is held. -/
theorem mask_follows_sections (initially : Bool) (lifo : Lifo 0 script left) :
    (script.run initially).held.length = left ∧
      (∀ held answer, .masked held answer ∈ (script.run initially).log →
        (answer = true ↔ initially = true ∨ 0 < held)) ∧
      (∀ held guard, .entered held guard ∈ (script.run initially).log →
        (guard.isNested = true ↔ initially = true ∨ 0 < held)) ∧
      ((script.run initially).gate.masked = true ↔
        initially = true ∨ (script.run initially).held ≠ []) ∧
      ((script.run initially).held = [] → (script.run initially).gate = ⟨initially⟩) := by
  have nests : (script.run initially).Nests initially 0 [] left :=
    lifo.nests 0 [] [] rfl trivial (congrArg Gate.mk (holdsOff_zero initially).symm)
  have gate := nests.gate
  rw [Nat.zero_add] at gate
  refine ⟨?_, fun held answer seen => ?_, fun held guard seen => ?_, ?_, fun none => ?_⟩
  · obtain ⟨own, held, length⟩ := nests.held
    rw [held, List.append_nil, length]
  · have fits : answer = holdsOff initially held := nests.fits _ seen
    rw [fits, holdsOff_iff]
  · have fits : guard.isNested = holdsOff initially held := nests.fits _ seen
    rw [fits, holdsOff_iff]
  · rw [gate, holdsOff_iff, List.length_pos_iff]
  · rw [gate, none, List.length_nil, holdsOff_zero]

/-- Sections by hand and around code, up to three at once. -/
theorem mask_follows_sections_three :
    ∃ script, Lifo 0 script 0 ∧
      (script.run false).log = [.entered 0 ⟨false⟩, .entered 1 ⟨true⟩, .masked 2 true,
        .entered 2 ⟨true⟩, .masked 3 true, .entered 1 ⟨true⟩, .masked 0 false] ∧
      (true = true ↔ false = true ∨ 0 < 3) ∧
      ((⟨false⟩ : Guard).isNested = true ↔ false = true ∨ 0 < 0) ∧
      (script.run false).held = [] ∧ (script.run false).gate = ⟨false⟩ := by
  let script : Script :=
    .enter (.within (.ask (.enter (.ask (.drop 0 .done)))) (.enter (.drop 0 (.drop 0 (.ask .done)))))
  have lifo : Lifo 0 script 0 :=
    .enter (.within (.ask (.enter (.ask (.drop (.done 0)))))
      (.enter (.drop (.drop (.ask (.done 0))))))
  obtain ⟨_, masked, entered, _, restored⟩ := mask_follows_sections false lifo
  exact ⟨script, lifo, rfl, masked 3 true (by decide), entered 0 ⟨false⟩ (by decide), rfl,
    restored rfl⟩

-- If the older of two sections is left first, the mask forgets that the newer one is held.
example : (Script.run (.enter (.enter (.drop 1 (.ask .done)))) false).log =
    [.entered 0 ⟨false⟩, .entered 1 ⟨true⟩, .masked 1 false] := rfl

end Script

end RoundRobin.Gate
