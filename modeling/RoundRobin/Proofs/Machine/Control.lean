import RoundRobin.Machine.Basic

/-!
# The shapes of a control

What a thread has still to do tells who it is: at the bottom of its control lies the work that comes
after its program, and a spawned thread's bottom names the stack that it runs on. Above that there
is the program, and above the program, inside a critical section, at most one piece of work of the
library's own. `Shape` lists what there is; nothing in it depends on what the other threads do.
-/

namespace RoundRobin

/-- A thread of a process, for as long as the process lives: the one that the process began with, or
one that was spawned, by the dispatcher of a generation and on a stack that no other thread ever
runs on. -/
inductive Actor where
  | main
  | spawned (generation base : Nat)
  deriving DecidableEq, Repr

def Frame.actor? : Frame → Option Actor
  | .start generation base | .fetch generation base _ | .returned generation base
  | .finish generation base => some (.spawned generation base)
  | _ => none

namespace Control

def actor (c : Control) : Actor := (c.findSome? Frame.actor?).getD .main

/-- Whether the library's own work comes first. It is done with preemption held off. -/
def inKernel : Control → Bool
  | .perform .. :: _ | .preempt _ :: _ | .reap :: _ | .start .. :: _ | .fetch .. :: _
  | .dispose _ :: _ => true
  | _ => false

/-- Whether a thread with this control has just been switched to, or waits to be. -/
def awaits : Control → Bool
  | .reap :: _ | .start .. :: _ => true
  | _ => false

end Control

variable {actor : Actor} {tid : Tid} {c : Control}

/-- The program of `actor`, and what comes after it. -/
inductive User (actor : Actor) : Control → Prop where
  | run {rest : Control} (program : List Instr) (user : User actor rest) :
      User actor (.run program :: rest)
  | loop {rest : Control} (times : Nat) (body : List Instr) (user : User actor rest) :
      User actor (.loop times body :: rest)
  | whileAlive {rest : Control} (left : Nat) (tid : Tid) (body : List Instr)
      (user : User actor rest) : User actor (.whileAlive left tid body :: rest)
  | note {rest : Control} (did : Deed) (result : Result) (user : User actor rest) :
      User actor (.note did result :: rest)
  | restore {rest : Control} (guard : Guard) (user : User actor rest) :
      User actor (.restore guard :: rest)
  | returned {generation base : Nat} (own : actor = .spawned generation base) :
      User actor [.returned generation base]
  | close (own : actor = .main) : User actor [.close]
  | quit (own : actor = .main) : User actor [.quit]

/-- What `actor` does outside the library: its program, or what is left of it after it returned or
failed. -/
inductive Calm (actor : Actor) : Control → Prop where
  | user {c : Control} (user : User actor c) : Calm actor c
  | restore {rest : Control} (guard : Guard) (calm : Calm actor rest) :
      Calm actor (.restore guard :: rest)
  | unmask {rest : Control} (calm : Calm actor rest) : Calm actor (.unmask :: rest)
  | finish {generation base : Nat} (own : actor = .spawned generation base) :
      Calm actor [.finish generation base]
  | failed : Calm actor [.abort .entryFailed]
  | faulted (f : Fault) : Calm actor [.fault f]
  | closed (rest : Control) : Calm actor (.closed :: rest)

/-- The control of `actor` while it is known as `tid`. -/
inductive Shape (tid : Tid) (actor : Actor) : Control → Prop where
  | calm {c : Control} (calm : Calm actor c) : Shape tid actor c
  | perform {rest : Control} (r : Request) (guard : Guard) (did : Deed) (user : User actor rest) :
      Shape tid actor (.perform r guard (.program did) :: rest)
  | returning (guard : Guard) (spawned : tid ≠ 0) :
      Shape tid actor [.perform (.terminate tid) guard .returning]
  | adopted (guard : Guard) (main : tid = 0) (spawned : actor ≠ .main) :
      Shape tid actor [.perform (.terminate 0) guard .adopted]
  | preempt {rest : Control} (guard : Guard) (calm : Calm actor rest) :
      Shape tid actor (.preempt guard :: rest)
  | reap {rest : Control} (calm : Calm actor rest) : Shape tid actor (.reap :: rest)
  | start {generation base : Nat} (own : actor = .spawned generation base) (spawned : tid ≠ 0) :
      Shape tid actor [.start generation base]
  | arrive {generation base : Nat} (guard : Guard) (own : actor = .spawned generation base)
      (spawned : tid ≠ 0) : Shape tid actor [.reap, .fetch generation base guard]
  | fetch {generation base : Nat} (guard : Guard) (own : actor = .spawned generation base)
      (spawned : tid ≠ 0) : Shape tid actor [.fetch generation base guard]
  | dispose (guard : Guard) (rest : Control) : Shape tid actor (.dispose guard :: .closed :: rest)
  | leave (guard : Guard) (main : actor = .main) : Shape tid actor [.dispose guard, .quit]

namespace User

theorem actor_eq (user : User actor c) : c.actor = actor := by
  induction user with
  | run _ _ ih | loop _ _ _ ih | whileAlive _ _ _ _ ih | note _ _ _ ih | restore _ _ ih => exact ih
  | returned own | close own | quit own => exact own.symm

/-- A program that returns early leaves the sections it is in. -/
theorem filter (user : User actor c) : User actor (c.filter Frame.outlivesReturn) := by
  induction user with
  | run _ _ ih | loop _ _ _ ih | whileAlive _ _ _ _ ih | note _ _ _ ih => exact ih
  | restore guard _ ih => exact .restore guard ih
  | returned own => exact .returned own
  | close own => exact .close own
  | quit own => exact .quit own

end User

theorem Calm.outside (calm : Calm actor c) : c.inKernel = false := by
  cases calm with
  | user user => cases user <;> rfl
  | _ => rfl

theorem awaits_inKernel (awaits : c.awaits) : c.inKernel := by
  unfold Control.awaits at awaits
  split at awaits
  · rfl
  · rfl
  · simp at awaits

theorem Calm.awake (calm : Calm actor c) : c.awaits = false := by
  cases awaits : c.awaits with
  | false => rfl
  | true => exact absurd (awaits_inKernel awaits) (by simp [calm.outside])

/-- Whatever a failure unwinds, sections are left and then the process is given up. -/
theorem calm_unwind {last : Frame} (ends : Calm actor [last]) (c : Control) :
    Calm actor (unwind last c) := by
  induction c with
  | nil => exact ends
  | cons frame rest ih =>
    cases frame <;> first | exact .failed | exact ih | exact .restore _ ih

end RoundRobin
