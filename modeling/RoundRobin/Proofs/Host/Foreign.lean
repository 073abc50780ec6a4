import RoundRobin.Machine.Basic
import RoundRobin.Proofs.Host.Owner

/-!
# Calls of foreign OS threads

Any number of OS threads make calls, in any order. A call is decided about at one moment and carried
out at a later one, and calls of others may fall between the two: between the claim of the first
owner and its first dispatcher as well. The owner is preempted anywhere outside its requests, so
several of its threads may have a request let through that is not carried out yet.

To everybody but the owner a call answers what it would answer had nothing ever been done, except
that the refusal names another reason. Calls of others leave no trace: to the owner a run without
them is the same.
-/

namespace RoundRobin

inductive EntryPoint where
  | init (micros : Nat)
  | initWith (config : Config)
  | spawn (entry : Option Nat)
  | terminate (tid : Tid)
  | block (tid : Tid)
  | resume (tid : Tid)
  | sleep (quanta : Nat)
  | current
  | total
  | quantaOf (tid : Tid)
  | stateOf (tid : Tid)
  deriving DecidableEq, Repr

/-- Whether a call gets as far as to claim the threads for its caller. -/
def EntryPoint.claims : EntryPoint → Bool
  | .init micros => micros != 0
  | .initWith _ => true
  | _ => false

/-- What those who are refused for the reason `e` are told. -/
def EntryPoint.withheld (e : Error) : EntryPoint → Answer
  | .init 0 => .refused .invalidQuantum
  | .current => .tid 0
  | .total => .number 0
  | _ => .refused e

/-- The entry point of a call. A stack size of its own is settled before the call is made. -/
def Call.entryPoint : Call Tid → Except Halt EntryPoint
  | .init micros stackSize =>
    match Config.ofMicros micros, stackSize with
    | .ok config, some bytes => return .initWith (← config.withStackSize bytes)
    | _, _ => .ok (.init micros)
  | .spawn entry => .ok (.spawn entry)
  | .terminate tid => .ok (.terminate tid)
  | .block tid => .ok (.block tid)
  | .resume tid => .ok (.resume tid)
  | .sleep quanta => .ok (.sleep quanta)
  | .current => .ok .current
  | .total => .ok .total
  | .quantaOf tid => .ok (.quantaOf tid)
  | .stateOf tid => .ok (.stateOf tid)

namespace Host

variable {κ : Type} {h h' : Host κ} {caller owner : OsThread} {e : EntryPoint}
  {objections : Objections} {prime : Nat → Tid → Stack → Option κ} {back : κ} {kept : Guard}

/-! ## Deciding about a call -/

def claim (h : Host κ) (caller : OsThread) (config : Config) : Admission × Host κ :=
  match h.owner with
  | none => (.request (.install config), { h with owner := some caller })
  | some owner =>
    if owner = caller then (.request (.install config), h)
    else (.answer (.refused .foreignThread), h)

def receive (h : Host κ) (caller : OsThread) : EntryPoint → Admission × Host κ
  | .init micros =>
    match Config.ofMicros micros with
    | .error e => (.answer (.refused e), h)
    | .ok config => h.claim caller config
  | .initWith config => h.claim caller config
  | .current => (.answer (.tid (h.currentTid caller)), h)
  | .total => (.answer (.number (h.totalQuanta caller)), h)
  | .spawn entry => h.letThrough caller (.spawn entry)
  | .terminate tid => h.letThrough caller (.terminate tid)
  | .block tid => h.letThrough caller (.block tid)
  | .resume tid => h.letThrough caller (.resume tid)
  | .sleep quanta => h.letThrough caller (.sleep quanta)
  | .quantaOf tid => h.letThrough caller (.quantaOf tid)
  | .stateOf tid => h.letThrough caller (.stateOf tid)

theorem examine_init {micros : Nat} {stackSize : Option Nat} {config : Config}
    (made : settings micros stackSize = .ok (.ok config)) :
    h.examine caller (.init micros stackSize) = .ok (h.claim caller config) := by
  unfold claim
  cases held : h.owner with
  | none => simp [examine, made, held]
  | some owner =>
    by_cases same : owner = caller
    · simp [examine, made, held, same]
    · simp [examine, made, held, same]

/-- A call is decided about as its entry point is. -/
theorem examine_eq (h : Host κ) (caller : OsThread) (c : Call Tid) :
    h.examine caller c = c.entryPoint >>= fun e => .ok (h.receive caller e) := by
  cases c with
  | init micros stackSize =>
    cases made : Config.ofMicros micros with
    | error e => simp [examine, settings, Call.entryPoint, receive, made]
    | ok config =>
      cases stackSize with
      | none =>
        rw [examine_init (show settings micros none = .ok (.ok config) by simp [settings, made])]
        simp [Call.entryPoint, receive, made]
      | some bytes =>
        cases rounded : config.withStackSize bytes with
        | error halt => simp [examine, settings, Call.entryPoint, made, rounded]
        | ok sized =>
          rw [examine_init (show settings micros (some bytes) = .ok (.ok sized) by
            simp [settings, made, rounded])]
          simp [Call.entryPoint, receive, made, rounded]
  | current | total | spawn | terminate | block | resume | sleep | quantaOf | stateOf => rfl

theorem receive_refused {reason : Error} (refused : h.refusal caller = some reason)
    (modest : e.claims = false) : h.receive caller e = (.answer (e.withheld reason), h) := by
  cases e with
  | init micros =>
    obtain rfl : micros = 0 := by simpa [EntryPoint.claims] using modest
    rfl
  | initWith config => simp [EntryPoint.claims] at modest
  | current => simp [receive, currentTid, visible, refused, EntryPoint.withheld]
  | total => simp [receive, totalQuanta, visible, refused, EntryPoint.withheld]
  | spawn | terminate | block | resume | sleep | quantaOf | stateOf =>
    simp [receive, letThrough, refused, EntryPoint.withheld]

theorem receive_unowned (free : h.owner = none) (modest : e.claims = false) :
    h.receive caller e = (.answer (e.withheld .uninitialized), h) :=
  receive_refused (by simp [refusal, free]) modest

theorem receive_foreign (held : h.owner = some owner) (other : caller ≠ owner) :
    h.receive caller e = (.answer (e.withheld .foreignThread), h) := by
  have claimed : ∀ config, h.claim caller config = (.answer (.refused .foreignThread), h) := by
    intro config
    simp [claim, held, other.symm]
  cases claims : e.claims with
  | false => exact receive_refused (by simp [refusal, held, other.symm]) claims
  | true =>
    cases e with
    | init micros =>
      cases micros with
      | zero => simp [EntryPoint.claims] at claims
      | succ n => exact claimed _
    | initWith config => exact claimed config
    | _ => simp [EntryPoint.claims] at claims

theorem receive_claiming (free : h.owner = none) (claims : e.claims = true) :
    ∃ config, h.receive caller e = (.request (.install config), { h with owner := some caller }) := by
  have claimed : ∀ config, h.claim caller config =
      (.request (.install config), { h with owner := some caller }) := by
    intro config
    simp [claim, free]
  cases e with
  | init micros =>
    cases micros with
    | zero => simp [EntryPoint.claims] at claims
    | succ n => exact ⟨_, claimed _⟩
  | initWith config => exact ⟨config, claimed config⟩
  | _ => simp [EntryPoint.claims] at claims

theorem receive_own (held : h.owner = some caller) (e : EntryPoint) :
    (h.receive caller e).2 = h := by
  have claimed : ∀ config, (h.claim caller config).2 = h := by
    intro config
    simp [claim, held]
  have through : ∀ r, (h.letThrough caller r).2 = h := by
    intro r
    unfold letThrough
    split <;> rfl
  cases e with
  | init micros =>
    cases micros with
    | zero => rfl
    | succ n => exact claimed _
  | initWith config => exact claimed config
  | current | total => rfl
  | spawn | terminate | block | resume | sleep | quantaOf | stateOf => exact through _

/-! ## What the owner does

Said at one go; a machine does it in steps, as `Machine.Hosted.serves` and `Machine.Hosted.preempts`
show. -/

/-- Carries out a switch, with what the incoming thread does first: it clears up after the outgoing
one and leaves the section that it was suspended in, which is `kept`'s. Whether the process exits
instead, and the host afterwards. -/
def switchOver (h : Host κ) (s : Switch) (back : κ) (kept : Guard) :
    Except Halt (Bool × Host κ) := do
  let (_, h) ← h.exchange s back
  match h.dispatcher with
  | none => .error (.abort .lostContext)
  | some d =>
    let (exits, h) := h.reap d
    return (exits, if exits then h else h.leave kept)

/-- Carries out a request of the owner, with the switch that it asks for. -/
def serve (h : Host κ) (objections : Objections) (prime : Nat → Tid → Stack → Option κ)
    (r : Request) (back : κ) (kept : Guard) : Except Halt (Outcome × Bool × Host κ) := do
  let report ← h.carryOut objections prime r
  match report.outcome with
  | .returns _ => return (report.outcome, false, report.host)
  | .suspends s | .ends s | .handsOver s =>
    let (exits, h) ← report.host.switchOver s back kept
    return (report.outcome, exits, h)
  | .exits => return (report.outcome, true, report.host)

/-- A tick of the timer takes the processor from the running thread of the owner. -/
def preempt (h : Host κ) (back : κ) (kept : Guard) : Except Halt (Bool × Host κ) :=
  match h.dispatcher with
  | none => .ok (false, h)
  | some d => do
    let (s, h) ← h.enter.2.reschedule d false
    h.switchOver s back kept

/-- A switch, taken apart: another thread is taken up, and clears up. -/
theorem switchOver_inv {s : Switch} {exits : Bool}
    (switched : h.switchOver s back kept = .ok (exits, h')) :
    ∃ next between d, h.exchange s back = .ok (next, between) ∧ between.dispatcher = some d ∧
      exits = (between.reap d).1 ∧
      h' = if exits then (between.reap d).2 else (between.reap d).2.leave kept := by
  simp only [switchOver, bind_eq_ok, Prod.exists] at switched
  obtain ⟨next, between, exchanged, switched⟩ := switched
  split at switched
  · cases switched
  · next d there =>
    obtain ⟨rfl, rfl⟩ := Prod.mk.inj (Except.ok.inj switched)
    exact ⟨next, between, d, exchanged, there, rfl, rfl⟩

theorem switchOver_owner {s : Switch} {exits : Bool}
    (switched : h.switchOver s back kept = .ok (exits, h')) : h'.owner = h.owner := by
  obtain ⟨_, _, d, exchanged, _, _, rfl⟩ := switchOver_inv switched
  obtain ⟨_, rfl⟩ := exchange_inv exchanged
  split
  · exact reap_owner _ d
  · exact reap_owner _ d

theorem serve_owner {r : Request} {outcome : Outcome} {exits : Bool}
    (served : h.serve objections prime r back kept = .ok (outcome, exits, h')) :
    h'.owner = h.owner := by
  simp only [serve, bind_eq_ok] at served
  obtain ⟨report, carried, served⟩ := served
  have held := carryOut_owner carried
  have switched : ∀ s, (report.host.switchOver s back kept >>= fun x =>
      .ok (report.outcome, x.1, x.2)) = .ok (outcome, exits, h') → h'.owner = h.owner := by
    intro s served
    simp only [bind_eq_ok, Except.ok.injEq, Prod.mk.injEq] at served
    obtain ⟨⟨_, after⟩, switched, _, _, rfl⟩ := served
    exact (switchOver_owner switched).trans held
  split at served
  · simp only [pure_eq_ok, Except.ok.injEq, Prod.mk.injEq] at served
    obtain ⟨_, _, rfl⟩ := served
    exact held
  · exact switched _ served
  · exact switched _ served
  · exact switched _ served
  · simp only [pure_eq_ok, Except.ok.injEq, Prod.mk.injEq] at served
    obtain ⟨_, _, rfl⟩ := served
    exact held

/-- A call that is let through and returns is served. -/
theorem call_returns_iff {c : Call Tid} {r : Request} {between : Host κ} {a : Answer}
    (passed : h.examine caller c = .ok (.request r, between)) :
    (∃ events, h.call objections prime caller c = .ok ⟨.returns a, events, h'⟩) ↔
      between.serve objections prime r back kept = .ok (.returns a, false, h') := by
  rw [call, passed, ok_bind]
  simp only [serve, bind_eq_ok]
  constructor
  · rintro ⟨events, carried⟩
    exact ⟨_, carried, rfl⟩
  · rintro ⟨⟨outcome, events, host⟩, carried, served⟩
    cases outcome with
    | returns b =>
      simp only [pure_eq_ok, Except.ok.injEq, Prod.mk.injEq, Outcome.returns.injEq] at served
      obtain ⟨rfl, -, rfl⟩ := served
      exact ⟨events, carried⟩
    | suspends s | ends s | handsOver s => simp [bind_eq_ok] at served
    | exits => simp at served

theorem preempt_owner {exits : Bool} (preempted : h.preempt back kept = .ok (exits, h')) :
    h'.owner = h.owner := by
  unfold preempt at preempted
  split at preempted
  · exact (Prod.mk.inj (Except.ok.inj preempted)).2 ▸ rfl
  · simp only [bind_eq_ok, Prod.exists] at preempted
    obtain ⟨_, _, rescheduled, switched⟩ := preempted
    exact (switchOver_owner switched).trans (reschedule_owner (h := h.enter.2) rescheduled)

end Host

/-! ## Processes -/

structure Process (κ : Type) where
  host : Host κ
  /-- Requests let through and not yet carried out, with their callers, latest first. -/
  admitted : List (OsThread × Request)
  /-- What came of calls, latest first. -/
  heard : List (OsThread × Outcome)
  ending : Option Ending

inductive Turn (κ : Type) where
  | call (caller : OsThread) (e : EntryPoint)
  /-- The owner carries out the request at a place among those let through. Where that switches away
  from the calling thread, `back` is the context it leaves, and `kept` the guard of the thread that
  is taken up. -/
  | carryOut (place : Nat) (objections : Objections) (back : κ) (kept : Guard)
  /-- A tick comes to the owner and switches likewise. -/
  | tick (back : κ) (kept : Guard)

def Turn.claimant {κ : Type} : Turn κ → Option OsThread
  | .call caller e => if e.claims then some caller else none
  | _ => none

def Turn.isBy {κ : Type} (owner : OsThread) : Turn κ → Bool
  | .call caller _ => caller == owner
  | _ => true

def firstClaim {κ : Type} (turns : List (Turn κ)) : Option OsThread :=
  turns.findSome? Turn.claimant

theorem firstClaim_cons {κ : Type} (turn : Turn κ) (turns : List (Turn κ)) :
    firstClaim (turn :: turns) = turn.claimant.or (firstClaim turns) := by
  rw [firstClaim, List.findSome?_cons]
  cases turn.claimant <;> rfl

def Halt.ending : Halt → Ending
  | .abort a => .aborted a
  | .fault f => .faulted f

namespace Process

variable {κ : Type} {p : Process κ} {caller owner : OsThread} {e : EntryPoint} {turn : Turn κ}
  {turns : List (Turn κ)} (prime : Nat → Tid → Stack → Option κ)

def start : Process κ := ⟨.fresh, [], [], none⟩

def tell (p : Process κ) (caller : OsThread) (a : Answer) : Process κ :=
  { p with heard := (caller, .returns a) :: p.heard }

def call (p : Process κ) (caller : OsThread) (e : EntryPoint) : Process κ :=
  match p.host.receive caller e with
  | (.answer a, host) => { p with host }.tell caller a
  | (.request r, host) => { p with host, admitted := (caller, r) :: p.admitted }

def carryOut (p : Process κ) (place : Nat) (objections : Objections) (back : κ) (kept : Guard) :
    Process κ :=
  match p.admitted[place]? with
  | none => p
  | some (caller, r) =>
    match p.host.serve objections prime r back kept with
    | .ok (outcome, exits, host) =>
      { host
        admitted := p.admitted.eraseIdx place
        heard := (caller, outcome) :: p.heard
        ending := if exits then some .exited else none }
    | .error halt => { p with ending := some halt.ending }

def tick (p : Process κ) (back : κ) (kept : Guard) : Process κ :=
  match p.host.preempt back kept with
  | .ok (exits, host) => { p with host, ending := if exits then some .exited else none }
  | .error halt => { p with ending := some halt.ending }

def take (p : Process κ) : Turn κ → Process κ
  | .call caller e => p.call caller e
  | .carryOut place objections back kept => p.carryOut prime place objections back kept
  | .tick back kept => p.tick back kept

def step (p : Process κ) (turn : Turn κ) : Process κ :=
  match p.ending with
  | some _ => p
  | none => p.take prime turn

def run (p : Process κ) (turns : List (Turn κ)) : Process κ := turns.foldl (step prime) p

/-- The same process as far as `owner` is told of it. -/
def toldTo (owner : OsThread) (p : Process κ) : Process κ :=
  { p with heard := p.heard.filter fun x => x.1 == owner }

theorem step_live (live : p.ending = none) : p.step prime turn = p.take prime turn := by
  rw [step, live]

theorem step_ended {past : Ending} (ended : p.ending = some past) : p.step prime turn = p := by
  rw [step, ended]

theorem call_unowned (free : p.host.owner = none) (modest : e.claims = false) :
    p.call caller e = p.tell caller (e.withheld .uninitialized) := by
  rw [call, Host.receive_unowned free modest]

theorem call_foreign (held : p.host.owner = some owner) (other : caller ≠ owner) :
    p.call caller e = p.tell caller (e.withheld .foreignThread) := by
  rw [call, Host.receive_foreign held other]

theorem call_claiming (free : p.host.owner = none) (claims : e.claims = true) :
    ∃ config, p.call caller e =
      { p with
        host.owner := some caller
        admitted := (caller, .install config) :: p.admitted } := by
  obtain ⟨config, admitted⟩ := Host.receive_claiming free claims
  exact ⟨config, by rw [call, admitted]⟩

theorem call_own (held : p.host.owner = some owner) (e : EntryPoint) :
    (∃ a, p.call owner e = p.tell owner a) ∨
      ∃ r, p.call owner e = { p with admitted := (owner, r) :: p.admitted } := by
  have kept := Host.receive_own held e
  unfold call
  cases decided : p.host.receive owner e with
  | mk admission host =>
    obtain rfl : host = p.host := by rw [← kept, decided]
    cases admission with
    | answer a => exact .inl ⟨a, rfl⟩
    | request r => exact .inr ⟨r, rfl⟩

/-- Before there is an owner nothing has been done, and after that only the owner has requests let
through. -/
structure Sound (p : Process κ) : Prop where
  untouched : p.host.owner = none → p.host = .fresh ∧ p.admitted = [] ∧ p.ending = none
  held : ∀ x ∈ p.admitted, p.host.owner = some x.1

theorem start_sound : (start : Process κ).Sound where
  untouched := fun _ => ⟨rfl, rfl, rfl⟩
  held := by simp [start]

theorem sound_of_owned (held : p.host.owner = some owner) (own : ∀ x ∈ p.admitted, x.1 = owner) :
    p.Sound where
  untouched := fun free => by simp [held] at free
  held := fun x among => by rw [held, own x among]

namespace Sound

theorem own (sound : p.Sound) (held : p.host.owner = some owner) :
    ∀ x ∈ p.admitted, x.1 = owner := by
  intro x among
  have same := sound.held x among
  rw [held] at same
  exact (Option.some.inj same).symm

theorem tell (sound : p.Sound) (a : Answer) : (p.tell caller a).Sound :=
  ⟨sound.untouched, sound.held⟩

/-- The owner stays, and nobody else has requests let through. -/
theorem step_owned (sound : p.Sound) (held : p.host.owner = some owner) (turn : Turn κ) :
    (p.step prime turn).host.owner = some owner ∧
      ∀ x ∈ (p.step prime turn).admitted, x.1 = owner := by
  have own := sound.own held
  cases ending : p.ending with
  | some past =>
    rw [step_ended prime ending]
    exact ⟨held, own⟩
  | none =>
    rw [step_live prime ending]
    cases turn with
    | call caller e =>
      rw [take]
      by_cases same : caller = owner
      · subst same
        rcases call_own held e with ⟨a, told⟩ | ⟨r, passed⟩
        · rw [told]
          exact ⟨held, own⟩
        · rw [passed]
          exact ⟨held, by simpa using own⟩
      · rw [call_foreign held same]
        exact ⟨held, own⟩
    | carryOut place objections back kept =>
      rw [take, carryOut]
      split
      · exact ⟨held, own⟩
      · split
        · next served =>
          exact ⟨(Host.serve_owner served).trans held,
            fun x among => own x (List.mem_of_mem_eraseIdx among)⟩
        · exact ⟨held, own⟩
    | tick back kept =>
      rw [take, tick]
      split
      · next preempted => exact ⟨(Host.preempt_owner preempted).trans held, own⟩
      · exact ⟨held, own⟩

/-- Where nobody is the owner only a claim has consequences. -/
theorem step_unowned (sound : p.Sound) (free : p.host.owner = none) (turn : Turn κ) :
    (p.step prime turn).Sound ∧ (p.step prime turn).host.owner = turn.claimant := by
  obtain ⟨fresh, nothing, live⟩ := sound.untouched free
  rw [step_live prime live]
  cases turn with
  | call caller e =>
    rw [take]
    cases claims : e.claims with
    | false =>
      rw [call_unowned free claims, Turn.claimant, claims]
      exact ⟨sound.tell _, free⟩
    | true =>
      obtain ⟨config, claimed⟩ := call_claiming free claims
      rw [claimed, Turn.claimant, claims]
      exact ⟨sound_of_owned rfl (by simp [nothing]), rfl⟩
  | carryOut place objections back kept =>
    have idle : p.carryOut prime place objections back kept = p := by simp [carryOut, nothing]
    rw [take, idle]
    exact ⟨sound, free⟩
  | tick back kept =>
    have idle : p.tick back kept = p := by
      cases p with
      | mk host admitted heard ending =>
        obtain rfl : host = .fresh := fresh
        obtain rfl : ending = none := live
        rfl
    rw [take, idle]
    exact ⟨sound, free⟩

theorem step (sound : p.Sound) (turn : Turn κ) :
    (p.step prime turn).Sound ∧
      (p.step prime turn).host.owner = p.host.owner.or turn.claimant := by
  cases held : p.host.owner with
  | none => exact sound.step_unowned prime held turn
  | some owner =>
    obtain ⟨kept, own⟩ := sound.step_owned prime held turn
    exact ⟨sound_of_owned kept own, kept⟩

theorem run (sound : p.Sound) (turns : List (Turn κ)) :
    (p.run prime turns).Sound ∧
      (p.run prime turns).host.owner = p.host.owner.or (firstClaim turns) := by
  induction turns generalizing p with
  | nil => exact ⟨sound, by simp [Process.run, firstClaim]⟩
  | cons turn turns ih =>
    obtain ⟨next, owner⟩ := sound.step prime turn
    obtain ⟨last, final⟩ := ih next
    refine ⟨last, ?_⟩
    rw [firstClaim_cons, ← Option.or_assoc, ← owner]
    exact final

end Sound

/-! ## Leaving out what others do -/

theorem toldTo_tell (owner : OsThread) (p : Process κ) (a : Answer) :
    (p.tell owner a).toldTo owner = (p.toldTo owner).tell owner a := by
  simp [toldTo, tell]

theorem toldTo_tell_other (other : caller ≠ owner) (a : Answer) :
    (p.tell caller a).toldTo owner = p.toldTo owner := by
  simp [toldTo, tell, other]

namespace Sound

/-- A turn of the owner takes the same course whatever others have been told. -/
theorem step_own (sound : p.Sound) (sole : ∀ o, p.host.owner = some o → o = owner)
    (mine : turn.isBy owner = true) :
    (p.step prime turn).toldTo owner = (p.toldTo owner).step prime turn := by
  cases ending : p.ending with
  | some past => rw [step_ended prime ending, step_ended (p := p.toldTo owner) prime ending]
  | none =>
    rw [step_live prime ending, step_live (p := p.toldTo owner) prime ending]
    cases turn with
    | call caller e =>
      obtain rfl : caller = owner := by simpa [Turn.isBy] using mine
      have same : (p.toldTo caller).host.receive caller e = p.host.receive caller e := rfl
      rw [take, take, call, call, same]
      cases p.host.receive caller e with
      | mk admission host =>
        cases admission with
        | answer a => exact toldTo_tell caller { p with host } a
        | request r => rfl
    | carryOut place objections back kept =>
      -- Whoever asked was let through, so it is the owner that is told what came of it.
      have same : (p.toldTo owner).admitted[place]? = p.admitted[place]? := rfl
      rw [take, take, carryOut, carryOut, same]
      cases asked : p.admitted[place]? with
      | none => rfl
      | some x =>
        obtain ⟨asker, r⟩ := x
        have held := sound.held _ (List.mem_of_getElem? asked)
        obtain rfl : asker = owner := sole asker held
        have served : (p.toldTo asker).host.serve objections prime r back kept =
            p.host.serve objections prime r back kept := rfl
        dsimp only
        rw [served]
        cases p.host.serve objections prime r back kept with
        | error halt => rfl
        | ok result => simp [toldTo]
    | tick back kept =>
      have same : (p.toldTo owner).host.preempt back kept = p.host.preempt back kept := rfl
      rw [take, take, tick, tick, same]
      cases p.host.preempt back kept with
      | error halt => rfl
      | ok result => rfl

end Sound

/-- A call of another OS thread is lost on the owner. -/
theorem step_foreign (sole : ∀ o, p.host.owner.or turn.claimant = some o → o = owner)
    (foreign : turn.isBy owner = false) : (p.step prime turn).toldTo owner = p.toldTo owner := by
  cases ending : p.ending with
  | some past => rw [step_ended prime ending]
  | none =>
    rw [step_live prime ending]
    cases turn with
    | call caller e =>
      have other : caller ≠ owner := by simpa [Turn.isBy] using foreign
      rw [take]
      cases held : p.host.owner with
      | some holder =>
        obtain rfl : holder = owner := sole holder (by simp [held])
        rw [call_foreign held other, toldTo_tell_other other]
      | none =>
        -- A claim would make the caller the owner.
        cases claims : e.claims with
        | true => exact absurd (sole caller (by simp [held, Turn.claimant, claims])) other
        | false => rw [call_unowned held claims, toldTo_tell_other other]
    | carryOut | tick => simp [Turn.isBy] at foreign

theorem Sound.run_filter (sound : p.Sound)
    (first : p.host.owner.or (firstClaim turns) = some owner) :
    (p.toldTo owner).run prime (turns.filter (Turn.isBy owner)) =
      (p.run prime turns).toldTo owner := by
  -- After each turn the two processes differ only in what others have been told.
  induction turns generalizing p with
  | nil => rfl
  | cons turn turns ih =>
    rw [firstClaim_cons, ← Option.or_assoc] at first
    obtain ⟨next, now⟩ := sound.step prime turn
    have sole : ∀ o, p.host.owner.or turn.claimant = some o → o = owner := by
      intro o held
      simpa [held] using first
    have rest := ih next (by rw [now, first])
    cases mine : turn.isBy owner with
    | true =>
      have already : ∀ o, p.host.owner = some o → o = owner := by
        intro o held
        exact sole o (by simp [held])
      rw [sound.step_own prime already mine] at rest
      rw [List.filter_cons_of_pos mine]
      exact rest
    | false =>
      rw [step_foreign prime sole mine] at rest
      rw [List.filter_cons_of_neg (by simp [mine])]
      exact rest

end Process

/-- The owner is whoever claims the threads first, and stays it. Before that nothing is done for
anybody, and every call that is no claim is told so. After that every call of another OS thread is
told that the threads are not its own and has no other consequence, whatever the owner is at.
Without the calls of others, the owner is told the same and everything stands the same. -/
theorem foreign_threads_shut_out {κ : Type} (prime : Nat → Tid → Stack → Option κ)
    (turns : List (Turn κ)) :
    let p := Process.start.run prime turns
    p.host.owner = firstClaim turns ∧
    (∀ owner later, firstClaim turns = some owner → (p.run prime later).host.owner = some owner) ∧
    (firstClaim turns = none →
      p.host = .fresh ∧ p.admitted = [] ∧ p.ending = none ∧ ∀ caller e, e.claims = false →
        p.step prime (.call caller e) = p.tell caller (e.withheld .uninitialized)) ∧
    (∀ owner caller e, firstClaim turns = some owner → caller ≠ owner → p.ending = none →
      p.step prime (.call caller e) = p.tell caller (e.withheld .foreignThread)) ∧
    ∀ owner, firstClaim turns = some owner →
      Process.start.run prime (turns.filter (Turn.isBy owner)) = p.toldTo owner := by
  intro p
  obtain ⟨sound, held⟩ : p.Sound ∧ p.host.owner = firstClaim turns :=
    Process.start_sound.run prime turns
  refine ⟨held, ?_, ?_, ?_, ?_⟩
  · intro owner later first
    rw [(sound.run prime later).2, held, first]
    rfl
  · intro nobody
    rw [nobody] at held
    obtain ⟨fresh, nothing, live⟩ := sound.untouched held
    refine ⟨fresh, nothing, live, ?_⟩
    intro caller e modest
    rw [Process.step_live prime live]
    exact Process.call_unowned held modest
  · intro owner caller e first other live
    rw [Process.step_live prime live]
    exact Process.call_foreign (held.trans first) other
  · intro owner first
    exact Process.start_sound.run_filter prime first

/-- OS thread 5 claims the threads, and 2 and 3 call before the claim, between it and the first
dispatcher, and between a request of thread 5 and its being carried out. -/
theorem foreign_threads_shut_out_between :
    let prime : Nat → Tid → Stack → Option Unit := fun _ _ _ => some ()
    let turns : List (Turn Unit) :=
      [.call 3 (.init 0), .call 2 .total, .call 5 (.init 20),
        .call 2 (.initWith ⟨⟨7, by decide⟩, 4096⟩), .carryOut 0 .few () ⟨false⟩,
        .call 5 (.spawn (some 0)), .call 3 .current, .carryOut 0 .few () ⟨false⟩,
        .tick () ⟨false⟩, .call 5 (.sleep 1), .call 2 (.block 1), .carryOut 0 .few () ⟨false⟩,
        .call 2 .total, .call 5 .total]
    let p := Process.start.run prime turns
    p.heard = [(5, .returns (.number 3)), (2, .returns (.number 0)), (5, .suspends ⟨1, 0⟩),
      (2, .returns (.refused .foreignThread)), (5, .returns (.tid 1)), (3, .returns (.tid 0)),
      (5, .returns .done), (2, .returns (.refused .foreignThread)), (2, .returns (.number 0)),
      (3, .returns (.refused .invalidQuantum))] ∧
    p.host.owner = some 5 ∧
    p.step prime (.call 3 (.init 20)) = p.tell 3 (.refused .foreignThread) ∧
    (Process.start.run prime (turns.filter (Turn.isBy 5))).heard =
      [(5, .returns (.number 3)), (5, .suspends ⟨1, 0⟩), (5, .returns (.tid 1)),
        (5, .returns .done)] := by
  intro prime turns p
  have first : firstClaim turns = some 5 := rfl
  have live : p.ending = none := by decide +kernel
  obtain ⟨owner, -, -, foreign, without⟩ := foreign_threads_shut_out prime turns
  refine ⟨by decide +kernel, owner.trans first, foreign 5 3 _ first (by decide) live, ?_⟩
  rw [without 5 first]
  decide +kernel

end RoundRobin
