import RoundRobin.Proofs.Preemption.Signal

/-!
# Where deliveries go

Programs that arm and disarm the timer, hold critical sections and raise the signal, with callbacks
that are such programs themselves: a callback runs inside the handler, which holds the signal off
until it returns. What has happened is written down as a history, and a few functions of the history
alone say which callback is registered, whether a signal waits and whether anything holds it off.
The signal agrees with them after every step. So each delivery comes at the moment when it has to,
and to the callback of the latest `arm` that no `disarm` has followed.
-/

namespace RoundRobin.Signal

variable {α : Type}

inductive Act (α : Type) where
  | arm (quantum : Quantum) (callback : α)
  | rearm
  | disarm
  | enter
  /-- Leaves the innermost section. -/
  | leave
  | raise
  deriving DecidableEq, Repr

inductive Task (α : Type) where
  | act (a : Act α)
  /-- The handler returns: the code it interrupted gets its mask and its sections back. -/
  | comeBack (guard : Guard) (held : List Guard)

inductive Occurrence (α : Type) where
  | act (a : Act α)
  | cameBack
  | delivered (d : Delivery α)
  deriving DecidableEq, Repr

/-- A process with one OS thread, which owns the timer. -/
structure Session (α : Type) where
  signal : Signal α
  /-- Sections of the code that runs, innermost first. -/
  held : List Guard
  tasks : List (Task α)
  /-- What has happened, latest first. -/
  history : List (Occurrence α)
  /-- Whether the signal has killed the process. -/
  killed : Bool

namespace Session

def begin (main : List (Act α)) : Session α := ⟨.initial, [], main.map .act, [], false⟩

def leave (s : Session α) : Session α :=
  match s.held with
  | [] => s
  | guard :: outer =>
    { s with
      signal := s.signal.leave guard
      held := outer
      history := .act .leave :: s.history }

def perform (s : Session α) : Act α → Session α
  | .arm quantum callback =>
    { s with
      signal := s.signal.arm quantum callback
      history := .act (.arm quantum callback) :: s.history }
  | .rearm => { s with signal := s.signal.rearm, history := .act .rearm :: s.history }
  | .disarm => { s with signal := s.signal.disarm, history := .act .disarm :: s.history }
  | .enter =>
    { s with
      signal := s.signal.enter.2
      held := s.signal.enter.1 :: s.held
      history := .act .enter :: s.history }
  | .leave => s.leave
  | .raise => { s with signal := s.signal.raise, history := .act .raise :: s.history }

/-- Delivers the waiting signal. A callback `c` that it reaches does `body c` with the mask set. -/
def deliver (body : α → List (Act α)) (s : Session α) : Session α :=
  match s.signal.deliver with
  | (.killed, signal) =>
    { s with signal, killed := true, history := .delivered .killed :: s.history }
  | (.dropped, signal) => { s with signal, history := .delivered .dropped :: s.history }
  | (.invoked callback, signal) =>
    { s with
      signal := signal.enter.2
      held := []
      tasks := (body callback).map .act ++ .comeBack signal.enter.1 s.held :: s.tasks
      history := .delivered (.invoked callback) :: s.history }

/-- One step of the process. A signal that waits and is not held off comes first. Sections that a
callback still holds when it is through are left before the handler returns. -/
def step (body : α → List (Act α)) (s : Session α) : Session α :=
  if s.killed then s
  else if s.signal.isDeliverable then s.deliver body
  else
    match s.tasks, s.held with
    | [], _ => s
    | .act a :: rest, _ => { s with tasks := rest }.perform a
    | .comeBack _ _ :: _, _ :: _ => s.leave
    | .comeBack guard held :: rest, [] =>
      { s with
        signal := s.signal.leave guard
        held
        tasks := rest
        history := .cameBack :: s.history }

def run (body : α → List (Act α)) (s : Session α) : Nat → Session α
  | 0 => s
  | n + 1 => (run body s n).step body

end Session

/-! ## Reading a history, latest first -/

/-- The callback of the latest `arm`, unless the timer has been disarmed since. -/
def registered : List (Occurrence α) → Option α
  | [] => none
  | .act (.arm _ callback) :: _ => some callback
  | .act .disarm :: _ => none
  | _ :: earlier => registered earlier

def everArmed : List (Occurrence α) → Bool
  | [] => false
  | .act (.arm ..) :: _ => true
  | _ :: earlier => everArmed earlier

/-- How many sections and handlers hold the signal off. -/
def depth : List (Occurrence α) → Nat
  | [] => 0
  | .act .enter :: earlier | .delivered (.invoked _) :: earlier => depth earlier + 1
  | .act .leave :: earlier | .cameBack :: earlier => depth earlier - 1
  | _ :: earlier => depth earlier

/-- Whether a signal waits: it was raised and has neither been delivered since nor been discarded
with an armed timer. -/
def waiting : List (Occurrence α) → Bool
  | [] => false
  | .act .raise :: _ => true
  | .delivered _ :: _ => false
  | .act .disarm :: earlier => waiting earlier && (registered earlier).isNone
  | _ :: earlier => waiting earlier

def verdict (history : List (Occurrence α)) : Delivery α :=
  match registered history with
  | some callback => .invoked callback
  | none => if everArmed history then .dropped else .killed

def Ripe (history : List (Occurrence α)) : Prop := waiting history = true ∧ depth history = 0

/-- Whether the latest occurrence lets a signal through: it is the raising of one that nothing holds
off, or it ends the last section or handler that held one off. -/
def LetsThrough (history : List (Occurrence α)) : Prop :=
  ∃ o earlier, history = o :: earlier ∧
    ((o = .act .raise ∧ depth earlier = 0) ∨
      ((o = .act .leave ∨ o = .cameBack) ∧ depth earlier = 1 ∧ waiting earlier = true))

/-- Every delivery of the history came when a signal was ripe, went where it had to, and was put off
by nothing else. -/
def Recorded : List (Occurrence α) → Prop
  | [] => True
  | .delivered d :: earlier => Ripe earlier ∧ d = verdict earlier ∧ Recorded earlier
  | _ :: earlier => ¬ Ripe earlier ∧ Recorded earlier

variable {history : List (Occurrence α)}

theorem everArmed_eq_false_iff :
    everArmed history = false ↔ ∀ quantum callback, .act (.arm quantum callback) ∉ history := by
  induction history with
  | nil => simp [everArmed]
  | cons o earlier ih =>
    cases o with
    | act a =>
      cases a with
      | arm quantum callback =>
        exact iff_of_false (by simp [everArmed])
          fun never => never quantum callback List.mem_cons_self
      | rearm | disarm | enter | leave | raise => simp [everArmed, ih]
    | cameBack => simp [everArmed, ih]
    | delivered d => simp [everArmed, ih]

/-- A registered callback was armed, and since then the timer has been neither armed nor
disarmed. -/
theorem armed_of_registered {callback : α} (held : registered history = some callback) :
    ∃ between quantum before, history = between ++ .act (.arm quantum callback) :: before ∧
      .act .disarm ∉ between ∧ ∀ q c, .act (.arm q c) ∉ between := by
  induction history with
  | nil => simp [registered] at held
  | cons o earlier ih =>
    -- Arming and disarming settle the matter; anything else is one more occurrence since.
    have since : registered earlier = some callback → o ≠ .act .disarm →
        (∀ q c, o ≠ .act (.arm q c)) → ∃ between quantum before,
          o :: earlier = between ++ .act (.arm quantum callback) :: before ∧
            .act .disarm ∉ between ∧ ∀ q c, .act (.arm q c) ∉ between := by
      intro held kept plain
      obtain ⟨between, quantum, before, split, undisturbed, latest⟩ := ih held
      refine ⟨o :: between, quantum, before, by rw [split, List.cons_append], ?_, ?_⟩
      · simp [undisturbed, Ne.symm kept]
      · intro q c
        simp [latest q c, Ne.symm (plain q c)]
    cases o with
    | act a =>
      cases a with
      | arm quantum c =>
        obtain rfl := Option.some.inj held
        exact ⟨[], quantum, earlier, rfl, by simp, by simp⟩
      | disarm => simp [registered] at held
      | rearm | enter | leave | raise => exact since held (by simp) (by simp)
    | cameBack | delivered d => exact since held (by simp) (by simp)

theorem verdict_eq_invoked_iff {callback : α} :
    verdict history = .invoked callback ↔ registered history = some callback := by
  unfold verdict
  cases registered history with
  | some registrant => simp
  | none =>
    dsimp only
    split <;> simp

theorem verdict_eq_killed_iff :
    verdict history = .killed ↔ ∀ quantum callback, .act (.arm quantum callback) ∉ history := by
  cases held : registered history with
  | some callback =>
    obtain ⟨between, quantum, before, split, _⟩ := armed_of_registered held
    refine iff_of_false (by simp [verdict, held]) fun never => never quantum callback ?_
    rw [split]
    simp
  | none =>
    rw [← everArmed_eq_false_iff]
    cases ever : everArmed history with
    | true | false => simp [verdict, held, ever]

/-- A signal that waits after an armed timer was disarmed has been raised since. -/
theorem raised_of_waiting {before : List (Occurrence α)} (armed : (registered before).isSome = true)
    (between : List (Occurrence α)) (waits : waiting (between ++ .act .disarm :: before) = true) :
    .act .raise ∈ between := by
  induction between with
  | nil =>
    obtain ⟨callback, held⟩ := Option.isSome_iff_exists.mp armed
    simp [waiting, held] at waits
  | cons o between ih =>
    cases o with
    | act a =>
      cases a with
      | raise => exact List.mem_cons_self
      | disarm =>
        simp only [List.cons_append, waiting, Bool.and_eq_true] at waits
        exact List.mem_cons_of_mem _ (ih waits.1)
      | arm | rearm | enter | leave => exact List.mem_cons_of_mem _ (ih waits)
    | cameBack => exact List.mem_cons_of_mem _ (ih waits)
    | delivered d => simp [waiting] at waits

theorem LetsThrough.ripe (lets : LetsThrough history) : Ripe history := by
  obtain ⟨o, earlier, rfl, ⟨rfl, clear⟩ | ⟨ends, last, waits⟩⟩ := lets
  · exact ⟨rfl, clear⟩
  · rcases ends with rfl | rfl
    · exact ⟨waits, by simp [depth, last]⟩
    · exact ⟨waits, by simp [depth, last]⟩

namespace Recorded

/-- A signal is ripe because of the latest occurrence: before that one it was not, or it would have
been delivered. -/
theorem letsThrough (recorded : Recorded history) (ripe : Ripe history) : LetsThrough history := by
  obtain ⟨waits, clear⟩ := ripe
  cases history with
  | nil => simp [waiting] at waits
  | cons o earlier =>
    cases o with
    | delivered d => simp [waiting] at waits
    | cameBack =>
      have last : depth earlier ≠ 0 := fun open' => recorded.1 ⟨waits, open'⟩
      simp only [depth] at clear
      exact ⟨_, _, rfl, .inr ⟨.inr rfl, by omega, waits⟩⟩
    | act a =>
      cases a with
      | raise => exact ⟨_, _, rfl, .inl ⟨rfl, clear⟩⟩
      | leave =>
        have last : depth earlier ≠ 0 := fun open' => recorded.1 ⟨waits, open'⟩
        simp only [depth] at clear
        exact ⟨_, _, rfl, .inr ⟨.inl rfl, by omega, waits⟩⟩
      | enter => simp [depth] at clear
      | disarm =>
        simp only [waiting, Bool.and_eq_true] at waits
        exact absurd ⟨waits.1, clear⟩ recorded.1
      | arm | rearm => exact absurd ⟨waits, clear⟩ recorded.1

theorem earlier {later : List (Occurrence α)} (recorded : Recorded (later ++ history)) :
    Recorded history := by
  induction later with
  | nil => exact recorded
  | cons o later ih =>
    cases o with
    | delivered d => exact ih recorded.2.2
    | act a => exact ih recorded.2
    | cameBack => exact ih recorded.2

end Recorded

/-! ## The signal agrees with the history -/

/-- Guards of sections and handlers inside one another, innermost first: only the outermost one was
entered with the mask clear. -/
def Nested : List Guard → Prop
  | [] => True
  | guard :: outer => guard.saved = !outer.isEmpty ∧ Nested outer

structure Agrees (signal : Signal α) (scopes : List Guard) (history : List (Occurrence α)) :
    Prop where
  callback : signal.callback = registered history
  armed : signal.armed = (registered history).isSome
  handler : signal.disposition = .handler ↔ (registered history).isSome = true
  default : signal.disposition = .default ↔ everArmed history = false
  pending : signal.pending = waiting history
  depth : depth history = scopes.length
  masked : signal.masked = !scopes.isEmpty
  nested : Nested scopes

namespace Agrees

variable {signal : Signal α} {scopes : List Guard}

theorem initial : Agrees (Signal.initial : Signal α) [] [] where
  callback := rfl
  armed := rfl
  handler := by simp [Signal.initial, registered]
  default := by simp [Signal.initial, everArmed]
  pending := rfl
  depth := rfl
  masked := rfl
  nested := trivial

theorem arm (agrees : Agrees signal scopes history) (quantum : Quantum) (callback : α) :
    Agrees (signal.arm quantum callback) scopes (.act (.arm quantum callback) :: history) where
  callback := rfl
  armed := rfl
  handler := by simp [Signal.arm, registered]
  default := by simp [Signal.arm, everArmed]
  pending := agrees.pending
  depth := agrees.depth
  masked := agrees.masked
  nested := agrees.nested

theorem rearm (agrees : Agrees signal scopes history) :
    Agrees signal.rearm scopes (.act .rearm :: history) := by
  obtain ⟨period, restarted⟩ := signal.rearm_eq
  rw [restarted]
  exact ⟨agrees.callback, agrees.armed, agrees.handler, agrees.default, agrees.pending,
    agrees.depth, agrees.masked, agrees.nested⟩

/-- Disarming an armed timer forgets its callback and a waiting signal; an unarmed one has no
callback to forget, and the signal goes on waiting. -/
theorem disarm (agrees : Agrees signal scopes history) :
    Agrees signal.disarm scopes (.act .disarm :: history) := by
  have callback := agrees.callback
  have armed := agrees.armed
  have handler := agrees.handler
  cases held : registered history with
  | none =>
    rw [held] at callback armed handler
    rw [Signal.disarm, if_neg (by simp [armed])]
    exact ⟨callback, armed, handler, agrees.default, by simp [waiting, held, agrees.pending],
      agrees.depth, agrees.masked, agrees.nested⟩
  | some registrant =>
    rw [held] at armed handler
    have ever : everArmed history = true := by
      have known : ¬ everArmed history = false := by
        rw [← agrees.default, handler.mpr rfl]
        simp
      simpa using known
    rw [Signal.disarm, if_pos (show signal.armed = true from armed)]
    exact ⟨rfl, rfl, by simp [unregister, registered], by simp [unregister, everArmed, ever],
      by simp [unregister, waiting, held], agrees.depth, agrees.masked, agrees.nested⟩

theorem raise (agrees : Agrees signal scopes history) :
    Agrees signal.raise scopes (.act .raise :: history) :=
  ⟨agrees.callback, agrees.armed, agrees.handler, agrees.default, rfl, agrees.depth,
    agrees.masked, agrees.nested⟩

theorem enter (agrees : Agrees signal scopes history) :
    Agrees signal.enter.2 (signal.enter.1 :: scopes) (.act .enter :: history) :=
  ⟨agrees.callback, agrees.armed, agrees.handler, agrees.default, agrees.pending,
    congrArg (· + 1) agrees.depth, rfl, agrees.masked, agrees.nested⟩

/-- The innermost scope ends, be it a section or a handler, and the mask is what it was before. -/
theorem leave {guard : Guard} (agrees : Agrees signal (guard :: scopes) history)
    {o : Occurrence α} (ends : o = .act .leave ∨ o = .cameBack) :
    Agrees (signal.leave guard) scopes (o :: history) := by
  have closed : (guard :: scopes).length - 1 = scopes.length := rfl
  rw [← agrees.depth] at closed
  rcases ends with rfl | rfl <;>
    exact ⟨agrees.callback, agrees.armed, agrees.handler, agrees.default, agrees.pending, closed,
      agrees.nested.1, agrees.nested.2⟩

theorem isDeliverable_iff (agrees : Agrees signal scopes history) :
    signal.isDeliverable = true ↔ Ripe history := by
  rw [isDeliverable, agrees.pending, agrees.masked, Ripe, agrees.depth]
  simp

/-- A delivery goes where the history says. -/
theorem deliver_eq (agrees : Agrees signal scopes history) :
    signal.deliver = (verdict history, { signal with pending := false }) := by
  have callback := agrees.callback
  have handler := agrees.handler
  have default := agrees.default
  unfold Signal.deliver verdict
  cases held : registered history with
  | some registrant =>
    rw [held] at callback handler
    simp [handler.mpr rfl, callback]
  | none =>
    rw [held] at callback handler
    cases ever : everArmed history with
    | false => simp [default.mpr ever]
    | true =>
      rw [ever] at default
      cases disposition : signal.disposition with
      | default => simp [disposition] at default
      | handler => simp [disposition] at handler
      | ignore => simp

/-- A delivery that reaches no callback only takes the waiting signal. -/
theorem taken (agrees : Agrees signal scopes history) {d : Delivery α}
    (nobody : ∀ callback, d ≠ .invoked callback) :
    Agrees { signal with pending := false } scopes (.delivered d :: history) := by
  cases d with
  | invoked callback => exact absurd rfl (nobody callback)
  | killed | dropped =>
    exact ⟨agrees.callback, agrees.armed, agrees.handler, agrees.default, rfl, agrees.depth,
      agrees.masked, agrees.nested⟩

/-- A delivery that reaches a callback opens the scope of the handler. -/
theorem handled (agrees : Agrees signal scopes history) (callback : α) :
    let taken := { signal with pending := false }
    Agrees taken.enter.2 (taken.enter.1 :: scopes) (.delivered (.invoked callback) :: history) :=
  ⟨agrees.callback, agrees.armed, agrees.handler, agrees.default, rfl,
    congrArg (· + 1) agrees.depth, rfl, agrees.masked, agrees.nested⟩

end Agrees

/-! ## Runs -/

namespace Session

def opened : List (Task α) → List Guard
  | [] => []
  | .act _ :: rest => opened rest
  | .comeBack guard held :: rest => guard :: held ++ opened rest

theorem opened_acts (acts : List (Act α)) (rest : List (Task α)) :
    opened (acts.map .act ++ rest) = opened rest := by
  induction acts with
  | nil => rfl
  | cons a acts ih => exact ih

/-- The sections and handlers that hold the signal off, innermost first. -/
def scopes (s : Session α) : List Guard := s.held ++ opened s.tasks

structure Sound (s : Session α) : Prop where
  agrees : Agrees s.signal s.scopes s.history
  recorded : Recorded s.history
  killed : s.killed = true ↔ .delivered .killed ∈ s.history

variable {s : Session α}

theorem begin_sound (main : List (Act α)) : (begin main).Sound := by
  refine ⟨?_, trivial, by simp [begin]⟩
  have nothing : (begin main).scopes = [] := by
    have acts := opened_acts main []
    rwa [List.append_nil] at acts
  rw [nothing]
  exact .initial

namespace Sound

/-- What happens while no signal is ripe is written down as it is. -/
theorem record (sound : s.Sound) (unripe : ¬ Ripe s.history) {s' : Session α} {o : Occurrence α}
    (other : ∀ d, o ≠ .delivered d) (agrees : Agrees s'.signal s'.scopes (o :: s.history))
    (history : s'.history = o :: s.history) (killed : s'.killed = s.killed) : s'.Sound := by
  refine ⟨history ▸ agrees, ?_, ?_⟩
  · rw [history]
    cases o with
    | delivered d => exact absurd rfl (other d)
    | act a => exact ⟨unripe, sound.recorded⟩
    | cameBack => exact ⟨unripe, sound.recorded⟩
  · rw [history, killed, sound.killed, List.mem_cons]
    exact ⟨.inr, fun either => either.resolve_left (other .killed).symm⟩

theorem leave (sound : s.Sound) (unripe : ¬ Ripe s.history) : s.leave.Sound := by
  have agrees := sound.agrees
  unfold Session.leave
  cases held : s.held with
  | nil => exact sound
  | cons guard outer =>
    rw [scopes, held] at agrees
    exact sound.record unripe (by simp) (agrees.leave (.inl rfl)) rfl rfl

theorem perform (sound : s.Sound) (unripe : ¬ Ripe s.history) (a : Act α) :
    (s.perform a).Sound := by
  have agrees := sound.agrees
  cases a with
  | arm quantum callback =>
    exact sound.record unripe (by simp) (agrees.arm quantum callback) rfl rfl
  | rearm => exact sound.record unripe (by simp) agrees.rearm rfl rfl
  | disarm => exact sound.record unripe (by simp) agrees.disarm rfl rfl
  | enter => exact sound.record unripe (by simp) agrees.enter rfl rfl
  | leave => exact sound.leave unripe
  | raise => exact sound.record unripe (by simp) agrees.raise rfl rfl

theorem deliver (sound : s.Sound) (live : s.killed = false) (ripe : Ripe s.history)
    (body : α → List (Act α)) :
    (s.deliver body).Sound ∧
      (s.deliver body).history = .delivered (verdict s.history) :: s.history := by
  have agrees := sound.agrees
  have spared : Occurrence.delivered Delivery.killed ∉ s.history := by
    rw [← sound.killed, live]
    simp
  have recorded : Recorded (.delivered (verdict s.history) :: s.history) :=
    ⟨ripe, rfl, sound.recorded⟩
  unfold Session.deliver
  rw [agrees.deliver_eq]
  cases reached : verdict s.history with
  | killed =>
    rw [reached] at recorded
    exact ⟨⟨agrees.taken (by simp), recorded, by simp⟩, rfl⟩
  | dropped =>
    rw [reached] at recorded
    exact ⟨⟨agrees.taken (by simp), recorded, by simp [live, spared]⟩, rfl⟩
  | invoked callback =>
    rw [reached] at recorded
    refine ⟨⟨?_, recorded, by simp [live, spared]⟩, rfl⟩
    have opens := agrees.handled callback
    rw [scopes] at opens
    rw [scopes, opened_acts]
    exact opens

theorem step_of_ripe (sound : s.Sound) (live : s.killed = false) (ripe : Ripe s.history)
    (body : α → List (Act α)) : s.step body = s.deliver body := by
  rw [Session.step, if_neg (by simp [live]), if_pos (sound.agrees.isDeliverable_iff.mpr ripe)]

theorem step (sound : s.Sound) (body : α → List (Act α)) : (s.step body).Sound := by
  have agrees := sound.agrees
  by_cases killed : s.killed = true
  · rw [Session.step, if_pos killed]
    exact sound
  · by_cases ripe : Ripe s.history
    · have live : s.killed = false := by simpa using killed
      rw [sound.step_of_ripe live ripe]
      exact (sound.deliver live ripe body).1
    · rw [Session.step, if_neg killed, if_neg (by rwa [agrees.isDeliverable_iff])]
      cases tasks : s.tasks with
      | nil => exact sound
      | cons task rest =>
        rw [scopes, tasks] at agrees
        cases task with
        | act a =>
          have next : Sound { s with tasks := rest } := ⟨agrees, sound.recorded, sound.killed⟩
          exact next.perform ripe a
        | comeBack guard held =>
          cases own : s.held with
          | cons inner outer => exact sound.leave ripe
          | nil =>
            rw [own] at agrees
            exact sound.record ripe (by simp) (agrees.leave (.inr rfl)) rfl rfl

theorem run (sound : s.Sound) (body : α → List (Act α)) (n : Nat) : (s.run body n).Sound := by
  induction n with
  | zero => exact sound
  | succ n ih => exact ih.step body

end Sound

end Session

/-- Whatever programs and callbacks do, the timer is armed exactly while its handler is installed
and a callback is registered, namely that of the latest `arm`. A delivery follows at once, and once,
whatever lets a waiting signal through, and nothing else; it goes to the callback that is registered
then, is dropped if there is none, and kills the process if and only if the timer was never armed.
So no callback is run after a `disarm` that came after its `arm`, and a signal that waited when an
armed timer was disarmed is lost to all that are armed later. -/
theorem deliveries_reach_latest_callback (body : α → List (Act α)) (main : List (Act α)) (n : Nat)
    {s : Session α} (reached : (Session.begin main).run body n = s) :
    (s.signal.armed = true ↔ s.signal.disposition = .handler) ∧
    (s.signal.armed = true ↔ s.signal.callback.isSome = true) ∧
    s.signal.callback = registered s.history ∧
    (s.killed = false →
      ((∃ d, (s.step body).history = .delivered d :: s.history) ↔ LetsThrough s.history)) ∧
    (∀ later d earlier, s.history = later ++ .delivered d :: earlier →
      LetsThrough earlier ∧
      (d = .killed ↔ ∀ quantum callback, .act (.arm quantum callback) ∉ earlier) ∧
      (∀ callback, d = .invoked callback ↔ registered earlier = some callback)) ∧
    (∀ later callback earlier, s.history = later ++ .delivered (.invoked callback) :: earlier →
      ∃ between quantum before, earlier = between ++ .act (.arm quantum callback) :: before ∧
        .act .disarm ∉ between ∧ ∀ q c, .act (.arm q c) ∉ between) ∧
    (∀ later d between before,
      s.history = later ++ .delivered d :: (between ++ .act .disarm :: before) →
        (registered before).isSome = true → .act .raise ∈ between) ∧
    (s.killed = true ↔ ∃ later d earlier, s.history = later ++ .delivered d :: earlier ∧
      ∀ quantum callback, .act (.arm quantum callback) ∉ earlier) := by
  have sound : s.Sound := reached ▸ (Session.begin_sound main).run body n
  have agrees := sound.agrees
  have delivery : ∀ later d earlier, s.history = later ++ .delivered d :: earlier →
      LetsThrough earlier ∧ d = verdict earlier := by
    intro later d earlier split
    have recorded := sound.recorded
    rw [split] at recorded
    obtain ⟨ripe, due, before⟩ := recorded.earlier
    exact ⟨before.letsThrough ripe, due⟩
  refine ⟨?_, ?_, agrees.callback, ?_, ?_, ?_, ?_, ?_⟩
  · rw [agrees.armed, agrees.handler]
  · rw [agrees.armed, agrees.callback]
  · intro live
    constructor
    · rintro ⟨d, next⟩
      have recorded := (sound.step body).recorded
      rw [next] at recorded
      exact sound.recorded.letsThrough recorded.1
    · intro lets
      rw [sound.step_of_ripe live lets.ripe]
      exact ⟨_, (sound.deliver live lets.ripe body).2⟩
  · intro later d earlier split
    obtain ⟨lets, rfl⟩ := delivery later d earlier split
    exact ⟨lets, verdict_eq_killed_iff, fun callback => verdict_eq_invoked_iff⟩
  · intro later callback earlier split
    have due := (delivery later _ earlier split).2
    exact armed_of_registered (verdict_eq_invoked_iff.mp due.symm)
  · intro later d between before split armed
    have lets := (delivery later d _ split).1
    exact raised_of_waiting armed between lets.ripe.1
  · rw [sound.killed]
    constructor
    · intro killed
      obtain ⟨later, earlier, split⟩ := List.append_of_mem killed
      have due := (delivery later _ earlier split).2
      exact ⟨later, _, earlier, split, verdict_eq_killed_iff.mp due.symm⟩
    · rintro ⟨later, d, earlier, split, never⟩
      have due := (delivery later d earlier split).2
      rw [verdict_eq_killed_iff.mpr never] at due
      rw [split, due]
      simp

/-- A signal that waits from before the first `arm` goes to callback 7. One that waits at the
`disarm` never reaches callback 8, which runs for the next one; what it raises waits in the handler
and is lost when it disarms the timer, and a signal after that is dropped. -/
theorem deliveries_reach_latest_callback_replaced :
    let main : List (Act Nat) :=
      [.enter, .raise, .arm ⟨20, by decide⟩ 7, .leave, .enter, .raise, .disarm,
        .arm ⟨30, by decide⟩ 8, .leave, .raise, .raise]
    let body : Nat → List (Act Nat) := fun callback =>
      if callback = 8 then [.enter, .raise, .disarm] else []
    let s := (Session.begin main).run body 20
    let served : List (Occurrence Nat) :=
      [.act .raise, .act .leave, .act (.arm ⟨30, by decide⟩ 8), .act .disarm, .act .raise,
        .act .enter, .cameBack, .delivered (.invoked 7), .act .leave, .act (.arm ⟨20, by decide⟩ 7),
        .act .raise, .act .enter]
    s.history = [.delivered .dropped, .act .raise, .cameBack, .act .leave, .act .disarm,
      .act .raise, .act .enter] ++ .delivered (.invoked 8) :: served ∧
    registered served = some 8 ∧ LetsThrough served ∧ s.killed = false ∧
    s.signal.callback = registered s.history := by
  intro main body s served
  have history : s.history = [.delivered .dropped, .act .raise, .cameBack, .act .leave,
      .act .disarm, .act .raise, .act .enter] ++ .delivered (.invoked 8) :: served := by
    decide
  have facts := deliveries_reach_latest_callback body main 20 (s := s) rfl
  obtain ⟨-, -, callback, -, delivery, -⟩ := facts
  obtain ⟨lets, -, invoked⟩ := delivery _ _ _ history
  exact ⟨history, (invoked 8).mp rfl, lets, by decide, callback⟩

end RoundRobin.Signal
