import BackOffice.Rehearsal.Floor

/-!
How a rehearsal goes on, in rounds. In a round everything that is under way is carried on until it is
done or has to wait; then the calls that nobody awaits are made, in the order in which they were queued.
A call that is awaited is made at once. All of it is bounded by an allowance that the size of the
rehearsal determines.
-/

namespace BackOffice

mutual

/-- A command under way. -/
inductive Activity where
  | ready (c : Command)
  /-- The machine with this number runs; its groups wait for these calls. -/
  | running (ticket : Nat) (calls : List (Nat × PendingCall))
  | together (parts : List Activity)
  | done (r : Reply)

/-- A call that is out: what happens meanwhile, the rounds that still have to pass, and the answer. -/
inductive PendingCall where
  | mk (index : Nat) (during : List Activity) (delay : Nat) (answer : Answer)

end

/-- What a rehearsal is asked at one time: the replies to the commands of hooks, the requests and the
events that came of it, and its own reply. -/
structure Scene where
  reply : Option Reply
  asides : List Reply
  calls : List Request
  events : List Event

namespace Activity

def reply? : Activity → Option Reply
  | done r => some r
  | _ => none

/-- The reply to commands that are carried out side by side, once all are done. -/
def gather (parts : List Activity) : Activity :=
  match parts.mapM reply? with
  | some replies => .done (.all replies)
  | none => .together parts

end Activity

namespace Rehearsal

/-- Sends a request: it is recorded, and its answer and its hook are taken. -/
def call (s : Rehearsal) (c : Call) : Rehearsal × PendingCall :=
  let workflow := c.request.workflow
  let (answer, backend) := s.backend.invoke c.request
  let hooks := (s.hooks.find? workflow).getD []
  let hook := hooks.head?.getD {}
  ({ s with backend, hooks := s.hooks.put workflow hooks.tail },
    .mk c.index (hook.during.map .ready) hook.delay
      (match hook.failure with
        | some e => .error e
        | none => answer))

/-- Takes up what came out of a stretch of a machine. -/
def takeTrace (s : Rehearsal) (ticket group : Nat) (t : Trace) : Rehearsal :=
  { s with
    surroundings := t.surroundings
    events := if s.listening then s.events ++ t.events else s.events
    queue := s.queue ++ (t.calls.filter (!·.awaited)).map fun call => { ticket, group, call } }

/-- Puts an answer into a machine. -/
def deliver (s : Rehearsal) (ticket group index : Nat) (answer : Answer) : Rehearsal :=
  match s.machine? ticket with
  | none => s
  | some m => s.setMachine ticket { m with graph := m.graph.deliver group index answer }

/-- Whether a group still waits for its calls. -/
def wants (s : Rehearsal) (c : QueuedCall) : Bool :=
  ((s.machine? c.ticket).bind fun m => m.graph.running? c.group).any (!·.isFinished)

/-- Takes a machine that has finished away and takes up its outcome. -/
def conclude (s : Rehearsal) (ticket : Nat) (m : Machine) : Rehearsal × Activity :=
  let (s, r) := ({ s with machines := s.machines.filter (·.1 ≠ ticket) }).finish m
  (s, .done r)

mutual

/-- Carries an activity on until it is done or has to wait. -/
def poll : (allowance : Nat) → Rehearsal → Activity → Rehearsal × Activity
  | 0, s, a => (s, a)
  | n + 1, s, .ready c =>
    match s.command c with
    | (s, .done r) => (s, .done r)
    | (s, .launched ticket) => pollMachine n s ticket []
    | (s, .together commands) => poll n s (.together (commands.map .ready))
  | n + 1, s, .running ticket calls => pollMachine n s ticket calls
  | n + 1, s, .together parts =>
    let (s, parts) := parts.foldl
      (fun (s, done) a =>
        let (s, a) := poll n s a
        (s, done ++ [a]))
      (s, [])
    (s, .gather parts)
  | _ + 1, s, .done r => (s, .done r)

/-- Carries the groups of a machine on, and the machine to its next groups once all have finished. -/
def pollMachine : (allowance : Nat) → Rehearsal → (ticket : Nat) → List (Nat × PendingCall) →
    Rehearsal × Activity
  | 0, s, ticket, calls => (s, .running ticket calls)
  | n + 1, s, ticket, calls =>
    match s.machine? ticket with
    | none => (s, .done .unknown)
    | some m =>
      if m.graph.isFinished then s.conclude ticket m
      else
        let (s, calls) := m.graph.active.foldl
          (fun (s, calls) group => pollGroup n s ticket group calls) (s, calls)
        match s.machine? ticket with
        | none => (s, .done .unknown)
        | some m =>
          if m.graph.active.isEmpty then
            let graph := m.graph.close s.rules (s.counterAt m.handle)
            pollMachine n (s.setMachine ticket { m with graph }) ticket []
          else (s, .running ticket calls)

/-- Carries one group on until it finishes or has to wait for a call. -/
def pollGroup : (allowance : Nat) → Rehearsal → (ticket group : Nat) → List (Nat × PendingCall) →
    Rehearsal × List (Nat × PendingCall)
  | 0, s, _, _, calls => (s, calls)
  | n + 1, s, ticket, group, calls =>
    match calls.lookup group with
    | some c =>
      let rest := calls.filter (·.1 ≠ group)
      match pollCall n s c with
      | (s, .mk index _ _ answer, true) =>
        pollGroup n (s.deliver ticket group index answer) ticket group rest
      | (s, c, false) => (s, rest ++ [(group, c)])
    | none =>
      match s.machine? ticket with
      | none => (s, calls)
      | some m =>
        let (graph, t) := m.graph.poll s.rules (s.counterAt m.handle) group { surroundings := s.surroundings }
        let s := (s.setMachine ticket { m with graph }).takeTrace ticket group t
        match t.calls.find? (·.awaited) with
        | none => (s, calls)
        | some c =>
          let (s, c) := s.call c
          pollGroup n s ticket group (calls ++ [(group, c)])

/-- Carries a call on, and says whether its answer has come. -/
def pollCall : (allowance : Nat) → Rehearsal → PendingCall → Rehearsal × PendingCall × Bool
  | 0, s, c => (s, c, false)
  | n + 1, s, .mk index (a :: rest) delay answer =>
    match poll n s a with
    | (s, .done r) =>
      pollCall n { s with asides := s.asides ++ [r] } (.mk index rest delay answer)
    | (s, a) => (s, .mk index (a :: rest) delay answer, false)
  | _ + 1, s, .mk index [] 0 answer => (s, .mk index [] 0 answer, true)
  | _ + 1, s, .mk index [] (delay + 1) answer => (s, .mk index [] delay answer, false)

end

mutual

/-- Makes the queued calls, in order; one whose group no longer waits for it is dropped. -/
def makeQueued : (allowance : Nat) → Rehearsal → Rehearsal
  | 0, s => s
  | n + 1, s =>
    match s.queue with
    | [] => s
    | q :: rest =>
      let s := { s with queue := rest }
      if s.wants q then
        let (s, .mk index during _ answer) := s.call q.call
        makeQueued n (settleCall n s q (.mk index during 0 answer))
      else makeQueued n s

/-- Carries a call on to its end and delivers its answer. -/
def settleCall : (allowance : Nat) → Rehearsal → QueuedCall → PendingCall → Rehearsal
  | 0, s, _, _ => s
  | n + 1, s, q, c =>
    match pollCall n s c with
    | (s, .mk index _ _ answer, true) => s.deliver q.ticket q.group index answer
    | (s, c, false) => settleCall n (makeQueued n s) q c

end

/-- Carries an activity on to its end, round by round. -/
def rounds : (allowance : Nat) → Rehearsal → Activity → Rehearsal × Option Reply
  | 0, s, _ => (s, none)
  | n + 1, s, a =>
    match poll n s a with
    | (s, .done r) => (s, some r)
    | (s, a) => rounds n (makeQueued n s) a

/-- The work that a page or a selection may make. -/
def screenWeight (s : Rehearsal) : Nat :=
  ((s.permission.map fun p => p.1.graph.weight).getD 0)
    + match s.table with
      | some ({ source := .remote graph, .. }, _) => graph.weight
      | _ => 0

/-- The commands, groups, steps and rounds in the hooks. -/
def hookWeight (s : Rehearsal) : Nat :=
  (s.hooks.flatMap Prod.snd).foldl (fun n h => n + 1 + h.delay + Command.weights h.during) 0

/-- More than enough for everything that commands can set off. -/
def allowance (s : Rehearsal) (commands : List Command) : Nat :=
  let weight := 1 + Command.weights commands + s.hookWeight
  8 * weight * (4 + s.screenWeight)

/-- Carries one command out to its end. -/
def scene (allowance : Nat) (s : Rehearsal) (c : Command) : Rehearsal × Scene :=
  let (after, reply) := { s with asides := [], events := [] }.rounds allowance (.ready c)
  (after, {
    reply
    asides := after.asides
    calls := after.backend.calls.drop s.backend.calls.length
    events := after.events })

/-- Carries commands out, one after another. -/
def scenes (allowance : Nat) : Rehearsal → List Command → List Scene
  | _, [] => []
  | s, c :: rest =>
    let (s, scene) := s.scene allowance c
    scene :: scenes allowance s rest

/-- Plays a rehearsal. -/
def play (s : Rehearsal) (commands : List Command) : List Scene :=
  s.scenes (s.allowance commands) commands

end Rehearsal

end BackOffice
