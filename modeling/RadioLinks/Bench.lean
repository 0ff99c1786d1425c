import RadioLinks.Broadcast
import RadioLinks.Config.Sections
import RadioLinks.Radio.Interposed
import RadioLinks.Radio.InMemory
import RadioLinks.Text.Runs
/-!
# A test bench for the request interface

The bench holds a manager over an interposed simulated radio, and sessions
under names. It takes one step after another and reports what each gave, the
calls it made, and the sockets held afterwards. Waits either run without a
mediator, where nobody ever wakes them, or with one that looks whenever
something may have changed.
-/

namespace RadioLinks

/-- How many suspensions an operation may make on the bench. -/
def Bench.allowance : Nat := 299

/-- A wait as it is asked for. -/
structure WaitRequest where
  service : Service
  direction : Direction
  timeout : Nat
  deriving DecidableEq, Repr

/-- One thing to do on the bench: a request, something arranged on a session or on the
radio, a wait with steps taken while it lasts, or a look at a state. -/
inductive BenchStep where
  | connect (service : Service) (destination : Destination)
  | send (service : Service) (data : Bytes)
  | receive (service : Service) (limit : Nat)
  | close (service : Service)
  | rebind (service : Service)
  | session (name : String) (scripts : List (EngineOperation × List EngineResult))
      (connectionId : Bool)
  | register (service : Service) (name : String)
  | dropSession (name : String)
  | script (name : String) (op : EngineOperation) (results : List EngineResult)
  | setConnectionId (name : String) (active : Bool)
  | refuseHostname (name : String) (cause : EngineCode)
  | sessionState (name : String)
  | hasSession (service : Service)
  | snapshot (service : Service)
  | wait (waits : List WaitRequest) (during : List BenchStep)
  | advance (elapsed : Nat)
  | addHost (name : String) (ip : Ipv4)
  | addEcho (peer : Endpoint)
  | breakStep (step : FaultPoint)
  | mendStep (step : FaultPoint)
  | setConnectRounds (rounds : Nat)
  | deliver (sd : Descriptor) (data : Bytes) (sender : Endpoint)
  | orders (op : RadioOp) (orders : List Order)
  | radioState
  | describe

/-- What a step gave. Reports of the steps taken during a wait are kept as
`ε`. -/
inductive Reply (ε : Type) where
  | nothing
  | plain (answer : Except RequestError Unit)
  | count (answer : Except RequestError Nat)
  | data (answer : Except RequestError Bytes)
  | abandoned
  | flag (value : Bool)
  | session (bound : Bool) (mtu : Option Nat) (hostname : Option String)
  | snapshot (snapshot : Snapshot) (now : Nat)
  | waits (ready : List Bool) (during : List ε)
  | radio (opened closed stillOpen : Nat) (sent : List (Descriptor × Bytes))
  | text (text : String)

/-- The report of one step: what it gave, the calls it made to the radio and to
each session, and the socket of each service afterwards. -/
inductive Report where
  | mk (reply : Reply Report) (calls : List RadioAction)
      (engine : List (String × List EngineAction)) (sockets : List (Option Descriptor))

/-- The sockets are those of all services in table order. `owned` has the
number of each named session, and `due` the end of each wait under way. -/
structure Bench where
  manager : Manager (Interposed Radio)
  mediated : Bool := false
  owned : List (String × Nat) := []
  due : List (Nat × Nat) := []

namespace Bench

/-- A length of time in whole seconds, as it is shown to developers. -/
def secondsText (milliseconds : Nat) : String :=
  if milliseconds = 0 then "0ns" else toString (milliseconds / 1000) ++ "s"

/-- A manager's settings, as they are shown to developers. -/
def describe (settings : Settings) : String :=
  "NetworkManager \x7b policy: SecurePolicy \x7b idle_threshold: "
    ++ secondsText settings.policy.idleThreshold
    ++ ", close_notify_attempts: " ++ toString settings.policy.closeNotifyAttempts
    ++ " \x7d, connect_timeout: " ++ secondsText settings.connectTimeout
    ++ ", datagram_mtu: " ++ toString settings.datagramMtu ++ ", .. \x7d"

/-- Arrange something on the simulated radio, unseen by the manager. -/
def arrange (bench : Bench) (change : Radio → Radio) : Bench :=
  let radio := bench.manager.radio
  { bench with
    manager := { bench.manager with radio := { radio with inner := change radio.inner } } }

def updateSession (bench : Bench) (name : String) (change : Session → Session) : Bench :=
  match bench.owned.lookup name with
  | none => bench
  | some id =>
      match bench.manager.sessions.find? id with
      | none => bench
      | some session =>
          { bench with manager := { bench.manager with
              sessions := bench.manager.sessions.put id (change session) } }

def session? (bench : Bench) (name : String) : Option Session :=
  (bench.owned.lookup name).bind bench.manager.sessions.find?

def dropSession (bench : Bench) (name : String) : Bench :=
  match bench.owned.lookup name with
  | none => bench
  | some id =>
      { bench with
        owned := bench.owned.filter (·.1 != name)
        manager := { bench.manager with sessions := bench.manager.sessions.drop id } }

/-- Make a session under a name. It takes the place of an earlier one. -/
def addSession (bench : Bench) (name : String) (session : Session) : Bench :=
  let bench := bench.dropSession name
  let (id, sessions) := bench.manager.sessions.add session
  { bench with
    owned := bench.owned ++ [(name, id)]
    manager := { bench.manager with sessions := sessions } }

/-- Run a request to its end or until its allowance is used up. -/
def request (operation : Paced (Manager (Interposed Radio)) α) (reply : α → Reply Report)
    (bench : Bench) : Reply Report × Bench :=
  match operation.run allowance bench.manager with
  | .done value _ manager => (reply value, { bench with manager := manager })
  | .abandoned manager => (.abandoned, { bench with manager := manager })

/-- Let every wait whose end has come give up. -/
def expireDue (bench : Bench) : Bench :=
  bench.due.foldl (fun bench entry =>
    if entry.2 ≤ bench.manager.clock.now then
      { bench with manager := { bench.manager with
          waitSystem := bench.manager.waitSystem.giveUp entry.1 } }
    else bench) bench

def setClock (bench : Bench) (clock : Clock) : Bench :=
  { bench with manager := { bench.manager with clock := clock } }

/-- Let the mediator look a moment later, once more for each order that still
waits for a readiness question. -/
def settle (bench : Bench) : Bench :=
  if bench.mediated then
    let later := (bench.setClock (bench.manager.clock.advance 1)).expireDue
    let rounds := (later.manager.radio.orders .select).length + 1
    { later with manager := Nat.repeat Manager.mediate rounds later.manager }
  else bench

/-- Start waits one after another. The answer has the ticket and the end of
each. -/
def startWaits (bench : Bench) : List WaitRequest → List (Nat × Nat) × Bench
  | [] => ([], bench)
  | wait :: rest =>
      let started := bench.manager.clock.now
      let (ticket, manager) := bench.manager.startWait wait.service wait.direction wait.timeout
      let entry := (ticket, Manager.waitEnd manager.settings started wait.timeout)
      let (entries, bench) := { bench with
        manager := manager, due := bench.due ++ [entry] }.startWaits rest
      (entry :: entries, bench)

/-- Let the waits that nobody has woken run to their end. -/
def finishWaits (bench : Bench) (entries : List (Nat × Nat)) : List Bool × Bench :=
  let blocked := entries.filter fun entry => bench.manager.waitSystem.isBlocked entry.1
  let reached := blocked.foldl (fun clock entry => clock.reach entry.2) bench.manager.clock
  let bench := (bench.setClock reached).expireDue
  (entries.map fun entry => bench.manager.waitSystem.result entry.1,
    { bench with due := bench.due.filter (!entries.contains ·) })

/-- How long after the start of a wait the steps during it begin. -/
def duringDelay : Nat := 10

/-- Report what a step gave, and start the record of the next one. -/
def report (reply : Reply Report) (bench : Bench) : Report × Bench :=
  let manager := bench.manager
  let engine := bench.owned.filterMap fun (name, id) =>
    (manager.sessions.find? id).map fun session => (name, session.log.map (·.call))
  let cleared := bench.owned.foldl (fun bench entry =>
    bench.updateSession entry.1 Session.clearLog) bench
  (.mk reply manager.radio.log engine (Service.all.map manager.socket?),
    { cleared with manager := { cleared.manager with
        radio := { cleared.manager.radio with log := [] } } })

mutual

def act (bench : Bench) : BenchStep → Reply Report × Bench
  | .connect service destination => bench.request (Manager.connect service destination) .plain
  | .send service data => bench.request (Manager.send service data) .count
  | .receive service limit => bench.request (Manager.receive service limit) .data
  | .close service => bench.request (Manager.close service) .plain
  | .rebind service =>
      let (answer, manager) := bench.manager.rebind service
      (.plain answer, { bench with manager := manager })
  | .session name scripts connectionId =>
      let session := scripts.foldl (fun session (op, results) => session.script op results)
        { connectionId := connectionId : Session }
      (.nothing, bench.addSession name session)
  | .register service name =>
      match bench.owned.lookup name with
      | none => (.nothing, bench)
      | some id =>
          (.nothing, { bench with manager := bench.manager.enrol service id })
  | .dropSession name => (.nothing, bench.dropSession name)
  | .script name op results => (.nothing, bench.updateSession name (·.script op results))
  | .setConnectionId name active =>
      (.nothing, bench.updateSession name ({ · with connectionId := active }))
  | .refuseHostname name cause =>
      (.nothing, bench.updateSession name ({ · with hostnameRefusal := some cause }))
  | .sessionState name =>
      match bench.session? name with
      | none => (.nothing, bench)
      | some session =>
          (.session session.binding.isSome session.mtu session.hostname, bench)
  | .hasSession service => (.flag (bench.manager.session? service).isSome, bench)
  | .snapshot service =>
      (.snapshot (bench.manager.snapshot service) bench.manager.clock.now, bench)
  | .wait waits during =>
      let started := bench.manager.clock.now
      let (entries, bench) := bench.startWaits waits
      let bench := bench.settle
      let (reports, bench) :=
        match during with
        | [] => ([], bench)
        | first :: rest =>
            let bench := bench.setClock (bench.manager.clock.reach (started + duringDelay))
            let (report, bench) := bench.take first
            let (reports, bench) := bench.takeAll rest
            (report :: reports, bench.settle)
      let (ready, bench) := bench.finishWaits entries
      (.waits ready reports, bench)
  | .advance elapsed =>
      (.nothing, bench.setClock (bench.manager.clock.advance elapsed))
  | .addHost name ip => (.nothing, bench.arrange (·.addHost name ip))
  | .addEcho peer => (.nothing, bench.arrange (·.addEcho peer))
  | .breakStep step => (.nothing, bench.arrange (·.breakStep step))
  | .mendStep step => (.nothing, bench.arrange (·.mendStep step))
  | .setConnectRounds rounds => (.nothing, bench.arrange (·.setConnectRounds rounds))
  | .deliver sd data sender => (.nothing, bench.arrange (·.deliver sd data sender))
  | .orders op orders =>
      (.nothing, { bench with manager := { bench.manager with
          radio := bench.manager.radio.queue op orders } })
  | .radioState =>
      let radio := bench.manager.radio.inner
      (.radio radio.opened radio.closed radio.slotsInUse radio.outbox, bench)
  | .describe => (.text (describe bench.manager.settings), bench)

def take (bench : Bench) (step : BenchStep) : Report × Bench :=
  let (reply, bench) := bench.act step
  bench.report reply

def takeAll (bench : Bench) : List BenchStep → List Report × Bench
  | [] => ([], bench)
  | step :: rest =>
      let (report, bench) := bench.take step
      let (reports, bench) := bench.takeAll rest
      (report :: reports, bench)

end

/-- How a mediator came out of a run: whether it was still there at the end,
whether it stopped when told to, and how many listeners were left. -/
structure MediatorReport where
  alive : Bool
  stopped : Bool
  listening : Nat
  deriving DecidableEq, Repr

/-- Tell the mediator to stop. It hears of it between two rounds. -/
def shutDown (bench : Bench) : MediatorReport :=
  let alive := bench.manager.waitSystem.phase != .stopped
  let channel := (({} : Broadcast).subscribe "mediator").trigger
  match channel.poll "mediator", bench.manager.waitSystem.step .stop with
  | (.empty, channel), _ | (_, channel), none => ⟨alive, false, channel.listening⟩
  | (_, channel), some _ => ⟨alive, true, (channel.drop "mediator").listening⟩

end Bench

end RadioLinks
