import FormLease.Claimant.Run
import FormLease.Fault.Report
import FormLease.Redis.Target
import FormLease.Settings
import FormLease.Store

/-!
# Probing a lease store

A probe finds out whether the lease store of a deployment works: it takes
the lease on one submission and gives it back. `Probe.run` is all it
does, given where it runs: its arguments, the variables and files around
it, and the servers it can reach.
-/

namespace FormLease.Probe

def serviceName : String := "submission-lock"

/-! ## Speakers -/

def target : String := "submission_lock"

def observabilityTarget : String := "submission_shared::observability"

def metricsTarget : String := "submission_shared::observability::metrics"

def cacheTarget : String := "submission_shared::cache"

/-- Where a probe runs. -/
structure Host where
  arguments : List String
  vars : Settings.Variables
  folder : Settings.Folder
  network : Network
  /-- What a Redis server replies, if it can be reached. -/
  redisReplies : List Redis.Reply
  /-- What a PostgreSQL server replies, if it can be reached. -/
  postgresReplies : List Postgres.Reply
  /-- An id that no other claimant has. -/
  freshId : String
  draws : Nat → Draw

/-- Why a probe failed. -/
structure Failure where
  message : String
  causes : List String

def Failure.ofLease (f : LeaseFault) : Failure := ⟨f.message, f.chain⟩

def Failure.ofService (f : ServiceFault) : Failure := ⟨f.message, f.chain⟩

/-- A probe at work. -/
structure Work where
  store : Store
  /-- What was told so far, newest first. -/
  told : List Journal.Entry

abbrev Action := ExceptT Failure (StateM Work)

/-- What is told, in order. -/
def tell (entries : List Journal.Entry) : Action Unit :=
  modify fun w => { w with told := entries.reverse ++ w.told }

def say (level : Journal.Level) (speaker message : String) (fields : Journal.Fields) :
    Action Unit :=
  tell [.record ⟨level, speaker, message, fields⟩]

def orFail {ε α : Type} (failure : ε → Failure) : Except ε α → Action α
  | .ok a => pure a
  | .error fault => throw (failure fault)

/-! ## Stores -/

def backendTitle : Backend → String
  | .memory => "Memory"
  | .redis => "Redis"
  | .postgres => "Postgres"

/-- A connection to a Redis server is made, if it can be reached. -/
def reach (network : Network) (target : Redis.Target) : Except RedisFault Unit :=
  (network.obstacle? target.endpoint).elim (.ok ()) fun reason => .error (.link reason)

/-- Sets up a store at a Redis server and asks it whether it is well. -/
def openRedis (host : Host) (settings : Settings) : Action Unit := do
  let failure (f : RedisFault) : Failure := .ofService (.redis f)
  let server ← orFail failure (Redis.Target.ofAddress settings.redis.url)
  say .info cacheTarget "Redis client created" []
  orFail failure (reach host.network server)
  let (health, store) :=
    (Redis.Store.mk Redis.Store.defaultLead (.start host.redisReplies)).health
  modify fun w => { w with store := .redis store }
  orFail failure health

/-- Sets up a store at a PostgreSQL server. -/
def openPostgres (host : Host) (settings : Settings) : Action Unit := do
  let (result, entries, store) :=
    (Postgres.Store.mk (.start host.postgresReplies)).connect host.network settings.database.url
      settings.database.maxConnections.toNat
  tell entries
  modify fun w => { w with store := .postgres store }
  orFail .ofLease result

def openStore (host : Host) (settings : Settings) : Action Unit :=
  match settings.lease.backend with
  | .memory => pure ()
  | .redis => openRedis host settings
  | .postgres => openPostgres host settings

/-! ## Calls -/

/-- A claimant's log: the scope of a call and the notes within it. -/
def entriesOf (c : Claimant) : Event → List Journal.Entry
  | .entered errand => [.opened ⟨errand.name, Note.target, c.spanFields⟩]
  | .note note => [.record note.record]
  | .measure _ => []

/-- The probe's store, backoffs that end at once, and the log. No time
passes while a probe works. -/
def surroundings : Surroundings Work where
  ask errand id key kind w :=
    let (answer, entries, store) := w.store.ask 0 errand id key kind
    (answer, ⟨store, entries.reverse ++ w.told⟩)
  rest _ w := (.ok (), w)
  hear c event w := { w with told := (entriesOf c event).reverse ++ w.told }

/-- The work of a probe is to tell that it has the lease. -/
def tellAcquired (w : Work) : Unit × Work :=
  ((), { w with told := .record ⟨.info, target, "Lock acquired", []⟩ :: .closed :: w.told })

/-- Takes the lease and gives it back. -/
def takeAndReturn (c : Claimant) : Action Unit := do
  let done := c.bracket tellAcquired surroundings (← get)
  set done.surroundings
  tell [.closed]
  match done.outcome with
  | .ok () =>
    say .info target "Lock released" []
    tell (done.claimant.leave.flatMap (entriesOf done.claimant))
  | .error fault =>
    match fault with
    | .timedOut _ _ =>
      say .warn target "Lock is currently held by another worker" [("error", .text fault.message)]
    | _ => pure ()
    tell (done.claimant.leave.flatMap (entriesOf done.claimant))
    throw (.ofLease fault)

/-! ## The whole probe -/

/-- Who runs the probe. -/
def userName (vars : Settings.Variables) : String :=
  (vars.lookup "USER" <|> vars.lookup "USERNAME").getD "anonymous"

def work (host : Host) (vars : Settings.Variables) (settings : Settings) : Action Unit := do
  match host.arguments with
  | form :: instanceId :: _ =>
    say .info target "Configuration loaded"
      [("environment", .text settings.environment),
        ("backend", .text (backendTitle settings.lease.backend))]
    openStore host settings
    let policy ← orFail .ofLease
      (RetryPolicy.ofParts settings.lease.tries (Span.ofMillis settings.lease.firstBoundMillis.toNat))
    let key ← orFail .ofLease (ResourceKey.ofSubmission form instanceId)
    let c :=
      (Claimant.create key host.freshId (userName vars) host.draws).withPolicy policy host.draws
    say .info target "Probing submission lock"
      [("resource_key", .text key.text), ("lock_id", .text c.id),
        ("worst_case_wait_ms", .number policy.worstCaseWait.millisWord)]
    takeAndReturn c
  | _ => throw ⟨"usage: " ++ serviceName ++ " <form_id> <instance_id>", []⟩

/-- What is told before the work begins. -/
def greeting (o : ObservabilitySettings) (loadFault : Option SettingsFault) : List Journal.Entry :=
  let record (level : Journal.Level) (speaker message : String) (fields : Journal.Fields) :
      Journal.Entry :=
    .record ⟨level, speaker, message, fields⟩
  let initialized :=
    record .info observabilityTarget "Observability initialized"
      [("service", .text o.serviceName), ("json_logs", .flag o.jsonLogs),
        ("metrics_enabled", .flag o.metricsEnabled)]
  let listening :=
    if o.metricsEnabled then
      [record .info metricsTarget
        ("Metrics exporter listening on 0.0.0.0:" ++ toString o.metricsPort.toNat) []]
    else []
  let fallback := loadFault.toList.map fun f =>
    record .warn target ("Failed to load config, using defaults: " ++ f.message) []
  initialized :: listening ++ fallback

def farewell (o : ObservabilitySettings) : Journal.Entry :=
  .record ⟨.info, observabilityTarget, "Shutting down observability...",
    [("metrics_enabled", .flag o.metricsEnabled)]⟩

/-- What came of a probe. -/
structure Outcome where
  exitCode : Nat
  /-- Whether the lines of the log are objects. -/
  objects : Bool
  log : List String
  complaint : String
  redisSent : List Redis.Command
  postgresSent : List Postgres.Statement

/-- The lines of the log as they are printed. -/
def layOut (objects : Bool) (filter : Journal.Filter) (entries : List Journal.Entry) : List String :=
  let lines := Journal.lines filter objects [] entries
  if objects then lines.map Journal.Line.object
  else lines.flatMap fun l => (Text.pieces '\n' l.text.toList).map String.ofList

def run (host : Host) : Outcome :=
  let vars := Settings.extended host.vars host.folder
  let loaded := Settings.load serviceName host.vars host.folder
  let settings := loaded.toOption.getD {}
  let loadFault : Option SettingsFault :=
    match loaded with
    | .ok _ => none
    | .error f => some f
  let o := settings.observability.named serviceName
  let filter := Journal.Filter.choose (vars.lookup "RUST_LOG") o.logLevel
  let start : Work := ⟨.memory .empty, (greeting o loadFault).reverse⟩
  let (result, done) := (work host vars settings).run.run start
  let failure : Option Failure :=
    match result with
    | .ok () => none
    | .error f => some f
  { exitCode := if failure.isSome then 1 else 0
    objects := o.jsonLogs
    log := layOut o.jsonLogs filter (farewell o :: done.told).reverse
    complaint := failure.elim "" fun f => Fault.report f.message f.causes
    redisSent := done.store.redisSent
    postgresSent := done.store.postgresSent }

end FormLease.Probe
