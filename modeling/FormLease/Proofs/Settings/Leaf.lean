import FormLease.Proofs.Settings.Mentions
import FormLease.Settings

/-!
# Settings one by one

The sixteen values that the settings of a process consist of, as one type
(`Leaf`), so that what holds of every one of them can be said once. Each
has a path of keys, a way of being read and a usual value. That these are
those of the program is what `ofTree_of_fits` says: settings that are made
from a tree of the right shape have, at every leaf, what stands at its
path, or the usual value if nothing stands there.
-/

namespace FormLease.Settings

inductive Leaf where
  | serviceName | environment
  | databaseUrl | maxConnections | minConnections | connectSeconds | idleSeconds
  | redisUrl
  | backend | tries | firstBoundMillis
  | reportedName | logLevel | jsonLogs | metricsEnabled | metricsPort

namespace Leaf

abbrev Value : Leaf → Type
  | serviceName | environment | databaseUrl | redisUrl | reportedName | logLevel => String
  | maxConnections | minConnections | tries => UInt32
  | connectSeconds | idleSeconds | firstBoundMillis => UInt64
  | metricsPort => UInt16
  | backend => Backend
  | jsonLogs | metricsEnabled => Bool

/-- The value in the settings of a process. -/
def get : (l : Leaf) → Settings → l.Value
  | serviceName, s => s.serviceName
  | environment, s => s.environment
  | databaseUrl, s => s.database.url
  | maxConnections, s => s.database.maxConnections
  | minConnections, s => s.database.minConnections
  | connectSeconds, s => s.database.connectSeconds
  | idleSeconds, s => s.database.idleSeconds
  | redisUrl, s => s.redis.url
  | backend, s => s.lease.backend
  | tries, s => s.lease.tries
  | firstBoundMillis, s => s.lease.firstBoundMillis
  | reportedName, s => s.observability.serviceName
  | logLevel, s => s.observability.logLevel
  | jsonLogs, s => s.observability.jsonLogs
  | metricsEnabled, s => s.observability.metricsEnabled
  | metricsPort, s => s.observability.metricsPort

/-- Where it stands in a tree. -/
def path : Leaf → List String
  | serviceName => ["service_name"]
  | environment => ["environment"]
  | databaseUrl => ["database", "url"]
  | maxConnections => ["database", "max_connections"]
  | minConnections => ["database", "min_connections"]
  | connectSeconds => ["database", "connect_timeout_seconds"]
  | idleSeconds => ["database", "idle_timeout_seconds"]
  | redisUrl => ["redis", "url"]
  | backend => ["lock", "backend"]
  | tries => ["lock", "tries"]
  | firstBoundMillis => ["lock", "initial_max_backoff_ms"]
  | reportedName => ["observability", "service_name"]
  | logLevel => ["observability", "log_level"]
  | jsonLogs => ["observability", "json_logs"]
  | metricsEnabled => ["observability", "metrics_enabled"]
  | metricsPort => ["observability", "metrics_port"]

def reading : (l : Leaf) → Reading l.Value
  | serviceName | environment | databaseUrl | redisUrl | reportedName | logLevel => Reading.text
  | maxConnections | minConnections | tries => reading32
  | connectSeconds | idleSeconds | firstBoundMillis => reading64
  | metricsPort => reading16
  | backend => Reading.choice "LockBackend" Backend.ofName?
  | jsonLogs | metricsEnabled => Reading.switch

/-- What messages call it. -/
def key (l : Leaf) : String :=
  match l.path with
  | [first, last] => first ++ "." ++ last
  | path => path.headD ""

def usual (l : Leaf) : l.Value := l.get {}

def all : List Leaf :=
  [serviceName, environment, databaseUrl, maxConnections, minConnections, connectSeconds,
    idleSeconds, redisUrl, backend, tries, firstBoundMillis, reportedName, logLevel, jsonLogs,
    metricsEnabled, metricsPort]

theorem mem_all (l : Leaf) : l ∈ all := by
  cases l <;> simp [all]

/-- What a mention means, if it can be read. -/
def meant (l : Leaf) (t : Tree) : l.Value := (l.reading l.key t).toOption.getD l.usual

/-- What a layer gives the leaf, if it mentions it. -/
def said (l : Leaf) (source : Source) : Option l.Value :=
  (source.mentions l.path).getLast?.map l.meant

end Leaf

/-! ## From a tree -/

/-- What is read of something that may be there. -/
def readOr {α : Type} (read : Reading α) (key : String) (usual : α) :
    Option Tree → Except SettingsFault α
  | some t => read key t
  | none => .ok usual

theorem topText_eq (entries : List (String × Tree)) (key usual : String) :
    topText entries key usual = readOr Reading.text key usual (Tree.findIn key entries) := by
  unfold topText readOr
  cases Tree.findIn key entries <;> rfl

theorem field_eq {α : Type} {t : Tree} {key name : String} (kind : String)
    (fits : t.fits [key, name] = true) (position : Nat) (read : Reading α) (usual : α) :
    (section? t.asTable.1 key kind).field position name read usual
      = readOr read (key ++ "." ++ name) usual (t.at? [key, name]) := by
  have hgiven : (Tree.findIn key t.asTable.1).all (Tree.fits [name]) = true := by
    cases t with
    | table entries origin => exact Tree.fits_findIn fits
    | leaf value origin => cases fits
    | list items origin => cases fits
  rw [show t.at? [key, name] = (Tree.findIn key t.asTable.1).bind (Tree.at? [name]) from rfl]
  simp only [section?, Section.field]
  cases hfound : Tree.findIn key t.asTable.1 with
  | none => rfl
  | some given =>
      rw [hfound] at hgiven
      cases given with
      | leaf value origin => cases hgiven
      | list items origin => cases hgiven
      | table entries origin =>
          rw [show (some (Tree.table entries origin)).bind (Tree.at? [name])
            = (Tree.findIn name entries).bind some from rfl]
          dsimp only
          cases Tree.findIn name entries <;> rfl

theorem bind_of_ok {ε α β : Type} {x : Except ε α} {a : α} (f : α → Except ε β)
    (h : x = .ok a) : (x >>= f) = f a := by
  rw [h]
  rfl

/-- At every leaf the tree has the right shape, and this is what is read
there. -/
structure Reads (t : Tree) (value : (l : Leaf) → l.Value) : Prop where
  fits : ∀ l : Leaf, t.fits l.path = true
  read : ∀ l : Leaf, readOr l.reading l.key l.usual (t.at? l.path) = .ok (value l)

section Reads

variable {t : Tree} {value : (l : Leaf) → l.Value}

theorem Reads.top (reads : Reads t value) {l : Leaf} {key : String} (hpath : l.path = [key]) :
    readOr l.reading key l.usual (Tree.findIn key t.asTable.1) = .ok (value l) := by
  have hread := reads.read l
  have hkey : l.key = key := by rw [Leaf.key, hpath]; rfl
  have hat : t.at? l.path = Tree.findIn key t.asTable.1 := by
    rw [hpath]
    exact Option.bind_fun_some _
  rwa [hkey, hat] at hread

theorem Reads.field (reads : Reads t value) {l : Leaf} {key name : String}
    (hpath : l.path = [key, name]) (kind : String) (position : Nat) :
    (section? t.asTable.1 key kind).field position name l.reading l.usual = .ok (value l) := by
  have hkey : l.key = key ++ "." ++ name := by rw [Leaf.key, hpath]
  rw [field_eq kind (hpath ▸ reads.fits l), ← hkey, ← hpath]
  exact reads.read l

theorem Reads.database (reads : Reads t value) :
    databaseOf (section? t.asTable.1 "database" "DatabaseConfig")
      = .ok ⟨value .databaseUrl, value .maxConnections, value .minConnections,
        value .connectSeconds, value .idleSeconds⟩ :=
  (bind_of_ok _ (reads.field (l := .databaseUrl) rfl _ 0)).trans <|
  (bind_of_ok _ (reads.field (l := .maxConnections) rfl _ 1)).trans <|
  (bind_of_ok _ (reads.field (l := .minConnections) rfl _ 2)).trans <|
  (bind_of_ok _ (reads.field (l := .connectSeconds) rfl _ 3)).trans <|
  (bind_of_ok _ (reads.field (l := .idleSeconds) rfl _ 4)).trans rfl

theorem Reads.redis (reads : Reads t value) :
    redisOf (section? t.asTable.1 "redis" "RedisConfig") = .ok ⟨value .redisUrl⟩ :=
  (bind_of_ok _ (reads.field (l := .redisUrl) rfl _ 0)).trans rfl

theorem Reads.lease (reads : Reads t value) :
    leaseOf (section? t.asTable.1 "lock" "LockConfig")
      = .ok ⟨value .backend, value .tries, value .firstBoundMillis⟩ :=
  (bind_of_ok _ (reads.field (l := .backend) rfl _ 0)).trans <|
  (bind_of_ok _ (reads.field (l := .tries) rfl _ 1)).trans <|
  (bind_of_ok _ (reads.field (l := .firstBoundMillis) rfl _ 2)).trans rfl

theorem Reads.observability (reads : Reads t value) :
    observabilityOf (section? t.asTable.1 "observability" "ObservabilityConfig")
      = .ok ⟨value .reportedName, value .logLevel, value .jsonLogs, value .metricsEnabled,
        value .metricsPort⟩ :=
  (bind_of_ok _ (reads.field (l := .reportedName) rfl _ 0)).trans <|
  (bind_of_ok _ (reads.field (l := .logLevel) rfl _ 1)).trans <|
  (bind_of_ok _ (reads.field (l := .jsonLogs) rfl _ 2)).trans <|
  (bind_of_ok _ (reads.field (l := .metricsEnabled) rfl _ 3)).trans <|
  (bind_of_ok _ (reads.field (l := .metricsPort) rfl _ 4)).trans rfl

theorem Reads.ofTree (reads : Reads t value) :
    ∃ settings, ofTree t = .ok settings ∧ ∀ l : Leaf, l.get settings = value l := by
  have hname : topText t.asTable.1 "service_name" "" = .ok (value .serviceName) :=
    (topText_eq _ _ _).trans (reads.top (l := .serviceName) rfl)
  have henvironment : topText t.asTable.1 "environment" "" = .ok (value .environment) :=
    (topText_eq _ _ _).trans (reads.top (l := .environment) rfl)
  refine ⟨⟨value .serviceName, value .environment, _, _, _, _⟩,
    (bind_of_ok _ hname).trans <| (bind_of_ok _ henvironment).trans <|
    (bind_of_ok _ reads.database).trans <| (bind_of_ok _ reads.redis).trans <|
    (bind_of_ok _ reads.lease).trans <| (bind_of_ok _ reads.observability).trans rfl, fun l => ?_⟩
  cases l <;> rfl

end Reads

theorem readOr_meant (l : Leaf) {o : Option Tree}
    (typed : ∀ u, o = some u → (l.reading l.key u).isOk = true) :
    readOr l.reading l.key l.usual o = .ok ((o.map l.meant).getD l.usual) := by
  cases o with
  | none => rfl
  | some u =>
      have hok := typed u rfl
      simp only [readOr, Option.map_some, Option.getD_some, Leaf.meant]
      cases hvalue : l.reading l.key u with
      | error fault =>
          rw [hvalue] at hok
          cases hok
      | ok value => rfl

/-- Settings from a tree in which everything that is mentioned can be
read. -/
theorem ofTree_of_fits {t : Tree} (fits : ∀ l : Leaf, t.fits l.path = true)
    (typed : ∀ l : Leaf, ∀ u, t.at? l.path = some u → (l.reading l.key u).isOk = true) :
    ∃ settings, ofTree t = .ok settings
      ∧ ∀ l : Leaf, l.get settings = ((t.at? l.path).map l.meant).getD l.usual :=
  Reads.ofTree ⟨fits, fun l => readOr_meant l (typed l)⟩

end FormLease.Settings
