import FormLease.Probe
import FormLease.Proofs.Call.Attempts
import FormLease.Proofs.Redis.Counts

/-!
# Calls at a server

A server can say no, and it can fail, and a claimant must not take the one
for the other: after a no it tries again, and after a fault it must not,
because nobody can tell then who owns the lease. Which replies say no, say
yes or are a fault is said for each server and each errand, of the replies
as they come and not of what a store makes of them (`claimReading`,
`countReading`, `Postgres.reading`). How an attempt goes is said as well.

All attempts but one are a single command and its reply. The exception is
the release at a Redis server, which runs a script: a server that does not
know the script says so and is given it, and the reply to the last command
decides (`Invocation`).
-/

namespace FormLease

/-! ## Faults in another form -/

section MapError

variable {ε ε' α : Type} {x : Except ε α} {f : ε → ε'}

theorem mapError_eq_ok_iff {a : α} : x.mapError f = .ok a ↔ x = .ok a := by
  cases x with
  | ok b =>
      constructor
      · exact fun h => congrArg Except.ok (Except.ok.inj h)
      · exact fun h => congrArg Except.ok (Except.ok.inj h)
  | error e =>
      constructor
      · rintro ⟨⟩
      · rintro ⟨⟩

theorem mapError_eq_error_iff {b : ε'} :
    x.mapError f = .error b ↔ ∃ e, x = .error e ∧ b = f e := by
  cases x with
  | ok a =>
      constructor
      · rintro ⟨⟩
      · rintro ⟨_, ⟨⟩, _⟩
  | error e =>
      constructor
      · exact fun h => ⟨e, rfl, (Except.error.inj h).symm⟩
      · rintro ⟨_, h, rfl⟩
        cases h
        rfl

end MapError

namespace Redis

/-! ## Redis -/

def server (lead : String) : Server Exchange Command Reply where
  store e := .redis ⟨lead, e⟩
  attempt errand id key kind e :=
    let (answer, _, s) := (⟨lead, e⟩ : Store).ask errand id key kind
    (answer.mapError .redis, s.exchange)
  sent := Exchange.sent
  replies := Exchange.replies
  ask _ errand _ _ _ _ := by cases errand <;> exact ⟨rfl, rfl⟩

def claimReading : Reading Reply where
  meaning r := r.wasSet?.mapError .redis
  no r := r = .nil
  yes r := r ≠ .nil ∧ ∀ code text, r ≠ .error code text
  fault r f := ∃ code text, r = .error code text ∧ f = .redis (.replied code text)
  lost := .redis (.link "terminated")
  no_iff r := by
    rw [mapError_eq_ok_iff]
    cases r <;> simp [Reply.wasSet?]
  yes_iff r := by
    rw [mapError_eq_ok_iff]
    cases r <;> simp [Reply.wasSet?]
  fault_iff r f := by
    rw [mapError_eq_error_iff]
    cases r <;> simp [Reply.wasSet?, and_assoc]

/-- By the number of keys that were removed. -/
def countReading : Reading Reply where
  meaning r := r.wasRemoved?.mapError .redis
  no r := ∃ n, r.Counts n ∧ n ≤ 0
  yes r := ∃ n, r.Counts n ∧ 0 < n
  fault r f := ∃ fault, r.Uncounted fault ∧ f = .redis fault
  lost := .redis (.link "terminated")
  no_iff r := by
    simp only [mapError_eq_ok_iff, ← Reply.number?_eq_ok_iff]
    cases h : r.number? <;> simp [Reply.wasRemoved?, h, Except.map]
  yes_iff r := by
    simp only [mapError_eq_ok_iff, ← Reply.number?_eq_ok_iff]
    cases h : r.number? <;> simp [Reply.wasRemoved?, h, Except.map]
  fault_iff r f := by
    simp only [mapError_eq_error_iff, ← Reply.number?_eq_error_iff]
    cases h : r.number? <;> simp [Reply.wasRemoved?, h, Except.map]

def claimCommand (lead id key : String) (kind : LeaseKind) : Command :=
  .setIfAbsent (lead ++ key) id (Store.runMillis kind)

theorem speaks_claim (lead id key : String) (kind : LeaseKind) :
    (server lead).Speaks (.single (claimCommand lead id key kind) Reply)
      claimReading ((server lead).attempt .acquire id key kind) := by
  rintro ⟨sent, replies⟩
  cases replies with
  | nil => exact ⟨none, ⟨fun _ _ => trivial, rfl, rfl⟩, rfl, fun _ => rfl⟩
  | cons r rest => exact ⟨some r, ⟨fun _ _ => trivial, rfl, rfl⟩, rfl, fun h => (by cases h)⟩

/-! ## Invocations of the script -/

/-- How an invocation of the release script may go. Where a reply is
missing, the server hung up. -/
inductive Invocation where
  /-- The server knows the script. -/
  | known (reply : Option Reply)
  /-- The server does not, and is given it. -/
  | taught (missing : String) (loaded : Reply) (reply : Option Reply)
  /-- The server does not, and does not take it. -/
  | untaught (missing : String) (refusal : Option (String × String))

namespace Invocation

def sent (run : Command) : Invocation → List Command
  | known _ => [run]
  | taught _ _ _ => [run, .loadRelease, run]
  | untaught _ _ => [run, .loadRelease]

def read : Invocation → List Reply
  | known reply => reply.toList
  | taught missing loaded reply => .error "NOSCRIPT" missing :: loaded :: reply.toList
  | untaught missing refusal =>
    .error "NOSCRIPT" missing :: (refusal.map fun (code, text) => Reply.error code text).toList

def reply? : Invocation → Option Reply
  | known reply | taught _ _ reply => reply
  | untaught _ refusal => refusal.map fun (code, text) => .error code text

def Sound : Invocation → Prop
  | known reply => ∀ missing, reply ≠ some (.error "NOSCRIPT" missing)
  | taught _ loaded _ => ∀ code text, loaded ≠ .error code text
  | untaught _ _ => True

end Invocation

/-- The manner of a script that is run by this command. -/
def scripted (run : Command) : Manner Command Reply Invocation where
  sent := Invocation.sent run
  read := Invocation.read
  reply? := Invocation.reply?
  Sound := Invocation.Sound

/-- Replies begin with those of an invocation. -/
theorem exists_invocation (replies : List Reply) :
    ∃ (v : Invocation) (rest : List Reply), v.Sound ∧ replies = v.read ++ rest
      ∧ (v.reply? = none → rest = []) := by
  match replies with
  | [] => exact ⟨.known none, [], fun _ h => (by cases h), rfl, fun _ => rfl⟩
  | r :: rest =>
      by_cases hknown : ∀ missing, some r ≠ some (.error "NOSCRIPT" missing)
      · exact ⟨.known (some r), rest, hknown, rfl, fun h => (by cases h)⟩
      obtain ⟨missing, hmissing⟩ := Classical.not_forall.mp hknown
      obtain rfl := Option.some.inj (Decidable.not_not.mp hmissing)
      match rest with
      | [] => exact ⟨.untaught missing none, [], trivial, rfl, fun _ => rfl⟩
      | loaded :: rest =>
          by_cases htaken : ∀ code text, loaded ≠ .error code text
          · match rest with
            | [] => exact ⟨.taught missing loaded none, [], htaken, rfl, fun _ => rfl⟩
            | r :: rest =>
                exact ⟨.taught missing loaded (some r), rest, htaken, rfl, fun h => (by cases h)⟩
          · obtain ⟨code, htext⟩ := Classical.not_forall.mp htaken
            obtain ⟨text, hrefused⟩ := Classical.not_forall.mp htext
            obtain rfl := Decidable.not_not.mp hrefused
            exact ⟨.untaught missing (some (code, text)), rest, trivial, rfl, fun h => (by cases h)⟩

/-- What comes of running the script. -/
theorem sendRelease_invocation (key holder : String) {v : Invocation} (sound : v.Sound)
    {rest : List Reply} (hungUp : v.reply? = none → rest = []) (sent : List Command) :
    let e := Exchange.sendRelease key holder ⟨sent, v.read ++ rest⟩
    (e.1.bind Reply.wasRemoved?).mapError .redis = countReading.answer v.reply?
      ∧ e.2 = ⟨sent ++ v.sent (.runRelease key holder), rest⟩ := by
  cases v with
  | known reply =>
      cases reply with
      | none =>
          obtain rfl := hungUp rfl
          exact ⟨rfl, rfl⟩
      | some r =>
          have hsend : Exchange.sendRelease key holder ⟨sent, r :: rest⟩
              = (.ok r, ⟨sent ++ [.runRelease key holder], rest⟩) := by
            simp only [Exchange.sendRelease, Exchange.send]
            split
            · next heq =>
                obtain ⟨hr, -⟩ := Prod.mk.inj heq
                exact absurd (congrArg some (Except.ok.inj hr)) (sound _)
            · rfl
          simp only [Invocation.read, Option.toList, List.singleton_append, hsend]
          exact ⟨rfl, rfl⟩
  | taught missing loaded reply =>
      have hsent : sent ++ [.runRelease key holder] ++ [.loadRelease] ++ [.runRelease key holder]
          = sent ++ Invocation.sent (.runRelease key holder) (.taught missing loaded reply) := by
        simp [Invocation.sent]
      rw [← hsent]
      cases loaded with
      | error code text => exact absurd rfl (sound code text)
      | _ =>
          cases reply with
          | none =>
              obtain rfl := hungUp rfl
              exact ⟨rfl, rfl⟩
          | some r => exact ⟨rfl, rfl⟩
  | untaught missing refusal =>
      have hsent : sent ++ [.runRelease key holder] ++ [.loadRelease]
          = sent ++ Invocation.sent (.runRelease key holder) (.untaught missing refusal) := by
        simp [Invocation.sent]
      rw [← hsent]
      cases refusal with
      | none =>
          obtain rfl := hungUp rfl
          exact ⟨rfl, rfl⟩
      | some refusal => exact ⟨rfl, rfl⟩

theorem speaks_release (lead id key : String) (kind : LeaseKind) :
    (server lead).Speaks (scripted (.runRelease (lead ++ key) id)) countReading
      ((server lead).attempt .release id key kind) := by
  rintro ⟨sent, replies⟩
  obtain ⟨v, rest, sound, rfl, hungUp⟩ := exists_invocation replies
  refine ⟨v, ?_⟩
  obtain ⟨hanswer, hafter⟩ := sendRelease_invocation (lead ++ key) id sound hungUp sent
  have hattempt : (server lead).attempt .release id key kind ⟨sent, v.read ++ rest⟩
      = (countReading.answer v.reply?, ⟨sent ++ v.sent (.runRelease (lead ++ key) id), rest⟩) :=
    Prod.ext hanswer hafter
  rw [hattempt]
  refine ⟨⟨fun u hu => ?_, ?_, ?_⟩, rfl, hungUp⟩
  · obtain rfl := List.mem_singleton.mp hu
    exact sound
  · rw [List.flatMap_singleton]
    rfl
  · rw [List.flatMap_singleton]
    rfl

end Redis

namespace Postgres

/-! ## PostgreSQL -/

def server : Server Exchange Statement Reply where
  store e := .postgres ⟨e⟩
  attempt errand id key kind e :=
    let (answer, _, s) := (⟨e⟩ : Store).ask errand id key kind
    (answer.mapError .database, s.exchange)
  sent := Exchange.sent
  replies := Exchange.replies
  ask _ errand _ _ _ _ := by cases errand <;> exact ⟨rfl, rfl⟩

/-- By the number of rows that were affected. -/
def reading : Reading Reply where
  meaning r := (r.affected?.map fun n => decide (0 < n)).mapError .database
  no r := r = .rows 0
  yes r := (∃ n, r = .rows n ∧ 0 < n) ∨ ∃ holder kind micros, r = .row holder kind micros
  fault r f := ∃ code message, r = .error code message ∧ f = .database (.reported code message)
  lost := .database (.link "unexpected end of file")
  no_iff r := by
    rw [mapError_eq_ok_iff]
    cases r <;> simp [Reply.affected?, Except.map]
  yes_iff r := by
    rw [mapError_eq_ok_iff]
    cases r <;> simp [Reply.affected?, Except.map]
  fault_iff r f := by
    rw [mapError_eq_error_iff]
    cases r <;> simp [Reply.affected?, Except.map, and_assoc]

def claimStatement (id key : String) (kind : LeaseKind) : Statement :=
  ⟨Store.claimSql, [.text key, .text id, .text kind.name, .number kind.term.binarySeconds]⟩

def releaseStatement (id key : String) : Statement := ⟨Store.releaseSql, [.text key, .text id]⟩

/-- The statement of an errand. -/
def statement (errand : Errand) (id key : String) (kind : LeaseKind) : Statement :=
  match errand with
  | .acquire => claimStatement id key kind
  | .release => releaseStatement id key

theorem speaks (errand : Errand) (id key : String) (kind : LeaseKind) :
    server.Speaks (.single (statement errand id key kind) Reply) reading
      (server.attempt errand id key kind) := by
  rintro ⟨refusal, sent, replies⟩
  cases replies with
  | nil => cases errand <;> exact ⟨none, ⟨fun _ _ => trivial, rfl, rfl⟩, rfl, fun _ => rfl⟩
  | cons r rest =>
      cases errand <;>
        exact ⟨some r, ⟨fun _ _ => trivial, rfl, rfl⟩, rfl, fun h => (by cases h)⟩

end Postgres

/-! ## Calls -/

/-- Attempts of one command each send it over and over. -/
theorem Talk.sent_single {τ C R : Type} {server : Server τ C R} {command : C}
    {reading : Reading R} {tries : Nat} {t t' : τ} {earlier : List (Option R)} {last : Option R}
    (talk : Talk server (.single command R) reading tries t earlier last t') :
    server.sent t' = server.sent t ++ List.replicate (earlier.length + 1) command := by
  have hsent : ∀ visits : List (Option R), visits.flatMap (Manner.single command R).sent
      = List.replicate visits.length command := by
    intro visits
    induction visits with
    | nil => rfl
    | cons v visits ih => rw [List.flatMap_cons, ih]; rfl
  rw [talk.sent, hsent, List.length_append, List.length_singleton]

/-- Whoever reads in order and stops has read a first part of the replies. -/
theorem read_in_order {R : Type} {earlier : List (Option R)} {last : Option R} {all after : List R}
    (hread : all = (earlier ++ [last]).flatMap Option.toList ++ after)
    (hearlier : ∀ v ∈ earlier, v.isSome = true) (hlast : last = none → after = []) :
    earlier = (all.take earlier.length).map some ∧ last = all[earlier.length]?
      ∧ after = all.drop (earlier.length + 1) := by
  induction earlier generalizing all with
  | nil =>
      cases last with
      | none =>
          obtain rfl := hlast rfl
          subst hread
          exact ⟨rfl, rfl, rfl⟩
      | some r =>
          subst hread
          exact ⟨rfl, rfl, rfl⟩
  | cons v earlier ih =>
      obtain ⟨r, rfl⟩ := Option.isSome_iff_exists.mp (hearlier v List.mem_cons_self)
      obtain ⟨htake, hget, hdrop⟩ := ih rfl fun u hu => hearlier u (List.mem_cons_of_mem _ hu)
      subst hread
      exact ⟨congrArg (some r :: ·) htake, hget, hdrop⟩

/-- Attempts of one command each read the replies one by one. -/
theorem Talk.read_single {τ C R : Type} {server : Server τ C R} {command : C}
    {reading : Reading R} {tries : Nat} {t t' : τ} {earlier : List (Option R)} {last : Option R}
    (talk : Talk server (.single command R) reading tries t earlier last t') :
    earlier = ((server.replies t).take earlier.length).map some
      ∧ last = (server.replies t)[earlier.length]?
      ∧ server.replies t' = (server.replies t).drop (earlier.length + 1) := by
  refine read_in_order talk.read (fun v hv => ?_) talk.hungUp
  obtain ⟨r, rfl, -⟩ := talk.goesOn v hv
  rfl

/-- A probe leaves its store to the attempts. -/
theorem Probe.surroundings_keeps : Probe.surroundings.Keeps Probe.Work.store where
  ask _ _ _ _ _ := ⟨0, rfl, rfl⟩
  rest _ _ := rfl
  hear _ _ _ := rfl

namespace Claimant

/-- **A fault of a server is never taken for contention**, whatever the
policy, the replies and the ends of the backoffs. The store is a Redis
server, with any lead in front of the keys, or a PostgreSQL server.

An acquire sends one command over and over, the same in all that it says
and at most as often as the policy allows. It sends it again only after a
reply that says no: nil, or no row affected. It succeeds if and only if the
last reply says yes. It fails with a fault of the store if and only if the
last reply is an error or missing, and the cause is the fault with that
reply in it. It is out of time only after as many attempts as the policy
allows, all of them answered with no.

A release runs its script, or has its statement executed, in the same way.
It goes on only after a count that is not positive, so the first positive
count and the first fault of any kind end it, and it comes to a normal end
in every case. -/
theorem faults_are_not_contention {σ : Type} (w : Surroundings σ) (view : σ → Store)
    (keeps : w.Keeps view) (c : Claimant) (s : σ) :
    (∀ lead e, view s = .redis ⟨lead, e⟩ →
      (∃ e' earlier last, view (c.perform .acquire w s).surroundings = .redis ⟨lead, e'⟩
        ∧ AcquireTalk (Redis.server lead)
          (.single (Redis.claimCommand lead c.id c.key.text c.kind) Redis.Reply)
          Redis.claimReading c e earlier last e' (c.perform .acquire w s).outcome
        ∧ e'.sent = e.sent
          ++ List.replicate (earlier.length + 1) (Redis.claimCommand lead c.id c.key.text c.kind))
      ∧ (∃ e' earlier last, view (c.perform .release w s).surroundings = .redis ⟨lead, e'⟩
        ∧ Talk (Redis.server lead) (Redis.scripted (.runRelease (lead ++ c.key.text) c.id))
          Redis.countReading c.policy.tries e earlier last e'
        ∧ (c.perform .release w s).outcome = .ok ()))
    ∧ (∀ e, view s = .postgres ⟨e⟩ →
      (∃ e' earlier last, view (c.perform .acquire w s).surroundings = .postgres ⟨e'⟩
        ∧ AcquireTalk Postgres.server
          (.single (Postgres.claimStatement c.id c.key.text c.kind) Postgres.Reply)
          Postgres.reading c e earlier last e' (c.perform .acquire w s).outcome
        ∧ e'.sent = e.sent
          ++ List.replicate (earlier.length + 1) (Postgres.claimStatement c.id c.key.text c.kind))
      ∧ (∃ e' earlier last, view (c.perform .release w s).surroundings = .postgres ⟨e'⟩
        ∧ Talk Postgres.server
          (.single (Postgres.releaseStatement c.id c.key.text) Postgres.Reply)
          Postgres.reading c.policy.tries e earlier last e'
        ∧ e'.sent = e.sent
          ++ List.replicate (earlier.length + 1) (Postgres.releaseStatement c.id c.key.text)
        ∧ (c.perform .release w s).outcome = .ok ())) := by
  refine ⟨fun lead e hview => ⟨?_, ?_⟩, fun e hview => ⟨?_, ?_⟩⟩
  · obtain ⟨e', earlier, last, hend, talk⟩ :=
      acquire_talk keeps (Redis.speaks_claim lead c.id c.key.text c.kind) hview
    exact ⟨e', earlier, last, hend, talk, talk.sent_single⟩
  · exact release_talk keeps (Redis.speaks_release lead c.id c.key.text c.kind) hview
  · obtain ⟨e', earlier, last, hend, talk⟩ :=
      acquire_talk keeps (Postgres.speaks .acquire c.id c.key.text c.kind) hview
    exact ⟨e', earlier, last, hend, talk, talk.sent_single⟩
  · obtain ⟨e', earlier, last, hend, talk, houtcome⟩ :=
      release_talk keeps (Postgres.speaks .release c.id c.key.text c.kind) hview
    exact ⟨e', earlier, last, hend, talk, talk.sent_single, houtcome⟩

/-- A Redis server that fails at once, and would have said yes afterwards; a
PostgreSQL server that says no once and then yes; and a Redis server that has
to be given the script, says no once and then that a key is gone. -/
theorem faults_are_not_contention_threeCalls :
    let c := create ⟨"f", 0⟩ "a" "u" fun _ => 0
    let w := Probe.surroundings
    let failing := Redis.Exchange.start [.error "ERR" "down", .status "OK"]
    let busy := Postgres.Exchange.start [.rows 0, .rows 1, .rows 1]
    let restarted := Redis.Exchange.start
      [.error "NOSCRIPT" "unknown", .bulk "7f", .int 0, .int 1, .int 1]
    let run := Redis.Command.runRelease "lock:submission|f|00" "a"
    let claim := Postgres.claimStatement "a" "submission|f|00" .modification
    w.Keeps Probe.Work.store
    ∧ ((c.perform .acquire w ⟨.redis ⟨"lock:", failing⟩, []⟩).outcome
        = .error (.storeFailed "submission|f|00" (.lease (.redis (.replied "ERR" "down"))))
      ∧ ∃ e', (c.perform .acquire w ⟨.redis ⟨"lock:", failing⟩, []⟩).surroundings.store
          = .redis ⟨"lock:", e'⟩
        ∧ e'.sent = [.setIfAbsent "lock:submission|f|00" "a" 66000]
        ∧ e'.replies = [.status "OK"])
    ∧ ((c.perform .acquire w ⟨.postgres ⟨busy⟩, []⟩).outcome = .ok ()
      ∧ ∃ e', (c.perform .acquire w ⟨.postgres ⟨busy⟩, []⟩).surroundings.store = .postgres ⟨e'⟩
        ∧ e'.sent = [claim, claim] ∧ e'.replies = [.rows 1])
    ∧ ((c.perform .release w ⟨.redis ⟨"lock:", restarted⟩, []⟩).outcome = .ok ()
      ∧ ∃ e', (c.perform .release w ⟨.redis ⟨"lock:", restarted⟩, []⟩).surroundings.store
          = .redis ⟨"lock:", e'⟩
        ∧ e'.sent = [run, .loadRelease, run, run]) := by
  intro c w failing busy restarted run claim
  have keeps : w.Keeps Probe.Work.store := Probe.surroundings_keeps
  have hkey : c.key.text = "submission|f|00" := by decide +kernel
  have hcommand : Redis.claimCommand "lock:" c.id c.key.text c.kind
      = .setIfAbsent "lock:submission|f|00" "a" 66000 := by decide +kernel
  refine ⟨keeps, ?_, ?_, ?_⟩
  · obtain ⟨e', earlier, last, hend, talk, hsent⟩ :=
      ((faults_are_not_contention w Probe.Work.store keeps c ⟨.redis ⟨"lock:", failing⟩, []⟩).1
        "lock:" failing rfl).1
    obtain ⟨hearlier, hlast, hleft⟩ := talk.read_single
    cases earlier with
    | cons v earlier =>
        -- the first reply does not say no
        obtain ⟨r, rfl, rfl⟩ := talk.goesOn v List.mem_cons_self
        cases hearlier
    | nil =>
        rw [hcommand] at hsent
        refine ⟨?_, e', hend, hsent, hleft⟩
        rw [← hkey]
        exact (talk.fault_iff _).mpr (.inl ⟨_, hlast, _, _, rfl, rfl⟩)
  · obtain ⟨e', earlier, last, hend, talk, hsent⟩ :=
      ((faults_are_not_contention w Probe.Work.store keeps c ⟨.postgres ⟨busy⟩, []⟩).2 busy rfl).1
    have htwice : e'.sent = [claim, claim] := by
      have hdone : (c.perform .acquire w ⟨.postgres ⟨busy⟩, []⟩).surroundings.store.postgresSent
          = [claim, claim] := by decide +kernel
      rwa [hend] at hdone
    have hcount : earlier.length = 1 := by
      have hlength : (List.replicate (earlier.length + 1) _).length = 2 :=
        congrArg List.length (hsent.symm.trans htwice)
      rw [List.length_replicate] at hlength
      exact Nat.succ.inj hlength
    obtain ⟨-, hlast, hleft⟩ := talk.read_single
    rw [hcount] at hlast hleft
    exact ⟨talk.ok_iff.mpr ⟨_, hlast, .inl ⟨1, rfl, by decide⟩⟩, e', hend, htwice, hleft⟩
  · obtain ⟨e', earlier, last, hend, talk, houtcome⟩ :=
      ((faults_are_not_contention w Probe.Work.store keeps c ⟨.redis ⟨"lock:", restarted⟩, []⟩).1
        "lock:" restarted rfl).2
    have hdone : (c.perform .release w ⟨.redis ⟨"lock:", restarted⟩, []⟩).surroundings.store.redisSent
        = [run, .loadRelease, run, run] := by decide +kernel
    rw [hend] at hdone
    exact ⟨houtcome, e', hend, hdone⟩

end Claimant

end FormLease
