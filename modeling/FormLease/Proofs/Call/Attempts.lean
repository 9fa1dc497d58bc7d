import FormLease.Proofs.Call.Log
import FormLease.Store

/-!
# Attempts at a server

While a claimant is in a call, its store is asked and nothing else is done
to it: backoffs pass it by, and it does not hear what is told
(`Surroundings.Keeps`). So the attempts of the call alone lead the store
from before the call to after it (`Attempts`), and the answers it gave are
the replies in the log of the call.

An attempt at a server is a conversation of its own. How it may go is a
`Manner`, and what its deciding reply says is a `Reading`. In a log all
attempts but the last were turned down, so all their replies say no, and it
is the last conversation that decides the call (`Talk`).
-/

namespace FormLease

/-! ## Attempts one after the other -/

/-- Attempts one after the other, with the answers they got. -/
inductive Attempts {τ : Type} (attempt : τ → Except LeaseFault Bool × τ) :
    τ → List (Except LeaseFault Bool) → τ → Prop where
  | nil (t : τ) : Attempts attempt t [] t
  | cons {t t' t'' : τ} {answer : Except LeaseFault Bool} {answers : List (Except LeaseFault Bool)}
      (first : attempt t = (answer, t')) (later : Attempts attempt t' answers t'') :
      Attempts attempt t (answer :: answers) t''

/-- A store in view of these surroundings is asked, and else left alone. -/
structure Surroundings.Keeps {σ : Type} (w : Surroundings σ) (view : σ → Store) : Prop where
  ask : ∀ errand id key kind s, ∃ now,
    (w.ask errand id key kind s).1 = ((view s).ask now errand id key kind).1
    ∧ view (w.ask errand id key kind s).2 = ((view s).ask now errand id key kind).2.2
  rest : ∀ delay s, view (w.rest delay s).2 = view s
  hear : ∀ c event s, view (w.hear c event s) = view s

/-- Stores that are servers of one sort, as conversations `τ` in which
commands `C` are sent and replies `R` come back. The clock of the claimant
has no part in them. -/
structure Server (τ C R : Type) where
  store : τ → Store
  attempt : (errand : Errand) → (id key : String) → LeaseKind → τ → Except LeaseFault Bool × τ
  sent : τ → List C
  /-- The replies still to come. -/
  replies : τ → List R
  ask : ∀ now errand id key kind t,
    ((store t).ask now errand id key kind).1 = (attempt errand id key kind t).1
    ∧ ((store t).ask now errand id key kind).2.2 = store (attempt errand id key kind t).2

section Attempts

variable {σ τ C R : Type} {w : Surroundings σ} {view : σ → Store}

theorem Surroundings.Keeps.heard (keeps : w.Keeps view) (t : Turn) (s : σ) :
    view (t.heard w s) = view s := by
  rw [Turn.heard]
  induction t.events generalizing s with
  | nil => rfl
  | cons event events ih => rw [List.foldl_cons, ih, keeps.hear]

theorem Surroundings.Keeps.attempt (keeps : w.Keeps view) (server : Server τ C R) {errand : Errand}
    {id key : String} {kind : LeaseKind} {reply : Except LeaseFault Bool} {s s' : σ} {t : τ}
    (hask : w.ask errand id key kind s = (reply, s')) (hview : view s = server.store t) :
    ∃ t', server.attempt errand id key kind t = (reply, t') ∧ view s' = server.store t' := by
  obtain ⟨now, hreply, hstore⟩ := keeps.ask errand id key kind s
  rw [hask, hview, (server.ask now errand id key kind t).1] at hreply
  rw [hask, hview, (server.ask now errand id key kind t).2] at hstore
  exact ⟨_, Prod.ext hreply.symm rfl, hstore⟩

theorem attempts_finish (keeps : w.Keeps view) (server : Server τ C R) {c : Claimant}
    {errand : Errand} {turn : Turn} (follows : turn.Follows c errand) {s : σ} {t : τ}
    (hview : view s = server.store t) :
    ∃ t', Attempts (server.attempt errand c.id c.key.text c.kind) t
        (replies (turn.dealings w s)) t'
      ∧ view (turn.finish w s).surroundings = server.store t' := by
  induction turn, s using Turn.finish.induct w generalizing t with
  | case1 turn s outcome h =>
      rw [Turn.dealings_ended h, Turn.finish_ended h]
      exact ⟨t, .nil t, (keeps.heard turn s).trans hview⟩
  | case2 turn s _ call h reply s' hask ih =>
      rw [Turn.dealings_asking h hask, Turn.finish_asking h hask]
      have herrand : call.errand = errand := follows.errand call (by rw [h]; rfl)
      obtain ⟨t', hattempt, hview'⟩ :=
        keeps.attempt server hask ((keeps.heard turn s).trans hview)
      rw [herrand, follows.id, follows.key, follows.kind] at hattempt
      obtain ⟨t'', later, hend⟩ :=
        ih (follows.trans (herrand ▸ turn.claimant.answered_follows call reply)) hview'
      exact ⟨t'', .cons hattempt later, hend⟩
  | case3 turn s _ call delay h result s' hrest ih =>
      rw [Turn.dealings_sleeping h hrest, Turn.finish_sleeping h hrest]
      have herrand : call.errand = errand := follows.errand call (by rw [h]; rfl)
      have hview' : view s' = server.store t := by
        have hkept := keeps.rest delay (turn.heard w s)
        rw [hrest] at hkept
        exact hkept.trans ((keeps.heard turn s).trans hview)
      exact ih (follows.trans (herrand ▸ turn.claimant.woken_follows call result)) hview'

theorem attempts_perform (keeps : w.Keeps view) (server : Server τ C R) (c : Claimant)
    (errand : Errand) {s : σ} {t : τ} (hview : view s = server.store t) :
    ∃ t', Attempts (server.attempt errand c.id c.key.text c.kind) t
        (replies (c.contacts errand w s)) t'
      ∧ view (c.perform errand w s).surroundings = server.store t' := by
  obtain ⟨t', hattempts, hend⟩ := attempts_finish keeps server (c.begin_follows errand) hview
  refine ⟨t', ?_, hend⟩
  rwa [Turn.dealings, replies, filterMap_dealing fun _ _ => rfl] at hattempts

end Attempts

/-! ## Conversations -/

/-- The ways `V` in which an attempt at a server may go. -/
structure Manner (C R V : Type) where
  sent : V → List C
  read : V → List R
  /-- The reply that decides the attempt, unless the server hangs up before. -/
  reply? : V → Option R
  Sound : V → Prop

/-- One command and its reply. -/
def Manner.single {C : Type} (command : C) (R : Type) : Manner C R (Option R) where
  sent _ := [command]
  read := Option.toList
  reply? := id
  Sound _ := True

/-- What a claimant makes of a deciding reply. -/
structure Reading (R : Type) where
  meaning : R → Except LeaseFault Bool
  no : R → Prop
  yes : R → Prop
  fault : R → LeaseFault → Prop
  /-- The fault of a server that hangs up. -/
  lost : LeaseFault
  no_iff : ∀ r, meaning r = .ok false ↔ no r
  yes_iff : ∀ r, meaning r = .ok true ↔ yes r
  fault_iff : ∀ r f, meaning r = .error f ↔ fault r f

def Reading.answer {R : Type} (reading : Reading R) (reply : Option R) : Except LeaseFault Bool :=
  reply.elim (.error reading.lost) reading.meaning

/-- What was sent and read between two points of a conversation, when
attempts went in these ways between them. -/
structure Server.Spoken {τ C R V : Type} (server : Server τ C R) (manner : Manner C R V)
    (t : τ) (visits : List V) (t' : τ) : Prop where
  sound : ∀ v ∈ visits, manner.Sound v
  sent : server.sent t' = server.sent t ++ visits.flatMap manner.sent
  read : server.replies t = visits.flatMap manner.read ++ server.replies t'

/-- Attempts go in this manner, and are answered by this reading. -/
def Server.Speaks {τ C R V : Type} (server : Server τ C R) (manner : Manner C R V)
    (reading : Reading R) (attempt : τ → Except LeaseFault Bool × τ) : Prop :=
  ∀ t, ∃ v, server.Spoken manner t [v] (attempt t).2
    ∧ (attempt t).1 = reading.answer (manner.reply? v)
    ∧ (manner.reply? v = none → server.replies (attempt t).2 = [])

/-- A call's conversation with a server: attempts that are turned down, and
one that decides. -/
structure Talk {τ C R V : Type} (server : Server τ C R) (manner : Manner C R V)
    (reading : Reading R) (tries : Nat) (t : τ) (earlier : List V) (last : V) (t' : τ) : Prop
    extends server.Spoken manner t (earlier ++ [last]) t' where
  attempts : earlier.length + 1 ≤ tries
  /-- Another attempt is made only after a reply that says no. -/
  goesOn : ∀ v ∈ earlier, ∃ r, manner.reply? v = some r ∧ reading.no r
  hungUp : manner.reply? last = none → server.replies t' = []

/-- What comes of an acquire with this conversation. -/
structure AcquireTalk {τ C R V : Type} (server : Server τ C R) (manner : Manner C R V)
    (reading : Reading R) (c : Claimant) (t : τ) (earlier : List V) (last : V) (t' : τ)
    (outcome : Except LeaseFault Unit) : Prop
    extends Talk server manner reading c.policy.tries t earlier last t' where
  ok_iff : outcome = .ok () ↔ ∃ r, manner.reply? last = some r ∧ reading.yes r
  /-- A fault of the server is reported as it is. -/
  fault_iff : ∀ f, outcome = .error (.storeFailed c.key.text (.lease f)) ↔
    (∃ r, manner.reply? last = some r ∧ reading.fault r f)
      ∨ (manner.reply? last = none ∧ f = reading.lost)
  /-- It is reported as contention only if every attempt was turned down. -/
  timedOut : ∀ id key, outcome = .error (.timedOut id key) →
    earlier.length + 1 = c.policy.tries ∧ ∃ r, manner.reply? last = some r ∧ reading.no r

section Talks

variable {τ C R V : Type} {server : Server τ C R} {manner : Manner C R V} {reading : Reading R}

theorem Server.Spoken.append {t t' t'' : τ} {visits visits' : List V}
    (h : server.Spoken manner t visits t') (h' : server.Spoken manner t' visits' t'') :
    server.Spoken manner t (visits ++ visits') t'' where
  sound v hv := (List.mem_append.mp hv).elim (h.sound v) (h'.sound v)
  sent := by rw [h'.sent, h.sent, List.flatMap_append, List.append_assoc]
  read := by rw [h.read, h'.read, List.flatMap_append, List.append_assoc]

namespace Reading

theorem answer_no_iff (o : Option R) :
    reading.answer o = .ok false ↔ ∃ r, o = some r ∧ reading.no r := by
  cases o <;> simp [answer, reading.no_iff]

theorem answer_yes_iff (o : Option R) :
    reading.answer o = .ok true ↔ ∃ r, o = some r ∧ reading.yes r := by
  cases o <;> simp [answer, reading.yes_iff]

theorem answer_error_iff (o : Option R) (f : LeaseFault) :
    reading.answer o = .error f ↔
      (∃ r, o = some r ∧ reading.fault r f) ∨ (o = none ∧ f = reading.lost) := by
  cases o <;> simp [answer, reading.fault_iff, eq_comm]

end Reading

/-- Attempts that are turned down and one that decides, as a conversation.
The induction is on how many are turned down. -/
theorem spoken_of_attempts {attempt : τ → Except LeaseFault Bool × τ}
    (speaks : server.Speaks manner reading attempt) {answer : Except LeaseFault Bool} {m : Nat}
    {t t' : τ} (h : Attempts attempt t (List.replicate m (.ok false) ++ [answer]) t') :
    ∃ earlier last, earlier.length = m ∧ server.Spoken manner t (earlier ++ [last]) t'
      ∧ (∀ v ∈ earlier, ∃ r, manner.reply? v = some r ∧ reading.no r)
      ∧ (manner.reply? last = none → server.replies t' = [])
      ∧ answer = reading.answer (manner.reply? last) := by
  induction m generalizing t with
  | zero =>
      cases h with
      | cons first later =>
          cases later
          obtain ⟨v, spoken, hanswer, hungUp⟩ := speaks t
          rw [first] at spoken hanswer hungUp
          exact ⟨[], v, rfl, spoken, fun _ hv => (by cases hv), hungUp, hanswer⟩
  | succ m ih =>
      rw [List.replicate_succ, List.cons_append] at h
      cases h with
      | cons first later =>
          obtain ⟨v, spoken, hanswer, -⟩ := speaks t
          rw [first] at spoken hanswer
          have hno := (reading.answer_no_iff _).mp hanswer.symm
          obtain ⟨earlier, last, hlength, spoken', hearlier, hungUp, hlast⟩ := ih later
          refine ⟨v :: earlier, last, congrArg (· + 1) hlength, spoken.append spoken', ?_, hungUp,
            hlast⟩
          exact fun u hu => (List.mem_cons.mp hu).elim (fun heq => heq ▸ hno) (hearlier u)

end Talks

section Calls

variable {σ τ C R V : Type} {w : Surroundings σ} {view : σ → Store} {server : Server τ C R}
  {manner : Manner C R V} {reading : Reading R} {c : Claimant} {errand : Errand}

theorem talk_perform (keeps : w.Keeps view)
    (speaks : server.Speaks manner reading (server.attempt errand c.id c.key.text c.kind))
    {s : σ} {t : τ} (hview : view s = server.store t) :
    ∃ t' earlier last delays k, view (c.perform errand w s).surroundings = server.store t'
      ∧ Talk server manner reading c.policy.tries t earlier last t'
      ∧ CallLog c errand (c.contacts errand w s) (c.perform errand w s) delays k
      ∧ earlier.length = delays.length ∧ k.reply = reading.answer (manner.reply? last) := by
  obtain ⟨t', attempts, hend⟩ := attempts_perform keeps server c errand hview
  obtain ⟨delays, k, log⟩ := c.call_log errand w s
  rw [log.replies] at attempts
  obtain ⟨earlier, last, hlength, spoken, hearlier, hungUp, hlast⟩ :=
    spoken_of_attempts speaks attempts
  have hpos := c.policy.tries_pos
  have hfits := log.fits.le
  exact ⟨t', earlier, last, delays, k, hend, ⟨spoken, by omega, hearlier, hungUp⟩, log, hlength,
    hlast⟩

theorem acquire_talk (keeps : w.Keeps view)
    (speaks : server.Speaks manner reading (server.attempt .acquire c.id c.key.text c.kind))
    {s : σ} {t : τ} (hview : view s = server.store t) :
    ∃ t' earlier last, view (c.perform .acquire w s).surroundings = server.store t'
      ∧ AcquireTalk server manner reading c t earlier last t' (c.perform .acquire w s).outcome := by
  obtain ⟨t', earlier, last, delays, k, hend, talk, log, hlength, hreply⟩ :=
    talk_perform keeps speaks hview
  refine ⟨t', earlier, last, hend, talk, ?_, fun f => ?_, fun id key htimedOut => ?_⟩
  · rw [log.outcome, Closing.outcome_acquire_ok_iff, ← Closing.reply_eq_yes_iff, hreply,
      reading.answer_yes_iff]
  · rw [log.outcome, ← reading.answer_error_iff, ← hreply]
    cases k <;> simp [Closing.outcome, Closing.reply, Verdict.outcome, Claimant.failure]
  · rw [log.outcome, Closing.outcome_acquire_timedOut_iff] at htimedOut
    obtain ⟨-, rfl⟩ := htimedOut
    have hall : delays.length = c.policy.tries - 1 := log.fits
    have hpos := c.policy.tries_pos
    exact ⟨by omega, (reading.answer_no_iff _).mp hreply.symm⟩

/-- A release comes to a normal end, whatever the server says. -/
theorem release_talk (keeps : w.Keeps view)
    (speaks : server.Speaks manner reading (server.attempt .release c.id c.key.text c.kind))
    {s : σ} {t : τ} (hview : view s = server.store t) :
    ∃ t' earlier last, view (c.perform .release w s).surroundings = server.store t'
      ∧ Talk server manner reading c.policy.tries t earlier last t'
      ∧ (c.perform .release w s).outcome = .ok () := by
  obtain ⟨t', earlier, last, delays, k, hend, talk, log, -, -⟩ := talk_perform keeps speaks hview
  exact ⟨t', earlier, last, hend, talk, log.outcome.trans (Closing.outcome_release c k)⟩

end Calls

end FormLease
