import FormLease.Proofs.Call.Rounds

/-!
# A release in step with an acquire

Acquire and release are two loops, and nothing in the types says that they
keep the same schedule. They do: as long as both get the same answers and
their backoffs end in the same way, a turn of the one is matched by a turn
of the other that asks for as much, waits for as long and leaves the
backoff as it is there (`Turn.InStep`). `begin`, `answered` and `woken`
keep turns in step, so whole calls stay in step (`inStep_finish`).

The answers of a call are the ones it lives to see. So two calls get the
same answers if both of them meet the same two sequences, as far as they
go (`Meets`); how far that is comes out to be the same for both.
-/

namespace FormLease

/-- The same dealing in a release. -/
def Contact.forRelease : Contact → Contact
  | asked _ id key kind reply => asked .release id key kind reply
  | rested delay result => rested delay result
  | heard teller event => heard teller event

/-- The attempts are answered, and the backoffs end, as these sequences
say. -/
def Meets (answers : Nat → Except LeaseFault Bool) (ends : Nat → Except String Unit)
    (log : List Contact) : Prop :=
  (∀ i reply, (replies log)[i]? = some reply → reply = answers i)
    ∧ ∀ i result, (results log)[i]? = some result → result = ends i

section Sequences

variable {answers : Nat → Except LeaseFault Bool} {ends : Nat → Except String Unit}
  {log : List Contact}

theorem meets_nil : Meets answers ends [] :=
  ⟨fun _ _ h => (by cases h), fun _ _ h => (by cases h)⟩

theorem meets_asked {errand : Errand} {id key : String} {kind : LeaseKind}
    {reply : Except LeaseFault Bool} :
    Meets answers ends (.asked errand id key kind reply :: log)
      ↔ reply = answers 0 ∧ Meets (fun i => answers (i + 1)) ends log := by
  constructor
  · rintro ⟨hreplies, hresults⟩
    exact ⟨hreplies 0 reply rfl, fun i r hr => hreplies (i + 1) r hr, hresults⟩
  · rintro ⟨hfirst, hreplies, hresults⟩
    refine ⟨fun i r hr => ?_, hresults⟩
    cases i with
    | zero => exact (Option.some.inj hr).symm.trans hfirst
    | succ i => exact hreplies i r hr

theorem meets_rested {delay : Span} {result : Except String Unit} :
    Meets answers ends (.rested delay result :: log)
      ↔ result = ends 0 ∧ Meets answers (fun i => ends (i + 1)) log := by
  constructor
  · rintro ⟨hreplies, hresults⟩
    exact ⟨hresults 0 result rfl, hreplies, fun i r hr => hresults (i + 1) r hr⟩
  · rintro ⟨hfirst, hreplies, hresults⟩
    refine ⟨hreplies, fun i r hr => ?_⟩
    cases i with
    | zero => exact (Option.some.inj hr).symm.trans hfirst
    | succ i => exact hresults i r hr

end Sequences

/-! ## Turns in step -/

/-- An acquire and a release that are equally far. -/
inductive Progress.InStep : Progress → Progress → Prop where
  | asking (attempt left : Nat) :
      InStep (.asking ⟨.acquire, attempt, left⟩) (.asking ⟨.release, attempt, left⟩)
  | sleeping (attempt left : Nat) (delay : Span) :
      InStep (.sleeping ⟨.acquire, attempt, left⟩ delay) (.sleeping ⟨.release, attempt, left⟩ delay)
  | ended (outcome outcome' : Except LeaseFault Unit) : InStep (.ended outcome) (.ended outcome')

/-- Two states of a claimant that differ at most in whether it holds. -/
structure Claimant.Alike (c c' : Claimant) : Prop where
  id : c'.id = c.id
  key : c'.key = c.key
  kind : c'.kind = c.kind
  backoff : c'.backoff = c.backoff

structure Turn.InStep (t t' : Turn) : Prop where
  claimant : t.claimant.Alike t'.claimant
  progress : t.progress.InStep t'.progress

namespace Claimant

variable {c c' : Claimant}

theorem begin_inStep (c : Claimant) : (c.begin .acquire).InStep (c.begin .release) where
  claimant := ⟨rfl, rfl, rfl, rfl⟩
  progress := .asking 1 (c.policy.tries - 1)

theorem answered_inStep (alike : c.Alike c') (attempt left : Nat)
    (reply : Except LeaseFault Bool) :
    (c.answered ⟨.acquire, attempt, left⟩ reply).InStep
      (c'.answered ⟨.release, attempt, left⟩ reply) := by
  obtain ⟨hid, hkey, hkind, hbackoff⟩ := alike
  match reply with
  | .ok true => exact ⟨⟨hid, hkey, hkind, hbackoff⟩, .ended _ _⟩
  | .error fault => exact ⟨⟨hid, hkey, hkind, hbackoff⟩, .ended _ _⟩
  | .ok false =>
      cases left with
      | zero => exact ⟨⟨hid, hkey, hkind, hbackoff⟩, .ended _ _⟩
      | succ left =>
          have hprogress := Progress.InStep.sleeping attempt (left + 1) c.backoff.next.1
          refine ⟨⟨hid, hkey, hkind, congrArg (·.next.2) hbackoff⟩, ?_⟩
          change Progress.InStep (.sleeping _ c.backoff.next.1) (.sleeping _ c'.backoff.next.1)
          rwa [hbackoff]

theorem woken_inStep (alike : c.Alike c') (attempt left : Nat) (result : Except String Unit) :
    (c.woken ⟨.acquire, attempt, left⟩ result).InStep
      (c'.woken ⟨.release, attempt, left⟩ result) := by
  match result with
  | .ok () => exact ⟨alike, .asking (attempt + 1) (left - 1)⟩
  | .error text => exact ⟨alike, .ended _ _⟩

end Claimant

/-! ## Calls in step -/

section Calls

variable {σ τ : Type} {w : Surroundings σ} {w' : Surroundings τ}

theorem inStep_finish (t : Turn) (s : σ) :
    ∀ {answers : Nat → Except LeaseFault Bool} {ends : Nat → Except String Unit} {t' : Turn}
      {s' : τ}, t.InStep t' → Meets answers ends (t.dealings w s) →
      Meets answers ends (t'.dealings w' s') →
      t'.dealings w' s' = (t.dealings w s).map .forRelease
        ∧ (t'.finish w' s').claimant.backoff = (t.finish w s).claimant.backoff := by
  induction t, s using Turn.finish.induct w with
  | case1 t s outcome h =>
      intro answers ends t' s' inStep _ _
      obtain ⟨alike, progress⟩ := inStep
      generalize hprogress : t'.progress = progress' at progress
      rw [h] at progress
      cases progress with
      | ended _ outcome' =>
          rw [Turn.dealings_ended h, Turn.dealings_ended hprogress, Turn.finish_ended h,
            Turn.finish_ended hprogress]
          exact ⟨rfl, alike.backoff⟩
  | case2 t s _ call h reply next hask =>
      rename_i ih
      intro answers ends t' s' inStep meets meets'
      obtain ⟨alike, progress⟩ := inStep
      generalize hprogress : t'.progress = progress' at progress
      rw [h] at progress
      cases progress with
      | asking attempt left =>
          rcases hask' : w'.ask .release t'.claimant.id t'.claimant.key.text t'.claimant.kind
            (t'.heard w' s') with ⟨reply', next'⟩
          rw [Turn.dealings_asking h hask, meets_asked] at meets
          rw [Turn.dealings_asking hprogress hask', meets_asked] at meets'
          obtain rfl : reply' = reply := meets'.1.trans meets.1.symm
          obtain ⟨hdealings, hbackoff⟩ :=
            ih (Claimant.answered_inStep alike attempt left reply') meets.2 meets'.2
          rw [Turn.dealings_asking h hask, Turn.dealings_asking hprogress hask', hdealings,
            Turn.finish_asking h hask, Turn.finish_asking hprogress hask', hbackoff, alike.id,
            alike.key, alike.kind]
          exact ⟨rfl, rfl⟩
  | case3 t s _ call delay h result next hrest =>
      rename_i ih
      intro answers ends t' s' inStep meets meets'
      obtain ⟨alike, progress⟩ := inStep
      generalize hprogress : t'.progress = progress' at progress
      rw [h] at progress
      cases progress with
      | sleeping attempt left =>
          rcases hrest' : w'.rest delay (t'.heard w' s') with ⟨result', next'⟩
          rw [Turn.dealings_sleeping h hrest, meets_rested] at meets
          rw [Turn.dealings_sleeping hprogress hrest', meets_rested] at meets'
          obtain rfl : result' = result := meets'.1.trans meets.1.symm
          obtain ⟨hdealings, hbackoff⟩ :=
            ih (Claimant.woken_inStep alike attempt left result') meets.2 meets'.2
          rw [Turn.dealings_sleeping h hrest, Turn.dealings_sleeping hprogress hrest', hdealings,
            Turn.finish_sleeping h hrest, Turn.finish_sleeping hprogress hrest', hbackoff]
          exact ⟨rfl, rfl⟩

/-! ## Turns that come up -/

/-- The turns of a call, from one of them on. -/
inductive Turn.Leads (w : Surroundings σ) : Turn → σ → Turn → Prop where
  | here (t : Turn) (s : σ) : Leads w t s t
  | asked {t u : Turn} {s s' : σ} {call : Call} {reply : Except LeaseFault Bool}
      (h : t.progress = .asking call)
      (hask : w.ask call.errand t.claimant.id t.claimant.key.text t.claimant.kind (t.heard w s)
        = (reply, s'))
      (later : Leads w (t.claimant.answered call reply) s' u) : Leads w t s u
  | rested {t u : Turn} {s s' : σ} {call : Call} {delay : Span} {result : Except String Unit}
      (h : t.progress = .sleeping call delay) (hrest : w.rest delay (t.heard w s) = (result, s'))
      (later : Leads w (t.claimant.woken call result) s' u) : Leads w t s u

/-- A claimant that has begun a release does not hold any more. -/
theorem not_held_of_leads {c : Claimant} {t u : Turn} {s : σ} (follows : t.Follows c .release)
    (hheld : t.claimant.held = false) (leads : t.Leads w s u) : u.claimant.held = false := by
  induction leads with
  | here t s => exact hheld
  | @asked t u s s' call reply h hask later ih =>
      have herrand : call.errand = .release := follows.errand call (by rw [h]; rfl)
      refine ih (follows.trans (herrand ▸ t.claimant.answered_follows call reply)) ?_
      rw [Claimant.held_answered_release herrand, hheld]
  | @rested t u s s' call delay result h hrest later ih =>
      have herrand : call.errand = .release := follows.errand call (by rw [h]; rfl)
      refine ih (follows.trans (herrand ▸ t.claimant.woken_follows call result)) ?_
      rw [Claimant.held_woken, hheld]

end Calls

namespace Claimant

/-- **A release keeps the schedule of an acquire.** Let a claimant, whatever
state its backoff is in, acquire among some surroundings or release among
others. If both calls get the same answers and the backoffs end in the
same way, as far as the calls go, then both have the same dealings, but
for the errand of the attempts: as many attempts, for the same lease in
the same name, with the same delays between them. And both leave the
backoff in the same state, its bound and its draws.

Whatever the answers are, a release comes to a normal end, and in all of
its turns, the one before the first attempt as well, the claimant does not
hold. -/
theorem release_inStep (c : Claimant) :
    (∀ (σ τ : Type) (w : Surroundings σ) (w' : Surroundings τ) (s : σ) (s' : τ)
      (answers : Nat → Except LeaseFault Bool) (ends : Nat → Except String Unit),
      Meets answers ends (c.dealings .acquire w s) →
      Meets answers ends (c.dealings .release w' s') →
      c.dealings .release w' s' = (c.dealings .acquire w s).map .forRelease
        ∧ (c.perform .release w' s').claimant.backoff = (c.perform .acquire w s).claimant.backoff)
    ∧ ∀ (τ : Type) (w' : Surroundings τ) (s' : τ),
      (c.perform .release w' s').outcome = .ok ()
        ∧ (c.perform .release w' s').claimant.held = false
        ∧ ∀ t, (c.begin .release).Leads w' s' t → t.claimant.held = false := by
  refine ⟨fun σ τ w w' s s' answers ends meets meets' => ?_, fun τ w' s' => ?_⟩
  · exact inStep_finish (c.begin .acquire) s c.begin_inStep meets meets'
  · obtain ⟨delays, k, rounds⟩ := rounds_perform w' c .release s'
    refine ⟨rounds.outcome.trans (k.outcome_release c), ?_, fun t leads => ?_⟩
    · rw [perform, rounds.held]
      cases k <;> rfl
    · exact not_held_of_leads (c.begin_follows .release) c.held_begin_release leads

/-! ## Every sequence is met -/

/-- Answers and ends of backoffs come from two sequences, whoever asks. -/
def reciting (answers : Nat → Except LeaseFault Bool) (ends : Nat → Except String Unit) :
    Surroundings (Nat × Nat) where
  ask _ _ _ _ s := (answers s.1, s.1 + 1, s.2)
  rest _ s := (ends s.2, s.1, s.2 + 1)
  hear _ _ s := s

theorem meets_reciting (answers : Nat → Except LeaseFault Bool) (ends : Nat → Except String Unit)
    (t : Turn) (s : Nat × Nat) :
    Meets (fun i => answers (s.1 + i)) (fun i => ends (s.2 + i))
      (t.dealings (reciting answers ends) s) := by
  have hdeaf := Turn.heard_of_deaf (w := reciting answers ends) fun _ _ _ => rfl
  induction t, s using Turn.finish.induct (reciting answers ends) with
  | case1 t s outcome h =>
      rw [Turn.dealings_ended h]
      exact meets_nil
  | case2 t s _ call h reply next hask ih =>
      rw [Turn.dealings_asking h hask, meets_asked]
      change (reciting answers ends).ask _ _ _ _ (t.heard _ s) = _ at hask
      rw [hdeaf] at hask
      obtain ⟨rfl, rfl⟩ := Prod.mk.inj hask
      refine ⟨rfl, ?_⟩
      simpa only [Nat.add_assoc, Nat.add_comm 1] using ih
  | case3 t s _ call delay h result next hrest ih =>
      rw [Turn.dealings_sleeping h hrest, meets_rested]
      change (reciting answers ends).rest _ (t.heard _ s) = _ at hrest
      rw [hdeaf] at hrest
      obtain ⟨rfl, rfl⟩ := Prod.mk.inj hrest
      refine ⟨rfl, ?_⟩
      simpa only [Nat.add_assoc, Nat.add_comm 1] using ih

/-- No, and then yes. -/
theorem release_inStep_second :
    let c := create ⟨"f", 0⟩ "a" "u" fun _ => 0
    let answers : Nat → Except LeaseFault Bool := fun i => .ok (decide (i = 1))
    let w := reciting answers fun _ => .ok ()
    Meets answers (fun _ => .ok ()) (c.dealings .acquire w (0, 0))
    ∧ Meets answers (fun _ => .ok ()) (c.dealings .release w (0, 0))
    ∧ c.dealings .acquire w (0, 0) = [c.attempt .acquire (.ok false),
      .rested c.backoff.next.1 (.ok ()), c.attempt .acquire (.ok true)]
    ∧ c.dealings .release w (0, 0) = [c.attempt .release (.ok false),
      .rested c.backoff.next.1 (.ok ()), c.attempt .release (.ok true)] := by
  intro c answers w
  have hmeets : ∀ errand, Meets answers (fun _ => .ok ()) (c.dealings errand w (0, 0)) := by
    intro errand
    have hmeets := meets_reciting answers (fun _ => .ok ()) (c.begin errand) (0, 0)
    simp only [Nat.zero_add] at hmeets
    exact hmeets
  have hacquire : c.dealings .acquire w (0, 0) = [c.attempt .acquire (.ok false),
      .rested c.backoff.next.1 (.ok ()), c.attempt .acquire (.ok true)] := by
    have hno : w.ask .acquire c.id c.key.text c.kind (0, 0) = (.ok false, (1, 0)) := rfl
    have hrest : w.rest c.backoff.next.1 (1, 0) = (.ok (), (1, 1)) := rfl
    have hyes : w.ask .acquire c.id c.key.text c.kind (1, 1) = (.ok true, (2, 1)) := rfl
    have hfirst : (c.begin .acquire).progress = .asking ⟨.acquire, 1, 3⟩ := rfl
    have hsleeping : ((c.begin .acquire).claimant.answered ⟨.acquire, 1, 3⟩ (.ok false)).progress
        = .sleeping ⟨.acquire, 1, 3⟩ c.backoff.next.1 := rfl
    change (c.begin .acquire).dealings w (0, 0) = _
    rw [Turn.dealings_asking hfirst hno, Turn.dealings_sleeping hsleeping hrest,
      Turn.dealings_asking rfl hyes, Turn.dealings_ended rfl]
    rfl
  refine ⟨hmeets .acquire, hmeets .release, hacquire, ?_⟩
  rw [((release_inStep c).1 _ _ w w (0, 0) (0, 0) answers _ (hmeets .acquire)
    (hmeets .release)).1, hacquire]
  rfl

end Claimant

end FormLease
