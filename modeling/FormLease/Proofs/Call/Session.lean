import FormLease.Proofs.Call.Bracket
import FormLease.Proofs.Call.OnPar
import FormLease.Proofs.Call.Schedule

/-!
# One call after another

A claimant makes any number of calls, one after another, alone or as parts
of brackets, and each can end in any way. Two numbers are kept through all
of it: how often the bound was doubled, which begins anew with each call,
and how many draws are used up, which goes on (`Chain.delays`). So each
wait is made of the bound for its place in its call and of the draw for its
place among all waits.

What earlier calls leave for the next one is therefore the draws to come
and nothing else, and claimants that have these in common are on a par
(`backoff_between_calls`).
-/

namespace FormLease

/-! ## Sessions -/

/-- What comes next in the life of a claimant that is in no call. -/
inductive Engagement (σ : Type) where
  | call (errand : Errand)
  | bracket (work : σ → σ)
  /-- The claimant does nothing, and others do something. -/
  | pause (others : σ → σ)

/-- A call at its begin. -/
structure Begun (σ : Type) where
  claimant : Claimant
  errand : Errand
  surroundings : σ

structure Session (σ : Type) where
  /-- The calls, one after another. -/
  begun : List (Begun σ)
  claimant : Claimant
  surroundings : σ

section Sessions

variable {σ : Type} (w : Surroundings σ)

def Begun.contacts (call : Begun σ) : List Contact :=
  call.claimant.contacts call.errand w call.surroundings

def Begun.waits (call : Begun σ) : List Span := FormLease.waits (call.contacts w)

namespace Engagement

/-- The calls that are made. -/
def begun (c : Claimant) (s : σ) : Engagement σ → List (Begun σ)
  | call errand => [⟨c, errand, s⟩]
  | bracket work =>
    let acquired := c.perform .acquire w s
    ⟨c, .acquire, s⟩ :: match acquired.outcome with
      | .ok () => [⟨acquired.claimant, .release, work acquired.surroundings⟩]
      | .error _ => []
  | pause _ => []

def ending (c : Claimant) (s : σ) : Engagement σ → Claimant × σ
  | call errand => ((c.perform errand w s).claimant, (c.perform errand w s).surroundings)
  | bracket work =>
    let done := c.bracket (fun s => ((), work s)) w s
    (done.claimant, done.surroundings)
  | pause others => (c, others s)

/-- The same, with a log that only calls write. -/
def traced : Engagement σ → Engagement (σ × List Contact)
  | call errand => call errand
  | bracket work => bracket fun s => (work s.1, s.2)
  | pause others => pause fun s => (others s.1, s.2)

end Engagement

namespace Claimant

def session : Claimant → σ → List (Engagement σ) → Session σ
  | c, s, [] => ⟨[], c, s⟩
  | c, s, engagement :: rest =>
    let later := session (engagement.ending w c s).1 (engagement.ending w c s).2 rest
    { later with begun := engagement.begun w c s ++ later.begun }

/-- Everything that a claimant's calls have to do with the surroundings in
a session. -/
def sessionLog (c : Claimant) (s : σ) (engagements : List (Engagement σ)) : List Contact :=
  (c.session w.traced (s, []) (engagements.map .traced)).surroundings.2

end Claimant

theorem ending_traced (engagement : Engagement σ) (c : Claimant) (s : σ) (log : List Contact) :
    engagement.traced.ending w.traced c (s, log) = ((engagement.ending w c s).1,
      (engagement.ending w c s).2, log ++ (engagement.begun w c s).flatMap (·.contacts w)) := by
  cases engagement with
  | call errand =>
      simp only [Engagement.traced, Engagement.ending, Claimant.perform_traced, Engagement.begun,
        List.flatMap_singleton, Begun.contacts]
  | bracket work =>
      have hacquire := c.perform_traced w .acquire s log
      cases houtcome : (c.perform .acquire w s).outcome with
      | error fault =>
          have htraced : (c.perform .acquire w.traced (s, log)).outcome = .error fault := by
            rw [hacquire, houtcome]
          simp only [Engagement.traced, Engagement.ending, Claimant.bracket_of_error _ htraced,
            Claimant.bracket_of_error _ houtcome, Engagement.begun, houtcome, hacquire,
            List.flatMap_singleton, Begun.contacts]
      | ok u =>
          have htraced : (c.perform .acquire w.traced (s, log)).outcome = .ok () := by
            rw [hacquire, houtcome]
          simp only [Engagement.traced, Engagement.ending, Claimant.bracket_of_ok _ htraced,
            Claimant.bracket_of_ok _ houtcome, Engagement.begun, houtcome, hacquire,
            Claimant.perform_traced, List.flatMap_cons, List.flatMap_nil, List.append_nil,
            Begun.contacts, List.append_assoc]
  | pause others =>
      simp only [Engagement.traced, Engagement.ending, Engagement.begun, List.flatMap_nil,
        List.append_nil]

/-- The log of a session is that of its calls. -/
theorem sessionLog_eq (c : Claimant) (s : σ) (engagements : List (Engagement σ)) :
    c.sessionLog w s engagements = (c.session w s engagements).begun.flatMap (·.contacts w) := by
  have hlog : ∀ log, (c.session w.traced (s, log) (engagements.map .traced)).surroundings.2
      = log ++ (c.session w s engagements).begun.flatMap (·.contacts w) := by
    induction engagements generalizing c s with
    | nil => exact fun log => (List.append_nil log).symm
    | cons engagement rest ih =>
        intro log
        rw [List.map_cons, Claimant.session, ending_traced, Claimant.session]
        simp only [List.flatMap_append, ← List.append_assoc]
        exact ih _ _ _
  exact hlog []

theorem waits_sessionLog (c : Claimant) (s : σ) (engagements : List (Engagement σ)) :
    waits (c.sessionLog w s engagements)
      = (c.session w s engagements).begun.flatMap (·.waits w) := by
  rw [sessionLog_eq, waits, List.filterMap_flatMap]
  rfl

/-! ## Which draw a wait takes -/

/-- Calls of which each begins with the backoff that the one before it
left. -/
inductive Chain : Backoff → List (Begun σ) → Backoff → Prop where
  | nil (b : Backoff) : Chain b [] b
  | cons {b : Backoff} {calls : List (Begun σ)} (call : Begun σ)
      (later : Chain (call.claimant.perform call.errand w call.surroundings).claimant.backoff
        calls b) : Chain call.claimant.backoff (call :: calls) b

variable {w}

theorem Chain.append {b b' b'' : Backoff} {calls calls' : List (Begun σ)}
    (chain : Chain w b calls b') (chain' : Chain w b' calls' b'') :
    Chain w b (calls ++ calls') b'' := by
  induction chain with
  | nil b => exact chain'
  | cons call later ih => exact .cons call (ih chain')

theorem chain_engagement (engagement : Engagement σ) (c : Claimant) (s : σ) :
    Chain w c.backoff (engagement.begun w c s) (engagement.ending w c s).1.backoff := by
  cases engagement with
  | call errand => exact .cons ⟨c, errand, s⟩ (.nil _)
  | bracket work =>
      cases houtcome : (c.perform .acquire w s).outcome with
      | error fault =>
          simp only [Engagement.begun, Engagement.ending, Claimant.bracket_of_error _ houtcome,
            houtcome]
          exact .cons ⟨c, .acquire, s⟩ (.nil _)
      | ok u =>
          simp only [Engagement.begun, Engagement.ending, Claimant.bracket_of_ok _ houtcome,
            houtcome]
          exact .cons ⟨c, .acquire, s⟩ (.cons ⟨_, .release, _⟩ (.nil _))
  | pause others => exact .nil _

theorem chain_session (c : Claimant) (s : σ) (engagements : List (Engagement σ)) :
    Chain w c.backoff (c.session w s engagements).begun
      (c.session w s engagements).claimant.backoff := by
  induction engagements generalizing c s with
  | nil => exact .nil _
  | cons engagement rest ih =>
      exact (chain_engagement engagement c s).append (ih _ _)

/-- The backoff starts from `first`, and the first `used` of these draws
are used up. -/
structure Backoff.Stands (b : Backoff) (first : Span) (draws : Nat → Draw) (used : Nat) : Prop where
  firstBound : b.firstBound = first
  draws : b.draws = draws
  drawn : b.drawn = used

theorem Begun.waits_eq (call : Begun σ) :
    call.waits w = call.claimant.backoff.reset.schedule (call.waits w).length
      ∧ (call.claimant.perform call.errand w call.surroundings).claimant.backoff
        = call.claimant.backoff.reset.later (call.waits w).length := by
  obtain ⟨n, -, hwaits, hbackoff, -⟩ :=
    waits_perform w call.claimant call.errand call.surroundings
  have hn : (call.waits w).length = n := by
    rw [Begun.waits, Begun.contacts, hwaits, Backoff.length_schedule]
  rw [hn]
  exact ⟨hwaits, hbackoff⟩

/-- A call takes as many draws as it has waits. -/
theorem Begun.stands (call : Begun σ) {first : Span} {draws : Nat → Draw} {used : Nat}
    (stands : call.claimant.backoff.Stands first draws used) :
    (call.claimant.perform call.errand w call.surroundings).claimant.backoff.Stands first draws
      (used + (call.waits w).length) := by
  rw [(call.waits_eq (w := w)).2]
  refine ⟨?_, ?_, ?_⟩
  · rw [Backoff.firstBound_later]
    exact stands.firstBound
  · rw [Backoff.draws_later]
    exact stands.draws
  · rw [Backoff.drawn_later]
    exact congrArg (· + _) stands.drawn

theorem Begun.delay (call : Begun σ) {first : Span} {draws : Nat → Draw} {used k : Nat}
    {delay : Span} (stands : call.claimant.backoff.Stands first draws used)
    (h : (call.waits w)[k]? = some delay) :
    delay = (Span.ofNanos (first.nanos * 2 ^ k)).fraction (draws (used + k)) := by
  rw [(call.waits_eq (w := w)).1] at h
  have heq := Backoff.eq_of_schedule _ h
  rw [← stands.firstBound, ← stands.draws, ← stands.drawn]
  exact heq

/-- The waits of calls one after another. -/
theorem Chain.delays {b b' : Backoff} {calls : List (Begun σ)} (chain : Chain w b calls b')
    {first : Span} {draws : Nat → Draw} {used : Nat} (stands : b.Stands first draws used) :
    (∀ i k call delay, calls[i]? = some call → (call.waits w)[k]? = some delay →
      delay = (Span.ofNanos (first.nanos * 2 ^ k)).fraction
        (draws (used + (((calls.take i).flatMap (·.waits w)).length + k))))
    ∧ b'.Stands first draws (used + (calls.flatMap (·.waits w)).length) := by
  induction chain generalizing used with
  | nil b => exact ⟨fun i k call delay h => (by simp at h), stands⟩
  | cons call later ih =>
      obtain ⟨hdelays, hstands⟩ := ih (call.stands stands)
      rw [List.flatMap_cons, List.length_append, ← Nat.add_assoc]
      refine ⟨fun i k call' delay hcall hdelay => ?_, hstands⟩
      cases i with
      | zero =>
          obtain rfl := Option.some.inj hcall
          simp only [List.take_zero, List.flatMap_nil, List.length_nil, Nat.zero_add]
          exact call.delay stands hdelay
      | succ i =>
          rw [List.take_succ_cons, List.flatMap_cons, List.length_append, Nat.add_assoc,
            ← Nat.add_assoc used]
          exact hdelays i k call' delay hcall hdelay

/-- A place in one of many lists, as a place in all of them. -/
theorem getElem?_flatMap {α β : Type} {f : α → List β} {xs : List α} {x : α} {y : β} {i k : Nat}
    (hx : xs[i]? = some x) (hy : (f x)[k]? = some y) :
    (xs.flatMap f)[((xs.take i).flatMap f).length + k]? = some y := by
  obtain ⟨hi, rfl⟩ := List.getElem?_eq_some_iff.mp hx
  obtain ⟨hk, -⟩ := List.getElem?_eq_some_iff.mp hy
  have hsplit : xs.flatMap f
      = (xs.take i).flatMap f ++ (f xs[i] ++ (xs.drop (i + 1)).flatMap f) := by
    rw [← List.flatMap_cons, ← List.drop_eq_getElem_cons hi, ← List.flatMap_append,
      List.take_append_drop]
  rw [hsplit, List.getElem?_append_right (Nat.le_add_right ..), Nat.add_sub_cancel_left,
    List.getElem?_append_left hk, hy]

/-! ## From call to call -/

namespace Claimant

theorem Formed.ending {c : Claimant} (formed : c.Formed) (engagement : Engagement σ) (s : σ) :
    (engagement.ending w c s).1.Formed := by
  cases engagement with
  | call errand => exact formed.perform errand w s
  | bracket work =>
      cases houtcome : (c.perform .acquire w s).outcome with
      | error fault =>
          simp only [Engagement.ending, bracket_of_error _ houtcome]
          exact formed.perform .acquire w s
      | ok u =>
          simp only [Engagement.ending, bracket_of_ok _ houtcome]
          exact (formed.perform .acquire w s).perform .release w _
  | pause others => exact formed

/-- A claimant that comes up still does after a session. -/
theorem Formed.session {c : Claimant} (formed : c.Formed) (s : σ)
    (engagements : List (Engagement σ)) : (c.session w s engagements).claimant.Formed := by
  induction engagements generalizing c s with
  | nil => exact formed
  | cons engagement rest ih => exact ih (formed.ending engagement s) _

end Claimant

end Sessions

namespace Claimant

/-- No, and then yes. -/
def secondTime (i : Nat) : Except LeaseFault Bool := .ok (decide (i = 1))

theorem acquire_second (c : Claimant) {left : Nat} (hleft : c.policy.tries - 1 = left + 1) :
    (c.perform .acquire (reciting secondTime fun _ => .ok ()) (0, 0)).claimant
      = { c with backoff := c.backoff.reset.next.2, held := true } := by
  let w := reciting secondTime fun _ => .ok ()
  have hno : w.ask .acquire c.id c.key.text c.kind (0, 0) = (.ok false, (1, 0)) := rfl
  have hrest : w.rest c.backoff.reset.next.1 (1, 0) = (.ok (), (1, 1)) := rfl
  have hyes : w.ask .acquire c.id c.key.text c.kind (1, 1) = (.ok true, (2, 1)) := rfl
  have hfirst : (c.begin .acquire).progress = .asking ⟨.acquire, 1, left + 1⟩ := by
    rw [begin, hleft]
  have hsleeping : ((c.begin .acquire).claimant.answered ⟨.acquire, 1, left + 1⟩
      (.ok false)).progress = .sleeping ⟨.acquire, 1, left + 1⟩ c.backoff.reset.next.1 := rfl
  change ((c.begin .acquire).finish w (0, 0)).claimant = _
  rw [Turn.finish_asking hfirst hno, Turn.finish_sleeping hsleeping hrest,
    Turn.finish_asking rfl hyes, Turn.finish_ended rfl]
  rfl

/-- **No call leaves anything to the backoff of the next.** Let a claimant's
draws be set, and let it then take part in any session, among any
surroundings. The log of the session is that of its calls. Take the `k`-th
wait of any of these calls, which is the `j`-th wait in the log, both
counted from zero. Its delay is the part, given by the `j`-th draw, of the
first bound doubled `k` times or of the longest span where that is less.
And the number of draws that are used up is the number of waits.

Now take two claimants that come up, under the same policy and with the
same draws to come, whatever has happened to either. If both make the same
call and it gets the same answers and ends of its backoffs, then all there
is to see of it is the same, one thing after the other, but for the names:
attempts, delays and what is told. So is the outcome, and the policy and
the draws to come are again the same, so that it goes on like this with the
calls that follow. If either both held before or none did, then this is so
afterwards. -/
theorem backoff_between_calls :
    (∀ (c : Claimant) (p : RetryPolicy) (draws : Nat → Draw) (σ : Type) (w : Surroundings σ)
      (s : σ) (engagements : List (Engagement σ)),
      let session := (c.withPolicy p draws).session w s engagements
      let log := (c.withPolicy p draws).sessionLog w s engagements
      log = session.begun.flatMap (·.contacts w)
        ∧ (∀ i k call delay, session.begun[i]? = some call → (call.waits w)[k]? = some delay →
          let j := ((session.begun.take i).flatMap (·.waits w)).length + k
          (waits log)[j]? = some delay
            ∧ delay = (Span.ofNanos (p.firstBound.nanos * 2 ^ k)).fraction (draws j))
        ∧ session.claimant.backoff.drawn = (waits log).length)
    ∧ ∀ a b : Claimant, a.Formed → b.Formed → b.policy = a.policy →
      b.backoff.ahead = a.backoff.ahead →
      ∀ (errand : Errand) (σ τ : Type) (w : Surroundings σ) (w' : Surroundings τ) (s : σ) (s' : τ)
        (answers : Nat → Except LeaseFault Bool) (ends : Nat → Except String Unit),
        Meets answers ends (a.dealings errand w s) → Meets answers ends (b.dealings errand w' s') →
        List.Forall₂ (Contact.SameFor a b) (a.contacts errand w s) (b.contacts errand w' s')
          ∧ (b.perform errand w' s').outcome
            = (a.perform errand w s).outcome.mapError (.inName b)
          ∧ (b.perform errand w' s').claimant.policy = (a.perform errand w s).claimant.policy
          ∧ (b.perform errand w' s').claimant.backoff.ahead
            = (a.perform errand w s).claimant.backoff.ahead
          ∧ (b.held = a.held →
            (b.perform errand w' s').claimant.held = (a.perform errand w s).claimant.held) := by
  refine ⟨fun c p draws σ w s engagements => ?_,
    fun a b formed formed' hpolicy hahead errand σ τ w w' s s' answers ends meets meets' => ?_⟩
  · have stands : (c.withPolicy p draws).backoff.Stands p.firstBound draws 0 := ⟨rfl, rfl, rfl⟩
    obtain ⟨hdelays, later⟩ :=
      (chain_session (w := w) (c.withPolicy p draws) s engagements).delays stands
    simp only [Nat.zero_add] at hdelays later
    refine ⟨sessionLog_eq w _ s engagements, ?_, ?_⟩
    · intro i k call delay hcall hdelay
      rw [waits_sessionLog]
      exact ⟨getElem?_flatMap hcall hdelay, hdelays i k call delay hcall hdelay⟩
    · rw [waits_sessionLog]
      exact later.drawn
  · have hfirst : b.backoff.firstBound = a.backoff.firstBound := by
      rw [formed'.firstBound, formed.firstBound, hpolicy]
    obtain ⟨hcontacts, houtcome, hbackoff⟩ :=
      onPar_finish (a.begin errand) s (begin_onPar hpolicy errand hfirst hahead)
        (a.begin_follows errand) (b.begin_follows errand) meets meets'
    have houtcome' : (b.perform errand w' s').outcome
        = (a.perform errand w s).outcome.mapError (.inName b) := houtcome
    refine ⟨hcontacts, houtcome', ?_, hbackoff.ahead, fun hheld => ?_⟩
    · calc (b.perform errand w' s').claimant.policy
          = b.policy := ((b.begin_follows errand).finish w' s').2.2
        _ = a.policy := hpolicy
        _ = (a.perform errand w s).claimant.policy :=
            ((a.begin_follows errand).finish w s).2.2.symm
    · rw [held_perform, held_perform]
      cases errand with
      | acquire =>
          simp only [houtcome', hheld]
          cases (a.perform .acquire w s).outcome <;> rfl
      | release => rfl

/-- One of them has used up a draw, in a call that was turned down once;
the other has made no call yet. -/
theorem backoff_between_calls_veteran :
    let w := reciting secondTime fun _ => .ok ()
    let veteran := ((create ⟨"f", 0⟩ "a" "u" Draw.ofNat).session w (0, 0) [.call .acquire]).claimant
    let novice := create ⟨"g", 1⟩ "b" "u" fun i => Draw.ofNat (1 + i)
    (veteran.backoff.drawn = 1 ∧ novice.backoff.drawn = 0)
    ∧ (veteran.Formed ∧ novice.Formed ∧ novice.policy = veteran.policy
      ∧ novice.backoff.ahead = veteran.backoff.ahead)
    ∧ Meets secondTime (fun _ => .ok ()) (veteran.dealings .release w (0, 0))
    ∧ Meets secondTime (fun _ => .ok ()) (novice.dealings .release w (0, 0))
    ∧ List.Forall₂ (Contact.SameFor veteran novice) (veteran.contacts .release w (0, 0))
      (novice.contacts .release w (0, 0)) := by
  intro w veteran novice
  have hveteran : veteran = { create ⟨"f", 0⟩ "a" "u" Draw.ofNat with
      backoff := (create ⟨"f", 0⟩ "a" "u" Draw.ofNat).backoff.reset.next.2, held := true } :=
    acquire_second (create ⟨"f", 0⟩ "a" "u" Draw.ofNat) rfl
  have hmeets : ∀ c : Claimant, Meets secondTime (fun _ => .ok ())
      (c.dealings .release w (0, 0)) := by
    intro c
    have hmeets := meets_reciting secondTime (fun _ => .ok ()) (c.begin .release) (0, 0)
    simp only [Nat.zero_add] at hmeets
    exact hmeets
  have formed : veteran.Formed := Formed.session (.create ..) (0, 0) [.call .acquire]
  have formed' : novice.Formed := .create ..
  have hpolicy : novice.policy = veteran.policy := by rw [hveteran]; rfl
  have hahead : novice.backoff.ahead = veteran.backoff.ahead := by
    rw [hveteran]
    funext i
    change Draw.ofNat (1 + (0 + i)) = Draw.ofNat (0 + 1 + i)
    rw [Nat.zero_add, Nat.zero_add]
  refine ⟨⟨by rw [hveteran]; rfl, rfl⟩, ⟨formed, formed', hpolicy, hahead⟩, hmeets veteran,
    hmeets novice, ?_⟩
  exact (backoff_between_calls.2 veteran novice formed formed' hpolicy hahead .release _ _ w w
    (0, 0) (0, 0) _ _ (hmeets veteran) (hmeets novice)).1

end Claimant

end FormLease
