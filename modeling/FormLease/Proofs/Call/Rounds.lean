import FormLease.Proofs.Call.SharedDesk

/-!
# The rounds of a call

What a call has to do with its surroundings, without what it only tells,
is its dealings. They come in rounds: an attempt that is turned down and
a backoff that ends well. What is left after the last whole round decides
the call (`Closing`): the attempt is granted, or the store fails, or the
attempt is turned down and the backoff is cut short, or there is no
further attempt.

`rounds_perform` says that there is nothing else, for both errands and
whatever the surroundings do, and what the claimant tells in the rounds
and in the closing. For an acquire everything that a caller can observe
follows from it by looking at the four closings (`acquire_account`).
-/

namespace FormLease

namespace Contact

/-- The surroundings have a say in it. -/
def dealing : Contact → Bool
  | heard _ _ => false
  | asked _ _ _ _ _ | rested _ _ => true

def reply? : Contact → Option (Except LeaseFault Bool)
  | asked _ _ _ _ reply => some reply
  | rested _ _ | heard _ _ => none

def result? : Contact → Option (Except String Unit)
  | rested _ result => some result
  | asked _ _ _ _ _ | heard _ _ => none

def event? : Contact → Option Event
  | heard _ event => some event
  | asked _ _ _ _ _ | rested _ _ => none

/-- The fault that a contact ends in, if it does. -/
def trouble? : Contact → Option Fault
  | asked _ _ _ _ (.error fault) => some (.lease fault)
  | rested _ (.error text) => some (.interrupted text)
  | _ => none

end Contact

def replies (contacts : List Contact) : List (Except LeaseFault Bool) :=
  contacts.filterMap Contact.reply?

def results (contacts : List Contact) : List (Except String Unit) :=
  contacts.filterMap Contact.result?

/-- What the claimant tells in these contacts. -/
def tellings (contacts : List Contact) : List Event := contacts.filterMap Contact.event?

/-! ## Dealings -/

namespace Turn

variable {σ : Type} {w : Surroundings σ} {t : Turn} {s s' : σ}

/-- The dealings of a call from this turn on. -/
def dealings (w : Surroundings σ) (t : Turn) (s : σ) : List Contact :=
  (t.contacts w s).filter Contact.dealing

theorem filter_told (t : Turn) : t.told.filter Contact.dealing = [] := by
  simp only [told, List.filter_map, List.map_eq_nil_iff, List.filter_eq_nil_iff]
  intro event _
  exact Bool.false_ne_true

theorem dealings_ended {outcome : Except LeaseFault Unit} (h : t.progress = .ended outcome) :
    t.dealings w s = [] := by
  rw [dealings, contacts_ended h, filter_told]

theorem dealings_asking {call : Call} {reply : Except LeaseFault Bool}
    (h : t.progress = .asking call)
    (hask : w.ask call.errand t.claimant.id t.claimant.key.text t.claimant.kind (t.heard w s)
      = (reply, s')) :
    t.dealings w s = .asked call.errand t.claimant.id t.claimant.key.text t.claimant.kind reply
      :: (t.claimant.answered call reply).dealings w s' := by
  rw [dealings, contacts_asking h hask, List.filter_append, filter_told, List.nil_append]
  rfl

theorem dealings_sleeping {call : Call} {delay : Span} {result : Except String Unit}
    (h : t.progress = .sleeping call delay) (hrest : w.rest delay (t.heard w s) = (result, s')) :
    t.dealings w s = .rested delay result :: (t.claimant.woken call result).dealings w s' := by
  rw [dealings, contacts_sleeping h hrest, List.filter_append, filter_told, List.nil_append]
  rfl

/-- A call leaves the claimant what it is. -/
theorem Follows.finish {c : Claimant} {errand : Errand} (follows : t.Follows c errand)
    (w : Surroundings σ) (s : σ) :
    (t.finish w s).claimant.id = c.id ∧ (t.finish w s).claimant.key = c.key
      ∧ (t.finish w s).claimant.policy = c.policy := by
  induction t, s using Turn.finish.induct w with
  | case1 t s outcome h =>
      rw [finish_ended h]
      exact ⟨follows.id, follows.key, follows.policy⟩
  | case2 t s _ call h reply s' hask ih =>
      rw [finish_asking h hask]
      have herrand : call.errand = errand := follows.errand call (by rw [h]; rfl)
      exact ih (follows.trans (herrand ▸ t.claimant.answered_follows call reply))
  | case3 t s _ call delay h result s' hrest ih =>
      rw [finish_sleeping h hrest]
      have herrand : call.errand = errand := follows.errand call (by rw [h]; rfl)
      exact ih (follows.trans (herrand ▸ t.claimant.woken_follows call result))

/-! ## Tellings -/

theorem tellings_told (t : Turn) : tellings t.told = t.events := by
  rw [tellings, told, List.filterMap_map]
  exact List.filterMap_some

theorem tellings_ended {outcome : Except LeaseFault Unit} (h : t.progress = .ended outcome) :
    tellings (t.contacts w s) = t.events := by
  rw [contacts_ended h, tellings_told]

theorem tellings_asking {call : Call} {reply : Except LeaseFault Bool}
    (h : t.progress = .asking call)
    (hask : w.ask call.errand t.claimant.id t.claimant.key.text t.claimant.kind (t.heard w s)
      = (reply, s')) :
    tellings (t.contacts w s)
      = t.events ++ tellings ((t.claimant.answered call reply).contacts w s') := by
  rw [contacts_asking h hask, tellings, List.filterMap_append, ← tellings, tellings_told]
  rfl

theorem tellings_sleeping {call : Call} {delay : Span} {result : Except String Unit}
    (h : t.progress = .sleeping call delay) (hrest : w.rest delay (t.heard w s) = (result, s')) :
    tellings (t.contacts w s)
      = t.events ++ tellings ((t.claimant.woken call result).contacts w s') := by
  rw [contacts_sleeping h hrest, tellings, List.filterMap_append, ← tellings, tellings_told]
  rfl

end Turn

namespace Claimant

def dealings {σ : Type} (c : Claimant) (errand : Errand) (w : Surroundings σ) (s : σ) :
    List Contact :=
  (c.contacts errand w s).filter Contact.dealing

/-- An attempt, with the answer it gets. -/
def attempt (c : Claimant) (errand : Errand) (reply : Except LeaseFault Bool) : Contact :=
  .asked errand c.id c.key.text c.kind reply

/-- An attempt that is turned down, and a backoff that ends well. -/
def round (c : Claimant) (errand : Errand) (delay : Span) : List Contact :=
  [c.attempt errand (.ok false), .rested delay (.ok ())]

/-- What is told after an attempt that is turned down, before a backoff. -/
def roundTellings (errand : Errand) (attempt : Nat) (delay : Span) : List Event :=
  .note (turnedDownNote errand attempt) :: backoffEvents errand attempt delay

/-- What is told in whole rounds, the first of them with this attempt. -/
def roundsTellings (errand : Errand) : (attempt : Nat) → List Span → List Event
  | _, [] => []
  | attempt, delay :: delays =>
    roundTellings errand attempt delay ++ roundsTellings errand (attempt + 1) delays

end Claimant

/-! ## Closings -/

/-- What is left of a call after its last whole round. -/
inductive Closing where
  | granted
  | failed (fault : LeaseFault)
  | interrupted (delay : Span) (text : String)
  | exhausted

namespace Closing

def contacts (c : Claimant) (errand : Errand) : Closing → List Contact
  | granted => [c.attempt errand (.ok true)]
  | failed fault => [c.attempt errand (.error fault)]
  | interrupted delay text => [c.attempt errand (.ok false), .rested delay (.error text)]
  | exhausted => [c.attempt errand (.ok false)]

def outcome (c : Claimant) (errand : Errand) : Closing → Except LeaseFault Unit
  | granted => Verdict.granted.outcome c errand
  | failed fault =>
    match errand with
    | .acquire => .error (c.failure (.lease fault))
    | .release => .ok ()
  | interrupted _ text => (Verdict.interrupted text).outcome c errand
  | exhausted => Verdict.exhausted.outcome c errand

/-- What is told in it, with the number of its attempt. -/
def tellings (c : Claimant) (errand : Errand) (attempt : Nat) : Closing → List Event
  | granted => (c.granted ⟨errand, attempt, 0⟩).events
  | failed fault => (c.failed ⟨errand, attempt, 0⟩ fault).events
  | interrupted delay text =>
    Claimant.roundTellings errand attempt delay ++ (c.interrupted ⟨errand, attempt, 0⟩ text).events
  | exhausted => .note (Claimant.turnedDownNote errand attempt) :: (c.exhausted errand).events

/-- Whether the claimant holds afterwards, given whether it did before. -/
def held (before : Bool) : Errand → Closing → Bool
  | .acquire, granted => true
  | _, _ => before

/-- After how many rounds this can come, when so many further attempts are
allowed. -/
def Fits (left n : Nat) : Closing → Prop
  | granted | failed _ => n ≤ left
  | interrupted _ _ => n < left
  | exhausted => n = left

theorem outcome_congr {c d : Claimant} (hid : d.id = c.id) (hkey : d.key = c.key)
    (errand : Errand) (k : Closing) : k.outcome d errand = k.outcome c errand := by
  cases k with
  | granted => exact Verdict.outcome_congr hid hkey errand .granted
  | failed fault => cases errand <;> simp only [outcome, Claimant.failure, hkey]
  | interrupted delay text => exact Verdict.outcome_congr hid hkey errand (.interrupted text)
  | exhausted => exact Verdict.outcome_congr hid hkey errand .exhausted

theorem outcome_release (c : Claimant) (k : Closing) : k.outcome c .release = .ok () := by
  cases k <;> rfl

theorem tellings_congr {c d : Claimant} (hpolicy : d.policy = c.policy) (errand : Errand)
    (attempt : Nat) (k : Closing) : k.tellings d errand attempt = k.tellings c errand attempt := by
  cases k with
  | exhausted => cases errand <;> simp only [tellings, Claimant.exhausted, hpolicy]
  | _ => cases errand <;> rfl

theorem Fits.succ {left n : Nat} {k : Closing} (h : k.Fits left n) : k.Fits (left + 1) (n + 1) := by
  cases k with
  | granted => exact Nat.succ_le_succ h
  | failed fault => exact Nat.succ_le_succ h
  | interrupted delay text => exact Nat.succ_lt_succ h
  | exhausted => exact congrArg Nat.succ h

theorem Fits.le {left n : Nat} {k : Closing} (h : k.Fits left n) : n ≤ left := by
  cases k with
  | granted => exact h
  | failed fault => exact h
  | interrupted delay text => exact Nat.le_of_lt h
  | exhausted => exact Nat.le_of_eq h

end Closing

/-! ## Rounds and a closing -/

namespace Claimant

theorem answered_fault (c : Claimant) (call : Call) (fault : LeaseFault) :
    (c.answered call (.error fault)).progress
      = .ended ((Closing.failed fault).outcome c call.errand) := by
  cases herrand : call.errand <;> simp only [answered, failed, herrand, Closing.outcome]

/-! What a claimant tells in its turns. -/

theorem events_yes (c : Claimant) (call : Call) :
    (c.answered call (.ok true)).events
      = Closing.granted.tellings c call.errand call.attempt := by
  obtain ⟨errand, attempt, left⟩ := call
  cases errand <;> rfl

theorem events_fault (c : Claimant) (call : Call) (fault : LeaseFault) :
    (c.answered call (.error fault)).events
      = (Closing.failed fault).tellings c call.errand call.attempt := by
  obtain ⟨errand, attempt, left⟩ := call
  cases errand <;> rfl

theorem events_no_last {call : Call} (h : call.left = 0) (c : Claimant) :
    (c.answered call (.ok false)).events
      = Closing.exhausted.tellings c call.errand call.attempt := by
  simp only [answered, turnedDown, h, if_true, Closing.tellings]

theorem events_no {c : Claimant} {call : Call} {delay : Span}
    (h : (c.answered call (.ok false)).progress = .sleeping call delay) :
    (c.answered call (.ok false)).events = roundTellings call.errand call.attempt delay := by
  by_cases hleft : call.left = 0
  · rw [answered_no_last hleft] at h
    cases h
  · simp only [answered, turnedDown, hleft, if_false] at h ⊢
    obtain ⟨-, rfl⟩ := Progress.sleeping.inj h
    rfl

theorem events_cut (c : Claimant) (call : Call) (text : String) :
    (c.woken call (.error text)).events
      = (c.interrupted ⟨call.errand, call.attempt, 0⟩ text).events := by
  obtain ⟨errand, attempt, left⟩ := call
  cases errand <;> rfl

end Claimant

section Calls

variable {σ : Type} {w : Surroundings σ} {c : Claimant} {errand : Errand} {t : Turn} {call : Call}

/-- A call from a turn on: so many rounds, and this closing. -/
structure Rounds (w : Surroundings σ) (c : Claimant) (errand : Errand) (t : Turn) (s : σ)
    (left : Nat) (delays : List Span) (k : Closing) : Prop where
  fits : k.Fits left delays.length
  dealings : t.dealings w s = delays.flatMap (c.round errand) ++ k.contacts c errand
  outcome : (t.finish w s).outcome = k.outcome c errand
  held : (t.finish w s).claimant.held = k.held t.claimant.held errand
  told : ∀ call, t.progress = .asking call → tellings (t.contacts w s)
    = t.events ++ (Claimant.roundsTellings errand call.attempt delays
      ++ k.tellings c errand (call.attempt + delays.length))

/-- The call ends in the turn after an attempt. -/
theorem rounds_of_answer {left : Nat} {s s' : σ} {reply : Except LeaseFault Bool} {k : Closing}
    (follows : t.Follows c errand) (hasking : t.progress = .asking call)
    (hask : w.ask call.errand t.claimant.id t.claimant.key.text t.claimant.kind (t.heard w s)
      = (reply, s'))
    (hended : (t.claimant.answered call reply).progress = .ended (k.outcome t.claimant errand))
    (hfits : k.Fits left 0) (hcontacts : k.contacts c errand = [c.attempt errand reply])
    (hheld : (t.claimant.answered call reply).claimant.held = k.held t.claimant.held errand)
    (hevents : (t.claimant.answered call reply).events
      = k.tellings t.claimant errand call.attempt) :
    Rounds w c errand t s left [] k where
  fits := hfits
  dealings := by
    rw [Turn.dealings_asking hasking hask, Turn.dealings_ended hended, hcontacts, Claimant.attempt,
      follows.id, follows.key, follows.kind, follows.errand call (by rw [hasking]; rfl)]
    rfl
  outcome := by
    rw [Turn.finish_asking hasking hask, Turn.finish_ended hended]
    exact Closing.outcome_congr follows.id follows.key errand k
  held := by
    rw [Turn.finish_asking hasking hask, Turn.finish_ended hended]
    exact hheld
  told := by
    intro call' hcall'
    obtain rfl := Progress.asking.inj (hasking.symm.trans hcall')
    rw [Turn.tellings_asking hasking hask, Turn.tellings_ended hended, hevents,
      Closing.tellings_congr follows.policy]
    rfl

/-- Every answer but no decides the call. -/
theorem rounds_of_decided {s s' : σ} {reply : Except LeaseFault Bool}
    (follows : t.Follows c errand) (hasking : t.progress = .asking call)
    (hask : w.ask call.errand t.claimant.id t.claimant.key.text t.claimant.kind (t.heard w s)
      = (reply, s'))
    (hdecided : reply ≠ .ok false) (left : Nat) : ∃ k, Rounds w c errand t s left [] k := by
  obtain rfl : call.errand = errand := follows.errand call (by rw [hasking]; rfl)
  match reply with
  | .ok true =>
      refine ⟨.granted, rounds_of_answer follows hasking hask (t.claimant.answered_yes call)
        (Nat.zero_le _) rfl ?_ (t.claimant.events_yes call)⟩
      cases herrand : call.errand with
      | acquire => exact Claimant.held_answered_acquire herrand t.claimant
      | release => exact Claimant.held_answered_release herrand t.claimant _
  | .error fault =>
      refine ⟨.failed fault, rounds_of_answer follows hasking hask
        (t.claimant.answered_fault call fault) (Nat.zero_le _) rfl ?_
        (t.claimant.events_fault call fault)⟩
      rw [Claimant.held_answered_of_ne (by simp)]
      cases call.errand <;> rfl
  | .ok false => exact absurd rfl hdecided

/-- No, and no further attempt. -/
theorem rounds_of_last {s s' : σ} (follows : t.Follows c errand)
    (hasking : t.progress = .asking call) (hleft : call.left = 0)
    (hask : w.ask call.errand t.claimant.id t.claimant.key.text t.claimant.kind (t.heard w s)
      = (.ok false, s')) : Rounds w c errand t s 0 [] .exhausted := by
  obtain rfl : call.errand = errand := follows.errand call (by rw [hasking]; rfl)
  refine rounds_of_answer follows hasking hask (t.claimant.answered_no_last hleft) rfl rfl ?_
    (Claimant.events_no_last hleft t.claimant)
  rw [Claimant.held_answered_of_ne (by simp)]
  cases call.errand <;> rfl

section Backoffs

variable {s s' s'' : σ} {delay : Span} {left : Nat}

/-- No, and the backoff is cut short. -/
theorem rounds_of_cut {text : String} (follows : t.Follows c errand)
    (hasking : t.progress = .asking call)
    (hask : w.ask call.errand t.claimant.id t.claimant.key.text t.claimant.kind (t.heard w s)
      = (.ok false, s'))
    (hsleeping : (t.claimant.answered call (.ok false)).progress = .sleeping call delay)
    (hrest : w.rest delay ((t.claimant.answered call (.ok false)).heard w s')
      = (.error text, s'')) :
    Rounds w c errand t s (left + 1) [] (.interrupted delay text) := by
  obtain rfl : call.errand = errand := follows.errand call (by rw [hasking]; rfl)
  have follows' : (t.claimant.answered call (.ok false)).Follows c call.errand :=
    follows.trans (t.claimant.answered_follows call (.ok false))
  have hended := (t.claimant.answered call (.ok false)).claimant.woken_cut call text
  have hfinish : t.finish w s = ⟨_, _, _⟩ :=
    (Turn.finish_asking hasking hask).trans
      ((Turn.finish_sleeping hsleeping hrest).trans (Turn.finish_ended hended))
  refine ⟨Nat.succ_pos left, ?_, ?_, ?_, ?_⟩
  · rw [Turn.dealings_asking hasking hask, Turn.dealings_sleeping hsleeping hrest,
      Turn.dealings_ended hended, follows.id, follows.key, follows.kind]
    rfl
  · rw [hfinish]
    exact Verdict.outcome_congr follows'.id follows'.key call.errand _
  · rw [hfinish]
    change (Claimant.woken _ call (.error text)).claimant.held = _
    rw [Claimant.held_woken, Claimant.held_answered_of_ne (by simp)]
    cases call.errand <;> rfl
  · intro call' hcall'
    obtain rfl := Progress.asking.inj (hasking.symm.trans hcall')
    rw [Turn.tellings_asking hasking hask, Turn.tellings_sleeping hsleeping hrest,
      Turn.tellings_ended hended, Claimant.events_no hsleeping, Claimant.events_cut]
    cases call.errand <;> rfl

/-- No, and a backoff that ends well: one more round. -/
theorem rounds_of_slept {delays : List Span} {k : Closing} (follows : t.Follows c errand)
    (hasking : t.progress = .asking call)
    (hask : w.ask call.errand t.claimant.id t.claimant.key.text t.claimant.kind (t.heard w s)
      = (.ok false, s'))
    (hsleeping : (t.claimant.answered call (.ok false)).progress = .sleeping call delay)
    (hrest : w.rest delay ((t.claimant.answered call (.ok false)).heard w s') = (.ok (), s''))
    (later : Rounds w c errand ((t.claimant.answered call (.ok false)).claimant.woken call (.ok ()))
      s'' left delays k) :
    Rounds w c errand t s (left + 1) (delay :: delays) k := by
  obtain rfl : call.errand = errand := follows.errand call (by rw [hasking]; rfl)
  have hfinish := (Turn.finish_asking hasking hask).trans (Turn.finish_sleeping hsleeping hrest)
  refine ⟨later.fits.succ, ?_, ?_, ?_, ?_⟩
  · rw [Turn.dealings_asking hasking hask, Turn.dealings_sleeping hsleeping hrest, later.dealings,
      follows.id, follows.key, follows.kind]
    rfl
  · rw [hfinish, later.outcome]
  · rw [hfinish, later.held, Claimant.held_woken, Claimant.held_answered_of_ne (by simp)]
  · intro call' hcall'
    obtain rfl := Progress.asking.inj (hasking.symm.trans hcall')
    rw [Turn.tellings_asking hasking hask, Turn.tellings_sleeping hsleeping hrest,
      Claimant.events_no hsleeping, later.told _ rfl, List.length_cons, Nat.add_comm delays.length,
      ← Nat.add_assoc, Claimant.roundsTellings, List.append_assoc]
    rfl

end Backoffs

/-- The call from a turn on in which the claimant asks. The induction is on
the number of further attempts. -/
theorem rounds_finish {left : Nat} (follows : t.Follows c errand)
    (hasking : t.progress = .asking call) (hleft : call.left = left) (s : σ) :
    ∃ delays k, Rounds w c errand t s left delays k := by
  induction left generalizing t call s with
  | zero =>
      rcases hask : w.ask call.errand t.claimant.id t.claimant.key.text t.claimant.kind
        (t.heard w s) with ⟨reply, s'⟩
      by_cases hno : reply = .ok false
      · subst hno
        exact ⟨[], .exhausted, rounds_of_last follows hasking hleft hask⟩
      · exact ⟨[], rounds_of_decided follows hasking hask hno 0⟩
  | succ left ih =>
      rcases hask : w.ask call.errand t.claimant.id t.claimant.key.text t.claimant.kind
        (t.heard w s) with ⟨reply, s'⟩
      by_cases hno : reply = .ok false
      · subst hno
        obtain ⟨delay, hsleeping⟩ := Claimant.answered_no (show call.left ≠ 0 by omega) t.claimant
        rcases hrest : w.rest delay ((t.claimant.answered call (.ok false)).heard w s')
          with ⟨result, s''⟩
        cases result with
        | error text => exact ⟨[], _, rounds_of_cut follows hasking hask hsleeping hrest⟩
        | ok u =>
            have herrand : call.errand = errand := follows.errand call (by rw [hasking]; rfl)
            have follows' := (t.claimant.answered_follows call (.ok false)).trans
              (Claimant.woken_follows _ call (.ok ()))
            rw [herrand] at follows'
            obtain ⟨delays, k, later⟩ :=
              ih (follows.trans follows') rfl (show call.left - 1 = left by omega) s''
            exact ⟨_, k, rounds_of_slept follows hasking hask hsleeping hrest later⟩
      · exact ⟨[], rounds_of_decided follows hasking hask hno (left + 1)⟩

/-- **A call is rounds and a closing**, whatever its surroundings do. -/
theorem rounds_perform (w : Surroundings σ) (c : Claimant) (errand : Errand) (s : σ) :
    ∃ delays k, Rounds w c errand (c.begin errand) s (c.policy.tries - 1) delays k :=
  rounds_finish (c.begin_follows errand) rfl rfl s

/-- Whether a claimant holds after a call. -/
theorem held_perform (w : Surroundings σ) (c : Claimant) (errand : Errand) (s : σ) :
    (c.perform errand w s).claimant.held = match errand with
      | .acquire => (c.perform .acquire w s).outcome.isOk || c.held
      | .release => false := by
  obtain ⟨delays, k, rounds⟩ := rounds_perform w c errand s
  have hheld : (c.perform errand w s).claimant.held = k.held _ errand := rounds.held
  have houtcome : (c.perform errand w s).outcome = k.outcome c errand := rounds.outcome
  rw [hheld]
  cases errand with
  | acquire =>
      rw [houtcome]
      cases k <;> rfl
  | release => cases k <;> rfl

end Calls

end FormLease
