import FormLease.Proofs.Call.Trace
import FormLease.Proofs.Call.Waits
import FormLease.Proofs.Table.Desk

/-!
# Calls at a desk that others use

A claimant that is turned down rests, and while it rests others come to
the desk and time passes. What they do is data here (`Interlude`), one
piece for each backoff, and nothing is said of where it comes from: it may
follow from what they found at the desk or from how long the backoff was.
The desk that a call meets at its attempts can so be compared with the
desk as it would be if the claimant had not come at all
(`SharedDesk.meanwhile`). An attempt that is turned down changes nothing,
so up to the last attempt the two are the same.

`Course` says how the attempts of a call follow each other, in its four
rules; `course_perform` reads it off the claimant's turns, and everything
else is an induction on it. Acquiring and releasing differ only in what
the desk says yes to.
-/

namespace FormLease

namespace Desk

/-- Who goes to the desk. -/
def Request.visitor? : Request → Option String
  | .claim id _ _ | .release id _ _ => some id
  | .holder _ | .active | .pass _ => none

def Reply.yes : Reply → Bool
  | .claimed yes | .released yes => yes
  | _ => false

def Accepts (d : Desk) (r : Request) : Prop := (d.serve r).2.yes = true

section Answers

variable {d : Desk} {id key : String} {kind : LeaseKind}

theorem accepts_claim_iff (hroom : d.now + kind.term.nanos < Moment.horizon) :
    d.Accepts (.claim id key kind) ↔ d.table.holder? d.now key = none := by
  rw [LeaseTable.holder?_eq_none_iff, Accepts]
  by_cases hfree : d.table.Free d.now key
  · rw [serve_claim_of_free hfree id hroom]
    exact ⟨fun _ => hfree, fun _ => rfl⟩
  · rw [serve_claim_of_not_free hfree]
    exact ⟨fun hyes => (by cases hyes), fun h => absurd h hfree⟩

theorem accepts_release_iff :
    d.Accepts (.release id key kind) ↔ ∃ lease, d.lease? key = some lease ∧ lease.holder = id := by
  rw [Accepts]
  rcases d.serve_release_cases id key kind with ⟨lease, hslot, hid, h⟩ | ⟨hother, h⟩ <;> rw [h]
  · exact ⟨fun _ => ⟨lease, hslot, hid⟩, fun _ => rfl⟩
  · exact ⟨fun hyes => (by cases hyes), fun ⟨lease, hslot, hid⟩ => absurd hid (hother lease hslot)⟩

/-- A visitor that is turned down changes nothing. -/
theorem serve_of_not_accepts {r : Request} (hvisitor : r.visitor? = some id)
    (no : ¬ d.Accepts r) : (d.serve r).1 = d := by
  rw [Accepts] at no
  cases r with
  | claim i key kind =>
      rcases d.serve_claim_cases i key kind with ⟨-, -, h⟩ | ⟨-, h⟩ | ⟨-, -, h⟩ <;> rw [h] at no ⊢
      exact absurd rfl no
  | release i key kind =>
      rcases d.serve_release_cases i key kind with ⟨-, -, -, h⟩ | ⟨-, h⟩ <;> rw [h] at no ⊢
      exact absurd rfl no
  | holder key => cases hvisitor
  | active => cases hvisitor
  | pass time => cases hvisitor

end Answers

/-- Nobody puts a lease there in the name of somebody else. -/
theorem lease?_of_after {d : Desk} {requests : List Request} {key : String} {lease : Lease}
    (hothers : ∀ r ∈ requests, r.visitor? ≠ some lease.holder)
    (h : (d.after requests).lease? key = some lease) : d.lease? key = some lease := by
  induction requests generalizing d with
  | nil => exact h
  | cons r rest ih =>
      have hserved : (d.serve r).1.lease? key = some lease :=
        ih (fun r' hr' => hothers r' (List.mem_cons_of_mem r hr')) h
      rcases d.serve_cases r key with
        ⟨id, kind, rfl, -, -, hslot⟩ | ⟨id, kind, _, -, -, -, -, hslot⟩ | ⟨-, -, hsame⟩
      · obtain rfl := Option.some.inj (hslot.symm.trans hserved)
        exact absurd rfl (hothers _ List.mem_cons_self)
      · rw [hslot] at hserved
        cases hserved
      · rwa [hsame] at hserved

end Desk

/-- What a claimant asks of a desk at each attempt of a call. -/
def Errand.request (errand : Errand) (id key : String) (kind : LeaseKind) : Desk.Request :=
  match errand with
  | .acquire => .claim id key kind
  | .release => .release id key kind

/-- What others do in a backoff, and how it ends. -/
structure Interlude where
  requests : List Desk.Request
  result : Except String Unit

structure SharedDesk where
  desk : Desk
  /-- The backoffs to come. In any later one nobody comes. -/
  ahead : List Interlude
  /-- The claimant's own visits, each with the desk as it found it. -/
  visits : List (Desk × Desk.Request)

namespace SharedDesk

def interlude (s : SharedDesk) (n : Nat) : Interlude := s.ahead.getD n ⟨[], .ok ()⟩

/-- The desk after so many interludes, if the claimant does nothing. -/
def meanwhile (s : SharedDesk) : Nat → Desk
  | 0 => s.desk
  | n + 1 => (s.meanwhile n).after (s.interlude n).requests

def visited (s : SharedDesk) (r : Desk.Request) : SharedDesk :=
  { s with desk := (s.desk.serve r).1, visits := s.visits ++ [(s.desk, r)] }

def rested (s : SharedDesk) : SharedDesk :=
  { s with desk := s.desk.after (s.interlude 0).requests, ahead := s.ahead.tail }

def surroundings : Surroundings SharedDesk where
  ask errand id key kind s :=
    (.ok (s.desk.serve (errand.request id key kind)).2.yes, s.visited (errand.request id key kind))
  rest _ s := ((s.interlude 0).result, s.rested)
  hear _ _ s := s

theorem heard_eq (t : Turn) (s : SharedDesk) : t.heard surroundings s = s :=
  t.heard_of_deaf (fun _ _ _ => rfl) s

theorem interlude_rested (s : SharedDesk) (n : Nat) :
    s.rested.interlude n = s.interlude (n + 1) := by
  rw [interlude, interlude, rested, List.getD_eq_getElem?_getD, List.getD_eq_getElem?_getD,
    List.getElem?_tail]

/-- What holds of all visits ahead holds of those in any backoff. -/
theorem interlude_mem {s : SharedDesk} {P : Desk.Request → Prop}
    (h : ∀ i ∈ s.ahead, ∀ r ∈ i.requests, P r) (n : Nat) :
    ∀ r ∈ (s.interlude n).requests, P r := by
  intro r hr
  rw [interlude, List.getD_eq_getElem?_getD] at hr
  cases hi : s.ahead[n]? with
  | none =>
      rw [hi] at hr
      cases hr
  | some i =>
      rw [hi] at hr
      exact h i (List.mem_of_getElem? hi) r hr

theorem meanwhile_rested (s : SharedDesk) (n : Nat) :
    s.rested.meanwhile n = s.meanwhile (n + 1) := by
  induction n with
  | zero => rfl
  | succ n ih => rw [meanwhile, ih, interlude_rested, ← meanwhile]

/-- An attempt that is turned down is not noticed later. -/
theorem meanwhile_visited {s : SharedDesk} {r : Desk.Request} {id : String}
    (hvisitor : r.visitor? = some id) (no : ¬ s.desk.Accepts r) (n : Nat) :
    (s.visited r).meanwhile n = s.meanwhile n := by
  induction n with
  | zero => exact Desk.serve_of_not_accepts hvisitor no
  | succ n ih => exact congrArg (fun d => d.after (s.interlude n).requests) ih

theorem lease?_of_meanwhile {s : SharedDesk} {key : String} {lease : Lease}
    (hothers : ∀ i ∈ s.ahead, ∀ r ∈ i.requests, r.visitor? ≠ some lease.holder) (n : Nat)
    (h : (s.meanwhile n).lease? key = some lease) : s.desk.lease? key = some lease := by
  induction n with
  | zero => exact h
  | succ n ih =>
      exact ih (Desk.lease?_of_after (interlude_mem hothers n) h)

end SharedDesk

/-! ## How the attempts of a call follow each other -/

inductive Verdict where
  | granted
  | exhausted
  | interrupted (text : String)

/-- What a claimant makes of the verdict. -/
def Verdict.outcome (c : Claimant) : Errand → Verdict → Except LeaseFault Unit
  | _, .granted => .ok ()
  | .acquire, .exhausted => .error (.timedOut c.id c.key.text)
  | .acquire, .interrupted text => .error (c.failure (.interrupted text))
  | .release, _ => .ok ()

theorem Verdict.outcome_acquire_iff {c : Claimant} {v : Verdict} :
    v.outcome c .acquire = .ok () ↔ v = .granted := by
  cases v <;> simp [Verdict.outcome]

theorem Verdict.outcome_release (c : Claimant) (v : Verdict) : v.outcome c .release = .ok () := by
  cases v <;> rfl

theorem Verdict.outcome_congr {c c' : Claimant} (hid : c'.id = c.id) (hkey : c'.key = c.key)
    (errand : Errand) (v : Verdict) : v.outcome c' errand = v.outcome c errand := by
  cases v <;> cases errand <;> simp only [Verdict.outcome, Claimant.failure, hid, hkey]

namespace Claimant

/-! What a claimant does with an answer, for the two errands at once. -/

theorem answered_yes (c : Claimant) (call : Call) :
    (c.answered call (.ok true)).progress = .ended (Verdict.granted.outcome c call.errand) := by
  cases herrand : call.errand <;> simp only [answered, Claimant.granted, herrand, Verdict.outcome]

theorem answered_no_last {call : Call} (h : call.left = 0) (c : Claimant) :
    (c.answered call (.ok false)).progress
      = .ended (Verdict.exhausted.outcome c call.errand) := by
  cases herrand : call.errand <;>
    simp only [answered, turnedDown, h, if_true, Claimant.exhausted, herrand, Verdict.outcome]

theorem answered_no {call : Call} (h : call.left ≠ 0) (c : Claimant) :
    ∃ delay, (c.answered call (.ok false)).progress = .sleeping call delay := by
  refine ⟨c.backoff.next.1, ?_⟩
  simp only [answered, turnedDown, h, if_false]

theorem woken_cut (c : Claimant) (call : Call) (text : String) :
    (c.woken call (.error text)).progress
      = .ended ((Verdict.interrupted text).outcome c call.errand) := by
  cases herrand : call.errand <;> simp only [woken, Claimant.interrupted, herrand, Verdict.outcome]

end Claimant

/-- After `n` attempts that were turned down there is one more, with at
most `left` backoffs in all, and then the verdict. -/
inductive Course (r : Desk.Request) : Nat → SharedDesk → Nat → Verdict → SharedDesk → Prop where
  | granted {left : Nat} {s : SharedDesk} (yes : s.desk.Accepts r) :
      Course r left s 0 .granted (s.visited r)
  | exhausted {s : SharedDesk} (no : ¬ s.desk.Accepts r) :
      Course r 0 s 0 .exhausted (s.visited r)
  | interrupted {left : Nat} {s : SharedDesk} {text : String} (no : ¬ s.desk.Accepts r)
      (cut : (s.interlude 0).result = .error text) :
      Course r (left + 1) s 0 (.interrupted text) (s.visited r).rested
  | again {left n : Nat} {s final : SharedDesk} {v : Verdict} (no : ¬ s.desk.Accepts r)
      (slept : (s.interlude 0).result = .ok ()) (later : Course r left (s.visited r).rested n v final) :
      Course r (left + 1) s (n + 1) v final

/-- How a call with this verdict leaves the desk, after `n` attempts and one
more. -/
def Verdict.Closes (r : Desk.Request) (left : Nat) (s : SharedDesk) (n : Nat)
    (final : SharedDesk) : Verdict → Prop
  | .granted => (s.meanwhile n).Accepts r ∧ final.desk = ((s.meanwhile n).serve r).1
  | .exhausted => ¬ (s.meanwhile n).Accepts r ∧ n = left ∧ final.desk = s.meanwhile n
  | .interrupted text =>
    ¬ (s.meanwhile n).Accepts r ∧ (s.interlude n).result = .error text
      ∧ final.desk = s.meanwhile (n + 1)

namespace Course

variable {r : Desk.Request} {id : String} {left n : Nat} {s final : SharedDesk} {v : Verdict}

theorem le (course : Course r left s n v final) : n ≤ left := by
  induction course with
  | granted yes => exact Nat.zero_le _
  | exhausted no => exact Nat.zero_le _
  | interrupted no cut => exact Nat.zero_le _
  | again no slept later ih => exact Nat.succ_le_succ ih

/-- After an attempt that is turned down, the desk goes on as if nobody had
come. -/
theorem meanwhile_next (hvisitor : r.visitor? = some id) (no : ¬ s.desk.Accepts r) (n : Nat) :
    (s.visited r).rested.meanwhile n = s.meanwhile (n + 1) := by
  rw [SharedDesk.meanwhile_rested, SharedDesk.meanwhile_visited hvisitor no]

/-- The attempts before the last one are turned down, and the backoffs
between them end well. -/
theorem passed (hvisitor : r.visitor? = some id) (course : Course r left s n v final) :
    ∀ i < n, ¬ (s.meanwhile i).Accepts r ∧ (s.interlude i).result = .ok () := by
  induction course with
  | granted yes => exact fun i hi => absurd hi (Nat.not_lt_zero i)
  | exhausted no => exact fun i hi => absurd hi (Nat.not_lt_zero i)
  | interrupted no cut => exact fun i hi => absurd hi (Nat.not_lt_zero i)
  | again no slept later ih =>
      intro i hi
      cases i with
      | zero => exact ⟨no, slept⟩
      | succ i =>
          rw [← meanwhile_next hvisitor no, ← SharedDesk.interlude_rested]
          exact ih i (Nat.lt_of_succ_lt_succ hi)

theorem visits (hvisitor : r.visitor? = some id) (course : Course r left s n v final) :
    final.visits = s.visits ++ (List.range (n + 1)).map fun i => (s.meanwhile i, r) := by
  induction course with
  | granted yes => rfl
  | exhausted no => rfl
  | interrupted no cut => rfl
  | @again left n s final v no slept later ih =>
      rw [ih, List.range_succ_eq_map (n := n + 1), List.map_cons, List.map_map, List.append_cons]
      congr 1
      refine List.map_congr_left fun i _ => ?_
      rw [meanwhile_next hvisitor no]
      rfl

theorem closes (hvisitor : r.visitor? = some id) (course : Course r left s n v final) :
    v.Closes r left s n final := by
  induction course with
  | granted yes => exact ⟨yes, rfl⟩
  | exhausted no => exact ⟨no, rfl, Desk.serve_of_not_accepts hvisitor no⟩
  | interrupted no cut => exact ⟨no, cut, meanwhile_next hvisitor no 0⟩
  | @again left n s final v no slept later ih =>
      have hnext := meanwhile_next hvisitor no
      cases v with
      | granted =>
          obtain ⟨yes, hdesk⟩ := ih
          rw [hnext] at yes hdesk
          exact ⟨yes, hdesk⟩
      | exhausted =>
          obtain ⟨hno, rfl, hdesk⟩ := ih
          rw [hnext] at hno hdesk
          exact ⟨hno, rfl, hdesk⟩
      | interrupted text =>
          obtain ⟨hno, hcut, hdesk⟩ := ih
          rw [hnext] at hno hdesk
          rw [SharedDesk.interlude_rested] at hcut
          exact ⟨hno, hcut, hdesk⟩

theorem accepts_iff (hvisitor : r.visitor? = some id) (course : Course r left s n v final) :
    (s.meanwhile n).Accepts r ↔ v = .granted := by
  have hcloses := course.closes hvisitor
  cases v with
  | granted => exact ⟨fun _ => rfl, fun _ => hcloses.1⟩
  | exhausted => exact ⟨fun yes => absurd yes hcloses.1, fun heq => by cases heq⟩
  | interrupted text => exact ⟨fun yes => absurd yes hcloses.1, fun heq => by cases heq⟩

end Course

section Calls

variable {c : Claimant} {errand : Errand} {t : Turn} {call : Call}

theorem finish_visited (follows : t.Follows c errand) (hasking : t.progress = .asking call)
    (s : SharedDesk) :
    t.finish SharedDesk.surroundings s
      = (t.claimant.answered call
          (.ok (s.desk.serve (errand.request c.id c.key.text c.kind)).2.yes)).finish
        SharedDesk.surroundings (s.visited (errand.request c.id c.key.text c.kind)) := by
  have herrand : call.errand = errand := follows.errand call (by rw [hasking]; rfl)
  refine Turn.finish_asking hasking ?_
  rw [SharedDesk.heard_eq, follows.id, follows.key, follows.kind, herrand]
  rfl

theorem finish_verdict {d : Claimant} {v : Verdict} (hid : d.id = c.id) (hkey : d.key = c.key)
    (hended : t.progress = .ended (v.outcome d errand)) (s : SharedDesk) :
    (t.finish SharedDesk.surroundings s).surroundings = s
      ∧ (t.finish SharedDesk.surroundings s).outcome = v.outcome c errand := by
  rw [Turn.finish_ended hended]
  exact ⟨SharedDesk.heard_eq t s, Verdict.outcome_congr hid hkey errand v⟩

theorem course_of_yes (follows : t.Follows c errand) (hasking : t.progress = .asking call)
    {s : SharedDesk} (yes : s.desk.Accepts (errand.request c.id c.key.text c.kind)) (left : Nat) :
    ∃ n v, Course (errand.request c.id c.key.text c.kind) left s n v
        (t.finish SharedDesk.surroundings s).surroundings
      ∧ (t.finish SharedDesk.surroundings s).outcome = v.outcome c errand := by
  obtain rfl : call.errand = errand := follows.errand call (by rw [hasking]; rfl)
  rw [finish_visited follows hasking s, show (s.desk.serve _).2.yes = true from yes]
  obtain ⟨hfinal, houtcome⟩ := finish_verdict follows.id follows.key
    (t.claimant.answered_yes call) (s.visited _)
  exact ⟨0, .granted, by rw [hfinal]; exact .granted yes, houtcome⟩

/-- The call from a turn on in which the claimant asks. -/
theorem course_finish {left : Nat} (follows : t.Follows c errand)
    (hasking : t.progress = .asking call) (hleft : call.left = left) (s : SharedDesk) :
    ∃ n v, Course (errand.request c.id c.key.text c.kind) left s n v
        (t.finish SharedDesk.surroundings s).surroundings
      ∧ (t.finish SharedDesk.surroundings s).outcome = v.outcome c errand := by
  induction left generalizing t call s with
  | zero =>
      by_cases yes : s.desk.Accepts (errand.request c.id c.key.text c.kind)
      · exact course_of_yes follows hasking yes 0
      · obtain rfl : call.errand = errand := follows.errand call (by rw [hasking]; rfl)
        rw [finish_visited follows hasking s, Bool.eq_false_iff.mpr yes]
        obtain ⟨hfinal, houtcome⟩ := finish_verdict follows.id follows.key
          (t.claimant.answered_no_last hleft) (s.visited _)
        exact ⟨0, .exhausted, by rw [hfinal]; exact .exhausted yes, houtcome⟩
  | succ left ih =>
      by_cases yes : s.desk.Accepts (errand.request c.id c.key.text c.kind)
      · exact course_of_yes follows hasking yes (left + 1)
      · obtain rfl : call.errand = errand := follows.errand call (by rw [hasking]; rfl)
        rw [finish_visited follows hasking s, Bool.eq_false_iff.mpr yes]
        have follows' : (t.claimant.answered call (.ok false)).Follows c call.errand :=
          follows.trans (t.claimant.answered_follows call (.ok false))
        have hmore : call.left ≠ 0 := by omega
        obtain ⟨delay, hsleeping⟩ := Claimant.answered_no hmore t.claimant
        have hrest : SharedDesk.surroundings.rest delay
            ((t.claimant.answered call (.ok false)).heard SharedDesk.surroundings
              (s.visited (call.errand.request c.id c.key.text c.kind)))
            = ((s.interlude 0).result,
              (s.visited (call.errand.request c.id c.key.text c.kind)).rested) := by
          rw [SharedDesk.heard_eq]
          rfl
        rw [Turn.finish_sleeping hsleeping hrest]
        cases hresult : (s.interlude 0).result with
        | error text =>
            obtain ⟨hfinal, houtcome⟩ := finish_verdict follows'.id follows'.key
              (Claimant.woken_cut _ call text) (s.visited _).rested
            exact ⟨0, .interrupted text, by rw [hfinal]; exact .interrupted yes hresult, houtcome⟩
        | ok u =>
            obtain ⟨n, v, hcourse, houtcome⟩ := ih
              (follows'.trans (Claimant.woken_follows _ call (.ok ()))) rfl
              (show call.left - 1 = left by omega) (s.visited _).rested
            exact ⟨n + 1, v, .again yes hresult hcourse, houtcome⟩

theorem course_perform (c : Claimant) (errand : Errand) (s : SharedDesk) :
    ∃ n v, Course (errand.request c.id c.key.text c.kind) (c.policy.tries - 1) s n v
        (c.perform errand SharedDesk.surroundings s).surroundings
      ∧ (c.perform errand SharedDesk.surroundings s).outcome = v.outcome c errand :=
  course_finish (c.begin_follows errand) rfl rfl s

end Calls

end FormLease
