import FormLease.Claimant

/-!
# Whole calls

A call from its beginning to its end, among surroundings of any kind:
something that answers attempts, something that ends backoffs, and
somebody who hears what the claimant tells. How far a call is from its
end is a number (`Progress.rank`) that every wait brings down, whatever
the surroundings do, so a call always ends.

A bracket is an acquire and a release around some protected work, which
may do anything to the surroundings but has no hold of the claimant.
-/

namespace FormLease

/-- Whom a claimant deals with during a call, as a machine with states
`σ`. -/
structure Surroundings (σ : Type) where
  ask : (errand : Errand) → (id key : String) → LeaseKind → σ → Except LeaseFault Bool × σ
  /-- A backoff ends, or is cut short with a reason. -/
  rest : Span → σ → Except String Unit × σ
  hear : Claimant → Event → σ → σ

/-- How many waits are ahead at most. -/
def Progress.rank : Progress → Nat
  | .asking call => 2 * call.left + 1
  | .sleeping call _ => max (2 * call.left) 2
  | .ended _ => 0

theorem Progress.rank_asking (call : Call) : (asking call).rank = 2 * call.left + 1 := rfl

theorem Progress.rank_sleeping (call : Call) (delay : Span) :
    (sleeping call delay).rank = max (2 * call.left) 2 := rfl

namespace Claimant

theorem rank_exhausted (c : Claimant) (errand : Errand) : (c.exhausted errand).progress.rank = 0 := by
  cases errand <;> rfl

theorem rank_granted (c : Claimant) (call : Call) : (c.granted call).progress.rank = 0 := by
  unfold granted
  cases call.errand <;> rfl

theorem rank_failed (c : Claimant) (call : Call) (fault : LeaseFault) :
    (c.failed call fault).progress.rank = 0 := by
  unfold failed
  cases call.errand <;> rfl

theorem rank_interrupted (c : Claimant) (call : Call) (text : String) :
    (c.interrupted call text).progress.rank = 0 := by
  unfold interrupted
  cases call.errand <;> rfl

theorem rank_turnedDown (c : Claimant) (call : Call) :
    (c.turnedDown call).progress.rank ≤ 2 * call.left := by
  unfold turnedDown
  split
  · next h => simp [rank_exhausted]
  · next h => simp only [Progress.rank_sleeping]; omega

/-- An answer brings the end nearer. -/
theorem rank_answered (c : Claimant) (call : Call) (reply : Except LeaseFault Bool) :
    (c.answered call reply).progress.rank < (Progress.asking call).rank := by
  rw [Progress.rank_asking]
  match reply with
  | .ok true => simp [answered, rank_granted]
  | .ok false =>
    have := c.rank_turnedDown call
    simp only [answered]
    omega
  | .error fault => simp [answered, rank_failed]

/-- So does the end of a backoff. -/
theorem rank_woken (c : Claimant) (call : Call) (delay : Span) (result : Except String Unit) :
    (c.woken call result).progress.rank < (Progress.sleeping call delay).rank := by
  rw [Progress.rank_sleeping]
  match result with
  | .ok () => simp only [woken, Progress.rank_asking]; omega
  | .error text => simp only [woken, rank_interrupted]; omega

end Claimant

structure Ending (σ : Type) where
  claimant : Claimant
  outcome : Except LeaseFault Unit
  surroundings : σ

/-- What the claimant tells in its turn is heard, in order. -/
def Turn.heard {σ : Type} (w : Surroundings σ) (t : Turn) (s : σ) : σ :=
  t.events.foldl (fun s event => w.hear t.claimant event s) s

def Turn.finish {σ : Type} (w : Surroundings σ) (t : Turn) (s : σ) : Ending σ :=
  let s := t.heard w s
  match _h : t.progress with
  | .ended outcome => ⟨t.claimant, outcome, s⟩
  | .asking call =>
    let (reply, s) := w.ask call.errand t.claimant.id t.claimant.key.text t.claimant.kind s
    (t.claimant.answered call reply).finish w s
  | .sleeping call delay =>
    let (result, s) := w.rest delay s
    (t.claimant.woken call result).finish w s
termination_by t.progress.rank
decreasing_by
  · rw [_h]; exact t.claimant.rank_answered call _
  · rw [_h]; exact t.claimant.rank_woken call delay _

def Claimant.perform {σ : Type} (c : Claimant) (errand : Errand) (w : Surroundings σ) (s : σ) :
    Ending σ :=
  (c.begin errand).finish w s

/-- The end of a bracket: what the work gave, unless the acquire failed. -/
structure Bracketed (σ α : Type) where
  claimant : Claimant
  outcome : Except LeaseFault α
  surroundings : σ

/-- Does the work while the lease is held, and always releases after it. -/
def Claimant.bracket {σ α : Type} (c : Claimant) (work : σ → α × σ) (w : Surroundings σ) (s : σ) :
    Bracketed σ α :=
  let acquired := c.perform .acquire w s
  match acquired.outcome with
  | .error fault => ⟨acquired.claimant, .error fault, acquired.surroundings⟩
  | .ok () =>
    let (output, s) := work acquired.surroundings
    let released := acquired.claimant.perform .release w s
    ⟨released.claimant, .ok output, released.surroundings⟩

end FormLease
