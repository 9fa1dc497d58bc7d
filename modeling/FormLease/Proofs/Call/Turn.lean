import FormLease.Claimant

/-!
# What a turn leaves alone

Whatever a claimant does in its turn, it stays the same claimant: its id,
its key, the kind of its lease and its policy are those it had, and the
call it is in goes on with the same errand (`Turn.Follows`). What a turn
can change is whether the claimant counts as holding, and that only in
two places: the begin of a release ends it, and a granted acquire starts
it.
-/

namespace FormLease

def Progress.call? : Progress → Option Call
  | .asking call => some call
  | .sleeping call _ => some call
  | .ended _ => none

/-- A turn of claimant `c` in a call on `errand`. -/
structure Turn.Follows (t : Turn) (c : Claimant) (errand : Errand) : Prop where
  id : t.claimant.id = c.id
  key : t.claimant.key = c.key
  kind : t.claimant.kind = c.kind
  policy : t.claimant.policy = c.policy
  errand : ∀ call, t.progress.call? = some call → call.errand = errand

theorem Turn.Follows.trans {t t' : Turn} {c : Claimant} {errand : Errand}
    (h : t.Follows c errand) (h' : t'.Follows t.claimant errand) : t'.Follows c errand where
  id := h'.id.trans h.id
  key := h'.key.trans h.key
  kind := h'.kind.trans h.kind
  policy := h'.policy.trans h.policy
  errand := h'.errand

namespace Claimant

/-! ## The begin of a call -/

theorem begin_follows (c : Claimant) (errand : Errand) : (c.begin errand).Follows c errand where
  id := rfl
  key := rfl
  kind := rfl
  policy := rfl
  errand := fun _ h => by obtain rfl := Option.some.inj h; rfl

theorem held_begin_release (c : Claimant) : (c.begin .release).claimant.held = false := rfl

/-! ## Answers -/

theorem exhausted_claimant (c : Claimant) (errand : Errand) :
    (c.exhausted errand).claimant = c := by
  cases errand <;> rfl

theorem exhausted_call? (c : Claimant) (errand : Errand) :
    (c.exhausted errand).progress.call? = none := by
  cases errand <;> rfl

theorem turnedDown_follows (c : Claimant) (call : Call) :
    (c.turnedDown call).Follows c call.errand := by
  unfold turnedDown
  split
  · refine ⟨?_, ?_, ?_, ?_, fun _ h => ?_⟩
    case refine_5 => rw [exhausted_call?] at h; cases h
    all_goals simp only [exhausted_claimant]
  · exact ⟨rfl, rfl, rfl, rfl, fun _ h => by obtain rfl := Option.some.inj h; rfl⟩

theorem held_turnedDown (c : Claimant) (call : Call) :
    (c.turnedDown call).claimant.held = c.held := by
  unfold turnedDown
  split
  · simp only [exhausted_claimant]
  · rfl

theorem answered_follows (c : Claimant) (call : Call) (reply : Except LeaseFault Bool) :
    (c.answered call reply).Follows c call.errand := by
  match reply with
  | .ok true =>
      simp only [answered, granted]
      cases call.errand <;> exact ⟨rfl, rfl, rfl, rfl, fun _ h => by cases h⟩
  | .ok false => exact c.turnedDown_follows call
  | .error fault =>
      simp only [answered, failed]
      cases call.errand <;> exact ⟨rfl, rfl, rfl, rfl, fun _ h => by cases h⟩

/-- The one answer that makes a claimant hold. -/
theorem held_answered_acquire {call : Call} (h : call.errand = .acquire) (c : Claimant) :
    (c.answered call (.ok true)).claimant.held = true := by
  simp only [answered, granted, h]

theorem held_answered_release {call : Call} (h : call.errand = .release) (c : Claimant)
    (reply : Except LeaseFault Bool) : (c.answered call reply).claimant.held = c.held := by
  match reply with
  | .ok true => simp only [answered, granted, h]
  | .ok false => exact c.held_turnedDown call
  | .error fault => simp only [answered, failed, h]

theorem held_answered_of_ne {reply : Except LeaseFault Bool} (h : reply ≠ .ok true) (c : Claimant)
    (call : Call) : (c.answered call reply).claimant.held = c.held := by
  match reply with
  | .ok true => exact absurd rfl h
  | .ok false => exact c.held_turnedDown call
  | .error fault =>
      simp only [answered, failed]
      cases call.errand <;> rfl

/-- An acquire succeeds with the answer yes only. -/
theorem answered_of_ended_ok {c : Claimant} {call : Call} {reply : Except LeaseFault Bool}
    (herrand : call.errand = .acquire)
    (h : (c.answered call reply).progress = .ended (.ok ())) : reply = .ok true := by
  match reply with
  | .ok true => rfl
  | .ok false =>
      simp only [answered, turnedDown, herrand, exhausted] at h
      split at h <;> cases h
  | .error fault =>
      simp only [answered, failed, herrand] at h
      cases h

/-! ## Awakenings -/

theorem woken_follows (c : Claimant) (call : Call) (result : Except String Unit) :
    (c.woken call result).Follows c call.errand := by
  match result with
  | .ok () => exact ⟨rfl, rfl, rfl, rfl, fun _ h => by obtain rfl := Option.some.inj h; rfl⟩
  | .error text =>
      simp only [woken, interrupted]
      cases call.errand <;> exact ⟨rfl, rfl, rfl, rfl, fun _ h => by cases h⟩

theorem held_woken (c : Claimant) (call : Call) (result : Except String Unit) :
    (c.woken call result).claimant.held = c.held := by
  match result with
  | .ok () => rfl
  | .error text =>
      simp only [woken, interrupted]
      cases call.errand <;> rfl

/-- No acquire succeeds by waking up. -/
theorem woken_of_ended_ok {c : Claimant} {call : Call} {result : Except String Unit}
    (h : (c.woken call result).progress = .ended (.ok ())) : call.errand = .release := by
  match result with
  | .ok () => cases h
  | .error text =>
      simp only [woken, interrupted] at h
      cases herrand : call.errand with
      | acquire => rw [herrand] at h; cases h
      | release => rfl

end Claimant

end FormLease
