import FormLease.Proofs.Call.Turn
import FormLease.Proofs.Table.Visit
import FormLease.Scene

/-!
# Everything a move can do

`Scene.apply` taken apart, once. `Step` has one constructor for each kind
of move and says who had to be where for the move to be possible, which
turn the claimant took and what the scene is afterwards; `Consulted` does
the same for a visit to the table. Every invariant of scenes is a case
analysis on these two, and no proof after this file looks inside `apply`
or `consult`.
-/

namespace FormLease

def Activity.call? : Activity → Option Call
  | .asking call _ => some call
  | .sleeping call _ _ => some call
  | .idle | .inside => none

namespace Scene

/-! ## What a claimant does after its turn -/

theorem call?_activityAfter (errand : Errand) (bracket : Bool) (progress : Progress) :
    (activityAfter errand bracket progress).call? = progress.call? := by
  match progress with
  | .asking _ => rfl
  | .sleeping _ _ => rfl
  | .ended (.ok ()) =>
      simp only [activityAfter]
      split <;> rfl
  | .ended (.error _) => rfl

/-- A claimant is inside a bracket after an acquire that succeeded. -/
theorem activityAfter_eq_inside {errand : Errand} {bracket : Bool} {progress : Progress}
    (h : activityAfter errand bracket progress = .inside) :
    errand = .acquire ∧ progress = .ended (.ok ()) := by
  match progress with
  | .asking _ => cases h
  | .sleeping _ _ => cases h
  | .ended (.ok ()) =>
      simp only [activityAfter] at h
      split at h
      · next hb => exact ⟨beq_iff_eq.mp (Bool.and_eq_true_iff.mp hb).2, rfl⟩
      · cases h
  | .ended (.error _) => cases h

/-! ## Visits to the table -/

/-- What comes of a visit: the scene afterwards, what could be seen, and
the answer. -/
inductive Consulted (s : Scene) (id key : String) (kind : LeaseKind) :
    Errand → Scripted → Scene → List Happening → Except LeaseFault Bool → Prop where
  /-- Somebody else answered, and the table was not asked. -/
  | scripted (errand : Errand) (answer : Except LeaseFault Bool) :
      Consulted s id key kind errand (some answer) s [.asked errand id key kind answer] answer
  | granted (previous : Option String) (free : s.table.Free s.now key) :
      Consulted s id key kind .acquire none
        { s with table := s.table.granting s.now id key kind }
        (takeover key previous ++ [.asked .acquire id key kind (.ok true)]) (.ok true)
  | busy (running : ¬ s.table.Free s.now key) :
      Consulted s id key kind .acquire none s [.asked .acquire id key kind (.ok false)]
        (.ok false)
  | released {lease : Lease} (own : s.table.slots.find? key = some lease)
      (holder : lease.holder = id) :
      Consulted s id key kind .release none { s with table := s.table.without key }
        [.asked .release id key kind (.ok true)] (.ok true)
  | rejected (other : ∀ lease, s.table.slots.find? key = some lease → lease.holder ≠ id) :
      Consulted s id key kind .release none s [.asked .release id key kind (.ok false)]
        (.ok false)

theorem consulted_of_consult {s s' : Scene} {errand : Errand} {id key : String}
    {kind : LeaseKind} {scripted : Scripted} {seen : List Happening}
    {answer : Except LeaseFault Bool}
    (h : s.consult errand id key kind scripted = (s', seen, some answer)) :
    Consulted s id key kind errand scripted s' seen answer := by
  match scripted, errand with
  | some a, errand =>
      simp only [consult, Prod.mk.injEq, Option.some.injEq] at h
      obtain ⟨rfl, rfl, rfl⟩ := h
      exact .scripted errand a
  | none, .acquire =>
      rcases s.table.claim_cases s.now id key kind with
        ⟨hfree, -, previous, hclaim⟩ | ⟨hbusy, hclaim⟩ | ⟨-, -, previous, hclaim⟩
      · simp only [consult, hclaim, Prod.mk.injEq, Option.some.injEq] at h
        obtain ⟨rfl, rfl, rfl⟩ := h
        exact .granted previous hfree
      · simp only [consult, hclaim, Prod.mk.injEq, Option.some.injEq] at h
        obtain ⟨rfl, rfl, rfl⟩ := h
        exact .busy hbusy
      · simp [consult, hclaim] at h
  | none, .release =>
      rcases s.table.release_cases id key with ⟨lease, hslot, hid, hrelease⟩ | ⟨hother, hrelease⟩
      · simp only [consult, hrelease, Prod.mk.injEq, Option.some.injEq] at h
        obtain ⟨rfl, rfl, rfl⟩ := h
        exact .released hslot hid
      · simp only [consult, hrelease, Prod.mk.injEq, Option.some.injEq] at h
        obtain ⟨rfl, rfl, rfl⟩ := h
        exact .rejected hother

/-- A visit that gets no answer leaves the scene as it is. -/
theorem consult_unanswered {s s' : Scene} {errand : Errand} {id key : String} {kind : LeaseKind}
    {scripted : Scripted} {seen : List Happening}
    (h : s.consult errand id key kind scripted = (s', seen, none)) :
    s' = s ∧ ∃ previous, seen = takeover key previous ++ [.overflowed] := by
  match scripted, errand with
  | some a, errand => simp [consult] at h
  | none, .acquire =>
      rcases s.table.claim_cases s.now id key kind with
        ⟨-, -, previous, hclaim⟩ | ⟨-, hclaim⟩ | ⟨-, -, previous, hclaim⟩
      · simp [consult, hclaim] at h
      · simp [consult, hclaim] at h
      · simp only [consult, hclaim, Prod.mk.injEq] at h
        obtain ⟨rfl, rfl, -⟩ := h
        exact ⟨rfl, previous, rfl⟩
  | none, .release => simp [consult] at h

theorem Consulted.seats {s s' : Scene} {id key : String} {kind : LeaseKind} {errand : Errand}
    {scripted : Scripted} {seen : List Happening} {answer : Except LeaseFault Bool}
    (consulted : s.Consulted id key kind errand scripted s' seen answer) : s'.seats = s.seats := by
  cases consulted <;> rfl

/-! ## Moves -/

/-- What comes of a move: the scene afterwards and what could be seen. -/
inductive Step (s : Scene) : Move → Scene → List Happening → Prop where
  | enter (name : String) (c : Claimant) :
      Step s (.enter name c) { s with seats := s.seats.put name ⟨c, .idle⟩ } []
  | start {name : String} {c : Claimant} (errand : Errand)
      (seat : s.seats.find? name = some ⟨c, .idle⟩) :
      Step s (.start name errand) (s.settle name errand false (c.begin errand)).1
        (s.settle name errand false (c.begin errand)).2
  | bracket {name : String} {c : Claimant} (seat : s.seats.find? name = some ⟨c, .idle⟩) :
      Step s (.bracket name) (s.settle name .acquire true (c.begin .acquire)).1
        (s.settle name .acquire true (c.begin .acquire)).2
  | answer {name : String} {c : Claimant} {call : Call} {bracket : Bool} {scripted : Scripted}
      {s' : Scene} {seen : List Happening} {answer : Except LeaseFault Bool}
      (seat : s.seats.find? name = some ⟨c, .asking call bracket⟩)
      (consulted : Consulted s c.id c.key.text c.kind call.errand scripted s' seen answer) :
      Step s (.answer name scripted)
        (s'.settle name call.errand bracket (c.answered call answer)).1
        (seen ++ (s'.settle name call.errand bracket (c.answered call answer)).2)
  | wake {name : String} {c : Claimant} {call : Call} {delay : Span} {bracket : Bool}
      (result : Except String Unit)
      (seat : s.seats.find? name = some ⟨c, .sleeping call delay bracket⟩) :
      Step s (.wake name result) (s.settle name call.errand bracket (c.woken call result)).1
        (s.settle name call.errand bracket (c.woken call result)).2
  | conclude {name : String} {c : Claimant} (seat : s.seats.find? name = some ⟨c, .inside⟩) :
      Step s (.conclude name) (s.settle name .release true (c.begin .release)).1
        (s.settle name .release true (c.begin .release)).2
  | adopt {name : String} {c : Claimant} (policy : RetryPolicy) (draws : Nat → Draw)
      (seat : s.seats.find? name = some ⟨c, .idle⟩) :
      Step s (.adopt name policy draws)
        { s with seats := s.seats.put name ⟨c.withPolicy policy draws, .idle⟩ } []
  | leave {name : String} {c : Claimant} (seat : s.seats.find? name = some ⟨c, .idle⟩) :
      Step s (.leave name) { s with seats := s.seats.remove name } (c.leave.map (.told c))
  | advance (passed : Span) : Step s (.advance passed) { s with now := s.now + passed.nanos } []
  | visit {errand : Errand} {id key : String} {kind : LeaseKind} {scripted : Scripted}
      {s' : Scene} {seen : List Happening} {answer : Option (Except LeaseFault Bool)}
      (consulted : s.consult errand id key kind scripted = (s', seen, answer)) :
      Step s (.visit errand id key kind scripted) s' seen

theorem idle?_eq_some {s : Scene} {name : String} {c : Claimant} (h : s.idle? name = some c) :
    s.seats.find? name = some ⟨c, .idle⟩ := by
  unfold idle? at h
  split at h
  · next heq => rw [heq, Option.some.inj h]
  · cases h

theorem inside?_eq_some {s : Scene} {name : String} {c : Claimant} (h : s.inside? name = some c) :
    s.seats.find? name = some ⟨c, .inside⟩ := by
  unfold inside? at h
  split at h
  · next heq => rw [heq, Option.some.inj h]
  · cases h

theorem asking?_eq_some {s : Scene} {name : String} {c : Claimant} {call : Call}
    {bracket : Bool} (h : s.asking? name = some (c, call, bracket)) :
    s.seats.find? name = some ⟨c, .asking call bracket⟩ := by
  unfold asking? at h
  split at h
  · next heq =>
      simp only [Option.some.injEq, Prod.mk.injEq] at h
      obtain ⟨rfl, rfl, rfl⟩ := h
      exact heq
  · cases h

theorem sleeping?_eq_some {s : Scene} {name : String} {c : Claimant} {call : Call}
    {bracket : Bool} (h : s.sleeping? name = some (c, call, bracket)) :
    ∃ delay, s.seats.find? name = some ⟨c, .sleeping call delay bracket⟩ := by
  unfold sleeping? at h
  split at h
  · next delay _ heq =>
      simp only [Option.some.injEq, Prod.mk.injEq] at h
      obtain ⟨rfl, rfl, rfl⟩ := h
      exact ⟨_, heq⟩
  · cases h

/-- A move that asks for a claimant first finds it. -/
theorem of_bind_eq_some {α β : Type} {o : Option α} {f : α → β × List Happening}
    {s : β} {seen : List Happening} (h : (o.bind fun a => some (f a)) = some (s, seen)) :
    ∃ a, o = some a ∧ s = (f a).1 ∧ seen = (f a).2 := by
  obtain ⟨a, ha, hf⟩ := Option.bind_eq_some_iff.mp h
  have heq := Option.some.inj hf
  exact ⟨a, ha, (congrArg Prod.fst heq).symm, (congrArg Prod.snd heq).symm⟩

/-- Every move that is possible is a step. -/
theorem step_of_apply {s s' : Scene} {m : Move} {seen : List Happening}
    (h : s.apply m = some (s', seen)) : s.Step m s' seen := by
  cases m with
  | enter name c =>
      obtain ⟨rfl, rfl⟩ := Prod.mk.inj (Option.some.inj h)
      exact .enter name c
  | start name errand =>
      obtain ⟨c, hc, rfl, rfl⟩ := of_bind_eq_some h
      exact .start errand (idle?_eq_some hc)
  | bracket name =>
      obtain ⟨c, hc, rfl, rfl⟩ := of_bind_eq_some h
      exact .bracket (idle?_eq_some hc)
  | answer name scripted =>
      obtain ⟨⟨c, call, bracket⟩, hc, h⟩ := Option.bind_eq_some_iff.mp h
      obtain ⟨answer, hanswer, rfl, rfl⟩ := of_bind_eq_some h
      exact .answer (asking?_eq_some hc) (consulted_of_consult (Prod.ext rfl (Prod.ext rfl hanswer)))
  | wake name result =>
      obtain ⟨⟨c, call, bracket⟩, hc, rfl, rfl⟩ := of_bind_eq_some h
      obtain ⟨delay, hseat⟩ := sleeping?_eq_some hc
      exact .wake result hseat
  | conclude name =>
      obtain ⟨c, hc, rfl, rfl⟩ := of_bind_eq_some h
      exact .conclude (inside?_eq_some hc)
  | adopt name policy draws =>
      obtain ⟨c, hc, rfl, rfl⟩ := of_bind_eq_some h
      exact .adopt policy draws (idle?_eq_some hc)
  | leave name =>
      obtain ⟨c, hc, rfl, rfl⟩ := of_bind_eq_some h
      exact .leave (idle?_eq_some hc)
  | advance passed =>
      obtain ⟨rfl, rfl⟩ := Prod.mk.inj (Option.some.inj h)
      exact .advance passed
  | visit errand id key kind scripted =>
      obtain ⟨rfl, rfl⟩ := Prod.mk.inj (Option.some.inj h)
      exact .visit rfl

end Scene

end FormLease
