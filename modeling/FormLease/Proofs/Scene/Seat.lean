import FormLease.Proofs.Call.Bracket
import FormLease.Proofs.Directory
import FormLease.Proofs.Scene.Step

/-!
# A seat by itself

In a scene a call is cut into moves, and between them others move. What its
claimant goes through at its seat is a whole call all the same, with the
answers and the ends of backoffs that it is given there (`call_at_seat`).
And a bracket in a scene is a bracket (`bracket_at_seat`): an acquire, then
whatever others do while the claimant is inside, then a release. So what is
said about calls and brackets among any surroundings is said about scenes.
-/

namespace FormLease

/-- What a claimant is given in a call, in order. -/
structure Given where
  answers : List (Except LeaseFault Bool)
  ends : List (Except String Unit)

/-- Where a list is over, attempts are turned down and backoffs end well. -/
def Given.surroundings : Surroundings Given where
  ask _ _ _ _ g := (g.answers.headD (.ok false), { g with answers := g.answers.tail })
  rest _ g := (g.ends.headD (.ok ()), { g with ends := g.ends.tail })
  hear _ _ g := g

theorem Given.heard_eq (t : Turn) (g : Given) : t.heard Given.surroundings g = g :=
  t.heard_of_deaf (fun _ _ _ => rfl) g

namespace Scene

/-- Moves after which one seat has been given so much, in whatever order
others move between them. -/
inductive Attends (name : String) : Scene → Given → Scene → Prop where
  | here (s : Scene) : Attends name s ⟨[], []⟩ s
  | others {s s' final : Scene} {m : Move} {seen : List Happening} {g : Given}
      (step : s.Step m s' seen) (apart : s'.seats.find? name = s.seats.find? name)
      (later : Attends name s' g final) : Attends name s g final
  | answer {s s' final : Scene} {c : Claimant} {call : Call} {bracket : Bool}
      {scripted : Scripted} {seen : List Happening} {answer : Except LeaseFault Bool} {g : Given}
      (seat : s.seats.find? name = some ⟨c, .asking call bracket⟩)
      (consulted : Consulted s c.id c.key.text c.kind call.errand scripted s' seen answer)
      (later : Attends name (s'.settle name call.errand bracket (c.answered call answer)).1 g
        final) : Attends name s { g with answers := answer :: g.answers } final
  | wake {s final : Scene} {c : Claimant} {call : Call} {delay : Span} {bracket : Bool}
      {result : Except String Unit} {g : Given}
      (seat : s.seats.find? name = some ⟨c, .sleeping call delay bracket⟩)
      (later : Attends name (s.settle name call.errand bracket (c.woken call result)).1 g
        final) : Attends name s { g with ends := result :: g.ends } final

theorem activityAfter_eq_asking {errand : Errand} {bracket bracket' : Bool} {progress : Progress}
    {call : Call} (h : activityAfter errand bracket progress = .asking call bracket') :
    progress = .asking call ∧ bracket' = bracket := by
  match progress with
  | .asking _ =>
      obtain ⟨rfl, rfl⟩ := Activity.asking.inj h
      exact ⟨rfl, rfl⟩
  | .sleeping _ _ => cases h
  | .ended (.ok ()) =>
      simp only [activityAfter] at h
      split at h <;> cases h
  | .ended (.error _) => cases h

theorem activityAfter_eq_sleeping {errand : Errand} {bracket bracket' : Bool}
    {progress : Progress} {call : Call} {delay : Span}
    (h : activityAfter errand bracket progress = .sleeping call delay bracket') :
    progress = .sleeping call delay ∧ bracket' = bracket := by
  match progress with
  | .asking _ => cases h
  | .sleeping _ _ =>
      obtain ⟨rfl, rfl, rfl⟩ := Activity.sleeping.inj h
      exact ⟨rfl, rfl⟩
  | .ended (.ok ()) =>
      simp only [activityAfter] at h
      split at h <;> cases h
  | .ended (.error _) => cases h

theorem seat_settle (s : Scene) (name : String) (errand : Errand) (bracket : Bool) (t : Turn) :
    (s.settle name errand bracket t).1.seats.find? name
      = some ⟨t.claimant, activityAfter errand bracket t.progress⟩ := by
  rw [settle, Directory.find?_put, if_pos rfl]

/-- A call at a seat is a whole call with what it is given there. -/
theorem call_at_seat {name : String} {s final : Scene} {g : Given} (attends : s.Attends name g final)
    {t : Turn} {c d : Claimant} {errand : Errand} {bracket : Bool} {activity : Activity}
    (follows : t.Follows c errand)
    (seat : s.seats.find? name = some ⟨t.claimant, activityAfter errand bracket t.progress⟩)
    (atEnd : final.seats.find? name = some ⟨d, activity⟩) (hcall : activity.call? = none) :
    ∃ outcome, t.finish Given.surroundings g = ⟨d, outcome, ⟨[], []⟩⟩
      ∧ activity = activityAfter errand bracket (.ended outcome) := by
  induction attends generalizing t with
  | here s =>
      obtain ⟨rfl, rfl⟩ := Seat.mk.inj (Option.some.inj (atEnd.symm.trans seat))
      rw [call?_activityAfter] at hcall
      cases hprogress : t.progress with
      | asking call =>
          rw [hprogress] at hcall
          cases hcall
      | sleeping call delay =>
          rw [hprogress] at hcall
          cases hcall
      | ended outcome =>
          refine ⟨outcome, ?_, rfl⟩
          rw [Turn.finish_ended hprogress, Given.heard_eq]
  | others step apart later ih => exact ih follows (apart.trans seat) atEnd
  | @answer s s' final c' call bracket' scripted seen answer g seat' consulted later ih =>
      obtain ⟨rfl, hactivity⟩ := Seat.mk.inj (Option.some.inj (seat'.symm.trans seat))
      obtain ⟨hprogress, rfl⟩ := activityAfter_eq_asking hactivity.symm
      obtain rfl : call.errand = errand := follows.errand call (by rw [hprogress]; rfl)
      have hask : Given.surroundings.ask call.errand t.claimant.id t.claimant.key.text
          t.claimant.kind (t.heard Given.surroundings { g with answers := answer :: g.answers })
          = (answer, g) := by
        rw [Given.heard_eq]
        rfl
      rw [Turn.finish_asking hprogress hask]
      exact ih (follows.trans (t.claimant.answered_follows call answer)) (seat_settle ..) atEnd
  | @wake s final c' call delay bracket' result g seat' later ih =>
      obtain ⟨rfl, hactivity⟩ := Seat.mk.inj (Option.some.inj (seat'.symm.trans seat))
      obtain ⟨hprogress, rfl⟩ := activityAfter_eq_sleeping hactivity.symm
      obtain rfl : call.errand = errand := follows.errand call (by rw [hprogress]; rfl)
      have hrest : Given.surroundings.rest delay
          (t.heard Given.surroundings { g with ends := result :: g.ends }) = (result, g) := by
        rw [Given.heard_eq]
        rfl
      rw [Turn.finish_sleeping hprogress hrest]
      exact ih (follows.trans (t.claimant.woken_follows call result)) (seat_settle ..) atEnd

/-- **A bracket in a scene is a bracket.** A claimant begins the acquire of
one, and what it is given at its seat until it is in no call any more is
`g`. If it is idle then, whatever work the bracket was for would have
failed with a fault and left the claimant like this.

If it is inside, others can do anything that leaves it there. Then it
begins the release, and until it is idle it is given `g'`. Work that hands
over from `g` to `g'`, and gives nothing, succeeds in the bracket and
leaves the claimant like this. -/
theorem bracket_at_seat {name : String} {c d : Claimant} {s s₁ s₂ : Scene} {seen : List Happening}
    {g : Given} (idle : s.seats.find? name = some ⟨c, .idle⟩)
    (begun : s.Step (.bracket name) s₁ seen) (acquiring : s₁.Attends name g s₂) :
    (s₂.seats.find? name = some ⟨d, .idle⟩ → ∃ fault,
      ∀ work : Given → Unit × Given, c.bracket work Given.surroundings g
        = ⟨d, .error fault, ⟨[], []⟩⟩)
    ∧ (s₂.seats.find? name = some ⟨d, .inside⟩ →
      ∀ (s₃ s₄ s₅ : Scene) (seen' : List Happening) (g' : Given) (e : Claimant),
        s₃.seats.find? name = some ⟨d, .inside⟩ → s₃.Step (.conclude name) s₄ seen' →
        s₄.Attends name g' s₅ → s₅.seats.find? name = some ⟨e, .idle⟩ →
        c.bracket (fun _ => ((), g')) Given.surroundings g = ⟨e, .ok (), ⟨[], []⟩⟩) := by
  cases begun with
  | @bracket _ c' seat =>
      obtain ⟨rfl, -⟩ := Seat.mk.inj (Option.some.inj (idle.symm.trans seat))
      refine ⟨fun atEnd => ?_, fun inside s₃ s₄ s₅ seen' g' e seat' concluded releasing atEnd => ?_⟩
      · obtain ⟨outcome, hfinish, hactivity⟩ :=
          call_at_seat acquiring (c.begin_follows .acquire) (seat_settle ..) atEnd rfl
        have hperform : c.perform .acquire Given.surroundings g = ⟨d, outcome, ⟨[], []⟩⟩ := hfinish
        cases outcome with
        | ok u => cases hactivity
        | error fault =>
            refine ⟨fault, fun work => ?_⟩
            rw [Claimant.bracket_of_error work (congrArg (·.outcome) hperform), hperform]
      · cases concluded with
        | @conclude _ d' seat'' =>
            obtain ⟨rfl, -⟩ := Seat.mk.inj (Option.some.inj (seat'.symm.trans seat''))
            obtain ⟨outcome, hfinish, hactivity⟩ :=
              call_at_seat acquiring (c.begin_follows .acquire) (seat_settle ..) inside rfl
            obtain ⟨outcome', hfinish', -⟩ :=
              call_at_seat releasing (d.begin_follows .release) (seat_settle ..) atEnd rfl
            have hperform : c.perform .acquire Given.surroundings g = ⟨d, outcome, ⟨[], []⟩⟩ :=
              hfinish
            have hperform' : d.perform .release Given.surroundings g' = ⟨e, outcome', ⟨[], []⟩⟩ :=
              hfinish'
            cases outcome with
            | ok u =>
                rw [Claimant.bracket_of_ok _ (congrArg (·.outcome) hperform), hperform]
                simp only [hperform']
            | error fault => cases hactivity

end Scene

end FormLease
