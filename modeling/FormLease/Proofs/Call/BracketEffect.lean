import FormLease.Proofs.Call.Bracket
import FormLease.Proofs.Call.Effect
import FormLease.Proofs.Table.Apart

/-!
# What a bracket does to a desk that others use

The work of a bracket can last longer than the lease, and others may have
taken the key when the claimant comes back to release it. What it does then
is decided by the name on the lease alone. As long as nobody else uses that
name, its leases are on the claimant's own key only (`Desk.Confined`), and
after the first attempt of the release there is none (`Desk.Unnamed`),
whether it was the attempt that gave it up or somebody before it.

Of the leases of others a visit of the claimant leaves all where they are,
but for one that has run out and that an acquire takes over
(`Desk.Spares`).
-/

namespace FormLease

namespace Desk

/-- Leases in this name are on this key only. -/
def Confined (d : Desk) (id key : String) : Prop :=
  ∀ k lease, d.lease? k = some lease → lease.holder = id → k = key

/-- There is no lease in this name, run out or not. -/
def Unnamed (d : Desk) (id : String) : Prop :=
  ∀ k lease, d.lease? k = some lease → lease.holder ≠ id

/-- A visit takes no lease away that is in another name, and puts one in
this name in its place only if it has run out. -/
def Spares (d : Desk) (id : String) (r : Request) : Prop :=
  ∀ k lease, d.lease? k = some lease → lease.holder ≠ id →
    (d.serve r).1.lease? k = some lease
      ∨ (lease.expiry ≤ d.now ∧ (d.serve r).2 = .claimed true
        ∧ ∃ expiry, (d.serve r).1.lease? k = some ⟨id, expiry⟩)

section Names

variable {d : Desk} {id key : String}

theorem Confined.serve (confined : d.Confined id key) {r : Request}
    (hown : r.visitor? = some id → r.key? = some key) : (d.serve r).1.Confined id key := by
  intro k lease hlease hid
  rcases d.serve_cases r k with ⟨i, kind, rfl, -, -, hslot⟩ | ⟨i, kind, _, rfl, -, -, -, hslot⟩ |
    ⟨-, -, hsame⟩
  · rw [hslot] at hlease
    obtain rfl := Option.some.inj hlease
    exact Option.some.inj (hown (congrArg some hid))
  · rw [hslot] at hlease
    cases hlease
  · exact confined k lease (hsame ▸ hlease) hid

theorem Confined.after (confined : d.Confined id key) {requests : List Request}
    (hown : ∀ r ∈ requests, r.visitor? = some id → r.key? = some key) :
    (d.after requests).Confined id key := by
  induction requests generalizing d with
  | nil => exact confined
  | cons r rest ih =>
      exact ih (confined.serve (hown r List.mem_cons_self)) fun r' hr' =>
        hown r' (List.mem_cons_of_mem r hr')

theorem Unnamed.after (unnamed : d.Unnamed id) {requests : List Request}
    (hothers : ∀ r ∈ requests, r.visitor? ≠ some id) : (d.after requests).Unnamed id := by
  intro k lease hlease hid
  exact unnamed k lease (lease?_of_after (hid ▸ hothers) hlease) hid

/-- A release that is turned down has found no lease in its name. -/
theorem Confined.unnamed_of_not_accepts (confined : d.Confined id key) {kind : LeaseKind}
    (no : ¬ d.Accepts (.release id key kind)) : d.Unnamed id := by
  intro k lease hlease hid
  obtain rfl := confined k lease hlease hid
  exact no (accepts_release_iff.mpr ⟨lease, hlease, hid⟩)

/-- And one that is granted leaves none. -/
theorem Confined.unnamed_of_accepts (confined : d.Confined id key) {kind : LeaseKind}
    (yes : d.Accepts (.release id key kind)) : (d.serve (.release id key kind)).1.Unnamed id := by
  intro k lease hlease hid
  obtain ⟨own, hslot, hown⟩ := accepts_release_iff.mp yes
  rw [serve_release_of_own hslot hown, lease?, LeaseTable.find?_without] at hlease
  split at hlease
  · cases hlease
  · next hk => exact hk (confined k lease hlease hid)

/-- An attempt spares what others have. -/
theorem spares_request (d : Desk) (errand : Errand) (id key : String) (kind : LeaseKind) :
    d.Spares id (errand.request id key kind) := by
  intro k lease hlease hid
  rcases d.serve_cases (errand.request id key kind) k with
    ⟨i, kind', hr, hreply, hfree, hslot⟩ | ⟨i, kind', own, hr, -, hown, hi, -⟩ | ⟨-, -, hsame⟩
  · cases errand with
    | acquire =>
        obtain ⟨rfl, -, -⟩ := Request.claim.inj hr
        exact Or.inr ⟨hfree lease hlease, hreply, _, hslot⟩
    | release => cases hr
  · cases errand with
    | acquire => cases hr
    | release =>
        obtain ⟨rfl, -, -⟩ := Request.release.inj hr
        obtain rfl := Option.some.inj (hown.symm.trans hlease)
        exact absurd hi hid
  · exact Or.inl (hsame.trans hlease)

end Names

end Desk

/-! ## Calls -/

namespace SharedDesk

variable {s : SharedDesk} {id key : String}

theorem confined_meanwhile (hothers : ∀ i ∈ s.ahead, ∀ r ∈ i.requests, r.visitor? ≠ some id)
    (confined : s.desk.Confined id key) (n : Nat) : (s.meanwhile n).Confined id key := by
  induction n with
  | zero => exact confined
  | succ n ih =>
      exact ih.after fun r hr hvisitor => absurd hvisitor (interlude_mem hothers n r hr)

end SharedDesk

namespace Course

variable {r : Desk.Request} {id key : String} {left n : Nat} {s final : SharedDesk} {v : Verdict}

/-- What is ahead after a call was ahead before it. -/
theorem mem_ahead (course : Course r left s n v final) : ∀ i ∈ final.ahead, i ∈ s.ahead := by
  induction course with
  | granted yes => exact fun i hi => hi
  | exhausted no => exact fun i hi => hi
  | interrupted no cut => exact fun i hi => List.mem_of_mem_tail hi
  | again no slept later ih => exact fun i hi => List.mem_of_mem_tail (ih i hi)

theorem confined (course : Course r left s n v final) (hvisitor : r.visitor? = some id)
    (hkey : r.key? = some key)
    (hothers : ∀ i ∈ s.ahead, ∀ r ∈ i.requests, r.visitor? ≠ some id)
    (confined : s.desk.Confined id key) : final.desk.Confined id key := by
  have hcloses := course.closes hvisitor
  have hmeanwhile := SharedDesk.confined_meanwhile hothers confined
  cases v with
  | granted =>
      rw [hcloses.2]
      exact (hmeanwhile n).serve fun _ => hkey
  | exhausted =>
      rw [hcloses.2.2]
      exact hmeanwhile n
  | interrupted text =>
      rw [hcloses.2.2]
      exact hmeanwhile (n + 1)

/-- After a release nothing is in the claimant's name. -/
theorem unnamed {kind : LeaseKind} (course : Course (.release id key kind) left s n v final)
    (hothers : ∀ i ∈ s.ahead, ∀ r ∈ i.requests, r.visitor? ≠ some id)
    (confined : s.desk.Confined id key) : final.desk.Unnamed id := by
  have hcloses := course.closes rfl
  have hmeanwhile := SharedDesk.confined_meanwhile hothers confined n
  cases v with
  | granted =>
      rw [hcloses.2]
      exact hmeanwhile.unnamed_of_accepts hcloses.1
  | exhausted =>
      rw [hcloses.2.2]
      exact hmeanwhile.unnamed_of_not_accepts hcloses.1
  | interrupted text =>
      rw [hcloses.2.2]
      exact (hmeanwhile.unnamed_of_not_accepts hcloses.1).after
        (SharedDesk.interlude_mem hothers n)

end Course

/-! ## Brackets -/

/-- Work during which others come to the desk and time passes. -/
def SharedDesk.working {α : Type} (work : SharedDesk → α × List Desk.Request) (s : SharedDesk) :
    α × SharedDesk :=
  ((work s).1, { s with desk := s.desk.after (work s).2 })

theorem visitor?_request (errand : Errand) (id key : String) (kind : LeaseKind) :
    (errand.request id key kind).visitor? = some id := by
  cases errand <;> rfl

theorem key?_request (errand : Errand) (id key : String) (kind : LeaseKind) :
    (errand.request id key kind).key? = some key := by
  cases errand <;> rfl

section Calls

variable (c : Claimant) (errand : Errand) {s : SharedDesk}

/-- The visits of a call spare what others have. -/
theorem visits_perform (s : SharedDesk) :
    ∃ own, (c.perform errand SharedDesk.surroundings s).surroundings.visits = s.visits ++ own
      ∧ ∀ d r, (d, r) ∈ own → d.Spares c.id r := by
  obtain ⟨n, v, course, -⟩ := course_perform c errand s
  refine ⟨_, course.visits (visitor?_request ..), fun d r hmem => ?_⟩
  obtain ⟨i, -, heq⟩ := List.mem_map.mp hmem
  obtain ⟨rfl, rfl⟩ := Prod.mk.inj heq
  exact Desk.spares_request _ errand c.id c.key.text c.kind

variable (hahead : ∀ i ∈ s.ahead, ∀ r ∈ i.requests, r.visitor? ≠ some c.id)
  (confined : s.desk.Confined c.id c.key.text)

include hahead in
theorem ahead_perform : ∀ i ∈ (c.perform errand SharedDesk.surroundings s).surroundings.ahead,
    ∀ r ∈ i.requests, r.visitor? ≠ some c.id := by
  obtain ⟨n, v, course, -⟩ := course_perform c errand s
  exact fun i hi => hahead i (course.mem_ahead i hi)

include hahead confined

theorem confined_perform : (c.perform errand SharedDesk.surroundings s).surroundings.desk.Confined
    c.id c.key.text := by
  obtain ⟨n, v, course, -⟩ := course_perform c errand s
  exact course.confined (visitor?_request ..) (key?_request ..) hahead confined

theorem unnamed_release :
    (c.perform .release SharedDesk.surroundings s).surroundings.desk.Unnamed c.id := by
  obtain ⟨n, v, course, -⟩ := course_perform c .release s
  exact course.unnamed hahead confined

end Calls

namespace Claimant

/-- The first attempt is granted. -/
theorem perform_acquire_of_accepts (c : Claimant) {s : SharedDesk}
    (yes : s.desk.Accepts (.claim c.id c.key.text c.kind)) :
    c.perform .acquire SharedDesk.surroundings s
      = ⟨{ c with backoff := c.backoff.reset, held := true }, .ok (),
        s.visited (.claim c.id c.key.text c.kind)⟩ := by
  have hfirst : (c.begin .acquire).progress = .asking ⟨.acquire, 1, c.policy.tries - 1⟩ := rfl
  rw [perform, finish_visited (c.begin_follows .acquire) hfirst s, Errand.request,
    show (s.desk.serve _).2.yes = true from yes, Turn.finish_ended rfl, SharedDesk.heard_eq]
  rfl

/-- **A bracket does its work once or not at all, and leaves nothing
behind.** Take any claimant, any surroundings and any work that has no hold
of the claimant. The work is done if and only if the acquire succeeds, then
once, after all attempts to acquire and before all attempts to release. In
that case, whatever the release meets, the outcome is what the work gave,
and the claimant does not hold afterwards. Otherwise the outcome is the
fault of the acquire, nothing is attempted to be released, and the claimant
holds if it did before.

Now let the bracket be at a desk to which others come, before it, in its
backoffs and during its work, but never in the claimant's name, and let all
visits in its name so far have been about its own key. If the acquire
succeeds, then at the end there is no lease in the claimant's name, run out
or not, whatever came about during the work. And no visit of the bracket
takes away a lease in another name; only one that has run out can be
replaced, by a claim that is granted. -/
theorem bracket_account :
    (∀ (σ α : Type) (c : Claimant) (work : σ → α × σ) (w : Surroundings σ) (s : σ),
      BracketAccount c work w s)
    ∧ ∀ (α : Type) (c : Claimant) (s : SharedDesk) (start : Moment) (past : List Desk.Request)
      (work : SharedDesk → α × List Desk.Request),
      s.desk = (Desk.opened start).after past →
      (∀ r ∈ past, r.visitor? = some c.id → r.key? = some c.key.text) →
      (∀ i ∈ s.ahead, ∀ r ∈ i.requests, r.visitor? ≠ some c.id) →
      (∀ s, ∀ r ∈ (work s).2, r.visitor? ≠ some c.id) →
      let done := c.bracket (SharedDesk.working work) SharedDesk.surroundings s
      (∀ output, done.outcome = .ok output → done.surroundings.desk.Unnamed c.id)
        ∧ ∃ own, done.surroundings.visits = s.visits ++ own
          ∧ ∀ d r, (d, r) ∈ own → d.Spares c.id r := by
  refine ⟨fun σ α c work w s => bracketAccount c work w s,
    fun α c s start past work hdesk hpast hahead hwork => ?_⟩
  have confined : s.desk.Confined c.id c.key.text := by
    rw [hdesk]
    exact Desk.Confined.after (fun k lease hlease => by cases hlease) hpast
  obtain ⟨own, hvisits, hown⟩ := visits_perform c .acquire s
  cases houtcome : (c.perform .acquire SharedDesk.surroundings s).outcome with
  | error fault =>
      simp only [bracket_of_error _ houtcome]
      exact ⟨fun output h => (by cases h), own, hvisits, hown⟩
  | ok u =>
      obtain ⟨hid, hkey, -⟩ := (c.begin_follows .acquire).finish SharedDesk.surroundings s
      have confined' := confined_perform c .acquire hahead confined
      have hahead' := ahead_perform c .acquire hahead
      rw [← perform] at hid hkey
      rw [← hid] at hwork hahead' confined' ⊢
      rw [← hkey] at confined'
      obtain ⟨own', hvisits', hown'⟩ :=
        visits_perform (c.perform .acquire SharedDesk.surroundings s).claimant .release
          (SharedDesk.working work (c.perform .acquire SharedDesk.surroundings s).surroundings).2
      simp only [bracket_of_ok _ houtcome]
      refine ⟨fun output _ => ?_, own ++ own', ?_, fun d r hmem => ?_⟩
      · refine unnamed_release _ hahead' (confined'.after fun r hr hvisitor => ?_)
        exact absurd hvisitor (hwork _ r hr)
      · rw [hvisits', ← List.append_assoc, ← hvisits]
        rfl
      · rcases List.mem_append.mp hmem with hacquire | hrelease
        · rw [hid]
          exact hown d r hacquire
        · exact hown' d r hrelease

/-- The key is free only because a lease of `b` has run out. -/
def runOut : List Desk.Request :=
  [.claim "b" "submission|f|00" .modification, .pass (Span.ofSeconds 66)]

/-- The new lease runs out, too, and `b` takes the key back. -/
def takenBack : List Desk.Request :=
  [.pass (Span.ofSeconds 66), .claim "b" "submission|f|00" .modification]

/-- The release finds the lease of `b` and leaves it where it is. -/
theorem bracket_account_takenBack :
    let c := create ⟨"f", 0⟩ "a" "u" fun _ => 0
    let s : SharedDesk := ⟨(Desk.opened 0).after runOut, [], []⟩
    let done := c.bracket (SharedDesk.working fun _ => (7, takenBack)) SharedDesk.surroundings s
    (∀ r ∈ runOut, r.visitor? = some c.id → r.key? = some c.key.text)
    ∧ (∀ r ∈ takenBack, r.visitor? ≠ some c.id)
    ∧ done.outcome = .ok 7
    ∧ done.surroundings.desk.Unnamed c.id
    ∧ done.surroundings.desk.lease? "submission|f|00"
      = some ⟨"b", (Span.ofSeconds 198).nanos⟩ := by
  intro c s done
  have hpast : ∀ r ∈ runOut, r.visitor? = some c.id → r.key? = some c.key.text := by
    decide +kernel
  have hothers : ∀ r ∈ takenBack, r.visitor? ≠ some c.id := by
    decide +kernel
  have hacquired := c.perform_acquire_of_accepts
    (show (s.desk.serve (.claim c.id c.key.text c.kind)).2.yes = true by decide +kernel)
  have hok : (c.perform .acquire SharedDesk.surroundings s).outcome = .ok () := by
    rw [hacquired]
  obtain ⟨hunnamed, -⟩ := bracket_account.2 Nat c s 0 runOut (fun _ => (7, takenBack)) rfl hpast
    (fun i hi => (by cases hi)) fun _ => hothers
  have hdone : done.outcome = .ok 7 := by
    change (c.bracket _ _ s).outcome = _
    rw [bracket_of_ok _ hok]
    rfl
  refine ⟨hpast, hothers, hdone, hunnamed 7 hdone, ?_⟩
  let holder : Claimant := { c with backoff := c.backoff.reset, held := true }
  let later : SharedDesk :=
    (SharedDesk.working (fun _ => (7, takenBack)) (s.visited (.claim c.id c.key.text c.kind))).2
  have hlater : later.desk.lease? holder.key.text = some ⟨"b", (Span.ofSeconds 198).nanos⟩ := by
    decide +kernel
  have hreleased : done.surroundings
      = (holder.perform .release SharedDesk.surroundings later).surroundings := by
    change (c.bracket _ _ s).surroundings = _
    rw [bracket_of_ok _ hok, hacquired]
  have formed : holder.Formed := by
    have formed := (Formed.create ⟨"f", 0⟩ "a" "u" fun _ => 0).perform .acquire
      SharedDesk.surroundings s
    rwa [hacquired] at formed
  have hahead : ∀ i ∈ later.ahead, ∀ r ∈ i.requests, r.visitor? ≠ some holder.id :=
    List.forall_mem_nil _
  obtain ⟨m, released⟩ := SharedDesk.release_effect formed hahead
  have hother : ∀ lease, later.desk.lease? holder.key.text = some lease →
      lease.holder ≠ holder.id := by
    intro lease hlease
    obtain rfl := Option.some.inj (hlater.symm.trans hlease)
    decide
  rw [hreleased]
  rcases (released.other hother).2 with ⟨hlast, hdesk⟩ | ⟨text, hcut, -⟩
  · obtain rfl : m = 3 := Nat.succ.inj hlast
    rw [hdesk]
    decide +kernel
  · cases hcut

end Claimant

end FormLease
