import FormLease.Proofs.Directory
import FormLease.Proofs.Scene.Chronicle

/-!
# Mutual exclusion

A claimant that counts as holding need not hold anything any more: its
lease may have run out and gone to somebody else, and it is not told. So
exclusion is a matter of terms. `Backed` is the part of the invariant that
concerns one claimant: there is a claim behind its holding, and until the
term of that claim is over the lease on its key is the one it got.
`Succeeds` is the part that concerns two: of two that count as holding on
one key, one claimed after the other's term.

Only two moves touch the table. A grant takes a key on which no lease
runs, so whoever else counts as holding there is past its term. A release
removes a lease of its own claimant, which does not count as holding from
the begin of the release on.
-/

namespace FormLease

namespace Chronicle

/-- The term of the leases that claimants ask for. -/
abbrev term : Nat := LeaseKind.modification.term.nanos

example : term = 66 * 1000000000 := by decide

/-- There is a claim behind what the claimant holds, and within its term
the lease is in the table. -/
def Backed (h : Chronicle) (c : Claimant) : Prop :=
  ∃ t, h.lastClaim? c.id = some t ∧ t ≤ h.scene.now
    ∧ (h.scene.now < t + term →
      h.scene.table.slots.find? c.key.text = some ⟨c.id, t + term⟩)

/-- One of the two claimed when the other's term was over. -/
def Succeeds (h : Chronicle) (a b : Claimant) : Prop :=
  ∀ t u, h.lastClaim? a.id = some t → h.lastClaim? b.id = some u →
    t + term ≤ u ∨ u + term ≤ t

theorem Succeeds.symm {h : Chronicle} {a b : Claimant} (hab : h.Succeeds a b) :
    h.Succeeds b a := fun t u ht hu => (hab u t hu ht).symm

structure SeatOK (h : Chronicle) (a : Seat) : Prop where
  entered : ∃ c ∈ h.entered, c.id = a.claimant.id
  kind : a.claimant.kind = .modification
  inside : a.activity = .inside → a.claimant.held = true
  releasing : ∀ call, a.activity.call? = some call → call.errand = .release →
    a.claimant.held = false
  backed : a.claimant.held = true → h.Backed a.claimant

structure Orderly (h : Chronicle) : Prop where
  seat : ∀ n a, h.scene.seats.find? n = some a → h.SeatOK a
  apart : ∀ n m a b, h.scene.seats.find? n = some a → h.scene.seats.find? m = some b →
    a.claimant.id = b.claimant.id → n = m
  succession : ∀ n m a b, n ≠ m → h.scene.seats.find? n = some a →
    h.scene.seats.find? m = some b → a.claimant.held = true → b.claimant.held = true →
    a.claimant.key.text = b.claimant.key.text → h.Succeeds a.claimant b.claimant

theorem orderly_start : start.Orderly where
  seat := fun _ _ h => by cases h
  apart := fun _ _ _ _ h => by cases h
  succession := fun _ _ _ _ _ h => by cases h

/-! ## Changes that keep the invariant -/

section Changes

variable {h h' : Chronicle} {name : String} {new : Seat}

theorem SeatOK.mono {a : Seat} (ok : h.SeatOK a) (hentered : ∀ c ∈ h.entered, c ∈ h'.entered)
    (hbacked : a.claimant.held = true → h.Backed a.claimant → h'.Backed a.claimant) :
    h'.SeatOK a where
  entered := by
    obtain ⟨c, hc, hid⟩ := ok.entered
    exact ⟨c, hentered c hc, hid⟩
  kind := ok.kind
  inside := ok.inside
  releasing := ok.releasing
  backed := fun hheld => hbacked hheld (ok.backed hheld)

/-- How the others fare when one seat changes. -/
structure Bystander (h h' : Chronicle) (new : Claimant) (a : Seat) : Prop where
  ok : h'.SeatOK a
  other : a.claimant.id ≠ new.id
  claim : h'.lastClaim? a.claimant.id = h.lastClaim? a.claimant.id
  succeeds : a.claimant.held = true → new.held = true → a.claimant.key.text = new.key.text →
    h'.Succeeds a.claimant new

theorem Orderly.seated (o : h.Orderly) (hseats : h'.scene.seats = h.scene.seats.put name new)
    (hnew : h'.SeatOK new)
    (hothers : ∀ n a, n ≠ name → h.scene.seats.find? n = some a →
      Bystander h h' new.claimant a) : h'.Orderly := by
  -- a seat is the new one or one of the others
  have hcases : ∀ n a, h'.scene.seats.find? n = some a →
      (n = name ∧ a = new) ∨ (n ≠ name ∧ h.scene.seats.find? n = some a) := by
    intro n a ha
    rw [hseats] at ha
    exact Directory.find?_put_cases ha
  refine ⟨fun n a ha => ?_, fun n m a b ha hb hid => ?_, fun n m a b hnm ha hb hha hhb hkey => ?_⟩
  · rcases hcases n a ha with ⟨-, rfl⟩ | ⟨hn, ha⟩
    · exact hnew
    · exact (hothers n a hn ha).ok
  · rcases hcases n a ha with ⟨rfl, rfl⟩ | ⟨hn, ha⟩ <;>
      rcases hcases m b hb with ⟨rfl, rfl⟩ | ⟨hm, hb⟩
    · rfl
    · exact absurd hid.symm (hothers m b hm hb).other
    · exact absurd hid (hothers n a hn ha).other
    · exact o.apart n m a b ha hb hid
  · rcases hcases n a ha with ⟨rfl, rfl⟩ | ⟨hn, ha⟩ <;>
      rcases hcases m b hb with ⟨rfl, rfl⟩ | ⟨hm, hb⟩
    · exact absurd rfl hnm
    · exact ((hothers m b hm hb).succeeds hhb hha hkey.symm).symm
    · exact (hothers n a hn ha).succeeds hha hhb hkey
    · intro t u ht hu
      rw [(hothers n a hn ha).claim] at ht
      rw [(hothers m b hm hb).claim] at hu
      exact o.succession n m a b hnm ha hb hha hhb hkey t u ht hu

/-- Nothing changed but the seats. -/
structure SameTable (h h' : Chronicle) : Prop where
  now : h'.scene.now = h.scene.now
  table : h'.scene.table = h.scene.table
  entered : ∀ c ∈ h.entered, c ∈ h'.entered
  claim : ∀ id, h'.lastClaim? id = h.lastClaim? id

theorem SameTable.backed (same : SameTable h h') {c : Claimant} (hc : h.Backed c) :
    h'.Backed c := by
  obtain ⟨t, hclaim, hle, hslot⟩ := hc
  refine ⟨t, (same.claim c.id).trans hclaim, ?_, fun hlt => ?_⟩
  · rw [same.now]
    exact hle
  · rw [same.now] at hlt
    rw [same.table]
    exact hslot hlt

theorem SameTable.succeeds (same : SameTable h h') {a b : Claimant} (hab : h.Succeeds a b) :
    h'.Succeeds a b := fun t u ht hu =>
  hab t u ((same.claim a.id).symm.trans ht) ((same.claim b.id).symm.trans hu)

/-- A claimant turns to something else and claims nothing. -/
theorem Orderly.turn (o : h.Orderly) (same : SameTable h h') {c : Claimant} {activity : Activity}
    (hseat : h.scene.seats.find? name = some ⟨c, activity⟩)
    (hseats : h'.scene.seats = h.scene.seats.put name new)
    (hid : new.claimant.id = c.id) (hkey : new.claimant.key = c.key)
    (hkind : new.claimant.kind = c.kind)
    (hheld : new.claimant.held = true → c.held = true)
    (hinside : new.activity ≠ .inside)
    (hreleasing : ∀ call, new.activity.call? = some call → call.errand = .release →
      new.claimant.held = false) : h'.Orderly := by
  have ok := o.seat name _ hseat
  refine o.seated hseats ⟨?_, hkind.trans ok.kind, fun hin => absurd hin hinside, hreleasing, ?_⟩ ?_
  · obtain ⟨e, he, heid⟩ := ok.entered
    exact ⟨e, same.entered e he, heid.trans hid.symm⟩
  · intro hnew
    obtain ⟨t, hclaim, hle, hslot⟩ := same.backed (ok.backed (hheld hnew))
    exact ⟨t, hid ▸ hclaim, hle, fun hlt => by rw [hkey, hid]; exact hslot hlt⟩
  · intro n a hn ha
    refine ⟨(o.seat n a ha).mono same.entered fun _ => same.backed, ?_, same.claim _, ?_⟩
    · intro heq
      exact hn (o.apart n name a _ ha hseat (heq.trans hid))
    · intro hha hnew htext t u ht hu
      rw [hkey] at htext
      rw [hid] at hu
      exact same.succeeds
        (o.succession n name a _ hn ha hseat hha (hheld hnew) htext) t u ht hu

/-- A claimant gets a lease on its key, on which none runs. -/
theorem Orderly.grant (o : h.Orderly) {c : Claimant} {activity : Activity}
    (hseat : h.scene.seats.find? name = some ⟨c, activity⟩)
    (hfree : h.scene.table.Free h.scene.now c.key.text)
    (hnow : h'.scene.now = h.scene.now)
    (htable : h'.scene.table = h.scene.table.granting h.scene.now c.id c.key.text c.kind)
    (hentered : ∀ e ∈ h.entered, e ∈ h'.entered)
    (hclaim : h'.lastClaim? c.id = some h.scene.now)
    (hclaims : ∀ id, id ≠ c.id → h'.lastClaim? id = h.lastClaim? id)
    (hseats : h'.scene.seats = h.scene.seats.put name new)
    (hid : new.claimant.id = c.id) (hkey : new.claimant.key = c.key)
    (hkind : new.claimant.kind = c.kind) (hheld : new.claimant.held = true)
    (hcall : new.activity.call? = none) : h'.Orderly := by
  have ok := o.seat name _ hseat
  have hslot : ∀ k, h'.scene.table.slots.find? k =
      if k = c.key.text then some ⟨c.id, h.scene.now + term⟩
      else h.scene.table.slots.find? k := by
    intro k
    have hckind : c.kind = .modification := ok.kind
    rw [htable, LeaseTable.find?_granting, hckind]
  refine o.seated hseats ⟨?_, hkind.trans ok.kind, fun _ => hheld, ?_, fun _ => ?_⟩ ?_
  · obtain ⟨e, he, heid⟩ := ok.entered
    exact ⟨e, hentered e he, heid.trans hid.symm⟩
  · intro call hnone
    rw [hcall] at hnone
    cases hnone
  · refine ⟨h.scene.now, hid ▸ hclaim, Nat.le_of_eq hnow.symm, fun _ => ?_⟩
    rw [hkey, hid, hslot, if_pos rfl]
  · intro n a hn ha
    have hne : a.claimant.id ≠ c.id := fun heq => hn (o.apart n name a _ ha hseat heq)
    -- whoever else counts as holding on this key is past its term
    have hpast : a.claimant.held = true → a.claimant.key.text = c.key.text →
        ∀ t, h.lastClaim? a.claimant.id = some t → t + term ≤ h.scene.now := by
      intro hha htext t ht
      obtain ⟨u, hu, -, hbacked⟩ := (o.seat n a ha).backed hha
      obtain rfl := Option.some.inj (ht.symm.trans hu)
      refine Nat.le_of_not_lt fun hlt => ?_
      exact LeaseTable.not_free_of_running (htext ▸ hbacked hlt) hlt hfree
    refine ⟨(o.seat n a ha).mono hentered fun hha hback => ?_, hid ▸ hne, hclaims _ hne, ?_⟩
    · obtain ⟨t, ht, hle, hbacked⟩ := hback
      refine ⟨t, (hclaims _ hne).trans ht, hnow ▸ hle, fun hlt => ?_⟩
      rw [hnow] at hlt
      rw [hslot]
      by_cases htext : a.claimant.key.text = c.key.text
      · exact absurd (hpast hha htext t ht) (Nat.not_le_of_lt hlt)
      · rw [if_neg htext]
        exact hbacked hlt
    · intro hha _ htext t u ht hu
      rw [hclaims _ hne] at ht
      rw [hid, hclaim] at hu
      obtain rfl := Option.some.inj hu
      exact Or.inl (hpast hha (hkey ▸ htext) t ht)

/-- A claimant that does not count as holding gives a lease back. -/
theorem Orderly.giveBack (o : h.Orderly) {c : Claimant} {activity : Activity} {lease : Lease}
    (hseat : h.scene.seats.find? name = some ⟨c, activity⟩)
    (hown : h.scene.table.slots.find? c.key.text = some lease) (hholder : lease.holder = c.id)
    (hnow : h'.scene.now = h.scene.now)
    (htable : h'.scene.table = h.scene.table.without c.key.text)
    (hentered : ∀ e ∈ h.entered, e ∈ h'.entered)
    (hclaims : ∀ id, h'.lastClaim? id = h.lastClaim? id)
    (hseats : h'.scene.seats = h.scene.seats.put name new)
    (hid : new.claimant.id = c.id) (hkind : new.claimant.kind = c.kind)
    (hheld : new.claimant.held = false) (hinside : new.activity ≠ .inside) : h'.Orderly := by
  have ok := o.seat name _ hseat
  have hno : ¬ new.claimant.held = true := fun htrue => by rw [hheld] at htrue; cases htrue
  refine o.seated hseats ⟨?_, hkind.trans ok.kind, fun hin => absurd hin hinside, fun _ _ _ => hheld,
    fun htrue => absurd htrue hno⟩ ?_
  · obtain ⟨e, he, heid⟩ := ok.entered
    exact ⟨e, hentered e he, heid.trans hid.symm⟩
  · intro n a hn ha
    have hne : a.claimant.id ≠ c.id := fun heq => hn (o.apart n name a _ ha hseat heq)
    refine ⟨(o.seat n a ha).mono hentered fun _ hback => ?_, hid ▸ hne, hclaims _,
      fun _ htrue => absurd htrue hno⟩
    obtain ⟨t, ht, hle, hbacked⟩ := hback
    refine ⟨t, (hclaims _).trans ht, hnow ▸ hle, fun hlt => ?_⟩
    rw [hnow] at hlt
    rw [htable, LeaseTable.find?_without]
    by_cases htext : a.claimant.key.text = c.key.text
    · -- the lease that goes would be another's
      have heq := Option.some.inj ((htext ▸ hbacked hlt).symm.trans hown)
      exact absurd ((congrArg Lease.holder heq).trans hholder) hne
    · rw [if_neg htext]
      exact hbacked hlt

/-! ## The invariant in every move -/

theorem sameTable_extend {m : Move} {s : Scene} {seen : List Happening}
    (hnow : s.now = h.scene.now) (htable : s.table = h.scene.table)
    (hno : ∀ id, ¬ Claims seen id) : SameTable h (h.extend m s seen) where
  now := hnow
  table := htable
  entered := fun _ he => List.mem_append_right _ he
  claim := fun id => lastClaim?_extend_of_not (hno id)

/-- A turn in which a claimant gets nothing. -/
theorem Orderly.settle (o : h.Orderly) {m : Move} {c : Claimant} {activity : Activity}
    {errand : Errand} {bracket : Bool} {t : Turn} {seen : List Happening}
    (hseat : h.scene.seats.find? name = some ⟨c, activity⟩) (follows : t.Follows c errand)
    (hheld : t.claimant.held = true → c.held = true)
    (hinside : errand = .acquire → t.progress ≠ .ended (.ok ()))
    (hreleasing : errand = .release → t.claimant.held = false)
    (hno : ∀ id, ¬ Claims seen id) :
    (h.extend m (h.scene.settle name errand bracket t).1 seen).Orderly := by
  refine o.turn (sameTable_extend rfl rfl hno) hseat rfl follows.id follows.key follows.kind
    hheld ?_ ?_
  · intro hin
    obtain ⟨hacquire, hended⟩ := Scene.activityAfter_eq_inside hin
    exact hinside hacquire hended
  · intro call hcall hrelease
    rw [Scene.call?_activityAfter] at hcall
    exact hreleasing ((follows.errand call hcall).symm.trans hrelease)

theorem Orderly.begins (o : h.Orderly) {m : Move} {c : Claimant} {activity : Activity}
    {errand : Errand} {bracket : Bool}
    (hseat : h.scene.seats.find? name = some ⟨c, activity⟩) :
    (h.extend m (h.scene.settle name errand bracket (c.begin errand)).1
      (h.scene.settle name errand bracket (c.begin errand)).2).Orderly := by
  refine o.settle hseat (c.begin_follows errand) ?_ (fun _ hended => by cases hended) ?_
    (not_claims_settle _ _ _ _ _)
  · cases errand with
    | acquire => exact id
    | release => intro hheld; cases hheld
  · rintro rfl
    exact c.held_begin_release

/-- The table, or whoever answers in its place, answers an attempt. -/
theorem Orderly.answered (o : h.Orderly) {c : Claimant} {call : Call} {bracket : Bool}
    {scripted : Scripted} {s : Scene} {seen : List Happening} {answer : Except LeaseFault Bool}
    (harmless : Harmless scripted)
    (hseat : h.scene.seats.find? name = some ⟨c, .asking call bracket⟩)
    (consulted : h.scene.Consulted c.id c.key.text c.kind call.errand scripted s seen answer) :
    (h.extend (.answer name scripted)
      (s.settle name call.errand bracket (c.answered call answer)).1
      (seen ++ (s.settle name call.errand bracket (c.answered call answer)).2)).Orderly := by
  have follows := c.answered_follows call answer
  have hreleasing : call.errand = .release → (c.answered call answer).claimant.held = false :=
    fun hrelease => (c.held_answered_release hrelease answer).trans
      ((o.seat name _ hseat).releasing call rfl hrelease)
  -- what is claimed in this move is what the visit shows
  have hclaims : ∀ id, Claims
      (seen ++ (s.settle name call.errand bracket (c.answered call answer)).2) id ↔
      call.errand = .acquire ∧ c.id = id ∧ answer = .ok true := by
    intro id
    rw [claims_append, ← claims_consulted consulted id]
    exact ⟨fun hc => hc.resolve_right (not_claims_settle _ _ _ _ _ id), Or.inl⟩
  have hturnedDown : answer ≠ .ok true → s = h.scene → (h.extend (.answer name scripted)
      (s.settle name call.errand bracket (c.answered call answer)).1
      (seen ++ (s.settle name call.errand bracket (c.answered call answer)).2)).Orderly := by
    rintro hno rfl
    refine o.settle hseat follows ?_ ?_ hreleasing fun id hc => hno ((hclaims id).mp hc).2.2
    · rw [c.held_answered_of_ne hno]
      exact id
    · exact fun hacquire hended => hno (Claimant.answered_of_ended_ok hacquire hended)
  obtain ⟨errand, attempt, left⟩ := call
  cases consulted with
  | scripted _ answer =>
      refine hturnedDown ?_ rfl
      rintro rfl
      exact harmless
  | busy running => exact hturnedDown (fun heq => by cases heq) rfl
  | rejected other => exact hturnedDown (fun heq => by cases heq) rfl
  | granted previous free =>
      refine o.grant hseat free rfl rfl (fun _ he => List.mem_append_right _ he) ?_ ?_ rfl
        follows.id follows.key follows.kind (Claimant.held_answered_acquire rfl c) ?_
      · exact lastClaim?_extend_of_claims ((hclaims c.id).mpr ⟨rfl, rfl, rfl⟩)
      · exact fun id hid => lastClaim?_extend_of_not fun hc => hid ((hclaims id).mp hc).2.1.symm
      · exact Scene.call?_activityAfter .acquire bracket (.ended (.ok ()))
  | released own holder =>
      refine o.giveBack hseat own holder rfl rfl (fun _ he => List.mem_append_right _ he) ?_ rfl
        follows.id follows.kind (hreleasing rfl) ?_
      · exact fun id => lastClaim?_extend_of_not fun hc => by cases ((hclaims id).mp hc).1
      · intro hin
        have hidle : Scene.activityAfter .release bracket (.ended (.ok ())) = .inside := hin
        cases (Scene.activityAfter_eq_inside hidle).1

theorem Orderly.enters (o : h.Orderly) {c : Claimant} (fresh : c.Fresh)
    (hid : ∀ e ∈ h.entered, e.id ≠ c.id) :
    (h.extend (.enter name c) { h.scene with seats := h.scene.seats.put name ⟨c, .idle⟩ }
      []).Orderly := by
  have same : SameTable h (h.extend (.enter name c)
      { h.scene with seats := h.scene.seats.put name ⟨c, .idle⟩ } []) :=
    sameTable_extend rfl rfl not_claims_nil
  have hno : ¬ c.held = true := fun htrue => by rw [fresh.1] at htrue; cases htrue
  refine o.seated rfl ⟨⟨c, List.mem_cons_self, rfl⟩, fresh.2, fun hin => (by cases hin),
    fun _ hcall => (by cases hcall), fun htrue => absurd htrue hno⟩ ?_
  intro n a _ ha
  have ok := o.seat n a ha
  refine ⟨ok.mono same.entered fun _ => same.backed, ?_, same.claim _,
    fun _ htrue => absurd htrue hno⟩
  obtain ⟨e, he, heid⟩ := ok.entered
  exact heid ▸ hid e he

theorem Orderly.leaves (o : h.Orderly) {m : Move} {events : List Event} {c : Claimant} :
    (h.extend m { h.scene with seats := h.scene.seats.remove name }
      (events.map (.told c))).Orderly := by
  have same : SameTable h (h.extend m { h.scene with seats := h.scene.seats.remove name }
      (events.map (.told c))) := sameTable_extend rfl rfl (not_claims_told c events)
  have hstays : ∀ n a, (h.scene.seats.remove name).find? n = some a →
      h.scene.seats.find? n = some a := fun n a => Directory.find?_of_find?_remove
  refine ⟨fun n a ha => ?_, fun n k a b ha hb => ?_, fun n k a b hnk ha hb hha hhb htext => ?_⟩
  · exact (o.seat n a (hstays n a ha)).mono same.entered fun _ => same.backed
  · exact o.apart n k a b (hstays n a ha) (hstays k b hb)
  · exact same.succeeds
      (o.succession n k a b hnk (hstays n a ha) (hstays k b hb) hha hhb htext)

/-- Time passes: terms may end, and nothing else happens. -/
theorem Orderly.advances (o : h.Orderly) (passed : Span) :
    (h.extend (.advance passed) { h.scene with now := h.scene.now + passed.nanos }
      []).Orderly := by
  have hclaim : ∀ id, (h.extend (.advance passed)
      { h.scene with now := h.scene.now + passed.nanos } []).lastClaim? id = h.lastClaim? id :=
    fun id => lastClaim?_extend_of_not (not_claims_nil id)
  refine ⟨fun n a ha => ?_, o.apart, fun n k a b hnk ha hb hha hhb htext t u ht hu => ?_⟩
  · refine (o.seat n a ha).mono (fun _ he => he) fun _ hback => ?_
    obtain ⟨t, ht, hle, hslot⟩ := hback
    refine ⟨t, (hclaim _).trans ht, Nat.le_trans hle (Nat.le_add_right ..), fun hlt => ?_⟩
    have hearlier : h.scene.now < t + term := Nat.lt_of_le_of_lt (Nat.le_add_right ..) hlt
    exact hslot hearlier
  · rw [hclaim] at ht hu
    exact o.succession n k a b hnk ha hb hha hhb htext t u ht hu

theorem orderly_extend (o : h.Orderly) {m : Move} {s : Scene} {seen : List Happening}
    (allowed : h.Allows Harmless m) (step : h.scene.Step m s seen) :
    (h.extend m s seen).Orderly := by
  cases step with
  | enter name c => exact o.enters allowed.1 allowed.2
  | start errand seat => exact o.begins seat
  | bracket seat => exact o.begins seat
  | answer seat consulted => exact o.answered allowed seat consulted
  | @wake name c call delay bracket result seat =>
      refine o.settle seat (c.woken_follows call result) ?_ ?_ ?_ (not_claims_settle _ _ _ _ _)
      · rw [c.held_woken]
        exact id
      · intro hacquire hended
        rw [Claimant.woken_of_ended_ok hended] at hacquire
        cases hacquire
      · exact fun hrelease => (c.held_woken call result).trans
          ((o.seat name _ seat).releasing call rfl hrelease)
  | conclude seat => exact o.begins seat
  | adopt policy draws seat =>
      exact o.turn (sameTable_extend rfl rfl not_claims_nil) seat rfl rfl rfl rfl id
        (fun hin => by cases hin) (fun _ hcall => by cases hcall)
  | leave seat => exact o.leaves
  | advance passed => exact o.advances passed
  | visit consulted => exact allowed.elim

theorem orderly_of_reached (run : h.Reached Harmless) : h.Orderly := by
  induction run with
  | start => exact orderly_start
  | move before allowed moved ih => exact orderly_extend ih allowed (Scene.step_of_apply moved)

end Changes

/-! ## What it is good for -/

/-- The claimant counts as holding, and the term of its last claim is not
over. -/
def Holding (h : Chronicle) (c : Claimant) : Prop :=
  c.held = true ∧ ∃ t, h.lastClaim? c.id = some t ∧ h.scene.now < t + term

/-- **Mutual exclusion.** Whatever claimants with ids of their own do, in
whatever order, and whichever answers are refusals or faults in the
table's place:

whoever counts as holding has claimed, and until the term of its last
claim is over its key has its lease, with the expiry it got;

hence at most one claimant holds within its term on any key;

and two do the protected work of their brackets on one key at a time only
if one of them claimed after the other's term. -/
theorem mutual_exclusion {h : Chronicle} (run : h.Reached Harmless) :
    (∀ n a, h.scene.seats.find? n = some a → a.claimant.held = true →
      ∃ t, h.lastClaim? a.claimant.id = some t ∧ t ≤ h.scene.now
        ∧ (h.scene.now < t + term → h.scene.table.slots.find? a.claimant.key.text
          = some ⟨a.claimant.id, t + term⟩))
    ∧ (∀ n m a b, h.scene.seats.find? n = some a → h.scene.seats.find? m = some b →
      h.Holding a.claimant → h.Holding b.claimant →
      a.claimant.key.text = b.claimant.key.text → n = m)
    ∧ (∀ n m a b, n ≠ m → h.scene.seats.find? n = some a → h.scene.seats.find? m = some b →
      a.activity = .inside → b.activity = .inside →
      a.claimant.key.text = b.claimant.key.text →
      ∃ t u, h.lastClaim? a.claimant.id = some t ∧ h.lastClaim? b.claimant.id = some u
        ∧ (t + term ≤ u ∨ u + term ≤ t)) := by
  have o := orderly_of_reached run
  refine ⟨fun n a ha hheld => (o.seat n a ha).backed hheld, ?_, ?_⟩
  · rintro n m a b ha hb ⟨hha, t, ht, htnow⟩ ⟨hhb, u, hu, hunow⟩ htext
    obtain ⟨t', ht', -, hslota⟩ := (o.seat n a ha).backed hha
    obtain ⟨u', hu', -, hslotb⟩ := (o.seat m b hb).backed hhb
    obtain rfl := Option.some.inj (ht.symm.trans ht')
    obtain rfl := Option.some.inj (hu.symm.trans hu')
    -- both find their own lease in the same slot
    have hsame := (hslota htnow).symm.trans ((congrArg _ htext).trans (hslotb hunow))
    have hid : a.claimant.id = b.claimant.id := congrArg Lease.holder (Option.some.inj hsame)
    exact o.apart n m a b ha hb hid
  · intro n m a b hnm ha hb hina hinb htext
    have hha := (o.seat n a ha).inside hina
    have hhb := (o.seat m b hb).inside hinb
    obtain ⟨t, ht, -, -⟩ := (o.seat n a ha).backed hha
    obtain ⟨u, hu, -, -⟩ := (o.seat m b hb).backed hhb
    exact ⟨t, u, ht, hu, o.succession n m a b hnm ha hb hha hhb htext t u ht hu⟩

/-- Two claimants of one key, of which the second enters its bracket when
the first, still inside its own, is past its term. -/
def overlap : Chronicle :=
  let a := Claimant.create ⟨"f", 0⟩ "a" "u" fun _ => 0
  let b := Claimant.create ⟨"f", 0⟩ "b" "u" fun _ => 0
  start.after (.enter "x" a) |>.after (.bracket "x") |>.after (.answer "x" none)
    |>.after (.enter "y" b) |>.after (.advance (Span.ofSeconds 66))
    |>.after (.bracket "y") |>.after (.answer "y" none)

/-- The two are inside at once, and the one claimed when the other's term
was over. -/
theorem mutual_exclusion_overlap :
    overlap.Reached Harmless
    ∧ (∃ a b, overlap.scene.seats.find? "x" = some a ∧ overlap.scene.seats.find? "y" = some b
      ∧ a.activity = .inside ∧ b.activity = .inside
      ∧ ∃ t u, overlap.lastClaim? a.claimant.id = some t
        ∧ overlap.lastClaim? b.claimant.id = some u ∧ (t + term ≤ u ∨ u + term ≤ t)) := by
  have run : overlap.Reached Harmless := by
    have other : ∀ e ∈ [Claimant.create ⟨"f", 0⟩ "a" "u" fun _ => 0], e.id ≠ "b" := by
      intro e he
      rw [List.mem_singleton.mp he]
      decide
    unfold overlap
    refine ((((((Reached.start.after ?_).after ?_).after ?_).after ?_).after ?_).after ?_).after ?_
    · exact ⟨Claimant.fresh_create .., fun e he => by cases he⟩
    · trivial
    · trivial
    · exact ⟨Claimant.fresh_create .., other⟩
    all_goals trivial
  refine ⟨run, _, _, rfl, rfl, rfl, rfl, ?_⟩
  exact (mutual_exclusion run).2.2 "x" "y" _ _ (by decide) rfl rfl rfl rfl rfl

end Chronicle

end FormLease
