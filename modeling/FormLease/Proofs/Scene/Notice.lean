import FormLease.Proofs.Scene.Exclusion

/-!
# No lease is forgotten

A lease that nobody gives back keeps others out until it runs out, and its
slot stays taken until somebody comes for the key. So a claimant must not
forget a lease that it has. In a scene where the table answers for itself,
whenever there is a lease in the name of a claimant, run out or not, the
claimant counts as holding, and when it leaves, it says so.

There is one moment at which this is not so. A release stops counting as
holding when it begins, and only then goes to the table (`Releasing`). If
it has to wait after that, it was turned down: its key has no lease in its
name, and neither has any other, since claimants claim their own key only.
Nobody else can put one there while it waits. So a release that is cut
short leaves nothing behind. That is the invariant `Noticed`: for each
claimant, where leases in its name can be and what it knows of them.
-/

namespace FormLease

/-- A release has begun and has not been at the table yet. -/
def Activity.Releasing (a : Activity) : Prop :=
  ∃ call bracket, a = .asking call bracket ∧ call.errand = .release ∧ call.attempt = 1

theorem Activity.not_releasing_of_call? {a : Activity} (h : a.call? = none) : ¬ a.Releasing := by
  rintro ⟨call, bracket, rfl, -⟩
  cases h

theorem Activity.not_releasing_sleeping (call : Call) (delay : Span) (bracket : Bool) :
    ¬ (Activity.sleeping call delay bracket).Releasing := by
  rintro ⟨_, _, heq, -⟩
  cases heq

namespace Chronicle

/-- The key has a lease in the name of `id`, run out or not. -/
def Names (h : Chronicle) (key id : String) : Prop :=
  ∃ lease, h.scene.table.slots.find? key = some lease ∧ lease.holder = id

structure Noticed (h : Chronicle) : Prop where
  entered : ∀ key id, h.Names key id → ∃ c ∈ h.entered, c.id = id
  seat : ∀ n a key, h.scene.seats.find? n = some a → h.Names key a.claimant.id →
    key = a.claimant.key.text ∧ (a.claimant.held = true ∨ a.activity.Releasing)

theorem noticed_start : start.Noticed where
  entered := by
    rintro key id ⟨lease, hslot, -⟩
    cases hslot
  seat := fun _ _ _ h => by cases h

theorem Reached.mono {answers answers' : Scripted → Prop} {h : Chronicle}
    (himp : ∀ scripted, answers scripted → answers' scripted) (run : h.Reached answers) :
    h.Reached answers' := by
  induction run with
  | start => exact .start
  | @move h m s seen before allowed moved ih =>
      refine ih.move ?_ moved
      cases m with
      | answer name scripted => exact himp scripted allowed
      | _ => exact allowed

section Changes

variable {h h' : Chronicle} {name : String} {new : Seat}

/-- One seat changes, and with it at most the leases in the name of the one
who has it. -/
theorem Noticed.seated (o : h.Noticed) (hseats : h'.scene.seats = h.scene.seats.put name new)
    (hentered : ∀ c ∈ h.entered, c ∈ h'.entered)
    (hown : ∃ c ∈ h'.entered, c.id = new.claimant.id)
    (hothers : ∀ key id, id ≠ new.claimant.id → h'.Names key id → h.Names key id)
    (hapart : ∀ n a, n ≠ name → h.scene.seats.find? n = some a →
      a.claimant.id ≠ new.claimant.id)
    (hnew : ∀ key, h'.Names key new.claimant.id →
      key = new.claimant.key.text ∧ (new.claimant.held = true ∨ new.activity.Releasing)) :
    h'.Noticed where
  entered := by
    intro key id hnames
    by_cases hid : id = new.claimant.id
    · rw [hid]
      exact hown
    · obtain ⟨c, hc, heq⟩ := o.entered key id (hothers key id hid hnames)
      exact ⟨c, hentered c hc, heq⟩
  seat := by
    intro n a key ha hnames
    rw [hseats] at ha
    rcases Directory.find?_put_cases ha with ⟨-, rfl⟩ | ⟨hn, ha⟩
    · exact hnew key hnames
    · exact o.seat n a key ha (hothers key _ (hapart n a hn ha) hnames)

/-- A claimant turns to something else, and the leases in its name are
among those it had. -/
theorem Noticed.turn (o : h.Noticed) (ord : h.Orderly) {c : Claimant} {activity : Activity}
    (hseat : h.scene.seats.find? name = some ⟨c, activity⟩)
    (hseats : h'.scene.seats = h.scene.seats.put name new)
    (hentered : ∀ c ∈ h.entered, c ∈ h'.entered)
    (hid : new.claimant.id = c.id) (hkey : new.claimant.key = c.key)
    (hnames : ∀ key id, h'.Names key id → h.Names key id)
    (hkeep : h'.Names c.key.text c.id →
      new.claimant.held = true ∨ new.activity.Releasing) : h'.Noticed := by
  refine o.seated hseats hentered ?_ (fun key id _ => hnames key id) ?_ ?_
  · obtain ⟨e, he, heq⟩ := (ord.seat name _ hseat).entered
    exact ⟨e, hentered e he, heq.trans hid.symm⟩
  · intro n a hn ha heq
    exact hn (ord.apart n name a _ ha hseat (heq.trans hid))
  · intro key hnew
    rw [hid] at hnew
    obtain ⟨rfl, -⟩ := o.seat name _ key hseat (hnames key _ hnew)
    exact ⟨by rw [hkey], hkeep hnew⟩

theorem Noticed.settle (o : h.Noticed) (ord : h.Orderly) {m : Move} {c : Claimant}
    {activity : Activity} {errand : Errand} {bracket : Bool} {t : Turn} {seen : List Happening}
    (hseat : h.scene.seats.find? name = some ⟨c, activity⟩) (follows : t.Follows c errand)
    (hkeep : h.Names c.key.text c.id → t.claimant.held = true
      ∨ (Scene.activityAfter errand bracket t.progress).Releasing) :
    (h.extend m (h.scene.settle name errand bracket t).1 seen).Noticed :=
  o.turn ord hseat rfl (fun _ he => List.mem_append_right _ he) follows.id follows.key
    (fun _ _ hnames => hnames) hkeep

/-- What the claimant of a seat knows of a lease in its name, unless it is
about to give it back. -/
theorem Noticed.held (o : h.Noticed) {c : Claimant} {activity : Activity} {key : String}
    (hseat : h.scene.seats.find? name = some ⟨c, activity⟩) (hnames : h.Names key c.id)
    (hnot : ¬ activity.Releasing) : c.held = true :=
  (o.seat name _ key hseat hnames).2.resolve_right hnot

theorem Noticed.begins (o : h.Noticed) (ord : h.Orderly) {m : Move} {c : Claimant}
    {activity : Activity} {errand : Errand} {bracket : Bool} {seen : List Happening}
    (hseat : h.scene.seats.find? name = some ⟨c, activity⟩) (hnot : ¬ activity.Releasing) :
    (h.extend m (h.scene.settle name errand bracket (c.begin errand)).1 seen).Noticed := by
  refine o.settle ord hseat (c.begin_follows errand) fun hnames => ?_
  cases errand with
  | acquire =>
      have hheld : c.held = true := o.held hseat hnames hnot
      exact Or.inl hheld
  | release => exact Or.inr ⟨_, bracket, rfl, rfl, rfl⟩

/-! ## At the table -/

theorem names_granting {id key : String} {kind : LeaseKind} {now : Moment}
    (htable : h'.scene.table = h.scene.table.granting now id key kind) {k i : String}
    (hnames : h'.Names k i) : (k = key ∧ i = id) ∨ (k ≠ key ∧ h.Names k i) := by
  obtain ⟨lease, hslot, hholder⟩ := hnames
  rw [htable, LeaseTable.find?_granting] at hslot
  by_cases hk : k = key
  · rw [if_pos hk] at hslot
    obtain rfl := Option.some.inj hslot
    exact Or.inl ⟨hk, hholder.symm⟩
  · rw [if_neg hk] at hslot
    exact Or.inr ⟨hk, lease, hslot, hholder⟩

theorem names_without {key : String} (htable : h'.scene.table = h.scene.table.without key)
    {k i : String} (hnames : h'.Names k i) : k ≠ key ∧ h.Names k i := by
  obtain ⟨lease, hslot, hholder⟩ := hnames
  rw [htable, LeaseTable.find?_without] at hslot
  by_cases hk : k = key
  · rw [if_pos hk] at hslot
    cases hslot
  · rw [if_neg hk] at hslot
    exact ⟨hk, lease, hslot, hholder⟩

/-- A claimant gets a lease, and now it holds. -/
theorem Noticed.grant (o : h.Noticed) (ord : h.Orderly) {c : Claimant} {activity : Activity}
    (hseat : h.scene.seats.find? name = some ⟨c, activity⟩)
    (htable : h'.scene.table = h.scene.table.granting h.scene.now c.id c.key.text c.kind)
    (hentered : ∀ e ∈ h.entered, e ∈ h'.entered)
    (hseats : h'.scene.seats = h.scene.seats.put name new)
    (hid : new.claimant.id = c.id) (hkey : new.claimant.key = c.key)
    (hheld : new.claimant.held = true) : h'.Noticed := by
  refine o.seated hseats hentered ?_ ?_ ?_ ?_
  · obtain ⟨e, he, heq⟩ := (ord.seat name _ hseat).entered
    exact ⟨e, hentered e he, heq.trans hid.symm⟩
  · intro key id hother hnames
    rcases names_granting htable hnames with ⟨-, heq⟩ | ⟨-, hnames⟩
    · exact absurd (heq.trans hid.symm) hother
    · exact hnames
  · intro n a hn ha heq
    exact hn (ord.apart n name a _ ha hseat (heq.trans hid))
  · intro key hnames
    refine ⟨?_, Or.inl hheld⟩
    rcases names_granting htable hnames with ⟨heq, -⟩ | ⟨-, hnames⟩
    · rw [heq, hkey]
    · rw [hid] at hnames
      obtain ⟨heq, -⟩ := o.seat name _ key hseat hnames
      rw [heq, hkey]

/-- The table answers an attempt. -/
theorem Noticed.answered (o : h.Noticed) (ord : h.Orderly) {c : Claimant} {call : Call}
    {bracket : Bool} {s : Scene} {seen later : List Happening} {answer : Except LeaseFault Bool}
    (hseat : h.scene.seats.find? name = some ⟨c, .asking call bracket⟩)
    (consulted : h.scene.Consulted c.id c.key.text c.kind call.errand none s seen answer) :
    (h.extend (.answer name none)
      (s.settle name call.errand bracket (c.answered call answer)).1 later).Noticed := by
  have follows := c.answered_follows call answer
  have hentered : ∀ e ∈ h.entered, e ∈ entrants (.answer name none) ++ h.entered :=
    fun _ he => List.mem_append_right _ he
  obtain ⟨errand, attempt, left⟩ := call
  cases consulted with
  | granted previous free =>
      exact o.grant ord hseat rfl hentered rfl follows.id follows.key
        (Claimant.held_answered_acquire rfl c)
  | busy running =>
      refine o.settle ord hseat follows fun hnames => Or.inl ?_
      have hheld : c.held = true := by
        refine o.held hseat hnames ?_
        rintro ⟨call, b, heq, herrand, -⟩
        obtain ⟨rfl, -⟩ := Activity.asking.inj heq
        cases herrand
      rw [c.held_answered_of_ne (by simp), hheld]
  | released own holder =>
      refine o.turn ord hseat rfl hentered follows.id follows.key ?_ ?_
      · intro key id hnames
        exact (names_without rfl hnames).2
      · intro hnames
        exact absurd rfl (names_without rfl hnames).1
  | rejected other =>
      refine o.settle ord hseat follows ?_
      rintro ⟨lease, hslot, hholder⟩
      exact absurd hholder (other lease hslot)

/-! ## The invariant in every move -/

theorem Noticed.enters (o : h.Noticed) (ord : h.Orderly) {c : Claimant}
    (hid : ∀ e ∈ h.entered, e.id ≠ c.id) :
    (h.extend (.enter name c) { h.scene with seats := h.scene.seats.put name ⟨c, .idle⟩ }
      []).Noticed := by
  refine o.seated rfl (fun _ he => List.mem_append_right _ he) ⟨c, List.mem_cons_self, rfl⟩
    (fun _ _ _ hnames => hnames) ?_ ?_
  · intro n a _ ha
    obtain ⟨e, he, heq⟩ := (ord.seat n a ha).entered
    exact heq ▸ hid e he
  · intro key hnames
    -- nobody has had this id before
    obtain ⟨e, he, heq⟩ := o.entered key c.id hnames
    exact absurd heq (hid e he)

theorem Noticed.leaves (o : h.Noticed) {m : Move} {seen : List Happening} :
    (h.extend m { h.scene with seats := h.scene.seats.remove name } seen).Noticed where
  entered := by
    intro key id hnames
    obtain ⟨c, hc, heq⟩ := o.entered key id hnames
    exact ⟨c, List.mem_append_right _ hc, heq⟩
  seat := by
    intro n a key ha hnames
    exact o.seat n a key (Directory.find?_of_find?_remove ha) hnames

theorem noticed_extend (o : h.Noticed) (ord : h.Orderly) {m : Move} {s : Scene}
    {seen : List Happening} (allowed : h.Allows (· = none) m) (step : h.scene.Step m s seen) :
    (h.extend m s seen).Noticed := by
  cases step with
  | enter name c => exact o.enters ord allowed.2
  | start errand seat => exact o.begins ord seat (Activity.not_releasing_of_call? rfl)
  | bracket seat => exact o.begins ord seat (Activity.not_releasing_of_call? rfl)
  | @answer name c call bracket scripted s' seen answer seat consulted =>
      have hnone : scripted = none := allowed
      subst hnone
      exact o.answered ord seat consulted
  | @wake name c call delay bracket result seat =>
      refine o.settle ord seat (c.woken_follows call result) fun hnames => Or.inl ?_
      have hheld : c.held = true :=
        o.held seat hnames (Activity.not_releasing_sleeping call delay bracket)
      rw [c.held_woken, hheld]
  | conclude seat => exact o.begins ord seat (Activity.not_releasing_of_call? rfl)
  | @adopt name c policy draws seat =>
      refine o.turn ord seat rfl (fun _ he => he) rfl rfl (fun _ _ hnames => hnames) ?_
      intro hnames
      have hheld : c.held = true :=
        o.held seat hnames (Activity.not_releasing_of_call? rfl)
      exact Or.inl hheld
  | leave seat => exact o.leaves
  | advance passed => exact ⟨o.entered, o.seat⟩
  | visit consulted => exact allowed.elim

theorem orderly_of_unscripted (run : h.Reached (· = none)) : h.Orderly :=
  orderly_of_reached (run.mono fun scripted hnone => by subst hnone; trivial)

theorem noticed_of_reached (run : h.Reached (· = none)) : h.Noticed := by
  induction run with
  | start => exact noticed_start
  | move before allowed moved ih =>
      exact noticed_extend ih (orderly_of_unscripted before) allowed (Scene.step_of_apply moved)

end Changes

/-! ## The end of a release -/

theorem ended_mem_settle {s : Scene} {name n : String} {errand : Errand} {bracket : Bool}
    {t : Turn} {outcome : Except LeaseFault Unit}
    (hended : .ended n outcome ∈ (s.settle name errand bracket t).2) :
    name = n ∧ t.progress = .ended outcome := by
  simp only [Scene.settle, List.mem_append, List.mem_map] at hended
  rcases hended with ⟨event, -, heq⟩ | hended
  · cases heq
  · unfold Scene.ending at hended
    split at hended
    · next o hprogress =>
        obtain ⟨rfl, rfl⟩ := Happening.ended.inj (List.mem_singleton.mp hended)
        exact ⟨rfl, hprogress⟩
    · cases hended

theorem ended_not_mem_consulted {s s' : Scene} {id key n : String} {kind : LeaseKind}
    {errand : Errand} {scripted : Scripted} {seen : List Happening}
    {answer : Except LeaseFault Bool} {outcome : Except LeaseFault Unit}
    (consulted : s.Consulted id key kind errand scripted s' seen answer) :
    .ended n outcome ∉ seen := by
  intro hended
  cases consulted with
  | granted previous free =>
      cases previous <;> simp [Scene.takeover] at hended
  | _ => cases List.mem_singleton.mp hended

/-- A claimant whose call is over and that does not count as holding has no
lease left. -/
theorem Noticed.unnamed {h : Chronicle} (o : h.Noticed) {name : String} {a : Seat}
    (hseat : h.scene.seats.find? name = some a) (hcall : a.activity.call? = none)
    (hheld : a.claimant.held = false) (key : String) : ¬ h.Names key a.claimant.id := by
  intro hnames
  rcases (o.seat name a key hseat hnames).2 with htrue | hreleasing
  · rw [hheld] at htrue
    cases htrue
  · exact Activity.not_releasing_of_call? hcall hreleasing

theorem Noticed.settled {h : Chronicle} {m : Move} {s : Scene} {seen : List Happening}
    {name : String} {errand : Errand} {bracket : Bool} {t : Turn}
    {outcome : Except LeaseFault Unit}
    (o : (h.extend m (s.settle name errand bracket t).1 seen).Noticed)
    (hended : t.progress = .ended outcome) (hheld : t.claimant.held = false) (key : String) :
    ¬ (h.extend m (s.settle name errand bracket t).1 seen).Names key t.claimant.id := by
  have hseat : (s.settle name errand bracket t).1.seats.find? name
      = some ⟨t.claimant, Scene.activityAfter errand bracket t.progress⟩ := by
    rw [Scene.settle, Directory.find?_put, if_pos rfl]
  refine o.unnamed hseat ?_ hheld key
  rw [Scene.call?_activityAfter, hended]
  rfl

theorem unnamed_of_released {h : Chronicle} {m : Move} {s : Scene} {seen : List Happening}
    {n : String} {a : Seat} {call : Call} {outcome : Except LeaseFault Unit}
    (run : h.Reached (· = none)) (allowed : h.Allows (· = none) m) (step : h.scene.Step m s seen)
    (hseat : h.scene.seats.find? n = some a) (hcall : a.activity.call? = some call)
    (hrelease : call.errand = .release) (hended : .ended n outcome ∈ seen) (key : String) :
    ¬ (h.extend m s seen).Names key a.claimant.id := by
  have o : (h.extend m s seen).Noticed :=
    noticed_extend (noticed_of_reached run) (orderly_of_unscripted run) allowed step
  have hheld : a.claimant.held = false :=
    ((orderly_of_unscripted run).seat n a hseat).releasing call hcall hrelease
  cases step with
  | @answer name c call' bracket scripted s' seen' answer seat consulted =>
      rcases List.mem_append.mp hended with hended | hended
      · exact absurd hended (ended_not_mem_consulted consulted)
      · obtain ⟨rfl, hprogress⟩ := ended_mem_settle hended
        obtain rfl := Option.some.inj (hseat.symm.trans seat)
        obtain rfl := Option.some.inj hcall
        have hafter := (c.held_answered_release hrelease answer).trans hheld
        exact (c.answered_follows call' answer).id ▸ o.settled hprogress hafter key
  | @wake name c call' delay bracket result seat =>
      obtain ⟨rfl, hprogress⟩ := ended_mem_settle hended
      obtain rfl := Option.some.inj (hseat.symm.trans seat)
      have hafter := (c.held_woken call' result).trans hheld
      exact (c.woken_follows call' result).id ▸ o.settled hprogress hafter key
  | start errand seat => cases (ended_mem_settle hended).2
  | bracket seat => cases (ended_mem_settle hended).2
  | conclude seat => cases (ended_mem_settle hended).2
  | leave seat =>
      obtain ⟨event, -, heq⟩ := List.mem_map.mp hended
      cases heq
  | enter name c => cases hended
  | adopt policy draws seat => cases hended
  | advance passed => cases hended
  | visit consulted => exact allowed.elim

/-! ## What it is good for -/

/-- A claimant whose lease has run out without anybody coming for it. -/
def stale : Chronicle :=
  let a := Claimant.create ⟨"f", 0⟩ "a" "u" fun _ => 0
  start.after (.enter "x" a) |>.after (.start "x" .acquire) |>.after (.answer "x" none)
    |>.after (.advance (Span.ofSeconds 67))

end Chronicle

end FormLease
