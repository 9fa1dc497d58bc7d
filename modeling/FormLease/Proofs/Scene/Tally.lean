import FormLease.Proofs.Directory
import FormLease.Proofs.Scene.Metered
import Mathlib.Data.List.Basic

/-!
# The metrics of a session

Claimants come and go and call in any order, and the metrics are one heap
for all of them. What the metrics say of a session is said of each of its
moves (`Moved.Accounted`). A move is somebody's turn, which leaves in the
metrics what it measures (`Moved.Turned`), or it leaves nothing there
(`Moved.still`).

One sum is not kept by single moves. An acquire puts the number of its
attempts into the metrics when it ends, and the attempts are made before.
What is kept is the sum of both, the attempts that are measured and those
that are owed (`Scene.claims`). When nobody is in a call, none is owed, and
only what was cut off in the middle of a call has been lost.
-/

namespace FormLease

/-! ## Moves and sessions -/

/-- A move that was made. -/
structure Moved where
  before : Scene
  move : Move
  after : Scene
  seen : List Happening

/-- The moves one after another, if all of them are possible. -/
def Scene.play (s : Scene) : List Move → Option (List Moved × Scene)
  | [] => some ([], s)
  | m :: rest => do
    let (next, seen) ← s.apply m
    let (later, final) ← next.play rest
    some (⟨s, m, next, seen⟩ :: later, final)

def Happening.samples : Happening → List Sample
  | told _ event => event.samples
  | tookOver _ _ | asked _ _ _ _ _ | overflowed | ended _ _ => []

def Happening.isClaim : Happening → Bool
  | asked .acquire _ _ _ _ => true
  | _ => false

/-- Whose turn it is in a move. -/
def Move.mover? : Move → Option String
  | start name _ | bracket name | answer name _ | wake name _ | conclude name => some name
  | enter _ _ | adopt _ _ _ | leave _ | advance _ | visit _ _ _ _ _ => none

namespace Moved

def samples (d : Moved) : List Sample := d.seen.flatMap Happening.samples

/-- The sleep that a claimant begins in a move. -/
def sleep? (d : Moved) : Option Span :=
  (d.move.mover?.bind d.after.seats.find?).bind fun seat => seat.activity.pause?

/-- The errand of the call that ends in a move. -/
def ended? (d : Moved) : Option Errand := do
  let name ← d.move.mover?
  let old ← d.before.seats.find? name
  let new ← d.after.seats.find? name
  let call ← old.activity.call?
  if new.activity.call? = none then some call.errand else none

/-- How many claims of claimants are answered in a move. Those of others
are not theirs. -/
def claims (d : Moved) : Nat :=
  match d.move.mover? with
  | some _ => d.seen.countP Happening.isClaim
  | none => 0

/-- A claimant in the middle of a call loses its seat to another one. -/
def cutsOff (d : Moved) : Bool :=
  match d.move with
  | .enter name _ => ((d.before.seats.find? name).bind fun seat => seat.activity.call?).isSome
  | _ => false

end Moved

namespace Scene

/-- The answers that acquires under way have had. -/
def claims (s : Scene) : Nat := s.seats.total fun seat => seat.activity.claims

/-- Nobody is in a call. -/
def quiet (s : Scene) : Bool := s.seats.entries.all fun e => e.2.activity.call? = none

def Counted (s : Scene) : Prop :=
  ∀ name seat, s.seats.find? name = some seat → seat.activity.Counted seat.claimant.policy.tries

theorem start_counted : start.Counted := fun _ _ h => by cases h

theorem Counted.put {s s' : Scene} {name : String} {new : Seat} (counted : s.Counted)
    (seats : s'.seats = s.seats.put name new)
    (hnew : new.activity.Counted new.claimant.policy.tries) : s'.Counted := by
  intro n seat hseat
  rw [seats] at hseat
  rcases Directory.find?_put_cases hseat with ⟨-, rfl⟩ | ⟨-, hold⟩
  · exact hnew
  · exact counted n seat hold

theorem claims_of_quiet {s : Scene} (h : s.quiet = true) : s.claims = 0 := by
  have hzero : ∀ x ∈ s.seats.entries.map fun e => e.2.activity.claims, x = 0 := by
    intro x hx
    obtain ⟨e, he, rfl⟩ := List.mem_map.mp hx
    exact Activity.claims_of_call? (of_decide_eq_true (List.all_eq_true.mp h e he))
  exact List.sum_eq_zero_iff_forall_eq_nat.mpr hzero

/-! ## What can be seen of a turn -/

theorem samples_settle (s : Scene) (name : String) (errand : Errand) (bracket : Bool) (t : Turn) :
    (s.settle name errand bracket t).2.flatMap Happening.samples = samplesOf t.events := by
  have hending : (ending name t.progress).flatMap Happening.samples = [] := by
    cases t.progress <;> rfl
  rw [settle, List.flatMap_append, List.flatMap_map, hending, List.append_nil]
  rfl

theorem countP_settle (s : Scene) (name : String) (errand : Errand) (bracket : Bool) (t : Turn) :
    (s.settle name errand bracket t).2.countP Happening.isClaim = 0 := by
  rw [List.countP_eq_zero, settle]
  intro e he
  rcases List.mem_append.mp he with he | he
  · obtain ⟨event, -, rfl⟩ := List.mem_map.mp he
    exact Bool.false_ne_true
  · cases hprogress : t.progress with
    | ended outcome =>
        rw [hprogress] at he
        obtain rfl := List.mem_singleton.mp he
        exact Bool.false_ne_true
    | _ =>
        rw [hprogress] at he
        cases he

theorem samples_takeover (key : String) (previous : Option String) :
    (takeover key previous).flatMap Happening.samples = [] := by
  cases previous <;> rfl

theorem countP_takeover (key : String) (previous : Option String) :
    (takeover key previous).countP Happening.isClaim = 0 := by
  cases previous <;> rfl

section Consulted

variable {s s' : Scene} {id key : String} {kind : LeaseKind} {errand : Errand}
  {scripted : Scripted} {seen : List Happening} {answer : Except LeaseFault Bool}

theorem Consulted.samples (consulted : s.Consulted id key kind errand scripted s' seen answer) :
    seen.flatMap Happening.samples = [] := by
  cases consulted with
  | granted previous free =>
      rw [List.flatMap_append, samples_takeover]
      rfl
  | _ => rfl

theorem Consulted.countP (consulted : s.Consulted id key kind errand scripted s' seen answer) :
    seen.countP Happening.isClaim = if errand = .acquire then 1 else 0 := by
  cases consulted with
  | scripted errand answer => cases errand <;> rfl
  | granted previous free =>
      rw [List.countP_append, countP_takeover]
      rfl
  | _ => rfl

/-- A visit is not measured, whether it gets an answer or not. -/
theorem samples_consult {answer : Option (Except LeaseFault Bool)}
    (h : s.consult errand id key kind scripted = (s', seen, answer)) :
    seen.flatMap Happening.samples = [] ∧ s'.seats = s.seats := by
  cases answer with
  | some answer =>
      have consulted := consulted_of_consult h
      exact ⟨consulted.samples, consulted.seats⟩
  | none =>
      obtain ⟨rfl, previous, rfl⟩ := consult_unanswered h
      refine ⟨?_, rfl⟩
      rw [List.flatMap_append, samples_takeover]
      rfl

end Consulted

end Scene

namespace Moved

/-! ## Turns and other moves -/

/-- The move is a turn of one claimant in a call that got so many
answers. -/
structure Turned (d : Moved) (name : String) (old : Seat) (errand : Errand) (bracket : Bool)
    (t : Turn) (n : Nat) : Prop where
  mover : d.move.mover? = some name
  seat : d.before.seats.find? name = some old
  seats : d.after.seats
    = d.before.seats.put name ⟨t.claimant, Scene.activityAfter errand bracket t.progress⟩
  samples : d.samples = samplesOf t.events
  metered : t.Metered errand n
  counted : t.progress.Counted t.claimant.policy.tries
  few : n < 2 ^ 53
  answers : old.activity.claims + d.seen.countP Happening.isClaim
    = if errand = .acquire then n else 0
  ending : t.progress.call? = none → ∃ call, old.activity.call? = some call ∧ call.errand = errand

section Turns

variable {before : Scene} {move : Move} {name : String} {c : Claimant} {bracket : Bool}

/-- A call that has just begun has had no answers. -/
theorem turned_begin {activity : Activity} (mover : move.mover? = some name)
    (seat : before.seats.find? name = some ⟨c, activity⟩) (hcall : activity.call? = none)
    (errand : Errand) :
    Turned ⟨before, move, (before.settle name errand bracket (c.begin errand)).1,
      (before.settle name errand bracket (c.begin errand)).2⟩ name ⟨c, activity⟩ errand bracket
      (c.begin errand) 0 where
  mover := mover
  seat := seat
  seats := rfl
  samples := before.samples_settle name errand bracket (c.begin errand)
  metered := c.begin_metered errand
  counted := c.begin_counted errand
  few := Nat.two_pow_pos 53
  answers := by
    change activity.claims + List.countP _ _ = _
    rw [Activity.claims_of_call? hcall, Scene.countP_settle, ite_self]
  ending := fun h => by cases h

theorem few_attempts {call : Call} (h : call.attempt + call.left = c.policy.tries) :
    call.attempt < 2 ^ 53 := by
  have hlt := c.policy.tries_lt
  rw [Nat.one_shiftLeft] at hlt
  omega

theorem turned_answer {call : Call} {scripted : Scripted} {s : Scene} {seen : List Happening}
    {answer : Except LeaseFault Bool}
    (seat : before.seats.find? name = some ⟨c, .asking call bracket⟩)
    (counted : (Progress.asking call).Counted c.policy.tries)
    (consulted : before.Consulted c.id c.key.text c.kind call.errand scripted s seen answer) :
    Turned ⟨before, .answer name scripted,
      (s.settle name call.errand bracket (c.answered call answer)).1,
      seen ++ (s.settle name call.errand bracket (c.answered call answer)).2⟩ name
      ⟨c, .asking call bracket⟩ call.errand bracket (c.answered call answer) call.attempt where
  mover := rfl
  seat := seat
  seats := congrArg (Directory.put · name _) consulted.seats
  samples := by
    rw [samples, List.flatMap_append, consulted.samples, Scene.samples_settle, List.nil_append]
  metered := (c.answered_metered counted answer).1
  counted := by
    rw [(c.answered_follows call answer).policy]
    exact (c.answered_metered counted answer).2
  few := few_attempts counted.2
  answers := by
    have hpos : 0 < call.attempt := counted.1
    rw [List.countP_append, consulted.countP, Scene.countP_settle, Activity.claims]
    split
    · omega
    · rfl
  ending := fun _ => ⟨call, rfl, rfl⟩

theorem turned_wake {call : Call} {delay : Span}
    (seat : before.seats.find? name = some ⟨c, .sleeping call delay bracket⟩)
    (counted : (Progress.sleeping call delay).Counted c.policy.tries)
    (result : Except String Unit) :
    Turned ⟨before, .wake name result,
      (before.settle name call.errand bracket (c.woken call result)).1,
      (before.settle name call.errand bracket (c.woken call result)).2⟩ name
      ⟨c, .sleeping call delay bracket⟩ call.errand bracket (c.woken call result) call.attempt where
  mover := rfl
  seat := seat
  seats := rfl
  samples := before.samples_settle name call.errand bracket (c.woken call result)
  metered := (c.woken_metered counted result).1
  counted := by
    rw [(c.woken_follows call result).policy]
    exact (c.woken_metered counted result).2
  few := few_attempts counted.2
  answers := by
    rw [Scene.countP_settle, Activity.claims, Nat.add_zero]
  ending := fun _ => ⟨call, rfl, rfl⟩

end Turns

variable {d : Moved}

theorem turned (step : d.before.Step d.move d.after d.seen) (counted : d.before.Counted)
    {name : String} (mover : d.move.mover? = some name) :
    ∃ old errand bracket t n, d.Turned name old errand bracket t n := by
  obtain ⟨before, move, after, seen⟩ := d
  change before.Step move after seen at step
  cases step with
  | start errand seat =>
      obtain rfl := Option.some.inj mover
      exact ⟨_, _, _, _, _, turned_begin rfl seat rfl errand⟩
  | bracket seat =>
      obtain rfl := Option.some.inj mover
      exact ⟨_, _, _, _, _, turned_begin rfl seat rfl .acquire⟩
  | conclude seat =>
      obtain rfl := Option.some.inj mover
      exact ⟨_, _, _, _, _, turned_begin rfl seat rfl .release⟩
  | answer seat consulted =>
      obtain rfl := Option.some.inj mover
      exact ⟨_, _, _, _, _, turned_answer seat (counted _ _ seat) consulted⟩
  | wake result seat =>
      obtain rfl := Option.some.inj mover
      exact ⟨_, _, _, _, _, turned_wake seat (counted _ _ seat) result⟩
  | _ => cases mover

/-- A move that is nobody's turn is not measured and leaves what is owed,
unless it cuts somebody off. -/
theorem still (step : d.before.Step d.move d.after d.seen) (counted : d.before.Counted)
    (mover : d.move.mover? = none) :
    d.samples = [] ∧ d.after.Counted ∧ (d.cutsOff = false → d.after.claims = d.before.claims) := by
  obtain ⟨before, move, after, seen⟩ := d
  change before.Step move after seen at step
  cases step with
  | enter name c =>
      refine ⟨rfl, counted.put rfl trivial, fun huncut => ?_⟩
      -- nobody in a call had the seat, so nothing was owed there
      have hold : (before.seats.find? name).elim 0 (fun seat => seat.activity.claims) = 0 := by
        cases hseat : before.seats.find? name with
        | none => rfl
        | some seat =>
            simp only [cutsOff, hseat, Option.bind_some, Option.isSome_eq_false_iff,
              Option.isNone_iff_eq_none] at huncut
            exact Activity.claims_of_call? huncut
      have hput := before.seats.total_put (fun seat => seat.activity.claims) name ⟨c, .idle⟩
      rw [hold] at hput
      exact hput
  | @adopt name c policy draws seat =>
      refine ⟨rfl, counted.put rfl trivial, fun _ => ?_⟩
      have hput := before.seats.total_put (fun seat => seat.activity.claims) name
        ⟨c.withPolicy policy draws, .idle⟩
      rw [seat] at hput
      exact hput
  | @leave name c seat =>
      refine ⟨?_, fun n old hold => counted n old (Directory.find?_of_find?_remove hold),
        fun _ => Directory.total_remove seat rfl⟩
      change (c.leave.map (Happening.told c)).flatMap Happening.samples = []
      unfold Claimant.leave
      split <;> rfl
  | advance passed => exact ⟨rfl, counted, fun _ => rfl⟩
  | visit consulted =>
      obtain ⟨hsamples, hseats⟩ := Scene.samples_consult consulted
      refine ⟨hsamples, fun n old hold => counted n old ?_, fun _ => ?_⟩
      · rw [← hseats]
        exact hold
      · exact congrArg (Directory.total fun seat => seat.activity.claims) hseats
  | _ => cases mover

/-! ## The account of a move -/

namespace Turned

variable {name : String} {old : Seat} {errand : Errand} {bracket : Bool} {t : Turn} {n : Nat}
  (turned : d.Turned name old errand bracket t n)

include turned

theorem found : d.after.seats.find? name
    = some ⟨t.claimant, Scene.activityAfter errand bracket t.progress⟩ := by
  rw [turned.seats, Directory.find?_put, if_pos rfl]

theorem sleep? : d.sleep? = (Scene.activityAfter errand bracket t.progress).pause? := by
  rw [Moved.sleep?, turned.mover, Option.bind_some, turned.found]
  rfl

theorem ended? : d.ended? = if t.progress.call? = none then some errand else none := by
  have hended : d.ended? = old.activity.call?.bind fun call =>
      if t.progress.call? = none then some call.errand else none := by
    simp only [Moved.ended?, turned.mover, turned.seat, turned.found, Option.bind_eq_bind,
      Option.bind_some, Scene.call?_activityAfter]
  rw [hended]
  split
  · next h =>
      obtain ⟨call, hcall, rfl⟩ := turned.ending h
      rw [hcall]
      rfl
  · exact Option.bind_fun_none _

theorem count_ended? (e : Errand) :
    d.ended?.toList.count e = if t.progress.call? = none ∧ errand = e then 1 else 0 := by
  rw [turned.ended?]
  by_cases h : t.progress.call? = none
  · simp [h, List.count_singleton]
  · simp [h]

end Turned

/-- What a move leaves in the metrics. -/
structure Accounted (d : Moved) : Prop where
  backoffs : values backoffSeconds d.samples = d.sleep?.toList.map Span.binarySeconds
  total : ∀ errand : Errand, counter errand.total d.samples = d.ended?.toList.count errand
  once : (values acquireAttempts d.samples).length = d.ended?.toList.count .acquire
  attempts : d.cutsOff = false → (values acquireAttempts d.samples).sum
      + d.after.claims * Magnitude.one = (d.before.claims + d.claims) * Magnitude.one

theorem Turned.accounted {name : String} {old : Seat} {errand : Errand} {bracket : Bool}
    {t : Turn} {n : Nat} (turned : d.Turned name old errand bracket t n) : d.Accounted where
  backoffs := by rw [turned.samples, turned.sleep?, turned.metered.backoffs bracket]
  total e := by rw [turned.samples, turned.count_ended?, turned.metered.total]
  once := by rw [turned.samples, turned.count_ended?, turned.metered.once]
  attempts _ := by
    have howed : d.after.claims + old.activity.claims
        = d.before.claims + (Scene.activityAfter errand bracket t.progress).claims := by
      have hput := d.before.seats.total_put (fun seat => seat.activity.claims) name
        ⟨t.claimant, Scene.activityAfter errand bracket t.progress⟩
      rw [← turned.seats, turned.seat] at hput
      exact hput
    have hanswered : old.activity.claims + d.claims = if errand = .acquire then n else 0 := by
      rw [claims, turned.mover]
      exact turned.answers
    have hturn := turned.metered.attempts turned.few bracket
    rw [← turned.samples, ← hanswered] at hturn
    -- in units of the histogram the three sums are linear
    have hscaled := congrArg (· * Magnitude.one) howed
    simp only [Nat.add_mul] at hturn hscaled ⊢
    omega

theorem accounted (step : d.before.Step d.move d.after d.seen) (counted : d.before.Counted) :
    d.Accounted ∧ d.after.Counted := by
  cases hmover : d.move.mover? with
  | some name =>
      obtain ⟨old, errand, bracket, t, n, turned⟩ := d.turned step counted hmover
      exact ⟨turned.accounted, counted.put turned.seats
        (Scene.activityAfter_counted turned.counted errand bracket)⟩
  | none =>
      obtain ⟨hsamples, hcounted, howed⟩ := d.still step counted hmover
      have hsleep : d.sleep? = none := by rw [sleep?, hmover]; rfl
      have hended : d.ended? = none := by rw [ended?, hmover]; rfl
      have hclaims : d.claims = 0 := by rw [claims, hmover]
      refine ⟨⟨?_, fun e => ?_, ?_, fun huncut => ?_⟩, hcounted⟩
      · rw [hsamples, hsleep]
        rfl
      · rw [hsamples, hended]
        rfl
      · rw [hsamples, hended]
        rfl
      · rw [hsamples, howed huncut, hclaims]
        exact Nat.zero_add _

end Moved

/-! ## The account of a session -/

namespace Scene

theorem play_cons {s final : Scene} {m : Move} {rest : List Move} {course : List Moved}
    (played : s.play (m :: rest) = some (course, final)) :
    ∃ next seen later, s.apply m = some (next, seen) ∧ next.play rest = some (later, final)
      ∧ course = ⟨s, m, next, seen⟩ :: later := by
  obtain ⟨⟨next, seen⟩, happly, played⟩ := Option.bind_eq_some_iff.mp played
  obtain ⟨⟨later, last⟩, hlater, played⟩ := Option.bind_eq_some_iff.mp played
  obtain ⟨rfl, rfl⟩ := Prod.mk.inj (Option.some.inj played)
  exact ⟨next, seen, later, happly, hlater, rfl⟩

theorem accounted_of_play {s final : Scene} {moves : List Move} {course : List Moved}
    (counted : s.Counted) (played : s.play moves = some (course, final)) :
    ∀ d ∈ course, d.Accounted := by
  induction moves generalizing s course with
  | nil =>
      obtain ⟨rfl, -⟩ := Prod.mk.inj (Option.some.inj played)
      exact fun d hd => by cases hd
  | cons m rest ih =>
      obtain ⟨next, seen, later, happly, hlater, rfl⟩ := play_cons played
      obtain ⟨haccounted, hcounted⟩ := Moved.accounted (d := ⟨s, m, next, seen⟩)
        (step_of_apply happly) counted
      exact List.forall_mem_cons.mpr ⟨haccounted, ih hcounted hlater⟩

end Scene

/-- What the metrics say after a session, whoever moved when. -/
structure SessionMeasured (course : List Moved) : Prop where
  /-- The sleeps that were begun, in their order. -/
  backoffs : values backoffSeconds (course.flatMap Moved.samples)
    = (course.filterMap Moved.sleep?).map Span.binarySeconds
  /-- The calls that ended. -/
  total : ∀ errand : Errand, counter errand.total (course.flatMap Moved.samples)
    = (course.filterMap Moved.ended?).count errand
  /-- One value for each acquire that ended. -/
  once : (values acquireAttempts (course.flatMap Moved.samples)).length
    = (course.filterMap Moved.ended?).count .acquire

theorem values_flatMap (name : String) (course : List Moved) :
    values name (course.flatMap Moved.samples) = course.flatMap fun d => values name d.samples :=
  List.filterMap_flatMap

theorem counter_flatMap (name : String) (course : List Moved) :
    counter name (course.flatMap Moved.samples)
      = (course.map fun d => counter name d.samples).sum := by
  induction course with
  | nil => rfl
  | cons d later ih =>
      rw [List.flatMap_cons, counter, increments_append, List.map_append, List.sum_append_nat,
        List.map_cons, List.sum_cons, ← ih]
      rfl

theorem sessionMeasured {course : List Moved} (h : ∀ d ∈ course, d.Accounted) :
    SessionMeasured course where
  backoffs := by
    rw [values_flatMap, List.filterMap_eq_flatMap_toList, List.map_flatMap]
    exact List.flatMap_congr fun d hd => (h d hd).backoffs
  total errand := by
    rw [counter_flatMap, List.filterMap_eq_flatMap_toList, List.count_flatMap]
    exact congrArg List.sum (List.map_congr_left fun d hd => (h d hd).total errand)
  once := by
    rw [values_flatMap, List.filterMap_eq_flatMap_toList, List.count_flatMap, List.length_flatMap]
    exact congrArg List.sum (List.map_congr_left fun d hd => (h d hd).once)

namespace Scene

/-- What acquires were answered in a session is in the metrics or owed. -/
theorem attempts_of_play {s final : Scene} {moves : List Move} {course : List Moved}
    (counted : s.Counted) (played : s.play moves = some (course, final))
    (huncut : ∀ d ∈ course, d.cutsOff = false) :
    (values acquireAttempts (course.flatMap Moved.samples)).sum + final.claims * Magnitude.one
      = (s.claims + (course.map Moved.claims).sum) * Magnitude.one := by
  induction moves generalizing s course with
  | nil =>
      obtain ⟨rfl, rfl⟩ := Prod.mk.inj (Option.some.inj played)
      exact Nat.zero_add _
  | cons m rest ih =>
      obtain ⟨next, seen, later, happly, hlater, rfl⟩ := play_cons played
      obtain ⟨haccounted, hcounted⟩ := Moved.accounted (d := ⟨s, m, next, seen⟩)
        (step_of_apply happly) counted
      obtain ⟨hhead, htail⟩ := List.forall_mem_cons.mp huncut
      -- what the first move leaves owed is what the later ones start with
      have hmove := haccounted.attempts hhead
      have hlast := ih hcounted hlater htail
      rw [List.flatMap_cons, values_append, List.sum_append_nat, List.map_cons, List.sum_cons]
      simp only [Nat.add_mul] at hmove hlast ⊢
      omega

/-- **The metrics account for every call.** An acquire, whatever the store
answers, however its backoffs end and whatever the claimant did before,
increments its counter once, with the label of what it came to, and adds one
value to the histogram of attempts, which is their number. A release
increments its counter once, and its label is `released` if its last answer
was yes and only then. Both add the delays of their backoffs, in order.

In a session any number of claimants make such calls and brackets, and their
moves come in any order. There, too, the backoffs in the metrics are the
sleeps that claimants begin, in order, and each call that ends is counted
once. If nobody is cut off and in the end nobody is in a call, the attempts
in the metrics add up to the claims that claimants made. -/
theorem metrics_account :
    (∀ {σ : Type} (w : Surroundings σ) (c : Claimant) (s : σ),
      AcquireMeasured (c.contacts .acquire w s) (c.perform .acquire w s)
        ∧ ReleaseMeasured (c.contacts .release w s))
    ∧ ∀ {moves : List Move} {course : List Moved} {final : Scene},
      start.play moves = some (course, final) →
        SessionMeasured course
        ∧ ((∀ d ∈ course, d.cutsOff = false) → final.quiet = true →
          (values acquireAttempts (course.flatMap Moved.samples)).sum
            = (course.map Moved.claims).sum * Magnitude.one) := by
  refine ⟨fun w c s => ?_, fun {moves course final} played => ?_⟩
  · obtain ⟨delays, k, acquired⟩ := c.call_log .acquire w s
    obtain ⟨delays', k', released⟩ := c.call_log .release w s
    exact ⟨acquired.acquireMeasured, released.releaseMeasured⟩
  · refine ⟨sessionMeasured (accounted_of_play start_counted played), fun huncut hquiet => ?_⟩
    have hsum := attempts_of_play start_counted played huncut
    rw [claims_of_quiet hquiet, Nat.zero_mul, Nat.add_zero] at hsum
    rw [hsum, show start.claims = 0 from rfl, Nat.zero_add]

/-- A claimant is turned down while another one is inside a bracket, and its
backoff is cut short. -/
def crossing : List Move :=
  let claimant := fun id => Claimant.create ⟨"f", 0⟩ id "u" fun _ => 0
  [.enter "left" (claimant "a"), .enter "right" (claimant "b"), .bracket "left",
    .start "right" .acquire, .answer "left" none, .answer "right" none, .conclude "left",
    .wake "right" (.error "signal"), .answer "left" none]

theorem metrics_account_crossing : ∃ course final, start.play crossing = some (course, final)
    ∧ (∀ d ∈ course, d.cutsOff = false) ∧ final.quiet = true
    ∧ (course.filterMap Moved.sleep?).length = 1
    ∧ (values acquireAttempts (course.flatMap Moved.samples)).sum = 2 * Magnitude.one := by
  have hplays : (start.play crossing).any (fun r => r.1.all (fun d => !d.cutsOff) && r.2.quiet
      && (r.1.filterMap Moved.sleep?).length == 1 && (r.1.map Moved.claims).sum == 2) = true := by
    decide +kernel
  obtain ⟨⟨course, final⟩, played⟩ := Option.isSome_iff_exists.mp (Option.isSome_of_any hplays)
  have hrun := hplays
  rw [played, Option.any_some] at hrun
  simp only [Bool.and_eq_true, List.all_eq_true, Bool.not_eq_true', beq_iff_eq] at hrun
  obtain ⟨⟨⟨huncut, hquiet⟩, hsleeps⟩, hclaims⟩ := hrun
  have hsum := (metrics_account.2 played).2 huncut hquiet
  exact ⟨course, final, played, huncut, hquiet, hsleeps, hclaims ▸ hsum⟩

end Scene

end FormLease
