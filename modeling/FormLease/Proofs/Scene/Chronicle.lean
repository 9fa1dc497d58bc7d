import FormLease.Proofs.Scene.Step

/-!
# Scenes with their past

A `Chronicle` is a scene together with everyone who ever entered it and
everything that happened in it, each with its moment. The scene itself
does not remember when a lease was claimed; the past does
(`Chronicle.lastClaim?`), so what is said about terms is said about
chronicles.

`Reached` are the chronicles that moves lead to from an empty scene. The
moves of different claimants come in any order, one at a time, and
between any two of them others may move. In particular anything may
happen while a claimant sleeps or is inside a bracket. What is asked of
the moves is `Allows`: claimants enter fresh and each with an id of its
own, and nobody without a seat goes to the table. Which answers may be
given in the table's place is a parameter.
-/

namespace FormLease

/-- A claimant that holds nothing yet, for the one kind of lease that
claimants ask for. -/
def Claimant.Fresh (c : Claimant) : Prop := c.held = false ∧ c.kind = .modification

theorem Claimant.fresh_create (key : ResourceKey) (id user : String) (draws : Nat → Draw) :
    (Claimant.create key id user draws).Fresh := ⟨rfl, rfl⟩

structure Chronicle where
  scene : Scene
  /-- Everyone who ever entered, the last one first. -/
  entered : List Claimant
  /-- What happened and when, the last first. -/
  past : List (Moment × Happening)

namespace Chronicle

def start : Chronicle := ⟨Scene.start, [], []⟩

def entrants : Move → List Claimant
  | .enter _ c => [c]
  | _ => []

/-- The chronicle after a move. Its happenings are of the moment at which
the move began. -/
def extend (h : Chronicle) (m : Move) (s : Scene) (seen : List Happening) : Chronicle where
  scene := s
  entered := entrants m ++ h.entered
  past := (seen.map fun e => (h.scene.now, e)).reverse ++ h.past

/-- What is asked of a move. A name that is taken passes to whoever enters
under it, and the claimant that had it is gone without a word, as one is
that is cut off in the middle of a call. -/
def Allows (h : Chronicle) (answers : Scripted → Prop) : Move → Prop
  | .enter _ c => c.Fresh ∧ ∀ e ∈ h.entered, e.id ≠ c.id
  | .answer _ scripted => answers scripted
  | .visit _ _ _ _ _ => False
  | _ => True

inductive Reached (answers : Scripted → Prop) : Chronicle → Prop where
  | start : Reached answers start
  | move {h : Chronicle} {m : Move} {s : Scene} {seen : List Happening}
      (before : Reached answers h) (allowed : h.Allows answers m)
      (moved : h.scene.apply m = some (s, seen)) : Reached answers (h.extend m s seen)

/-- The chronicle after a move, if that is possible. -/
def after (h : Chronicle) (m : Move) : Chronicle :=
  match h.scene.apply m with
  | some (s, seen) => h.extend m s seen
  | none => h

theorem Reached.after {answers : Scripted → Prop} {h : Chronicle} {m : Move}
    (before : h.Reached answers) (allowed : h.Allows answers m) :
    (h.after m).Reached answers := by
  unfold Chronicle.after
  split
  · next moved => exact before.move allowed moved
  · exact before

/-- In place of the table's answer come at most a refusal or a fault, and
neither touches the table. -/
def Harmless : Scripted → Prop
  | some (.ok true) => False
  | _ => True

/-! ## When a lease was claimed -/

/-- The moment at which `id` got a lease, if that is what happened. -/
def claimMoment? (id : String) : Moment × Happening → Option Moment
  | (moment, .asked .acquire i _ _ (.ok true)) => if i = id then some moment else none
  | _ => none

/-- The moment of the last successful claim of `id`. -/
def lastClaim? (h : Chronicle) (id : String) : Option Moment := h.past.findSome? (claimMoment? id)

/-- Among these happenings `id` gets a lease. -/
def Claims (seen : List Happening) (id : String) : Prop :=
  ∃ key kind, Happening.asked .acquire id key kind (.ok true) ∈ seen

theorem claimMoment?_eq_none {seen : List Happening} {id : String} (hno : ¬ Claims seen id)
    {e : Happening} (he : e ∈ seen) (moment : Moment) : claimMoment? id (moment, e) = none := by
  unfold claimMoment?
  split
  · next _ i key kind heq =>
      obtain ⟨-, rfl⟩ := Prod.mk.inj heq
      have hid : ¬ i = id := fun hid => hno ⟨key, kind, hid ▸ he⟩
      rw [if_neg hid]
  · rfl

theorem lastClaim?_extend_of_not {h : Chronicle} {m : Move} {s : Scene} {seen : List Happening}
    {id : String} (hno : ¬ Claims seen id) :
    (h.extend m s seen).lastClaim? id = h.lastClaim? id := by
  rw [lastClaim?, extend, List.findSome?_append, ← List.map_reverse]
  have hnone : ((seen.reverse.map fun e => (h.scene.now, e)).findSome? (claimMoment? id)) = none := by
    rw [List.findSome?_eq_none_iff]
    intro x hx
    obtain ⟨e, he, rfl⟩ := List.mem_map.mp hx
    exact claimMoment?_eq_none hno (List.mem_reverse.mp he) _
  rw [hnone, Option.none_or]
  rfl

theorem claimMoment?_eq_some {now moment : Moment} {e : Happening} {id : String}
    (h : claimMoment? id (now, e) = some moment) : moment = now := by
  unfold claimMoment? at h
  split at h
  · next heq =>
      obtain ⟨rfl, -⟩ := Prod.mk.inj heq
      split at h
      · exact (Option.some.inj h).symm
      · cases h
  · cases h

theorem lastClaim?_extend_of_claims {h : Chronicle} {m : Move} {s : Scene}
    {seen : List Happening} {id : String} (hclaims : Claims seen id) :
    (h.extend m s seen).lastClaim? id = some h.scene.now := by
  rw [lastClaim?, extend, List.findSome?_append, ← List.map_reverse]
  cases hfound : (seen.reverse.map fun e => (h.scene.now, e)).findSome? (claimMoment? id) with
  | none =>
      obtain ⟨key, kind, he⟩ := hclaims
      rw [List.findSome?_eq_none_iff] at hfound
      have hnone := hfound _ (List.mem_map.mpr ⟨_, List.mem_reverse.mpr he, rfl⟩)
      simp [claimMoment?] at hnone
  | some moment =>
      obtain ⟨x, hx, hmoment⟩ := List.exists_of_findSome?_eq_some hfound
      obtain ⟨e, -, rfl⟩ := List.mem_map.mp hx
      rw [claimMoment?_eq_some hmoment, Option.some_or]

/-! ## What moves show of claims -/

theorem claims_append {seen later : List Happening} {id : String} :
    Claims (seen ++ later) id ↔ Claims seen id ∨ Claims later id := by
  simp only [Claims, List.mem_append, exists_or]

theorem not_claims_nil (id : String) : ¬ Claims [] id := fun ⟨_, _, he⟩ => List.not_mem_nil he

theorem not_claims_settle (s : Scene) (name : String) (errand : Errand) (bracket : Bool)
    (t : Turn) (id : String) : ¬ Claims (s.settle name errand bracket t).2 id := by
  rintro ⟨key, kind, he⟩
  simp only [Scene.settle, List.mem_append, List.mem_map] at he
  rcases he with ⟨event, -, heq⟩ | he
  · cases heq
  · unfold Scene.ending at he
    split at he
    · cases List.mem_singleton.mp he
    · cases he

theorem not_claims_told (c : Claimant) (events : List Event) (id : String) :
    ¬ Claims (events.map (.told c)) id := by
  rintro ⟨key, kind, he⟩
  obtain ⟨event, -, heq⟩ := List.mem_map.mp he
  cases heq

theorem claims_asked {errand : Errand} {i key : String} {kind : LeaseKind}
    {answer : Except LeaseFault Bool} {id : String} :
    Claims [.asked errand i key kind answer] id ↔
      errand = .acquire ∧ i = id ∧ answer = .ok true := by
  simp only [Claims, List.mem_singleton, Happening.asked.injEq]
  constructor
  · rintro ⟨_, _, rfl, rfl, -, -, rfl⟩
    exact ⟨rfl, rfl, rfl⟩
  · rintro ⟨rfl, rfl, rfl⟩
    exact ⟨key, kind, rfl, rfl, rfl, rfl, rfl⟩

theorem not_claims_takeover (key : String) (previous : Option String) (id : String) :
    ¬ Claims (Scene.takeover key previous) id := by
  rintro ⟨k, kind, he⟩
  cases previous with
  | none => cases he
  | some p => cases List.mem_singleton.mp he

/-- A visit shows a claim exactly if the answer to an acquire is yes. -/
theorem claims_consulted {s s' : Scene} {i key : String} {kind : LeaseKind} {errand : Errand}
    {scripted : Scripted} {seen : List Happening} {answer : Except LeaseFault Bool}
    (h : s.Consulted i key kind errand scripted s' seen answer) (id : String) :
    Claims seen id ↔ errand = .acquire ∧ i = id ∧ answer = .ok true := by
  cases h with
  | scripted errand answer => exact claims_asked
  | granted previous free =>
      rw [claims_append, claims_asked]
      exact ⟨fun h => h.resolve_left (not_claims_takeover key previous id), Or.inr⟩
  | busy running => exact claims_asked
  | released own holder => exact claims_asked
  | rejected other => exact claims_asked

end Chronicle

end FormLease
