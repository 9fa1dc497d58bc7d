import FormLease.Proofs.Call.Rounds
import Mathlib.Data.List.Basic

/-!
# Brackets

A bracket is at most three things one after another: an acquire, the work,
a release. That there is nothing else to it, and that nothing of it is done
twice, is said of everything it does, in order (`Deed`). Surroundings write
these deeds down, and the work writes itself down between them. Writing
changes nothing else, because written surroundings are mirrored by the ones
that trace a call (`Surroundings.Mirrors`), and so the deeds of a bracket
are the contacts of its calls with the work in the middle
(`deeds_of_ok`), or those of an acquire that failed (`deeds_of_error`).
-/

namespace FormLease

/-! ## Brackets as calls -/

namespace Claimant

variable {σ α : Type}

section Cases

variable {w : Surroundings σ} {c : Claimant} {s : σ} (work : σ → α × σ)

theorem bracket_of_error {fault : LeaseFault}
    (h : (c.perform .acquire w s).outcome = .error fault) :
    c.bracket work w s = ⟨(c.perform .acquire w s).claimant, .error fault,
      (c.perform .acquire w s).surroundings⟩ := by
  simp only [bracket, h]

theorem bracket_of_ok (h : (c.perform .acquire w s).outcome = .ok ()) :
    c.bracket work w s =
      let given := work (c.perform .acquire w s).surroundings
      let released := (c.perform .acquire w s).claimant.perform .release w given.2
      ⟨released.claimant, .ok given.1, released.surroundings⟩ := by
  simp only [bracket, h]

end Cases

theorem perform_traced (w : Surroundings σ) (c : Claimant) (errand : Errand) (s : σ)
    (log : List Contact) :
    c.perform errand w.traced (s, log) = ⟨(c.perform errand w s).claimant,
      (c.perform errand w s).outcome, (c.perform errand w s).surroundings,
      log ++ c.contacts errand w s⟩ :=
  Turn.finish_traced w (c.begin errand) s log

end Claimant

/-! ## Mirrors -/

section Mirrors

variable {σ τ : Type} {w : Surroundings σ} {w' : Surroundings τ} {g : σ → τ}

/-- The second surroundings do what the first do, and `g` shows their
state. -/
structure Surroundings.Mirrors (g : σ → τ) (w : Surroundings σ) (w' : Surroundings τ) :
    Prop where
  ask : ∀ errand id key kind s, w'.ask errand id key kind (g s)
    = ((w.ask errand id key kind s).1, g (w.ask errand id key kind s).2)
  rest : ∀ delay s, w'.rest delay (g s) = ((w.rest delay s).1, g (w.rest delay s).2)
  hear : ∀ c event s, w'.hear c event (g s) = g (w.hear c event s)

theorem Turn.heard_mirrored (mirrors : w.Mirrors g w') (t : Turn) (s : σ) :
    t.heard w' (g s) = g (t.heard w s) :=
  List.foldl_hom g fun s event => mirrors.hear t.claimant event s

/-- A call cannot tell surroundings from what mirrors them. -/
theorem Turn.finish_mirrored (mirrors : w.Mirrors g w') (t : Turn) (s : σ) :
    t.finish w' (g s) = ⟨(t.finish w s).claimant, (t.finish w s).outcome,
      g (t.finish w s).surroundings⟩ := by
  induction t, s using Turn.finish.induct w with
  | case1 t s outcome h => rw [finish_ended h, finish_ended h, heard_mirrored mirrors]
  | case2 t s _ call h reply s' hask ih =>
      have hask' : w'.ask call.errand t.claimant.id t.claimant.key.text t.claimant.kind
          (t.heard w' (g s)) = (reply, g s') := by
        rw [heard_mirrored mirrors, mirrors.ask, show w.ask _ _ _ _ (t.heard w s) = _ from hask]
      rw [finish_asking h hask, finish_asking h hask', ih]
  | case3 t s _ call delay h result s' hrest ih =>
      have hrest' : w'.rest delay (t.heard w' (g s)) = (result, g s') := by
        rw [heard_mirrored mirrors, mirrors.rest, show w.rest _ (t.heard w s) = _ from hrest]
      rw [finish_sleeping h hrest, finish_sleeping h hrest', ih]

end Mirrors

/-! ## Deeds -/

inductive Deed where
  | contact (contact : Contact)
  | work

/-- The errand of an attempt. -/
def Deed.errand? : Deed → Option Errand
  | contact (.asked errand _ _ _ _) => some errand
  | contact (.rested _ _) | contact (.heard _ _) | work => none

section Deeds

variable {σ α : Type}

/-- The same surroundings, with all that happens written down as deeds. -/
def Surroundings.written (w : Surroundings σ) : Surroundings (σ × List Deed) where
  ask errand id key kind s :=
    let (reply, next) := w.ask errand id key kind s.1
    (reply, next, s.2 ++ [.contact (.asked errand id key kind reply)])
  rest delay s :=
    let (result, next) := w.rest delay s.1
    (result, next, s.2 ++ [.contact (.rested delay result)])
  hear c event s := (w.hear c event s.1, s.2 ++ [.contact (.heard c event)])

/-- The same work, which writes down that it is done. -/
def written (work : σ → α × σ) (s : σ × List Deed) : α × (σ × List Deed) :=
  ((work s.1).1, (work s.1).2, s.2 ++ [.work])

theorem mirrors_written (w : Surroundings σ) (log : List Deed) :
    w.traced.Mirrors (fun s => (s.1, log ++ s.2.map .contact)) w.written where
  ask errand id key kind s := by
    simp only [Surroundings.traced, Surroundings.written, List.map_append, List.map_singleton,
      List.append_assoc]
  rest delay s := by
    simp only [Surroundings.traced, Surroundings.written, List.map_append, List.map_singleton,
      List.append_assoc]
  hear c event s := by
    simp only [Surroundings.traced, Surroundings.written, List.map_append, List.map_singleton,
      List.append_assoc]

namespace Claimant

theorem perform_written (w : Surroundings σ) (c : Claimant) (errand : Errand) (s : σ)
    (log : List Deed) :
    c.perform errand w.written (s, log) = ⟨(c.perform errand w s).claimant,
      (c.perform errand w s).outcome, (c.perform errand w s).surroundings,
      log ++ (c.contacts errand w s).map .contact⟩ := by
  have htraced := perform_traced w c errand s []
  have hmirrored := Turn.finish_mirrored (mirrors_written w log) (c.begin errand) (s, [])
  rw [show (c.begin errand).finish w.traced (s, []) = _ from htraced] at hmirrored
  simp only [List.map_nil, List.append_nil, List.nil_append] at hmirrored
  exact hmirrored

/-- All that is done in a bracket, in order. -/
def deeds (c : Claimant) (work : σ → α × σ) (w : Surroundings σ) (s : σ) : List Deed :=
  (c.bracket (written work) w.written (s, [])).surroundings.2

variable {w : Surroundings σ} {c : Claimant} {s : σ} (work : σ → α × σ)

theorem deeds_of_error {fault : LeaseFault}
    (h : (c.perform .acquire w s).outcome = .error fault) :
    c.deeds work w s = (c.contacts .acquire w s).map .contact := by
  have hwritten : (c.perform .acquire w.written (s, [])).outcome = .error fault := by
    rw [perform_written, h]
  rw [deeds, bracket_of_error _ hwritten, perform_written, List.nil_append]

theorem deeds_of_ok (h : (c.perform .acquire w s).outcome = .ok ()) :
    c.deeds work w s = (c.contacts .acquire w s).map .contact
      ++ .work :: ((c.perform .acquire w s).claimant.contacts .release w
        (work (c.perform .acquire w s).surroundings).2).map .contact := by
  have hwritten : (c.perform .acquire w.written (s, [])).outcome = .ok () := by
    rw [perform_written, h]
  rw [deeds, bracket_of_ok _ hwritten]
  simp only [perform_written, written, List.nil_append, List.append_assoc, List.cons_append]

/-- Writing down changes nothing but what is written. -/
theorem bracket_written :
    c.bracket (written work) w.written (s, []) = ⟨(c.bracket work w s).claimant,
      (c.bracket work w s).outcome, (c.bracket work w s).surroundings, c.deeds work w s⟩ := by
  rw [deeds]
  cases h : (c.perform .acquire w s).outcome with
  | error fault =>
      have hwritten : (c.perform .acquire w.written (s, [])).outcome = .error fault := by
        rw [perform_written, h]
      rw [bracket_of_error _ hwritten, bracket_of_error _ h, perform_written]
  | ok u =>
      have hwritten : (c.perform .acquire w.written (s, [])).outcome = .ok () := by
        rw [perform_written, h]
      rw [bracket_of_ok _ hwritten, bracket_of_ok _ h]
      simp only [perform_written, written]

/-! ## What is in a call -/

theorem errand_of_mem_contacts {errand e : Errand} {x : Contact}
    (hx : x ∈ c.contacts errand w s) (h : (Deed.contact x).errand? = some e) : e = errand := by
  cases x with
  | asked e' id key kind reply =>
      obtain rfl : e' = e := Option.some.inj h
      have hdealing : .asked e' id key kind reply ∈ c.dealings errand w s :=
        List.mem_filter.mpr ⟨hx, rfl⟩
      obtain ⟨delays, k, rounds⟩ := rounds_perform w c errand s
      rw [show c.dealings errand w s = _ from rounds.dealings] at hdealing
      rcases List.mem_append.mp hdealing with hround | hclosing
      · obtain ⟨delay, -, hmem⟩ := List.mem_flatMap.mp hround
        simp only [round, attempt, List.mem_cons, Contact.asked.injEq, reduceCtorEq,
          List.not_mem_nil, or_false] at hmem
        exact hmem.1
      · cases k <;> simp only [Closing.contacts, attempt, List.mem_cons, Contact.asked.injEq,
          reduceCtorEq, List.not_mem_nil, or_false] at hclosing <;> exact hclosing.1
  | rested delay result => cases h
  | heard teller event => cases h

theorem work_not_mem (contacts : List Contact) : Deed.work ∉ contacts.map .contact := by
  intro hmem
  obtain ⟨x, -, hx⟩ := List.mem_map.mp hmem
  cases hx

theorem errand_of_mem_deeds {errand e : Errand} {deed : Deed}
    (hdeed : deed ∈ (c.contacts errand w s).map .contact) (h : deed.errand? = some e) :
    e = errand := by
  obtain ⟨x, hx, rfl⟩ := List.mem_map.mp hdeed
  exact errand_of_mem_contacts hx h

end Claimant

/-! ## The account -/

/-- What comes of a bracket, among any surroundings and with any work. -/
structure BracketAccount (c : Claimant) (work : σ → α × σ) (w : Surroundings σ) (s : σ) :
    Prop where
  written : c.bracket (written work) w.written (s, []) = ⟨(c.bracket work w s).claimant,
    (c.bracket work w s).outcome, (c.bracket work w s).surroundings, c.deeds work w s⟩
  works_iff : .work ∈ c.deeds work w s ↔ (c.perform .acquire w s).outcome = .ok ()
  /-- The work is not done again, all attempts to acquire are made before
  it, and all attempts to release after it. -/
  once : ∀ before after, c.deeds work w s = before ++ .work :: after →
    (∀ deed ∈ before, deed ≠ .work ∧ deed.errand? ≠ some .release)
      ∧ ∀ deed ∈ after, deed ≠ .work ∧ deed.errand? ≠ some .acquire
  ok_iff : ∀ output, (c.bracket work w s).outcome = .ok output ↔
    (c.perform .acquire w s).outcome = .ok ()
      ∧ output = (work (c.perform .acquire w s).surroundings).1
  error_iff : ∀ fault, (c.bracket work w s).outcome = .error fault ↔
    (c.perform .acquire w s).outcome = .error fault
  held_of_ok : ∀ output, (c.bracket work w s).outcome = .ok output →
    (c.bracket work w s).claimant.held = false
  of_error : ∀ fault, (c.bracket work w s).outcome = .error fault →
    (∀ deed ∈ c.deeds work w s, deed.errand? ≠ some .release)
      ∧ (c.bracket work w s).claimant.held = c.held

section Cases

variable {c : Claimant} {w : Surroundings σ} {s : σ} (work : σ → α × σ)

theorem bracketAccount_of_error {fault : LeaseFault}
    (h : (c.perform .acquire w s).outcome = .error fault) : BracketAccount c work w s := by
  have hdeeds := Claimant.deeds_of_error work h
  have hbracket := Claimant.bracket_of_error work h
  have hidle : .work ∉ c.deeds work w s := hdeeds ▸ Claimant.work_not_mem _
  refine ⟨Claimant.bracket_written work, ?_, ?_, ?_, ?_, ?_, ?_⟩
  · rw [h]
    exact ⟨fun hmem => absurd hmem hidle, fun hok => (by cases hok)⟩
  · intro before after hsplit
    exact absurd (hsplit ▸ List.mem_append_right _ List.mem_cons_self) hidle
  · intro output
    rw [hbracket, h]
    exact ⟨fun hok => (by cases hok), fun hok => (by cases hok.1)⟩
  · intro fault'
    rw [hbracket, h]
    exact ⟨fun heq => congrArg _ (Except.error.inj heq),
      fun heq => congrArg _ (Except.error.inj heq)⟩
  · intro output hok
    rw [hbracket] at hok
    cases hok
  · intro fault' _
    refine ⟨fun deed hdeed hrelease => ?_, ?_⟩
    · cases Claimant.errand_of_mem_deeds (hdeeds ▸ hdeed) hrelease
    · rw [hbracket, held_perform, h]
      rfl

theorem bracketAccount_of_ok (h : (c.perform .acquire w s).outcome = .ok ()) :
    BracketAccount c work w s := by
  have hdeeds := Claimant.deeds_of_ok work h
  have hbracket := Claimant.bracket_of_ok work h
  refine ⟨Claimant.bracket_written work, ?_, ?_, ?_, ?_, ?_, ?_⟩
  · rw [h, hdeeds]
    exact ⟨fun _ => rfl, fun _ => List.mem_append_right _ List.mem_cons_self⟩
  · intro before after hsplit
    -- no contact is the work, so there is only one way to split the deeds at it
    obtain ⟨rfl, -, rfl⟩ := (List.append_cons_inj_of_notMem (Claimant.work_not_mem _)
      (Claimant.work_not_mem _)).mp (hdeeds.symm.trans hsplit)
    refine ⟨fun deed hdeed => ⟨fun hwork => ?_, fun hrelease => ?_⟩,
      fun deed hdeed => ⟨fun hwork => ?_, fun hacquire => ?_⟩⟩
    · exact Claimant.work_not_mem _ (hwork ▸ hdeed)
    · cases Claimant.errand_of_mem_deeds hdeed hrelease
    · exact Claimant.work_not_mem _ (hwork ▸ hdeed)
    · cases Claimant.errand_of_mem_deeds hdeed hacquire
  · intro output
    rw [hbracket, h]
    exact ⟨fun hok => ⟨rfl, (Except.ok.inj hok).symm⟩, fun hok => congrArg _ hok.2.symm⟩
  · intro fault
    rw [hbracket, h]
    exact ⟨fun heq => (by cases heq), fun heq => (by cases heq)⟩
  · intro output _
    rw [hbracket, held_perform]
  · intro fault heq
    rw [hbracket] at heq
    cases heq

end Cases

theorem bracketAccount (c : Claimant) (work : σ → α × σ) (w : Surroundings σ) (s : σ) :
    BracketAccount c work w s := by
  cases h : (c.perform .acquire w s).outcome with
  | error fault => exact bracketAccount_of_error work h
  | ok u => exact bracketAccount_of_ok work h

end Deeds

end FormLease
