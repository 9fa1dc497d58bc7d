import FormLease.Claimant.Run

/-!
# What a call has to do with its surroundings

Everything that can be said about a call from outside is said about its
contacts: what it asked and got as an answer, how long it rested and how
that ended, and what it told. They are written down by the surroundings
themselves (`Surroundings.traced`), which answer as before, so the trace
is that of the call and not of a copy of its loop. The equations for
`Turn.contacts` follow the three places where a turn can leave a call.
-/

namespace FormLease

inductive Contact where
  | asked (errand : Errand) (id key : String) (kind : LeaseKind) (reply : Except LeaseFault Bool)
  | rested (delay : Span) (result : Except String Unit)
  | heard (teller : Claimant) (event : Event)

/-- The same surroundings, with everything written down in order. -/
def Surroundings.traced {σ : Type} (w : Surroundings σ) : Surroundings (σ × List Contact) where
  ask errand id key kind s :=
    let (reply, next) := w.ask errand id key kind s.1
    (reply, next, s.2 ++ [.asked errand id key kind reply])
  rest delay s :=
    let (result, next) := w.rest delay s.1
    (result, next, s.2 ++ [.rested delay result])
  hear c event s := (w.hear c event s.1, s.2 ++ [.heard c event])

theorem Surroundings.traced_ask {σ : Type} {w : Surroundings σ} {errand : Errand}
    {id key : String} {kind : LeaseKind} {reply : Except LeaseFault Bool} {s s' : σ}
    (h : w.ask errand id key kind s = (reply, s')) (log : List Contact) :
    w.traced.ask errand id key kind (s, log)
      = (reply, s', log ++ [.asked errand id key kind reply]) := by
  change ((w.ask errand id key kind s).1, (w.ask errand id key kind s).2,
    log ++ [.asked errand id key kind (w.ask errand id key kind s).1]) = _
  rw [h]

theorem Surroundings.traced_rest {σ : Type} {w : Surroundings σ} {delay : Span}
    {result : Except String Unit} {s s' : σ} (h : w.rest delay s = (result, s'))
    (log : List Contact) :
    w.traced.rest delay (s, log) = (result, s', log ++ [.rested delay result]) := by
  change ((w.rest delay s).1, (w.rest delay s).2,
    log ++ [.rested delay (w.rest delay s).1]) = _
  rw [h]

namespace Turn

variable {σ : Type} {w : Surroundings σ} {t : Turn} {s s' : σ}

/-! ## How a call goes on -/

theorem finish_ended {outcome : Except LeaseFault Unit} (h : t.progress = .ended outcome) :
    t.finish w s = ⟨t.claimant, outcome, t.heard w s⟩ := by
  rw [finish]
  split
  · next heq => cases heq.symm.trans h; rfl
  · next heq => cases heq.symm.trans h
  · next heq => cases heq.symm.trans h

theorem finish_asking {call : Call} {reply : Except LeaseFault Bool} (h : t.progress = .asking call)
    (hask : w.ask call.errand t.claimant.id t.claimant.key.text t.claimant.kind (t.heard w s)
      = (reply, s')) :
    t.finish w s = (t.claimant.answered call reply).finish w s' := by
  rw [finish]
  split
  · next heq => cases heq.symm.trans h
  · next heq =>
      cases heq.symm.trans h
      simp only [hask]
  · next heq => cases heq.symm.trans h

theorem finish_sleeping {call : Call} {delay : Span} {result : Except String Unit}
    (h : t.progress = .sleeping call delay) (hrest : w.rest delay (t.heard w s) = (result, s')) :
    t.finish w s = (t.claimant.woken call result).finish w s' := by
  rw [finish]
  split
  · next heq => cases heq.symm.trans h
  · next heq => cases heq.symm.trans h
  · next heq =>
      cases heq.symm.trans h
      simp only [hrest]

/-- Surroundings that do not listen stay as they are. -/
theorem heard_of_deaf (hdeaf : ∀ c event s, w.hear c event s = s) (t : Turn) (s : σ) :
    t.heard w s = s := by
  rw [Turn.heard]
  induction t.events with
  | nil => rfl
  | cons event rest ih => rw [List.foldl_cons, hdeaf, ih]

/-! ## Contacts -/

def told (t : Turn) : List Contact := t.events.map (.heard t.claimant)

theorem heard_traced (w : Surroundings σ) (t : Turn) (s : σ) (log : List Contact) :
    t.heard w.traced (s, log) = (t.heard w s, log ++ t.told) := by
  obtain ⟨c, events, progress⟩ := t
  simp only [heard, told]
  induction events generalizing s log with
  | nil => simp only [List.foldl_nil, List.map_nil, List.append_nil]
  | cons event events ih =>
      rw [List.foldl_cons, List.foldl_cons, List.map_cons, List.append_cons]
      exact ih (w.hear c event s) (log ++ [.heard c event])

/-- The contacts of a call from this turn on. -/
def contacts (w : Surroundings σ) (t : Turn) (s : σ) : List Contact :=
  (t.finish w.traced (s, [])).surroundings.2

theorem finish_traced_asking {call : Call} {reply : Except LeaseFault Bool}
    (h : t.progress = .asking call)
    (hask : w.ask call.errand t.claimant.id t.claimant.key.text t.claimant.kind (t.heard w s)
      = (reply, s')) (log : List Contact) :
    t.finish w.traced (s, log) = (t.claimant.answered call reply).finish w.traced (s',
      log ++ t.told ++
        [.asked call.errand t.claimant.id t.claimant.key.text t.claimant.kind reply]) := by
  refine finish_asking h ?_
  rw [heard_traced]
  exact Surroundings.traced_ask hask _

theorem finish_traced_sleeping {call : Call} {delay : Span} {result : Except String Unit}
    (h : t.progress = .sleeping call delay) (hrest : w.rest delay (t.heard w s) = (result, s'))
    (log : List Contact) :
    t.finish w.traced (s, log) = (t.claimant.woken call result).finish w.traced (s',
      log ++ t.told ++ [.rested delay result]) := by
  refine finish_sleeping h ?_
  rw [heard_traced]
  exact Surroundings.traced_rest hrest _

/-- Writing down changes nothing but what is written. -/
theorem finish_traced (w : Surroundings σ) (t : Turn) (s : σ) (log : List Contact) :
    t.finish w.traced (s, log) = ⟨(t.finish w s).claimant, (t.finish w s).outcome,
      (t.finish w s).surroundings, log ++ t.contacts w s⟩ := by
  have hsome : ∃ trace, ∀ log, t.finish w.traced (s, log) = ⟨(t.finish w s).claimant,
      (t.finish w s).outcome, (t.finish w s).surroundings, log ++ trace⟩ := by
    induction t, s using Turn.finish.induct w with
    | case1 t s outcome h =>
        refine ⟨t.told, fun log => ?_⟩
        rw [finish_ended h, finish_ended h, heard_traced]
    | case2 t s _ call h reply s' hask ih =>
        obtain ⟨trace, htrace⟩ := ih
        refine ⟨t.told ++ .asked call.errand t.claimant.id t.claimant.key.text t.claimant.kind
          reply :: trace, fun log => ?_⟩
        rw [finish_asking h hask, finish_traced_asking h hask, htrace, ← List.append_assoc,
          List.append_cons _ _ trace]
    | case3 t s _ call delay h result s' hrest ih =>
        obtain ⟨trace, htrace⟩ := ih
        refine ⟨t.told ++ .rested delay result :: trace, fun log => ?_⟩
        rw [finish_sleeping h hrest, finish_traced_sleeping h hrest, htrace, ← List.append_assoc,
          List.append_cons _ _ trace]
  obtain ⟨trace, htrace⟩ := hsome
  have hcontacts : t.contacts w s = trace := by
    rw [contacts, htrace, List.nil_append]
  rw [hcontacts]
  exact htrace log

theorem contacts_ended {outcome : Except LeaseFault Unit} (h : t.progress = .ended outcome) :
    t.contacts w s = t.told := by
  rw [contacts, finish_ended h, heard_traced, List.nil_append]

theorem contacts_asking {call : Call} {reply : Except LeaseFault Bool}
    (h : t.progress = .asking call)
    (hask : w.ask call.errand t.claimant.id t.claimant.key.text t.claimant.kind (t.heard w s)
      = (reply, s')) :
    t.contacts w s = t.told ++ .asked call.errand t.claimant.id t.claimant.key.text
      t.claimant.kind reply :: (t.claimant.answered call reply).contacts w s' := by
  rw [contacts, finish_traced_asking h hask, finish_traced, List.nil_append, ← List.append_cons]

theorem contacts_sleeping {call : Call} {delay : Span} {result : Except String Unit}
    (h : t.progress = .sleeping call delay) (hrest : w.rest delay (t.heard w s) = (result, s')) :
    t.contacts w s
      = t.told ++ .rested delay result :: (t.claimant.woken call result).contacts w s' := by
  rw [contacts, finish_traced_sleeping h hrest, finish_traced, List.nil_append,
    ← List.append_cons]

end Turn

def Claimant.contacts {σ : Type} (c : Claimant) (errand : Errand) (w : Surroundings σ) (s : σ) :
    List Contact :=
  (c.perform errand w.traced (s, [])).surroundings.2

end FormLease
