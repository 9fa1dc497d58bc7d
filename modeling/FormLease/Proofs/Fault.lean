import FormLease.Proofs.Call.Account
import FormLease.Proofs.Call.InStep
import Mathlib.Data.List.Chain

/-!
# No cause is lost

A fault is shown in two ways: by its own text, which ends in the text of
what is behind it, and by the texts of the faults behind it, one by one. The
two agree only if each fault that puts a text in front of another is also a
link in front of it. A failed store and a fault of the database or of Redis
are both; a fault of the services a process sets up is neither. So it does not
matter at which depth such a service reports a fault of the database or of
Redis: nothing that can be read off the whole changes (`LeaseFault.Reported`).

`Fault.Behind` follows the causes by itself, without the measure that `chain`
ends by. What holds of all links is an induction on it.
-/

namespace FormLease

/-- The second text is how the first one ends. -/
def Text.EndsIn (s t : String) : Prop := t.toList <:+ s.toList

theorem Text.endsIn_append (lead t : String) : EndsIn (lead ++ t) t := by
  rw [EndsIn, String.toList_append]
  exact List.suffix_append ..

/-! ## Texts -/

theorem Fault.message_lease (f : LeaseFault) : (Fault.lease f).message = f.message := rfl

namespace LeaseFault

theorem message_service (s : ServiceFault) : (service s).message = s.message := rfl

theorem message_storeFailed (key : String) (cause : Fault) : (storeFailed key cause).message
    = "锁存储故障: resource_key=" ++ key ++ ": " ++ cause.message := rfl

end LeaseFault

/-! ## One link -/

theorem DatabaseFault.message_endsIn {f : DatabaseFault} {t : String} (h : f.cause? = some t) :
    Text.EndsIn f.message t := by
  cases f with
  | migration cause => exact Option.some.inj h ▸ List.suffix_rfl
  | _ => cases h <;> exact Text.endsIn_append _ _

/-- What stands behind it in a chain has the text that it names. -/
theorem DatabaseFault.cause?_eq_message (f : DatabaseFault) {c : Fault}
    (h : (Fault.database f).cause? = some c) : f.cause? = some c.message := by
  cases f <;> cases h <;> rfl

/-- Where there is something behind a fault of Redis, it says the same. -/
theorem RedisFault.message_eq {f : RedisFault} {t : String} (h : f.cause? = some t) :
    f.message = t := by
  cases f with
  | raised kind text detail => cases h
  | _ => exact Option.some.inj h

theorem ServiceFault.message_endsIn (f : ServiceFault) : Text.EndsIn f.message f.cause.message := by
  cases f <;> exact Text.endsIn_append _ _

theorem LeaseFault.message_endsIn {f : LeaseFault} {c : Fault} (h : f.cause? = some c) :
    Text.EndsIn f.message c.message := by
  cases f with
  | invalidArgument field reason => cases h
  | timedOut id key => cases h
  | storeFailed key cause => exact Option.some.inj h ▸ Text.endsIn_append _ _
  | database d => exact Option.some.inj h ▸ Text.endsIn_append _ _
  | redis r => exact Option.some.inj h ▸ Text.endsIn_append _ _
  | service s => exact Option.some.inj h ▸ s.message_endsIn

namespace Fault

theorem message_endsIn {f c : Fault} (h : f.cause? = some c) : Text.EndsIn f.message c.message := by
  cases f with
  | plain text => cases h
  | interrupted text => cases h
  | settings s => cases h
  | lease l => exact LeaseFault.message_endsIn h
  | redis r =>
      obtain ⟨t, ht, rfl⟩ := Option.map_eq_some_iff.mp h
      exact RedisFault.message_eq ht ▸ List.suffix_rfl
  | database d => exact DatabaseFault.message_endsIn (d.cause?_eq_message h)

/-! ## All links -/

/-- These are the faults behind a fault, nearest first, and behind the last
of them there is none. -/
inductive Behind : Fault → List Fault → Prop where
  | last {f : Fault} (none : f.cause? = none) : Behind f []
  | link {f c : Fault} {causes : List Fault} (next : f.cause? = some c) (rest : Behind c causes) :
    Behind f (c :: causes)

variable {f c : Fault}

theorem chain_of_last (h : f.cause? = none) : f.chain = [] := by
  rw [chain]
  split
  · rfl
  · next hsome => cases hsome.symm.trans h

theorem chain_of_cause (h : f.cause? = some c) : f.chain = c.message :: c.chain := by
  rw [chain]
  split
  · next hnone => cases hnone.symm.trans h
  · next hsome => cases hsome.symm.trans h; rfl

/-- From every fault one comes to a last one. -/
theorem exists_behind (f : Fault) : ∃ causes, f.Behind causes := by
  induction f using Fault.chain.induct with
  | case1 f hnone => exact ⟨[], .last hnone⟩
  | case2 f c hsome ih =>
      obtain ⟨causes, hbehind⟩ := ih
      exact ⟨c :: causes, .link hsome hbehind⟩

theorem Behind.chain_eq {causes : List Fault} (h : f.Behind causes) :
    f.chain = causes.map message := by
  induction h with
  | last none => exact chain_of_last none
  | link next _ ih => rw [chain_of_cause next, ih, List.map_cons]

theorem Behind.endsIn {causes : List Fault} (h : f.Behind causes) :
    List.IsChain Text.EndsIn (f.message :: causes.map message) := by
  induction h with
  | last none => exact List.isChain_singleton _
  | link next _ ih => exact List.isChain_cons_cons.mpr ⟨message_endsIn next, ih⟩

end Fault

/-! ## Faults that services report -/

namespace LeaseFault

theorem chain_storeFailed (key : String) (cause : Fault) :
    (storeFailed key cause).chain = cause.message :: cause.chain :=
  Fault.chain_of_cause rfl

/-- The second fault is the first, but that a service reports the fault of
the database or of Redis inside it, however many failed stores there are
around that. -/
inductive Reported : LeaseFault → LeaseFault → Prop where
  | database (d : DatabaseFault) : Reported (.database d) (.service (.database d))
  | redis (r : RedisFault) : Reported (.redis r) (.service (.redis r))
  | inside (key : String) {f g : LeaseFault} (within : Reported f g) :
    Reported (.storeFailed key (.lease f)) (.storeFailed key (.lease g))

variable {f g : LeaseFault}

theorem Reported.code_eq (h : f.Reported g) : g.code = f.code := by
  cases h <;> rfl

theorem Reported.retryable_eq (h : f.Reported g) : g.retryable = f.retryable := by
  cases h <;> rfl

theorem Reported.message_eq (h : f.Reported g) : g.message = f.message := by
  induction h with
  -- a service puts the label in front that is put there without it
  | database d => exact message_service (.database d)
  | redis r => exact message_service (.redis r)
  | inside key _ ih =>
      rw [message_storeFailed, message_storeFailed, Fault.message_lease, Fault.message_lease, ih]

theorem Reported.chain_eq (h : f.Reported g) : g.chain = f.chain := by
  induction h with
  | database d => exact (Fault.chain_of_cause rfl).trans (Fault.chain_of_cause rfl).symm
  | redis r => exact (Fault.chain_of_cause rfl).trans (Fault.chain_of_cause rfl).symm
  | inside key within ih =>
      rw [chain_storeFailed, chain_storeFailed]
      refine List.cons_eq_cons.mpr ⟨?_, ih⟩
      rw [Fault.message_lease, Fault.message_lease, within.message_eq]

end LeaseFault

namespace Claimant

/-- An acquire passes the fault of its store on. -/
theorem outcome_of_store_fault {σ : Type} {c : Claimant} {w : Surroundings σ} {s : σ}
    {fault : LeaseFault} (h : .error fault ∈ replies (c.dealings .acquire w s)) :
    (c.perform .acquire w s).outcome = .error (.storeFailed c.key.text (.lease fault)) := by
  obtain ⟨delays, k, rounds⟩ := rounds_perform w c .acquire s
  have hlog : c.dealings .acquire w s
      = delays.flatMap (c.round .acquire) ++ k.contacts c .acquire := rounds.dealings
  rw [hlog, replies_rounds] at h
  have hreply : .error fault = k.reply := by
    rcases List.mem_append.mp h with hearlier | hlast
    · cases List.eq_of_mem_replicate hearlier
    · exact List.mem_singleton.mp hlast
  have houtcome : (c.perform .acquire w s).outcome = k.outcome c .acquire := rounds.outcome
  rw [houtcome]
  cases k with
  | failed store => cases hreply; rfl
  | _ => cases hreply

end Claimant

namespace LeaseFault

/-- **No cause is lost in a fault.** From every fault one comes to a last
cause by going from cause to cause, and the chain of the fault is the texts
met on the way. The first of them is how the text of the fault ends, and each
further one is how the text before it ends.

Where a fault of the database or of Redis is inside a fault, at any depth, it
can as well be reported by a service: the text, the code, whether it makes
sense to try again and the chain stay the same.

So an acquire whose store fails has the text of that fault and then its chain
as its own chain. -/
theorem no_cause_lost :
    (∀ f : LeaseFault,
      (∃ causes, (Fault.lease f).Behind causes ∧ f.chain = causes.map Fault.message)
      ∧ List.IsChain Text.EndsIn (f.message :: f.chain))
    ∧ (∀ f g : LeaseFault, f.Reported g → g.message = f.message ∧ g.code = f.code
      ∧ g.retryable = f.retryable ∧ g.chain = f.chain)
    ∧ ∀ (c : Claimant) (σ : Type) (w : Surroundings σ) (s : σ) (fault : LeaseFault),
      .error fault ∈ replies (c.dealings .acquire w s) →
      ∃ failure, (c.perform .acquire w s).outcome = .error failure
        ∧ failure.chain = fault.message :: fault.chain := by
  refine ⟨fun f => ?_, fun f g h => ⟨h.message_eq, h.code_eq, h.retryable_eq, h.chain_eq⟩,
    fun c σ w s fault h => ⟨_, Claimant.outcome_of_store_fault h, chain_storeFailed ..⟩⟩
  obtain ⟨causes, hbehind⟩ := (Fault.lease f).exists_behind
  have hchain : f.chain = causes.map Fault.message := hbehind.chain_eq
  refine ⟨⟨causes, hbehind, hchain⟩, ?_⟩
  rw [hchain]
  exact hbehind.endsIn

/-- Two stores, one within the other, fail over a connection that cannot be
made, and the service within says so. -/
theorem no_cause_lost_nested :
    let link := DatabaseFault.link "refused"
    let reported := storeFailed "a" (.lease (.storeFailed "b" (.lease (.service (.database link)))))
    let c := Claimant.create ⟨"f", 0⟩ "id" "u" fun _ => 0
    let w := Claimant.reciting (fun _ => .error reported) fun _ => .ok ()
    (storeFailed "a" (.lease (.storeFailed "b" (.lease (.database link))))).Reported reported
    ∧ reported.chain
      = ["锁存储故障: resource_key=b: 数据库错误: error communicating with database: refused",
        "数据库错误: error communicating with database: refused",
        "error communicating with database: refused", "refused"]
    ∧ .error reported ∈ replies (c.dealings .acquire w (0, 0))
    ∧ reported.code = "LOCK_STORE_FAILURE" ∧ reported.retryable = false
    ∧ ∃ failure, (c.perform .acquire w (0, 0)).outcome = .error failure
      ∧ failure.chain = reported.message :: reported.chain := by
  intro link reported c w
  have hreported : (storeFailed "a" (.lease (.storeFailed "b" (.lease (.database link))))).Reported
      reported := .inside "a" (.inside "b" (.database link))
  have hasked : w.ask .acquire c.id c.key.text c.kind (0, 0) = (.error reported, (1, 0)) := rfl
  have hfault : .error reported ∈ replies (c.dealings .acquire w (0, 0)) := by
    have hdealings : c.dealings .acquire w (0, 0) = _ := Turn.dealings_asking rfl hasked
    rw [hdealings]
    exact List.mem_cons_self
  obtain ⟨-, hcode, hretryable, hchain⟩ := no_cause_lost.2.1 _ _ hreported
  refine ⟨hreported, ?_, hfault, hcode, hretryable, no_cause_lost.2.2 c _ w (0, 0) _ hfault⟩
  rw [hchain, chain_storeFailed, Fault.chain_of_cause rfl, Fault.chain_of_cause rfl,
    Fault.chain_of_cause rfl, Fault.chain_of_last rfl]
  rfl

end LeaseFault

end FormLease
