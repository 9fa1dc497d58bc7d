import FormLease.Proofs.Table.Desk

/-!
# One holder after the other

The history of one key, read off the ledger of a run at a desk that opens
with an empty table. Two facts carry it:

- a grant leaves the granted lease on the key, and there it stays until
  the next grant or release on the key (`lease?_after_grant`);
- a lease on a key is the one that the latest grant put there, and nothing
  was granted or released on the key since (`granted_of_lease?`).

The first runs forward from a grant and the second backward from a lease,
and together they decide what lies between two grants. The clock enters
only where a claim is granted over a lease that has run out.
-/

namespace FormLease

namespace Desk

/-! ## What a ledger says about a key -/

/-- The visit at position `n` was granted the lease on `key`. -/
def GrantedAt (d : Desk) (requests : List Request) (key : String) (n : Nat) (moment : Moment)
    (id : String) (kind : LeaseKind) : Prop :=
  (d.ledger requests)[n]? = some ⟨moment, .claim id key kind, .claimed true⟩

/-- The visit at position `n` gave up the lease on `key`. -/
def ReleasedAt (d : Desk) (requests : List Request) (key : String) (n : Nat) (id : String) :
    Prop :=
  ∃ moment kind, (d.ledger requests)[n]? = some ⟨moment, .release id key kind, .released true⟩

/-- Nothing was granted on `key` between positions `i` and `j`. -/
def Ungranted (d : Desk) (requests : List Request) (key : String) (i j : Nat) : Prop :=
  ∀ n moment id kind, i < n → n < j → ¬ d.GrantedAt requests key n moment id kind

/-- Nothing was released on `key` between positions `i` and `j`. -/
def Unreleased (d : Desk) (requests : List Request) (key : String) (i j : Nat) : Prop :=
  ∀ n id, i < n → n < j → ¬ d.ReleasedAt requests key n id

section Positions

variable {d : Desk} {requests : List Request} {key : String} {n : Nat}

theorem granted_spec {moment : Moment} {id : String} {kind : LeaseKind}
    (h : d.GrantedAt requests key n moment id kind) :
    (d.before requests n).table.Free moment key
      ∧ (d.before requests (n + 1)).lease? key = some ⟨id, moment + kind.term.nanos⟩ := by
  obtain ⟨hr, hmoment, hreply⟩ := entry_eq h
  simp only at hr hmoment hreply
  rw [before_succ hr, hmoment]
  rcases (d.before requests n).serve_cases (.claim id key kind) key with
    ⟨id', kind', heq, -, hfree, hlease⟩ | ⟨id', kind', _, heq, _⟩ | ⟨hno, -, -⟩
  · obtain ⟨rfl, -, rfl⟩ := Request.claim.inj heq
    exact ⟨hfree, hlease⟩
  · cases heq
  · exact absurd hreply.symm (hno id kind rfl)

theorem released_spec {id : String} (h : d.ReleasedAt requests key n id) :
    (∃ lease, (d.before requests n).lease? key = some lease ∧ lease.holder = id)
      ∧ (d.before requests (n + 1)).lease? key = none := by
  obtain ⟨moment, kind, h⟩ := h
  obtain ⟨hr, -, hreply⟩ := entry_eq h
  simp only at hr hreply
  rw [before_succ hr]
  rcases (d.before requests n).serve_cases (.release id key kind) key with
    ⟨id', kind', heq, _⟩ | ⟨id', kind', lease, heq, -, hlease, hid, hgone⟩ | ⟨-, hno, -⟩
  · cases heq
  · obtain ⟨rfl, -, rfl⟩ := Request.release.inj heq
    exact ⟨⟨lease, hlease, hid⟩, hgone⟩
  · exact absurd hreply.symm (hno id kind rfl)

/-- Where nothing is granted or released on a key, its lease stays. -/
theorem lease?_succ_of_quiet
    (hgrant : ∀ moment id kind, ¬ d.GrantedAt requests key n moment id kind)
    (hrelease : ∀ id, ¬ d.ReleasedAt requests key n id) :
    (d.before requests (n + 1)).lease? key = (d.before requests n).lease? key := by
  cases hr : requests[n]? with
  | none => rw [before_of_end hr]
  | some r =>
      have hentry := getElem?_ledger d requests n
      rw [hr, Option.map_some] at hentry
      rw [before_succ hr]
      rcases (d.before requests n).serve_cases r key with
        ⟨id, kind, rfl, hreply, _⟩ | ⟨id, kind, _, rfl, hreply, _⟩ | ⟨-, -, hsame⟩
      · rw [hreply] at hentry
        exact absurd hentry (hgrant _ id kind)
      · rw [hreply] at hentry
        exact absurd ⟨_, kind, hentry⟩ (hrelease id)
      · exact hsame

/-- What was granted stays until something is granted or released on the
key again. -/
theorem lease?_after_grant {i j : Nat} {moment : Moment} {id : String} {kind : LeaseKind}
    (h : d.GrantedAt requests key i moment id kind) (hij : i < j)
    (hgrant : d.Ungranted requests key i j)
    (hrelease : d.Unreleased requests key i j) :
    (d.before requests j).lease? key = some ⟨id, moment + kind.term.nanos⟩ := by
  induction hij with
  | refl => exact (granted_spec h).2
  | @step j hij ih =>
      rw [lease?_succ_of_quiet (fun _ _ _ => hgrant j _ _ _ hij (Nat.lt_succ_self j))
        (fun _ => hrelease j _ hij (Nat.lt_succ_self j))]
      exact ih (fun n _ _ _ hin hnj => hgrant n _ _ _ hin (Nat.lt_succ_of_lt hnj))
        (fun n _ hin hnj => hrelease n _ hin (Nat.lt_succ_of_lt hnj))

end Positions

/-- Behind every lease is the grant that put it there, and nothing was
granted or released on its key since. -/
theorem granted_of_lease? {now : Moment} {requests : List Request} {key : String} {lease : Lease} :
    ∀ {n : Nat}, ((opened now).before requests n).lease? key = some lease →
      ∃ i moment kind, i < n
        ∧ (opened now).GrantedAt requests key i moment lease.holder kind
        ∧ lease.expiry = moment + kind.term.nanos
        ∧ (opened now).Ungranted requests key i n
        ∧ (opened now).Unreleased requests key i n
  | 0, h => by cases h
  | n + 1, h => by
      by_cases hgrant : ∃ moment id kind,
          (opened now).GrantedAt requests key n moment id kind
      · obtain ⟨moment, id, kind, hgrant⟩ := hgrant
        obtain rfl := Option.some.inj ((granted_spec hgrant).2.symm.trans h)
        exact ⟨n, moment, kind, Nat.lt_succ_self n, hgrant, rfl,
          fun _ _ _ _ _ _ => by omega, fun _ _ _ _ => by omega⟩
      · by_cases hrelease : ∃ id, (opened now).ReleasedAt requests key n id
        · obtain ⟨id, hrelease⟩ := hrelease
          rw [(released_spec hrelease).2] at h
          cases h
        · rw [lease?_succ_of_quiet (fun _ _ _ hg => hgrant ⟨_, _, _, hg⟩)
            (fun _ hr => hrelease ⟨_, hr⟩)] at h
          obtain ⟨i, moment, kind, hin, hg, hexp, hug, hur⟩ := granted_of_lease? h
          refine ⟨i, moment, kind, Nat.lt_succ_of_lt hin, hg, hexp, ?_, ?_⟩
          · intro m t id k him hmn hm
            rcases Nat.lt_succ_iff_lt_or_eq.mp hmn with hlt | rfl
            · exact hug m t id k him hlt hm
            · exact hgrant ⟨t, id, k, hm⟩
          · intro m id him hmn hm
            rcases Nat.lt_succ_iff_lt_or_eq.mp hmn with hlt | rfl
            · exact hur m id him hlt hm
            · exact hrelease ⟨id, hm⟩

/-! ## Releases and the grants they belong to -/

/-- The latest grant before a position is one only. -/
theorem latest_unique {d : Desk} {requests : List Request} {key : String} {i j n : Nat}
    {t u : Moment} {a b : String} {kind kind' : LeaseKind}
    (hi : d.GrantedAt requests key i t a kind) (hin : i < n)
    (hj : d.GrantedAt requests key j u b kind') (hjn : j < n)
    (hiu : d.Ungranted requests key i n) (hju : d.Ungranted requests key j n) : i = j := by
  rcases Nat.lt_trichotomy i j with hlt | heq | hlt
  · exact absurd hj (hiu j u b kind' hlt hjn)
  · exact heq
  · exact absurd hi (hju i t a kind hlt hin)

/-- A release gives up what the latest grant on its key gave to the same
visitor, and nobody else did so in between. -/
theorem grant_of_released {now : Moment} {requests : List Request} {key : String} {n : Nat}
    {id : String} (h : (opened now).ReleasedAt requests key n id) :
    ∃ i moment kind, i < n
      ∧ (opened now).GrantedAt requests key i moment id kind
      ∧ (opened now).Ungranted requests key i n
      ∧ (opened now).Unreleased requests key i n := by
  obtain ⟨⟨lease, hlease, hid⟩, -⟩ := released_spec h
  obtain ⟨i, moment, kind, hin, hgrant, -, hug, hur⟩ := granted_of_lease? hlease
  exact ⟨i, moment, kind, hin, hid ▸ hgrant, hug, hur⟩

/-- The same for a release after a given latest grant. -/
theorem released_after_grant {now : Moment} {requests : List Request} {key : String} {i n : Nat}
    {moment : Moment} {a id : String} {kind : LeaseKind}
    (hgrant : (opened now).GrantedAt requests key i moment a kind) (hin : i < n)
    (hug : (opened now).Ungranted requests key i n)
    (hrelease : (opened now).ReleasedAt requests key n id) :
    id = a ∧ (opened now).Unreleased requests key i n := by
  obtain ⟨j, t, kind', hjn, hgrant', hug', hur⟩ := grant_of_released hrelease
  obtain rfl := latest_unique hgrant hin hgrant' hjn hug hug'
  have hentry := Option.some.inj (hgrant.symm.trans hgrant')
  injection hentry with _ hrequest _
  obtain ⟨rfl, -, -⟩ := Request.claim.inj hrequest
  exact ⟨rfl, hur⟩

/-- Between two grants that follow each other there is exactly one
release, by the first holder, or none, and then the first lease has run
out. -/
theorem handover {now : Moment} {requests : List Request} {key : String} {i j : Nat}
    {t₁ t₂ : Moment} {a b : String} {kind kind' : LeaseKind} (hij : i < j)
    (hfirst : (opened now).GrantedAt requests key i t₁ a kind)
    (hsecond : (opened now).GrantedAt requests key j t₂ b kind')
    (hug : (opened now).Ungranted requests key i j) :
    (∃ n, i < n ∧ n < j ∧ (opened now).ReleasedAt requests key n a
        ∧ ∀ m id, i < m → m < j →
          (opened now).ReleasedAt requests key m id → m = n)
      ∨ ((opened now).Unreleased requests key i j
        ∧ t₁ + kind.term.nanos ≤ t₂) := by
  have huntil : ∀ n, n < j → (opened now).Ungranted requests key i n :=
    fun n hnj m t id k him hmn => hug m t id k him (Nat.lt_trans hmn hnj)
  by_cases hrelease : ∃ n id, i < n ∧ n < j
      ∧ (opened now).ReleasedAt requests key n id
  · obtain ⟨n, id, hin, hnj, hn⟩ := hrelease
    obtain ⟨rfl, hur⟩ := released_after_grant hfirst hin (huntil n hnj) hn
    refine Or.inl ⟨n, hin, hnj, hn, fun m id him hmj hm => ?_⟩
    obtain ⟨-, hur'⟩ := released_after_grant hfirst him (huntil m hmj) hm
    rcases Nat.lt_trichotomy m n with hlt | heq | hlt
    · exact absurd hm (hur m id him hlt)
    · exact heq
    · exact absurd hn (hur' n _ hin hlt)
  · have hur : (opened now).Unreleased requests key i j :=
      fun n id hin hnj hn => hrelease ⟨n, id, hin, hnj, hn⟩
    refine Or.inr ⟨hur, ?_⟩
    -- the first lease is still on the key when the second claim comes
    exact (granted_spec hsecond).1 _ (lease?_after_grant hfirst hij hug hur)

/-- Whoever lost a key to somebody else cannot release it, and the attempt
changes nothing. -/
theorem release_after_takeover {now : Moment} {requests : List Request} {key : String}
    {i n : Nat} {t t' : Moment} {a b : String} {kind kind' : LeaseKind} {reply : Reply}
    (hin : i < n) (hgrant : (opened now).GrantedAt requests key i t b kind)
    (hug : (opened now).Ungranted requests key i n) (hab : a ≠ b)
    (hentry : ((opened now).ledger requests)[n]? = some ⟨t', .release a key kind', reply⟩) :
    reply = .released false
      ∧ (opened now).before requests (n + 1) = (opened now).before requests n := by
  obtain ⟨hr, -, hreply⟩ := entry_eq hentry
  simp only at hr hreply
  rw [before_succ hr]
  rcases ((opened now).before requests n).serve_release_cases a key kind' with
    ⟨lease, hlease, hid, hserve⟩ | ⟨-, hserve⟩
  · have hreleased : (opened now).ReleasedAt requests key n a := by
      refine ⟨t', kind', ?_⟩
      rw [hentry, hreply, hserve]
    exact absurd (released_after_grant hgrant hin hug hreleased).1 hab
  · rw [hreply, hserve]
    exact ⟨rfl, rfl⟩

/-! ## The history of a key -/

/-- **One holder after the other.** At a desk that opens with an empty
table, whatever is asked by whom:

- between two grants on a key that follow each other, the first at `t₁` to
  `a`, exactly one release on the key succeeds, and it is `a`'s, or none
  does and the second grant comes no earlier than the term of the first;
- every release that succeeds has a grant of its own: an earlier one, on
  the same key and to the same visitor, with no other grant on the key
  between the two;
- whoever lost the key to another visitor is refused when releasing it,
  and the desk stays as it was. -/
theorem single_holder_history (now : Moment) (requests : List Request) (key : String) :
    (∀ i j t₁ t₂ a b kind kind', i < j →
      (opened now).GrantedAt requests key i t₁ a kind →
      (opened now).GrantedAt requests key j t₂ b kind' →
      (opened now).Ungranted requests key i j →
      (∃ n, i < n ∧ n < j ∧ (opened now).ReleasedAt requests key n a
          ∧ ∀ m id, i < m → m < j →
            (opened now).ReleasedAt requests key m id → m = n)
        ∨ ((opened now).Unreleased requests key i j
          ∧ t₁ + kind.term.nanos ≤ t₂))
    ∧ (∃ grantOf : Nat → Nat,
      (∀ n id, (opened now).ReleasedAt requests key n id →
        grantOf n < n
          ∧ (∃ moment kind,
            (opened now).GrantedAt requests key (grantOf n) moment id kind)
          ∧ (opened now).Ungranted requests key (grantOf n) n)
      ∧ ∀ m n a b, (opened now).ReleasedAt requests key m a →
        (opened now).ReleasedAt requests key n b →
        grantOf m = grantOf n → m = n)
    ∧ (∀ i n t t' a b kind kind' reply, i < n →
      (opened now).GrantedAt requests key i t b kind →
      (opened now).Ungranted requests key i n → a ≠ b →
      ((opened now).ledger requests)[n]? = some ⟨t', .release a key kind', reply⟩ →
      reply = .released false
        ∧ (opened now).before requests (n + 1) = (opened now).before requests n) := by
  refine ⟨fun i j t₁ t₂ a b kind kind' => handover, ?_,
    fun i n t t' a b kind kind' reply => release_after_takeover⟩
  -- the grant of a release is the one that `grant_of_released` finds
  have hchoice : ∀ n, ∃ i, ∀ id, (opened now).ReleasedAt requests key n id →
      i < n
        ∧ (∃ moment kind, (opened now).GrantedAt requests key i moment id kind)
        ∧ (opened now).Ungranted requests key i n
        ∧ (opened now).Unreleased requests key i n := by
    intro n
    by_cases h : ∃ id, (opened now).ReleasedAt requests key n id
    · obtain ⟨id, h⟩ := h
      obtain ⟨i, moment, kind, hin, hgrant, hug, hur⟩ := grant_of_released h
      refine ⟨i, fun id' h' => ?_⟩
      obtain ⟨rfl, -⟩ := released_after_grant hgrant hin hug h'
      exact ⟨hin, ⟨moment, kind, hgrant⟩, hug, hur⟩
    · exact ⟨0, fun id hid => absurd ⟨id, hid⟩ h⟩
  obtain ⟨grantOf, hgrantOf⟩ := Classical.skolem.mp hchoice
  refine ⟨grantOf, fun n id h => ?_, fun m n a b hm hn heq => ?_⟩
  · obtain ⟨hlt, hgrant, hug, -⟩ := hgrantOf n id h
    exact ⟨hlt, hgrant, hug⟩
  · obtain ⟨hlt, -, -, hur⟩ := hgrantOf m a hm
    obtain ⟨hlt', -, -, hur'⟩ := hgrantOf n b hn
    rcases Nat.lt_trichotomy m n with h | h | h
    · exact absurd hm (hur' m a (heq ▸ hlt) h)
    · exact h
    · exact absurd hn (hur n b (heq ▸ hlt') h)

end Desk

end FormLease
