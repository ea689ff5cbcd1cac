import RoboLake.Registry.Leases
import RoboLake.Guarantees.Fencing

/-! # Lease ownership and capacity

No session is owned by an upload and by a completion at one time, and however
leases are granted, renewed, replayed, taken over and ended, no more of them are
live than the capacity that every grant was asked to respect.
-/

namespace RoboLake

open Foundation Store Work

section Ownership

variable [Platform] {r : Registry}

/-! ## Exclusive ownership -/

omit [Platform] in
theorem isUploadOwned_iff {state : SessionState} :
    isUploadOwned state = true ↔
      state = .created ∨ state = .initiating ∨ state = .inProgress := by
  cases state <;> simp [isUploadOwned]

/-- A live admission belongs to a session under upload and a live completion lease to accepted
work, so no session has both and no terminal session has either. -/
theorem phases_are_owned_exclusively (h : store.Reachable r) {t : Timestamp} (ht : r.now ≤ t) :
    (∀ l ∈ r.db.admissionLeases.rows, t < l.expiresAt →
      ∃ u, r.db.sessions.get? l.uploadSessionId = some u ∧
        (u.state = .created ∨ u.state = .initiating ∨ u.state = .inProgress)) ∧
    (∀ l ∈ r.db.completionLeases.rows, t < l.expiresAt →
      ∃ u, r.db.sessions.get? l.uploadSessionId = some u ∧ u.state = .completing) ∧
    (∀ a ∈ r.db.admissionLeases.rows, ∀ c ∈ r.db.completionLeases.rows,
      a.uploadSessionId = c.uploadSessionId → ¬(t < a.expiresAt ∧ t < c.expiresAt)) ∧
    ∀ u ∈ r.db.sessions.rows, u.state.isTerminal = true →
      (∀ l ∈ r.db.admissionLeases.rows, l.uploadSessionId = u.id → l.expiresAt ≤ t) ∧
      ∀ l ∈ r.db.completionLeases.rows, l.uploadSessionId = u.id → l.expiresAt ≤ t := by
  have howned := owned_of_reachable h
  have hadmission : ∀ l ∈ r.db.admissionLeases.rows, t < l.expiresAt →
      ∃ u, r.db.sessions.get? l.uploadSessionId = some u ∧
        (u.state = .created ∨ u.state = .initiating ∨ u.state = .inProgress) := by
    intro l hl hlive
    have hget : r.db.admissionLeases.get? l.uploadSessionId = some l := Relation.get?_of_mem hl
    obtain ⟨u, hu, _, hok⟩ := howned.admission _ l hget
    exact ⟨u, hu, isUploadOwned_iff.mp (hok (lt_of_le_of_lt ht hlive))⟩
  have hcompletion : ∀ l ∈ r.db.completionLeases.rows, t < l.expiresAt →
      ∃ u, r.db.sessions.get? l.uploadSessionId = some u ∧ u.state = .completing := by
    intro l hl hlive
    have hget : r.db.completionLeases.get? l.uploadSessionId = some l := Relation.get?_of_mem hl
    obtain ⟨u, hu, _, hok⟩ := howned.completion _ l hget
    exact ⟨u, hu, hok (lt_of_le_of_lt ht hlive)⟩
  refine ⟨hadmission, hcompletion, ?_, ?_⟩
  · intro a ha c hc hkey hlive
    obtain ⟨u, hu, hupload⟩ := hadmission a ha hlive.1
    obtain ⟨u', hu', hcompleting⟩ := hcompletion c hc hlive.2
    rw [hkey, hu'] at hu
    cases hu
    rw [hcompleting] at hupload
    simp at hupload
  · intro u hu hterminal
    have hget : r.db.sessions.get? u.id = some u := Relation.get?_of_mem hu
    refine ⟨?_, ?_⟩
    · intro l hl hkey
      by_contra hlive
      obtain ⟨x, hx, hupload⟩ := hadmission l hl (Nat.lt_of_not_le hlive)
      rw [hkey, hget] at hx
      cases hx
      rcases hupload with hstate | hstate | hstate <;> rw [hstate] at hterminal <;> cases hterminal
    · intro l hl hkey
      by_contra hlive
      obtain ⟨x, hx, hcompleting⟩ := hcompletion l hl (Nat.lt_of_not_le hlive)
      rw [hkey, hget] at hx
      cases hx
      rw [hcompleting] at hterminal
      cases hterminal

end Ownership

namespace Sample

set_option maxRecDepth 100000 in
/-- A live admission is of a session under upload and a live claim of accepted work, whose
admission has ended; of the published session neither lives. -/
theorem sample_phases_are_exclusive :
    (∃ u, (store.runFrom store.start takeover).db.sessions.get? 300 = some u ∧
      (u.state = .created ∨ u.state = .initiating ∨ u.state = .inProgress)) ∧
    (∃ u, (store.runFrom store.start claimed).db.sessions.get? 300 = some u ∧
      u.state = .completing) ∧
    (∀ a ∈ (store.runFrom store.start claimed).db.admissionLeases.rows,
      a.uploadSessionId = 300 → a.expiresAt ≤ (store.runFrom store.start claimed).now) ∧
    (∀ l ∈ (store.runFrom store.start published).db.admissionLeases.rows,
      l.uploadSessionId = 300 → l.expiresAt ≤ (store.runFrom store.start published).now) ∧
    ∀ l ∈ (store.runFrom store.start published).db.completionLeases.rows,
      l.uploadSessionId = 300 → l.expiresAt ≤ (store.runFrom store.start published).now := by
  have hadmission : ((store.runFrom store.start takeover).db.admissionLeases.get? 300).any
      (fun l => (store.runFrom store.start takeover).now < l.expiresAt) = true := by
    rw [takeover, runFrom_resolution]
    decide
  obtain ⟨hclaim, hsession, _⟩ := published_facts
  obtain ⟨a, ha, hlive⟩ := (Option.any_eq_true _ _).mp hadmission
  obtain ⟨c, hc, hclaimed⟩ := (Option.any_eq_true _ _).mp hclaim
  obtain ⟨u, hu, hrow⟩ := (Option.any_eq_true _ _).mp hsession
  have hka : a.uploadSessionId = 300 := Relation.key_of_get? ha
  have hkc : c.uploadSessionId = 300 := Relation.key_of_get? hc
  have hku : u.id = 300 := Relation.key_of_get? hu
  have hterminal : u.state.isTerminal = true := by
    rw [(of_decide_eq_true hrow).2.2]
    rfl
  obtain ⟨hupload, _⟩ := phases_are_owned_exclusively ⟨takeover, rfl⟩ (Nat.le_refl _)
  obtain ⟨_, hwork, hexclusive, _⟩ := phases_are_owned_exclusively reachable_claimed (Nat.le_refl _)
  obtain ⟨_, _, _, hended⟩ := phases_are_owned_exclusively reachable_published (Nat.le_refl _)
  have hmem := Relation.mem_of_get? hc
  have hclive := of_decide_eq_true hclaimed
  refine ⟨hka ▸ hupload a (Relation.mem_of_get? ha) (of_decide_eq_true hlive),
    hkc ▸ hwork c hmem hclive, fun x hx hkey => ?_, ?_⟩
  · by_contra hxlive
    exact hexclusive x hx c hmem (hkey.trans hkc.symm) ⟨Nat.lt_of_not_le hxlive, hclive⟩
  · exact hku ▸ hended u (Relation.mem_of_get? hu) hterminal

end Sample

/-! ## Capacity -/

section Capacity

variable [Platform] {env : Env} {r : Registry}

def Operation.admissionCapacity : Operation → Option Int
  | .acquireMultipartLease _ _ _ _ capacity => some capacity
  | _ => none

def Operation.completionCapacity : Operation → Option Int
  | .claimCompletion _ _ capacity => some capacity
  | _ => none

theorem activeAdmissions_mono {db : Database} {t t' : Timestamp} (h : t ≤ t') :
    activeAdmissions db t' ≤ activeAdmissions db t :=
  Relation.live_mono MultipartAdmissionLeaseModel.expiresAt h

theorem activeCompletions_mono {db : Database} {t t' : Timestamp} (h : t ≤ t') :
    activeCompletions db t' ≤ activeCompletions db t :=
  Relation.live_mono MultipartCompletionLeaseModel.expiresAt h

/-! ## One step -/

omit [Platform] in
theorem live_insert_of_lt {ρ : Type} [Keyed ρ UUID] {e : ρ → Timestamp} {t : Relation ρ} {l : ρ}
    {C : Int} {now now' : Timestamp} (hcapacity : (t.live e now : Int) < C) (hle : now ≤ now')
    (hnone : t.get? (key l) = none) : (t.insert l).live e now' ≤ C.toNat := by
  have hone := Relation.live_insert_le e hnone now'
  have hlive := Relation.live_mono (t := t) e hle
  omega

omit [Platform] in
theorem live_replace_of_lt {ρ : Type} [Keyed ρ UUID] {e : ρ → Timestamp} {t : Relation ρ} {l : ρ}
    {C : Int} {now now' : Timestamp} (hcapacity : (t.live e now : Int) < C) (hle : now ≤ now') :
    (t.replace l).live e now' ≤ C.toNat := by
  have hone := Relation.live_replace_le (t := t) (r := l) e now'
  have hlive := Relation.live_mono (t := t) e hle
  omega

theorem admissions_of_effect {op : Operation} {db : Database} {C : Int}
    (heffect : Effect env r op db) (hC : ∀ n, op.admissionCapacity = some n → n = C)
    (h : activeAdmissions r.db r.now ≤ C.toNat) :
    activeAdmissions db (r.later env) ≤ C.toNat := by
  have hle := now_le_later r env
  have hsame := (activeAdmissions_mono hle).trans h
  have hreplace {k : UUID} {l l' : MultipartAdmissionLeaseModel}
      (hl : r.db.admissionLeases.get? k = some l) (hkey : l'.uploadSessionId = l.uploadSessionId)
      (hlive : r.later env < l'.expiresAt → r.now < l.expiresAt) :
      (r.db.admissionLeases.replace l').live MultipartAdmissionLeaseModel.expiresAt
        (r.later env) ≤ C.toNat := by
    have hl' := (Relation.get?_key hl :)
    rw [key_admissionLease, ← hkey] at hl'
    exact (Relation.live_replace_of_live MultipartAdmissionLeaseModel.expiresAt hl' hle
      hlive).trans h
  cases heffect with
  | admissionGranted _ _ _ _ hlater _ hnone _ hcapacity =>
      rw [hC _ rfl] at hcapacity
      exact live_insert_of_lt hcapacity hlater hnone
  | admissionTaken _ _ _ _ hlater _ _ _ _ _ hcapacity =>
      rw [hC _ rfl] at hcapacity
      exact live_replace_of_lt hcapacity hlater
  | admissionRenewed _ _ _ hnow _ _ hl hlive hl' _ =>
      subst hl'
      exact hreplace hl rfl fun _ => lt_of_le_of_lt hnow hlive
  | admissionReleased hl _ hexpires =>
      exact hreplace hl rfl fun hlive => absurd hlive (Nat.not_lt.mpr hexpires)
  | initiationAmbiguous _ hl _ _ hexpires =>
      exact hreplace hl rfl fun hlive => absurd hlive (Nat.not_lt.mpr hexpires)
  | completionAccepted _ _ hl _ _ _ hlater _ =>
      exact hreplace hl rfl fun hlive => absurd hlive (Nat.not_lt.mpr hlater)
  | _ => exact hsame

theorem completions_of_effect {op : Operation} {db : Database} {D : Int}
    (heffect : Effect env r op db) (hD : ∀ n, op.completionCapacity = some n → n = D)
    (h : activeCompletions r.db r.now ≤ D.toNat) :
    activeCompletions db (r.later env) ≤ D.toNat := by
  have hle := now_le_later r env
  have hsame := (activeCompletions_mono hle).trans h
  have hreplace {k : UUID} {l l' : MultipartCompletionLeaseModel}
      (hl : r.db.completionLeases.get? k = some l) (hkey : l'.uploadSessionId = l.uploadSessionId)
      (hlive : r.later env < l'.expiresAt → r.now < l.expiresAt) :
      (r.db.completionLeases.replace l').live MultipartCompletionLeaseModel.expiresAt
        (r.later env) ≤ D.toNat := by
    have hl' := (Relation.get?_key hl :)
    rw [key_completionLease, ← hkey] at hl'
    exact (Relation.live_replace_of_live MultipartCompletionLeaseModel.expiresAt hl' hle
      hlive).trans h
  cases heffect with
  | completionClaimed _ _ _ _ hlater _ hnone hcapacity =>
      rw [hD _ rfl] at hcapacity
      exact live_insert_of_lt hcapacity hlater hnone
  | completionTaken _ _ _ _ hlater _ _ _ hcapacity =>
      rw [hD _ rfl] at hcapacity
      exact live_replace_of_lt hcapacity hlater
  | completionRenewed hl hfence hlater =>
      -- Only a live lease is renewed, and it was counted already.
      refine hreplace hl rfl fun _ => ?_
      obtain ⟨t, hnow, _, x, hx, _, _, hlive⟩ := hfence
      cases hl.symm.trans hx
      exact lt_of_le_of_lt hnow hlive
  | attemptInvalidated _ _ hl _ hlater =>
      exact hreplace hl rfl fun hlive => absurd hlive (Nat.not_lt.mpr hlater)
  | completionResumed _ _ hl _ _ hlater =>
      exact hreplace hl rfl fun hlive => absurd hlive (Nat.not_lt.mpr hlater)
  | completionVerified _ _ hl _ _ _ _ _ hlater =>
      exact hreplace hl rfl fun hlive => absurd hlive (Nat.not_lt.mpr hlater)
  | _ => exact hsame

/-! ## Refusals -/

theorem run_grantAdmission_error {invocationId sessionId : UUID} {ttl : Int} {now : Timestamp}
    {lease : Option MultipartAdmissionLeaseModel} {s : TxState} {e : Failure}
    (h : run (grantAdmission invocationId sessionId ttl now lease) s = .error e) :
    e = .overflowError ∨ ∃ d, e = .database d := by
  cases lease with
  | none =>
      simp only [grantAdmission, run_uuid4_bind] at h
      rw [run_ofExcept_bind_error] at h
      rcases h with h | ⟨expiresAt, _, h⟩
      · exact Or.inl (addSeconds_error h)
      · rw [run_perform_bind_error] at h
        rcases h with h | ⟨_, _, h⟩
        · exact Or.inr (exec_error h)
        · cases h
  | some l =>
      simp only [grantAdmission, run_uuid4_bind] at h
      rw [run_ofExcept_bind_error] at h
      rcases h with h | ⟨expiresAt, _, h⟩
      · exact Or.inl (addSeconds_error h)
      · rw [run_bind_error] at h
        rcases h with h | ⟨_, _, _, h⟩
        · exact Or.inr (run_flush_error h)
        · cases h

theorem run_admitInvocation_exhausted {invocationId sessionId : UUID} {ttl capacity : Int}
    {now : Timestamp} {lease : Option MultipartAdmissionLeaseModel} {s : TxState}
    {message : String}
    (h : run (admitInvocation invocationId sessionId ttl capacity now lease) s =
      .error (.domain (.admissionCapacityExhausted message))) :
    capacity ≤ (activeAdmissions s.db now : Int) := by
  unfold admitInvocation at h
  split at h
  · -- A live lease is renewed, or another invocation holds it: nothing counts the capacity.
    rw [run_require_bind_error] at h
    rcases h with ⟨_, he⟩ | ⟨_, h⟩
    · cases he
    rw [run_ofExcept_bind_error] at h
    rcases h with h | ⟨t, _, h⟩
    · cases addSeconds_error h
    · rw [run_bind_error] at h
      rcases h with h | ⟨_, _, _, h⟩
      · obtain ⟨d, hd⟩ := run_flush_error h
        cases hd
      · cases h
  · rw [run_select_bind, run_require_bind_error] at h
    rcases h with ⟨hfull, _⟩ | ⟨_, h⟩
    · exact Int.not_lt.mp hfull
    · rcases run_grantAdmission_error h with he | ⟨d, hd⟩
      · cases he
      · cases hd

theorem replayAdmissionLease_error {replay : IdempotencyRecordModel}
    {sha : Sha256Digest} {e : Failure} (h : replayAdmissionLease replay sha = .error e) :
    ∃ message, e = idempotencyConflict message := by
  unfold replayAdmissionLease at h
  split at h
  · cases h
    exact ⟨_, rfl⟩
  · split at h
    · cases h
    · cases h
      exact ⟨_, rfl⟩

/-- Admission is refused for capacity only when the live leases of some reading fill it. -/
theorem run_acquireMultipartLease_exhausted {requestId invocationId sessionId : UUID}
    {ttl capacity : Int} {message : String}
    (h : run (acquireMultipartLease requestId invocationId sessionId ttl capacity)
      (beginTx env r) = .error (.domain (.admissionCapacityExhausted message))) :
    0 < capacity ∧ ∃ t, r.now ≤ t ∧ t ≤ r.later env ∧
      capacity ≤ (activeAdmissions r.db t : Int) := by
  unfold acquireMultipartLease at h
  rw [run_require_bind_error] at h
  rcases h with ⟨_, he⟩ | ⟨⟨_, hpositive⟩, h⟩
  · cases he
  refine ⟨hpositive, ?_⟩
  rw [run_select_bind] at h
  cases hreplay : (beginTx env r).db.idempotency.get?
      (.multipartAdmissionAcquire, String.ofList requestId.str) with
  | some replay =>
      simp only [hreplay, run_ofExcept_error] at h
      obtain ⟨_, he⟩ := replayAdmissionLease_error h
      cases he
  | none =>
      simp only [hreplay] at h
      rw [run_fetch_bind_error] at h
      rcases h with ⟨_, he⟩ | ⟨u, _, h⟩
      · cases he
      rw [run_require_bind_error] at h
      rcases h with ⟨_, he⟩ | ⟨_, h⟩
      · cases he
      rw [run_clockTimestamp_bind, run_select_bind, run_bind_error] at h
      have hclock := elapses_ticked (beginTx env r)
      rcases h with h | ⟨l, s₁, _, h⟩
      · exact ⟨_, hclock.now_le, hclock.now_le_later, run_admitInvocation_exhausted h⟩
      · rw [run_perform_bind_error] at h
        rcases h with h | ⟨_, _, h⟩
        · obtain ⟨d, hd⟩ := exec_error h
          cases hd
        · cases h

/-! ## Every run -/

/-- In a run whose admissions all ask for one capacity, and whose claims do for another, the live
leases stay within them at every instant, and a refusal for capacity means that they fill it. -/
theorem leases_stay_within_capacity {C D : Int} {calls : List Call}
    (hC : ∀ c ∈ calls, ∀ n, c.operation.admissionCapacity = some n → n = C)
    (hD : ∀ c ∈ calls, ∀ n, c.operation.completionCapacity = some n → n = D) :
    (∀ x ∈ store.visited store.start calls, ∀ t, x.now ≤ t →
      activeAdmissions x.db t ≤ C.toNat ∧ activeCompletions x.db t ≤ D.toNat) ∧
    (∀ x ∈ store.steps store.start calls, ∀ requestId invocationId sessionId ttl message,
      x.2.operation = .acquireMultipartLease requestId invocationId sessionId ttl C →
      (transact (acquireMultipartLease requestId invocationId sessionId ttl C) x.2.env x.1).1 =
        .error (.domain (.admissionCapacityExhausted message)) →
      ∃ t, x.1.now ≤ t ∧ t ≤ x.1.later x.2.env ∧ (activeAdmissions x.1.db t : Int) = C) ∧
    ∀ x ∈ store.steps store.start calls, ∀ ownerInstanceId ttl,
      x.2.operation = .claimCompletion ownerInstanceId ttl D →
      (transact (claimCompletion ownerInstanceId ttl D) x.2.env x.1).1 = .ok none →
      ∃ t, x.1.now ≤ t ∧ t ≤ x.1.later x.2.env ∧
        ((activeCompletions x.1.db t : Int) = D ∨ nextClaimable x.1.db t = none) := by
  have hwithin : ∀ x ∈ store.visited store.start calls,
      activeAdmissions x.db x.now ≤ C.toNat ∧ activeCompletions x.db x.now ≤ D.toNat := by
    refine Machine.forall_visited
      (G := fun _ c => (∀ n, c.operation.admissionCapacity = some n → n = C) ∧
        ∀ n, c.operation.completionCapacity = some n → n = D) ?_ store.reachable_start ?_ ?_
    · intro r c hr hr' hok
      have heffect := effect_of_step c r
      have hadmissions := admissions_of_effect heffect hok.1 hr'.1
      have hcompletions := completions_of_effect heffect hok.2 hr'.2
      rw [← now_step c r] at hadmissions hcompletions
      exact ⟨hadmissions, hcompletions⟩
    · exact ⟨Nat.zero_le _, Nat.zero_le _⟩
    · intro e he
      have hmem := (Machine.mem_of_mem_steps he).2
      exact ⟨hC e.2 hmem, hD e.2 hmem⟩
  have hlater : ∀ x ∈ store.visited store.start calls, ∀ t, x.now ≤ t →
      activeAdmissions x.db t ≤ C.toNat ∧ activeCompletions x.db t ≤ D.toNat := by
    intro x hx t ht
    have h := hwithin x hx
    exact ⟨(activeAdmissions_mono ht).trans h.1, (activeCompletions_mono ht).trans h.2⟩
  refine ⟨hlater, ?_, ?_⟩
  · intro x hx requestId invocationId sessionId ttl message _ hraised
    rcases raised_of_transact hraised with hrun | ⟨d, hd⟩
    · obtain ⟨hpositive, t, hnow, ht, hfull⟩ := run_acquireMultipartLease_exhausted hrun
      have hbound := (hlater x.1 (Machine.mem_of_mem_steps hx).1 t hnow).1
      exact ⟨t, hnow, ht, by omega⟩
    · cases hd
  · intro x hx ownerInstanceId ttl _ hnone
    obtain ⟨s, hrun, _⟩ := returned_of_transact hnone
    have hpositive := run_claimCompletion_positive hrun
    rcases run_claimCompletion_ok hrun with
      ⟨_, _, t, hnow, ht, hfull | hidle⟩ | ⟨u, claim, _, _, ha, _⟩
    · have hbound := (hlater x.1 (Machine.mem_of_mem_steps hx).1 t hnow).2
      exact ⟨t, hnow, ht, Or.inl (by omega)⟩
    · exact ⟨t, hnow, ht, Or.inr hidle⟩
    · cases ha

end Capacity

namespace Sample

set_option maxRecDepth 100000 in
/-- The run that publishes the sample asks for five admissions and five claims, so no more of
either are live. -/
theorem sample_leases_stay_within_five :
    (∀ c ∈ published, ∀ n, c.operation.admissionCapacity = some n → n = 5) ∧
    (∀ c ∈ published, ∀ n, c.operation.completionCapacity = some n → n = 5) ∧
    ∀ x ∈ store.visited store.start published, ∀ t, x.now ≤ t →
      activeAdmissions x.db t ≤ 5 ∧ activeCompletions x.db t ≤ 5 := by
  have hcapacities : ∀ c ∈ published, c.operation.admissionCapacity.all (· = 5) = true ∧
      c.operation.completionCapacity.all (· = 5) = true := by
    decide
  have hC : ∀ c ∈ published, ∀ n, c.operation.admissionCapacity = some n → n = 5 := by
    intro c hc n hn
    have h := (hcapacities c hc).1
    rw [hn] at h
    exact of_decide_eq_true h
  have hD : ∀ c ∈ published, ∀ n, c.operation.completionCapacity = some n → n = 5 := by
    intro c hc n hn
    have h := (hcapacities c hc).2
    rw [hn] at h
    exact of_decide_eq_true h
  exact ⟨hC, hD, (leases_stay_within_capacity hC hD).1⟩

end Sample

end RoboLake
