import RoboLake.Registry.Reachable
import RoboLake.Foundation.Fence

/-! # Lease fencing

Admission and completion leases are fences of the store: their epochs grow by one
at each grant, and an operation that carries an epoch changes the tables only
while that epoch is the current, unexpired one.
-/

namespace RoboLake

open Foundation Store

section Fences

variable [Platform] {r : Registry}

/-! ## Tokens -/

/-- The session, owner and epoch that an operation presents as upload admission. -/
def admissionToken : Operation → Option (UUID × UUID × Nat)
  | .releaseMultipartLease session owner epoch => some (session, owner, epoch)
  | .beginProviderInitiation session owner epoch => some (session, owner, epoch)
  | .recordProviderUpload session owner epoch _ => some (session, owner, epoch)
  | .recordUploadedPart session owner epoch _ => some (session, owner, epoch)
  | .reconcileParts session owner epoch _ _ => some (session, owner, epoch)
  | .markMultipartInitiationAmbiguous session owner epoch => some (session, owner, epoch)
  | .acceptCompletion session owner epoch _ => some (session, owner, epoch)
  | _ => none

def completionToken : Operation → Option (UUID × UUID × Nat)
  | .renewCompletionLease session owner epoch _ => some (session, owner, epoch)
  | .setCompletionPhase claim _ _ _ _ =>
      some (claim.sessionId, claim.lease.leaseOwnerId, claim.lease.leaseEpoch)
  | .recoverPartialCompletion claim _ =>
      some (claim.sessionId, claim.lease.leaseOwnerId, claim.lease.leaseEpoch)
  | .recordVerifiedCompletion claim _ =>
      some (claim.sessionId, claim.lease.leaseOwnerId, claim.lease.leaseEpoch)
  | _ => none

/-- A token that changes the tables is the current unexpired admission. -/
theorem admitted_of_change {c : Call} {session owner : UUID} {epoch : Nat}
    (htoken : admissionToken c.operation = some (session, owner, epoch))
    (hchange : (c.step r).db ≠ r.db) : Admitted c.env r session owner epoch := by
  have heffect := effect_of_step c r
  generalize (c.step r).db = db at heffect hchange
  obtain ⟨op, env⟩ := c
  cases heffect with
  | idle => exact absurd rfl hchange
  | admissionReleased _ hfence _ =>
      cases htoken
      exact hfence
  | initiationBegun _ hfence _ =>
      cases htoken
      exact hfence
  | providerRecorded _ hfence _ _ _ _ =>
      cases htoken
      exact hfence
  | initiationAmbiguous _ _ hfence _ =>
      cases htoken
      exact hfence
  | partReplayed _ hfence _ =>
      cases htoken
      exact hfence
  | partRecorded _ hfence _ _ _ _ =>
      cases htoken
      exact hfence
  | partsReconciled _ hfence _ _ =>
      cases htoken
      exact hfence
  | completionAccepted _ _ _ hfence _ _ _ _ =>
      cases htoken
      exact hfence
  | _ => cases htoken

theorem claimed_of_change {c : Call} {session owner : UUID} {epoch : Nat}
    (htoken : completionToken c.operation = some (session, owner, epoch))
    (hchange : (c.step r).db ≠ r.db) : Claimed c.env r session owner epoch := by
  have heffect := effect_of_step c r
  generalize (c.step r).db = db at heffect hchange
  obtain ⟨op, env⟩ := c
  cases heffect with
  | idle => exact absurd rfl hchange
  | completionRenewed _ hfence _ =>
      cases htoken
      exact hfence
  | phaseSet _ hfence _ _ _ =>
      cases htoken
      exact hfence
  | attemptInvalidated _ _ _ hfence _ =>
      cases htoken
      exact hfence
  | partsRecovered _ _ hfence _ _ =>
      cases htoken
      exact hfence
  | completionResumed _ _ _ hfence _ _ =>
      cases htoken
      exact hfence
  | completionVerified _ _ _ hfence _ _ _ _ _ =>
      cases htoken
      exact hfence
  | _ => cases htoken

/-! ## Epochs -/

def admissionEpoch (db : Database) (sessionId : UUID) : Nat :=
  ((db.admissionLeases.get? sessionId).map MultipartAdmissionLeaseModel.epoch).getD 0

def admissionOwner (db : Database) (sessionId : UUID) : Option UUID :=
  (db.admissionLeases.get? sessionId).map MultipartAdmissionLeaseModel.ownerId

def completionEpoch (db : Database) (sessionId : UUID) : Nat :=
  ((db.completionLeases.get? sessionId).map MultipartCompletionLeaseModel.epoch).getD 0

def completionOwner (db : Database) (sessionId : UUID) : Option UUID :=
  (db.completionLeases.get? sessionId).map MultipartCompletionLeaseModel.ownerInstanceId

/-- The call asks for upload admission to the session. -/
def Operation.Acquires (sessionId : UUID) (op : Operation) : Prop :=
  ∃ requestId invocationId ttl capacity,
    op = .acquireMultipartLease requestId invocationId sessionId ttl capacity

def Claims (c : Call) (r : Registry) (sessionId ownerInstanceId : UUID) : Prop :=
  ∃ ttl capacity claim, c.operation = .claimCompletion ownerInstanceId ttl capacity ∧
    (transact (claimCompletion ownerInstanceId ttl capacity) c.env r).1 = .ok (some claim) ∧
    claim.sessionId = sessionId

omit [Platform] in
theorem get?_replace_map {ρ α : Type} [Keyed ρ UUID] {t : Relation ρ} {f : ρ → α} {l l' : ρ}
    {k : UUID} (hl : t.get? k = some l) (hkey : key l' = key l) (hf : f l' = f l) (k' : UUID) :
    ((t.replace l').get? k').map f = (t.get? k').map f := by
  have hself : t.get? (key l') = some l := hkey ▸ Relation.get?_key hl
  by_cases hk : k' = key l'
  · rw [hk, Relation.get?_replace_self hself, hself, Option.map_some, Option.map_some, hf]
  · rw [Relation.get?_replace_ne hk]

/-- An admission epoch stays with its owner, or grows by one under the owner just drawn. -/
theorem admission_epoch_step (c : Call) (r : Registry) (k : UUID) :
    (admissionEpoch (c.step r).db k = admissionEpoch r.db k ∧
      admissionOwner (c.step r).db k = admissionOwner r.db k) ∨
    (admissionEpoch (c.step r).db k = admissionEpoch r.db k + 1 ∧
      admissionOwner (c.step r).db k = some (c.env.uuids 0) ∧ c.operation.Acquires k) := by
  have heffect := effect_of_step c r
  generalize (c.step r).db = db at heffect
  obtain ⟨op, env⟩ := c
  -- A rewritten lease of the same epoch and owner moves nothing.
  have hsame : ∀ {id : UUID} {l l' : MultipartAdmissionLeaseModel},
      db.admissionLeases = r.db.admissionLeases.replace l' →
      r.db.admissionLeases.get? id = some l → key l' = key l → l'.epoch = l.epoch →
      l'.ownerId = l.ownerId →
      admissionEpoch db k = admissionEpoch r.db k ∧
        admissionOwner db k = admissionOwner r.db k := by
    intro id l l' hdb hl hkey hepoch howner
    rw [admissionEpoch, admissionEpoch, admissionOwner, admissionOwner, hdb,
      get?_replace_map hl hkey hepoch, get?_replace_map hl hkey howner]
    exact ⟨rfl, rfl⟩
  cases heffect with
  | @admissionGranted _ inv session _ _ _ _ now expiresAt _ _ _ _ _ _ hnone _ =>
      by_cases hk : k = session
      · subst hk
        have hrow : (r.db.admissionLeases.insert
            ⟨k, inv, env.uuids 0, 1, now, now, expiresAt⟩).get? k = some _ :=
          Relation.get?_insert_self hnone
        refine Or.inr ⟨?_, ?_, _, _, _, _, rfl⟩
        · simp only [admissionEpoch, admissionLeases_bind]
          rw [hrow, hnone]
          rfl
        · simp only [admissionOwner, admissionLeases_bind]
          rw [hrow]
          rfl
      · have hrow : (r.db.admissionLeases.insert
            ⟨session, inv, env.uuids 0, 1, now, now, expiresAt⟩).get? k =
            r.db.admissionLeases.get? k := Relation.get?_insert_ne hnone hk
        refine Or.inl ⟨?_, ?_⟩
        · simp only [admissionEpoch, admissionLeases_bind]
          rw [hrow]
        · simp only [admissionOwner, admissionLeases_bind]
          rw [hrow]
  | @admissionTaken _ _ _ _ _ _ _ _ l l' _ _ _ _ _ _ hl _ hl' _ =>
      by_cases hk : k = l.uploadSessionId
      · subst hk
        have hrow : (r.db.admissionLeases.replace l').get? l.uploadSessionId = some l' := by
          rw [hl']
          exact Relation.get?_replace_self hl
        refine Or.inr ⟨?_, ?_, _, _, _, _, rfl⟩
        · simp only [admissionEpoch, admissionLeases_bind]
          rw [hrow, hl, hl']
          rfl
        · simp only [admissionOwner, admissionLeases_bind]
          rw [hrow, hl']
          rfl
      · have hrow : (r.db.admissionLeases.replace l').get? k = r.db.admissionLeases.get? k := by
          rw [hl']
          exact Relation.get?_replace_ne hk
        refine Or.inl ⟨?_, ?_⟩
        · simp only [admissionEpoch, admissionLeases_bind]
          rw [hrow]
        · simp only [admissionOwner, admissionLeases_bind]
          rw [hrow]
  | admissionRenewed _ _ _ _ _ _ hl _ hl' _ =>
      subst hl'
      exact Or.inl (hsame rfl hl rfl rfl rfl)
  | admissionReleased hl _ _ => exact Or.inl (hsame rfl hl rfl rfl rfl)
  | initiationAmbiguous _ hl _ _ =>
      exact Or.inl (hsame rfl hl rfl rfl rfl)
  | completionAccepted _ _ hl _ _ _ _ _ =>
      exact Or.inl (hsame rfl hl rfl rfl rfl)
  | _ => exact Or.inl ⟨rfl, rfl⟩

theorem completion_epoch_of_effect {env : Env} {op : Operation} {db : Database} (k : UUID)
    (heffect : Effect env r op db) :
    (completionEpoch db k = completionEpoch r.db k ∧
      completionOwner db k = completionOwner r.db k) ∨
    ∃ owner ttl capacity, op = .claimCompletion owner ttl capacity := by
  have hsame : ∀ {id : UUID} {l l' : MultipartCompletionLeaseModel},
      db.completionLeases = r.db.completionLeases.replace l' →
      r.db.completionLeases.get? id = some l → key l' = key l → l'.epoch = l.epoch →
      l'.ownerInstanceId = l.ownerInstanceId →
      completionEpoch db k = completionEpoch r.db k ∧
        completionOwner db k = completionOwner r.db k := by
    intro id l l' hdb hl hkey hepoch howner
    rw [completionEpoch, completionEpoch, completionOwner, completionOwner, hdb,
      get?_replace_map hl hkey hepoch, get?_replace_map hl hkey howner]
    exact ⟨rfl, rfl⟩
  cases heffect with
  | completionClaimed _ _ _ _ _ _ _ => exact Or.inr ⟨_, _, _, rfl⟩
  | completionTaken _ _ _ _ _ _ _ _ => exact Or.inr ⟨_, _, _, rfl⟩
  | completionRenewed hl _ _ => exact Or.inl (hsame rfl hl rfl rfl rfl)
  | attemptInvalidated _ _ hl _ _ => exact Or.inl (hsame rfl hl rfl rfl rfl)
  | completionResumed _ _ hl _ _ _ => exact Or.inl (hsame rfl hl rfl rfl rfl)
  | completionVerified _ _ hl _ _ _ _ _ _ =>
      exact Or.inl (hsame rfl hl rfl rfl rfl)
  | _ => exact Or.inl ⟨rfl, rfl⟩

theorem completion_epoch_of_claim {owner : UUID} {ttl capacity : Int} {env : Env}
    {a : Option CompletionClaim} {r' : Registry}
    (h : transact (claimCompletion owner ttl capacity) env r = (.ok a, r')) (k : UUID) :
    if a.map CompletionClaim.sessionId = some k then
      completionEpoch r'.db k = completionEpoch r.db k + 1 ∧ completionOwner r'.db k = some owner
    else completionEpoch r'.db k = completionEpoch r.db k ∧
      completionOwner r'.db k = completionOwner r.db k := by
  obtain ⟨s, _, hrun, _, rfl⟩ := transact_ok.mp h
  rcases run_claimCompletion_ok hrun with
    ⟨rfl, hdb, _⟩ | ⟨u, claim, now, expiresAt, rfl, hid, hu, _, _, _, _, _, _, hlease⟩
  · rw [if_neg nofun]
    simp only
    rw [hdb]
    exact ⟨rfl, rfl⟩
  · have hrow : ∃ l', l'.uploadSessionId = u.id ∧ l'.ownerInstanceId = owner ∧
        l'.epoch = completionEpoch r.db u.id + 1 ∧
        s.db.completionLeases.get? u.id = some l' ∧
        ∀ k, k ≠ u.id → s.db.completionLeases.get? k = r.db.completionLeases.get? k := by
      rcases hlease with ⟨hnone, hdb⟩ | ⟨l, hl, _, hdb⟩
      · refine ⟨⟨u.id, owner, 1, now, now, expiresAt⟩, rfl, rfl, ?_, ?_, fun k hk => ?_⟩
        · rw [completionEpoch, hnone]
          rfl
        · rw [hdb]
          exact Relation.get?_insert_self hnone
        · rw [hdb]
          exact Relation.get?_insert_ne hnone hk
      · have hkey : l.uploadSessionId = u.id := Relation.key_of_get? hl
        refine ⟨{ l with
          ownerInstanceId := owner, epoch := l.epoch + 1, acquiredAt := now
          renewedAt := now, expiresAt := expiresAt }, hkey, rfl, ?_, ?_, fun k hk => ?_⟩
        · rw [completionEpoch, hl]
          rfl
        · rw [hdb, ← hkey]
          rw [← hkey] at hl
          exact Relation.get?_replace_self hl
        · rw [hdb]
          refine Relation.get?_replace_ne fun heq => hk (heq.trans hkey)
    obtain ⟨l', _, howner, hepoch, hget, hothers⟩ := hrow
    by_cases hk : k = u.id
    · subst hk
      have hself : (some claim).map CompletionClaim.sessionId = some u.id := congrArg some hid
      rw [if_pos hself]
      simp only [completionOwner]
      rw [completionEpoch, hget]
      exact ⟨hepoch, congrArg some howner⟩
    · have hother : (some claim).map CompletionClaim.sessionId ≠ some k :=
        fun heq => hk ((Option.some.inj heq).symm.trans hid)
      rw [if_neg hother]
      simp only [completionEpoch, completionOwner]
      rw [hothers k hk]
      exact ⟨rfl, rfl⟩

/-- A completion epoch grows by one at each claim of its session, under the claiming owner, and
stays with its owner otherwise. -/
theorem completion_epoch_step (c : Call) (r : Registry) (k : UUID) :
    (∀ owner, Claims c r k owner → completionEpoch (c.step r).db k = completionEpoch r.db k + 1 ∧
      completionOwner (c.step r).db k = some owner) ∧
    ((∀ owner, ¬Claims c r k owner) → completionEpoch (c.step r).db k = completionEpoch r.db k ∧
      completionOwner (c.step r).db k = completionOwner r.db k) := by
  have hclaim : ∀ owner ttl capacity, c.operation = .claimCompletion owner ttl capacity →
      c.step r = (transact (claimCompletion owner ttl capacity) c.env r).2 := by
    intro owner ttl capacity hop
    rw [Call.step, hop, operationTx, transact_effect]
  constructor
  · rintro owner ⟨ttl, capacity, claim, hop, hresult, hid⟩
    rw [hclaim owner ttl capacity hop]
    have hmoved := completion_epoch_of_claim (Prod.ext hresult rfl) k
    have hself : (some claim).map CompletionClaim.sessionId = some k := congrArg some hid
    rw [if_pos hself] at hmoved
    exact hmoved
  · intro hnone
    rcases completion_epoch_of_effect k (effect_of_step c r) with
      hkept | ⟨owner, ttl, capacity, hop⟩
    · exact hkept
    · rw [hclaim owner ttl capacity hop]
      cases hresult : (transact (claimCompletion owner ttl capacity) c.env r).1 with
      | error e =>
          have hkept := congrArg Registry.db (transact_error (Prod.ext hresult rfl))
          rw [hkept]
          exact ⟨rfl, rfl⟩
      | ok a =>
          have hmoved := completion_epoch_of_claim (Prod.ext hresult rfl) k
          rw [if_neg] at hmoved
          · exact hmoved
          · intro ha
            obtain ⟨claim, rfl, hid⟩ := Option.map_eq_some_iff.mp ha
            exact hnone owner ⟨ttl, capacity, claim, hop, hresult, hid⟩

/-! ## The fences of the store -/

/-- The epoch a token presents to the lease of a session. -/
def presented (k : UUID) : Option (UUID × UUID × Nat) → Option Nat
  | some (session, _, epoch) => if session = k then some epoch else none
  | none => none

omit [Platform] in
theorem presented_eq_some {k : UUID} {token : Option (UUID × UUID × Nat)} {e : Nat} :
    presented k token = some e ↔ ∃ owner, token = some (k, owner, e) := by
  cases token with
  | none => simp [presented]
  | some x =>
      obtain ⟨session, owner, epoch⟩ := x
      by_cases hk : session = k <;> simp [presented, hk]

/-- The admission lease of a session as a fence of the store. -/
def admissionFence (k : UUID) : Fence store Database where
  epoch r := admissionEpoch r.db k
  token c := presented k (admissionToken c.operation)
  view := Registry.db
  mono r c _ := by
    rcases admission_epoch_step c r k with ⟨hepoch, _⟩ | ⟨hepoch, _⟩
    · exact hepoch.ge
    · exact (Nat.le_succ _).trans hepoch.ge
  guarded r c e _ htoken hchange := by
    obtain ⟨owner, htoken⟩ := presented_eq_some.mp htoken
    obtain ⟨_, _, _, l, hl, _, hepoch, _⟩ := admitted_of_change htoken hchange
    rw [admissionEpoch, hl]
    exact hepoch.symm

def completionFence (k : UUID) : Fence store Database where
  epoch r := completionEpoch r.db k
  token c := presented k (completionToken c.operation)
  view := Registry.db
  mono r c _ := by
    by_cases hclaim : ∃ owner, Claims c r k owner
    · obtain ⟨owner, hclaim⟩ := hclaim
      exact (Nat.le_succ _).trans ((completion_epoch_step c r k).1 owner hclaim).1.ge
    · exact ((completion_epoch_step c r k).2 (not_exists.mp hclaim)).1.ge
  guarded r c e _ htoken hchange := by
    obtain ⟨owner, htoken⟩ := presented_eq_some.mp htoken
    obtain ⟨_, _, _, l, hl, _, hepoch, _⟩ := claimed_of_change htoken hchange
    rw [completionEpoch, hl]
    exact hepoch.symm

/-- Epochs grow by one exactly at grants and claims, an operation changes the tables only under the
current unexpired lease it presents, and an epoch that was passed changes nothing ever again. -/
theorem leases_fence_their_operations (h : store.Reachable r) :
    (∀ (c : Call) (k : UUID),
      (admissionEpoch (c.step r).db k = admissionEpoch r.db k ∧
        admissionOwner (c.step r).db k = admissionOwner r.db k) ∨
      (admissionEpoch (c.step r).db k = admissionEpoch r.db k + 1 ∧
        admissionOwner (c.step r).db k = some (c.env.uuids 0) ∧ c.operation.Acquires k)) ∧
    (∀ (c : Call) (k : UUID),
      (∀ owner, Claims c r k owner → completionEpoch (c.step r).db k = completionEpoch r.db k + 1 ∧
        completionOwner (c.step r).db k = some owner) ∧
      ((∀ owner, ¬Claims c r k owner) → completionEpoch (c.step r).db k = completionEpoch r.db k ∧
        completionOwner (c.step r).db k = completionOwner r.db k)) ∧
    (∀ (c : Call) k owner e, admissionToken c.operation = some (k, owner, e) →
      (c.step r).db ≠ r.db → Admitted c.env r k owner e) ∧
    (∀ (c : Call) k owner e, completionToken c.operation = some (k, owner, e) →
      (c.step r).db ≠ r.db → Claimed c.env r k owner e) ∧
    ∀ calls, ∀ x ∈ store.steps r calls, ∀ k owner e,
      (admissionToken x.2.operation = some (k, owner, e) → e < admissionEpoch r.db k →
        (x.2.step x.1).db = x.1.db) ∧
      (completionToken x.2.operation = some (k, owner, e) → e < completionEpoch r.db k →
        (x.2.step x.1).db = x.1.db) := by
  refine ⟨fun c k => admission_epoch_step c r k, fun c k => completion_epoch_step c r k,
    fun c k owner e => admitted_of_change, fun c k owner e => claimed_of_change,
    fun calls x hx k owner e => ⟨fun htoken he => ?_, fun htoken he => ?_⟩⟩
  · exact (admissionFence k).stale_moves_nothing h he calls x hx
      (presented_eq_some.mpr ⟨owner, htoken⟩)
  · exact (completionFence k).stale_moves_nothing h he calls x hx
      (presented_eq_some.mpr ⟨owner, htoken⟩)

end Fences

namespace Sample

/-- The admission expires and is granted again. -/
def takeover : List Call :=
  registration ++ [resolution, admission,
    ⟨.acquireMultipartLease (requestId 3) 77 300 1000 5, { env 5 with ticks := [2000000000] }⟩]

set_option maxRecDepth 100000 in
/-- After the second grant of the sample session nothing with its first epoch changes a table. -/
theorem sample_first_epoch_is_stale :
    admissionEpoch (store.runFrom store.start takeover).db 300 = 2 ∧
    ∀ calls, ∀ x ∈ store.steps (store.runFrom store.start takeover) calls, ∀ owner,
      admissionToken x.2.operation = some (300, owner, 1) → (x.2.step x.1).db = x.1.db := by
  have hepoch : admissionEpoch (store.runFrom store.start takeover).db 300 = 2 := by
    rw [takeover, runFrom_resolution]
    decide +kernel
  refine ⟨hepoch, fun calls x hx owner htoken => ?_⟩
  have hstale := (leases_fence_their_operations ⟨takeover, rfl⟩).2.2.2.2 calls x hx 300 owner 1
  exact hstale.1 htoken (by rw [hepoch]; decide)

end Sample

end RoboLake
