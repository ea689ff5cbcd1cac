import RoboLake.Registry.Reachable
import RoboLake.Foundation.Expiry

/-! # Leases and the sessions they own

A live lease owns its session in the states of its phase. The two lease tables are
one shape at their own states, and every operation that moves a session out of a
phase ends the lease of that phase in the same transaction.
-/

namespace RoboLake

open Foundation Store

/-! ## Live rows own their sessions -/

/-- Every lease belongs to a multipart session, which is in an admitted state while it lives. -/
def Owns {ρ : Type} [Keyed ρ UUID] (e : ρ → Timestamp) (ok : SessionState → Prop)
    (leases : Relation ρ) (sessions : Relation UploadSessionModel) (now : Timestamp) : Prop :=
  ∀ k l, leases.get? k = some l →
    ∃ u, sessions.get? k = some u ∧ u.strategy = .multipart ∧ (now < e l → ok u.state)

section Owns

variable {ρ : Type} [Keyed ρ UUID] {e : ρ → Timestamp} {ok : SessionState → Prop}
  {leases : Relation ρ} {sessions : Relation UploadSessionModel} {now : Timestamp}

theorem Owns.later {now' : Timestamp} (h : Owns e ok leases sessions now) (hle : now ≤ now') :
    Owns e ok leases sessions now' := by
  intro k l hl
  obtain ⟨u, hu, hm, hok⟩ := h k l hl
  exact ⟨u, hu, hm, fun hlive => hok (lt_of_le_of_lt hle hlive)⟩

theorem Owns.insertSession {u : UploadSessionModel} (h : Owns e ok leases sessions now)
    (hfree : sessions.get? u.id = none) : Owns e ok leases (sessions.insert u) now := by
  intro k l hl
  obtain ⟨x, hx, hm, hok⟩ := h k l hl
  exact ⟨x, Relation.get?_insert_of_some hfree hx, hm, hok⟩

/-- A session moves, and its lease, while it lives, admits the new state. -/
theorem Owns.replaceSession {u u' : UploadSessionModel} (h : Owns e ok leases sessions now)
    (hu : sessions.get? u'.id = some u) (hstrategy : u'.strategy = u.strategy)
    (hok : u.strategy = .multipart → ∀ l, leases.get? u'.id = some l → now < e l →
      ok u.state → ok u'.state) : Owns e ok leases (sessions.replace u') now := by
  intro k l hl
  obtain ⟨x, hx, hm, hlive⟩ := h k l hl
  by_cases hk : k = u'.id
  · subst hk
    have hxu : x = u := Option.some.inj (hx.symm.trans hu)
    subst hxu
    exact ⟨u', Relation.get?_replace_self hu, hstrategy.trans hm,
      fun hnow => hok hm l hl hnow (hlive hnow)⟩
  · have hget : (sessions.replace u').get? k = some x := by
      rw [Relation.get?_replace_ne hk]
      exact hx
    exact ⟨x, hget, hm, hlive⟩

theorem Owns.insertLease {l : ρ} {u : UploadSessionModel} (h : Owns e ok leases sessions now)
    (hfree : leases.get? (key l) = none) (hu : sessions.get? (key l) = some u)
    (hm : u.strategy = .multipart) (hok : ok u.state) :
    Owns e ok (leases.insert l) sessions now := by
  intro k x hx
  rw [Relation.get?_insert hfree] at hx
  by_cases hk : k = key l
  · subst hk
    exact ⟨u, hu, hm, fun _ => hok⟩
  · rw [if_neg hk] at hx
    exact h k x hx

theorem Owns.replaceLease {l l' : ρ} (h : Owns e ok leases sessions now)
    (hl : leases.get? (key l') = some l)
    (hok : now < e l' → ∀ u, sessions.get? (key l') = some u → ok u.state) :
    Owns e ok (leases.replace l') sessions now := by
  intro k x hx
  by_cases hk : k = key l'
  · subst hk
    have hxl : x = l' := Option.some.inj (hx.symm.trans (Relation.get?_replace_self hl))
    obtain ⟨u, hu, hm, _⟩ := h _ l hl
    subst hxl
    exact ⟨u, hu, hm, fun hnow => hok hnow u hu⟩
  · rw [Relation.get?_replace_ne hk] at hx
    exact h k x hx

end Owns

variable [Platform] {env : Env} {r : Registry}

/-! ## The leases of a registry -/

/-- Live admissions own sessions under upload, live completion leases own accepted work. -/
structure Owned (db : Database) (now : Timestamp) : Prop where
  admission : Owns MultipartAdmissionLeaseModel.expiresAt (fun s => isUploadOwned s = true)
    db.admissionLeases db.sessions now
  completion : Owns MultipartCompletionLeaseModel.expiresAt (fun s => s = .completing)
    db.completionLeases db.sessions now

theorem owned_initial : Owned Database.empty 0 where
  admission := fun _ _ hl => by cases hl
  completion := fun _ _ hl => by cases hl

theorem Owned.later {db : Database} {now now' : Timestamp} (h : Owned db now)
    (hle : now ≤ now') : Owned db now' :=
  ⟨h.admission.later hle, h.completion.later hle⟩

theorem Owned.of_eq {db db' : Database} {now : Timestamp} (h : Owned db now)
    (ha : db'.admissionLeases = db.admissionLeases)
    (hc : db'.completionLeases = db.completionLeases) (hu : db'.sessions = db.sessions) :
    Owned db' now := by
  refine ⟨?_, ?_⟩
  · rw [ha, hu]
    exact h.admission
  · rw [hc, hu]
    exact h.completion

theorem Owned.moveSession {db db' : Database} {now : Timestamp} {u u' : UploadSessionModel}
    (h : Owned db now) (ha : db'.admissionLeases = db.admissionLeases)
    (hc : db'.completionLeases = db.completionLeases)
    (hs : db'.sessions = db.sessions.replace u') (hu : db.sessions.get? u.id = some u)
    (hid : u'.id = u.id) (hstrategy : u'.strategy = u.strategy)
    (hupload : u.strategy = .multipart → isUploadOwned u.state = true →
      isUploadOwned u'.state = true)
    (hcompleting : u.strategy = .multipart → u.state = .completing → u'.state = .completing) :
    Owned db' now := by
  have hu' : db.sessions.get? u'.id = some u := hid ▸ hu
  refine ⟨?_, ?_⟩
  · rw [ha, hs]
    exact h.admission.replaceSession hu' hstrategy fun hm _ _ _ => hupload hm
  · rw [hc, hs]
    exact h.completion.replaceSession hu' hstrategy fun hm _ _ _ => hcompleting hm

theorem Owned.endAdmission {db db' : Database} {now : Timestamp} {u u' : UploadSessionModel}
    {l l' : MultipartAdmissionLeaseModel} (h : Owned db now)
    (ha : db'.admissionLeases = db.admissionLeases.replace l')
    (hc : db'.completionLeases = db.completionLeases)
    (hs : db'.sessions = db.sessions.replace u') (hu : db.sessions.get? u.id = some u)
    (hl : db.admissionLeases.get? u.id = some l) (hkey : l'.uploadSessionId = u.id)
    (hended : l'.expiresAt ≤ now) (hid : u'.id = u.id) (hstrategy : u'.strategy = u.strategy)
    (hstate : u.state ≠ .completing) : Owned db' now := by
  have hu' : db.sessions.get? u'.id = some u := hid ▸ hu
  have hl' : db.admissionLeases.get? (key l') = some l := by
    rw [key_admissionLease, hkey]
    exact hl
  refine ⟨?_, ?_⟩
  · rw [ha, hs]
    have hlease := h.admission.replaceLease hl' fun hlive => absurd hlive (Nat.not_lt.mpr hended)
    refine hlease.replaceSession hu' hstrategy fun _ x hx hlive => ?_
    have hxl : x = l' := by
      rw [hid, ← hkey] at hx
      exact Option.some.inj (hx.symm.trans (Relation.get?_replace_self hl'))
    exact absurd (hxl ▸ hlive) (Nat.not_lt.mpr hended)
  · rw [hc, hs]
    exact h.completion.replaceSession hu' hstrategy fun _ _ _ _ hok => absurd hok hstate

theorem Owned.endCompletion {db db' : Database} {now : Timestamp} {u u' : UploadSessionModel}
    {l l' : MultipartCompletionLeaseModel} (h : Owned db now)
    (ha : db'.admissionLeases = db.admissionLeases)
    (hc : db'.completionLeases = db.completionLeases.replace l')
    (hs : db'.sessions = db.sessions.replace u') (hu : db.sessions.get? u.id = some u)
    (hl : db.completionLeases.get? u.id = some l) (hkey : l'.uploadSessionId = u.id)
    (hended : l'.expiresAt ≤ now) (hid : u'.id = u.id) (hstrategy : u'.strategy = u.strategy)
    (hstate : u.state = .completing) : Owned db' now := by
  have hu' : db.sessions.get? u'.id = some u := hid ▸ hu
  have hl' : db.completionLeases.get? (key l') = some l := by
    rw [key_completionLease, hkey]
    exact hl
  refine ⟨?_, ?_⟩
  · rw [ha, hs]
    refine h.admission.replaceSession hu' hstrategy fun _ _ _ _ hok => ?_
    rw [hstate] at hok
    cases hok
  · rw [hc, hs]
    have hlease := h.completion.replaceLease hl' fun hlive =>
      absurd hlive (Nat.not_lt.mpr hended)
    refine hlease.replaceSession hu' hstrategy fun _ x hx hlive => ?_
    have hxl : x = l' := by
      rw [hid, ← hkey] at hx
      exact Option.some.inj (hx.symm.trans (Relation.get?_replace_self hl'))
    exact absurd (hxl ▸ hlive) (Nat.not_lt.mpr hended)

theorem owned_of_effect {op : Operation} {db : Database} (heffect : Effect env r op db)
    (hold : Owned r.db r.now) : Owned db (r.later env) := by
  have h := hold.later (now_le_later r env)
  cases heffect with
  | idle => exact h
  | datasetFound => exact h.of_eq rfl rfl rfl
  | datasetCreated => exact h.of_eq rfl rfl rfl
  | versionFound => exact h.of_eq rfl rfl rfl
  | versionRegistered => exact h.of_eq rfl rfl rfl
  | uploadBound => exact h.of_eq rfl rfl rfl
  | sessionOpened _ _ _ _ hfree _ =>
      exact ⟨h.admission.insertSession hfree, h.completion.insertSession hfree⟩
  | uploadStarted hu hsingle _ _ _ =>
      refine h.moveSession rfl rfl rfl hu rfl rfl (fun hm => ?_) (fun hm => ?_)
      · rw [hsingle] at hm
        cases hm
      · rw [hsingle] at hm
        cases hm
  | uploadVerified hu hsingle _ _ _ _ =>
      refine h.moveSession rfl rfl rfl hu rfl rfl (fun hm => ?_) (fun hm => ?_)
      · rw [hsingle] at hm
        cases hm
      · rw [hsingle] at hm
        cases hm
  | uploadFailed hu hsingle _ _ _ _ _ =>
      refine h.moveSession rfl rfl rfl hu rfl rfl (fun hm => ?_) (fun hm => ?_)
      · rw [hsingle] at hm
        cases hm
      · rw [hsingle] at hm
        cases hm
  | uploadRestarted _ _ _ _ _ _ hfree =>
      exact ⟨h.admission.insertSession hfree, h.completion.insertSession hfree⟩
  | versionFinalized => exact h.of_eq rfl rfl rfl
  | multipartBound => exact h.of_eq rfl rfl rfl
  | multipartCreated _ _ _ _ hfree _ _ =>
      exact ⟨h.admission.insertSession hfree, h.completion.insertSession hfree⟩
  | admissionGranted hu hmultipart howned _ _ _ hnone _ _ =>
      exact ⟨h.admission.insertLease hnone hu hmultipart howned, h.completion⟩
  | admissionTaken hu _ howned _ _ _ hl _ hl' _ _ =>
      subst hl'
      refine ⟨h.admission.replaceLease hl fun _ u hu' => ?_, h.completion⟩
      cases hu.symm.trans hu'
      exact howned
  | admissionRenewed hu _ howned _ _ _ hl _ hl' _ =>
      subst hl'
      refine ⟨h.admission.replaceLease hl fun _ u hu' => ?_, h.completion⟩
      cases hu.symm.trans hu'
      exact howned
  | admissionReleased hl _ hexpires =>
      exact ⟨h.admission.replaceLease hl fun hlive => absurd hlive (Nat.not_lt.mpr hexpires),
        h.completion⟩
  | initiationBegun hu _ hstate =>
      exact h.moveSession rfl rfl rfl hu rfl rfl (fun _ _ => rfl)
        fun _ hc => by rw [hstate] at hc; cases hc
  | providerRecorded hu _ hstate _ _ _ =>
      exact h.moveSession rfl rfl rfl hu rfl rfl (fun _ _ => rfl)
        fun _ hc => by rw [hstate] at hc; cases hc
  | initiationAmbiguous hu hl _ hstate hexpires =>
      exact h.endAdmission rfl rfl rfl hu hl (Relation.key_of_get? hl) hexpires rfl rfl
        (by rw [hstate]; simp)
  | partReplayed hu _ _ =>
      exact h.moveSession rfl rfl rfl hu rfl rfl (fun _ ho => ho) fun _ hc => hc
  | partRecorded hu _ _ _ _ _ =>
      exact h.moveSession rfl rfl rfl hu rfl rfl (fun _ ho => ho) fun _ hc => hc
  | partsReconciled hu _ _ _ =>
      exact h.moveSession rfl rfl rfl hu rfl rfl (fun _ ho => ho) fun _ hc => hc
  | completionAccepted hu _ hl _ hstate _ hlater _ =>
      exact h.endAdmission rfl rfl rfl hu hl (Relation.key_of_get? hl) hlater rfl rfl
        (by rw [hstate]; simp)
  | completionClaimed hu hmultipart hstate _ _ _ hnone _ =>
      exact ⟨h.admission, h.completion.insertLease hnone hu hmultipart hstate⟩
  | completionTaken hu _ hstate _ _ _ hl _ _ =>
      have hkey := Relation.key_of_get? hl
      have hl' := (Relation.get?_key hl :)
      refine ⟨h.admission, h.completion.replaceLease hl' fun _ u hu' => ?_⟩
      rw [← hkey] at hu
      cases hu.symm.trans hu'
      exact hstate
  | completionRenewed hl hfence hlater =>
      refine ⟨h.admission, h.completion.replaceLease hl fun _ u hu' => ?_⟩
      -- The renewed lease was live, so its session is still the accepted work.
      obtain ⟨t, hnow, _, x, hx, _, _, hlive⟩ := hfence
      cases hl.symm.trans hx
      obtain ⟨u₀, hu₀, _, hok⟩ := hold.completion _ _ hl
      cases hu₀.symm.trans hu'
      exact hok (lt_of_le_of_lt hnow hlive)
  | phaseSet hu _ _ _ _ =>
      exact h.moveSession rfl rfl rfl (Relation.get?_key hu) rfl rfl (fun _ ho => ho) fun _ hc => hc
  | attemptInvalidated hu hstate hl _ hlater =>
      have hid := Relation.key_of_get? hu
      exact h.endCompletion rfl rfl rfl (Relation.get?_key hu) (hid ▸ hl)
        ((Relation.key_of_get? hl).trans hid.symm) hlater rfl rfl hstate
  | partsRecovered hu _ _ _ _ =>
      exact h.moveSession rfl rfl rfl (Relation.get?_key hu) rfl rfl (fun _ ho => ho) fun _ hc => hc
  | completionResumed hu hstate hl _ _ hlater =>
      have hid := Relation.key_of_get? hu
      exact h.endCompletion rfl rfl rfl (Relation.get?_key hu) (hid ▸ hl)
        ((Relation.key_of_get? hl).trans hid.symm) hlater rfl rfl hstate
  | completionVerified hu hstate hl _ _ _ _ _ hlater =>
      have hid := Relation.key_of_get? hu
      exact h.endCompletion rfl rfl rfl (Relation.get?_key hu) (hid ▸ hl)
        ((Relation.key_of_get? hl).trans hid.symm) hlater rfl rfl hstate

theorem owned_of_reachable (h : store.Reachable r) : Owned r.db r.now :=
  reachable_induction (I := fun r => Owned r.db r.now) owned_initial
    (fun _ _ _ _ _ _ _ heffect => owned_of_effect heffect) h

end RoboLake
