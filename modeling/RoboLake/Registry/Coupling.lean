import RoboLake.Registry.Origins

/-! # Sessions and their Blobs

A session and its Blob are moved together, by different operations for the two
strategies. What a session state implies about the Blob is one relation; with the
rule that a Blob has one active session it follows that publishing or failing a
Blob settles every other attempt on it.
-/

namespace RoboLake

open Foundation Store Migrations

/-! ## States that go together -/

/-- The Blob states beside a session state. -/
def SessionState.Fits (strategy : UploadStrategy) (state : SessionState) (blob : BlobState) :
    Prop :=
  match state with
  | .created => blob = .pending ∨ blob = .uploading ∨ (strategy = .multipart ∧ blob = .failed)
  | .initiating => blob = .pending ∨ blob = .uploading ∨ blob = .failed
  | .inProgress | .completing => blob = .uploading
  | .completed => blob = .available
  | .aborting => blob ≠ .available
  | .aborted | .cancelled | .failed => True

/-- A COMPLETED session is the publication of its Blob. -/
def completedKey (u : UploadSessionModel) : Option UUID :=
  if u.state = .completed then some u.blobId else none

theorem completedKey_eq_some {u : UploadSessionModel} {blobId : UUID} :
    completedKey u = some blobId ↔ u.state = .completed ∧ u.blobId = blobId := by
  unfold completedKey
  split <;> simp_all

theorem SessionState.Fits.not_available {strategy : UploadStrategy} {state : SessionState}
    {blob : BlobState} (h : state.Fits strategy blob) (hactive : state.isActive = true) :
    blob ≠ .available := by
  rintro rfl
  cases state <;> simp [Fits, isActive] at h hactive

theorem SessionState.fits_of_open {blob : BlobState} (hsettled : blob ≠ .verifying)
    (havailable : blob ≠ .available) : SessionState.created.Fits .multipart blob := by
  cases blob <;> simp [Fits] at hsettled havailable ⊢

theorem startedBlob_state {b : BlobModel}
    (h : SessionState.created.Fits .singlePut b.state) : (startedBlob b).state = .uploading := by
  unfold startedBlob
  rcases h with hpending | huploading | ⟨hm, _⟩
  · rw [if_pos hpending]
  · rw [if_neg (by rw [huploading]; nofun), huploading]
  · cases hm

theorem SessionState.fits_of_settled {strategy : UploadStrategy} {state : SessionState}
    {blob : BlobState} (hactive : state.isActive = false) (hcompleted : state ≠ .completed) :
    state.Fits strategy blob := by
  cases state <;> simp [Fits, isActive] at hactive hcompleted ⊢

variable [Platform]

/-- Every session goes with its Blob, and AVAILABLE content has one completed session. -/
structure Coupled (db : Database) : Prop where
  fits : ∀ u ∈ db.sessions.rows, ∀ b, db.blobs.get? u.blobId = some b →
    u.state.Fits u.strategy b.state
  references : ∀ u ∈ db.sessions.rows, db.References u.initiatingVersionId u.blobId
  completed : ∀ b ∈ db.blobs.rows, b.state = .available →
    ∃ u ∈ db.sessions.rows, u.blobId = b.id ∧ u.state = .completed
  completed_unique : db.sessions.Unique completedKey

theorem coupled_empty : Coupled Database.empty where
  fits := fun _ hu => by cases hu
  references := fun _ hu => by cases hu
  completed := fun _ hb => by cases hb
  completed_unique := Relation.unique_empty

/-! ## References -/

theorem References.extends {db db' : Database} (h : Extends db db') {versionId blobId : UUID}
    (href : db.References versionId blobId) : db'.References versionId blobId := by
  obtain ⟨e, he, hv, hb⟩ := href
  obtain ⟨e', he', rfl⟩ := h.entries _ e (Relation.get?_of_mem he)
  exact ⟨e, Relation.mem_of_get? he', hv, hb⟩

theorem references_of_referencedBlob {db : Database} {versionId : UUID} {digest : Sha256Digest}
    {b : BlobModel} (h : referencedBlob db versionId digest = some b) :
    db.blobs.get? b.id = some b ∧ b.sha256 = digest ∧ db.References versionId b.id := by
  have hsha := List.find?_some h
  obtain ⟨e, he, hb⟩ := List.mem_filterMap.mp (List.mem_of_find?_eq_some h)
  obtain ⟨he, hv⟩ := Database.mem_entriesOf.mp he
  exact ⟨Relation.get?_key hb, by simpa using hsha, e, he, hv, (Relation.key_of_get? hb).symm⟩

/-! ## One session and its Blob move -/

section Moves

variable {db db' : Database} {u u' : UploadSessionModel} {b b' : BlobModel}

theorem Coupled.settled (h : Coupled db) (hl : Lawful db)
    (hu : db.sessions.get? u.id = some u) (hactive : u.state.isActive = true)
    (hb : db.blobs.get? u.blobId = some b) {x : UploadSessionModel} (hx : x ∈ db.sessions.rows)
    (hne : x.id ≠ u.id) (hxb : x.blobId = u.blobId) :
    x.state.isActive = false ∧ x.state ≠ .completed := by
  have hmem := Relation.mem_of_get? hu
  constructor
  · by_contra hxa
    have hkey := hl.session_active x hx u hmem u.blobId
      (activeKey_eq_some.mpr ⟨by simpa using hxa, hxb⟩) (activeKey_eq_some.mpr ⟨hactive, rfl⟩)
    exact hne (congrArg UploadSessionModel.id hkey)
  · intro hxc
    have hfits := h.fits x hx b (by rw [hxb, hb])
    rw [hxc] at hfits
    exact (h.fits u hmem b hb).not_available hactive hfits

/-- Moving an active session and its Blob together, to states that go together. -/
theorem Coupled.advance (h : Coupled db) (hentries : db'.entries = db.entries)
    (hsessions : db'.sessions = db.sessions.replace u') (hblobs : db'.blobs = db.blobs.replace b')
    (hl : Lawful db)
    (hu : db.sessions.get? u.id = some u) (hactive : u.state.isActive = true)
    (hb : db.blobs.get? u.blobId = some b) (hid : u'.id = u.id) (hub : u'.blobId = u.blobId)
    (huv : u'.initiatingVersionId = u.initiatingVersionId) (hbid : b'.id = b.id)
    (hfits : u'.state.Fits u'.strategy b'.state)
    (hcompleted : b'.state = .available → u'.state = .completed) : Coupled db' := by
  have hbkey : u.blobId = b.id := (Relation.key_of_get? hb).symm
  have hu' : db.sessions.get? u'.id = some u := hid ▸ hu
  have hblob : ∀ k, k ≠ u.blobId → (db.blobs.replace b').get? k = db.blobs.get? k :=
    fun k hk => Relation.get?_replace_ne (by rw [key_blob, hbid, ← hbkey]; exact hk)
  have hself : (db.blobs.replace b').get? u.blobId = some b' := by
    rw [hbkey, ← hbid]
    exact Relation.get?_replace_self (by rw [key_blob, hbid, ← hbkey]; exact hb)
  have href : ∀ v k, db.References v k → db'.References v k := by
    intro v k hk
    unfold Database.References
    rw [hentries]
    exact hk
  refine ⟨fun x hx y hy => ?_, fun x hx => ?_, fun x hx hxa => ?_, ?_⟩
  · rw [hsessions] at hx
    rw [hblobs] at hy
    rcases Relation.mem_replace hx with rfl | ⟨hx, hne⟩
    · rw [hub, hself] at hy
      cases hy
      exact hfits
    · by_cases hxb : x.blobId = u.blobId
      · obtain ⟨hxa, hxc⟩ := h.settled hl hu hactive hb hx (hid ▸ hne) hxb
        exact SessionState.fits_of_settled hxa hxc
      · rw [hblob _ hxb] at hy
        exact h.fits x hx y hy
  · rw [hsessions] at hx
    rcases Relation.mem_replace hx with rfl | ⟨hx, _⟩
    · rw [huv, hub]
      exact href _ _ (h.references u (Relation.mem_of_get? hu))
    · exact href _ _ (h.references x hx)
  · rw [hblobs] at hx
    rw [hsessions]
    rcases Relation.mem_replace hx with rfl | ⟨hx, hne⟩
    · exact ⟨u', Relation.mem_replace_self hu', by rw [hub, hbid, hbkey], hcompleted hxa⟩
    · obtain ⟨y, hy, hyb, hyc⟩ := h.completed x hx hxa
      refine ⟨y, Relation.mem_replace_of_ne hy fun hk => hne ?_, hyb, hyc⟩
      have hyu : y = u := Relation.eq_of_key_eq hy (Relation.mem_of_get? hu) (hk.trans hid)
      rw [key_blob, key_blob, hbid, ← hbkey, ← hyb, hyu]
  · rw [hsessions]
    refine h.completed_unique.replace fun y hy hne c hc hyc => ?_
    obtain ⟨_, hcb⟩ := completedKey_eq_some.mp hc
    obtain ⟨hyc, hyb⟩ := completedKey_eq_some.mp hyc
    exact (h.settled hl hu hactive hb hy (hid ▸ hne) (by rw [hyb, ← hcb, hub])).2 hyc

theorem Coupled.advanceSession (h : Coupled db) (hentries : db'.entries = db.entries)
    (hsessions : db'.sessions = db.sessions.replace u') (hblobs : db'.blobs = db.blobs)
    (hl : Lawful db)
    (hu : db.sessions.get? u.id = some u) (hactive : u.state.isActive = true)
    (hid : u'.id = u.id) (hub : u'.blobId = u.blobId)
    (huv : u'.initiatingVersionId = u.initiatingVersionId)
    (hfits : ∀ b, u.state.Fits u.strategy b → u'.state.Fits u'.strategy b) :
    Coupled db' := by
  obtain ⟨b, hb⟩ := hl.session_blob.get (Relation.mem_of_get? hu)
  have hfit := h.fits u (Relation.mem_of_get? hu) b hb
  have hsame : db'.blobs = db.blobs.replace b := by
    rw [hblobs, Relation.replace_of_get? (Relation.get?_key hb)]
  exact h.advance hentries hsessions hsame hl hu hactive hb hid hub huv rfl (hfits _ hfit)
    fun ha => absurd ha (hfit.not_available hactive)

theorem Lawful.inactive_beside_new (h : Lawful db')
    (hsessions : db'.sessions = db.sessions.insert u) (hfree : db.sessions.get? u.id = none)
    (hactive : u.state.isActive = true) :
    ∀ x ∈ db.sessions.rows, x.blobId = u.blobId → x.state.isActive = false := by
  intro x hx hxb
  by_contra hxa
  have hkey := h.session_active x (hsessions ▸ Relation.mem_insert_of_mem hfree hx) u
    (hsessions ▸ Relation.mem_insert_self hfree) u.blobId
    (activeKey_eq_some.mpr ⟨by simpa using hxa, hxb⟩) (activeKey_eq_some.mpr ⟨hactive, rfl⟩)
  exact Relation.key_ne_of_free hfree hx (congrArg UploadSessionModel.id hkey)

theorem Coupled.openSession (h : Coupled db) (hextends : Extends db db')
    (hsessions : db'.sessions = db.sessions.insert u) (hblobs : db'.blobs = db.blobs.replace b')
    (hfree : db.sessions.get? u.id = none) (hb : db.blobs.get? u.blobId = some b)
    (hbid : b'.id = b.id) (href : db.References u.initiatingVersionId u.blobId)
    (hcreated : u.state = .created) (hfits : u.state.Fits u.strategy b'.state)
    (hold : ∀ x ∈ db.sessions.rows, x.blobId = u.blobId → x.state.Fits x.strategy b'.state) :
    Coupled db' := by
  have hbkey : u.blobId = b.id := (Relation.key_of_get? hb).symm
  have hblob : ∀ k, k ≠ u.blobId → (db.blobs.replace b').get? k = db.blobs.get? k :=
    fun k hk => Relation.get?_replace_ne (by rw [key_blob, hbid, ← hbkey]; exact hk)
  have hself : (db.blobs.replace b').get? u.blobId = some b' := by
    rw [hbkey, ← hbid]
    exact Relation.get?_replace_self (by rw [key_blob, hbid, ← hbkey]; exact hb)
  refine ⟨fun x hx y hy => ?_, fun x hx => ?_, fun x hx hxa => ?_, ?_⟩
  · rw [hsessions] at hx
    rw [hblobs] at hy
    have hx := (Relation.mem_insert hfree).mp hx
    by_cases hxb : x.blobId = u.blobId
    · rw [hxb, hself] at hy
      cases hy
      rcases hx with hx | rfl
      · exact hold x hx hxb
      · exact hfits
    · rw [hblob _ hxb] at hy
      rcases hx with hx | rfl
      · exact h.fits x hx y hy
      · exact absurd rfl hxb
  · rw [hsessions] at hx
    rcases (Relation.mem_insert hfree).mp hx with hx | rfl
    · exact References.extends hextends (h.references x hx)
    · exact References.extends hextends href
  · rw [hblobs] at hx
    rw [hsessions]
    rcases Relation.mem_replace hx with rfl | ⟨hx, _⟩
    · rw [hcreated] at hfits
      exact absurd hxa (hfits.not_available rfl)
    · obtain ⟨y, hy, hyb, hyc⟩ := h.completed x hx hxa
      exact ⟨y, (Relation.mem_insert hfree).mpr (Or.inl hy), hyb, hyc⟩
  · rw [hsessions]
    refine h.completed_unique.insert hfree fun y _ c hc => ?_
    rw [completedKey_eq_some, hcreated] at hc
    cases hc.1

end Moves

/-! ## Every reachable registry -/

theorem coupled_of_effect {env : Env} {r : Registry} {op : Operation} {db : Database}
    (hcommitted : Committed r.db) (hnext : Committed db) (hextends : Extends r.db db)
    (heffect : Effect env r op db) (h : Coupled r.db) : Coupled db := by
  have hl := hcommitted.lawful
  cases heffect with
  | idle => exact h
  | datasetFound hd hname hkey => exact { h with }
  | datasetCreated hname hfree hkey => exact { h with }
  | versionFound hv hdataset hsha hkey => exact { h with }
  | versionRegistered hcanonical hsha hv hfree hkey hblobs hentries hnews =>
      refine ⟨fun u hu b hb => ?_, fun u hu => ?_, fun b hb ha => ?_, h.completed_unique⟩
      · obtain ⟨b₀, hb₀⟩ := hl.session_blob.get hu
        have hb' := hblobs.get hb₀
        simp only [blobs_bind] at hb
        rw [hb] at hb'
        cases hb'
        exact h.fits u hu b hb₀
      · exact References.extends hextends (h.references u hu)
      · rcases hblobs.fresh b hb with hold | ⟨_, hpending, _⟩
        · exact h.completed b hold ha
        · rw [hpending] at ha
          cases ha
  | uploadBound hb hstate hu hub hsingle hkey => exact { h with }
  | sessionOpened hv hb hstate hinactive hfree hkey =>
      obtain ⟨hb, _, href⟩ := references_of_referencedBlob hb
      have hsame := (Relation.replace_of_get? (Relation.get?_key hb)).symm
      exact h.openSession hextends rfl hsame hfree hb rfl href rfl (Or.inl hstate)
        fun x hx hxb => h.fits x hx _ (hxb ▸ hb)
  | uploadStarted hu hsingle hcreated hb hv =>
      have hfit := h.fits _ (Relation.mem_of_get? hu) _ hb
      rw [hcreated, hsingle] at hfit
      have hstarted := startedBlob_state hfit
      exact h.advance rfl rfl rfl hl hu (by rw [hcreated]; rfl) hb rfl rfl rfl (startedBlob_id _)
        hstarted (by rw [hstarted]; nofun)
  | uploadVerified hu hsingle hstate hb huploading hv =>
      exact h.advance rfl rfl rfl hl hu (by rw [hstate]; rfl) hb rfl rfl rfl rfl rfl fun _ => rfl
  | uploadFailed hu hsingle hstate hb huploading hv hversion =>
      exact h.advance rfl rfl rfl hl hu (by rw [hstate]; rfl) hb rfl rfl rfl rfl trivial nofun
  | uploadRestarted hv hb href hkey hversion hblob hfree =>
      have hothers := hnext.lawful.inactive_beside_new rfl hfree rfl
      refine h.openSession hextends rfl rfl hfree hb rfl href rfl (Or.inr (Or.inl rfl))
        fun x hx hxb => SessionState.fits_of_settled (hothers x hx hxb) fun hxc => ?_
      have hfit := h.fits x hx _ ((congrArg r.db.blobs.get? hxb).trans hb)
      rw [hxc, hblob] at hfit
      cases hfit
  | versionFinalized hv hstate hcanonical hmatch havailable => exact { h with }
  | multipartBound hu hub hactive hmultipart hplan hkey => exact { h with }
  | multipartCreated hb href hsize hinactive hfree hparts hkey =>
      have hsame := (Relation.replace_of_get? (Relation.get?_key hb)).symm
      have hpublished := hnext.published _ (Relation.mem_of_get? hb)
        ⟨_, Relation.mem_insert_self hfree, (Relation.key_of_get? hb).symm, rfl⟩
      refine h.openSession hextends rfl hsame hfree hb rfl href rfl ?_
        fun x hx hxb => h.fits x hx _ (hxb ▸ hb)
      refine SessionState.fits_of_open hpublished.settled fun ha => ?_
      have hinactive := hpublished.inactive ha _ (Relation.mem_insert_self hfree)
        (Relation.key_of_get? hb).symm rfl
      cases hinactive
  | admissionGranted hu hmultipart howned hnow hlater hexpires hnone hkey => exact { h with }
  | admissionTaken hu hmultipart howned hnow hlater hexpires hl hexpired hl' hkey =>
      exact { h with }
  | admissionRenewed hu hmultipart howned hnow hlater hexpires hl hlive hl' hkey =>
      exact { h with }
  | admissionReleased hl hfence hexpires => exact { h with }
  | initiationBegun hu hfence hstate =>
      refine h.advanceSession rfl rfl rfl hl hu (by rw [hstate]; rfl) rfl rfl rfl fun b hb => ?_
      rw [hstate] at hb
      exact hb.imp_right (Or.imp_right And.right)
  | providerRecorded hu hfence hstate hprovider hb hblob =>
      exact h.advance rfl rfl rfl hl hu (by rw [hstate]; rfl) hb rfl rfl rfl rfl rfl nofun
  | initiationAmbiguous hu hl' hfence hstate =>
      exact h.advanceSession rfl rfl rfl hl hu (by rw [hstate]; rfl) rfl rfl rfl fun _ _ => trivial
  | partReplayed hu hfence hstate =>
      exact h.advanceSession rfl rfl rfl hl hu (by rw [hstate]; rfl) rfl rfl rfl fun _ hb => hb
  | partRecorded hu hfence hstate hpart hreceipt hempty =>
      exact h.advanceSession rfl rfl rfl hl hu (by rw [hstate]; rfl) rfl rfl rfl fun _ hb => hb
  | partsReconciled hu hfence hstate hparts =>
      exact h.advanceSession rfl rfl rfl hl hu (by rw [hstate]; rfl) rfl rfl rfl fun _ hb => hb
  | completionAccepted hu hmultipart hl' hfence hstate hresolved hlater hkey =>
      refine h.advanceSession rfl rfl rfl hl hu (by rw [hstate]; rfl) rfl rfl rfl fun b hb => ?_
      rw [hstate] at hb
      exact hb
  | completionClaimed hu hmultipart hstate hnow hlater hexpires hnone => exact { h with }
  | completionTaken hu hmultipart hstate hnow hlater hexpires hl hexpired => exact { h with }
  | completionRenewed hl hfence hlater => exact { h with }
  | phaseSet hu hfence hstate hcurrent hphase =>
      exact h.advanceSession rfl rfl rfl hl (Relation.get?_key hu) (by rw [hstate]; rfl) rfl rfl rfl
        fun _ hb => hb
  | attemptInvalidated hu hstate hl' hfence hlater =>
      exact h.advanceSession rfl rfl rfl hl (Relation.get?_key hu) (by rw [hstate]; rfl) rfl rfl rfl
        fun _ _ => trivial
  | partsRecovered hu hstate hfence hparts hconfirmed =>
      exact h.advanceSession rfl rfl rfl hl (Relation.get?_key hu) (by rw [hstate]; rfl) rfl rfl rfl
        fun _ hb => hb
  | completionResumed hu hstate hl' hfence hparts hlater =>
      refine h.advanceSession rfl rfl rfl hl (Relation.get?_key hu) (by rw [hstate]; rfl)
        rfl rfl rfl fun b hb => ?_
      rw [hstate] at hb
      exact hb
  | completionVerified hu hstate hl' hfence hphase hb hblob hevidence hlater =>
      exact h.advance rfl rfl rfl hl (Relation.get?_key hu) (by rw [hstate]; rfl) hb rfl rfl rfl rfl
        rfl fun _ => rfl

theorem coupled_of_reachable {r : Registry} (h : store.Reachable r) : Coupled r.db :=
  reachable_induction (I := fun r => Coupled r.db) coupled_empty
    (fun _ _ _ _ => coupled_of_effect) h

end RoboLake
