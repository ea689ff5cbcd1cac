import RoboLake.Registry.Coupling

/-! # Attended Blobs

A Blob that is neither PENDING nor AVAILABLE has a session: under an UPLOADING Blob an
active one or a multipart one, under a FAILED Blob whatever attempt it was.
-/

namespace RoboLake

open Foundation Store Migrations

/-- The session accounts for a Blob of its own in this state. -/
def Attends (u : UploadSessionModel) (state : BlobState) : Prop :=
  u.strategy = .multipart ∨ state = .failed ∨ u.state.isActive = true

variable [Platform]

/-- Every Blob between PENDING and AVAILABLE has a session that accounts for it. -/
def Attended (db : Database) : Prop :=
  ∀ b ∈ db.blobs.rows, b.state ≠ .pending → b.state ≠ .available →
    ∃ u ∈ db.sessions.rows, u.blobId = b.id ∧ Attends u b.state

section Moves

variable {db db' : Database} {u u' : UploadSessionModel} {b b' : BlobModel}

/-- Moving a session and its Blob, which the moved session accounts for. -/
theorem Attended.advance (h : Attended db) (hsessions : db'.sessions = db.sessions.replace u')
    (hblobs : db'.blobs = db.blobs.replace b') (hu : db.sessions.get? u.id = some u)
    (hb : db.blobs.get? u.blobId = some b) (hid : u'.id = u.id) (hub : u'.blobId = u.blobId)
    (hbid : b'.id = b.id) (hattends : b'.state = .available ∨ Attends u' b'.state) :
    Attended db' := by
  have hbkey : b.id = u.blobId := Relation.key_of_get? hb
  have hu' : db.sessions.get? u'.id = some u := by
    rw [hid]
    exact hu
  intro x hx hpending havailable
  rw [hblobs] at hx
  rw [hsessions]
  rcases Relation.mem_replace hx with rfl | ⟨hx, hne⟩
  · refine ⟨u', Relation.mem_replace_self hu', ?_, hattends.resolve_left havailable⟩
    rw [hub, hbid, hbkey]
  · obtain ⟨y, hy, hyb, hya⟩ := h x hx hpending havailable
    refine ⟨y, Relation.mem_replace_of_ne hy fun hk => hne ?_, hyb, hya⟩
    have hyu : y = u := Relation.eq_of_key_eq hy (Relation.mem_of_get? hu) (hk.trans hid)
    rw [key_blob, key_blob, hbid, hbkey, ← hyb, hyu]

theorem Attended.advanceSession (h : Attended db)
    (hsessions : db'.sessions = db.sessions.replace u') (hblobs : db'.blobs = db.blobs)
    (hl : Lawful db) (hu : db.sessions.get? u.id = some u) (hid : u'.id = u.id)
    (hub : u'.blobId = u.blobId)
    (hattends : u'.strategy = .multipart ∨ u'.state.isActive = true) : Attended db' := by
  obtain ⟨b, hb⟩ := hl.session_blob.get (Relation.mem_of_get? hu)
  have hsame : db'.blobs = db.blobs.replace b := by
    rw [hblobs, Relation.replace_of_get? (Relation.get?_key hb)]
  exact h.advance hsessions hsame hu hb hid hub rfl (.inr (hattends.imp_right .inr))

theorem Attended.openSession (h : Attended db)
    (hsessions : db'.sessions = db.sessions.insert u) (hblobs : db'.blobs = db.blobs.replace b')
    (hfree : db.sessions.get? u.id = none) (hbid : b'.id = u.blobId)
    (hactive : u.state.isActive = true) : Attended db' := by
  intro x hx hpending havailable
  rw [hblobs] at hx
  rw [hsessions]
  rcases Relation.mem_replace hx with rfl | ⟨hx, _⟩
  · exact ⟨u, Relation.mem_insert_self hfree, hbid.symm, .inr (.inr hactive)⟩
  · obtain ⟨y, hy, hyb, hya⟩ := h x hx hpending havailable
    exact ⟨y, Relation.mem_insert_of_mem hfree hy, hyb, hya⟩

end Moves

/-! ## Every reachable registry -/

theorem multipart_of_state {db : Database} {u : UploadSessionModel} (h : Lawful db)
    (hu : u ∈ db.sessions.rows)
    (hstate : u.state ≠ .created ∧ u.state ≠ .inProgress ∧ u.state ≠ .completed ∧
      u.state ≠ .failed) : u.strategy = .multipart := by
  cases hstrategy : u.strategy with
  | multipart => rfl
  | singlePut =>
      rcases h.session_single u hu hstrategy with hs | hs | hs | hs
      · exact absurd hs hstate.1
      · exact absurd hs hstate.2.1
      · exact absurd hs hstate.2.2.1
      · exact absurd hs hstate.2.2.2

theorem attended_of_effect {env : Env} {r : Registry} {op : Operation} {db : Database}
    (hl : Lawful r.db) (heffect : Effect env r op db) (h : Attended r.db) : Attended db := by
  cases heffect with
  | versionRegistered _ _ _ _ _ hblobs =>
      intro b hb hpending havailable
      rcases hblobs.fresh b hb with hold | ⟨_, hfresh, _⟩
      · exact h b hold hpending havailable
      · exact absurd hfresh hpending
  | sessionOpened hv hb hstate hinactive hfree hkey =>
      obtain ⟨hb, _, _⟩ := references_of_referencedBlob hb
      have hsame := (Relation.replace_of_get? (Relation.get?_key hb)).symm
      exact h.openSession rfl hsame hfree rfl rfl
  | uploadStarted hu hsingle hcreated hb hv =>
      exact h.advance rfl rfl hu hb rfl rfl (startedBlob_id _) (.inr (.inr (.inr rfl)))
  | uploadVerified hu hsingle hstate hb huploading hv =>
      exact h.advance rfl rfl hu hb rfl rfl rfl (.inl rfl)
  | uploadFailed hu hsingle hstate hb huploading hv hversion =>
      exact h.advance rfl rfl hu hb rfl rfl rfl (.inr (.inr (.inl rfl)))
  | uploadRestarted hv hb href hkey hversion hblob hfree =>
      exact h.openSession rfl rfl hfree rfl rfl
  | multipartCreated hb href hsize hinactive hfree hparts hkey =>
      have hsame := (Relation.replace_of_get? (Relation.get?_key hb)).symm
      exact h.openSession rfl hsame hfree (Relation.key_of_get? hb) rfl
  | initiationBegun hu hfence hstate => exact h.advanceSession rfl rfl hl hu rfl rfl (.inr rfl)
  | providerRecorded hu hfence hstate hprovider hb hblob =>
      exact h.advance rfl rfl hu hb rfl rfl rfl (.inr (.inr (.inr rfl)))
  | initiationAmbiguous hu hl' hfence hstate =>
      have hmultipart := multipart_of_state hl (Relation.mem_of_get? hu) (by rw [hstate]; simp)
      exact h.advanceSession rfl rfl hl hu rfl rfl (.inl hmultipart)
  | partReplayed hu hfence hstate =>
      exact h.advanceSession rfl rfl hl hu rfl rfl (.inr (by rw [hstate]; rfl))
  | partRecorded hu hfence hstate hpart hreceipt hempty =>
      exact h.advanceSession rfl rfl hl hu rfl rfl (.inr (by rw [hstate]; rfl))
  | partsReconciled hu hfence hstate hparts =>
      exact h.advanceSession rfl rfl hl hu rfl rfl (.inr (by rw [hstate]; rfl))
  | completionAccepted hu hmultipart hl' hfence hstate hresolved hlater hkey =>
      exact h.advanceSession rfl rfl hl hu rfl rfl (.inr rfl)
  | phaseSet hu hfence hstate hcurrent hphase =>
      exact h.advanceSession rfl rfl hl (Relation.get?_key hu) rfl rfl
        (.inr (by rw [hstate]; rfl))
  | attemptInvalidated hu hstate hl' hfence hlater =>
      have hmultipart := multipart_of_state hl (Relation.mem_of_get? hu) (by rw [hstate]; simp)
      exact h.advanceSession rfl rfl hl (Relation.get?_key hu) rfl rfl (.inl hmultipart)
  | partsRecovered hu hstate hfence hparts hconfirmed =>
      exact h.advanceSession rfl rfl hl (Relation.get?_key hu) rfl rfl
        (.inr (by rw [withRecoveryFacts, hstate]; rfl))
  | completionResumed hu hstate hl' hfence hparts hlater =>
      exact h.advanceSession rfl rfl hl (Relation.get?_key hu) rfl rfl (.inr rfl)
  | completionVerified hu hstate hl' hfence hphase hb hblob hevidence hlater =>
      exact h.advance rfl rfl (Relation.get?_key hu) hb rfl rfl rfl (.inl rfl)
  | _ => exact h

theorem attended_of_reachable {r : Registry} (h : store.Reachable r) : Attended r.db := by
  have hinitial : Attended Registry.initial.db := by
    intro b hb
    cases hb
  exact reachable_induction (I := fun r => Attended r.db) hinitial
    (fun _ _ _ _ hcommitted _ _ heffect hr => attended_of_effect hcommitted.lawful heffect hr) h

end RoboLake
