import RoboLake.Registry.Reachable

/-! # Decisions

A Blob is decided once it is AVAILABLE or FAILED. The steps that decide one are those
that record the outcome of an upload; every other step finds it decided already.
-/

namespace RoboLake

open Foundation Store

variable [Platform] {env : Env} {r : Registry} {op : Operation} {db : Database} {id : UUID}
  {state : BlobState}

def InState (db : Database) (id : UUID) (state : BlobState) : Prop :=
  ∃ b ∈ db.blobs.rows, b.id = id ∧ b.state = state

/-- The state in which a decided Blob stays or is retried. -/
def BlobState.isDecided : BlobState → Bool
  | .available | .failed => true
  | _ => false

/-- The session whose outcome an operation records, and the state that its Blob is put in. -/
def Operation.decides : Operation → Option (UUID × BlobState)
  | .markUploadVerified sessionId _ => some (sessionId, .available)
  | .markUploadFailed sessionId _ _ => some (sessionId, .failed)
  | .recordVerifiedCompletion claim _ => some (claim.sessionId, .available)
  | _ => none

def Decides (op : Operation) (db : Database) (id : UUID) (state : BlobState) : Prop :=
  ∃ u, db.sessions.get? u.id = some u ∧ op.decides = some (u.id, state) ∧ u.blobId = id

omit [Platform] in
theorem inState_of_replace {blobs : Relation BlobModel} {row : BlobModel}
    (h : ∃ b ∈ (blobs.replace row).rows, b.id = id ∧ b.state = state) :
    (∃ b ∈ blobs.rows, b.id = id ∧ b.state = state) ∨ (row.id = id ∧ row.state = state) := by
  obtain ⟨b, hb, hid, hstate⟩ := h
  rcases Relation.mem_replace hb with rfl | ⟨hold, _⟩
  · exact .inr ⟨hid, hstate⟩
  · exact .inl ⟨b, hold, hid, hstate⟩

omit [Platform] in
theorem state_of_startedBlob {b : BlobModel} (h : (startedBlob b).state = state)
    (hdecided : state.isDecided = true) : b.state = state := by
  unfold startedBlob at h
  split at h
  · rw [← h] at hdecided
    cases hdecided
  · exact h

/-- A Blob is decided after a step where it was before, or where the step records the outcome of
one of its sessions. -/
theorem decided_of_effect (heffect : Effect env r op db) (hdecided : state.isDecided = true)
    (h : InState db id state) : InState r.db id state ∨ Decides op r.db id state := by
  have hundecided : ∀ {s : BlobState}, s.isDecided = false → s ≠ state := by
    intro s hs hsame
    rw [hsame, hdecided] at hs
    cases hs
  cases heffect with
  | versionRegistered _ _ _ _ _ hblobs _ _ =>
      obtain ⟨b, hb, hid, hstate⟩ := h
      rcases hblobs.fresh b hb with hold | ⟨_, hpending, _⟩
      · exact .inl ⟨b, hold, hid, hstate⟩
      · exact absurd (hpending.symm.trans hstate) (hundecided rfl)
  | @uploadStarted u b v now _ _ _ hb _ =>
      rcases inState_of_replace h with hold | ⟨hid, hstate⟩
      · exact .inl hold
      · exact .inl ⟨b, Relation.mem_of_get? hb, startedBlob_id b ▸ hid,
          state_of_startedBlob hstate hdecided⟩
  | @uploadVerified u b v _ now hu _ _ hb _ _ =>
      rcases inState_of_replace h with hold | ⟨hid, hstate⟩
      · exact .inl hold
      · refine .inr ⟨u, hu, ?_, (Relation.key_of_get? hb : b.id = u.blobId) ▸ hid⟩
        rw [← hstate]
        rfl
  | @uploadFailed u b v _ _ now hu _ _ hb _ _ _ =>
      rcases inState_of_replace h with hold | ⟨hid, hstate⟩
      · exact .inl hold
      · refine .inr ⟨u, hu, ?_, (Relation.key_of_get? hb : b.id = u.blobId) ▸ hid⟩
        rw [← hstate]
        rfl
  | uploadRestarted =>
      rcases inState_of_replace h with hold | ⟨_, hstate⟩
      · exact .inl hold
      · exact absurd hstate (hundecided rfl)
  | providerRecorded =>
      rcases inState_of_replace h with hold | ⟨_, hstate⟩
      · exact .inl hold
      · exact absurd hstate (hundecided rfl)
  | @completionVerified claim _ u _ b now hu _ _ _ _ hb _ _ _ =>
      rcases inState_of_replace h with hold | ⟨hid, hstate⟩
      · exact .inl hold
      · have huid : u.id = claim.sessionId := Relation.key_of_get? hu
        refine .inr ⟨u, huid ▸ hu, ?_, (Relation.key_of_get? hb : b.id = u.blobId) ▸ hid⟩
        rw [← hstate, huid]
        rfl
  | _ => exact .inl h

theorem decided_of_transact {α : Type} {tx : Tx α} (hop : operationTx op = effect tx)
    (hdecided : state.isDecided = true) (h : InState (transact tx env r).2.db id state) :
    InState r.db id state ∨ Decides op r.db id state := by
  have hstep : (Call.mk op env).step r = (transact tx env r).2 := by
    change (transact (operationTx op) env r).2 = _
    rw [hop, transact_effect]
  have heffect := effect_of_step ⟨op, env⟩ r
  rw [hstep] at heffect
  exact decided_of_effect heffect hdecided h

end RoboLake
