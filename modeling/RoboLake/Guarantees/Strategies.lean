import RoboLake.Registry.Accepted.SinglePut
import RoboLake.Guarantees.Publication

/-! # Two strategies on one Blob

A Blob can have single-PUT and multipart sessions. An attempt of one strategy can
be opened on a Blob whose history with the other one refuses its last step.
-/

namespace RoboLake

open Foundation Store Work

section SinglePut

variable [Platform] {env : Env} {r : Registry}

def Publishes (r : Registry) (env : Env) (u : UploadSessionModel) (etag : Option String) : Prop :=
  (∃ context, (transact (markUploadVerified u.id etag) env r).1 = .ok context) ∧
    ∃ b, (transact (markUploadVerified u.id etag) env r).2.db.blobs.get? u.blobId = some b ∧
      b.state = .available

theorem completed_of_verification {op : Operation} {db : Database} {u : UploadSessionModel}
    {etag : Option String} (heffect : Effect env r op db) (hop : op = .markUploadVerified u.id etag)
    (hu : r.db.sessions.get? u.id = some u) :
    db = r.db ∨ ∃ x ∈ db.sessions.rows, x.blobId = u.blobId ∧ x.strategy = .singlePut ∧
      x.state = .completed := by
  cases heffect with
  | idle => exact Or.inl rfl
  | uploadVerified hx hsingle _ _ _ _ =>
      obtain ⟨hid, _⟩ := Operation.markUploadVerified.inj hop
      rw [hid, hu] at hx
      cases hx
      refine Or.inr ⟨_, Relation.mem_replace_self hu, rfl, hsingle, rfl⟩
  | _ => cases hop

end SinglePut

namespace Sample

/-- The initiation of session `300` fails and a single-PUT attempt `700` on its Blob starts. -/
def doomed : List Call :=
  registration ++ [resolution, admission, initiation,
    ⟨.markMultipartInitiationAmbiguous 300 400 1, env 6⟩,
    ⟨.prepareUpload 200 fileDigest "put" manifestDigest, env 7⟩,
    ⟨.markUploadInProgress 700, env 8⟩]

end Sample

end RoboLake
