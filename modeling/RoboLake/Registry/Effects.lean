import RoboLake.Registry.Effects.Registration
import RoboLake.Registry.Effects.SinglePut
import RoboLake.Registry.Effects.Completion

/-! # The effect of one call -/

namespace RoboLake

open Foundation Work Store

variable [Platform] {env : Env} {r : Registry}

theorem run_effect_ok {α : Type} {tx : Tx α} {s s' : TxState} {u : Unit}
    (h : run (effect tx) s = .ok (u, s')) : ∃ a, run tx s = .ok (a, s') := by
  obtain ⟨a, _, htx, hpure⟩ := run_bind_ok.mp h
  obtain ⟨_, rfl⟩ := run_pure_ok.mp hpure
  exact ⟨a, htx⟩

/-- Dropping the result of a call changes neither its success nor its registry. -/
theorem transact_effect {α : Type} (tx : Tx α) (env : Env) (r : Registry) :
    transact (effect tx) env r =
      ((transact tx env r).1.map fun _ => (), (transact tx env r).2) := by
  have hrun : run (do let a ← effect tx; commit; pure a) (beginTx env r) =
      (run (do let a ← tx; commit; pure a) (beginTx env r)).map fun x => ((), x.2) := by
    simp only [effect, run_bind]
    cases run tx (beginTx env r) with
    | error e => rfl
    | ok x =>
        simp only [run_pure]
        cases run commit x.2 with
        | error e => rfl
        | ok y => rfl
  rw [transact, transact, hrun]
  cases run (do let a ← tx; commit; pure a) (beginTx env r) with
  | error e => rfl
  | ok x => rfl

/-- Whatever the program of an operation does, the operation's effects list it. -/
theorem effect_of_run {op : Operation} {s : TxState} {u : Unit}
    (h : run (operationTx op) (beginTx env r) = .ok (u, s)) : Effect env r op s.db := by
  cases op with
  | createDataset =>
      obtain ⟨_, h⟩ := run_effect_ok h
      exact effect_createDataset h
  | registerVersion =>
      obtain ⟨_, h⟩ := run_effect_ok h
      exact effect_registerVersion h
  | resolveVersion =>
      obtain ⟨_, h⟩ := run_effect_ok h
      exact effect_resolveVersion h
  | getManifest =>
      obtain ⟨_, h⟩ := run_effect_ok h
      exact effect_getManifest h
  | getStatus =>
      obtain ⟨_, h⟩ := run_effect_ok h
      exact effect_getStatus h
  | getDownloadEntry =>
      obtain ⟨_, h⟩ := run_effect_ok h
      exact effect_getDownloadEntry h
  | prepareUpload =>
      obtain ⟨_, h⟩ := run_effect_ok h
      exact effect_prepareUpload h
  | getUpload =>
      obtain ⟨_, h⟩ := run_effect_ok h
      exact effect_getUpload h
  | markUploadInProgress =>
      obtain ⟨_, h⟩ := run_effect_ok h
      exact effect_markUploadInProgress h
  | markUploadVerified =>
      obtain ⟨_, h⟩ := run_effect_ok h
      exact effect_markUploadVerified h
  | markUploadFailed =>
      obtain ⟨_, h⟩ := run_effect_ok h
      exact effect_markUploadFailed h
  | restartFailedUpload =>
      obtain ⟨_, h⟩ := run_effect_ok h
      exact effect_restartFailedUpload h
  | finalizeVersion =>
      obtain ⟨_, h⟩ := run_effect_ok h
      exact effect_finalizeVersion h
  | createOrResolveMultipart =>
      obtain ⟨_, h⟩ := run_effect_ok h
      exact effect_createOrResolveMultipart h
  | getMultipart =>
      obtain ⟨_, h⟩ := run_effect_ok h
      exact effect_getMultipart h
  | acquireMultipartLease =>
      obtain ⟨_, h⟩ := run_effect_ok h
      exact effect_acquireMultipartLease h
  | releaseMultipartLease =>
      exact effect_releaseMultipartLease h
  | beginProviderInitiation =>
      exact effect_beginProviderInitiation h
  | recordProviderUpload =>
      exact effect_recordProviderUpload h
  | recordUploadedPart =>
      obtain ⟨_, h⟩ := run_effect_ok h
      exact effect_recordUploadedPart h
  | reconcileParts =>
      obtain ⟨_, h⟩ := run_effect_ok h
      exact effect_reconcileParts h
  | markMultipartInitiationAmbiguous =>
      exact effect_markMultipartInitiationAmbiguous h
  | acceptCompletion =>
      obtain ⟨_, h⟩ := run_effect_ok h
      exact effect_acceptCompletion h
  | claimCompletion =>
      obtain ⟨_, h⟩ := run_effect_ok h
      exact effect_claimCompletion h
  | renewCompletionLease =>
      obtain ⟨_, h⟩ := run_effect_ok h
      exact effect_renewCompletionLease h
  | setCompletionPhase =>
      exact effect_setCompletionPhase h
  | recoverPartialCompletion =>
      obtain ⟨_, h⟩ := run_effect_ok h
      exact effect_recoverPartialCompletion h
  | recordVerifiedCompletion =>
      obtain ⟨_, h⟩ := run_effect_ok h
      exact effect_recordVerifiedCompletion h

/-- A call that raises changes no table, and a call that commits has one of its effects. -/
theorem effect_of_step (c : Call) (r : Registry) : Effect c.env r c.operation (c.step r).db := by
  rcases transact_cases (operationTx c.operation) c.env r with ⟨_, hdb⟩ | ⟨_, s, _, _, hrun, _, hdb⟩
  · rw [Call.step, hdb]
    exact .idle
  · rw [Call.step, hdb]
    exact effect_of_run hrun

end RoboLake
