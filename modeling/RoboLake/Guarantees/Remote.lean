import RoboLake.Guarantees.Copies
import RoboLake.Guarantees.Wire
import RoboLake.Infrastructure.ApiClient

/-! # Remote services

The network may lose requests and answers, and the API and the client translate every
record on its way. A call through the API that returns is still a call of the services
behind it, and so is a whole push.
-/

namespace RoboLake

open Foundation Acting

variable [Platform] {ν τ α β γ ρ : Type}

/-! ## What an answer carries -/

/-- The answer for a Version says nothing of its failure. -/
def VersionRecord.onWire (record : VersionRecord) : VersionRecord :=
  { record with failureCode := none, failureDetail := none }

def UploadPreparation.onWire (preparation : UploadPreparation) : UploadPreparation :=
  { preparation with version := preparation.version.onWire }

def Manifest.IsBuilt (m : Manifest) : Prop := ∃ supplied, Manifest.build supplied = .ok m

/-! ## Records read back -/

/-- The number of a stored Version: positive, and in the range of its column. -/
def VersionRecord.Numbered (record : VersionRecord) : Prop :=
  0 < record.versionNumber ∧ record.versionNumber < 2 ^ 63

section Readers

variable [TextReaders]

omit [Platform] [TextReaders] in
theorem orProtocol_ok {message : String} {x : Except Failure α} {a : α}
    (h : ApiClient.orProtocol message x = .ok a) : x = .ok a := by
  unfold ApiClient.orProtocol at h
  split at h
  · cases h
  · exact h

theorem version_of_response {record record' : VersionRecord}
    (h : ApiClient.version (versionResponse record) none none = .ok record') :
    record' = record.onWire := by
  unfold ApiClient.version at h
  have h := orProtocol_ok h
  cases hreference : DatasetReference.parse (versionResponse record).reference with
  | error e =>
      rw [hreference] at h
      cases h
  | ok reference =>
      have hsame : reference = record.reference := DatasetReference.eq_of_parse_str hreference
      rw [hreference, hsame] at h
      simp only [versionResponse, ApiClient.uuidOf_str, Sha256Digest.parse_value,
        VersionState.ofValue_str, ApiClient.failureCodeOf] at h
      cases h
      rfl

/-- The client reads every answer for a stored Version. -/
theorem version_onWire {record : VersionRecord} (h : record.Numbered) :
    ApiClient.version (versionResponse record) none none = .ok record.onWire :=
  have hread : ApiClient.version (versionResponse record.onWire) none none = .ok record.onWire :=
    ApiClient.version_versionResponse h.1 h.2
  hread

theorem dataset_response (record : DatasetRecord) :
    ApiClient.dataset ⟨record.id.str, record.name.value⟩ = .ok record := by
  unfold ApiClient.dataset
  simp only [ApiClient.uuidOf_str, DatasetName.parse_value]
  rfl

omit [Platform] in
theorem sessionIdOf_str (sessionId : Option UUID) :
    ApiClient.sessionIdOf (sessionId.map UUID.str) = .ok sessionId := by
  cases sessionId with
  | none => rfl
  | some id =>
      change some <$> ApiClient.uuidOf id.str = _
      rw [ApiClient.uuidOf_str]
      rfl

theorem preparation_response {preparation : UploadPreparation} {version : VersionRecord}
    (h : ApiClient.version (versionResponse preparation.version) none none = .ok version) :
    ApiClient.preparation (preparationResponse preparation) =
      .ok { preparation with version := version } := by
  unfold ApiClient.preparation preparationResponse
  simp only [h, Sha256Digest.parse_value, sessionIdOf_str]
  rfl

theorem preparation_of_response {preparation preparation' : UploadPreparation}
    (h : ApiClient.preparation (preparationResponse preparation) = .ok preparation') :
    preparation' = preparation.onWire := by
  cases hversion : ApiClient.version (versionResponse preparation.version) none none with
  | error e =>
      have hfields := orProtocol_ok h
      unfold preparationResponse at hfields
      rw [hversion] at hfields
      cases hfields
  | ok version =>
      rw [preparation_response hversion, version_of_response hversion] at h
      cases h
      rfl

end Readers

/-! ## Fields that the schemas accept -/

section Fields

omit [Platform] in
theorem length_le_encodeUtf8 {value : PyStr} {encoded : Bytes}
    (h : encodeUtf8 value = some encoded) : value.length ≤ encoded.length := by
  have hchar : ∀ c : CodePoint, 1 ≤ (utf8 c).length := by
    intro c
    unfold utf8
    split_ifs <;> simp
  unfold encodeUtf8 at h
  split at h
  · cases h
  · cases h
    rw [List.length_flatMap]
    calc value.length = (value.map fun _ => 1).sum := by simp
      _ ≤ (value.map fun c => (utf8 c).length).sum :=
          List.sum_le_sum fun c _ => hchar c

theorem hasLength_name (name : DatasetName) : hasLength 1 255 name.value = true := by
  obtain ⟨encoded, hencoded, hchecks⟩ := (Option.any_eq_true _ _).mp name.safe
  have hle := length_le_encodeUtf8 hencoded
  simp only [DatasetName.isSafe, Bool.not_eq_true', Bool.or_eq_false_iff,
    List.isEmpty_eq_false_iff, maxDatasetNameBytes] at hchecks
  have hpos := List.length_pos_iff.mpr hchecks.1.1.1.1.1.1
  have hshort : ¬encoded.length > 255 := decide_eq_false_iff_not.mp hchecks.1.1.1.1.1.2
  unfold hasLength
  exact decide_eq_true ⟨hpos, by omega⟩

theorem length_path (path : RelativePath) : 1 ≤ path.value.length ∧ path.value.length ≤ 1024 := by
  obtain ⟨encoded, hencoded, hchecks⟩ := (Option.any_eq_true _ _).mp path.safe
  have hle := length_le_encodeUtf8 hencoded
  simp only [RelativePath.isSafe, Bool.not_eq_true', Bool.or_eq_false_iff,
    List.isEmpty_eq_false_iff, maxRelativePathBytes] at hchecks
  have hpos := List.length_pos_iff.mpr hchecks.1.1.1.1.1.1.1
  have hshort : ¬encoded.length > 1024 := decide_eq_false_iff_not.mp hchecks.1.1.1.2
  exact ⟨hpos, by omega⟩

theorem hasLength_key (operation : PyStr) (h : operation.length ≤ 100) (fields : List Bytes) :
    hasLength 1 255 (makeIdempotencyKey operation fields) = true := by
  have hdigest := Sha256Digest.length_value (requestFingerprint fields)
  have hfront : (text "robolake-m1:").length = 12 := rfl
  have hcolon : (text ":").length = 1 := rfl
  have hlength : (makeIdempotencyKey operation fields).length = 12 + operation.length + 1 + 64 := by
    unfold makeIdempotencyKey
    rw [List.length_append, List.length_append, List.length_append, hfront, hcolon]
    simp [asciiText, asciiChars, hdigest]
  unfold hasLength
  rw [hlength]
  exact decide_eq_true (by omega)

end Fields

/-! ## One request -/

/-- The error of a call through the API: that of the services, or what the client makes of its
envelope. -/
def Translated (e f : Failure) : Prop :=
  e = f ∨ e = .domain (ApiClient.apiError (some (errorResponse f).code))

/-- Runs in front of a network beside runs behind it. -/
abbrev acrossNetwork {ν τ : Type} (I : τ → Prop) (complete : Prop) :
    Simulation Failure Failure (ν × τ) τ := ⟨Prod.snd, I, complete, Translated⟩

abbrev atRoute {τ : Type} (I : τ → Prop) (complete : Prop) :
    Simulation ErrorResponse Failure τ τ := ⟨id, I, complete, fun e f => e = errorResponse f⟩

section Requests

variable {network : Network ν} {I : τ → Prop} {complete : Prop} {q : Acting Failure τ β}

omit [Platform] in
theorem ensures_handled {route : Acting Failure τ α} {t : τ} {Q : α → τ → Prop}
    {E : ErrorResponse → τ → Prop} :
    Ensures (Api.handled route) t Q E ↔
      Ensures route t Q fun e t' => E (errorResponse e) t' := by
  unfold Ensures Api.handled
  rcases route t with ⟨x, t'⟩
  cases x with
  | ok a => exact Iff.rfl
  | error e => exact Iff.rfl

omit [Platform] in
theorem refines_validated {valid : Bool} {P : β → Prop} (encode : β → α)
    (hvalid : complete → valid = true) (hq : Keeps I P q) :
    (atRoute I complete).Refines (fun a b => a = encode b ∧ P b)
      (Api.validated valid do
        let b ← q
        pure (encode b)) q := by
  unfold Api.validated
  cases valid with
  | false =>
      refine refines_of_incomplete ?_
      intro hcomplete
      cases hvalid hcomplete
  | true =>
      intro t hI
      rw [if_pos rfl, ensures_handled, ensures_bind]
      refine (ensures_self.and (hq t hI)).mono ?_ ?_
      · intro b t' hb
        obtain ⟨hrun, hP, hI'⟩ := hb
        exact ⟨b, hrun, ⟨rfl, hP⟩, hI'⟩
      · intro e t' he _
        exact ⟨e, he.1, rfl⟩

omit [Platform] in
/-- A payload that arrives was answered by the route, in one run of it. -/
theorem refines_request {route : Acting ErrorResponse τ α} {R : α → β → Prop}
    (hnetwork : complete → ∀ n, (network n).1 = .answered)
    (h : (atRoute I complete).Refines R route q) :
    (acrossNetwork I complete).Refines R (ApiClient.request network route) q := by
  intro s hI
  unfold ApiClient.request
  rw [ensures_bind, ensures_outside]
  change Ensures _ (_, s.2) _ _
  cases hdelivery : (network s.1).1 with
  | answered =>
      rw [ensures_bind, ensures_inside, ensures_attempt]
      refine (h s.2 hI).mono (fun _ _ ha => ha) ?_
      intro response t he hcomplete
      obtain ⟨f, hrun, hresponse⟩ := he hcomplete
      refine ⟨f, hrun, .inr ?_⟩
      rw [hresponse]
  | unanswered failure =>
      rw [ensures_bind, ensures_inside, ensures_attempt]
      have hlost : ¬complete := by
        intro hcomplete
        rw [hnetwork hcomplete] at hdelivery
        cases hdelivery
      exact ensures_self.mono (fun _ _ _ hcomplete => absurd hcomplete hlost)
        fun _ _ _ hcomplete => absurd hcomplete hlost
  | lost failure =>
      intro hcomplete
      rw [hnetwork hcomplete] at hdelivery
      cases hdelivery
  | intercepted code =>
      intro hcomplete
      rw [hnetwork hcomplete] at hdelivery
      cases hdelivery

omit [Platform] in
theorem refines_call {route : Acting ErrorResponse τ α} {P : β → Prop} (encode : β → α)
    {decode : α → Except Failure γ} {R : γ → β → Prop}
    (hnetwork : complete → ∀ n, (network n).1 = .answered)
    (h : (atRoute I complete).Refines (fun a b => a = encode b ∧ P b) route q)
    (hdecode : ∀ b c, decode (encode b) = .ok c → R c b)
    (hreads : complete → ∀ b, P b → ∃ c, decode (encode b) = .ok c) :
    (acrossNetwork I complete).Refines R (do
      let payload ← ApiClient.request network route
      MonadExcept.ofExcept (decode payload)) q := by
  rw [← bind_pure q]
  refine refines_bind (refines_request hnetwork h) ?_
  intro a b hab
  obtain ⟨rfl, hP⟩ := hab
  cases hc : decode (encode b) with
  | ok c => exact refines_pure (hdecode b c hc)
  | error e =>
      refine refines_of_incomplete ?_
      intro hcomplete
      obtain ⟨c, hread⟩ := hreads hcomplete b hP
      rw [hc] at hread
      cases hread

end Requests

/-! ## The registration body -/

omit [Platform] in
theorem entry_of_validate {fields : PyStr × Int × PyStr} {request : ManifestEntryRequest}
    (h : ManifestEntryRequest.validate fields = some request) :
    (request.relativePath, request.sizeBytes, request.sha256) = fields := by
  unfold ManifestEntryRequest.validate at h
  split at h
  · cases h
    rfl
  · cases h

theorem entries_of_validate {fields : List (PyStr × Int × PyStr)}
    {requests : List ManifestEntryRequest}
    (h : fields.mapM ManifestEntryRequest.validate = some requests) :
    requests.mapM ManifestEntryRequest.entry = fields.mapM Manifest.parseEntry := by
  induction fields generalizing requests with
  | nil =>
      cases h
      rfl
  | cons f fields ih =>
      rw [List.mapM_cons] at h
      obtain ⟨request, hrequest, h⟩ := Option.bind_eq_some_iff.mp h
      obtain ⟨rest, hrest, h⟩ := Option.bind_eq_some_iff.mp h
      cases h
      rw [List.mapM_cons, List.mapM_cons, ih hrest]
      unfold ManifestEntryRequest.entry
      rw [entry_of_validate hrequest]

theorem manifest_of_payload {m : Manifest} (hbuilt : m.IsBuilt) {request : ManifestRegisterRequest}
    (h : ManifestRegisterRequest.validate (ApiClient.manifestPayload m) = some request) :
    request.manifest = .ok m := by
  obtain ⟨supplied, hbuild⟩ := hbuilt
  unfold ManifestRegisterRequest.validate at h
  obtain ⟨requests, hrequests, h⟩ := Option.bind_eq_some_iff.mp h
  split at h
  · cases h
    unfold ManifestRegisterRequest.manifest
    rw [entries_of_validate hrequests]
    unfold ApiClient.manifestPayload
    rw [Manifest.mapM_parseEntry]
    exact Manifest.build_entries hbuild
  · cases h

omit [Platform] in
theorem length_digestText (digest : Sha256Digest) :
    (asciiText (asciiChars digest.value)).length = 64 := by
  simp [asciiText, asciiChars, digest.length_value]

theorem exists_validate (entries : List ManifestEntry) :
    ∃ requests, (entries.map fun e => (e.relativePath.value, (e.sizeBytes : Int),
      asciiText (asciiChars e.sha256.value))).mapM ManifestEntryRequest.validate = some requests ∧
        requests.length = entries.length := by
  induction entries with
  | nil => exact ⟨[], rfl, rfl⟩
  | cons e entries ih =>
      obtain ⟨requests, hrequests, hlength⟩ := ih
      have hfields : (1 ≤ e.relativePath.value.length ∧ e.relativePath.value.length ≤ 1024) ∧
          0 ≤ (e.sizeBytes : Int) ∧ (asciiText (asciiChars e.sha256.value)).length = 64 :=
        ⟨length_path e.relativePath, Int.natCast_nonneg _, length_digestText e.sha256⟩
      refine ⟨⟨_, _, _, hfields.1, hfields.2.1, hfields.2.2⟩ :: requests, ?_,
        congrArg (· + 1) hlength⟩
      rw [List.map_cons, List.mapM_cons, hrequests]
      unfold ManifestEntryRequest.validate
      rw [dif_pos hfields]
      rfl

/-- The schema accepts every built manifest. -/
theorem validate_manifestPayload {m : Manifest} (hbuilt : m.IsBuilt) :
    ManifestRegisterRequest.validate (ApiClient.manifestPayload m) ≠ none := by
  obtain ⟨supplied, hbuild⟩ := hbuilt
  obtain ⟨requests, hrequests, hlength⟩ := exists_validate m.entries
  obtain ⟨_, _, _, hversion, _⟩ := Manifest.build_spec hbuild
  have hcount : requests.length ≤ 100000 := by
    rw [hlength]
    exact (entries_of_build hbuild).1
  have hone : (ApiClient.manifestPayload m).schemaVersion = 1 := congrArg Nat.cast hversion
  unfold ManifestRegisterRequest.validate
  change (List.mapM ManifestEntryRequest.validate (m.entries.map _) >>= _) ≠ none
  rw [hrequests]
  change (if h : _ then _ else _) ≠ none
  rw [dif_pos ⟨hone, hcount⟩]
  exact nofun

/-! ## Control planes -/

section Planes

variable {I : τ → Prop} {complete : Prop}

/-- The services keep a fact of their world; where it matters, the Versions they return are
numbered. -/
structure ControlPlane.Keeps (services : ControlPlane (Acting Failure τ)) (I : τ → Prop)
    (complete : Prop) : Prop where
  createDataset : ∀ name key, Acting.Keeps I (fun _ => True) (services.createDataset name key)
  registerVersion : ∀ datasetId m key,
    Acting.Keeps I (fun record => complete → record.Numbered)
      (services.registerVersion datasetId m key)
  prepareUpload : ∀ versionId sha256 key,
    Acting.Keeps I (fun preparation => complete → preparation.version.Numbered)
      (services.prepareUpload versionId sha256 key)
  uploadUrl : ∀ sessionId, Acting.Keeps I (fun _ => True) (services.uploadUrl sessionId)
  completeUpload : ∀ sessionId etag,
    Acting.Keeps I (fun preparation => complete → preparation.version.Numbered)
      (services.completeUpload sessionId etag)
  finalize : ∀ versionId,
    Acting.Keeps I (fun record => complete → record.Numbered) (services.finalize versionId)

variable [TextReaders] {network : Network ν} {services : ControlPlane (Acting Failure τ)}

theorem refines_createDataset (hnetwork : complete → ∀ n, (network n).1 = .answered)
    (hservices : services.Keeps I complete) (name : DatasetName) {key : PyStr}
    (hkey : hasLength 1 255 key = true) :
    (acrossNetwork I complete).Refines Eq
      ((ApiClient.pushPlane network services).createDataset name key)
      (services.createDataset name key) := by
  refine refines_call (fun record => ⟨record.id.str, record.name.value⟩) hnetwork
    (P := fun _ => True) ?_ ?_ fun _ record _ => ⟨record, dataset_response record⟩
  · unfold Api.createDataset
    rw [DatasetName.parse_value]
    exact refines_validated _ (fun _ => by rw [hasLength_name, hkey]; rfl)
      (hservices.createDataset name key)
  · intro record record' h
    rw [dataset_response record] at h
    exact (Except.ok.inj h).symm

theorem refines_registerVersion (hnetwork : complete → ∀ n, (network n).1 = .answered)
    (hservices : services.Keeps I complete) (datasetId : UUID) {m : Manifest} (hbuilt : m.IsBuilt)
    {key : PyStr} (hkey : hasLength 1 255 key = true) :
    (acrossNetwork I complete).Refines (fun a b => a = b.onWire)
      ((ApiClient.pushPlane network services).registerVersion datasetId m key)
      (services.registerVersion datasetId m key) := by
  refine refines_call versionResponse hnetwork (P := fun record => complete → record.Numbered) ?_
    (fun _ _ => version_of_response) fun hcomplete record hP =>
      ⟨_, version_onWire (hP hcomplete)⟩
  unfold Api.registerVersion
  cases hrequest : ManifestRegisterRequest.validate (ApiClient.manifestPayload m) with
  | none => exact absurd hrequest (validate_manifestPayload hbuilt)
  | some request =>
      dsimp only
      rw [manifest_of_payload hbuilt hrequest]
      exact refines_validated versionResponse (fun _ => hkey)
        (hservices.registerVersion datasetId m key)

theorem refines_prepareUpload (hnetwork : complete → ∀ n, (network n).1 = .answered)
    (hservices : services.Keeps I complete) (versionId : UUID) (digest : Sha256Digest)
    {key : PyStr} (hkey : hasLength 1 255 key = true) :
    (acrossNetwork I complete).Refines (fun a b => a = b.onWire)
      ((ApiClient.pushPlane network services).prepareUpload versionId digest key)
      (services.prepareUpload versionId digest key) := by
  refine refines_call preparationResponse hnetwork
    (P := fun preparation => complete → preparation.version.Numbered) ?_
    (fun _ _ => preparation_of_response) fun hcomplete preparation hP =>
      ⟨_, preparation_response (version_onWire (hP hcomplete))⟩
  unfold Api.prepareUpload
  rw [Sha256Digest.parse_value]
  refine refines_validated preparationResponse (fun _ => ?_)
    (hservices.prepareUpload versionId digest key)
  unfold hasLength at hkey ⊢
  rw [digest.length_value, hkey]
  rfl

theorem refines_uploadUrl (hnetwork : complete → ∀ n, (network n).1 = .answered)
    (hservices : services.Keeps I complete) (sessionId : UUID) :
    (acrossNetwork I complete).Refines Eq
      ((ApiClient.pushPlane network services).uploadUrl sessionId)
      (services.uploadUrl sessionId) := by
  refine refines_request hnetwork fun t hI => ?_
  unfold Api.issueUploadUrl
  rw [ensures_handled]
  refine (ensures_self.and (hservices.uploadUrl sessionId t hI)).mono ?_ ?_
  · intro request t' ha
    exact ⟨request, ha.1, rfl, ha.2.2⟩
  · intro e t' he _
    exact ⟨e, he.1, rfl⟩

theorem refines_completeUpload (hnetwork : complete → ∀ n, (network n).1 = .answered)
    (hservices : services.Keeps I complete) (sessionId : UUID) {etag : Option String}
    (hetag : complete → (etag.all fun etag => etag.length ≤ 1024) = true) :
    (acrossNetwork I complete).Refines (fun a b => a = b.onWire)
      ((ApiClient.pushPlane network services).completeUpload sessionId etag)
      (services.completeUpload sessionId etag) :=
  refines_call preparationResponse hnetwork
    (refines_validated preparationResponse hetag (hservices.completeUpload sessionId etag))
    (fun _ _ => preparation_of_response) fun hcomplete _ hP =>
      ⟨_, preparation_response (version_onWire (hP hcomplete))⟩

theorem refines_finalize (hnetwork : complete → ∀ n, (network n).1 = .answered)
    (hservices : services.Keeps I complete) (versionId : UUID) :
    (acrossNetwork I complete).Refines (fun a b => a = b.onWire)
      ((ApiClient.pushPlane network services).finalize versionId)
      (services.finalize versionId) :=
  refines_call versionResponse hnetwork
    (refines_validated versionResponse (fun _ => rfl) (hservices.finalize versionId))
    (fun _ _ => version_of_response) fun hcomplete _ hP => ⟨_, version_onWire (hP hcomplete)⟩

end Planes

/-! ## Pushes -/

section Push

variable {I : τ → Prop} {complete : Prop}

/-- The ports of a push keep a fact of their world; the scan builds its manifest, and where it
matters the transfers return entity tags that the API takes. -/
structure PushWorkflow.Fits (workflow : PushWorkflow ρ (Acting Failure τ)) (I : τ → Prop)
    (complete : Prop) : Prop where
  scan : Acting.Keeps I (fun scanned => scanned.manifest.IsBuilt) workflow.scan
  services : workflow.controlPlane.Keeps I complete
  put : ∀ localRef request entry, Acting.Keeps I
    (fun receipt => complete → (receipt.etag.all fun etag => etag.length ≤ 1024) = true)
    (workflow.put localRef request entry)
  progress : ∀ event, Acting.Keeps I (fun _ => True) (workflow.progress event)

variable [TextReaders] {network : Network ν} {workflow : PushWorkflow ρ (Acting Failure τ)}

omit [Platform] [TextReaders] in
theorem refines_fail {R : α → β → Prop} {e : Failure} :
    (acrossNetwork I complete).Refines R (throw e : Acting Failure (ν × τ) α)
      (throw e : Acting Failure τ β) := refines_throw (.inl rfl)

omit [Platform] [TextReaders] in
theorem refines_requireManifest {actual expected : Sha256Digest} :
    (acrossNetwork I complete).Refines Eq
      (PushWorkflow.requireManifest actual expected : Acting Failure (ν × τ) Unit)
      (PushWorkflow.requireManifest actual expected : Acting Failure τ Unit) := by
  unfold PushWorkflow.requireManifest
  exact refines_ite (fun _ => refines_fail) fun _ => refines_pure rfl

omit [Platform] [TextReaders] in
theorem refines_same {x : Except Failure α} :
    (acrossNetwork I complete).Refines Eq (MonadExcept.ofExcept x : Acting Failure (ν × τ) α)
      (MonadExcept.ofExcept x : Acting Failure τ α) :=
  refines_ofExcept (fun a ha => ⟨a, ha, rfl⟩) fun e he _ => ⟨e, he, .inl rfl⟩

theorem refines_emit (hfits : workflow.Fits I complete) (kind : ProgressKind)
    (path : Option RelativePath) (tally : Tally) (m : Manifest) :
    (acrossNetwork I complete).Refines (fun a b => a = b ∧ True)
      ((workflow.overHttp network).emit kind path tally m) (workflow.emit kind path tally m) :=
  refines_inside (hfits.progress _) fun _ => .inl rfl

theorem refines_transfer (hnetwork : complete → ∀ n, (network n).1 = .answered)
    (hfits : workflow.Fits I complete) (m : Manifest) (file : ScannedFile ρ) (sessionId : UUID)
    (tally : Tally) :
    (acrossNetwork I complete).Refines Eq
      ((workflow.overHttp network).transfer m file sessionId tally)
      (workflow.transfer m file sessionId tally) := by
  unfold PushWorkflow.transfer
  refine refines_bind (refines_emit hfits _ _ _ _) fun _ _ _ => ?_
  refine refines_bind (refines_uploadUrl hnetwork hfits.services sessionId) ?_
  intro request request' hrequest
  subst hrequest
  refine refines_bind (refines_inside (hfits.put _ _ _) fun _ => .inl rfl) ?_
  intro receipt receipt' hreceipt
  obtain ⟨rfl, hetag⟩ := hreceipt
  refine refines_bind (refines_completeUpload hnetwork hfits.services sessionId hetag) ?_
  intro _ completed hcompleted
  subst hcompleted
  refine refines_bind refines_requireManifest fun _ _ _ => ?_
  refine refines_ite (fun _ => refines_fail) fun _ => ?_
  exact refines_bind (refines_emit hfits _ _ _ _) fun _ _ _ => refines_pure rfl

theorem refines_resolve (hnetwork : complete → ∀ n, (network n).1 = .answered)
    (hfits : workflow.Fits I complete) (m : Manifest) (version : VersionRecord) (tally : Tally)
    (file : ScannedFile ρ) :
    (acrossNetwork I complete).Refines Eq
      ((workflow.overHttp network).resolve m version.onWire tally file)
      (workflow.resolve m version tally file) := by
  have hkey := hasLength_key (text "upload-session-create") (by decide)
    [version.id.bytes, file.entry.sha256.rawBytes]
  unfold PushWorkflow.resolve
  refine refines_bind (refines_prepareUpload hnetwork hfits.services _ _ hkey) ?_
  intro _ preparation hpreparation
  subst hpreparation
  refine refines_bind refines_requireManifest fun _ _ _ => ?_
  refine refines_ite (fun _ => refines_fail) fun _ => refines_ite (fun _ => ?_) fun _ => ?_
  · exact refines_bind (refines_emit hfits _ _ _ _) fun _ _ _ => refines_pure rfl
  · dsimp only [UploadPreparation.onWire]
    cases preparation.sessionId with
    | none => exact refines_fail
    | some sessionId => exact refines_transfer hnetwork hfits m file sessionId tally

theorem refines_publish (hnetwork : complete → ∀ n, (network n).1 = .answered)
    (hfits : workflow.Fits I complete) (scanned : ScannedDataset ρ) (version : VersionRecord) :
    (acrossNetwork I complete).Refines Eq
      ((workflow.overHttp network).publish scanned version.onWire)
      (workflow.publish scanned version) := by
  unfold PushWorkflow.publish
  refine refines_bind (refines_foldlM ?_ _ rfl) ?_
  · intro tally tally' file htally
    subst htally
    exact refines_resolve hnetwork hfits scanned.manifest version tally file
  · intro tally tally' htally
    subst htally
    refine refines_bind (refines_emit hfits _ _ _ _) fun _ _ _ => ?_
    refine refines_bind (refines_finalize hnetwork hfits.services _) ?_
    intro _ ready hready
    subst hready
    refine refines_bind refines_requireManifest fun _ _ _ => ?_
    exact refines_ite (fun _ => refines_fail) fun _ => refines_same

/-- A push through the API refines the push through the services. -/
theorem refines_push (hnetwork : complete → ∀ n, (network n).1 = .answered)
    (hfits : workflow.Fits I complete) (dataset : DatasetName) :
    (acrossNetwork I complete).Refines Eq ((workflow.overHttp network).run dataset)
      (workflow.run dataset) := by
  have hcreate := hasLength_key (text "dataset-create") (by decide)
  have hregister := hasLength_key (text "version-register") (by decide)
  unfold PushWorkflow.run
  refine refines_bind (refines_inside hfits.scan fun _ => .inl rfl) ?_
  intro scanned scanned' hscanned
  obtain ⟨rfl, hbuilt⟩ := hscanned
  refine refines_bind (refines_emit hfits _ _ _ _) fun _ _ _ => ?_
  refine refines_bind (refines_createDataset hnetwork hfits.services _ (hcreate _)) ?_
  intro record record' hrecord
  subst hrecord
  refine refines_bind (refines_registerVersion hnetwork hfits.services _ hbuilt (hregister _)) ?_
  intro _ version hversion
  subst hversion
  refine refines_bind refines_requireManifest fun _ _ _ => ?_
  exact refines_ite (fun _ => refines_same) fun _ => refines_publish hnetwork hfits scanned version

end Push

end RoboLake
