import RoboLake.Application.Pull
import RoboLake.Foundation.Acting

/-! # Streamed downloads

One GET is streamed into a descriptor that its caller opened, and what arrived is
compared with the manifest entry. The HTTP client and the descriptor are parameters.
-/

namespace RoboLake

open Foundation

variable {W α : Type}

/-! ## The HTTP client -/

/-- An error of the HTTP client: its own `RequestError`, or any other exception. -/
inductive ClientFailure
  | requestError
  | other (e : Failure)

def ClientFailure.raised (retryable : RoboLakeError) : ClientFailure → Failure
  | .requestError => .domain retryable
  | .other e => e

/-- A streamed answer: its chunks with what ends them early, and what its closing raises. -/
structure StreamedResponse where
  status : Nat
  chunks : List Bytes
  failure : Option ClientFailure := none
  closing : Option ClientFailure := none

/-- Statuses that say nothing against a later attempt. -/
def isRetryableStatus (status : Nat) : Bool := status = 408 ∨ status = 429 ∨ status ≥ 500

/-! ## Descriptors -/

/-- The calls on one open descriptor. A write takes a beginning of what it is given and answers
its length; a call that took nothing is made again, so some byte has been taken. -/
structure Descriptor (W : Type) where
  write : Bytes → Acting Failure W Nat
  fsync : Acting Failure W Unit

def writeView (write : Bytes → Acting Failure W Nat) (view : Bytes) : Acting Failure W Unit :=
  if view = [] then pure () else do
    let written ← write view
    writeView write (view.drop (max written 1))
termination_by view.length
decreasing_by
  rw [List.length_drop]
  have hpos := List.length_pos_iff.mpr ‹view ≠ []›
  omega

/-! ## Downloads -/

/-- Leave the streamed answer: an error of its closing replaces what came before. -/
def leaveResponse (closing : Option Failure) (body : Acting Failure W α) : Acting Failure W α :=
  match closing with
  | none => body
  | some e => do
      let _ ← tryCatch (some <$> body) fun _ => pure none
      throw e

variable [Platform]

def receiveBody (descriptor : Descriptor W) (item : DownloadItem) (response : StreamedResponse) :
    Acting Failure W Bytes := do
  let path := plainText item.entry.relativePath.value
  if response.status ≠ 200 then
    if isRetryableStatus response.status then
      throw (.domain (.retryableTransfer s!"Download is temporarily unavailable for {path}."))
    else
      let status := response.status
      throw (.domain
        (.transferRejected s!"Storage rejected download for {path} with status {status}."))
  else
    let received ← response.chunks.foldlM (fun received chunk => do
      writeView descriptor.write chunk
      pure (received ++ chunk)) []
    match response.failure with
    | none => pure received
    | some f => throw (f.raised (.retryableTransfer s!"Download failed for {path}; retry pull."))

/-- Stream one GET into an exclusive temporary descriptor and verify bytes. -/
def downloadTo
    (stream : PresignedRequest → Acting Failure W (Except ClientFailure StreamedResponse))
    (descriptor : Descriptor W) (item : DownloadItem) : Acting Failure W Unit := do
  let path := plainText item.entry.relativePath.value
  let retryable : RoboLakeError := .retryableTransfer s!"Download failed for {path}; retry pull."
  match ← stream item.request with
  | .error f => throw (f.raised retryable)
  | .ok response =>
      let received ← leaveResponse (response.closing.map fun f => f.raised retryable)
        (receiveBody descriptor item response)
      if received.length ≠ item.entry.sizeBytes ∨ Platform.sha256 received ≠ item.entry.sha256 then
        throw (.domain (.storedObjectMismatch s!"Downloaded bytes do not match {path}."))
      else descriptor.fsync

/-! ## What a download delivers -/

def Verified (entry : ManifestEntry) (content : Bytes) : Prop :=
  content.length = entry.sizeBytes ∧ Platform.sha256 content = entry.sha256

def raisedBy : Except ClientFailure StreamedResponse → List ClientFailure
  | .error f => [f]
  | .ok response => response.failure.toList ++ response.closing.toList

/-- An answer raises, beside `RequestError`, only what is allowed. -/
def AnswersWithin (P : Failure → Prop) (answer : Except ClientFailure StreamedResponse) : Prop :=
  ∀ e, .other e ∈ raisedBy answer → P e

section Ensures

open Acting

variable {P : Failure → Prop} {K : W → Prop} {I : Bytes → W → Prop} {s : W}

omit [Platform] in
theorem raised_of_answersWithin {f : ClientFailure} {message : String}
    (hretryable : P (.domain (.retryableTransfer message))) (hother : ∀ e, f = .other e → P e) :
    P (f.raised (.retryableTransfer message)) := by
  cases f with
  | requestError => exact hretryable
  | other e => exact hother e rfl

omit [Platform] in
theorem ensures_writeView {write : Bytes → Acting Failure W Nat} {E : Failure → W → Prop}
    (hwrite : ∀ c view s, view ≠ [] → I c s → Ensures (write view) s
      (fun n s' => 0 < n ∧ n ≤ view.length ∧ I (c ++ view.take n) s') E)
    {c view : Bytes} (h : I c s) :
    Ensures (writeView write view) s (fun _ s' => I (c ++ view) s') E := by
  induction hlength : view.length using Nat.strong_induction_on generalizing view c s with
  | _ length ih =>
      rw [writeView]
      by_cases hempty : view = []
      · rw [if_pos hempty, hempty]
        rw [List.append_nil]
        exact h
      · rw [if_neg hempty, ensures_bind]
        refine (hwrite c view s hempty h).mono ?_ fun _ _ he => he
        intro n s' hn
        obtain ⟨hpos, hle, hI⟩ := hn
        have hmax : max n 1 = n := by omega
        rw [hmax]
        have hshort : (view.drop n).length < length := by
          rw [List.length_drop]
          omega
        have hrest := ih _ hshort hI rfl
        rwa [List.append_assoc, List.take_append_drop] at hrest

theorem ensures_receiveBody {descriptor : Descriptor W} {item : DownloadItem}
    {response : StreamedResponse}
    (hown : ∀ m, P (.domain (.retryableTransfer m)) ∧ P (.domain (.transferRejected m)))
    (hkeep : ∀ c s, I c s → K s)
    (hwrite : ∀ c view s, view ≠ [] → I c s → Ensures (descriptor.write view) s
      (fun n s' => 0 < n ∧ n ≤ view.length ∧ I (c ++ view.take n) s') fun e s' => P e ∧ K s')
    (hwithin : AnswersWithin P (.ok response)) (h : I [] s) :
    Ensures (receiveBody descriptor item response) s (fun received s' => I received s')
      fun e s' => P e ∧ K s' := by
  unfold receiveBody
  by_cases hstatus : response.status ≠ 200
  · rw [if_pos hstatus]
    split
    · exact ⟨(hown _).1, hkeep _ _ h⟩
    · exact ⟨(hown _).2, hkeep _ _ h⟩
  · rw [if_neg hstatus, ensures_bind]
    refine (ensures_foldlM (J := fun _ received s' => I received s') ?_ h).mono ?_
      fun _ _ he => he
    · intro chunk rest received s' hI
      rw [ensures_bind]
      exact (ensures_writeView hwrite hI).mono (fun _ _ hI' => hI') fun _ _ he => he
    · intro received s' hI
      cases hfailure : response.failure with
      | none => exact hI
      | some f =>
          refine ⟨raised_of_answersWithin (hown _).1 ?_, hkeep _ _ hI⟩
          intro e he
          apply hwithin e
          rw [raisedBy, hfailure, he]
          exact List.mem_append_left _ List.mem_cons_self

omit [Platform] in
theorem ensures_leaveResponse {α : Type} {closing : Option Failure} {body : Acting Failure W α}
    {Q : α → W → Prop} (hclosing : ∀ e, closing = some e → P e) (hkeep : ∀ a s', Q a s' → K s')
    (h : Ensures body s Q fun e s' => P e ∧ K s') :
    Ensures (leaveResponse closing body) s Q fun e s' => P e ∧ K s' := by
  unfold leaveResponse
  cases closing with
  | none => exact h
  | some e =>
      have hP := hclosing e rfl
      rw [ensures_bind, ensures_tryCatch, map_eq_pure_bind, ensures_bind]
      refine h.mono ?_ ?_
      · intro a s' hQ
        exact ⟨hP, hkeep a s' hQ⟩
      · intro e' s' he
        exact ⟨hP, he.2⟩

/-- A download that returns has written exactly content that its entry describes. -/
theorem ensures_downloadTo
    {stream : PresignedRequest → Acting Failure W (Except ClientFailure StreamedResponse)}
    {descriptor : Descriptor W} {item : DownloadItem}
    (hown : ∀ m, P (.domain (.retryableTransfer m)) ∧ P (.domain (.transferRejected m)) ∧
      P (.domain (.storedObjectMismatch m)))
    (hkeep : ∀ c s, I c s → K s)
    (hstream : ∀ s, I [] s → Ensures (stream item.request) s
      (fun answer s' => I [] s' ∧ AnswersWithin P answer) fun e s' => P e ∧ K s')
    (hwrite : ∀ c view s, view ≠ [] → I c s → Ensures (descriptor.write view) s
      (fun n s' => 0 < n ∧ n ≤ view.length ∧ I (c ++ view.take n) s') fun e s' => P e ∧ K s')
    (hfsync : ∀ c s, I c s → Ensures descriptor.fsync s (fun _ s' => I c s')
      fun e s' => P e ∧ K s')
    (h : I [] s) :
    Ensures (downloadTo stream descriptor item) s
      (fun _ s' => ∃ c, Verified item.entry c ∧ I c s') fun e s' => P e ∧ K s' := by
  unfold downloadTo
  rw [ensures_bind]
  refine (hstream s h).mono ?_ fun _ _ he => he
  intro answer s' hanswer
  obtain ⟨hI, hwithin⟩ := hanswer
  cases answer with
  | error f =>
      refine ⟨raised_of_answersWithin (hown _).1 ?_, hkeep _ _ hI⟩
      intro e he
      exact hwithin e (he ▸ List.mem_cons_self)
  | ok response =>
      have hbody : Ensures (receiveBody descriptor item response) s'
          (fun received s'' => I received s'') fun e s'' => P e ∧ K s'' :=
        ensures_receiveBody (fun m => ⟨(hown m).1, (hown m).2.1⟩) hkeep hwrite hwithin hI
      have hclosing : ∀ e, response.closing.map (fun f => f.raised (.retryableTransfer
          s!"Download failed for {plainText item.entry.relativePath.value}; retry pull.")) =
            some e → P e := by
        intro e he
        obtain ⟨f, hf, rfl⟩ := Option.map_eq_some_iff.mp he
        refine raised_of_answersWithin (hown _).1 ?_
        intro e he
        apply hwithin e
        rw [raisedBy, hf, he]
        exact List.mem_append_right _ List.mem_cons_self
      change Ensures (leaveResponse _ _ >>= _) _ _ _
      rw [ensures_bind]
      refine (ensures_leaveResponse hclosing (fun c s' hI' => hkeep c s' hI') hbody).mono ?_
        fun _ _ he => he
      intro received s'' hI'
      split
      · exact ⟨(hown _).2.2, hkeep _ _ hI'⟩
      · rename_i hsame
        rw [not_or, not_not, not_not] at hsame
        exact (hfsync received s'' hI').mono (fun _ _ hI'' => ⟨received, hsame, hI''⟩)
          fun _ _ he => he

end Ensures

end RoboLake
