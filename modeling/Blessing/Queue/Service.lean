import Blessing.Queue.Storage

/-! # Submitting a job

`QueueService.submit` of `apps/agy_queue/service.py` up to the record it hands to `create_job`. The
repository snapshot, the new identifier and the time are read from outside and are arguments. -/

namespace Blessing.Queue.Service

open Blessing.Lib Blessing.Lib.Values Blessing.Lib.DateTime
open Blessing.Queue.Models Blessing.Queue.Security Blessing.Queue.Storage

/-- What `submit` raises. -/
inductive SubmitError where
  /-- an error of a text check -/
  | input (error : InputError)
  /-- `QueuePolicyError` -/
  | policy (message : String)
  /-- `RepositoryError` -/
  | repository (message : String)
  deriving DecidableEq

structure RepositorySnapshot where
  root : String
  branch : String
  sha : String

/-- A hexadecimal digit. -/
def hexDigit (d : Fin 16) : Char :=
  if d.val < 10 then Char.ofNat (48 + d.val) else Char.ofNat (87 + d.val)

/-- `new_job_id` with the time and the first digits of the random part it reads. -/
def newJobId (time : Instant) (uuid : List (Fin 16)) : String :=
  let (y, m, d) := ord2ymd (time.1 / microsPerDay)
  let s := time.1 % microsPerDay / microsPerSecond
  String.ofList ("agy-".toList ++ (digits 4 y ++ digits 2 m ++ digits 2 d) ++ ['-'] ++
    (digits 2 (s / 3600) ++ digits 2 (s / 60 % 60) ++ digits 2 (s % 60)) ++ ['-'] ++
    uuid.map hexDigit)

/-- The surroundings of a call of `submit`: the configuration it reads, the artifact directory, the
repositories, and the readings of the clock and the random numbers. -/
structure Env where
  defaultEffort : String
  maxAttempts : ℤ
  root : String
  snapshotRepository : String → Except String RepositorySnapshot
  idTime : Instant
  uuid : List (Fin 16)
  now : Instant

/-- `_validate_reference` -/
def validateReference (value : Option String) (label : String) :
    Except SubmitError (Option String) :=
  match value with
  | none => .ok none
  | some value =>
    let normalized := Text.strip value
    if normalized.isEmpty || 512 < normalized.length || normalized.toList.contains '\n' ||
        normalized.toList.contains '\r' then
      .error (.policy (label ++ " must be a short single-line reference"))
    else if containsCredentialLikeContent normalized then
      .error (.input (.credential (label ++ " contains credential-like content")))
    else .ok (some normalized)

/-- `model_effort_suffix`: the pattern `-(low|medium|high)$`. -/
def modelEffortSuffix (model : String) : Option String :=
  ["low", "medium", "high"].find? fun tier => ('-' :: tier.toList).isSuffixOf model.toList

/-- The effort of a request: its own, the one of the model name, or the default. -/
def chooseEffort (env : Env) (model : String) (effort : Option String) :
    Except SubmitError String :=
  match effort, modelEffortSuffix model with
  | none, suffix => .ok (suffix.getD env.defaultEffort)
  | some effort, some suffix =>
    if effort ≠ suffix then
      .error (.policy ("model " ++ (Json.str model).repr ++ " encodes effort " ++
        (Json.str suffix).repr ++ " but effort=" ++ (Json.str effort).repr ++
        " was explicitly requested"))
    else .ok effort
  | some effort, none => .ok effort

/-- The schema a `REPO_CHANGE` job must carry: its `required` list names `tests_passed`. -/
def requiresTestsPassed : Option Dict → Bool
  | none => false
  | some schema =>
    match (Json.obj schema).get "required" with
    | .arr required => required.contains (.str "tests_passed")
    | _ => false

/-- The gate a new job starts behind. -/
def initialGate (kind : JobKind) (authorizationRef verificationJobId : Option String) : GateState :=
  if (kind == .repoChange || kind == .cloudWrite || kind == .mainnetPreflight) &&
      authorizationRef.isNone then .waitingAuthorization
  else if kind == .cloudWrite && verificationJobId.isNone then .waitingVerification
  else .ready

/-- The policy on job kinds, model and effort: the model and the effort of the job. -/
def checkModel (env : Env) (kind : JobKind) (request : JobRequest) :
    Except SubmitError (String × String) := do
  if kind == .tradingOrder || kind == .emergencyKillSwitch then
    throw (.policy (kind.value ++
      " is outside AGY queue authority; use the deterministic control path"))
  let model := Text.strip request.model
  if model.isEmpty || 160 < model.length then
    throw (.policy "model must be a short non-empty value")
  let effort ← chooseEffort env model request.effort
  if (Text.strip effort).isEmpty || 40 < effort.length then
    throw (.policy "effort must be a short non-empty value")
  return (model, Text.strip effort)

/-- The limits on attempts and time. -/
def checkLimits (env : Env) (request : JobRequest) : Except SubmitError Unit := do
  if request.maxAttempts < 1 || min 3 env.maxAttempts < request.maxAttempts then
    throw (.policy "max_attempts must be between 1 and the configured limit of 3")
  if request.timeoutSec < 1 || 3600 < request.timeoutSec then
    throw (.policy "timeout_sec must be between 1 and 3600")

/-- The checks of the output schema. -/
def checkSchema (kind : JobKind) (request : JobRequest) : Except SubmitError (Option Dict) := do
  let schema ← match request.expectedOutputSchema with
    | none => pure none
    | some (.obj schema) => pure (some schema)
    | some _ => throw (.policy "expected_output_schema must be a JSON object")
  if kind == .repoChange && !requiresTestsPassed schema then
    throw (.policy ("REPO_CHANGE jobs must supply expected_output_schema requiring " ++
      "'tests_passed', since the queue cannot verify repo-change success without it"))
  return schema

/-- The snapshot of the repository and the checks against it. -/
def checkRepository (env : Env) (kind : JobKind) (request : JobRequest) :
    Except SubmitError RepositorySnapshot := do
  let snapshot ← (env.snapshotRepository request.repo).mapError .repository
  if request.branch.any fun b => b ≠ "" && b ≠ snapshot.branch then
    throw (.policy ("branch does not match current repository: " ++ request.branch.getD "" ++
      " != " ++ snapshot.branch))
  if request.baseSha.any fun s => s ≠ "" && s ≠ snapshot.sha then
    throw (.policy "base_sha does not match the current repository HEAD")
  if kind == .repoChange && (snapshot.branch == "main" || snapshot.branch == "master") then
    throw (.policy "REPO_CHANGE cannot target main/master")
  return snapshot

/-- The record `submit` builds from what its checks return. -/
def newJob (env : Env) (request : JobRequest) (prompt : String) (kind : JobKind)
    (model effort : String) (schema : Option Dict) (snapshot : RepositorySnapshot)
    (authorizationRef verificationJobId sessionKey scopeKey : Option String) : JobRecord :=
  let jobId := newJobId env.idTime env.uuid
  { jobId := jobId, createdAt := utcIso env.now, updatedAt := utcIso env.now, prompt := prompt,
    repo := snapshot.root, baseSha := some snapshot.sha, model := model, effort := effort,
    timeoutSec := request.timeoutSec, status := .pending, attempt := 0,
    maxAttempts := request.maxAttempts, leaseUntil := none, workerId := none,
    conversationId := none,
    resultPath := some (env.root ++ "/results/" ++ jobId ++ ".json"),
    rawEventsPath := some (env.root ++ "/events/" ++ jobId ++ ".jsonl"),
    errorCode := none, stderr := none, startedAt := none, finishedAt := none,
    branch := some snapshot.branch, headSha := none, nextAttemptAt := none,
    sessionKey := sessionKey, scopeKey := some (scopeKey.getD snapshot.root), jobKind := kind,
    externalEffectClass := jobEffectClass kind,
    gateState := initialGate kind authorizationRef verificationJobId,
    authorizationRef := authorizationRef, verificationJobId := verificationJobId,
    expectedOutputSchema := schema, resultJson := none }

/-- `submit`, the record it creates. The checks run in the order of the source. -/
def submit (env : Env) (request : JobRequest) : Except SubmitError JobRecord := do
  let prompt ← (validatePrompt request.prompt).mapError .input
  let kind ← (normalizeJobKind request.kind).mapError fun message => .input (.value message)
  let (model, effort) ← checkModel env kind request
  checkLimits env request
  let schema ← checkSchema kind request
  let snapshot ← checkRepository env kind request
  let authorizationRef ← validateReference request.authorizationRef "authorization_ref"
  let verificationJobId ← validateReference request.verificationJobId "verification_job_id"
  let sessionKey ← validateReference request.sessionKey "session_key"
  let scopeKey ← validateReference request.scopeKey "scope_key"
  return newJob env request prompt kind model effort schema snapshot authorizationRef
    verificationJobId sessionKey scopeKey

/-! ### How a job enters the queue -/

/-- A job nobody has worked on. -/
structure Fresh (job : JobRecord) : Prop where
  status : job.status = .pending
  attempt : job.attempt = 0
  maxAttempts : 1 ≤ job.maxAttempts
  workerId : job.workerId = none
  leaseUntil : job.leaseUntil = none

theorem bind_eq_ok {ε α β : Type} {x : Except ε α} {f : α → Except ε β} {b : β} :
    x >>= f = .ok b ↔ ∃ a, x = .ok a ∧ f a = .ok b := by
  cases x with
  | error e => simp [bind, Except.bind]
  | ok a => simp [bind, Except.bind]

theorem checkLimits_ok {env : Env} {request : JobRequest} {u : Unit}
    (h : checkLimits env request = .ok u) : 1 ≤ request.maxAttempts := by
  by_contra hlt
  simp [checkLimits, not_le.mp hlt] at h
  cases h

theorem submit_ok {env : Env} {request : JobRequest} {job : JobRecord}
    (h : submit env request = .ok job) : 1 ≤ request.maxAttempts ∧
      ∃ prompt kind model effort schema snapshot authorizationRef verificationJobId sessionKey
        scopeKey, job = newJob env request prompt kind model effort schema snapshot authorizationRef
          verificationJobId sessionKey scopeKey := by
  unfold submit at h
  obtain ⟨prompt, -, h⟩ := bind_eq_ok.mp h
  obtain ⟨kind, -, h⟩ := bind_eq_ok.mp h
  obtain ⟨⟨model, effort⟩, -, h⟩ := bind_eq_ok.mp h
  obtain ⟨u, hlimits, h⟩ := bind_eq_ok.mp h
  obtain ⟨schema, -, h⟩ := bind_eq_ok.mp h
  obtain ⟨snapshot, -, h⟩ := bind_eq_ok.mp h
  obtain ⟨authorizationRef, -, h⟩ := bind_eq_ok.mp h
  obtain ⟨verificationJobId, -, h⟩ := bind_eq_ok.mp h
  obtain ⟨sessionKey, -, h⟩ := bind_eq_ok.mp h
  obtain ⟨scopeKey, -, h⟩ := bind_eq_ok.mp h
  exact ⟨checkLimits_ok hlimits, prompt, kind, model, effort, schema, snapshot, authorizationRef,
    verificationJobId, sessionKey, scopeKey, (Except.ok.inj h).symm⟩

/-- **Every submitted job is fresh.** -/
theorem fresh_of_submit {env : Env} {request : JobRequest} {job : JobRecord}
    (h : submit env request = .ok job) : Fresh job := by
  obtain ⟨hmax, _, _, _, _, _, _, _, _, _, _, rfl⟩ := submit_ok h
  exact ⟨rfl, rfl, hmax, rfl, rfl⟩

/-- **The identifier of a submitted job is no secret.** -/
theorem redactText_newJobId (time : Instant) (uuid : List (Fin 16)) :
    redactText (newJobId time uuid) = newJobId time uuid := by
  have hdigit : ∀ {w n : ℕ} {c : Char}, c ∈ digits w n → isMark c = false := by
    intro w n c hc
    obtain ⟨d, hd, hc⟩ := mem_digits hc
    rw [hc]
    exact (by decide : ∀ d < 10, isMark (Char.ofNat (48 + d)) = false) d hd
  have hhex : ∀ d : Fin 16, isMark (hexDigit d) = false := by decide
  have hword : ∀ c ∈ "agy-".toList, isMark c = false := fun c hc => by
    have hall : ("agy-".toList.all fun c => !isMark c) = true := by decide
    simpa using List.all_eq_true.mp hall c hc
  refine redactText_of_plain fun c hc => ?_
  unfold newJobId at hc
  generalize ord2ymd (time.1 / microsPerDay) = date at hc
  generalize time.1 % microsPerDay / microsPerSecond = s at hc
  obtain ⟨y, m, d⟩ := date
  simp only [String.toList_ofList, List.mem_append, List.mem_singleton, List.mem_map] at hc
  rcases hc with
    ((((hc | (hc | hc) | hc) | hc) | (hc | hc) | hc) | hc) | ⟨d, -, hc⟩
  · exact hword c hc
  · exact hdigit hc
  · exact hdigit hc
  · exact hdigit hc
  · rw [hc]; decide
  · exact hdigit hc
  · exact hdigit hc
  · exact hdigit hc
  · rw [hc]; decide
  · rw [← hc]; exact hhex d

theorem redactText_submitted {env : Env} {request : JobRequest} {job : JobRecord}
    (h : submit env request = .ok job) : redactText job.jobId = job.jobId := by
  obtain ⟨-, _, _, _, _, _, _, _, _, _, _, rfl⟩ := submit_ok h
  exact redactText_newJobId env.idTime env.uuid

/-- Jobs enter through `submit`. -/
def Submitted (calls : List Call) : Prop :=
  ∀ call ∈ calls, ∀ job, call.op = .createJob job → ∃ env request, submit env request = .ok job

theorem Submitted.redactText_jobId {calls : List Call} (h : Submitted calls) (call : Call)
    (hc : call ∈ calls) (job : JobRecord) (hop : call.op = .createJob job) :
    redactText job.jobId = job.jobId := by
  obtain ⟨env, request, hjob⟩ := h call hc job hop
  exact redactText_submitted hjob

/-- Surroundings for concrete runs: every path is a repository on the branch `dev`. -/
def sampleEnv : Env where
  defaultEffort := "medium"
  maxAttempts := 3
  root := "/q"
  snapshotRepository := fun repo => .ok ⟨repo, "dev", "abc123"⟩
  idTime := ⟨63902822400000000, by decide +kernel⟩
  uuid := [0, 1, 2, 3, 4, 5, 6, 7, 8, 9, 10, 11]
  now := ⟨63902822400000000, by decide +kernel⟩

/-- The identifier `submit` gives there. -/
def sampleId : String := "agy-20260101-000000-0123456789ab"

/-- The record `submit` makes of a short read-only request there, under any identifier. -/
def sampleJob (jobId : String) : JobRecord :=
  { jobId := jobId, createdAt := "2026-01-01T00:00:00.000Z",
    updatedAt := "2026-01-01T00:00:00.000Z", prompt := "Summarise", repo := "/r",
    baseSha := some "abc123", model := "gemini-3.8-flash-medium", effort := "medium",
    timeoutSec := 300, status := .pending, attempt := 0, maxAttempts := 3, leaseUntil := none,
    workerId := none, conversationId := none,
    resultPath := some ("/q" ++ "/results/" ++ jobId ++ ".json"),
    rawEventsPath := some ("/q" ++ "/events/" ++ jobId ++ ".jsonl"), errorCode := none,
    stderr := none, startedAt := none, finishedAt := none, branch := some "dev",
    scopeKey := some "/r" }

theorem submit_sample :
    submit sampleEnv { prompt := "Summarise", repo := "/r" } = .ok (sampleJob sampleId) := by
  decide +kernel

end Blessing.Queue.Service
