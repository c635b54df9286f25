import RomaBridge.Properties.CurrentCopies
import RomaBridge.Properties.JobTokens

/-! What a request of one host does to another. The job tokens of all hosts are in one table under
the identifiers of jobs, and a submission consumes a token before it knows whose it is: that is the
only way from a host to another one.
-/

namespace RomaBridge.Properties

open RomaBridge.Foundation RomaBridge.Model.Hosts
open RomaBridge.Model (PyDict PyValue)

-- What a host sees

/-- What the process and the store hold of a host: its record with its outstanding verification, its
rows, its window of requests, and the tokens that it can still use.
-/
structure HostView where
  record : Option HostRecord
  row : Option HostRow
  unfinished : List VerificationRow
  hits : List ℚ
  jobTokens : String → Option (String × String)

def hostView (api : HostApi) (hostId : String) : HostView :=
  { record := api.hosts.find? hostId
    row := api.store.hostRow hostId
    unfinished := api.store.unfinished hostId
    hits := api.hits hostId
    jobTokens := fun jobId =>
      (api.store.liveJobToken jobId).filter (fun entry => entry.1 = hostId) }

def HoldsToken (store : HostStore) (hostId jobId : String) : Prop :=
  ∃ tokenSha256, store.liveJobToken jobId = some (hostId, tokenSha256)

/-- The request gets past the checks of `handle`. -/
def admitted (env : ApiEnv) (api : HostApi) (req : PyDict) : Bool :=
  env.enabled && api.authenticated env (HostApi.text env req "host_id") (req.get "token")
    && (api.allow env (HostApi.text env req "host_id")).1

/-- What an admitted request works on. -/
def entered (env : ApiEnv) (api : HostApi) (req : PyDict) : HostApi :=
  (api.allow env (HostApi.text env req "host_id")).2.refresh (HostApi.text env req "host_id")

/-- The request submits a result for a job, or fetches one, whose token another host holds, or its
result finishes a verification of the other host.
-/
def Intrudes (env : ApiEnv) (api : HostApi) (req : PyDict) (other : String) : Prop :=
  admitted env api req = true
  ∧ ((req.get "action" = .str "submit_result"
        ∧ HoldsToken api.store other (HostApi.text env req "job_id"))
      ∨ (req.get "action" = .str "submit_result"
        ∧ (entered env api req).validSubmit env (HostApi.text env req "host_id") req = true
        ∧ (∃ judged,
          (entered env api req).judge env (HostApi.text env req "host_id") req = some judged
          ∧ judged.verdict ≠ .raised)
        ∧ ∃ row ∈ api.store.unfinished other, row.jobId = HostApi.text env req "job_id")
      ∨ (req.get "action" = .str "fetch_job"
        ∧ ∃ spec, (entered env api req).fetchable (HostApi.text env req "host_id") = some spec
          ∧ HoldsToken api.store other spec.jobId))

variable {env : ApiEnv} {api : HostApi} {req : PyDict} {hostId other jobId : String}

-- The tables

theorem hostRow_saveHost {h : HostRecord} (store : HostStore) (apart : h.hostId ≠ other)
    : (store.saveHost h).hostRow other = store.hostRow other := by
  cases store with
  | memory tables => rfl
  | pg tables =>
      have key : (tables.db.savedRow h).hostId = h.hostId := (savedRow_spec tables.db h).1
      simp only [HostStore.saveHost, HostStore.hostRow, HostDb.saveHost, Table.find?_put, key,
        if_neg apart]

theorem saveHost_frame (store : HostStore) (h : HostRecord)
    : (store.saveHost h).unfinished = store.unfinished
      ∧ (store.saveHost h).liveJobToken = store.liveJobToken := by
  cases store with
  | memory tables => exact ⟨rfl, rfl⟩
  | pg tables => exact ⟨rfl, rfl⟩

theorem putJobToken_frame (store : HostStore) (jobId hostId tokenSha256 : String)
    : (store.putJobToken jobId hostId tokenSha256).hostRow = store.hostRow
      ∧ (store.putJobToken jobId hostId tokenSha256).unfinished = store.unfinished := by
  cases store with
  | memory tables => exact ⟨rfl, rfl⟩
  | pg tables => exact ⟨rfl, rfl⟩

theorem consumeJobToken_frame (store : HostStore) (jobId : String)
    : (store.consumeJobToken jobId).2.hostRow = store.hostRow
      ∧ (store.consumeJobToken jobId).2.unfinished = store.unfinished := by
  cases store with
  | memory tables => exact ⟨rfl, rfl⟩
  | pg tables =>
      simp only [HostStore.consumeJobToken, PgHostStore.consumeJobToken, HostDb.consumeJobToken]
      cases tables.db.jobTokens jobId with
      | none => exact ⟨rfl, rfl⟩
      | some token =>
          by_cases used : token.used = true
          · simp [used]
          · simp [used, HostStore.hostRow, HostStore.unfinished, funext_iff]

theorem finishVerification_frame (store : HostStore) (jobId : String) (passed : Bool)
    : (store.finishVerification jobId passed).hostRow = store.hostRow
      ∧ (store.finishVerification jobId passed).liveJobToken = store.liveJobToken := by
  cases store with
  | memory tables => exact ⟨rfl, rfl⟩
  | pg tables => exact ⟨rfl, rfl⟩

theorem filter_finished (rows : List VerificationRow) (jobId other : String) (passed : Bool)
    : (rows.map (fun row => if row.jobId = jobId ∧ row.passed = none then
          { row with passed := some passed } else row)).filter
        (fun row => row.hostId = other ∧ row.passed = none)
      = (rows.filter (fun row => row.hostId = other ∧ row.passed = none)).filter
          (fun row => row.jobId ≠ jobId) := by
  induction rows with
  | nil => rfl
  | cons row rest ih =>
      rw [List.map_cons, List.filter_cons, List.filter_cons, ih]
      by_cases mine : row.hostId = other
      · by_cases finished : row.passed = none
        · by_cases same : row.jobId = jobId
          · simp [mine, finished, same]
          · simp [mine, finished, same]
        · simp [finished]
      · by_cases done : row.jobId = jobId ∧ row.passed = none
        · simp [mine, done]
        · simp [mine, done]

theorem unfinished_finishVerification_iff (store : HostStore) (jobId other : String) (passed : Bool)
    : (store.finishVerification jobId passed).unfinished other = store.unfinished other
      ↔ ∀ row ∈ store.unfinished other, row.jobId ≠ jobId := by
  cases store with
  | memory tables => simp [HostStore.finishVerification, HostStore.unfinished]
  | pg tables =>
      simp only [HostStore.finishVerification, HostStore.unfinished, HostDb.finishVerification]
      rw [filter_finished, List.filter_eq_self]
      simp

-- The tokens of a host

theorem tokens_update_iff (live : String → Option (String × String)) (jobId other : String)
    {value : Option (String × String)}
    (foreign : value.filter (fun entry => entry.1 = other) = none)
    : ((fun job => (Function.update live jobId value job).filter (fun entry => entry.1 = other))
        = fun job => (live job).filter (fun entry => entry.1 = other))
      ↔ ¬ ∃ tokenSha256, live jobId = some (other, tokenSha256) := by
  constructor
  · intro same held
    obtain ⟨tokenSha256, stored⟩ := held
    have here := congrFun same jobId
    rw [Function.update_self, foreign, stored, Option.filter_some_pos (by simp)] at here
    cases here
  · intro free
    funext job
    by_cases here : job = jobId
    · rw [here, Function.update_self, foreign]
      cases stored : live jobId with
      | none => rfl
      | some entry =>
          have theirs : entry.1 ≠ other := fun own =>
            free ⟨entry.2, by rw [stored, ← own]⟩
          rw [Option.filter_some_neg (by simpa using theirs)]
    · rw [Function.update_of_ne here]

-- What the parts of a request do to the view

theorem hostView_hits (api : HostApi) (hits : List ℚ) (apart : hostId ≠ other)
    : hostView { api with hits := Function.update api.hits hostId hits } other
      = hostView api other := by
  simp [hostView, Function.update_of_ne apart.symm]

theorem hostView_put (api : HostApi) {h : HostRecord} (apart : h.hostId ≠ other)
    : hostView { api with hosts := api.hosts.put h } other = hostView api other := by
  simp [hostView, apart]

theorem hostView_persist (api : HostApi) {h : HostRecord} (apart : h.hostId ≠ other)
    : hostView (api.persist h) other = hostView api other := by
  obtain ⟨unfinished, live⟩ := saveHost_frame api.store h
  simp [hostView, HostApi.persist, apart, hostRow_saveHost api.store apart, unfinished, live]

theorem hostView_allow (env : ApiEnv) (api : HostApi) (apart : hostId ≠ other)
    : hostView (api.allow env hostId).2 other = hostView api other := by
  unfold HostApi.allow
  simp only
  split
  · exact hostView_hits api _ apart
  · exact hostView_hits api _ apart

theorem loadHost_hostId {db : HostDb} {fresh : HostRecord} (loaded : db.loadHost hostId = some fresh)
    : fresh.hostId = hostId := by
  obtain ⟨row, found, rfl⟩ := Option.map_eq_some_iff.mp loaded
  exact (Table.find?_some found).2

theorem hostView_refresh (api : HostApi) (apart : hostId ≠ other)
    : hostView (api.refresh hostId) other = hostView api other := by
  unfold HostApi.refresh
  split
  · rfl
  · split
    · rfl
    · split
      · simp only [hostView, Table.find?_keep, HostView.mk.injEq, and_self, and_true]
        cases found : api.hosts.find? other with
        | none => rfl
        | some h =>
            have key : h.hostId = other := (Table.find?_some found).2
            have kept : h.hostId ≠ hostId := fun same => apart (same.symm.trans key)
            simp [kept]
      · rename_i fresh loaded
        exact hostView_put api (loadHost_hostId loaded ▸ apart)

theorem refresh_store (api : HostApi) (hostId : String) : (api.refresh hostId).store = api.store := by
  unfold HostApi.refresh
  split
  · rfl
  · split
    · rfl
    · split
      · rfl
      · rfl

theorem entered_store (env : ApiEnv) (api : HostApi) (req : PyDict)
    : (entered env api req).store = api.store := by
  unfold entered
  rw [refresh_store]
  unfold HostApi.allow
  simp only
  split
  · rfl
  · rfl

theorem hostView_entered (apart : HostApi.text env req "host_id" ≠ other)
    : hostView (entered env api req) other = hostView api other :=
  (hostView_refresh _ apart).trans (hostView_allow env api apart)

theorem hostView_heartbeat (env : ApiEnv) (api : HostApi) (apart : hostId ≠ other)
    : hostView (api.heartbeat env hostId).2 other = hostView api other := by
  unfold HostApi.heartbeat
  split
  · rfl
  · rename_i h found
    have own : h.hostId = hostId := (Table.find?_some found).2
    split
    · rfl
    · rename_i beaten accepted
      unfold HostRecord.heartbeat at accepted
      split at accepted
      · obtain rfl := Option.some.inj accepted
        exact hostView_persist api (own ▸ apart)
      · cases accepted

/-- Two states with the same records and windows that differ in the token of one job look the same
to a host exactly when it held no token there, if it holds none afterwards.
-/
theorem hostView_token_iff (api next : HostApi) (value : Option (String × String))
    (foreign : value.filter (fun entry => entry.1 = other) = none)
    (hosts : next.hosts = api.hosts) (hits : next.hits = api.hits)
    (rows : next.store.hostRow = api.store.hostRow)
    (unfinished : next.store.unfinished = api.store.unfinished)
    (live : next.store.liveJobToken = Function.update api.store.liveJobToken jobId value)
    : hostView next other = hostView api other ↔ ¬ HoldsToken api.store other jobId := by
  simp only [hostView, hosts, hits, rows, unfinished, live, HostView.mk.injEq, true_and]
  exact tokens_update_iff api.store.liveJobToken jobId other foreign

theorem hostView_fetchJob_iff (env : ApiEnv) (api : HostApi) (apart : hostId ≠ other)
    : hostView (api.fetchJob env hostId).2 other = hostView api other
      ↔ ¬ ∃ spec, api.fetchable hostId = some spec ∧ HoldsToken api.store other spec.jobId := by
  unfold HostApi.fetchJob
  split
  · rename_i unknown
    have nothing : api.fetchable hostId = none := by
      rw [HostApi.fetchable, Option.isNone_iff_eq_none.mp unknown, Option.bind_none]
    simp [nothing]
  · cases found : api.fetchable hostId with
    | none => simp
    | some spec =>
        obtain ⟨rows, unfinished⟩ :=
          putJobToken_frame api.store spec.jobId hostId (env.sha256 env.drawnToken)
        have live := jobTokenCells.live_put api.store spec.jobId
          (hostId, env.sha256 env.drawnToken)
        have foreign : (some (hostId, env.sha256 env.drawnToken)).filter
            (fun entry => entry.1 = other) = none :=
          Option.filter_some_neg (by simpa using apart)
        simp only [Option.some.injEq, exists_eq_left']
        exact hostView_token_iff api _ _ foreign rfl rfl rows unfinished live

def consumedAt (api : HostApi) (jobId : String) : HostApi :=
  { api with store := (api.store.consumeJobToken jobId).2 }

theorem hostView_consume_iff (api : HostApi) (jobId other : String)
    : hostView (consumedAt api jobId) other = hostView api other
      ↔ ¬ HoldsToken api.store other jobId := by
  obtain ⟨rows, unfinished⟩ := consumeJobToken_frame api.store jobId
  exact hostView_token_iff api (consumedAt api jobId) none rfl rfl rfl rows unfinished
    (jobTokenCells.live_take api.store jobId)

theorem hostView_submitVerification_iff (env : ApiEnv) (api : HostApi) (req : PyDict)
    (apart : hostId ≠ other)
    : hostView (api.submitVerification env hostId req).2 other = hostView api other
      ↔ ¬ ((∃ judged, api.judge env hostId req = some judged ∧ judged.verdict ≠ .raised)
        ∧ ∃ row ∈ api.store.unfinished other, row.jobId = HostApi.text env req "job_id") := by
  unfold HostApi.submitVerification
  cases judging : api.judge env hostId req with
  | none =>
      split
      · simp
      · simp
  | some judged =>
      obtain ⟨h, found, submitted⟩ := Option.bind_eq_some_iff.mp judging
      have own : h.hostId = hostId := (Table.find?_some found).2
      have record : judged.record.hostId ≠ other := by
        rw [(submit_cases submitted).2.2.2.1, own]
        exact apart
      rw [if_neg (by simp [found])]
      by_cases raised : judged.verdict = .raised
      · simp only [Option.some.injEq, exists_eq_left', ne_eq, raised, not_true_eq_false,
          false_and, not_false_iff, iff_true]
        exact hostView_put api record
      · simp only [if_neg raised]
        simp only [Option.some.injEq, exists_eq_left', ne_eq, raised,
          not_false_eq_true, true_and]
        rw [hostView_persist _ record]
        obtain ⟨rows, live⟩ := finishVerification_frame api.store
          (HostApi.text env req "job_id") (judged.verdict = HostRecord.Verdict.passed)
        simp only [hostView, rows, live, HostView.mk.injEq, true_and, and_true]
        rw [unfinished_finishVerification_iff]
        simp

/-- A submission is seen by another host exactly when that one holds the token it names, or it
finishes one of that host's verifications.
-/
theorem hostView_submit_iff (env : ApiEnv) (api : HostApi) (req : PyDict) (apart : hostId ≠ other)
    : hostView (api.submit env hostId req).2 other = hostView api other
      ↔ ¬ (HoldsToken api.store other (HostApi.text env req "job_id")
        ∨ (api.validSubmit env hostId req = true
          ∧ (∃ judged, api.judge env hostId req = some judged ∧ judged.verdict ≠ .raised)
          ∧ ∃ row ∈ api.store.unfinished other, row.jobId = HostApi.text env req "job_id")) := by
  have consumes := hostView_consume_iff api (HostApi.text env req "job_id") other
  unfold HostApi.submit
  simp only
  by_cases valid : api.validSubmit env hostId req = true
  · -- A good token is one of the submitting host, so the other host holds none for the job.
    have theirs : ¬ HoldsToken api.store other (HostApi.text env req "job_id") := by
      intro held
      obtain ⟨tokenSha256, live⟩ := held
      unfold HostApi.validSubmit at valid
      have taken := jobTokenCells.fst_take api.store (HostApi.text env req "job_id")
      obtain ⟨entry, found, checks⟩ := (Option.any_eq_true _ _).mp valid
      simp only [Bool.and_eq_true, decide_eq_true_eq] at checks
      have same : some entry = some (other, tokenSha256) :=
        found.symm.trans (taken.trans live)
      obtain rfl := Option.some.inj same
      exact apart checks.1.symm
    have unseen := consumes.mpr theirs
    have judges := hostView_submitVerification_iff env
      (consumedAt api (HostApi.text env req "job_id")) req apart
    obtain ⟨_, unfinished⟩ := consumeJobToken_frame api.store (HostApi.text env req "job_id")
    rw [unseen] at judges
    rw [if_pos valid]
    simp only [theirs, valid, true_and, false_or]
    refine judges.trans ?_
    simp only [HostApi.judge, consumedAt, unfinished]
  · have refused : api.validSubmit env hostId req = false := by simpa using valid
    rw [if_neg valid]
    simp only [refused, Bool.false_eq_true, false_and, or_false]
    exact consumes

-- Requests

theorem handle_of_admitted (passes : admitted env api req = true)
    : api.handle env (some req)
      = (entered env api req).act env (HostApi.text env req "host_id") req := by
  unfold admitted at passes
  rw [Bool.and_eq_true, Bool.and_eq_true] at passes
  obtain ⟨⟨enabled, authenticated⟩, allowed⟩ := passes
  simp [HostApi.handle, enabled, authenticated, allowed, entered]

theorem hostView_of_not_admitted (refused : ¬ admitted env api req = true)
    (apart : HostApi.text env req "host_id" ≠ other)
    : hostView (api.handle env (some req)).2 other = hostView api other := by
  unfold HostApi.handle
  simp only
  split
  · rfl
  · rename_i enabled
    split
    · rename_i authenticated
      split
      · rename_i allowed
        exact absurd (by simp [admitted, enabled, authenticated, allowed]) refused
      · exact hostView_allow env api apart
    · rfl

theorem hostView_act_iff (apart : hostId ≠ other)
    : hostView (api.act env hostId req).2 other = hostView api other
      ↔ ¬ ((req.get "action" = .str "submit_result"
          ∧ HoldsToken api.store other (HostApi.text env req "job_id"))
        ∨ (req.get "action" = .str "submit_result" ∧ api.validSubmit env hostId req = true
          ∧ (∃ judged, api.judge env hostId req = some judged ∧ judged.verdict ≠ .raised)
          ∧ ∃ row ∈ api.store.unfinished other, row.jobId = HostApi.text env req "job_id")
        ∨ (req.get "action" = .str "fetch_job"
          ∧ ∃ spec, api.fetchable hostId = some spec
            ∧ HoldsToken api.store other spec.jobId)) := by
  unfold HostApi.act
  by_cases beats : req.get "action" = .str "heartbeat"
  · simp [beats, hostView_heartbeat env api apart]
  · rw [if_neg beats]
    by_cases fetches : req.get "action" = .str "fetch_job"
    · simpa [fetches] using hostView_fetchJob_iff env api apart
    · rw [if_neg fetches]
      by_cases submits : req.get "action" = .str "submit_result"
      · simpa [submits] using hostView_submit_iff env api req apart
      · simp [fetches, submits]

/-- A request leaves another host unaffected exactly when it is not one of the few that work on a
job of that host: its record, its outstanding verification, its window of requests and the tokens
issued to it are the same before and after.
-/
theorem hosts_do_not_interfere_iff (env : ApiEnv) (api : HostApi) (req : PyDict) (other : String)
    (apart : HostApi.text env req "host_id" ≠ other)
    : hostView (api.handle env (some req)).2 other = hostView api other
      ↔ ¬ Intrudes env api req other := by
  by_cases passes : admitted env api req = true
  · have unseen : hostView (entered env api req) other = hostView api other :=
      hostView_entered apart
    rw [handle_of_admitted passes, ← unseen, hostView_act_iff apart, Intrudes]
    simp only [passes, true_and, entered_store]
  · rw [hostView_of_not_admitted passes apart]
    simp [Intrudes, passes]

/-- A host that was registered and never changed. -/
def newHost (hostId : String) : HostRecord :=
  { hostId := hostId, ownerContactRef := "r", gpuModel := "RTX_3060", gpuCount := 1, vramGb := 12,
    region := "EU", ownHost := false, status := .pending, trustTier := .none, benchmarkScore := none,
    lastHeartbeat := none, createdAt := 0, history := [], pendingVerification := none,
    verifyReservation := none }

def strayedSpec : VerificationJobSpec :=
  { jobId := "verify_0a1b2c3d4e5f", hostId := "host-b", image := "roma/host-bench:pinned",
    command := "roma-bench --seed s --n 8 --reps 1", seed := "s", n := 8, reps := 1,
    expectedSha256 := "h", minTflops := 1, maxTflops := 2, timeoutS := 900 }

def strayedApi : HostApi :=
  { hosts := (Table.empty.put (newHost "host-a")).put { newHost "host-b" with
      status := .verifying
      history := [⟨.pending, .verifying, "verification reserved"⟩]
      pendingVerification := some strayedSpec }
    store := .memory
      { tokenHash := fun hostId => if hostId = "host-a" then
          some "a70bf50e531ce1a817561f2f5d5b6645d4e806becf58ccc5e8cf6b8045a090a8" else none
        jobTokens := fun jobId => if jobId = "verify_0a1b2c3d4e5f" then
          some ("host-b", "f3c4690a763276dc3fb58c53f581e357e1cc34902f58f547cba0e1f8edaad35c")
          else none }
    hits := fun _ => [] }

/-- The surroundings of the request. -/
def strayedEnv : ApiEnv :=
  { enabled := true
    str := fun value => match value with
      | .str text => text
      | _ => ""
    sha256 := fun text => if text = "token-a" then
      "a70bf50e531ce1a817561f2f5d5b6645d4e806becf58ccc5e8cf6b8045a090a8"
      else "f3c4690a763276dc3fb58c53f581e357e1cc34902f58f547cba0e1f8edaad35c"
    bench := ⟨fun _ _ => "h", fun _ _ _ => some 1⟩
    rpm := 60
    clock := 0
    now := 0
    drawnToken := "jt-2" }

def strayedSubmit : PyDict := fun key =>
  if key = "action" then some (.str "submit_result")
  else if key = "host_id" then some (.str "host-a")
  else if key = "token" then some (.str "token-a")
  else if key = "job_id" then some (.str "verify_0a1b2c3d4e5f")
  else none

/-- The refused submission takes the token of the other host. -/
theorem refused_submit_takes_token
    : (strayedApi.handle strayedEnv (some strayedSubmit)).1
        = .error 409 "invalid_or_used_job_token"
      ∧ hostView (strayedApi.handle strayedEnv (some strayedSubmit)).2 "host-b"
        ≠ hostView strayedApi "host-b" := by
  refine ⟨by decide, ?_⟩
  intro same
  have tokens := congrArg (fun view => view.jobTokens "verify_0a1b2c3d4e5f") same
  exact absurd tokens (by decide)

def strayedHeartbeat : PyDict := fun key =>
  if key = "action" then some (.str "heartbeat") else strayedSubmit key

/-- A heartbeat leaves the other host unaffected. -/
theorem hosts_do_not_interfere_iff_heartbeat
    : HostApi.text strayedEnv strayedHeartbeat "host_id" ≠ "host-b"
      ∧ hostView (strayedApi.handle strayedEnv (some strayedHeartbeat)).2 "host-b"
        = hostView strayedApi "host-b" := by
  refine ⟨by decide, ?_⟩
  refine (hosts_do_not_interfere_iff _ _ _ _ (by decide)).mpr ?_
  intro intrudes
  obtain ⟨_, submits | submits | fetches⟩ := intrudes
  · exact absurd submits.1 (by decide)
  · exact absurd submits.1 (by decide)
  · exact absurd fetches.1 (by decide)

end RomaBridge.Properties
