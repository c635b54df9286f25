import RomaBridge.Foundation.SingleUse
import RomaBridge.Model.HostApi

/-! Job tokens and the rate limit of the hosts. Tokens are taken once and only while they are the latest
of their job, however the requests of the hosts interleave and whichever store they share: the tables
of both stores are single-use cells. The queue of a host says which of its requests were admitted in
the last minute, from which come the bound for every window and the reason of every refusal.
-/

namespace RomaBridge.Properties

open RomaBridge.Foundation RomaBridge.Model.Hosts

/-- The job tokens of both stores are single-use cells: a stored token is live until it is consumed
or replaced.
-/
def jobTokenCells : SingleUseCells HostStore String (String × String) where
  live := HostStore.liveJobToken
  put := fun store jobId token => store.putJobToken jobId token.1 token.2
  take := HostStore.consumeJobToken
  live_put := by
    intro store jobId token
    funext other
    cases store with
    | memory tables =>
        by_cases same : other = jobId
        · simp [HostStore.liveJobToken, HostStore.putJobToken, MemoryHostStore.putJobToken, same]
        · simp [HostStore.liveJobToken, HostStore.putJobToken, MemoryHostStore.putJobToken, same]
    | pg tables =>
        by_cases same : other = jobId
        · simp [HostStore.liveJobToken, HostStore.putJobToken, PgHostStore.putJobToken,
            HostDb.putJobToken, same]
        · simp [HostStore.liveJobToken, HostStore.putJobToken, PgHostStore.putJobToken,
            HostDb.putJobToken, same]
  fst_take := by
    intro store jobId
    cases store with
    | memory tables => rfl
    | pg tables =>
        simp only [HostStore.liveJobToken, HostStore.consumeJobToken, PgHostStore.consumeJobToken,
          HostDb.consumeJobToken]
        cases tables.db.jobTokens jobId with
        | none => rfl
        | some token =>
            by_cases used : token.used = true
            · simp [used]
            · simp [used]
  live_take := by
    intro store jobId
    funext other
    cases store with
    | memory tables => rfl
    | pg tables =>
        simp only [HostStore.liveJobToken, HostStore.consumeJobToken, PgHostStore.consumeJobToken,
          HostDb.consumeJobToken]
        cases stored : tables.db.jobTokens jobId with
        | none =>
            by_cases same : other = jobId
            · simp [same, stored]
            · simp [same, HostStore.liveJobToken]
        | some token =>
            by_cases used : token.used = true
            · by_cases same : other = jobId
              · simp [same, stored, used]
              · simp [same, used, HostStore.liveJobToken]
            · by_cases same : other = jobId
              · simp [same, used]
              · simp [same, used, HostStore.liveJobToken]

/-- The access of a request, as a write or a taking of a cell. -/
def tokenAccess (sha256 : String → String) : TokenCall → CellCall String (String × String)
  | .fetchJob hostId jobId jobToken => .put jobId (hostId, sha256 jobToken)
  | .submitResult _ jobId _ => .take jobId

theorem tokenStep_snd (sha256 : String → String) (store : HostStore) (call : TokenCall)
    : (tokenStep sha256 store call).2 = (jobTokenCells.step store (tokenAccess sha256 call)).2 := by
  cases call with
  | fetchJob hostId jobId jobToken => rfl
  | submitResult hostId jobId jobToken => rfl

/-- The plaintexts that the fetches drew and returned. -/
def drawnTokens (calls : List TokenCall) : List String :=
  calls.filterMap (fun call => match call with
    | .fetchJob _ _ jobToken => some jobToken
    | .submitResult .. => none)

def shownToken : TokenCall → Option String
  | .fetchJob .. => none
  | .submitResult _ _ jobToken => jobToken

/-- A plaintext led to a call of `submit_verification`. -/
def accepts (jobToken : String) (visit : Visit HostStore TokenCall TokenReply) : Bool :=
  visit.reply = .accepted && shownToken visit.call = some jobToken

def hashedAs (sha256 : String → String) (jobToken : String) (entry : String × String) : Bool :=
  entry.2 = sha256 jobToken

theorem taken_of_accepted {sha256 : String → String} {store : HostStore} {hostId jobId : String}
    {jobToken : Option String}
    (accepted : (tokenStep sha256 store (.submitResult hostId jobId jobToken)).1 = .accepted)
    : ∃ entry, (jobTokenCells.take store jobId).1 = some entry ∧ entry.1 = hostId
      ∧ jobToken.map sha256 = some entry.2 := by
  simp only [tokenStep] at accepted
  split at accepted
  · rename_i valid
    obtain ⟨entry, found, checks⟩ := (Option.any_eq_true _ _).mp valid
    simp only [Bool.and_eq_true, decide_eq_true_eq] at checks
    exact ⟨entry, found, checks.1, checks.2⟩
  · cases accepted

def cellVisit (sha256 : String → String) (visit : Visit HostStore TokenCall TokenReply)
    : Visit HostStore (CellCall String (String × String)) (Option (String × String)) :=
  ⟨visit.before, tokenAccess sha256 visit.call,
    (jobTokenCells.step visit.before (tokenAccess sha256 visit.call)).1, visit.after⟩

theorem cellVisits (sha256 : String → String) (store : HostStore) (calls : List TokenCall)
    : visits jobTokenCells.step store (calls.map (tokenAccess sha256))
      = (visits (tokenStep sha256) store calls).map (cellVisit sha256) :=
  visits_map (tokenStep_snd sha256) store calls

theorem taken_of_accepts {sha256 : String → String} {jobToken : String} {store : HostStore}
    {calls : List TokenCall} {visit : Visit HostStore TokenCall TokenReply}
    (member : visit ∈ visits (tokenStep sha256) store calls)
    (accepted : accepts jobToken visit = true)
    : ∃ hostId jobId, visit.call = .submitResult hostId jobId (some jobToken)
      ∧ (cellVisit sha256 visit).reply = some (hostId, sha256 jobToken) := by
  have step := step_of_mem_visits member
  obtain ⟨before, call, reply, after⟩ := visit
  simp only [accepts, Bool.and_eq_true, decide_eq_true_eq] at accepted step
  obtain ⟨rfl, shown⟩ := accepted
  cases call with
  | fetchJob hostId jobId drawn => cases shown
  | submitResult hostId jobId presented =>
      obtain rfl : presented = some jobToken := shown
      obtain ⟨entry, found, owner, hash⟩ := taken_of_accepted (congrArg Prod.fst step)
      refine ⟨hostId, jobId, rfl, ?_⟩
      have pair : entry = (hostId, sha256 jobToken) :=
        Prod.ext owner (Option.some.inj hash).symm
      exact found.trans (congrArg some pair)

theorem countP_accepts_le (sha256 : String → String) (jobToken : String) (store : HostStore)
    (calls : List TokenCall)
    : (visits (tokenStep sha256) store calls).countP (accepts jobToken)
      ≤ (visits jobTokenCells.step store (calls.map (tokenAccess sha256))).countP
          (SingleUseCells.takes (hashedAs sha256 jobToken)) := by
  rw [cellVisits, List.countP_map]
  refine List.countP_mono_left ?_
  intro visit member accepted
  obtain ⟨hostId, jobId, _, found⟩ := taken_of_accepts member accepted
  change (cellVisit sha256 visit).reply.any (hashedAs sha256 jobToken) = true
  rw [found]
  simp [hashedAs]

theorem unmarked_of_not_drawn {sha256 : String → String} {jobToken : String} {calls : List TokenCall}
    (absent : sha256 jobToken ∉ (drawnTokens calls).map sha256)
    : ∀ call ∈ calls.map (tokenAccess sha256),
      SingleUseCells.Unmarked (hashedAs sha256 jobToken) call := by
  intro access member
  obtain ⟨call, called, rfl⟩ := List.mem_map.mp member
  cases call with
  | submitResult hostId jobId shown => exact trivial
  | fetchJob hostId jobId drawn =>
      have listed : drawn ∈ drawnTokens calls := List.mem_filterMap.mpr ⟨_, called, rfl⟩
      have different : sha256 drawn ≠ sha256 jobToken :=
        fun same => absent (same ▸ List.mem_map_of_mem listed)
      simpa [SingleUseCells.Unmarked, tokenAccess, hashedAs] using different

theorem drawnTokens_append (first second : List TokenCall)
    : drawnTokens (first ++ second) = drawnTokens first ++ drawnTokens second :=
  List.filterMap_append

@[simp]
theorem drawnTokens_fetchJob (hostId jobId jobToken : String) (rest : List TokenCall)
    : drawnTokens (.fetchJob hostId jobId jobToken :: rest) = jobToken :: drawnTokens rest := rfl

theorem not_drawn_again {sha256 : String → String} {past future : List TokenCall}
    {hostId jobId jobToken : String}
    (distinct : ((drawnTokens (past ++ .fetchJob hostId jobId jobToken :: future)).map sha256).Nodup)
    : sha256 jobToken ∉ (drawnTokens past).map sha256
      ∧ sha256 jobToken ∉ (drawnTokens future).map sha256 := by
  rw [drawnTokens_append, drawnTokens_fetchJob, List.map_append, List.map_cons,
    List.nodup_append] at distinct
  obtain ⟨_, later, apart⟩ := distinct
  refine ⟨?_, (List.nodup_cons.mp later).1⟩
  intro earlier
  exact apart _ earlier _ List.mem_cons_self rfl

theorem fetch_of_drawn {jobToken : String} {calls : List TokenCall}
    (drawn : jobToken ∈ drawnTokens calls)
    : ∃ hostId jobId past future, calls = past ++ .fetchJob hostId jobId jobToken :: future := by
  obtain ⟨call, called, shows⟩ := List.mem_filterMap.mp drawn
  cases call with
  | submitResult hostId jobId shown => cases shows
  | fetchJob hostId jobId drawn =>
      obtain rfl : drawn = jobToken := Option.some.inj shows
      obtain ⟨past, future, rfl⟩ := List.append_of_mem called
      exact ⟨hostId, jobId, past, future, rfl⟩

theorem fetch_unique {sha256 : String → String} {calls : List TokenCall}
    {hostId jobId jobToken hostId' jobId' jobToken' : String}
    (distinct : ((drawnTokens calls).map sha256).Nodup)
    (one : .fetchJob hostId jobId jobToken ∈ calls)
    (other : .fetchJob hostId' jobId' jobToken' ∈ calls)
    (same : sha256 jobToken = sha256 jobToken')
    : TokenCall.fetchJob hostId jobId jobToken = .fetchJob hostId' jobId' jobToken' := by
  obtain ⟨past, future, rfl⟩ := List.append_of_mem one
  obtain ⟨before, after⟩ := not_drawn_again distinct
  have draws : ∀ {rest : List TokenCall}, .fetchJob hostId' jobId' jobToken' ∈ rest →
      sha256 jobToken ∈ (drawnTokens rest).map sha256 := by
    intro rest called
    rw [same]
    exact List.mem_map_of_mem (List.mem_filterMap.mpr ⟨_, called, rfl⟩)
  rcases List.mem_append.mp other with earlier | here
  · exact absurd (draws earlier) before
  · rcases List.mem_cons.mp here with equal | later
    · exact equal.symm
    · exact absurd (draws later) after

section Runs

variable {sha256 : String → String} {store : HostStore} {calls : List TokenCall} {jobToken : String}

theorem countP_accepts_le_one (distinct : ((drawnTokens calls).map sha256).Nodup)
    (fresh : jobTokenCells.Clear (hashedAs sha256 jobToken) store)
    (drawn : jobToken ∈ drawnTokens calls)
    : (visits (tokenStep sha256) store calls).countP (accepts jobToken) ≤ 1 := by
  obtain ⟨hostId, jobId, past, future, rfl⟩ := fetch_of_drawn drawn
  obtain ⟨before, after⟩ := not_drawn_again distinct
  refine (countP_accepts_le sha256 jobToken store _).trans ?_
  rw [List.map_append, List.map_cons]
  exact fresh.countP_takes_le_one (unmarked_of_not_drawn before) (unmarked_of_not_drawn after)

theorem countP_accepts_refetched {past middle future : List TokenCall}
    {hostId hostId' jobId jobToken' : String}
    (distinct : ((drawnTokens (past ++ .fetchJob hostId jobId jobToken
      :: middle ++ .fetchJob hostId' jobId jobToken' :: future)).map sha256).Nodup)
    (fresh : jobTokenCells.Clear (hashedAs sha256 jobToken) store)
    : (visits (tokenStep sha256)
        (finalState (tokenStep sha256) store
          (past ++ .fetchJob hostId jobId jobToken
            :: middle ++ [.fetchJob hostId' jobId jobToken']))
        future).countP (accepts jobToken) = 0 := by
  have split : past ++ TokenCall.fetchJob hostId jobId jobToken
      :: middle ++ .fetchJob hostId' jobId jobToken' :: future
      = past ++ .fetchJob hostId jobId jobToken
        :: (middle ++ .fetchJob hostId' jobId jobToken' :: future) := by
    simp
  rw [split] at distinct
  obtain ⟨before, after⟩ := not_drawn_again distinct
  rw [drawnTokens_append, drawnTokens_fetchJob, List.map_append, List.map_cons, List.mem_append,
    List.mem_cons] at after
  have between : sha256 jobToken ∉ (drawnTokens middle).map sha256 :=
    fun member => after (.inl member)
  have replaced : hashedAs sha256 jobToken (hostId', sha256 jobToken') = false := by
    have different : sha256 jobToken' ≠ sha256 jobToken :=
      fun same => after (.inr (.inl same.symm))
    simpa [hashedAs] using different
  have behind : sha256 jobToken ∉ (drawnTokens future).map sha256 :=
    fun member => after (.inr (.inr member))
  refine Nat.le_zero.mp ((countP_accepts_le sha256 jobToken _ future).trans ?_)
  rw [finalState_map (tokenStep_snd sha256) store]
  have none := fresh.countP_takes_rewritten jobId (hostId, sha256 jobToken)
    (unmarked_of_not_drawn before) (unmarked_of_not_drawn between) replaced
    (unmarked_of_not_drawn behind)
  simpa [tokenAccess] using none.le

theorem call_of_accepted (distinct : ((drawnTokens calls).map sha256).Nodup)
    (fresh : jobTokenCells.Clear (hashedAs sha256 jobToken) store) {hostId jobId : String}
    (fetched : .fetchJob hostId jobId jobToken ∈ calls)
    {visit : Visit HostStore TokenCall TokenReply}
    (member : visit ∈ visits (tokenStep sha256) store calls)
    (accepted : accepts jobToken visit = true)
    : visit.call = .submitResult hostId jobId (some jobToken) := by
  obtain ⟨hostId', jobId', call, found⟩ := taken_of_accepts member accepted
  have cells : cellVisit sha256 visit
      ∈ visits jobTokenCells.step store (calls.map (tokenAccess sha256)) := by
    rw [cellVisits]
    exact List.mem_map_of_mem member
  have takes : (cellVisit sha256 visit).call = .take jobId' := by
    simp only [cellVisit, call, tokenAccess]
  rcases SingleUseCells.put_of_taken cells takes found with live | written
  · have stale := fresh jobId' _ live
    simp [hashedAs] at stale
  · obtain ⟨other, called, writes⟩ := List.mem_map.mp written
    cases other with
    | submitResult host job shown => cases writes
    | fetchJob host job drawn =>
        simp only [tokenAccess, CellCall.put.injEq, Prod.mk.injEq] at writes
        obtain ⟨rfl, rfl, hash⟩ := writes
        have one := fetch_unique distinct fetched called hash.symm
        simp only [TokenCall.fetchJob.injEq] at one
        rw [call, one.1, one.2.1]

/-- Job tokens are single-use and latest-only. Fetches are ordered by their writes: one that began
after another returned writes behind it. The drawn tokens have different hashes, and none of them is
in the store at first.
-/
theorem job_tokens_single_use (distinct : ((drawnTokens calls).map sha256).Nodup)
    (fresh : ∀ jobId entry, store.liveJobToken jobId = some entry →
      entry.2 ∉ (drawnTokens calls).map sha256)
    : (∀ jobToken ∈ drawnTokens calls,
        (visits (tokenStep sha256) store calls).countP (accepts jobToken) ≤ 1)
      ∧ (∀ past middle future hostId hostId' jobId jobToken jobToken',
        calls = past ++ .fetchJob hostId jobId jobToken
          :: middle ++ .fetchJob hostId' jobId jobToken' :: future →
        (visits (tokenStep sha256)
          (finalState (tokenStep sha256) store
            (past ++ .fetchJob hostId jobId jobToken
              :: middle ++ [.fetchJob hostId' jobId jobToken']))
          future).countP (accepts jobToken) = 0)
      ∧ ∀ hostId jobId jobToken, .fetchJob hostId jobId jobToken ∈ calls →
        ∀ visit ∈ visits (tokenStep sha256) store calls, accepts jobToken visit = true →
          visit.call = .submitResult hostId jobId (some jobToken) := by
  have clear : ∀ jobToken ∈ drawnTokens calls,
      jobTokenCells.Clear (hashedAs sha256 jobToken) store := by
    intro jobToken drawn jobId entry live
    have different : entry.2 ≠ sha256 jobToken :=
      fun same => fresh jobId entry live (same ▸ List.mem_map_of_mem drawn)
    simpa [hashedAs] using different
  refine ⟨?_, ?_, ?_⟩
  · intro jobToken drawn
    exact countP_accepts_le_one distinct (clear jobToken drawn) drawn
  · intro past middle future hostId hostId' jobId jobToken jobToken' split
    subst split
    exact countP_accepts_refetched distinct (clear jobToken (by simp [drawnTokens_append]))
  · intro hostId jobId jobToken fetched visit member accepted
    have drawn : jobToken ∈ drawnTokens calls := List.mem_filterMap.mpr ⟨_, fetched, rfl⟩
    exact call_of_accepted distinct (clear jobToken drawn) fetched member accepted

def threeHashes (text : String) : String :=
  if text = "jt-1" then "f3c4690a763276dc3fb58c53f581e357e1cc34902f58f547cba0e1f8edaad35c"
  else if text = "jt-2" then "6143b77e1f0a185f23904b6b0c43cf9e9d552af9c7e66186c975137a0319eca6"
  else "38e7e893d868fc604d4e9c973af2a131edd512530bd88f4cd64b56453d81eabc"

def replayedFetches : List TokenCall :=
  [.fetchJob "host-a" "verify_1" "jt-1", .fetchJob "host-b" "verify_1" "jt-2",
    .submitResult "host-a" "verify_1" (some "jt-1"), .submitResult "host-b" "verify_1" (some "jt-2"),
    .fetchJob "host-b" "verify_1" "jt-3", .submitResult "host-b" "verify_1" (some "jt-3")]

/-- The guarantee on both stores. -/
theorem job_tokens_single_use_replayed
    : (∀ jobToken ∈ drawnTokens replayedFetches,
        (visits (tokenStep threeHashes) (.memory .new) replayedFetches).countP
          (accepts jobToken) ≤ 1)
      ∧ ∀ jobToken ∈ drawnTokens replayedFetches,
        (visits (tokenStep threeHashes) (.pg .new) replayedFetches).countP
          (accepts jobToken) ≤ 1 := by
  have distinct : ((drawnTokens replayedFetches).map threeHashes).Nodup := by decide
  refine ⟨(job_tokens_single_use distinct ?_).1, (job_tokens_single_use distinct ?_).1⟩
  · intro jobId entry live
    cases live
  · intro jobId entry live
    cases live

end Runs

/-- A request that reaches `_allow`, with what the clock returns. -/
structure RatedRequest where
  hostId : String
  clock : ℚ
  deriving DecidableEq, Repr

def allowStep (env : ApiEnv) (api : HostApi) (request : RatedRequest) : Bool × HostApi :=
  api.allow { env with clock := request.clock } request.hostId

def withoutHits (api : HostApi) : HostApi := { api with hits := fun _ => [] }

def admissions (hostId : String) (log : List (Visit HostApi RatedRequest Bool)) : List ℚ :=
  log.filterMap (fun visit =>
    if visit.call.hostId = hostId ∧ visit.reply = true then some visit.call.clock else none)

def answersTo (hostId : String) (log : List (Visit HostApi RatedRequest Bool)) : List Bool :=
  (log.filter (fun visit => visit.call.hostId = hostId)).map Visit.reply

/-- Times that are less than a minute apart. -/
def Short (inside : ℚ → Bool) : Prop :=
  ∀ first second, inside first = true → inside second = true → second - first < 60

variable {env : ApiEnv} {hostId : String} {queue times : List ℚ} {limit : ℕ} {now later : ℚ}

-- The queue of one host

theorem evict_eq_filter (sorted : queue.Pairwise (· ≤ ·))
    : queue.dropWhile (fun hit => 60 ≤ now - hit) = queue.filter (fun hit => now - hit < 60) := by
  induction queue with
  | nil => rfl
  | cons first rest ih =>
      rw [List.pairwise_cons] at sorted
      by_cases gone : 60 ≤ now - first
      · rw [List.dropWhile_cons_of_pos (by simpa using gone),
          List.filter_cons_of_neg (by simpa using gone)]
        exact ih sorted.2
      · have inside : ∀ hit ∈ first :: rest, decide (now - hit < 60) = true := by
          intro hit member
          rcases List.mem_cons.mp member with rfl | behind
          · simpa using gone
          · have order := sorted.1 hit behind
            rw [decide_eq_true_eq]
            linarith
        rw [List.dropWhile_cons_of_neg (by simpa using gone), List.filter_eq_self.mpr inside]

/-- What the queue of a host says about its admissions up to a time. -/
structure QueueKept (limit : ℕ) (queue times : List ℚ) (now : ℚ) : Prop where
  sorted : queue.Pairwise (· ≤ ·)
  admitted : queue ⊆ times
  past : ∀ time ∈ times, time ≤ now
  recent : ∀ later, now ≤ later →
    queue.filter (fun hit => later - hit < 60) = times.filter (fun time => later - time < 60)
  bounded : ∀ inside, Short inside → times.countP inside ≤ limit

theorem QueueKept.mono (kept : QueueKept limit queue times now) (order : now ≤ later)
    : QueueKept limit queue times later where
  sorted := kept.sorted
  admitted := kept.admitted
  past := fun time member => (kept.past time member).trans order
  recent := fun last behind => kept.recent last (order.trans behind)
  bounded := kept.bounded

theorem QueueKept.evict (kept : QueueKept limit queue times now)
    : QueueKept limit (queue.filter (fun hit => now - hit < 60)) times now where
  sorted := kept.sorted.filter _
  admitted := fun _ member => kept.admitted (List.mem_of_mem_filter member)
  past := kept.past
  recent := by
    intro later order
    rw [List.filter_filter, ← kept.recent later order]
    apply List.filter_congr
    intro hit _
    -- What leaves the window now is outside of it later.
    by_cases inside : later - hit < 60
    · have before : now - hit < 60 := by linarith
      simp [inside, before]
    · simp [inside]
  bounded := kept.bounded

theorem QueueKept.admit (kept : QueueKept limit queue times now)
    (room : times.countP (fun time => now - time < 60) < limit)
    : QueueKept limit (queue ++ [now]) (times ++ [now]) now where
  sorted := by
    refine List.pairwise_append.mpr ⟨kept.sorted, List.pairwise_singleton _ _, ?_⟩
    intro hit member time last
    rw [List.mem_singleton.mp last]
    exact kept.past hit (kept.admitted member)
  admitted := List.append_subset.mpr ⟨fun _ member => List.mem_append_left _ (kept.admitted member),
    List.subset_append_right _ _⟩
  past := by
    intro time member
    rcases List.mem_append.mp member with earlier | last
    · exact kept.past time earlier
    · exact (List.mem_singleton.mp last).le
  recent := fun later order => by rw [List.filter_append, List.filter_append, kept.recent later order]
  bounded := by
    intro inside short
    rw [List.countP_append, List.countP_singleton]
    split
    · rename_i holds
      have fewer : times.countP inside ≤ times.countP (fun time => now - time < 60) :=
        List.countP_mono_left (fun time _ within => decide_eq_true (short time now within holds))
      omega
    · exact kept.bounded inside short

-- Any sequence of requests

/-- What `_allow` does to the queues: the one of the host is evicted, and the request is put behind
it when there is room.
-/
theorem allowStep_cases (env : ApiEnv) (api : HostApi) (request : RatedRequest)
    : ((allowStep env api request).1 = true
        ↔ ((api.hits request.hostId).dropWhile
            (fun hit => 60 ≤ request.clock - hit)).length < env.rpm)
      ∧ (allowStep env api request).2.hits = Function.update api.hits request.hostId
        ((api.hits request.hostId).dropWhile (fun hit => 60 ≤ request.clock - hit)
          ++ if (allowStep env api request).1 then [request.clock] else []) := by
  unfold allowStep HostApi.allow HostApi.window
  simp only
  split
  · rename_i full
    simp [not_lt.mpr full]
  · rename_i room
    simp [not_le.mp room]

theorem admissions_concat (requests : List RatedRequest) (api : HostApi) (request : RatedRequest)
    : admissions hostId (visits (allowStep env) api (requests ++ [request]))
      = admissions hostId (visits (allowStep env) api requests)
        ++ if request.hostId = hostId
            ∧ (allowStep env (finalState (allowStep env) api requests) request).1 = true
          then [request.clock] else [] := by
  rw [visits_append, admissions, List.filterMap_append]
  simp only [visits, List.filterMap_cons, List.filterMap_nil]
  split <;> simp_all [admissions]

/-- The queue of a host after any requests in the order of the clock. Induction on the requests. -/
theorem queueKept (env : ApiEnv) (api : HostApi) (hostId : String) {requests : List RatedRequest}
    (ordered : requests.Pairwise (fun earlier later => earlier.clock ≤ later.clock))
    (past : ∀ request ∈ requests, request.clock ≤ now)
    : QueueKept env.rpm
      ((finalState (allowStep env) (withoutHits api) requests).hits hostId)
      (admissions hostId (visits (allowStep env) (withoutHits api) requests)) now := by
  induction requests using List.reverseRecOn generalizing now with
  | nil => exact ⟨.nil, fun _ member => member, by simp [visits, admissions], fun _ _ => rfl,
      by simp [visits, admissions]⟩
  | append_singleton requests request ih =>
      rw [List.pairwise_append] at ordered
      have kept := ih ordered.1 (fun earlier member => ordered.2.2 earlier member request (by simp))
      refine QueueKept.mono ?_ (past request (by simp))
      rw [admissions_concat, finalState_append]
      obtain ⟨reply, hits⟩ := allowStep_cases env
        (finalState (allowStep env) (withoutHits api) requests) request
      change QueueKept _ ((allowStep env (finalState (allowStep env) (withoutHits api) requests)
        request).2.hits hostId) _ _
      rw [hits]
      by_cases own : request.hostId = hostId
      · subst own
        rw [Function.update_self, evict_eq_filter kept.sorted]
        rw [evict_eq_filter kept.sorted, kept.recent _ le_rfl, ← List.countP_eq_length_filter]
          at reply
        cases answer : (allowStep env (finalState (allowStep env) (withoutHits api) requests)
            request).1 with
        | true => simpa using kept.evict.admit (reply.mp answer)
        | false => simpa using kept.evict
      · rw [Function.update_of_ne (Ne.symm own)]
        simpa [own] using kept

theorem short_from (start : ℚ) : Short (fun time => start ≤ time ∧ time < start + 60) := by
  intro first second inside inside'
  simp only [decide_eq_true_eq] at inside inside'
  linarith [inside.1, inside'.2]

theorem short_after (start : ℚ) : Short (fun time => start < time ∧ time ≤ start + 60) := by
  intro first second inside inside'
  simp only [decide_eq_true_eq] at inside inside'
  linarith [inside.1, inside'.2]

/-- A host sees the same answers whatever the other hosts ask. Induction on the requests. -/
theorem answersTo_alone (env : ApiEnv) {api alone : HostApi} {requests : List RatedRequest}
    (same : api.hits hostId = alone.hits hostId)
    : answersTo hostId (visits (allowStep env) api requests)
      = (visits (allowStep env) alone
          (requests.filter (fun request => request.hostId = hostId))).map Visit.reply := by
  induction requests generalizing api alone with
  | nil => rfl
  | cons request rest ih =>
      obtain ⟨reply, hits⟩ := allowStep_cases env api request
      by_cases own : request.hostId = hostId
      · obtain ⟨reply', hits'⟩ := allowStep_cases env alone request
        have answers : (allowStep env api request).1 = (allowStep env alone request).1 := by
          rw [Bool.eq_iff_iff, reply, reply', own, same]
        have queues : (allowStep env api request).2.hits hostId
            = (allowStep env alone request).2.hits hostId := by
          rw [hits, hits', own, Function.update_self, Function.update_self, same, answers]
        rw [List.filter_cons_of_pos (by simpa using own)]
        simp only [visits, answersTo, List.map_cons]
        rw [List.filter_cons_of_pos (by simpa using own), List.map_cons, answers]
        exact congrArg _ (ih queues)
      · have queues : (allowStep env api request).2.hits hostId = alone.hits hostId := by
          rw [hits, Function.update_of_ne (Ne.symm own), same]
        rw [List.filter_cons_of_neg (by simpa using own)]
        simp only [visits, answersTo]
        rw [List.filter_cons_of_neg (by simpa using own)]
        exact ih queues

theorem exists_latest {requests : List RatedRequest}
    (ordered : requests.Pairwise (fun earlier later => earlier.clock ≤ later.clock))
    : ∃ now, ∀ request ∈ requests, request.clock ≤ now := by
  rcases requests.eq_nil_or_concat with rfl | ⟨front, last, rfl⟩
  · exact ⟨0, by simp⟩
  · rw [List.concat_eq_append, List.pairwise_append] at ordered
    refine ⟨last.clock, fun request member => ?_⟩
    rcases List.mem_append.mp (List.concat_eq_append ▸ member) with earlier | same
    · exact ordered.2.2 request earlier last (by simp)
    · exact (congrArg RatedRequest.clock (List.mem_singleton.mp same)).le

theorem countP_of_refused (env : ApiEnv) (api : HostApi) (hostId : String)
    {requests : List RatedRequest}
    (ordered : requests.Pairwise (fun earlier later => earlier.clock ≤ later.clock))
    {earlier later : List (Visit HostApi RatedRequest Bool)} {visit : Visit HostApi RatedRequest Bool}
    (split : visits (allowStep env) (withoutHits api) requests = earlier ++ visit :: later)
    (own : visit.call.hostId = hostId) (refused : visit.reply = false)
    : (admissions hostId earlier).countP
        (fun time => visit.call.clock - 60 < time ∧ time ≤ visit.call.clock) = env.rpm := by
  obtain ⟨past, future, rfl, rfl, found⟩ := visits_split split
  rw [List.pairwise_append] at ordered
  have kept := queueKept env api hostId ordered.1
    (fun request member => ordered.2.2 request member visit.call (by simp))
  have bound := kept.bounded _ (short_after (visit.call.clock - 60))
  have step := step_of_mem_visits (split ▸ List.mem_append_right _ List.mem_cons_self)
  have reply := (allowStep_cases env visit.before visit.call).1
  rw [step, found, own, evict_eq_filter kept.sorted, kept.recent _ le_rfl,
    ← List.countP_eq_length_filter, refused] at reply
  have full := not_lt.mp (fun room => Bool.false_ne_true (reply.mpr room))
  have same : (admissions hostId (visits (allowStep env) (withoutHits api) past)).countP
      (fun time => visit.call.clock - 60 < time ∧ time ≤ visit.call.clock)
      = (admissions hostId (visits (allowStep env) (withoutHits api) past)).countP
        (fun time => visit.call.clock - time < 60) := by
    apply List.countP_congr
    intro time member
    have order := kept.past time member
    simp only [decide_eq_true_eq]
    constructor
    · intro inside
      linarith [inside.1]
    · intro inside
      exact ⟨by linarith, order⟩
  rw [sub_add_cancel] at bound
  rw [same] at bound ⊢
  exact le_antisymm bound full

theorem requests_rate_limited (env : ApiEnv) (api : HostApi) (hostId : String)
    {requests : List RatedRequest}
    (ordered : requests.Pairwise (fun earlier later => earlier.clock ≤ later.clock))
    : let log := visits (allowStep env) (withoutHits api) requests
      (∀ start,
        (admissions hostId log).countP (fun time => start ≤ time ∧ time < start + 60) ≤ env.rpm
        ∧ (admissions hostId log).countP (fun time => start < time ∧ time ≤ start + 60) ≤ env.rpm)
      ∧ (∀ earlier visit later, log = earlier ++ visit :: later → visit.call.hostId = hostId →
          visit.reply = false →
          (admissions hostId earlier).countP
            (fun time => visit.call.clock - 60 < time ∧ time ≤ visit.call.clock) = env.rpm)
      ∧ answersTo hostId log
        = (visits (allowStep env) (withoutHits api)
            (requests.filter (fun request => request.hostId = hostId))).map Visit.reply := by
  intro log
  refine ⟨?_, fun _ _ _ split own refused => countP_of_refused env api hostId ordered split own refused,
    answersTo_alone env rfl⟩
  obtain ⟨now, past⟩ := exists_latest ordered
  have kept := queueKept env api hostId ordered past
  exact fun start => ⟨kept.bounded _ (short_from start), kept.bounded _ (short_after start)⟩

def onePerMinute : ApiEnv where
  enabled := true
  str := fun _ => ""
  sha256 := id
  bench := ⟨fun _ _ => "", fun _ _ _ => none⟩
  rpm := 1
  clock := 0
  now := 0
  drawnToken := ""

def minuteRequests : List RatedRequest :=
  [⟨"host-a", 0⟩, ⟨"host-b", 1⟩, ⟨"host-a", 59⟩, ⟨"host-a", 60⟩]

/-- The second request of the host is refused, and the third, a minute after the first, is not. -/
theorem requests_rate_limited_minute
    : answersTo "host-a" (visits (allowStep onePerMinute)
        (withoutHits ⟨Table.empty, .memory .new, fun _ => []⟩) minuteRequests) = [true, false, true]
      ∧ answersTo "host-a" (visits (allowStep onePerMinute)
          (withoutHits ⟨Table.empty, .memory .new, fun _ => []⟩) minuteRequests)
        = (visits (allowStep onePerMinute) (withoutHits ⟨Table.empty, .memory .new, fun _ => []⟩)
            [⟨"host-a", 0⟩, ⟨"host-a", 59⟩, ⟨"host-a", 60⟩]).map Visit.reply :=
  ⟨by decide +kernel, (requests_rate_limited onePerMinute _ "host-a" (by decide)).2.2⟩

end RomaBridge.Properties
