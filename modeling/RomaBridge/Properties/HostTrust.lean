import RomaBridge.Foundation.DatedLog
import RomaBridge.Model.HostRegistry

/-! The trust state machine of external hosts, in one process. A verification spans two sections of
the registry's lock with the reference hash computed between them; whatever happens to the host in
between, trust is only given by a passing submission of its latest specification.
-/

namespace RomaBridge.Properties

open RomaBridge.Foundation RomaBridge.Model.Hosts

variable {token : String} {waiting : Reservation}

/-- The history of a host that ends in a status: whitelisted transitions, and reservations taken
back by the entry that follows them.
-/
inductive Chained : List StatusChange → HostStatus → Prop where
  | new : Chained [] .pending
  | move {history : List StatusChange} {status target : HostStatus} (chain : Chained history status)
      (allowed : target ∈ allowedTransitions status) (reason : String)
      : Chained (history ++ [⟨status, target, reason⟩]) target
  | rolledBack {history : List StatusChange} {status : HostStatus} (chain : Chained history status)
      (allowed : HostStatus.verifying ∈ allowedTransitions status)
      : Chained (history ++ [⟨status, .verifying, "verification reserved"⟩,
          ⟨.verifying, status, "verification reservation released"⟩]) status

def hostLog (hostId : String) (log : List HostEvent) : List HostEvent :=
  log.filter (fun event => event.hostId = hostId)

/-- The last two things that happened to the host are the issue of a specification and a submission
of it with its job identifier, the expected hash and a score inside its bounds.
-/
def LatestPassed (log : List HostEvent) : Prop :=
  ∃ (earlier : List HostEvent) (spec : VerificationJobSpec) (score : ℚ),
    log = earlier ++ [HostEvent.issued spec,
      HostEvent.judged spec spec.jobId spec.expectedSha256 (some score) .passed]
    ∧ spec.minTflops ≤ score ∧ score ≤ spec.maxTflops

/-- What holds of every host, given its events. -/
structure Trustworthy (log : List HostEvent) (h : HostRecord) : Prop where
  /-- Trust is given to active hosts only. -/
  tier : h.trustTier ≠ .none → h.status = .active
  /-- An active host passed its latest verification. -/
  verified : h.status = .active → LatestPassed log
  /-- The history is a chain that ends in the status. -/
  chain : Chained h.history h.status
  /-- A host is not reserved and under verification at once. -/
  exclusive : h.verifyReservation = none ∨ h.pendingVerification = none

def NeverJudgedAgain (log : List HostEvent) : Prop :=
  ∀ (spec : VerificationJobSpec) (before between : List HostEvent) (event : HostEvent)
    (behind : List HostEvent) (jobId output : String) (score : Option ℚ)
    (verdict : HostRecord.Verdict) (after : List HostEvent),
    log = before ++ HostEvent.issued spec :: between ++ event :: behind
        ++ HostEvent.judged spec jobId output score verdict :: after
    → (∀ hostId, event ≠ .suspended hostId) ∧ ∀ hostId, event ≠ .reserved hostId

-- One host

/-- A reservation under way belongs to its host, which it has moved to `verifying`. -/
structure Holds (inflight : List Reservation) (h : HostRecord) (token : String) : Prop where
  verifying : h.status = .verifying
  waiting : ∃ waiting ∈ inflight, waiting.token = token ∧ waiting.hostId = h.hostId
    ∧ HostStatus.verifying ∈ allowedTransitions waiting.prevStatus
    ∧ ∃ earlier, Chained earlier waiting.prevStatus
      ∧ h.history = earlier ++ [⟨waiting.prevStatus, .verifying, "verification reserved"⟩]

/-- The invariant of one host, given its events and the reservations under way. -/
structure HostInv (inflight : List Reservation) (log : List HostEvent) (h : HostRecord) : Prop
    extends Trustworthy log h where
  /-- An outstanding specification is the last thing that happened. -/
  outstanding : ∀ spec, h.pendingVerification = some spec
    → h.status = .verifying ∧ spec.hostId = h.hostId ∧ ∃ earlier, log = earlier ++ [.issued spec]
  reservation : ∀ token, h.verifyReservation = some token → Holds inflight h token

variable {inflight next : List Reservation} {log : List HostEvent} {h h' : HostRecord}

theorem HostInv.weaken (inv : HostInv inflight log h)
    (kept : ∀ token, h.verifyReservation = some token
      → ∀ waiting ∈ inflight, waiting.token = token → waiting ∈ next)
    : HostInv next log h := by
  refine ⟨inv.toTrustworthy, inv.outstanding, fun token held => ?_⟩
  obtain ⟨verifying, waiting, member, same, rest⟩ := inv.reservation token held
  exact ⟨verifying, waiting, kept token held waiting member same, same, rest⟩

theorem HostInv.untrusted (inv : HostInv inflight log h) (inactive : h.status ≠ .active)
    : h.trustTier = .none := by
  by_contra trusted
  exact inactive (inv.tier trusted)

theorem idle_of_allowed {status : HostStatus}
    (allowed : HostStatus.verifying ∈ allowedTransitions status)
    : status ≠ .active ∧ status ≠ .verifying := by
  cases status <;> simp [allowedTransitions] at allowed ⊢

theorem transition_chain {target : HostStatus} {reason : String} (chain : Chained h.history h.status)
    (moved : h.transition target reason = some h')
    : Chained h'.history h'.status ∧ target ∈ allowedTransitions h.status
      ∧ h' = { h with history := h.history ++ [⟨h.status, target, reason⟩], status := target } := by
  unfold HostRecord.transition at moved
  split at moved
  · rename_i allowed
    obtain rfl := Option.some.inj moved
    exact ⟨.move chain allowed reason, allowed, rfl⟩
  · cases moved

theorem reserve_cases {bounds : Option (ℚ × ℚ)} (reserved : h.reserve bounds token = some h')
    : HostStatus.verifying ∈ allowedTransitions h.status
      ∧ h' = { h with
        history := h.history ++ [⟨h.status, .verifying, "verification reserved"⟩]
        status := .verifying
        verifyReservation := some token
        pendingVerification := none } := by
  unfold HostRecord.reserve at reserved
  split at reserved
  · cases reserved
  · split at reserved
    · obtain ⟨moved, step, rfl⟩ := Option.map_eq_some_iff.mp reserved
      unfold HostRecord.transition at step
      split at step
      · rename_i allowed
        obtain rfl := Option.some.inj step
        exact ⟨allowed, rfl⟩
      · cases step
    · cases reserved

theorem HostInv.reserve (inv : HostInv inflight log h) {bounds : Option (ℚ × ℚ)}
    (own : waiting.hostId = h.hostId) (prev : waiting.prevStatus = h.status)
    (reserved : h.reserve bounds waiting.token = some h')
    : h'.hostId = h.hostId ∧ HostInv (inflight ++ [waiting]) (log ++ [.reserved h.hostId]) h' := by
  obtain ⟨allowed, rfl⟩ := reserve_cases reserved
  have idle := idle_of_allowed allowed
  refine ⟨rfl, ⟨?_, ?_, .move inv.chain allowed _, .inr rfl⟩, ?_, ?_⟩
  · intro trusted
    exact absurd (inv.untrusted idle.1) trusted
  · intro active
    cases active
  · intro spec impossible
    cases impossible
  · intro token held
    obtain rfl := Option.some.inj held
    exact ⟨rfl, waiting, by simp, rfl, own, prev ▸ allowed, h.history, prev ▸ inv.chain,
      by simp [prev]⟩

/-- A released host is back where its reservation found it; a host that lost the reservation is
left alone.
-/
theorem HostInv.release (inv : HostInv inflight log h)
    (unique : ∀ other ∈ inflight, other.token = waiting.token → other = waiting)
    : (h.release waiting.token waiting.prevStatus).hostId = h.hostId
      ∧ HostInv (inflight.filter (fun other => other.token ≠ waiting.token)) log
        (h.release waiting.token waiting.prevStatus) := by
  by_cases held : h.verifyReservation = some waiting.token
  · obtain ⟨verifying, other, member, same, _, allowed, earlier, chain, history⟩ :=
      inv.reservation _ held
    obtain rfl := unique other member same
    have idle := idle_of_allowed allowed
    have rolledBack := Chained.rolledBack chain allowed
    have released : h.release other.token other.prevStatus
        = { h with
          history := h.history ++ [⟨.verifying, other.prevStatus, "verification reservation released"⟩]
          status := other.prevStatus
          verifyReservation := none } := by
      simp [HostRecord.release, held, verifying]
    have unspecified : h.pendingVerification = none :=
      inv.exclusive.resolve_left (by simp [held])
    rw [released]
    refine ⟨rfl, ⟨?_, ?_, ?_, .inl rfl⟩, ?_, ?_⟩
    · intro trusted
      exact absurd (inv.untrusted (by simp [verifying])) trusted
    · intro active
      exact absurd active idle.1
    · simpa [history] using rolledBack
    · intro spec pending
      cases unspecified.symm.trans pending
    · intro token impossible
      cases impossible
  · have same : h.release waiting.token waiting.prevStatus = h := by
      simp [HostRecord.release, held]
    rw [same]
    refine ⟨rfl, inv.weaken ?_⟩
    intro token holds other member named
    refine List.mem_filter.mpr ⟨member, ?_⟩
    simp only [ne_eq, decide_not, Bool.not_eq_true', decide_eq_false_iff_not, named]
    intro equal
    exact held (equal ▸ holds)

theorem complete_cases {spec : VerificationJobSpec} (completed : h.complete token spec = some h')
    : h.verifyReservation = some token ∧ h.status = .verifying
      ∧ h' = { h with verifyReservation := none, pendingVerification := some spec } := by
  unfold HostRecord.complete at completed
  split at completed
  · cases completed
  · rename_i kept
    rw [not_or, not_not, not_not] at kept
    exact ⟨kept.1, kept.2, (Option.some.inj completed).symm⟩

theorem HostInv.complete (inv : HostInv inflight log h) {token : String}
    {spec : VerificationJobSpec} (own : spec.hostId = h.hostId)
    (completed : h.complete token spec = some h')
    : h'.hostId = h.hostId ∧ HostInv next (log ++ [.issued spec]) h' := by
  obtain ⟨_, verifying, rfl⟩ := complete_cases completed
  refine ⟨rfl, ⟨?_, ?_, inv.chain, .inl rfl⟩, ?_, ?_⟩
  · intro trusted
    exact absurd (inv.untrusted (by simp [verifying])) trusted
  · intro active
    cases verifying.symm.trans active
  · intro other same
    obtain rfl := Option.some.inj same
    exact ⟨verifying, own, log, rfl⟩
  · intro token impossible
    cases impossible

/-- What a judged submission says: the specification is the outstanding one, and it passes only
with its identifier, the expected hash and a score inside the bounds.
-/
theorem submit_cases {bench : Bench} {jobId output : String} {elapsed : Option ℚ} {now : ℚ}
    {judged : HostRecord.Judged} (submitted : h.submit bench jobId output elapsed now = some judged)
    : h.pendingVerification = some judged.spec ∧ h.status = .verifying ∧ judged.spec.jobId = jobId
      ∧ judged.record.hostId = h.hostId ∧ judged.record.pendingVerification = none
      ∧ judged.record.verifyReservation = h.verifyReservation
      ∧ ((judged.verdict = .passed ∧ output = judged.spec.expectedSha256
          ∧ (∃ score, judged.score = some score
            ∧ judged.spec.minTflops ≤ score ∧ score ≤ judged.spec.maxTflops)
          ∧ judged.record.status = .active
          ∧ judged.record.history
            = h.history ++ [⟨.verifying, .active, "verification passed"⟩])
        ∨ (judged.record.trustTier = .none
          ∧ ∃ reason, judged.record.status = .suspended
            ∧ judged.record.history = h.history ++ [⟨.verifying, .suspended, reason⟩])
        ∨ (judged.verdict = .raised ∧ judged.record.trustTier = h.trustTier
          ∧ judged.record.status = h.status ∧ judged.record.history = h.history)) := by
  unfold HostRecord.submit at submitted
  split at submitted
  · cases submitted
  · rename_i spec pending
    split at submitted
    · cases submitted
    · rename_i matching
      rw [not_or, not_not, not_not] at matching
      obtain ⟨verifying, named⟩ := matching
      simp only at submitted
      split at submitted
      · obtain rfl := Option.some.inj submitted
        exact ⟨pending, verifying, named, rfl, rfl, rfl, .inr (.inr ⟨rfl, rfl, rfl, rfl⟩)⟩
      · split at submitted
        · obtain rfl := Option.some.inj submitted
          exact ⟨pending, verifying, named, rfl, rfl, rfl, .inr (.inr ⟨rfl, rfl, rfl, rfl⟩)⟩
        · rename_i score scored
          split at submitted
          · rename_i exact_
            cases score with
            | none =>
                simp only [Bool.false_eq_true, if_false] at submitted
                obtain rfl := Option.some.inj submitted
                exact ⟨pending, verifying, named, rfl, rfl, rfl, .inr (.inl ⟨rfl, _, rfl, rfl⟩)⟩
            | some value =>
                simp only [Bool.and_eq_true, decide_eq_true_eq] at submitted
                split at submitted
                · rename_i inside
                  obtain rfl := Option.some.inj submitted
                  exact ⟨pending, verifying, named, rfl, rfl, rfl,
                    .inl ⟨rfl, exact_, ⟨value, rfl, inside⟩, rfl, rfl⟩⟩
                · obtain rfl := Option.some.inj submitted
                  exact ⟨pending, verifying, named, rfl, rfl, rfl, .inr (.inl ⟨rfl, _, rfl, rfl⟩)⟩
          · obtain rfl := Option.some.inj submitted
            exact ⟨pending, verifying, named, rfl, rfl, rfl, .inr (.inl ⟨rfl, _, rfl, rfl⟩)⟩

theorem HostInv.idle (inv : HostInv inflight log h) (other : h.status ≠ .verifying)
    : h.verifyReservation = none ∧ h.pendingVerification = none := by
  constructor
  · cases held : h.verifyReservation with
    | none => rfl
    | some token => exact absurd (inv.reservation token held).verifying other
  · cases pending : h.pendingVerification with
    | none => rfl
    | some spec => exact absurd (inv.outstanding spec pending).1 other

theorem HostInv.of_idle (tier : h.trustTier ≠ .none → h.status = .active)
    (verified : h.status = .active → LatestPassed log) (chain : Chained h.history h.status)
    (idle : h.verifyReservation = none ∧ h.pendingVerification = none)
    : HostInv inflight log h := by
  refine ⟨⟨tier, verified, chain, .inl idle.1⟩, ?_, ?_⟩
  · intro spec pending
    cases idle.2.symm.trans pending
  · intro token held
    cases idle.1.symm.trans held

theorem HostInv.submit (inv : HostInv inflight log h) {bench : Bench} {jobId output : String}
    {elapsed : Option ℚ} {now : ℚ} {judged : HostRecord.Judged}
    (submitted : h.submit bench jobId output elapsed now = some judged)
    : judged.record.hostId = h.hostId ∧ judged.spec.hostId = h.hostId
      ∧ (∃ earlier, log = earlier ++ [.issued judged.spec])
      ∧ HostInv inflight (log ++ [.judged judged.spec jobId output judged.score judged.verdict])
        judged.record := by
  obtain ⟨pending, verifying, named, sameHost, taken, sameHold, verdicts⟩ := submit_cases submitted
  obtain ⟨_, own, earlier, issued⟩ := inv.outstanding judged.spec pending
  have unreserved : h.verifyReservation = none := inv.exclusive.resolve_right (by simp [pending])
  have idle : judged.record.verifyReservation = none ∧ judged.record.pendingVerification = none :=
    ⟨sameHold.trans unreserved, taken⟩
  refine ⟨sameHost, own, ⟨earlier, issued⟩, ?_⟩
  rcases verdicts with ⟨passed, exact_, ⟨score, scored, low, high⟩, active, history⟩
    | ⟨untrusted, reason, suspended, history⟩ | ⟨_, sameTier, sameStatus, sameHistory⟩
  · refine HostInv.of_idle (fun _ => active) (fun _ => ?_) ?_ idle
    · refine ⟨earlier, judged.spec, score, ?_, low, high⟩
      rw [issued, passed, scored, ← named, exact_]
      simp
    · rw [history, active]
      exact .move (verifying ▸ inv.chain) (by simp [allowedTransitions]) _
  · refine HostInv.of_idle (fun trusted => absurd untrusted trusted) (fun active => ?_) ?_ idle
    · cases suspended.symm.trans active
    · rw [history, suspended]
      exact .move (verifying ▸ inv.chain) (by simp [allowedTransitions]) _
  · refine HostInv.of_idle (fun trusted => ?_) (fun active => ?_) ?_ idle
    · exact absurd (sameTier.trans (inv.untrusted (by simp [verifying]))) trusted
    · cases (sameStatus.trans verifying).symm.trans active
    · rw [sameHistory, sameStatus]
      exact inv.chain

theorem HostInv.promote (inv : HostInv inflight log h) (promoted : h.promote = some h')
    : h'.hostId = h.hostId ∧ HostInv inflight log h' := by
  unfold HostRecord.promote at promoted
  split at promoted
  · rename_i active
    obtain rfl := Option.some.inj promoted
    exact ⟨rfl, HostInv.of_idle (fun _ => active) inv.verified inv.chain
      (inv.idle (by simp [active]))⟩
  · cases promoted

theorem HostInv.heartbeat (inv : HostInv inflight log h) {now : ℚ}
    (beaten : h.heartbeat now = some h')
    : h'.hostId = h.hostId ∧ HostInv inflight log h' := by
  unfold HostRecord.heartbeat at beaten
  split at beaten
  · rename_i active
    obtain rfl := Option.some.inj beaten
    exact ⟨rfl, HostInv.of_idle inv.tier inv.verified inv.chain (inv.idle (by simp [active]))⟩
  · cases beaten

theorem HostInv.suspend (inv : HostInv inflight log h) {reason : String}
    (suspended : h.suspend reason = some h') (events : List HostEvent)
    : h'.hostId = h.hostId ∧ HostInv inflight (log ++ events) h' := by
  unfold HostRecord.suspend at suspended
  obtain ⟨moved, step, rfl⟩ := Option.map_eq_some_iff.mp suspended
  obtain ⟨chain, _, rfl⟩ := transition_chain inv.chain step
  refine ⟨rfl, HostInv.of_idle (fun trusted => absurd rfl trusted) (fun active => ?_) chain
    ⟨rfl, rfl⟩⟩
  cases active

theorem HostInv.swept (inv : HostInv inflight log h) (active : h.status = .active)
    (events : List HostEvent)
    : HostInv inflight (log ++ events) h.swept := by
  refine HostInv.of_idle (fun trusted => absurd rfl trusted) (fun active => ?_) ?_
    (inv.idle (by simp [active]))
  · cases active
  · exact .move inv.chain (by simp [active, allowedTransitions]) _

-- The registry

def issuedSeeds (log : List HostEvent) : List String :=
  log.filterMap (fun event => match event with
    | .issued spec => some spec.seed
    | _ => none)

theorem issuedSeeds_append (log events : List HostEvent)
    : issuedSeeds (log ++ events) = issuedSeeds log ++ issuedSeeds events :=
  List.filterMap_append

def JudgedAtOnce (log : List HostEvent) : Prop :=
  Throughout (fun before event => ∀ spec jobId output score verdict,
    event = .judged spec jobId output score verdict → ∃ earlier, before = earlier ++ [.issued spec])
    log

/-- The invariant of the registry, given all events so far. -/
structure RegistryInv (names : Names) (registry : Registry) (log : List HostEvent) : Prop where
  hosts : ∀ h ∈ registry.hosts.rows, HostInv registry.inflight (hostLog h.hostId log) h
  known : ∀ event ∈ log, (registry.hosts.find? event.hostId).isSome = true
  tokens : (registry.inflight.map Reservation.token).Nodup
  seeds : (issuedSeeds log ++ registry.inflight.map Reservation.seed).Nodup
  drawn : ∀ text ∈ registry.inflight.map Reservation.token
      ++ (issuedSeeds log ++ registry.inflight.map Reservation.seed),
    ∃ index < registry.drawn, text = names.hex index
  judged : ∀ hostId, JudgedAtOnce (hostLog hostId log)

variable {names : Names} {registry : Registry} {events : List HostEvent}

theorem hostLog_append (hostId : String) (log events : List HostEvent)
    : hostLog hostId (log ++ events) = hostLog hostId log ++ hostLog hostId events :=
  List.filter_append _ _

theorem hostLog_own {hostId : String} (own : ∀ event ∈ events, event.hostId = hostId)
    : hostLog hostId events = events := by
  rw [hostLog, List.filter_eq_self]
  intro event member
  simpa using own event member

theorem hostLog_other {hostId other : String} (own : ∀ event ∈ events, event.hostId = other)
    (differs : hostId ≠ other)
    : hostLog hostId events = [] := by
  rw [hostLog, List.filter_eq_nil_iff]
  intro event member
  simpa [own event member] using differs.symm

/-- Suspensions keep judgements next to their issue, by induction on them. -/
theorem JudgedAtOnce.suspensions (atOnce : JudgedAtOnce log)
    (only : ∀ event ∈ events, ∃ hostId, event = .suspended hostId)
    : JudgedAtOnce (log ++ events) := by
  induction events generalizing log with
  | nil => simpa using atOnce
  | cons event rest ih =>
      obtain ⟨hostId, rfl⟩ := only event (by simp)
      have first : JudgedAtOnce (log ++ [.suspended hostId]) := by
        refine Throughout.snoc atOnce ?_
        intro spec jobId output score verdict impossible
        cases impossible
      have later := ih first (fun event member => only event (by simp [member]))
      simpa using later

theorem RegistryInv.write (inv : RegistryInv names registry log) {drawn : ℕ}
    (own : ∀ event ∈ events, event.hostId = h'.hostId)
    (mine : HostInv next (hostLog h'.hostId log ++ events) h')
    (others : ∀ h ∈ registry.hosts.rows, h.hostId ≠ h'.hostId → ∀ token,
      h.verifyReservation = some token
      → ∀ waiting ∈ registry.inflight, waiting.token = token → waiting ∈ next)
    (tokens : (next.map Reservation.token).Nodup)
    (seeds : (issuedSeeds (log ++ events) ++ next.map Reservation.seed).Nodup)
    (fresh : ∀ text ∈ next.map Reservation.token
        ++ (issuedSeeds (log ++ events) ++ next.map Reservation.seed),
      ∃ index < drawn, text = names.hex index)
    (judged : JudgedAtOnce (hostLog h'.hostId log ++ events))
    : RegistryInv names ⟨registry.hosts.put h', next, drawn⟩ (log ++ events) := by
  refine ⟨?_, ?_, tokens, seeds, fresh, ?_⟩
  · intro h member
    rw [hostLog_append]
    rcases Table.mem_put.mp member with rfl | ⟨old, differs⟩
    · rw [hostLog_own own]
      exact mine
    · rw [hostLog_other own differs, List.append_nil]
      exact (inv.hosts h old).weaken (others h old differs)
  · intro event member
    rw [Table.find?_put]
    split
    · rfl
    · rename_i differs
      rcases List.mem_append.mp member with old | new
      · exact inv.known event old
      · exact absurd (own event new).symm differs
  · intro hostId
    rw [hostLog_append]
    by_cases same : hostId = h'.hostId
    · subst same
      rw [hostLog_own own]
      exact judged
    · rw [hostLog_other own same, List.append_nil]
      exact inv.judged hostId

theorem RegistryInv.save (inv : RegistryInv names registry log)
    (own : ∀ event ∈ events, event.hostId = h'.hostId)
    (mine : HostInv registry.inflight (hostLog h'.hostId log ++ events) h')
    (unissued : issuedSeeds events = []) (judged : JudgedAtOnce (hostLog h'.hostId log ++ events))
    : RegistryInv names (registry.save h') (log ++ events) := by
  have seeds : issuedSeeds (log ++ events) = issuedSeeds log := by
    rw [issuedSeeds_append, unissued, List.append_nil]
  refine inv.write own mine (fun _ _ _ _ _ waiting member _ => member) inv.tokens ?_ ?_ judged
  · rw [seeds]
    exact inv.seeds
  · rw [seeds]
    exact inv.drawn

theorem RegistryInv.fresh (inv : RegistryInv names registry log)
    (distinct : Function.Injective names.hex) {index : ℕ} (later : registry.drawn ≤ index)
    : names.hex index ∉ registry.inflight.map Reservation.token
      ++ (issuedSeeds log ++ registry.inflight.map Reservation.seed) := by
  intro used
  obtain ⟨earlier, before, same⟩ := inv.drawn _ used
  have equal := distinct same
  omega

theorem RegistryInv.draw (inv : RegistryInv names registry log) {drawn : ℕ}
    (more : registry.drawn ≤ drawn)
    : RegistryInv names { registry with drawn := drawn } log := by
  refine ⟨inv.hosts, inv.known, inv.tokens, inv.seeds, fun text used => ?_, inv.judged⟩
  obtain ⟨index, before, named⟩ := inv.drawn text used
  exact ⟨index, Nat.lt_of_lt_of_le before more, named⟩

theorem RegistryInv.holder (inv : RegistryInv names registry log)
    (member : waiting ∈ registry.inflight) (stored : h ∈ registry.hosts.rows)
    (held : h.verifyReservation = some waiting.token)
    : waiting.hostId = h.hostId ∧ h.status = .verifying := by
  obtain ⟨verifying, other, present, same, own, _⟩ := (inv.hosts h stored).reservation _ held
  have equal : other = waiting := List.inj_on_of_nodup_map inv.tokens present member same
  exact ⟨equal ▸ own, verifying⟩

theorem forget_sublist (registry : Registry) (token : String)
    : (registry.forget token).inflight.Sublist registry.inflight :=
  List.filter_sublist

theorem mem_forget {registry : Registry} (member : waiting ∈ registry.inflight)
    (differs : waiting.token ≠ token)
    : waiting ∈ (registry.forget token).inflight :=
  List.mem_filter.mpr ⟨member, by simpa using differs⟩

theorem RegistryInv.drawn_of_sublist (inv : RegistryInv names registry log)
    (part : next.Sublist registry.inflight) {text : String}
    (used : text ∈ next.map Reservation.token
      ++ (issuedSeeds log ++ next.map Reservation.seed))
    : ∃ index < registry.drawn, text = names.hex index := by
  refine inv.drawn text ?_
  have tokens := (part.map Reservation.token).subset
  have seeds := (part.map Reservation.seed).subset
  simp only [List.mem_append] at used ⊢
  rcases used with token | issued | seed
  · exact .inl (tokens token)
  · exact .inr (.inl issued)
  · exact .inr (.inr (seeds seed))

theorem RegistryInv.forget (inv : RegistryInv names registry log)
    (unheld : ∀ h ∈ registry.hosts.rows, h.verifyReservation ≠ some token)
    : RegistryInv names (registry.forget token) log := by
  have part := forget_sublist registry token
  refine ⟨?_, inv.known, inv.tokens.sublist (part.map _), ?_, ?_, inv.judged⟩
  · intro h stored
    refine (inv.hosts h stored).weaken ?_
    intro other held waiting member same
    refine mem_forget member ?_
    intro equal
    exact unheld h stored (by rw [held, ← same, equal])
  · exact inv.seeds.sublist (List.Sublist.append_left (part.map _) _)
  · intro text used
    exact inv.drawn_of_sublist part used

-- The calls

theorem RegistryInv.hostLog_of_absent (inv : RegistryInv names registry log) {hostId : String}
    (absent : registry.hosts.find? hostId = none)
    : hostLog hostId log = [] := by
  rw [hostLog, List.filter_eq_nil_iff]
  intro event member same
  have known := inv.known event member
  rw [of_decide_eq_true same, absent] at known
  cases known

/-- A new host starts at the beginning of its history. -/
theorem RegistryInv.apply (inv : RegistryInv names registry log) (ownerContactRef gpuModel : String)
    (gpuCount : ℤ) (vramGb : ℚ) (region : String) (ownHost : Bool) (hostId : Option String) (now : ℚ)
    : RegistryInv names
        (registry.apply names ownerContactRef gpuModel gpuCount vramGb region ownHost hostId now)
        log := by
  have drawn := inv.draw (Nat.le_add_right registry.drawn 1)
  unfold Registry.apply
  simp only
  split
  · exact inv
  · split
    · exact inv
    · split
      · exact drawn
      · rename_i absent
        rw [Option.not_isSome_iff_eq_none] at absent
        have untouched := inv.hostLog_of_absent absent
        rw [← List.append_nil log]
        refine drawn.save (by simp) (HostInv.of_idle ?_ ?_ .new ⟨rfl, rfl⟩) rfl ?_
        · exact fun trusted => absurd rfl trusted
        · intro active
          cases active
        · rw [untouched]
          simpa [untouched] using inv.judged (hostId.getD (names.hostId registry.drawn))

/-- A reservation draws a fresh token and a fresh seed. -/
theorem RegistryInv.startVerification (inv : RegistryInv names registry log)
    (distinct : Function.Injective names.hex) (hostId : String)
    (thresholds : String → Option (ℚ × ℚ)) (image : String) (n reps : ℤ)
    : RegistryInv names (registry.startVerification names hostId thresholds image n reps).2
        (log ++ (registry.startVerification names hostId thresholds image n reps).1) := by
  have drawn := inv.draw (Nat.le_add_right registry.drawn 2)
  unfold Registry.startVerification
  split
  · simpa using inv
  · simp only
    split
    · simpa using drawn
    · rename_i h found
      split
      · simpa using drawn
      · rename_i reserved step
        obtain ⟨stored, rfl⟩ := Table.find?_some found
        have fresh := inv.fresh distinct (Nat.le_refl registry.drawn)
        have freshSeed := inv.fresh distinct (Nat.le_add_right registry.drawn 1)
        simp only [List.mem_append, not_or] at fresh freshSeed
        obtain ⟨waiting, made⟩ : ∃ waiting : Reservation, waiting = ⟨names.hex registry.drawn,
            h.hostId, h.status, ((thresholds h.gpuModel).getD (0, 0)).1,
            ((thresholds h.gpuModel).getD (0, 0)).2, image, n, reps,
            names.hex (registry.drawn + 1)⟩ := ⟨_, rfl⟩
        have token : waiting.token = names.hex registry.drawn := by rw [made]
        have seed : waiting.seed = names.hex (registry.drawn + 1) := by rw [made]
        rw [← made]
        rw [← token] at step fresh
        rw [← seed] at freshSeed
        obtain ⟨sameHost, mine⟩ := (inv.hosts h stored).reserve (by rw [made]) (by rw [made]) step
        have unissued : issuedSeeds (log ++ [.reserved h.hostId]) = issuedSeeds log := by
          simp [issuedSeeds]
        refine inv.write (by simp [HostEvent.hostId, sameHost]) (sameHost ▸ mine) ?_ ?_ ?_ ?_ ?_
        · intro _ _ _ _ _ other member _
          exact List.mem_append_left _ member
        · rw [List.map_append, List.nodup_append]
          refine ⟨inv.tokens, by simp, ?_⟩
          intro text used other new
          rw [List.mem_singleton.mp new]
          exact fun same => fresh.1 (same ▸ used)
        · rw [unissued, List.map_append, ← List.append_assoc, List.nodup_append]
          refine ⟨inv.seeds, by simp, ?_⟩
          intro text used other new
          rw [List.mem_singleton.mp new]
          intro same
          rw [same] at used
          exact (List.mem_append.mp used).elim freshSeed.2.1 freshSeed.2.2
        · intro text used
          rw [unissued] at used
          have older : text ∈ registry.inflight.map Reservation.token
              ++ (issuedSeeds log ++ registry.inflight.map Reservation.seed)
              → ∃ index < registry.drawn + 2, text = names.hex index := by
            intro used
            obtain ⟨index, before, named⟩ := inv.drawn text used
            exact ⟨index, by omega, named⟩
          simp only [List.map_append, List.map_cons, List.map_nil, List.mem_append,
            List.mem_singleton] at used older
          rcases used with (used | rfl) | used | used | rfl
          · exact older (.inl used)
          · exact ⟨registry.drawn, Nat.lt_add_of_pos_right (by decide), token⟩
          · exact older (.inr (.inl used))
          · exact older (.inr (.inr used))
          · exact ⟨registry.drawn + 1, Nat.lt_succ_self _, seed⟩
        · refine Throughout.snoc (inv.judged reserved.hostId) ?_
          intro spec jobId output score verdict impossible
          cases impossible

theorem RegistryInv.kept (inv : RegistryInv names registry log)
    (member : waiting ∈ registry.inflight) (stored : h ∈ registry.hosts.rows)
    (differs : h.hostId ≠ waiting.hostId) (held : h.verifyReservation = some token)
    {other : Reservation} (present : other ∈ registry.inflight) (same : other.token = token)
    : other ∈ (registry.forget waiting.token).inflight := by
  refine mem_forget present ?_
  intro equal
  have held : h.verifyReservation = some waiting.token := by rw [held, ← same, equal]
  exact differs (inv.holder member stored held).1.symm

theorem RegistryInv.hashFailed (inv : RegistryInv names registry log) (token : String)
    : RegistryInv names (registry.hashFailed token) log := by
  unfold Registry.hashFailed
  split
  · exact inv
  · rename_i waiting found
    have member := List.mem_of_find?_eq_some found
    obtain rfl : waiting.token = token := by simpa using List.find?_some found
    split
    · rename_i absent
      refine inv.forget ?_
      intro h stored held
      exact Table.find?_none.mp absent h stored (inv.holder member stored held).1.symm
    · rename_i h found
      obtain ⟨stored, own⟩ := Table.find?_some found
      have part := forget_sublist registry waiting.token
      obtain ⟨sameHost, mine⟩ := (inv.hosts h stored).release
        (fun other present same => List.inj_on_of_nodup_map inv.tokens present member same)
      rw [← List.append_nil log]
      refine inv.write (by simp) (by simpa [sameHost, Registry.forget] using mine) ?_
        (inv.tokens.sublist (part.map _)) ?_ ?_ ?_
      · intro other elsewhere differs text held kept present same
        rw [sameHost, own] at differs
        exact inv.kept member elsewhere differs held present same
      · rw [List.append_nil]
        exact inv.seeds.sublist (List.Sublist.append_left (part.map _) _)
      · rw [List.append_nil]
        intro text used
        exact inv.drawn_of_sublist part used
      · rw [List.append_nil]
        exact inv.judged _

/-- A computed reference hash turns the reservation into a specification with its own seed, or the
reservation was lost.
-/
theorem RegistryInv.hashComputed (inv : RegistryInv names registry log) (bench : Bench)
    (token : String)
    : RegistryInv names (registry.hashComputed names bench token).2
        (log ++ (registry.hashComputed names bench token).1) := by
  unfold Registry.hashComputed
  split
  · simpa using inv
  · rename_i waiting found
    have member := List.mem_of_find?_eq_some found
    obtain rfl : waiting.token = token := by simpa using List.find?_some found
    have part := forget_sublist registry waiting.token
    simp only
    split
    · rename_i lost
      rw [List.append_nil]
      have forgotten : RegistryInv names (registry.forget waiting.token) log := by
        refine inv.forget ?_
        intro h stored held
        obtain ⟨own, verifying⟩ := inv.holder member stored held
        rw [own, Table.find?_of_mem stored] at lost
        simp [HostRecord.complete, held, verifying] at lost
      exact forgotten.draw (Nat.le_add_right _ 1)
    · rename_i completed step
      obtain ⟨h, found, step⟩ := Option.bind_eq_some_iff.mp step
      obtain ⟨stored, own⟩ := Table.find?_some found
      obtain ⟨sameHost, mine⟩ := (inv.hosts h stored).complete own.symm step
      have issued : issuedSeeds (log
          ++ [.issued (Registry.newSpec bench waiting (names.jobId registry.drawn))])
          = issuedSeeds log ++ [waiting.seed] := by
        simp [issuedSeeds, Registry.newSpec]
      have seeds := List.nodup_append.mp inv.seeds
      have seedMember : waiting.seed ∈ registry.inflight.map Reservation.seed :=
        List.mem_map_of_mem member
      refine inv.write (by simp [HostEvent.hostId, Registry.newSpec, sameHost, own])
        (sameHost ▸ mine) ?_ (inv.tokens.sublist (part.map _)) ?_ ?_ ?_
      · intro other elsewhere differs text held kept present same
        rw [sameHost, own] at differs
        exact inv.kept member elsewhere differs held present same
      · rw [issued, List.append_assoc, List.nodup_append]
        refine ⟨seeds.1, ?_, ?_⟩
        · rw [List.singleton_append, List.nodup_cons]
          refine ⟨?_, seeds.2.1.sublist (part.map _)⟩
          intro again
          obtain ⟨other, kept, same⟩ := List.mem_map.mp again
          obtain ⟨present, differs⟩ := List.mem_filter.mp kept
          obtain rfl : other = waiting :=
            List.inj_on_of_nodup_map seeds.2.1 present member same
          simp at differs
        · intro seed old other new
          refine seeds.2.2 seed old other ?_
          rcases List.mem_append.mp new with same | kept
          · exact List.mem_singleton.mp same ▸ seedMember
          · exact (part.map _).subset kept
      · intro text used
        rw [issued] at used
        have older : text ∈ registry.inflight.map Reservation.token
            ++ (issuedSeeds log ++ registry.inflight.map Reservation.seed) := by
          simp only [List.mem_append, List.mem_singleton] at used ⊢
          rcases used with used | (used | rfl) | used
          · exact .inl ((part.map _).subset used)
          · exact .inr (.inl used)
          · exact .inr (.inr seedMember)
          · exact .inr (.inr ((part.map _).subset used))
        obtain ⟨index, before, named⟩ := inv.drawn text older
        exact ⟨index, Nat.lt_succ_of_lt before, named⟩
      · refine Throughout.snoc (inv.judged completed.hostId) ?_
        intro spec jobId output score verdict impossible
        cases impossible

theorem RegistryInv.submitVerification (inv : RegistryInv names registry log) (bench : Bench)
    (hostId jobId output : String) (elapsed : Option ℚ) (now : ℚ)
    : RegistryInv names (registry.submitVerification bench hostId jobId output elapsed now).2
        (log ++ (registry.submitVerification bench hostId jobId output elapsed now).1) := by
  unfold Registry.submitVerification
  split
  · simpa using inv
  · rename_i judged accepted
    obtain ⟨h, found, step⟩ := Option.bind_eq_some_iff.mp accepted
    obtain ⟨stored, rfl⟩ := Table.find?_some found
    obtain ⟨sameHost, own, ⟨earlier, issued⟩, mine⟩ := (inv.hosts h stored).submit step
    refine inv.save (by simp [HostEvent.hostId, own, sameHost]) (sameHost ▸ mine) rfl ?_
    refine Throughout.snoc (inv.judged judged.record.hostId) ?_
    intro spec given text score verdict same
    obtain ⟨rfl, _⟩ := HostEvent.judged.inj same
    exact ⟨earlier, by rw [sameHost, issued]⟩

theorem RegistryInv.suspend (inv : RegistryInv names registry log) (hostId reason : String)
    : RegistryInv names (registry.suspend hostId reason).2
        (log ++ (registry.suspend hostId reason).1) := by
  unfold Registry.suspend
  split
  · simpa using inv
  · rename_i suspended accepted
    obtain ⟨h, found, step⟩ := Option.bind_eq_some_iff.mp accepted
    obtain ⟨stored, rfl⟩ := Table.find?_some found
    obtain ⟨sameHost, mine⟩ := (inv.hosts h stored).suspend step [.suspended h.hostId]
    refine inv.save (by simp [HostEvent.hostId, sameHost]) (sameHost ▸ mine) rfl ?_
    exact (inv.judged suspended.hostId).suspensions (by simp)

theorem RegistryInv.rewrite (inv : RegistryInv names registry log) (hostId : String)
    (write : HostRecord → Option HostRecord)
    (keeps : ∀ h h' own, HostInv registry.inflight own h → write h = some h'
      → h'.hostId = h.hostId ∧ HostInv registry.inflight own h')
    : RegistryInv names (registry.rewrite hostId write) log := by
  unfold Registry.rewrite
  split
  · exact inv
  · rename_i written accepted
    obtain ⟨h, found, step⟩ := Option.bind_eq_some_iff.mp accepted
    obtain ⟨stored, rfl⟩ := Table.find?_some found
    obtain ⟨sameHost, mine⟩ := keeps h written _ (inv.hosts h stored) step
    rw [← List.append_nil log]
    refine inv.save (by simp) ?_ rfl ?_
    · rw [List.append_nil, sameHost]
      exact mine
    · rw [List.append_nil]
      exact inv.judged written.hostId

theorem sweepSla_hostLog (registry : Registry) (now sla : ℚ) (stored : h ∈ registry.hosts.rows)
    (kept : h.misses now sla = false)
    : hostLog h.hostId (registry.sweepSla now sla).1 = [] := by
  rw [hostLog, List.filter_eq_nil_iff]
  intro event member same
  obtain ⟨other, missing, rfl⟩ := List.mem_map.mp member
  obtain ⟨present, missed⟩ := List.mem_filter.mp missing
  have equal : other = h := Table.eq_of_key present stored (of_decide_eq_true same)
  rw [equal, kept] at missed
  cases missed

/-- A sweep suspends the active hosts that missed their heartbeat and leaves the others alone. -/
theorem RegistryInv.sweepSla (inv : RegistryInv names registry log) (now sla : ℚ)
    : RegistryInv names (registry.sweepSla now sla).2 (log ++ (registry.sweepSla now sla).1) := by
  have only : ∀ event ∈ (registry.sweepSla now sla).1, ∃ hostId, event = .suspended hostId := by
    intro event member
    obtain ⟨h, _, rfl⟩ := List.mem_map.mp member
    exact ⟨h.hostId, rfl⟩
  have seeds : issuedSeeds (log ++ (registry.sweepSla now sla).1) = issuedSeeds log := by
    rw [issuedSeeds_append, List.append_right_eq_self, issuedSeeds, List.filterMap_eq_nil_iff]
    intro event member
    obtain ⟨hostId, rfl⟩ := only event member
    rfl
  refine ⟨?_, ?_, inv.tokens, seeds ▸ inv.seeds, seeds ▸ inv.drawn, ?_⟩
  · intro h member
    obtain ⟨old, stored, rfl⟩ := List.mem_map.mp member
    rw [hostLog_append]
    split
    · rename_i missed
      have active : old.status = .active := by
        simp only [HostRecord.misses, Bool.and_eq_true, decide_eq_true_eq] at missed
        exact missed.1
      exact (inv.hosts old stored).swept active _
    · rename_i kept
      rw [sweepSla_hostLog registry now sla stored (by simpa using kept), List.append_nil]
      exact inv.hosts old stored
  · intro event member
    have updated : (registry.sweepSla now sla).2.hosts.find? event.hostId
        = (registry.hosts.find? event.hostId).map
          (fun h => if h.misses now sla then h.swept else h) :=
      Table.find?_update registry.hosts _ HostRecord.swept (fun _ => rfl) event.hostId
    rw [updated, Option.isSome_map]
    rcases List.mem_append.mp member with old | new
    · exact inv.known event old
    · obtain ⟨h, missing, rfl⟩ := List.mem_map.mp new
      change (registry.hosts.find? h.hostId).isSome = true
      rw [Table.find?_of_mem (List.mem_filter.mp missing).1]
      rfl
  · intro hostId
    rw [hostLog_append]
    refine (inv.judged hostId).suspensions ?_
    intro event member
    exact only event (List.mem_filter.mp member).1

theorem RegistryInv.step (inv : RegistryInv names registry log)
    (distinct : Function.Injective names.hex) (bench : Bench) (call : RegistryCall)
    : RegistryInv names (registryStep names bench registry call).2
        (log ++ (registryStep names bench registry call).1) := by
  cases call with
  | apply ownerContactRef gpuModel gpuCount vramGb region ownHost hostId now =>
      simpa [registryStep] using inv.apply ownerContactRef gpuModel gpuCount vramGb region ownHost
        hostId now
  | startVerification hostId thresholds image n reps =>
      exact inv.startVerification distinct hostId thresholds image n reps
  | hashFailed token => simpa [registryStep] using inv.hashFailed token
  | hashComputed token => exact inv.hashComputed bench token
  | submitVerification hostId jobId output elapsed now =>
      exact inv.submitVerification bench hostId jobId output elapsed now
  | promote hostId =>
      have kept := inv.rewrite hostId HostRecord.promote (fun _ _ _ inv step => inv.promote step)
      simpa [registryStep] using kept
  | suspend hostId reason => exact inv.suspend hostId reason
  | heartbeat hostId now =>
      have kept := inv.rewrite hostId (fun h => h.heartbeat now)
        (fun _ _ _ inv step => inv.heartbeat step)
      simpa [registryStep] using kept
  | sweepSla now sla => exact inv.sweepSla now sla

def registryLog (names : Names) (bench : Bench) (registry : Registry) (calls : List RegistryCall)
    : List HostEvent :=
  (visits (registryStep names bench) registry calls).flatMap Visit.reply

/-- The invariant holds after every sequence of calls, by induction on them. -/
theorem RegistryInv.run (inv : RegistryInv names registry log)
    (distinct : Function.Injective names.hex) (bench : Bench) (calls : List RegistryCall)
    : RegistryInv names (finalState (registryStep names bench) registry calls)
        (log ++ registryLog names bench registry calls) := by
  induction calls generalizing registry log with
  | nil => simpa [finalState, registryLog, visits] using inv
  | cons call rest ih =>
      have later := ih (inv.step distinct bench call)
      simpa [finalState, registryLog, visits] using later

theorem RegistryInv.start (names : Names) : RegistryInv names newRegistry [] := by
  refine ⟨by simp [newRegistry, Table.empty], by simp, by simp [newRegistry], ?_, ?_, ?_⟩
  · simp [newRegistry, issuedSeeds]
  · simp [newRegistry, issuedSeeds]
  · intro hostId
    exact throughout_nil _

/-- A specification judged right behind its only issue is not judged behind anything else. -/
theorem NeverJudgedAgain.of_atOnce (atOnce : JudgedAtOnce log) (seeds : (issuedSeeds log).Nodup)
    : NeverJudgedAgain log := by
  intro spec before between event behind jobId output score verdict after split
  obtain ⟨earlier, last⟩ := atOnce _ _ after split spec jobId output score verdict rfl
  rcases behind.eq_nil_or_concat with rfl | ⟨front, end_, rfl⟩
  · obtain ⟨_, same⟩ := List.append_inj' last rfl
    obtain rfl : event = .issued spec := (List.cons.inj same).1
    constructor
    · intro hostId impossible
      cases impossible
    · intro hostId impossible
      cases impossible
  · -- The specification would be issued twice.
    exfalso
    rw [List.concat_eq_append, ← List.cons_append, ← List.append_assoc] at last
    obtain ⟨_, same⟩ := List.append_inj' last rfl
    obtain rfl : end_ = .issued spec := (List.cons.inj same).1
    have twice : log = before ++ [HostEvent.issued spec] ++ (between ++ event :: front)
        ++ [HostEvent.issued spec] ++ HostEvent.judged spec jobId output score verdict :: after := by
      simp [split]
    have seed : issuedSeeds [.issued spec] = [spec.seed] := rfl
    rw [twice, issuedSeeds_append, issuedSeeds_append, issuedSeeds_append, issuedSeeds_append,
      seed] at seeds
    simp [List.nodup_append] at seeds

/-- The trust state machine: after every sequence of calls, with the sections of a verification
anywhere in it, every host is as its history and its latest verification say, and no specification
is judged behind a suspension or a later reservation.
-/
theorem host_trust_state_machine (names : Names) (distinct : Function.Injective names.hex)
    (bench : Bench) (calls : List RegistryCall)
    : (∀ h ∈ (finalState (registryStep names bench) newRegistry calls).hosts.rows,
        Trustworthy (hostLog h.hostId (registryLog names bench newRegistry calls)) h)
      ∧ ∀ hostId, NeverJudgedAgain (hostLog hostId (registryLog names bench newRegistry calls)) := by
  have inv := (RegistryInv.start names).run distinct bench calls
  rw [List.nil_append] at inv
  constructor
  · intro h stored
    exact (inv.hosts h stored).toTrustworthy
  · intro hostId
    refine .of_atOnce (inv.judged hostId) ?_
    refine (List.nodup_append.mp inv.seeds).1.sublist ?_
    exact List.Sublist.filterMap _ List.filter_sublist

def lengthNames : Names where
  hex := lengthUuid
  jobId := lengthUuid
  hostId := lengthUuid

/-- A benchmark with one hash for all seeds, and the score of `host_bench.tflops`. -/
def flatBench : Bench :=
  ⟨fun _ _ => "hash", fun n reps seconds => some (2 * n ^ 3 * reps / seconds / 10 ^ 12)⟩

/-- A host that applied, was verified and beat once. -/
def verifiedHost : List RegistryCall :=
  [.apply "ref" "rtx" 1 24 "eu" false (some "host-1") 0,
    .startVerification "host-1" (fun _ => some (1, 10)) "roma/host-bench:pinned" 4096 20,
    .hashComputed (lengthUuid 1), .submitVerification "host-1" (lengthUuid 3) "hash" (some 1) 1,
    .heartbeat "host-1" 2]

/-- The host is active on probation, as its one verification says. -/
theorem verified_host_trusted
    : Function.Injective lengthNames.hex
      ∧ (finalState (registryStep lengthNames flatBench) newRegistry verifiedHost).hosts.rows.map
          (fun h => (h.status, h.trustTier)) = [(.active, .probation)]
      ∧ (∀ h ∈ (finalState (registryStep lengthNames flatBench) newRegistry verifiedHost).hosts.rows,
        Trustworthy (hostLog h.hostId (registryLog lengthNames flatBench newRegistry verifiedHost)) h)
      ∧ ∀ hostId,
        NeverJudgedAgain (hostLog hostId (registryLog lengthNames flatBench newRegistry verifiedHost)) :=
  ⟨lengthUuid_injective, by decide +kernel,
    host_trust_state_machine lengthNames lengthUuid_injective flatBench verifiedHost⟩

end RomaBridge.Properties
