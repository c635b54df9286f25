import RomaBridge.Model.Vastai

/-! Every contract that lives is the one that the map of the backend holds for its job, as long as
no step loses one.
-/

namespace RomaBridge.Properties

open RomaBridge RomaBridge.Foundation RomaBridge.Model.Vastai

variable {jobId : String} {backend : Vastai}

/-- Every live contract of a job is the one a cancel finds, and the only one of the job. -/
structure NoneLeaked (backend : Vastai) : Prop where
  reachable : ∀ contractId jobId, backend.live contractId = some jobId →
    backend.contract? jobId = some contractId
  single : ∀ contractId other jobId, backend.live contractId = some jobId →
    backend.live other = some jobId → contractId = other

/-- The rent leaves a contract whose id is not returned. -/
def RentOutcome.leaves : RentOutcome → Bool
  | .lost _ => true
  | .unnamed created => created
  | .refused _ | .rented => false

/-- What a step needs to lose no contract: a dispatch returns the id of every contract it makes and
rents for a job without one; a cancel of a live contract gets its instances and destroys it; the
monitor forgets only a job whose contract is destroyed.
-/
def LosesNone (backend : Vastai) : VastaiCall → Prop
  | .dispatch jobId instanceType provider =>
      backend.enabled = true →
      let rents := chainRents provider (gpuChain instanceType backend.defaultGpu)
      (∀ outcome ∈ rents, RentOutcome.leaves outcome = false)
      ∧ (.rented ∈ rents → ∀ contractId, backend.live contractId ≠ some jobId)
  | .cancelJob jobId instances destroyed =>
      ∀ contractId, backend.contract? jobId = some contractId →
        backend.live contractId ≠ none → instances.isSome = true ∧ destroyed = true
  | .callbackEnds =>
      ∀ jobId rest contractId, backend.monitor = .inCallback jobId rest →
        backend.contract? jobId = some contractId → backend.live contractId = none
  | .getStatus _ _ _ | .monitorTick _ => True

/-- What holds of every run: the map and the contracts have ids that were given out, and a live
contract in the map belongs to its job.
-/
structure ContractsKnown (backend : Vastai) : Prop where
  mapped : ∀ jobId contractId, backend.contract? jobId = some contractId →
    contractId < backend.nextContract
  given : ∀ contractId jobId, backend.live contractId = some jobId →
    contractId < backend.nextContract
  owned : ∀ jobId contractId other, backend.contract? jobId = some contractId →
    backend.live contractId = some other → other = jobId

-- The parts of a step

@[simp]
theorem contract?_forget (backend : Vastai) (jobId other : String)
    : (backend.forget jobId).contract? other
      = if other = jobId then none else backend.contract? other := by
  unfold Vastai.contract? Vastai.forget
  rw [Table.find?_keep]
  cases found : backend.jobInstanceMap.find? other with
  | none => simp
  | some entry =>
      obtain ⟨owner, contractId⟩ := entry
      obtain rfl : owner = other := (Table.find?_some found).2
      by_cases same : owner = jobId
      · simp [same]
      · simp [same]

theorem contract?_rented (backend : Vastai) (jobId other : String)
    : (backend.rent jobId .rented).contract? other
      = if other = jobId then some backend.nextContract else backend.contract? other := by
  unfold Vastai.contract? Vastai.rent
  rw [Table.find?_put]
  by_cases same : other = jobId
  · simp [same]
  · simp [same, Ne.symm same]

theorem look_eq (backend : Vastai) (contracts : List ℕ)
    : ∃ monitor, backend.look contracts = { backend with monitor } := by
  induction contracts with
  | nil => exact ⟨.asleep, rfl⟩
  | cons contractId rest ih =>
      unfold Vastai.look
      cases backend.findJobByContract contractId with
      | none => exact ih
      | some jobId => exact ⟨.inCallback jobId rest, rfl⟩

theorem noneLeaked_monitor (backend : Vastai) (monitor : Monitor)
    : NoneLeaked { backend with monitor } ↔ NoneLeaked backend :=
  ⟨fun kept => ⟨kept.reachable, kept.single⟩, fun kept => ⟨kept.reachable, kept.single⟩⟩

theorem modelRents_cases (attempts : List Attempt) (hits : ℕ)
    : ((modelRents hits attempts).2 = false ∧ RentOutcome.rented ∉ (modelRents hits attempts).1)
      ∨ ((modelRents hits attempts).2 = true ∧ ∃ before,
        (modelRents hits attempts).1 = before ++ [.rented] ∧ RentOutcome.rented ∉ before) := by
  induction attempts generalizing hits with
  | nil => exact Or.inl ⟨rfl, by simp [modelRents]⟩
  | cons attempt rest ih =>
      cases attempt with
      | noOffers => exact Or.inl ⟨rfl, by simp [modelRents]⟩
      | searchFails errorText =>
          simp only [modelRents]
          cases hitsAfter hits errorText with
          | none => exact Or.inl ⟨rfl, by simp⟩
          | some later => exact ih later
      | rent outcome =>
          simp only [modelRents]
          by_cases success : outcome = .rented
          · rw [if_pos success]
            exact Or.inr ⟨rfl, [], rfl, by simp⟩
          · rw [if_neg success]
            cases RentOutcome.hitsAfter hits outcome with
            | none => exact Or.inl ⟨rfl, by simpa using Ne.symm success⟩
            | some later =>
                rcases ih later with ⟨failed, absent⟩ | ⟨done, before, rents, absent⟩
                · exact Or.inl ⟨failed, by simp [Ne.symm success, absent]⟩
                · refine Or.inr ⟨done, outcome :: before, by simp [rents], ?_⟩
                  simp [Ne.symm success, absent]

/-- A dispatch rents at most once with success, at the end. Induction on the chain. -/
theorem chainRents_cases (provider : String → ℕ → Attempt) (chain : List String)
    : RentOutcome.rented ∉ chainRents provider chain
      ∨ ∃ before, chainRents provider chain = before ++ [.rented] ∧ RentOutcome.rented ∉ before := by
  induction chain with
  | nil => exact Or.inl (by simp [chainRents])
  | cons model rest ih =>
      simp only [chainRents]
      rcases modelRents_cases ((List.range 4).map (provider model)) 0
        with ⟨failed, absent⟩ | ⟨done, before, rents, absent⟩
      · rw [failed, if_neg Bool.false_ne_true]
        rcases ih with never | ⟨before, rents, without⟩
        · exact Or.inl (by simp [absent, never])
        · refine Or.inr ⟨_ ++ before, by rw [rents, List.append_assoc], ?_⟩
          simp [absent, without]
      · rw [done, if_pos rfl]
        exact Or.inr ⟨before, rents, absent⟩

-- Dispatching

def Lost (jobId : String) (backend : Vastai) : Prop :=
  ∃ contractId, backend.live contractId = some jobId ∧ contractId < backend.nextContract
    ∧ backend.contract? jobId ≠ some contractId

theorem Lost.not_noneLeaked (lost : Lost jobId backend)
    : ¬ NoneLeaked backend := by
  intro kept
  obtain ⟨contractId, lives, -, unfound⟩ := lost
  exact unfound (kept.reachable contractId jobId lives)

theorem live_create (backend : Vastai) (jobId : String) (contractId : ℕ)
    : (backend.create jobId).live contractId
      = if contractId = backend.nextContract then some jobId else backend.live contractId := by
  unfold Vastai.create
  by_cases new : contractId = backend.nextContract
  · simp [new]
  · simp [new]

theorem ContractsKnown.rent (known : ContractsKnown backend) (jobId : String)
    (outcome : RentOutcome)
    : ContractsKnown (backend.rent jobId outcome) := by
  have created : ContractsKnown (backend.create jobId) := by
    constructor
    · intro other contractId mapped
      exact Nat.lt_succ_of_lt (known.mapped other contractId mapped)
    · intro contractId other lives
      rw [live_create] at lives
      split at lives
      · rename_i new
        rw [new]
        exact Nat.lt_succ_self _
      · exact Nat.lt_succ_of_lt (known.given contractId other lives)
    · intro owner contractId other mapped lives
      rw [live_create, if_neg (Nat.ne_of_lt (known.mapped owner contractId mapped))] at lives
      exact known.owned owner contractId other mapped lives
  cases outcome with
  | refused errorText => exact known
  | lost errorText => exact created
  | unnamed made =>
      cases made with
      | true => exact created
      | false => exact known
  | rented =>
      constructor
      · intro other contractId mapped
        rw [contract?_rented] at mapped
        split at mapped
        · obtain rfl := Option.some.inj mapped
          exact Nat.lt_succ_self _
        · exact created.mapped other contractId mapped
      · exact created.given
      · intro owner contractId other mapped lives
        rw [contract?_rented] at mapped
        split at mapped
        · rename_i same
          obtain rfl := Option.some.inj mapped
          have new : (backend.create jobId).live backend.nextContract = some other := lives
          rw [live_create, if_pos rfl] at new
          rw [same]
          exact (Option.some.inj new).symm
        · exact created.owned owner contractId other mapped lives

theorem live_rent {other : String} {contractId : ℕ} (jobId : String)
    (lives : backend.live contractId = some other) (given : contractId < backend.nextContract)
    (outcome : RentOutcome)
    : (backend.rent jobId outcome).live contractId = some other
      ∧ contractId < (backend.rent jobId outcome).nextContract := by
  have created : (backend.create jobId).live contractId = some other
      ∧ contractId < (backend.create jobId).nextContract := by
    rw [live_create, if_neg (Nat.ne_of_lt given)]
    exact ⟨lives, Nat.lt_succ_of_lt given⟩
  cases outcome with
  | refused errorText => exact ⟨lives, given⟩
  | lost errorText => exact created
  | unnamed made =>
      cases made with
      | true => exact created
      | false => exact ⟨lives, given⟩
  | rented => exact created

theorem contract?_rent_cases (backend : Vastai) (jobId : String) (outcome : RentOutcome)
    : (backend.rent jobId outcome).contract? jobId = backend.contract? jobId
      ∨ (backend.rent jobId outcome).contract? jobId = some backend.nextContract := by
  cases outcome with
  | rented => exact Or.inr (by rw [contract?_rented, if_pos rfl])
  | unnamed made =>
      cases made with
      | true => exact Or.inl rfl
      | false => exact Or.inl rfl
  | _ => exact Or.inl rfl

theorem Lost.rent (lost : Lost jobId backend) (outcome : RentOutcome)
    : Lost jobId (backend.rent jobId outcome) := by
  obtain ⟨contractId, lives, given, unfound⟩ := lost
  obtain ⟨still, below⟩ := live_rent jobId lives given outcome
  refine ⟨contractId, still, below, ?_⟩
  rcases contract?_rent_cases backend jobId outcome with same | new
  · rw [same]
    exact unfound
  · rw [new]
    intro found
    exact Nat.ne_of_lt given (Option.some.inj found).symm

theorem lost_of_leaves (known : ContractsKnown backend) {outcome : RentOutcome}
    (leaves : RentOutcome.leaves outcome = true)
    : Lost jobId (backend.rent jobId outcome) := by
  have created : Lost jobId (backend.create jobId) := by
    refine ⟨backend.nextContract, by rw [live_create, if_pos rfl], Nat.lt_succ_self _, ?_⟩
    intro found
    exact absurd (known.mapped jobId _ found) (Nat.lt_irrefl _)
  cases outcome with
  | lost errorText => exact created
  | unnamed made =>
      cases made with
      | true => exact created
      | false => cases leaves
  | refused errorText => cases leaves
  | rented => cases leaves

theorem foldl_rent (jobId : String) (rents : List RentOutcome) (known : ContractsKnown backend)
    : ContractsKnown (rents.foldl (Vastai.rent jobId) backend)
      ∧ (Lost jobId backend ∨ (∃ outcome ∈ rents, RentOutcome.leaves outcome = true) →
        Lost jobId (rents.foldl (Vastai.rent jobId) backend)) := by
  induction rents generalizing backend with
  | nil => exact ⟨known, by simp⟩
  | cons outcome rest ih =>
      obtain ⟨after, loses⟩ := ih (known.rent jobId outcome)
      refine ⟨after, ?_⟩
      intro cause
      refine loses ?_
      rcases cause with lost | ⟨other, member, leaves⟩
      · exact Or.inl (lost.rent outcome)
      · rcases List.mem_cons.mp member with rfl | later
        · exact Or.inl (lost_of_leaves known leaves)
        · exact Or.inr ⟨other, later, leaves⟩

theorem live_foldl_rent {other : String} {contractId : ℕ} (jobId : String)
    (rents : List RentOutcome) (lives : backend.live contractId = some other)
    (given : contractId < backend.nextContract)
    : (rents.foldl (Vastai.rent jobId) backend).live contractId = some other
      ∧ contractId < (rents.foldl (Vastai.rent jobId) backend).nextContract := by
  induction rents generalizing backend with
  | nil => exact ⟨lives, given⟩
  | cons outcome rest ih =>
      obtain ⟨still, below⟩ := live_rent jobId lives given outcome
      exact ih still below

/-- Rents that neither succeed nor leave anything change nothing. Induction on the rents. -/
theorem foldl_rent_of_failed {rents : List RentOutcome} (backend : Vastai)
    (failed : RentOutcome.rented ∉ rents)
    (clean : ∀ outcome ∈ rents, RentOutcome.leaves outcome = false)
    : rents.foldl (Vastai.rent jobId) backend = backend := by
  induction rents with
  | nil => rfl
  | cons outcome rest ih =>
      have unchanged : backend.rent jobId outcome = backend := by
        have tidy := clean outcome List.mem_cons_self
        cases outcome with
        | refused errorText => rfl
        | lost errorText => cases tidy
        | unnamed made =>
            cases made with
            | true => cases tidy
            | false => rfl
        | rented => exact absurd List.mem_cons_self failed
      rw [List.foldl_cons, unchanged]
      exact ih (fun later => failed (List.mem_cons_of_mem _ later))
        (fun other member => clean other (List.mem_cons_of_mem _ member))

theorem NoneLeaked.rented (kept : NoneLeaked backend)
    (without : ∀ contractId, backend.live contractId ≠ some jobId)
    : NoneLeaked (backend.rent jobId .rented) := by
  have reachable : ∀ contractId other, (backend.rent jobId .rented).live contractId = some other →
      (backend.rent jobId .rented).contract? other = some contractId := by
    intro contractId other lives
    have lives' : (backend.create jobId).live contractId = some other := lives
    rw [live_create] at lives'
    rw [contract?_rented]
    split at lives'
    · rename_i new
      rw [if_pos (Option.some.inj lives').symm, new]
    · have foreign : other ≠ jobId := by
        intro same
        rw [same] at lives'
        exact without contractId lives'
      rw [if_neg foreign]
      exact kept.reachable contractId other lives'
  refine ⟨reachable, ?_⟩
  intro contractId other owner first second
  exact Option.some.inj ((reachable contractId owner first).symm.trans (reachable other owner second))

theorem noneLeaked_dispatch_iff (kept : NoneLeaked backend) (known : ContractsKnown backend)
    (jobId instanceType : String) (provider : String → ℕ → Attempt)
    : NoneLeaked (dispatch backend jobId instanceType provider).2
      ↔ LosesNone backend (.dispatch jobId instanceType provider) := by
  by_cases enabled : backend.enabled = true
  · have after : (dispatch backend jobId instanceType provider).2
        = (chainRents provider (gpuChain instanceType backend.defaultGpu)).foldl
          (Vastai.rent jobId) backend := by
      simp only [dispatch, enabled, if_true]
      split
      · rfl
      · rfl
    rw [after]
    simp only [LosesNone, enabled, true_implies]
    generalize rents_ : chainRents provider (gpuChain instanceType backend.defaultGpu) = rents
    have shape := chainRents_cases provider (gpuChain instanceType backend.defaultGpu)
    rw [rents_] at shape
    constructor
    · intro still
      have clean : ∀ outcome ∈ rents, RentOutcome.leaves outcome = false := by
        intro outcome member
        by_contra leaves
        have lost := (foldl_rent jobId rents known).2 (Or.inr ⟨outcome, member, by simpa using leaves⟩)
        exact lost.not_noneLeaked still
      refine ⟨clean, ?_⟩
      intro success contractId lives
      rcases shape with never | ⟨before, split, -⟩
      · exact never success
      · rw [split, List.foldl_append] at still
        obtain ⟨old, below⟩ := live_foldl_rent jobId before lives
          (known.given contractId jobId lives)
        obtain ⟨lasting, -⟩ := live_rent jobId old below .rented
        have found := still.reachable contractId jobId lasting
        rw [List.foldl_cons, List.foldl_nil, contract?_rented, if_pos rfl] at found
        exact Nat.ne_of_lt below (Option.some.inj found).symm
    · intro ⟨clean, without⟩
      rcases shape with never | ⟨before, split, failed⟩
      · rw [foldl_rent_of_failed backend never clean]
        exact kept
      · have cleanBefore : ∀ outcome ∈ before, RentOutcome.leaves outcome = false := by
          intro outcome member
          exact clean outcome (by rw [split]; exact List.mem_append_left _ member)
        rw [split, List.foldl_append, foldl_rent_of_failed backend failed cleanBefore]
        exact kept.rented (without (by rw [split]; simp))
  · have same : (dispatch backend jobId instanceType provider).2 = backend := by
      simp [dispatch, enabled]
    rw [same]
    exact iff_of_true kept (fun configured => absurd configured enabled)

-- Forgetting

theorem noneLeaked_forget_iff (kept : NoneLeaked backend) (known : ContractsKnown backend)
    (jobId : String)
    : NoneLeaked (backend.forget jobId)
      ↔ ∀ contractId, backend.contract? jobId = some contractId →
        backend.live contractId = none := by
  constructor
  · intro still contractId mapped
    by_contra lives
    obtain ⟨other, owned⟩ := Option.ne_none_iff_exists'.mp lives
    obtain rfl := known.owned jobId contractId other mapped owned
    have found := still.reachable contractId other owned
    rw [contract?_forget, if_pos rfl] at found
    cases found
  · intro destroyed
    refine ⟨?_, kept.single⟩
    intro contractId other lives
    have found := kept.reachable contractId other lives
    rw [contract?_forget, if_neg ?_]
    · exact found
    · intro same
      rw [same] at found
      have gone : backend.live contractId = some other := lives
      rw [destroyed contractId found] at gone
      cases gone

theorem NoneLeaked.destroy (kept : NoneLeaked backend) {contractId : ℕ}
    (mapped : backend.contract? jobId = some contractId)
    : NoneLeaked { backend.forget jobId with
        live := Function.update backend.live contractId none } := by
  have remaining : ∀ other owner, Function.update backend.live contractId none other = some owner →
      other ≠ contractId ∧ backend.live other = some owner := by
    intro other owner lives
    by_cases same : other = contractId
    · rw [same, Function.update_self] at lives
      cases lives
    · rw [Function.update_of_ne same] at lives
      exact ⟨same, lives⟩
  constructor
  · intro other owner lives
    obtain ⟨distinct, lived⟩ := remaining other owner lives
    have found := kept.reachable other owner lived
    show (backend.forget jobId).contract? owner = some other
    rw [contract?_forget, if_neg ?_]
    · exact found
    · intro same
      rw [same, mapped] at found
      exact distinct (Option.some.inj found).symm
  · intro first second owner firstLives secondLives
    exact kept.single first second owner (remaining first owner firstLives).2
      (remaining second owner secondLives).2

theorem noneLeaked_cancelJob_iff (kept : NoneLeaked backend) (known : ContractsKnown backend)
    (jobId : String) (instances : Option (List Instance)) (destroyed : Bool)
    : NoneLeaked (cancelJob backend jobId instances destroyed).2
      ↔ LosesNone backend (.cancelJob jobId instances destroyed) := by
  have forget_iff := noneLeaked_forget_iff kept known jobId
  unfold cancelJob LosesNone
  cases mapped : backend.contract? jobId with
  | none =>
      refine iff_of_true (forget_iff.mpr ?_) ?_
      · intro contractId found
        rw [mapped] at found
        cases found
      · intro contractId found
        rw [mapped] at found
        cases found
  | some contractId =>
      simp only [mapped, Option.some.injEq, forall_eq'] at forget_iff ⊢
      cases instances with
      | none =>
          rw [forget_iff]
          simp
      | some listed =>
          cases destroyed with
          | true =>
              refine iff_of_true ?_ (fun _ => ⟨rfl, rfl⟩)
              exact kept.destroy mapped
          | false =>
              show NoneLeaked (backend.forget jobId) ↔ _
              rw [forget_iff]
              simp

theorem noneLeaked_step_iff (kept : NoneLeaked backend) (known : ContractsKnown backend)
    (call : VastaiCall)
    : NoneLeaked (vastaiStep backend call).2 ↔ LosesNone backend call := by
  cases call with
  | dispatch jobId instanceType provider =>
      exact noneLeaked_dispatch_iff kept known jobId instanceType provider
  | getStatus jobId instanceId instances => exact iff_of_true kept trivial
  | cancelJob jobId instances destroyed =>
      exact noneLeaked_cancelJob_iff kept known jobId instances destroyed
  | monitorTick instances =>
      refine iff_of_true ?_ trivial
      simp only [vastaiStep]
      split
      · rename_i listed _
        obtain ⟨monitor, looked⟩ := look_eq backend
          ((listed.filter Instance.ended).map Instance.contractId)
        rw [looked]
        exact (noneLeaked_monitor backend monitor).mpr kept
      · exact kept
  | callbackEnds =>
      simp only [vastaiStep, LosesNone]
      cases backend.monitor with
      | asleep =>
          refine iff_of_true kept ?_
          intro _ _ _ absent
          cases absent
      | inCallback jobId rest =>
          obtain ⟨monitor, looked⟩ := look_eq (backend.forget jobId) rest
          dsimp only
          rw [looked, noneLeaked_monitor, noneLeaked_forget_iff kept known jobId]
          constructor
          · intro destroyed other rest' contractId same found
            cases same
            exact destroyed contractId found
          · intro destroyed contractId found
            exact destroyed jobId rest contractId rfl found

theorem ContractsKnown.forget (known : ContractsKnown backend) (jobId : String)
    : ContractsKnown (backend.forget jobId) := by
  have mapped_of : ∀ other contractId, (backend.forget jobId).contract? other = some contractId →
      backend.contract? other = some contractId := by
    intro other contractId mapped
    rw [contract?_forget] at mapped
    split at mapped
    · cases mapped
    · exact mapped
  constructor
  · intro other contractId mapped
    exact known.mapped other contractId (mapped_of other contractId mapped)
  · exact known.given
  · intro owner contractId other mapped lives
    exact known.owned owner contractId other (mapped_of owner contractId mapped) lives

theorem ContractsKnown.destroy (known : ContractsKnown backend) (contractId : ℕ)
    : ContractsKnown { backend with live := Function.update backend.live contractId none } := by
  have lived : ∀ other owner, Function.update backend.live contractId none other = some owner →
      backend.live other = some owner := by
    intro other owner lives
    by_cases same : other = contractId
    · rw [same, Function.update_self] at lives
      cases lives
    · rwa [Function.update_of_ne same] at lives
  constructor
  · exact known.mapped
  · intro other owner lives
    exact known.given other owner (lived other owner lives)
  · intro owner other foreign mapped lives
    exact known.owned owner other foreign mapped (lived other foreign lives)

theorem ContractsKnown.look (known : ContractsKnown backend) (contracts : List ℕ)
    : ContractsKnown (backend.look contracts) := by
  obtain ⟨monitor, looked⟩ := look_eq backend contracts
  rw [looked]
  exact ⟨known.mapped, known.given, known.owned⟩

theorem ContractsKnown.step {backend : Vastai} (known : ContractsKnown backend) (call : VastaiCall)
    : ContractsKnown (vastaiStep backend call).2 := by
  cases call with
  | dispatch jobId instanceType provider =>
      simp only [vastaiStep, dispatch]
      split
      · split
        · exact (foldl_rent jobId _ known).1
        · exact (foldl_rent jobId _ known).1
      · exact known
  | getStatus jobId instanceId instances => exact known
  | cancelJob jobId instances destroyed =>
      simp only [vastaiStep, cancelJob]
      split
      · exact known.forget jobId
      · split
        · exact known.forget jobId
        · split
          · exact (known.forget jobId).destroy _
          · exact known.forget jobId
  | monitorTick instances =>
      simp only [vastaiStep]
      split
      · exact known.look _
      · exact known
  | callbackEnds =>
      simp only [vastaiStep]
      split
      · exact known
      · exact (known.forget _).look _

theorem newBackend_kept (enabled : Bool) (defaultGpu : String)
    : NoneLeaked (newBackend enabled defaultGpu) ∧ ContractsKnown (newBackend enabled defaultGpu) := by
  refine ⟨⟨?_, ?_⟩, ⟨?_, ?_, ?_⟩⟩
  · intro _ _ absent
    cases absent
  · intro _ _ _ absent
    cases absent
  · intro _ _ absent
    cases absent
  · intro _ _ absent
    cases absent
  · intro _ _ _ absent
    cases absent

/-- In every run of a backend no contract leaks exactly when no step loses one. -/
theorem noneLeaked_iff (enabled : Bool) (defaultGpu : String) (calls : List VastaiCall)
    : (∀ visit ∈ visits vastaiStep (newBackend enabled defaultGpu) calls, NoneLeaked visit.after)
      ↔ ∀ visit ∈ visits vastaiStep (newBackend enabled defaultGpu) calls,
        LosesNone visit.before visit.call := by
  have exact_ : ∀ backend call, NoneLeaked backend ∧ ContractsKnown backend → True →
      (NoneLeaked (vastaiStep backend call).2 ↔ LosesNone backend call) :=
    fun _ call good _ => noneLeaked_step_iff good.1 good.2 call
  have preserved : ∀ backend call, NoneLeaked backend ∧ ContractsKnown backend → True →
      LosesNone backend call →
      NoneLeaked (vastaiStep backend call).2 ∧ ContractsKnown (vastaiStep backend call).2 :=
    fun _ call good _ loses =>
      ⟨(noneLeaked_step_iff good.1 good.2 call).mpr loses, good.2.step call⟩
  exact throughout_iff exact_ preserved (newBackend_kept enabled defaultGpu) (fun _ _ => trivial)

def rentsAtOnce : String → ℕ → Attempt := fun _ _ => .rent .rented

/-- The provider answers the cancel's question for the instances with an error: the contract lives
on and no cancel will find it.
-/
theorem cancel_leaks
    : ∃ calls, ¬ ∀ visit ∈ visits vastaiStep (newBackend true "RTX_4090") calls,
      NoneLeaked visit.after := by
  refine ⟨[.dispatch "a" "any" rentsAtOnce, .cancelJob "a" none true], ?_⟩
  intro kept
  have cancelled := kept _ (List.mem_cons_of_mem _ List.mem_cons_self)
  exact absurd (cancelled.reachable 1 "a" (by decide)) (by decide)

end RomaBridge.Properties
