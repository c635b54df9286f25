import Mathlib.Data.List.Perm.Basic
import RomaBridge.Model.Signups

/-! Invite codes and the capacity of the beta. A use is counted after the account exists, so a code is
still valid for as many signups as are in flight. A signup is refused when the verified users have
reached the capacity, but a pending account is verified without another check.
-/

namespace RomaBridge.Properties

open RomaBridge.Foundation RomaBridge.Model.Beta

variable {store next : BetaStore} {code : String} {signup : ℕ} {request : SignupRequest}
  {phase : SignupPhase}

-- Statements

def usesOf (store : BetaStore) (code : String) : ℕ :=
  store.usage.countP (fun use => use.1 == code)

def beforeAccount : SignupPhase → Bool
  | .begun _ | .hasCapacity _ | .invited _ | .free _ => true
  | _ => false

def awaitsCount : SignupPhase → Option String
  | .created request => request.presented
  | .counting _ code => some code
  | _ => none

/-- What relates signups, users and uses. -/
structure Accounted (store : BetaStore) : Prop where
  counts : ∀ code invite, store.invites code = some invite → invite.usedCount = usesOf store code
  fresh : ∀ signup phase, store.signups signup = some phase → beforeAccount phase →
    (∀ row ∈ store.users, row.id ≠ signup) ∧ ∀ code, (code, signup) ∉ store.usage
  waiting : ∀ signup phase code, store.signups signup = some phase → awaitsCount phase = some code →
    (∃ row ∈ store.users, row.id = signup ∧ row.presented = some code)
    ∧ ∀ code, (code, signup) ∉ store.usage
  uses : store.usage.Nodup
  used : ∀ use ∈ store.usage, ∃ row ∈ store.users, row.id = use.2 ∧ row.presented = some use.1

theorem Accounted.moveTo (accounted : Accounted store) (signup : ℕ) (new : SignupPhase)
    (fresh : beforeAccount new →
      (∀ row ∈ store.users, row.id ≠ signup) ∧ ∀ code, (code, signup) ∉ store.usage)
    (waiting : ∀ code, awaitsCount new = some code →
      (∃ row ∈ store.users, row.id = signup ∧ row.presented = some code)
      ∧ ∀ code, (code, signup) ∉ store.usage)
    : Accounted (store.moveTo signup new) := by
  refine ⟨accounted.counts, ?_, ?_, accounted.uses, accounted.used⟩
  · intro other phase found early
    rcases update_some_cases found with ⟨rfl, rfl⟩ | ⟨_, old⟩
    · exact fresh early
    · exact accounted.fresh other phase old early
  · intro other phase code found awaits
    rcases update_some_cases found with ⟨rfl, rfl⟩ | ⟨_, old⟩
    · exact waiting code awaits
    · exact accounted.waiting other phase code old awaits

theorem Accounted.moveEarly (accounted : Accounted store)
    (found : store.signups signup = some phase) (early : beforeAccount phase)
    (new : SignupPhase) (never : awaitsCount new = none)
    : Accounted (store.moveTo signup new) :=
  accounted.moveTo signup new (fun _ => accounted.fresh signup phase found early)
    (fun code awaits => by rw [never] at awaits; cases awaits)

theorem Accounted.finish (accounted : Accounted store) (signup : ℕ) (request : SignupRequest)
    : Accounted (store.moveTo signup (.finished request)) :=
  accounted.moveTo signup (.finished request) (by simp [beforeAccount]) (by simp [awaitsCount])

theorem createUser_fresh (request : SignupRequest) (fresh : ∀ row ∈ store.users, row.id ≠ signup)
    : (store.createUser signup request).users
        = store.users ++ [⟨signup, request.email, false, request.presented⟩]
      ∧ (store.createUser signup request).usage = store.usage
      ∧ (store.createUser signup request).invites = store.invites
      ∧ (store.createUser signup request).signups = store.signups := by
  have unknown : signup ∉ store.users.map UserRow.id := by
    intro mem
    obtain ⟨row, rowMem, named⟩ := List.mem_map.mp mem
    exact fresh row rowMem named
  unfold BetaStore.createUser
  rw [dif_neg unknown]
  exact ⟨rfl, rfl, rfl, rfl⟩

theorem Accounted.createUser (accounted : Accounted store)
    (found : store.signups signup = some (.free request))
    : Accounted ((store.createUser signup request).moveTo signup (.created request)) := by
  obtain ⟨noRow, unused⟩ := accounted.fresh signup _ found rfl
  obtain ⟨users, usage, invites, signups⟩ := createUser_fresh request noRow
  refine ⟨?_, ?_, ?_, ?_, ?_⟩
  · intro code invite held
    simp only [BetaStore.moveTo, usesOf, invites, usage] at held ⊢
    exact accounted.counts code invite held
  · intro other phase at_ early
    rcases update_some_cases at_ with ⟨_, rfl⟩ | ⟨own, old⟩
    · cases early
    · rw [signups] at old
      obtain ⟨absent, notUsed⟩ := accounted.fresh other phase old early
      simp only [BetaStore.moveTo, users, usage]
      refine ⟨?_, notUsed⟩
      intro row mem
      rcases List.mem_append.mp mem with old | new
      · exact absent row old
      · rw [List.mem_singleton.mp new]
        exact Ne.symm own
  · intro other phase code at_ awaits
    simp only [BetaStore.moveTo, users, usage]
    rcases update_some_cases at_ with ⟨rfl, rfl⟩ | ⟨_, old⟩
    · exact ⟨⟨_, List.mem_append_right _ (List.mem_singleton_self _), rfl, awaits⟩, unused⟩
    · rw [signups] at old
      obtain ⟨⟨row, mem, given⟩, notUsed⟩ := accounted.waiting other phase code old awaits
      exact ⟨⟨row, List.mem_append_left _ mem, given⟩, notUsed⟩
  · simp only [BetaStore.moveTo, usage]
    exact accounted.uses
  · intro use mem
    simp only [BetaStore.moveTo, users, usage] at mem ⊢
    obtain ⟨row, rowMem, given⟩ := accounted.used use mem
    exact ⟨row, List.mem_append_left _ rowMem, given⟩

theorem Accounted.useInviteCode (accounted : Accounted store)
    (found : store.signups signup = some (.counting request code))
    : Accounted ((store.useInviteCode code signup).moveTo signup (.finished request)) := by
  obtain ⟨⟨own, ownMem, ownNamed, ownGiven⟩, unused⟩ := accounted.waiting signup _ code found rfl
  have later : ∀ other, other ≠ signup → (∀ given, (given, other) ∉ store.usage) →
      ∀ given, (given, other) ∉ store.usage ++ [(code, signup)] := by
    intro other differs notUsed given mem
    rcases List.mem_append.mp mem with old | new
    · exact notUsed given old
    · exact differs (congrArg Prod.snd (List.mem_singleton.mp new))
  refine ⟨?_, ?_, ?_, ?_, ?_⟩
  · intro other invite held
    simp only [BetaStore.moveTo, BetaStore.useInviteCode, usesOf, List.countP_append,
      List.countP_singleton] at held ⊢
    split at held
    · rename_i same
      obtain ⟨before, heldBefore, rfl⟩ := Option.map_eq_some_iff.mp held
      simp [same, accounted.counts other before heldBefore, usesOf]
    · rename_i differs
      simp [Ne.symm differs, accounted.counts other invite held, usesOf]
  · intro other phase at_ early
    rcases update_some_cases at_ with ⟨_, rfl⟩ | ⟨same, old⟩
    · cases early
    · obtain ⟨absent, notUsed⟩ := accounted.fresh other phase old early
      exact ⟨absent, later other same notUsed⟩
  · intro other phase given at_ awaits
    rcases update_some_cases at_ with ⟨_, rfl⟩ | ⟨same, old⟩
    · cases awaits
    · obtain ⟨row, notUsed⟩ := accounted.waiting other phase given old awaits
      exact ⟨row, later other same notUsed⟩
  · change (store.usage ++ [(code, signup)]).Nodup
    rw [List.nodup_append]
    refine ⟨accounted.uses, List.nodup_singleton _, ?_⟩
    intro use mem new newMem same
    rw [same, List.mem_singleton.mp newMem] at mem
    exact unused code mem
  · intro use mem
    rcases List.mem_append.mp mem with old | new
    · exact accounted.used use old
    · rw [List.mem_singleton.mp new]
      exact ⟨own, ownMem, ownNamed, ownGiven⟩

/-- The next transaction of a signup keeps the relations. One case per phase. -/
theorem Accounted.advance (accounted : Accounted store)
    (found : store.signups signup = some phase) (now : ℕ)
    : Accounted (advance store signup now phase) := by
  cases phase with
  | begun request =>
      simp only [Model.Beta.advance]
      split
      · exact accounted.moveEarly found rfl _ rfl
      · split
        · exact accounted.moveEarly found rfl _ rfl
        · exact accounted.moveEarly found rfl _ rfl
  | hasCapacity request =>
      simp only [Model.Beta.advance]
      split
      · split
        · exact accounted.moveEarly found rfl _ rfl
        · split
          · exact accounted.moveEarly found rfl _ rfl
          · exact accounted.moveEarly found rfl _ rfl
      · exact accounted.moveEarly found rfl _ rfl
  | invited request =>
      simp only [Model.Beta.advance]
      split
      · exact accounted.moveEarly found rfl _ rfl
      · exact accounted.moveEarly found rfl _ rfl
  | free request => exact accounted.createUser found
  | created request =>
      simp only [Model.Beta.advance]
      cases given : request.presented with
      | none => exact accounted.finish signup request
      | some code =>
          simp only
          split
          · exact accounted.finish signup request
          · refine accounted.moveTo signup _ (by simp [beforeAccount]) ?_
            intro other awaits
            cases awaits
            exact accounted.waiting signup _ code found given
  | counting request code => exact accounted.useInviteCode found
  | finished request => exact accounted
  | refused statusCode detail => exact accounted

theorem setVerified_presented (user : ℕ) (verified : Bool) (row : UserRow)
    : (row.setVerified user verified).presented = row.presented := by
  unfold UserRow.setVerified
  split
  · rfl
  · rfl

theorem Accounted.setVerified (accounted : Accounted store) (user : ℕ) (verified : Bool)
    : Accounted (store.setVerified user verified) := by
  refine ⟨accounted.counts, ?_, ?_, accounted.uses, ?_⟩
  · intro signup phase found early
    obtain ⟨absent, unused⟩ := accounted.fresh signup phase found early
    refine ⟨?_, unused⟩
    intro row mem
    obtain ⟨old, oldMem, rfl⟩ := List.mem_map.mp mem
    rw [UserRow.setVerified_id]
    exact absent old oldMem
  · intro signup phase code found awaits
    obtain ⟨⟨row, mem, named, given⟩, unused⟩ := accounted.waiting signup phase code found awaits
    refine ⟨⟨row.setVerified user verified, List.mem_map_of_mem mem, ?_, ?_⟩, unused⟩
    · rw [UserRow.setVerified_id, named]
    · rw [setVerified_presented, given]
  · intro use mem
    obtain ⟨row, rowMem, named, given⟩ := accounted.used use mem
    refine ⟨row.setVerified user verified, List.mem_map_of_mem rowMem, ?_, ?_⟩
    · rw [UserRow.setVerified_id, named]
    · rw [setVerified_presented, given]

theorem Accounted.deactivate (accounted : Accounted store) (code : String)
    : Accounted (store.deactivate code) := by
  refine ⟨?_, accounted.fresh, accounted.waiting, accounted.uses, accounted.used⟩
  intro other invite held
  simp only [BetaStore.deactivate] at held
  split at held
  · obtain ⟨before, heldBefore, rfl⟩ := Option.map_eq_some_iff.mp held
    exact accounted.counts other before heldBefore
  · exact accounted.counts other invite held

theorem Accounted.step (accounted : Accounted store) (call : BetaCall)
    : Accounted (betaStep store call).2 := by
  cases call with
  | arrive signup request =>
      simp only [betaStep]
      split
      · exact accounted
      · rename_i unknown
        simp only [Bool.or_eq_true, List.any_eq_true, beq_iff_eq, not_or, not_exists, not_and]
          at unknown
        refine accounted.moveTo signup _ ?_ (by simp [awaitsCount])
        intro _
        refine ⟨unknown.2, ?_⟩
        intro code mem
        obtain ⟨row, rowMem, named, _⟩ := accounted.used _ mem
        exact unknown.2 row rowMem named
  | advance signup now =>
      simp only [betaStep]
      cases found : store.signups signup with
      | none => exact accounted
      | some phase => exact accounted.advance found now
  | deactivate code => exact accounted.deactivate code
  | verify user => exact accounted.setVerified user true
  | restore user => exact accounted.setVerified user false

-- Accounts

/-- No code was used, no account presented one, and no signup is under way. -/
structure NewlyOpened (store : BetaStore) : Prop where
  unused : ∀ code invite, store.invites code = some invite → invite.usedCount = 0
  noUsage : store.usage = []
  noCode : ∀ row ∈ store.users, row.presented = none
  noSignup : ∀ signup, store.signups signup = none

theorem NewlyOpened.accounted (opened : NewlyOpened store) : Accounted store := by
  refine ⟨?_, ?_, ?_, ?_, ?_⟩
  · intro code invite held
    simp [usesOf, opened.noUsage, opened.unused code invite held]
  · intro signup phase found
    rw [opened.noSignup] at found
    cases found
  · intro signup phase code found
    rw [opened.noSignup] at found
    cases found
  · rw [opened.noUsage]
    exact List.nodup_nil
  · intro use mem
    rw [opened.noUsage] at mem
    cases mem

variable {store : BetaStore}

end RomaBridge.Properties
