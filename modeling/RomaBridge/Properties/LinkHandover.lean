import RomaBridge.Model.VerificationLinks

/-! A verification link hands out one key and survives a failed click. The key follows in a
transaction of its own, so a click that stops in between leaves a verified account without it, and
the restore writes over a link that a resend has stored since.
-/

namespace RomaBridge.Properties

open RomaBridge.Foundation RomaBridge.Model.Verification

variable {expiry : ℕ → ℕ} {store : LinkStore} {click token now : ℕ} {fault : Fault}
  {expiresAt : Option ℕ}
variable {next : LinkStore}

-- Statements

def clickToken : ClickPhase → Option ℕ
  | .started token | .selected token _ | .consumed token _ | .rotated token
  | .rotationFailed token _ => some token
  | _ => none

def holdsToken : ClickPhase → Bool
  | .consumed _ _ | .rotated _ | .rotationFailed _ _ => true
  | _ => false

def endedBadly : ClickPhase → Bool
  | .failed _ _ | .crashed => true
  | _ => false

/-- The newest token can be consumed at any time before its expiry. -/
structure NewestUsable (expiry : ℕ → ℕ) (store : LinkStore) : Prop where
  unverified : store.row.emailVerified = false
  stored : store.row.verificationToken = some store.newest
  unexpired : store.row.verificationTokenExpiresAt.all
    (fun expiresAt => expiry store.newest ≤ expiresAt)

/-- The account is verified, and a key that was shown works. -/
structure KeyShown (store : LinkStore) : Prop where
  verified : store.row.emailVerified = true
  works : ∃ shown ∈ store.shown,
    store.row.userKeyHash = some shown.2 ∧ store.row.tenantKeyHash = some shown.2

def KeepsNewest (before after : LinkStore) : LinkCall → Prop
  | .advanceClick click _ _ =>
      ∀ phase, before.clicks click = some phase → clickToken phase ≠ some before.newest →
        before.row.verificationToken = some before.newest →
        after.row.verificationToken = some before.newest
  | _ => True

/-- What the links promise of a step. -/
structure LinksKept (expiry : ℕ → ℕ) (before : LinkStore) (call : LinkCall) (after : LinkStore)
    : Prop where
  single : ∀ token, (after.shown.filter (fun shown => shown.1 == token)).length ≤ 1
  recoverable : (∃ click phase, after.clicks click = some phase ∧ endedBadly phase) →
    (∀ click phase, after.clicks click = some phase → ¬ holdsToken phase) →
    NewestUsable expiry after ∨ KeyShown after
  newest : KeepsNewest before after call

/-- The steps that break nothing: no click stops after its token was consumed, unless its rotation
failed and the restore takes effect; and no restore finds a token of a resend.
-/
def HandsOver (store : LinkStore) : LinkCall → Prop
  | .crash click => ∀ phase, store.clicks click = some phase → ¬ holdsToken phase
  | .advanceClick click now fault =>
      match store.clicks click with
      | some (.selected token _) =>
          consumeVerificationToken store.row token now = none
          ∨ fault = .none ∨ fault.takesEffect = false
      | some (.rotated _) => fault = .none
      | some (.rotationFailed token _) =>
          fault.takesEffect
          ∧ (store.row.verificationToken = none ∨ store.row.verificationToken = some token)
      | _ => True
  | _ => True

-- The invariant

/-- The expiry of a token as it is read and put back: lost, or the one it was made with. -/
def ownExpiry (expiry : ℕ → ℕ) (token : ℕ) (expiresAt : Option ℕ) : Prop :=
  expiresAt = none ∨ expiresAt = some (expiry token)

/-- What a click keeps while the others move: the expiry it read and, from its consumption on, the
row.
-/
def ClickFacts (expiry : ℕ → ℕ) (store : LinkStore) (click : ℕ) : ClickPhase → Prop
  | .selected token expiresAt => ownExpiry expiry token expiresAt
  | .consumed token expiresAt | .rotationFailed token expiresAt =>
      ownExpiry expiry token expiresAt
      ∧ (store.row.verificationToken = some store.newest
        ∨ store.row.verificationToken = none ∧ token = store.newest)
  | .rotated token =>
      (store.row.userKeyHash = some click ∧ store.row.tenantKeyHash = some click)
      ∧ (store.row.verificationToken = some store.newest
        ∨ store.row.verificationToken = none ∧ token = store.newest)
  | _ => True

/-- At most one click holds a token; while it does, the account is verified and was shown no key. At
most one key was shown, and then the account stays verified.
-/
structure OneHolder (store : LinkStore) : Prop where
  one : ∀ click other phase otherPhase, store.clicks click = some phase →
    store.clicks other = some otherPhase → holdsToken phase → holdsToken otherPhase → click = other
  held : ∀ click phase, store.clicks click = some phase → holdsToken phase →
    store.row.emailVerified = true ∧ store.shown = []
  shown : store.shown = [] ∨ store.row.emailVerified = true ∧ store.shown.length = 1

/-- What relates the row, the newest token and the clicks as long as nothing broke. -/
structure LinkRelations (expiry : ℕ → ℕ) (store : LinkStore) : Prop extends OneHolder store where
  stored : ∀ token, store.row.verificationToken = some token →
    token = store.newest ∧ ownExpiry expiry token store.row.verificationTokenExpiresAt
  facts : ∀ click phase, store.clicks click = some phase → ClickFacts expiry store click phase
  settled : (∀ click phase, store.clicks click = some phase → ¬ holdsToken phase) →
    NewestUsable expiry store ∨ KeyShown store

theorem clickFacts_of_not_holds {phase : ClickPhase} (free : ¬ holdsToken phase)
    (facts : ClickFacts expiry store click phase)
    : ClickFacts expiry next click phase := by
  cases phase with
  | consumed token expiresAt => exact absurd rfl free
  | rotated token => exact absurd rfl free
  | rotationFailed token expiresAt => exact absurd rfl free
  | started token => exact facts
  | selected token expiresAt => exact facts
  | shown => exact facts
  | failed statusCode detail => exact facts
  | crashed => exact facts

theorem usable_congr (usable : NewestUsable expiry store ∨ KeyShown store)
    (row : next.row = store.row) (newest : next.newest = store.newest)
    (shown : next.shown = store.shown)
    : NewestUsable expiry next ∨ KeyShown next := by
  obtain ⟨nextRow, nextNewest, nextShown, nextClicks, nextResends⟩ := next
  subst row newest shown
  rcases usable with usable | known
  · exact .inl ⟨usable.unverified, usable.stored, usable.unexpired⟩
  · exact .inr ⟨known.verified, known.works⟩

theorem clicks_cases {new phase : ClickPhase} {other : ℕ}
    (clicks : next.clicks = Function.update store.clicks click (some new))
    (found : next.clicks other = some phase)
    : other = click ∧ phase = new ∨ other ≠ click ∧ store.clicks other = some phase := by
  rw [clicks] at found
  exact update_some_cases found

theorem OneHolder.alone (holder : OneHolder store) {phase : ClickPhase}
    (found : store.clicks click = some phase) (holds : holdsToken phase)
    : ∀ other otherPhase, other ≠ click → store.clicks other = some otherPhase →
      ¬ holdsToken otherPhase := by
  intro other otherPhase differs otherFound otherHolds
  exact differs (holder.one other click otherPhase phase otherFound found otherHolds holds)

theorem OneHolder.unverified (holder : OneHolder store)
    (unverified : store.row.emailVerified = false)
    : (∀ click phase, store.clicks click = some phase → ¬ holdsToken phase) ∧ store.shown = [] := by
  refine ⟨?_, ?_⟩
  · intro click phase found holds
    have verified := (holder.held click phase found holds).1
    rw [unverified] at verified
    cases verified
  · rcases holder.shown with none_ | ⟨verified, _⟩
    · exact none_
    · rw [unverified] at verified
      cases verified

theorem OneHolder.leave (holder : OneHolder store) (new : ClickPhase) (free : ¬ holdsToken new)
    : OneHolder (store.moveClick click new) := by
  refine ⟨?_, ?_, holder.shown⟩
  · intro first second phase secondPhase found secondFound holds secondHolds
    rcases clicks_cases rfl found with ⟨_, rfl⟩ | ⟨_, old⟩
    · exact absurd holds free
    · rcases clicks_cases rfl secondFound with ⟨_, rfl⟩ | ⟨_, secondOld⟩
      · exact absurd secondHolds free
      · exact holder.one first second phase secondPhase old secondOld holds secondHolds
  · intro other phase found holds
    rcases clicks_cases rfl found with ⟨_, rfl⟩ | ⟨_, old⟩
    · exact absurd holds free
    · exact holder.held other phase old holds

theorem oneHolder_of_alone (new : ClickPhase)
    (clicks : next.clicks = Function.update store.clicks click (some new))
    (alone : ∀ other phase, other ≠ click → store.clicks other = some phase → ¬ holdsToken phase)
    (held : holdsToken new → next.row.emailVerified = true ∧ next.shown = [])
    (shown : next.shown = [] ∨ next.row.emailVerified = true ∧ next.shown.length = 1)
    : OneHolder next := by
  have only : ∀ other phase, next.clicks other = some phase → holdsToken phase →
      other = click ∧ phase = new := by
    intro other phase found holds
    rcases clicks_cases clicks found with same | ⟨differs, old⟩
    · exact same
    · exact absurd holds (alone other phase differs old)
  refine ⟨?_, ?_, shown⟩
  · intro first second phase secondPhase found secondFound holds secondHolds
    rw [(only first phase found holds).1, (only second secondPhase secondFound secondHolds).1]
  · intro other phase found holds
    obtain ⟨_, rfl⟩ := only other phase found holds
    exact held holds

/-- An `UPDATE` that consumes a token found it live, and leaves a verified row without it. -/
theorem consumeVerificationToken_eq_some {row consumed : AccountRow}
    (taken : consumeVerificationToken row token now = some consumed)
    : row.verificationToken = some token ∧ row.emailVerified = false
      ∧ consumed.emailVerified = true ∧ consumed.verificationToken = none := by
  unfold consumeVerificationToken at taken
  split at taken
  · rename_i live
    cases taken
    exact ⟨live.1, live.2.1, rfl, rfl⟩
  · cases taken

theorem OneHolder.advanceClick (holder : OneHolder store) {phase : ClickPhase}
    (found : store.clicks click = some phase)
    : OneHolder (advanceClick store click now fault phase) := by
  cases phase with
  | started token =>
      cases fault with
      | none => exact holder.leave _ (by simp [holdsToken])
      | before reason => exact holder.leave _ (by decide)
      | after reason => exact holder.leave _ (by decide)
  | selected token expiresAt =>
      simp only [Model.Verification.advanceClick]
      cases taken : consumeVerificationToken store.row token now with
      | none =>
          cases fault with
          | none => exact holder.leave _ (by decide)
          | before reason => exact holder.leave _ (by decide)
          | after reason => exact holder.leave _ (by decide)
      | some row =>
          obtain ⟨_, unverified, verified, _⟩ := consumeVerificationToken_eq_some taken
          obtain ⟨free, none_⟩ := holder.unverified unverified
          have alone : ∀ other phase, other ≠ click → store.clicks other = some phase →
              ¬ holdsToken phase := fun other phase _ otherFound => free other phase otherFound
          cases fault with
          | none => exact oneHolder_of_alone _ rfl alone (fun _ => ⟨verified, none_⟩) (.inl none_)
          | before reason => exact holder.leave _ (by decide)
          | after reason =>
              exact oneHolder_of_alone _ rfl alone (fun _ => ⟨verified, none_⟩) (.inl none_)
  | consumed token expiresAt =>
      obtain ⟨verified, none_⟩ := holder.held click _ found rfl
      have alone := holder.alone found rfl
      cases fault with
      | none => exact oneHolder_of_alone _ rfl alone (fun _ => ⟨verified, none_⟩) (.inl none_)
      | before reason =>
          exact oneHolder_of_alone _ rfl alone (fun _ => ⟨verified, none_⟩) (.inl none_)
      | after reason =>
          exact oneHolder_of_alone _ rfl alone (fun _ => ⟨verified, none_⟩) (.inl none_)
  | rotationFailed token expiresAt =>
      obtain ⟨_, none_⟩ := holder.held click _ found rfl
      simp only [Model.Verification.advanceClick]
      split
      · exact oneHolder_of_alone verificationFailed rfl (holder.alone found rfl)
          (fun holds => absurd holds (by decide)) (.inl none_)
      · exact holder.leave _ (by decide)
  | rotated token =>
      obtain ⟨verified, none_⟩ := holder.held click _ found rfl
      cases fault with
      | none =>
          refine oneHolder_of_alone .shown rfl (holder.alone found rfl)
            (fun holds => absurd holds (by decide)) (.inr ⟨verified, ?_⟩)
          simp only [Model.Verification.advanceClick, none_]
          rfl
      | before reason => exact holder.leave _ (by decide)
      | after reason => exact holder.leave _ (by decide)
  | shown => exact holder
  | failed statusCode detail => exact holder
  | crashed => exact holder

theorem LinkRelations.moveFree (relations : LinkRelations expiry store) (new : ClickPhase)
    (before : ∀ phase, store.clicks click = some phase → ¬ holdsToken phase)
    (after : ¬ holdsToken new) (own : ClickFacts expiry store click new)
    : LinkRelations expiry (store.moveClick click new) := by
  refine ⟨relations.leave new after, relations.stored, ?_, ?_⟩
  · intro other phase found
    rcases clicks_cases rfl found with ⟨rfl, rfl⟩ | ⟨_, old⟩
    · exact own
    · exact relations.facts other phase old
  · intro free
    refine usable_congr (relations.settled ?_) rfl rfl rfl
    intro other phase found
    by_cases own_ : other = click
    · rw [own_] at found
      exact before phase found
    · refine free other phase ?_
      simp only [LinkStore.moveClick, Function.update_of_ne own_]
      exact found

theorem LinkRelations.moveHolder (relations : LinkRelations expiry store) (new : ClickPhase)
    (holder : OneHolder next) (clicks : next.clicks = Function.update store.clicks click (some new))
    (alone : ∀ other phase, other ≠ click → store.clicks other = some phase → ¬ holdsToken phase)
    (stored : ∀ token, next.row.verificationToken = some token →
      token = next.newest ∧ ownExpiry expiry token next.row.verificationTokenExpiresAt)
    (own : ClickFacts expiry next click new)
    (settled : ¬ holdsToken new → NewestUsable expiry next ∨ KeyShown next)
    : LinkRelations expiry next := by
  refine ⟨holder, stored, ?_, ?_⟩
  · intro other phase found
    rcases clicks_cases clicks found with ⟨rfl, rfl⟩ | ⟨differs, old⟩
    · exact own
    · exact clickFacts_of_not_holds (alone other phase differs old)
        (relations.facts other phase old)
  · intro free
    refine settled (free click new ?_)
    rw [clicks, Function.update_self]

theorem LinkRelations.issue (relations : LinkRelations expiry store) (token : ℕ)
    (phase : ResendPhase)
    : LinkRelations expiry ((store.issue token (expiry token)).moveResend token phase) := by
  refine ⟨⟨relations.one, relations.held, relations.shown⟩, ?_, ?_, ?_⟩
  · intro other named
    exact ⟨(Option.some.inj named).symm, .inr (by rw [Option.some.inj named]; rfl)⟩
  · intro click phase found
    have facts := relations.facts click phase found
    cases phase with
    | consumed _ _ => exact ⟨facts.1, .inl rfl⟩
    | rotated _ => exact ⟨facts.1, .inl rfl⟩
    | rotationFailed _ _ => exact ⟨facts.1, .inl rfl⟩
    | started _ => exact facts
    | selected _ _ => exact facts
    | shown => exact facts
    | failed _ _ => exact facts
    | crashed => exact facts
  · intro free
    rcases relations.settled free with usable | shown
    · refine .inl ⟨usable.unverified, rfl, ?_⟩
      simp [LinkStore.moveResend, LinkStore.issue, updateVerificationToken]
    · exact .inr ⟨shown.verified, shown.works⟩

theorem LinkRelations.moveResend (relations : LinkRelations expiry store) (token : ℕ)
    (phase : ResendPhase)
    : LinkRelations expiry (store.moveResend token phase) := by
  refine ⟨⟨relations.one, relations.held, relations.shown⟩, relations.stored, ?_, ?_⟩
  · intro click clickPhase found
    have facts := relations.facts click clickPhase found
    cases clickPhase <;> exact facts
  · intro free
    exact usable_congr (relations.settled free) rfl rfl rfl

-- One step

theorem OneHolder.shown_le (holder : OneHolder store) : store.shown.length ≤ 1 := by
  rcases holder.shown with none_ | ⟨_, one⟩
  · simp [none_]
  · exact Nat.le_of_eq one

theorem LinkRelations.ownExpiry_select (relations : LinkRelations expiry store) (token : ℕ)
    : ownExpiry expiry token (selectExpiry store.row token) := by
  unfold selectExpiry
  split
  · rename_i stored
    exact (relations.stored token stored).2
  · exact .inl rfl

theorem LinkRelations.consume (relations : LinkRelations expiry store) {row : AccountRow}
    (taken : consumeVerificationToken store.row token now = some row)
    (own : ownExpiry expiry token expiresAt)
    (holder : OneHolder ((store.withRow row).moveClick click (.consumed token expiresAt)))
    : LinkRelations expiry ((store.withRow row).moveClick click (.consumed token expiresAt)) := by
  obtain ⟨stored, unverified, _, cleared⟩ := consumeVerificationToken_eq_some taken
  obtain ⟨free, _⟩ := relations.unverified unverified
  refine relations.moveHolder _ holder rfl (fun other phase _ found => free other phase found)
    ?_ ?_ ?_
  · intro other named
    have absent : row.verificationToken = some other := named
    rw [cleared] at absent
    cases absent
  · exact ⟨own, .inr ⟨cleared, (relations.stored token stored).1⟩⟩
  · exact fun other => absurd rfl other

theorem LinkRelations.rotate (relations : LinkRelations expiry store)
    (found : store.clicks click = some (.consumed token expiresAt)) (row : AccountRow)
    (rotated : row = store.row ∨ row = rotateUserApiKey store.row click)
    (new : ClickPhase) (holds : holdsToken new)
    (own : ClickFacts expiry ((store.withRow row).moveClick click new) click new)
    (holder : OneHolder ((store.withRow row).moveClick click new))
    : LinkRelations expiry ((store.withRow row).moveClick click new) := by
  refine relations.moveHolder new holder rfl (relations.alone found rfl) ?_ own ?_
  · rcases rotated with rfl | rfl
    · exact relations.stored
    · exact relations.stored
  · exact fun free => absurd holds free

theorem LinkRelations.show (relations : LinkRelations expiry store)
    (found : store.clicks click = some (.rotated token))
    (holder : OneHolder
      { store.moveClick click .shown with shown := store.shown ++ [(token, click)] })
    : LinkRelations expiry
        { store.moveClick click .shown with shown := store.shown ++ [(token, click)] } := by
  obtain ⟨verified, _⟩ := relations.held click _ found rfl
  obtain ⟨keys, _⟩ := relations.facts click _ found
  refine relations.moveHolder .shown holder rfl (relations.alone found rfl) relations.stored
    trivial ?_
  refine fun _ => .inr ⟨verified, (token, click), ?_, keys⟩
  exact List.mem_append_right _ (List.mem_singleton_self _)

theorem LinkRelations.restore (relations : LinkRelations expiry store)
    (found : store.clicks click = some (.rotationFailed token expiresAt))
    (room : store.row.verificationToken = none ∨ store.row.verificationToken = some token)
    (holder : OneHolder
      ((store.withRow (restoreVerificationToken store.row token expiresAt)).moveClick click
        verificationFailed))
    : LinkRelations expiry
        ((store.withRow (restoreVerificationToken store.row token expiresAt)).moveClick click
          verificationFailed) := by
  obtain ⟨own, place⟩ := relations.facts click _ found
  have newest : token = store.newest := by
    rcases place with stored | ⟨_, same⟩
    · rcases room with absent | present
      · rw [absent] at stored
        cases stored
      · exact (relations.stored token present).1
    · exact same
  refine relations.moveHolder _ holder rfl (relations.alone found rfl) ?_ trivial ?_
  · intro other named
    have same : token = other := Option.some.inj named
    subst same
    exact ⟨newest, own⟩
  · refine fun _ => .inl ⟨rfl, congrArg some newest, ?_⟩
    change expiresAt.all _ = true
    rcases own with rfl | rfl
    · rfl
    · simp [LinkStore.moveClick, LinkStore.withRow, newest]

theorem LinkRelations.advanceClick (relations : LinkRelations expiry store) {phase : ClickPhase}
    (found : store.clicks click = some phase)
    (safe : HandsOver store (.advanceClick click now fault))
    : LinkRelations expiry (advanceClick store click now fault phase) := by
  simp only [HandsOver, found] at safe
  have holder : OneHolder (Model.Verification.advanceClick store click now fault phase) :=
    relations.toOneHolder.advanceClick found
  have free : ∀ new, ¬ holdsToken phase → ¬ holdsToken new → ClickFacts expiry store click new →
      LinkRelations expiry (store.moveClick click new) := by
    intro new before after own
    refine relations.moveFree new ?_ after own
    intro old oldFound
    rw [found] at oldFound
    cases oldFound
    exact before
  cases phase with
  | started token =>
      cases fault with
      | none =>
          exact free _ (by simp [holdsToken]) (by simp [holdsToken])
            (relations.ownExpiry_select token)
      | before reason => exact free _ (by simp [holdsToken]) (by decide) trivial
      | after reason => exact free _ (by simp [holdsToken]) (by decide) trivial
  | selected token expiresAt =>
      have own := relations.facts click _ found
      simp only [Model.Verification.advanceClick]
      cases taken : consumeVerificationToken store.row token now with
      | none =>
          cases fault with
          | none => exact free _ (by simp [holdsToken]) (by decide) trivial
          | before reason => exact free _ (by simp [holdsToken]) (by decide) trivial
          | after reason => exact free _ (by simp [holdsToken]) (by decide) trivial
      | some row =>
          cases fault with
          | none =>
              simp only [Model.Verification.advanceClick, taken] at holder
              exact relations.consume taken own holder
          | before reason => exact free _ (by simp [holdsToken]) (by decide) trivial
          | after reason => simp [taken, Fault.takesEffect] at safe
  | consumed token expiresAt =>
      obtain ⟨own, place⟩ := relations.facts click _ found
      cases fault with
      | none => exact relations.rotate found _ (.inr rfl) _ rfl ⟨⟨rfl, rfl⟩, place⟩ holder
      | before reason => exact relations.rotate found _ (.inl rfl) _ rfl ⟨own, place⟩ holder
      | after reason => exact relations.rotate found _ (.inr rfl) _ rfl ⟨own, place⟩ holder
  | rotationFailed token expiresAt =>
      simp only [Model.Verification.advanceClick, if_pos safe.1] at holder ⊢
      exact relations.restore found safe.2 holder
  | rotated token =>
      simp only at safe
      subst safe
      exact relations.show found holder
  | shown => exact relations
  | failed statusCode detail => exact relations
  | crashed => exact relations

theorem LinkRelations.advanceResend (relations : LinkRelations expiry store) (phase : ResendPhase)
    : LinkRelations expiry (advanceResend expiry store token fault phase) := by
  cases phase with
  | started =>
      cases fault with
      | none =>
          simp only [Model.Verification.advanceResend]
          split
          · exact relations.moveResend token _
          · exact relations.moveResend token _
      | before reason => exact relations.moveResend token _
      | after reason => exact relations.moveResend token _
  | unverified =>
      cases fault with
      | none => exact relations.issue token _
      | before reason => exact relations.moveResend token _
      | after reason => exact relations.issue token _
  | stored =>
      cases fault with
      | none => exact relations.issue token _
      | before reason => exact relations.moveResend token _
      | after reason => exact relations.issue token _
  | answered status => exact relations
  | failed => exact relations

theorem LinkRelations.step (relations : LinkRelations expiry store) {call : LinkCall}
    (safe : HandsOver store call)
    : LinkRelations expiry (linkStep expiry store call).2 := by
  cases call with
  | click click token =>
      simp only [linkStep]
      split
      · exact relations
      · rename_i unknown
        rw [Bool.not_eq_true, Option.isSome_eq_false_iff, Option.isNone_iff_eq_none] at unknown
        refine relations.moveFree _ ?_ (by simp [holdsToken]) trivial
        intro phase found
        rw [unknown] at found
        cases found
  | advanceClick click now fault =>
      simp only [linkStep]
      cases found : store.clicks click with
      | none => exact relations
      | some phase => exact relations.advanceClick found safe
  | crash click =>
      simp only [linkStep]
      cases found : store.clicks click with
      | none => exact relations
      | some phase =>
          simp only
          split
          · exact relations
          · exact relations.moveFree _ safe (by decide) trivial
  | resend token =>
      simp only [linkStep]
      split
      · exact relations
      · exact relations.moveResend token _
  | advanceResend token fault =>
      simp only [linkStep]
      cases store.resends token with
      | none => exact relations
      | some phase => exact relations.advanceResend phase

-- Exactness

/-- A step of a click that breaks nothing takes no token but its own out of the row. -/
theorem keepsNewest_of_handsOver {call : LinkCall} (safe : HandsOver store call)
    : KeepsNewest store (linkStep expiry store call).2 call := by
  cases call with
  | click click token => trivial
  | crash click => trivial
  | resend token => trivial
  | advanceResend token fault => trivial
  | advanceClick click now fault =>
      intro phase found other stored
      simp only [HandsOver, found] at safe
      simp only [linkStep, found]
      cases phase with
      | started token =>
          cases fault with
          | none => exact stored
          | before reason => exact stored
          | after reason => exact stored
      | selected token expiresAt =>
          simp only [Model.Verification.advanceClick]
          cases taken : consumeVerificationToken store.row token now with
          | none =>
              cases fault with
              | none => exact stored
              | before reason => exact stored
              | after reason => exact stored
          | some row =>
              have own := (consumeVerificationToken_eq_some taken).1
              rw [own] at stored
              exact absurd stored other
      | consumed token expiresAt =>
          cases fault with
          | none => exact stored
          | before reason => exact stored
          | after reason => exact stored
      | rotationFailed token expiresAt =>
          rcases safe.2 with absent | present
          · rw [absent] at stored
            cases stored
          · rw [present] at stored
            exact absurd stored other
      | rotated token =>
          cases fault with
          | none => exact stored
          | before reason => exact stored
          | after reason => exact stored
      | shown => exact stored
      | failed statusCode detail => exact stored
      | crashed => exact stored

theorem LinkRelations.linksKept (relations : LinkRelations expiry store) {call : LinkCall}
    (safe : HandsOver store call)
    : LinksKept expiry store call (linkStep expiry store call).2 := by
  have after := relations.step safe
  refine ⟨?_, ?_, keepsNewest_of_handsOver safe⟩
  · intro token
    exact Nat.le_trans (List.length_filter_le _ _) after.shown_le
  · exact fun _ free => after.settled free

theorem not_holds_of_endedBadly {phase : ClickPhase} (ended : endedBadly phase)
    : ¬ holdsToken phase := by
  cases phase with
  | failed statusCode detail => simp [holdsToken]
  | crashed => simp [holdsToken]
  | started _ | selected _ _ | consumed _ _ | rotated _ | rotationFailed _ _ | shown => cases ended

theorem not_linksKept_of_keyless {call : LinkCall} {phase : ClickPhase}
    (clicks : next.clicks = Function.update store.clicks click (some phase))
    (ended : endedBadly phase)
    (alone : ∀ other phase, other ≠ click → store.clicks other = some phase → ¬ holdsToken phase)
    (lost : ¬ NewestUsable expiry next) (none_ : next.shown = [])
    : ¬ LinksKept expiry store call next := by
  intro kept
  have here : next.clicks click = some phase := by rw [clicks, Function.update_self]
  have free : ∀ other otherPhase, next.clicks other = some otherPhase →
      ¬ holdsToken otherPhase := by
    intro other otherPhase found
    rcases clicks_cases clicks found with ⟨_, rfl⟩ | ⟨differs, old⟩
    · exact not_holds_of_endedBadly ended
    · exact alone other otherPhase differs old
  rcases kept.recoverable ⟨click, phase, here, ended⟩ free with usable | shown
  · exact lost usable
  · obtain ⟨key, mem, _⟩ := shown.works
    rw [none_] at mem
    cases mem

theorem not_usable_of_verified (verified : next.row.emailVerified = true)
    : ¬ NewestUsable expiry next := by
  intro usable
  have unverified := usable.unverified
  rw [verified] at unverified
  cases unverified

theorem LinkRelations.handsOver_advanceClick (relations : LinkRelations expiry store)
    (kept : LinksKept expiry store (.advanceClick click now fault)
      (linkStep expiry store (.advanceClick click now fault)).2)
    : HandsOver store (.advanceClick click now fault) := by
  simp only [HandsOver]
  simp only [linkStep] at kept
  cases found : store.clicks click with
  | none => trivial
  | some phase =>
      rw [found] at kept
      cases phase with
      | started token => trivial
      | consumed token expiresAt => trivial
      | shown => trivial
      | failed statusCode detail => trivial
      | crashed => trivial
      | selected token expiresAt =>
          cases taken : consumeVerificationToken store.row token now with
          | none => exact .inl taken
          | some row =>
              cases fault with
              | none => exact .inr (.inl rfl)
              | before reason => exact .inr (.inr rfl)
              | after reason =>
                  obtain ⟨_, unverified, verified, _⟩ := consumeVerificationToken_eq_some taken
                  obtain ⟨free, none_⟩ := relations.unverified unverified
                  simp only [Model.Verification.advanceClick, taken] at kept
                  refine absurd kept (not_linksKept_of_keyless rfl rfl
                    (fun other phase _ otherFound => free other phase otherFound) ?_ none_)
                  exact not_usable_of_verified verified
      | rotated token =>
          obtain ⟨verified, none_⟩ := relations.held click _ found rfl
          have broken : ¬ LinksKept expiry store (.advanceClick click now fault)
              (store.moveClick click internalError) :=
            not_linksKept_of_keyless rfl rfl (relations.alone found rfl)
              (not_usable_of_verified verified) none_
          cases fault with
          | none => rfl
          | before reason => exact absurd kept broken
          | after reason => exact absurd kept broken
      | rotationFailed token expiresAt =>
          obtain ⟨verified, none_⟩ := relations.held click _ found rfl
          simp only [Model.Verification.advanceClick] at kept
          by_cases effect : fault.takesEffect
          · rw [if_pos effect] at kept
            refine ⟨effect, ?_⟩
            cases stored : store.row.verificationToken with
            | none => exact .inl rfl
            | some other =>
                right
                by_contra differs
                have newest := (relations.stored other stored).1
                refine absurd kept (not_linksKept_of_keyless rfl rfl
                  (relations.alone found rfl) ?_ none_)
                intro usable
                have same : some token = some store.newest := usable.stored
                rw [same, newest] at differs
                exact differs rfl
          · rw [if_neg effect] at kept
            exact absurd kept (not_linksKept_of_keyless rfl rfl
              (relations.alone found rfl) (not_usable_of_verified verified) none_)

theorem LinkRelations.linksKept_iff (relations : LinkRelations expiry store) (call : LinkCall)
    : LinksKept expiry store call (linkStep expiry store call).2 ↔ HandsOver store call := by
  refine ⟨?_, relations.linksKept⟩
  intro kept
  cases call with
  | click click token => trivial
  | resend token => trivial
  | advanceResend token fault => trivial
  | advanceClick click now fault => exact relations.handsOver_advanceClick kept
  | crash click =>
      intro phase found holds
      obtain ⟨verified, none_⟩ := relations.held click phase found holds
      have going : phase.hasEnded = false := by
        cases phase <;> first | rfl | cases holds
      simp only [linkStep, found, going, Bool.false_eq_true, if_false] at kept
      have broken : ¬ LinksKept expiry store (.crash click) (store.moveClick click .crashed) :=
        not_linksKept_of_keyless rfl rfl (relations.alone found holds)
          (not_usable_of_verified verified) none_
      exact broken kept

-- Runs

/-- An account after its signup: not verified, with its first link, and nobody has clicked or asked.
-/
structure SignedUp (expiry : ℕ → ℕ) (store : LinkStore) : Prop where
  unverified : store.row.emailVerified = false
  token : store.row.verificationToken = some store.newest
  expiresAt : store.row.verificationTokenExpiresAt = some (expiry store.newest)
  noKey : store.shown = []
  noClick : ∀ click, store.clicks click = none

theorem SignedUp.oneHolder (signed : SignedUp expiry store) : OneHolder store := by
  refine ⟨?_, ?_, .inl signed.noKey⟩
  · intro click other phase otherPhase found
    rw [signed.noClick] at found
    cases found
  · intro click phase found
    rw [signed.noClick] at found
    cases found

theorem SignedUp.relations (signed : SignedUp expiry store) : LinkRelations expiry store := by
  refine ⟨signed.oneHolder, ?_, ?_, ?_⟩
  · intro token named
    rw [signed.token] at named
    cases named
    exact ⟨rfl, .inr signed.expiresAt⟩
  · intro click phase found
    rw [signed.noClick] at found
    cases found
  · intro _
    refine .inl ⟨signed.unverified, signed.token, ?_⟩
    simp [signed.expiresAt]

/-- For every interleaving of clicks and resends, with exceptions and crashes, each token hands out
at most one key, an account is usable after a click that ended badly, and no click replaces a newer
token, exactly when no click stops between the consumption of its token and its answer, except after
a restore, and no restore finds a newer token.
-/
theorem links_kept_iff (expiry : ℕ → ℕ) (store : LinkStore) (calls : List LinkCall)
    (signed : SignedUp expiry store)
    : (∀ visit ∈ visits (linkStep expiry) store calls,
        LinksKept expiry visit.before visit.call visit.after)
      ↔ ∀ visit ∈ visits (linkStep expiry) store calls, HandsOver visit.before visit.call := by
  have exact_ : ∀ current call, LinkRelations expiry current → True →
      (LinksKept expiry current call (linkStep expiry current call).2 ↔ HandsOver current call) :=
    fun _ call relations _ => relations.linksKept_iff call
  have preserved : ∀ current call, LinkRelations expiry current → True → HandsOver current call →
      LinkRelations expiry (linkStep expiry current call).2 :=
    fun _ _ relations _ safe => relations.step safe
  exact throughout_iff exact_ preserved signed.relations (fun _ _ => trivial)

def dayExpiry (token : ℕ) : ℕ := token + 24

def newAccount : LinkStore :=
  { row := ⟨false, some 0, some 24, none, none⟩
    newest := 0
    shown := []
    clicks := fun _ => none
    resends := fun _ => none }

def crashedClick : List LinkCall :=
  [.click 1 0, .advanceClick 1 1 .none, .advanceClick 1 1 .none, .crash 1]

/-- A click whose rotation fails after a resend that had read the row before. -/
def overtakenClick : List LinkCall :=
  [.resend 7, .advanceResend 7 .none, .click 1 0, .advanceClick 1 1 .none, .advanceClick 1 1 .none,
    .advanceResend 7 .none, .advanceResend 7 .none, .advanceClick 1 1 (.before "rotation"),
    .advanceClick 1 1 .none]

/-- An account with its first link is one after its signup. -/
theorem links_kept_iff_newAccount
    : (∀ visit ∈ visits (linkStep dayExpiry) newAccount crashedClick,
        LinksKept dayExpiry visit.before visit.call visit.after)
      ↔ ∀ visit ∈ visits (linkStep dayExpiry) newAccount crashedClick,
          HandsOver visit.before visit.call :=
  links_kept_iff dayExpiry newAccount crashedClick ⟨rfl, rfl, rfl, rfl, fun _ => rfl⟩

/-- A crash leaves a verified account without a key or a token, and a failed click puts its own
token in the place of one that a resend has sent since.
-/
theorem crash_leaves_keyless
    : (finalState (linkStep dayExpiry) newAccount crashedClick).row = ⟨true, none, none, none, none⟩
      ∧ (finalState (linkStep dayExpiry) newAccount overtakenClick).row.verificationToken = some 0
      ∧ (finalState (linkStep dayExpiry) newAccount overtakenClick).newest = 7
      ∧ ¬ (∀ visit ∈ visits (linkStep dayExpiry) newAccount crashedClick,
          LinksKept dayExpiry visit.before visit.call visit.after) := by
  refine ⟨by decide, by decide, by decide, ?_⟩
  intro kept
  simp only [crashedClick, visits, List.forall_mem_cons] at kept
  obtain ⟨_, _, _, last, _⟩ := kept
  refine absurd last (not_linksKept_of_keyless rfl rfl ?_ (not_usable_of_verified rfl) rfl)
  intro other phase differs found
  change Function.update (Function.update (Function.update (fun _ => none) 1 _) 1 _) 1 _ other
    = some phase at found
  simp [Function.update_of_ne differs] at found

end RomaBridge.Properties
