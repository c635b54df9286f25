import RomaBridge.Foundation.Trace
import RomaBridge.Model.ApiKeys
import Mathlib.Algebra.Field.Rat
import Mathlib.Algebra.Order.Nonneg.Field
import Mathlib.Algebra.Order.Ring.Cast

/-! The keys that a manager accepts, and those it gave out. A key is cut at its last underscore, which
can be one of its random suffix, the suffix is not compared, and a rotated key stays accepted.
-/

namespace RomaBridge.Properties

open RomaBridge.Foundation RomaBridge.Model.ApiKeys

variable {later clock : ℚ} {stored : StoredKey} {manager : APIKeyManager}

/-- A key that was given out, whether `revoke_key` was called with it, and whether `rotate_key` replaced
it.
-/
structure IssuedKey where
  orgId : String
  projectId : String
  permissions : List String
  expiresAt : Option ℚ
  number : ℕ
  suffix : UrlsafeToken
  revoked : Bool := false
  replaced : Bool := false

def IssuedKey.keyId (issued : IssuedKey) : String :=
  makeKeyId issued.orgId issued.projectId issued.number

def IssuedKey.key (issued : IssuedKey) : String := makeKey issued.keyId issued.suffix.text

def IssuedKey.info (issued : IssuedKey) : KeyInfo :=
  ⟨issued.orgId, issued.projectId, issued.permissions⟩

def IssuedKey.live (issued : IssuedKey) (now : ℚ) : Bool :=
  !issued.revoked && !issued.replaced
    && match issued.expiresAt with
      | some expiresAt => now ≤ expiresAt
      | none => true

/-- A manager with the keys it gave out and the time of its last call. -/
structure KeyHistory where
  manager : APIKeyManager
  issued : List IssuedKey
  clock : ℚ

def KeyHistory.new (start : ℚ) : KeyHistory := ⟨.new, [], start⟩

/-- A call, some time after the one before it. -/
inductive KeyCall where
  | create (orgId projectId : String) (permissions : List String) (expiresIn : ℤ)
      (suffix : UrlsafeToken) (wait : ℚ≥0)
  | validate (key : String) (wait : ℚ≥0)
  | revoke (key : String) (wait : ℚ≥0)
  | rotate (oldKey : String) (expiresIn : ℤ) (suffix : UrlsafeToken) (wait : ℚ≥0)

inductive KeyReply where
  | created (key : String)
  | validated (info : Option KeyInfo)
  | revoked (found : Bool)
  | rotated (key : Option String)

def KeyHistory.nextKey (history : KeyHistory) (info : KeyInfo) (expiresIn : ℤ)
    (suffix : UrlsafeToken) (now : ℚ) : IssuedKey where
  orgId := info.orgId
  projectId := info.projectId
  permissions := info.permissions
  expiresAt := if expiresIn ≠ 0 then some (now + expiresIn) else none
  number := history.manager.counter + 1
  suffix := suffix

def KeyHistory.step (history : KeyHistory) : KeyCall → KeyReply × KeyHistory
  | .create orgId projectId permissions expiresIn suffix wait =>
      let now := history.clock + wait
      let (key, manager) :=
        history.manager.createKey orgId projectId permissions expiresIn suffix now
      let next := history.nextKey ⟨orgId, projectId, permissions⟩ expiresIn suffix now
      (.created key, ⟨manager, history.issued ++ [next], now⟩)
  | .validate key wait =>
      let now := history.clock + wait
      (.validated (history.manager.validateKey key now), { history with clock := now })
  | .revoke key wait =>
      let (found, manager) := history.manager.revokeKey key
      let issued := history.issued.map fun issued =>
        if issued.key = key then { issued with revoked := true } else issued
      (.revoked found, ⟨manager, issued, history.clock + wait⟩)
  | .rotate oldKey expiresIn suffix wait =>
      let now := history.clock + wait
      let (key, manager) := history.manager.rotateKey oldKey expiresIn suffix now
      match history.manager.validateKey oldKey now with
      | none => (.rotated key, ⟨manager, history.issued, now⟩)
      | some info =>
          let issued := history.issued.map fun issued =>
            if issued.key = oldKey then { issued with replaced := true } else issued
          (.rotated key, ⟨manager, issued ++ [history.nextKey info expiresIn suffix now], now⟩)

def KeyHistory.opens (history : KeyHistory) (key : String) (now : ℚ) : Option KeyInfo :=
  (history.issued.find? (fun issued => issued.key = key && issued.live now)).map IssuedKey.info

def OthersKept (before after : KeyHistory) (key : String) : Prop :=
  ∀ issued ∈ before.issued, issued.key ≠ key → ∀ later, after.clock ≤ later →
    after.manager.validateKey issued.key later = before.manager.validateKey issued.key later

/-- Only issued keys open the door, for what they were created with, and only the key in hand is revoked
or rotated.
-/
def OnlyIssuedKeys (visit : Visit KeyHistory KeyCall KeyReply) : Prop :=
  match visit.call with
  | .create _ _ _ _ _ _ => True
  | .validate key _ => visit.reply = .validated (visit.before.opens key visit.after.clock)
  | .revoke key _ => OthersKept visit.before visit.after key
  | .rotate oldKey _ _ _ =>
      visit.before.manager.validateKey oldKey visit.after.clock
        = visit.before.opens oldKey visit.after.clock
      ∧ OthersKept visit.before visit.after oldKey

/-- A string is the key it is taken for, which was not rotated and has no expiry at zero behind it, if
that one is accepted; and if it is a live key, its suffix has no underscore.
-/
def PresentedWhole (history : KeyHistory) (key : String) (now : ℚ) : Prop :=
  (∀ stored, history.manager.lookup key = some stored → stored.accepted now = true →
    ∃ issued ∈ history.issued, issued.key = key ∧ issued.keyId = stored.keyId
      ∧ issued.replaced = false ∧ (issued.expiresAt = some 0 → now ≤ 0))
  ∧ ∀ issued ∈ history.issued, issued.key = key → issued.live now = true →
    '_' ∉ issued.suffix.text.toList

def NoOtherKeyAt (history : KeyHistory) (key keyId : String) : Prop :=
  ∀ issued ∈ history.issued, issued.key ≠ key → lookupId issued.key ≠ some keyId

/-- What a call may present: a string that is the key it is taken for; to `revoke_key`, one whose id no
other key is taken for while it is accepted; and a rotation gives a new id that no other key is taken
for, unless its key is refused from the start.
-/
def KeyCallAllowed (history : KeyHistory) : KeyCall → Prop
  | .create _ _ _ _ _ _ => True
  | .validate key wait => PresentedWhole history key (history.clock + wait)
  | .revoke key wait =>
      ∀ stored, history.manager.lookup key = some stored →
        stored.accepted (history.clock + wait) = true → NoOtherKeyAt history key stored.keyId
  | .rotate oldKey expiresIn suffix wait =>
      let now := history.clock + wait
      PresentedWhole history oldKey now
      ∧ ∀ info, history.manager.validateKey oldKey now = some info →
          let next := history.nextKey info expiresIn suffix now
          (expiresIn < 0 → now + expiresIn = 0) → NoOtherKeyAt history oldKey next.keyId

-- Strings

theorem underscore_notMem_toString (number : ℕ) : '_' ∉ (toString number).toList := by
  rw [Nat.toString_eq_ofList_toDigits, String.toList_ofList]
  exact Nat.underscore_not_in_toDigits

theorem toList_makeKeyId (orgId projectId : String) (number : ℕ)
    : (makeKeyId orgId projectId number).toList
      = ("kid_" ++ orgId ++ "_" ++ projectId).toList ++ '_' :: (toString number).toList := by
  simp [makeKeyId]

theorem makeKeyId_number {orgId projectId orgId' projectId' : String} {number number' : ℕ}
    (same : makeKeyId orgId projectId number = makeKeyId orgId' projectId' number')
    : number = number' := by
  have texts := congrArg String.toList same
  rw [toList_makeKeyId, toList_makeKeyId, append_sep_inj_right
    (underscore_notMem_toString number) (underscore_notMem_toString number')] at texts
  have digits := texts.2
  rw [Nat.toString_eq_ofList_toDigits, Nat.toString_eq_ofList_toDigits, String.toList_ofList,
    String.toList_ofList] at digits
  rw [← Nat.ofDigitChars_ten_toDigits (n := number), digits, Nat.ofDigitChars_ten_toDigits]

theorem makeKeyId_ne_longer {orgId projectId : String} {number number' : ℕ} {front : List Char}
    : (makeKeyId orgId projectId number').toList
      ≠ (makeKeyId orgId projectId number).toList ++ '_' :: front := by
  intro same
  rw [toList_makeKeyId, toList_makeKeyId, List.append_assoc, List.append_cancel_left_eq,
    List.cons_append, List.cons.injEq] at same
  apply underscore_notMem_toString number'
  rw [same.2]
  simp

theorem lookupId_makeKey (keyId suffix : String)
    : lookupId (makeKey keyId suffix)
      = some (String.ofList (beforeLast '_' (keyId.toList ++ '_' :: suffix.toList))) := by
  have cut : (makeKey keyId suffix).toList
      = keyPrefix.toList ++ (keyId.toList ++ '_' :: suffix.toList) := by
    simp [makeKey]
  unfold lookupId
  rw [cut, if_pos (by simp), List.drop_left]

theorem lookupId_clean {keyId suffix : String} (clean : '_' ∉ suffix.toList)
    : lookupId (makeKey keyId suffix) = some keyId := by
  rw [lookupId_makeKey, beforeLast_append clean, String.ofList_toList]

theorem lookupId_unclean {keyId suffix : String} (unclean : '_' ∈ suffix.toList)
    : ∃ front, lookupId (makeKey keyId suffix)
        = some (String.ofList (keyId.toList ++ '_' :: front)) := by
  obtain ⟨front, back, split, lacks⟩ := exists_last_sep unclean
  refine ⟨front, ?_⟩
  have regroup : keyId.toList ++ '_' :: (front ++ '_' :: back)
      = (keyId.toList ++ '_' :: front) ++ '_' :: back := by simp
  rw [lookupId_makeKey, split, regroup, beforeLast_append lacks]

theorem makeKey_keyId {keyId keyId' : String} {suffix suffix' : UrlsafeToken}
    (same : makeKey keyId suffix.text = makeKey keyId' suffix'.text) : keyId = keyId' := by
  have texts := congrArg String.toList same
  simp only [makeKey, String.toList_append] at texts
  have fronts := List.append_inj_left' texts (by rw [suffix.length, suffix'.length])
  exact String.toList_inj.mp (by simpa using fronts)

-- The keys and the table

def PastExpiry (expiresAt : Option ℚ) (now : ℚ) : Prop :=
  ∃ time, expiresAt = some time ∧ time ≠ 0 ∧ time < now

/-- The row of an issued key. A row that is revoked belongs to a revoked or expired key, and a revoked
key has a revoked row, if its suffix has no underscore.
-/
structure RowOf (clock : ℚ) (issued : IssuedKey) (stored : StoredKey) : Prop where
  keyId : stored.keyId = issued.keyId
  info : stored.info = issued.info
  expiresAt : stored.expiresAt = issued.expiresAt
  revoked : '_' ∉ issued.suffix.text.toList → stored.revoked = true →
    issued.revoked = true ∨ PastExpiry issued.expiresAt clock
  kept : '_' ∉ issued.suffix.text.toList → issued.revoked = true → stored.revoked = true

/-- The table has a row for each issued key, and no others; their numbers differ. -/
structure KeysKnown (history : KeyHistory) : Prop where
  rows : ∀ issued ∈ history.issued, ∃ stored,
    history.manager.keys issued.keyId = some stored ∧ RowOf history.clock issued stored
  issued : ∀ keyId stored, history.manager.keys keyId = some stored →
    ∃ issued ∈ history.issued, issued.keyId = keyId
  numbered : ∀ issued ∈ history.issued, issued.number ≤ history.manager.counter
  distinct : ∀ issued ∈ history.issued, ∀ other ∈ history.issued,
    issued.number = other.number → issued = other

variable {history : KeyHistory} {key : String} {now : ℚ}

theorem keysKnown_new (start : ℚ) : KeysKnown (.new start) where
  rows := fun _ member => absurd member List.not_mem_nil
  issued := fun _ _ found => by cases found
  numbered := fun _ member => absurd member List.not_mem_nil
  distinct := fun _ member => absurd member List.not_mem_nil

theorem PastExpiry.mono {expiresAt : Option ℚ} (past : PastExpiry expiresAt now)
    (order : now ≤ later) : PastExpiry expiresAt later := by
  obtain ⟨time, given, nonzero, before⟩ := past
  exact ⟨time, given, nonzero, lt_of_lt_of_le before order⟩

theorem accepted_false_iff
    : stored.accepted now = false ↔ stored.revoked = true ∨ PastExpiry stored.expiresAt now := by
  unfold StoredKey.accepted PastExpiry
  cases stored.expiresAt with
  | none => simp
  | some time => cases stored.revoked <;> simp [not_le]

theorem live_iff {issued : IssuedKey}
    : issued.live now = true ↔ issued.revoked = false ∧ issued.replaced = false
        ∧ ∀ time, issued.expiresAt = some time → now ≤ time := by
  unfold IssuedKey.live
  cases issued.expiresAt with
  | none => simp
  | some time => simp [and_assoc]

theorem le_add_wait (clock : ℚ) (wait : ℚ≥0) : clock ≤ clock + wait :=
  le_add_of_nonneg_right wait.coe_nonneg

theorem KeysKnown.key_inj (known : KeysKnown history) {issued other : IssuedKey}
    (member : issued ∈ history.issued) (member' : other ∈ history.issued)
    (same : issued.key = other.key) : issued = other :=
  known.distinct issued member other member' (makeKeyId_number (makeKey_keyId same))

theorem KeysKnown.keyId_inj (known : KeysKnown history) {issued other : IssuedKey}
    (member : issued ∈ history.issued) (member' : other ∈ history.issued)
    (same : issued.keyId = other.keyId) : issued = other :=
  known.distinct issued member other member' (makeKeyId_number same)

theorem KeysKnown.opens_eq_some (known : KeysKnown history) {issued : IssuedKey}
    (member : issued ∈ history.issued) (live : issued.live now = true)
    : history.opens issued.key now = some issued.info := by
  unfold KeyHistory.opens
  cases found : history.issued.find? (fun other => other.key = issued.key && other.live now) with
  | none =>
      have refused := List.find?_eq_none.mp found issued member
      simp [live] at refused
  | some other =>
      have holds := List.find?_some found
      simp only [Bool.and_eq_true, decide_eq_true_eq] at holds
      rw [known.key_inj (List.mem_of_find?_eq_some found) member holds.1]
      rfl

theorem exists_of_opens {info : KeyInfo} (opens : history.opens key now = some info)
    : ∃ issued ∈ history.issued, issued.key = key ∧ issued.live now = true
      ∧ issued.info = info := by
  obtain ⟨issued, found, rfl⟩ := Option.map_eq_some_iff.mp opens
  have holds := List.find?_some found
  simp only [Bool.and_eq_true, decide_eq_true_eq] at holds
  exact ⟨issued, List.mem_of_find?_eq_some found, holds.1, holds.2, rfl⟩

theorem KeysKnown.of_lookup (known : KeysKnown history)
    (found : history.manager.lookup key = some stored)
    : ∃ issued ∈ history.issued, lookupId key = some issued.keyId
      ∧ history.manager.keys issued.keyId = some stored
      ∧ RowOf history.clock issued stored := by
  obtain ⟨keyId, cut, there⟩ := Option.bind_eq_some_iff.mp found
  obtain ⟨issued, member, rfl⟩ := known.issued keyId stored there
  obtain ⟨row, there', rowOf⟩ := known.rows issued member
  obtain rfl : row = stored := Option.some.inj (there'.symm.trans there)
  exact ⟨issued, member, cut, there, rowOf⟩

theorem KeysKnown.own_of_info (known : KeysKnown history) {issued other : IssuedKey}
    (member : issued ∈ history.issued) (member' : other ∈ history.issued)
    (cut : lookupId issued.key = some other.keyId) (same : other.info = issued.info)
    : other = issued ∧ '_' ∉ issued.suffix.text.toList := by
  by_cases clean : '_' ∈ issued.suffix.text.toList
  · obtain ⟨front, longer⟩ := @lookupId_unclean issued.keyId _ clean
    rw [IssuedKey.key, longer] at cut
    have texts := congrArg String.toList (Option.some.inj cut)
    rw [String.toList_ofList] at texts
    simp only [IssuedKey.info, KeyInfo.mk.injEq] at same
    unfold IssuedKey.keyId at texts
    rw [same.1, same.2.1] at texts
    exact absurd texts.symm makeKeyId_ne_longer
  · rw [IssuedKey.key, lookupId_clean clean] at cut
    exact ⟨(known.keyId_inj member member' (Option.some.inj cut)).symm, clean⟩

-- Validation

theorem validateKey_eq_some_iff {info : KeyInfo}
    : manager.validateKey key now = some info
      ↔ ∃ stored, manager.lookup key = some stored ∧ stored.accepted now = true
        ∧ stored.info = info := by
  unfold APIKeyManager.validateKey
  cases manager.lookup key with
  | none => simp
  | some stored => by_cases accepted : stored.accepted now = true <;> simp [accepted]

theorem RowOf.live {issued : IssuedKey} (row : RowOf clock issued stored)
    (clean : '_' ∉ issued.suffix.text.toList) (accepted : stored.accepted now = true)
    (unreplaced : issued.replaced = false) (zero : issued.expiresAt = some 0 → now ≤ 0) : issued.live now = true := by
  have unrefused : ¬ (stored.revoked = true ∨ PastExpiry stored.expiresAt now) := by
    rw [← accepted_false_iff, accepted]
    simp
  refine live_iff.mpr ⟨?_, unreplaced, fun time expires => ?_⟩
  · by_contra revoked
    exact unrefused (.inl (row.kept clean (by simpa using revoked)))
  · by_contra past
    by_cases never : time = 0
    · subst never
      exact past (zero expires)
    · exact unrefused (.inr ⟨time, row.expiresAt.trans expires, never, lt_of_not_ge past⟩)

theorem RowOf.accepted {issued : IssuedKey} (row : RowOf clock issued stored) (order : clock ≤ now)
    (clean : '_' ∉ issued.suffix.text.toList) (live : issued.live now = true)
    : stored.accepted now = true := by
  obtain ⟨unrevoked, -, unexpired⟩ := live_iff.mp live
  have current : ¬ PastExpiry issued.expiresAt now := by
    rintro ⟨time, given, -, before⟩
    exact absurd (unexpired time given) (not_le.mpr before)
  by_contra refused
  rw [Bool.not_eq_true, accepted_false_iff, row.expiresAt] at refused
  rcases refused with revoked | past
  · rcases row.revoked clean revoked with revoked' | past
    · rw [unrevoked] at revoked'
      cases revoked'
    · exact current (past.mono order)
  · exact current past

theorem KeysKnown.validate_iff (known : KeysKnown history) (order : history.clock ≤ now)
    : history.manager.validateKey key now = history.opens key now
      ↔ PresentedWhole history key now := by
  constructor
  · intro right
    have own : ∀ stored, history.manager.lookup key = some stored →
        stored.accepted now = true → ∃ issued ∈ history.issued, issued.key = key
          ∧ issued.live now = true ∧ issued.keyId = stored.keyId
          ∧ '_' ∉ issued.suffix.text.toList := by
      intro stored found accepted
      have opens := validateKey_eq_some_iff.mpr ⟨stored, found, accepted, rfl⟩
      rw [right] at opens
      obtain ⟨issued, member, rfl, live, same⟩ := exists_of_opens opens
      obtain ⟨other, member', cut, -, row⟩ := known.of_lookup found
      obtain ⟨rfl, clean⟩ := known.own_of_info member member' cut (by rw [same, row.info])
      exact ⟨other, member, rfl, live, row.keyId.symm, clean⟩
    constructor
    · intro stored found accepted
      obtain ⟨issued, member, whole, live, same, -⟩ := own stored found accepted
      obtain ⟨-, unreplaced, unexpired⟩ := live_iff.mp live
      exact ⟨issued, member, whole, same, unreplaced, fun zero => unexpired 0 zero⟩
    · rintro issued member rfl live
      have opens := known.opens_eq_some member live
      rw [← right] at opens
      obtain ⟨stored, found, accepted, -⟩ := validateKey_eq_some_iff.mp opens
      obtain ⟨other, member', whole, -, -, clean⟩ := own stored found accepted
      rwa [known.key_inj member' member whole] at clean
  · rintro ⟨taken, clean⟩
    cases accepts : history.manager.validateKey key now with
    | some info =>
        obtain ⟨stored, found, accepted, rfl⟩ := validateKey_eq_some_iff.mp accepts
        obtain ⟨issued, member, rfl, same, unreplaced, zero⟩ := taken stored found accepted
        obtain ⟨other, member', cut, -, row⟩ := known.of_lookup found
        obtain rfl := known.keyId_inj member member' (same.trans row.keyId)
        have suffix : '_' ∉ issued.suffix.text.toList :=
          (known.own_of_info member member cut rfl).2
        have live := row.live suffix accepted unreplaced zero
        rw [known.opens_eq_some member live, row.info]
    | none =>
        cases opens : history.opens key now with
        | none => rfl
        | some info =>
            obtain ⟨issued, member, rfl, live, -⟩ := exists_of_opens opens
            have suffix := clean issued member rfl live
            obtain ⟨stored, there, row⟩ := known.rows issued member
            have found : history.manager.lookup issued.key = some stored := by
              rw [APIKeyManager.lookup, IssuedKey.key, lookupId_clean suffix]
              exact there
            have accepted := row.accepted order suffix live
            rw [validateKey_eq_some_iff.mpr ⟨stored, found, accepted, rfl⟩] at accepts
            cases accepts

/-- A call that writes one row leaves the validity of the other keys exactly if it does not let in or shut
out a key that is taken for it.
-/
theorem othersKept_iff {after : KeyHistory} {keyId : String}
    (others : ∀ other, other ≠ keyId → after.manager.keys other = history.manager.keys other)
    {changes : Prop}
    (differs : changes → ∃ later, after.clock ≤ later ∧ ∀ other, lookupId other = some keyId →
      after.manager.validateKey other later ≠ history.manager.validateKey other later)
    (kept : ¬ changes → ∀ later, after.clock ≤ later → ∀ other, lookupId other = some keyId →
      after.manager.validateKey other later = history.manager.validateKey other later)
    : OthersKept history after key ↔ (changes → NoOtherKeyAt history key keyId) := by
  constructor
  · intro same changed issued member other cut
    obtain ⟨later, order, differ⟩ := differs changed
    exact differ issued.key cut (same issued member other later order)
  · intro apart issued member other later order
    by_cases cut : lookupId issued.key = some keyId
    · by_cases changed : changes
      · exact absurd cut (apart changed issued member other)
      · exact kept changed later order issued.key cut
    · have same : after.manager.lookup issued.key = history.manager.lookup issued.key := by
        unfold APIKeyManager.lookup
        cases taken : lookupId issued.key with
        | none => rfl
        | some taken' => exact others taken' (fun equal => cut (by rw [taken, equal]))
      unfold APIKeyManager.validateKey
      rw [same]

theorem lookup_of_id {keyId : String} (cut : lookupId key = some keyId)
    : manager.lookup key = manager.keys keyId := by
  rw [APIKeyManager.lookup, cut, Option.bind_some]

theorem validateKey_of_missing {keyId : String} (cut : lookupId key = some keyId)
    (missing : manager.keys keyId = none)
    : manager.validateKey key now = none := by
  unfold APIKeyManager.validateKey
  rw [lookup_of_id cut, missing]

theorem validateKey_of_refused {keyId : String} (cut : lookupId key = some keyId)
    (found : manager.keys keyId = some stored) (refused : stored.accepted now = false)
    : manager.validateKey key now = none := by
  unfold APIKeyManager.validateKey
  rw [lookup_of_id cut, found]
  exact if_neg (by rw [refused]; simp)

theorem validateKey_of_accepted {keyId : String} (cut : lookupId key = some keyId)
    (found : manager.keys keyId = some stored) (accepted : stored.accepted now = true)
    : manager.validateKey key now = some stored.info :=
  validateKey_eq_some_iff.mpr ⟨stored, (lookup_of_id cut).trans found, accepted, rfl⟩

theorem accepted_false_mono (refused : stored.accepted now = false) (order : now ≤ later) : stored.accepted later = false := by
  rw [accepted_false_iff] at refused ⊢
  exact refused.imp_right (·.mono order)

-- Calls

theorem revokeKey_of_lookup_none (missing : manager.lookup key = none)
    : manager.revokeKey key = (false, manager) := by
  unfold APIKeyManager.lookup at missing
  unfold APIKeyManager.revokeKey
  cases cut : lookupId key with
  | none => rfl
  | some keyId =>
      rw [cut] at missing
      have absent : manager.keys keyId = none := missing
      simp only [absent]

theorem revokeKey_of_lookup {keyId : String} (cut : lookupId key = some keyId)
    (found : manager.keys keyId = some stored)
    : manager.revokeKey key
      = (true, { manager with
          keys := Function.update manager.keys keyId (some { stored with revoked := true }) }) := by
  unfold APIKeyManager.revokeKey
  simp only [cut, found]

theorem KeysKnown.revoke_iff (known : KeysKnown history) {wait : ℚ≥0}
    : OthersKept history (history.step (.revoke key wait)).2 key
      ↔ KeyCallAllowed history (.revoke key wait) := by
  simp only [KeyHistory.step, KeyCallAllowed]
  cases found : history.manager.lookup key with
  | none =>
      rw [revokeKey_of_lookup_none found]
      refine iff_of_true ?_ (by simp)
      exact fun issued member other later order => rfl
  | some stored =>
      obtain ⟨issued, member, cut, there, row⟩ := known.of_lookup found
      rw [revokeKey_of_lookup cut there]
      simp only [Option.some.injEq, forall_eq']
      rw [row.keyId]
      refine othersKept_iff (fun other differ => Function.update_of_ne differ _ _) ?_ ?_
      · intro accepted
        refine ⟨_, le_refl _, fun other cut' same => ?_⟩
        rw [validateKey_of_accepted cut' there accepted] at same
        have refused := same.symm.trans
          (validateKey_of_refused cut' (Function.update_self ..) (accepted_false_iff.mpr (.inl rfl)))
        cases refused
      · intro refused later order other cut'
        rw [validateKey_of_refused cut' there
          (accepted_false_mono (Bool.not_eq_true _ ▸ refused) order)]
        exact validateKey_of_refused cut' (Function.update_self ..)
          (accepted_false_iff.mpr (.inl rfl))

theorem KeysKnown.fresh (known : KeysKnown history) (info : KeyInfo) (expiresIn : ℤ)
    (suffix : UrlsafeToken)
    : history.manager.keys (history.nextKey info expiresIn suffix now).keyId = none := by
  cases found : history.manager.keys (history.nextKey info expiresIn suffix now).keyId with
  | none => rfl
  | some stored =>
      obtain ⟨issued, member, same⟩ := known.issued _ _ found
      have number : issued.number = history.manager.counter + 1 := makeKeyId_number same
      have bound := known.numbered issued member
      omega

def newRow (issued : IssuedKey) : StoredKey where
  keyId := issued.keyId
  orgId := issued.orgId
  projectId := issued.projectId
  permissions := issued.permissions
  expiresAt := issued.expiresAt
  revoked := false

theorem createKey_eq (info : KeyInfo) (expiresIn : ℤ) (suffix : UrlsafeToken)
    : history.manager.createKey info.orgId info.projectId info.permissions expiresIn suffix now
      = ((history.nextKey info expiresIn suffix now).key, {
          keys := Function.update history.manager.keys
            (history.nextKey info expiresIn suffix now).keyId
            (some (newRow (history.nextKey info expiresIn suffix now)))
          counter := history.manager.counter + 1 }) := rfl

theorem accepted_newRow (info : KeyInfo) (expiresIn : ℤ) (suffix : UrlsafeToken)
    : (newRow (history.nextKey info expiresIn suffix now)).accepted now = true
      ↔ (expiresIn < 0 → now + expiresIn = 0) := by
  by_cases never : expiresIn = 0
  · simp [newRow, KeyHistory.nextKey, StoredKey.accepted, never]
  · have accepted : (newRow (history.nextKey info expiresIn suffix now)).accepted now = true
        ↔ now + expiresIn = 0 ∨ 0 ≤ expiresIn := by
      simp [newRow, KeyHistory.nextKey, StoredKey.accepted, never]
    rw [accepted, ← not_lt, or_comm, or_iff_not_imp_left, not_not]

theorem KeysKnown.rotate_iff (known : KeysKnown history) {expiresIn : ℤ} {suffix : UrlsafeToken}
    {wait : ℚ≥0}
    : OthersKept history (history.step (.rotate key expiresIn suffix wait)).2 key
      ↔ ∀ info, history.manager.validateKey key (history.clock + wait) = some info →
          (expiresIn < 0 → history.clock + wait + expiresIn = 0) → NoOtherKeyAt history key
            (history.nextKey info expiresIn suffix (history.clock + wait)).keyId := by
  simp only [KeyHistory.step, APIKeyManager.rotateKey]
  cases accepts : history.manager.validateKey key (history.clock + wait) with
  | none =>
      refine iff_of_true ?_ (by simp)
      exact fun issued member other later order => rfl
  | some info =>
      simp only [Option.some.injEq, forall_eq']
      rw [createKey_eq]
      have fresh := @KeysKnown.fresh history (history.clock + wait) known info expiresIn suffix
      refine othersKept_iff (fun other differ => Function.update_of_ne differ _ _) ?_ ?_
      · intro accepted
        refine ⟨_, le_refl _, fun other cut same => ?_⟩
        rw [validateKey_of_missing cut fresh] at same
        have opened := same.symm.trans (validateKey_of_accepted cut (Function.update_self ..)
          ((accepted_newRow info expiresIn suffix).mpr accepted))
        cases opened
      · intro refused later order other cut
        rw [validateKey_of_missing cut fresh]
        refine validateKey_of_refused cut (Function.update_self ..) (accepted_false_mono ?_ order)
        rw [← Bool.not_eq_true, accepted_newRow]
        exact refused

theorem KeysKnown.mark (known : KeysKnown history) (mark : IssuedKey → IssuedKey)
    (same : ∀ issued, (mark issued).keyId = issued.keyId ∧ (mark issued).number = issued.number)
    (counter : manager.counter = history.manager.counter)
    (rows : ∀ issued ∈ history.issued, ∃ stored,
      manager.keys issued.keyId = some stored ∧ RowOf now (mark issued) stored)
    (sourced : ∀ keyId stored, manager.keys keyId = some stored →
      ∃ stored', history.manager.keys keyId = some stored')
    : KeysKnown ⟨manager, history.issued.map mark, now⟩ where
  rows := by
    intro marked member
    obtain ⟨issued, there, rfl⟩ := List.mem_map.mp member
    rw [(same issued).1]
    exact rows issued there
  issued := by
    intro keyId stored found
    obtain ⟨stored', found'⟩ := sourced keyId stored found
    obtain ⟨issued, member, rfl⟩ := known.issued keyId stored' found'
    exact ⟨mark issued, List.mem_map_of_mem member, (same issued).1⟩
  numbered := by
    intro marked member
    obtain ⟨issued, there, rfl⟩ := List.mem_map.mp member
    rw [(same issued).2, counter]
    exact known.numbered issued there
  distinct := by
    intro marked member other member' numbers
    obtain ⟨issued, there, rfl⟩ := List.mem_map.mp member
    obtain ⟨issued', there', rfl⟩ := List.mem_map.mp member'
    rw [(same issued).2, (same issued').2] at numbers
    rw [known.distinct issued there issued' there' numbers]

theorem KeysKnown.add (known : KeysKnown history) (info : KeyInfo) (expiresIn : ℤ)
    (suffix : UrlsafeToken)
    : KeysKnown {
        manager := {
          keys := Function.update history.manager.keys
            (history.nextKey info expiresIn suffix now).keyId
            (some (newRow (history.nextKey info expiresIn suffix now)))
          counter := history.manager.counter + 1 }
        issued := history.issued ++ [history.nextKey info expiresIn suffix now]
        clock := history.clock } := by
  have apart : ∀ issued ∈ history.issued,
      issued.keyId ≠ (history.nextKey info expiresIn suffix now).keyId := by
    intro issued member same
    obtain ⟨stored, found, -⟩ := known.rows issued member
    rw [same, known.fresh info expiresIn suffix] at found
    cases found
  constructor
  · intro issued member
    rcases List.mem_append.mp member with old | new
    · obtain ⟨stored, found, row⟩ := known.rows issued old
      exact ⟨stored, (Function.update_of_ne (apart issued old) _ _).trans found, row⟩
    · obtain rfl := List.mem_singleton.mp new
      refine ⟨_, Function.update_self .., rfl, rfl, rfl, fun _ revoked => ?_, fun _ revoked => ?_⟩
      · cases revoked
      · cases revoked
  · intro keyId stored found
    by_cases new : keyId = (history.nextKey info expiresIn suffix now).keyId
    · exact ⟨_, List.mem_append_right _ (List.mem_singleton_self _), new.symm⟩
    · obtain ⟨issued, member, same⟩ :=
        known.issued keyId stored ((Function.update_of_ne new _ _).symm.trans found)
      exact ⟨issued, List.mem_append_left _ member, same⟩
  · intro issued member
    rcases List.mem_append.mp member with old | new
    · exact Nat.le_succ_of_le (known.numbered issued old)
    · obtain rfl := List.mem_singleton.mp new
      exact Nat.le_refl _
  · intro issued member other member' numbers
    have older : ∀ issued ∈ history.issued,
        issued.number ≠ (history.nextKey info expiresIn suffix now).number := by
      intro issued member
      have bound := known.numbered issued member
      exact Nat.ne_of_lt (Nat.lt_succ_of_le bound)
    rcases List.mem_append.mp member with old | new <;>
      rcases List.mem_append.mp member' with old' | new'
    · exact known.distinct issued old other old' numbers
    · obtain rfl := List.mem_singleton.mp new'
      exact absurd numbers (older issued old)
    · obtain rfl := List.mem_singleton.mp new
      exact absurd numbers.symm (older other old')
    · rw [List.mem_singleton.mp new, List.mem_singleton.mp new']

theorem RowOf.mono {issued : IssuedKey} (row : RowOf clock issued stored) (order : clock ≤ later) : RowOf later issued stored where
  keyId := row.keyId
  info := row.info
  expiresAt := row.expiresAt
  revoked := fun clean revoked => (row.revoked clean revoked).imp_right (·.mono order)
  kept := row.kept

theorem KeysKnown.wait (known : KeysKnown history) (order : history.clock ≤ now)
    : KeysKnown { history with clock := now } where
  rows := by
    intro issued member
    obtain ⟨stored, found, row⟩ := known.rows issued member
    exact ⟨stored, found, row.mono order⟩
  issued := known.issued
  numbered := known.numbered
  distinct := known.distinct

theorem KeysKnown.replace (known : KeysKnown history) (key : String)
    : KeysKnown { history with
        issued := history.issued.map fun issued =>
          if issued.key = key then { issued with replaced := true } else issued } := by
  refine known.mark _ (fun issued => ?_) rfl (fun issued member => ?_)
    (fun keyId stored found => ⟨stored, found⟩)
  · split <;> exact ⟨rfl, rfl⟩
  · obtain ⟨stored, found, row⟩ := known.rows issued member
    refine ⟨stored, found, ?_⟩
    split
    · exact ⟨row.keyId, row.info, row.expiresAt, row.revoked, row.kept⟩
    · exact row

theorem RowOf.spared {issued : IssuedKey} (row : RowOf clock issued stored) (order : clock ≤ later)
    (other : lookupId key ≠ some issued.keyId)
    : RowOf later (if issued.key = key then { issued with revoked := true } else issued) stored := by
  split
  · rename_i whole
    refine ⟨row.keyId, row.info, row.expiresAt, fun _ _ => .inl rfl, fun clean _ => ?_⟩
    rw [← whole, IssuedKey.key, lookupId_clean clean] at other
    exact absurd rfl other
  · exact row.mono order

theorem RowOf.revokes {issued : IssuedKey} (row : RowOf clock issued stored) (order : clock ≤ later)
    (refused : issued.key ≠ key → '_' ∉ issued.suffix.text.toList → stored.accepted later = false)
    : RowOf later (if issued.key = key then { issued with revoked := true } else issued)
        { stored with revoked := true } := by
  split
  · exact ⟨row.keyId, row.info, row.expiresAt, fun _ _ => .inl rfl, fun _ _ => rfl⟩
  · rename_i other
    refine ⟨row.keyId, row.info, row.expiresAt, fun clean _ => ?_, fun _ _ => rfl⟩
    rcases accepted_false_iff.mp (refused other clean) with revoked | past
    · exact (row.revoked clean revoked).imp_right (·.mono order)
    · exact .inr (row.expiresAt ▸ past)

theorem KeysKnown.revoke (known : KeysKnown history) {wait : ℚ≥0}
    (allowed : KeyCallAllowed history (.revoke key wait))
    : KeysKnown (history.step (.revoke key wait)).2 := by
  have order := le_add_wait history.clock wait
  have same : ∀ issued : IssuedKey,
      (if issued.key = key then { issued with revoked := true } else issued).keyId = issued.keyId
      ∧ (if issued.key = key then { issued with revoked := true } else issued).number
        = issued.number := by
    intro issued
    split <;> exact ⟨rfl, rfl⟩
  simp only [KeyHistory.step]
  cases found : history.manager.lookup key with
  | none =>
      rw [revokeKey_of_lookup_none found]
      refine known.mark _ same rfl (fun issued member => ?_)
        (fun keyId stored found => ⟨stored, found⟩)
      obtain ⟨stored, there, row⟩ := known.rows issued member
      refine ⟨stored, there, row.spared order fun cut => ?_⟩
      rw [lookup_of_id cut, there] at found
      cases found
  | some stored =>
      obtain ⟨owner, member₀, cut, there, row₀⟩ := known.of_lookup found
      rw [revokeKey_of_lookup cut there]
      refine known.mark _ same rfl (fun issued member => ?_) (fun keyId row found => ?_)
      · by_cases own : issued.keyId = owner.keyId
        · obtain rfl := known.keyId_inj member member₀ own
          refine ⟨_, Function.update_self .., row₀.revokes order fun other clean => ?_⟩
          by_contra accepted
          refine allowed stored found (Bool.not_eq_false _ ▸ accepted) issued member other ?_
          rw [IssuedKey.key, lookupId_clean clean, row₀.keyId]
        · obtain ⟨row, there', rowOf⟩ := known.rows issued member
          refine ⟨row, (Function.update_of_ne own _ _).trans there',
            rowOf.spared order fun cut' => own ?_⟩
          exact Option.some.inj (cut'.symm.trans cut)
      · by_cases own : keyId = owner.keyId
        · exact ⟨stored, own ▸ there⟩
        · exact ⟨row, (Function.update_of_ne own _ _).symm.trans found⟩

theorem KeysKnown.step (known : KeysKnown history) {call : KeyCall}
    (allowed : KeyCallAllowed history call) : KeysKnown (history.step call).2 := by
  cases call with
  | create orgId projectId permissions expiresIn suffix wait =>
      exact (known.add ⟨orgId, projectId, permissions⟩ expiresIn suffix).wait (le_add_wait _ wait)
  | validate key wait => exact known.wait (le_add_wait _ wait)
  | revoke key wait => exact known.revoke allowed
  | rotate oldKey expiresIn suffix wait =>
      simp only [KeyHistory.step, APIKeyManager.rotateKey]
      cases accepts : history.manager.validateKey oldKey (history.clock + wait) with
      | none => exact known.wait (le_add_wait _ wait)
      | some info => exact ((known.replace oldKey).add info expiresIn suffix).wait (le_add_wait _ wait)

theorem KeysKnown.right_iff (known : KeysKnown history) (call : KeyCall)
    : OnlyIssuedKeys ⟨history, call, (history.step call).1, (history.step call).2⟩
      ↔ KeyCallAllowed history call := by
  cases call with
  | create orgId projectId permissions expiresIn suffix wait => exact Iff.rfl
  | validate key wait =>
      simp only [OnlyIssuedKeys, KeyHistory.step, KeyReply.validated.injEq]
      exact known.validate_iff (le_add_wait _ wait)
  | revoke key wait => exact known.revoke_iff
  | rotate oldKey expiresIn suffix wait =>
      have clock : (history.step (.rotate oldKey expiresIn suffix wait)).2.clock
          = history.clock + wait := by
        simp only [KeyHistory.step]
        split <;> rfl
      simp only [OnlyIssuedKeys, clock]
      exact and_congr (known.validate_iff (le_add_wait _ wait)) known.rotate_iff

/-- Over every sequence of calls, only issued keys open the door, exactly if every string that is
presented is the key it is taken for.
-/
theorem issued_keys_only_iff (start : ℚ) (calls : List KeyCall)
    : (∀ visit ∈ visits KeyHistory.step (.new start) calls, OnlyIssuedKeys visit)
      ↔ ∀ visit ∈ visits KeyHistory.step (.new start) calls,
          KeyCallAllowed visit.before visit.call :=
  @throughout_iff _ _ _ KeyHistory.step KeysKnown (fun _ _ => True) KeyCallAllowed
    OnlyIssuedKeys (fun _ call known _ => known.right_iff call)
    (fun _ _ known _ allowed => known.step allowed) _ calls (keysKnown_new start)
    (fun _ _ => trivial)

def cutText : String := "aaaaaaaaaaaaaaaaaaaaa_aaaaaaaaaaaaaaaaaaaaa"

theorem length_cutText : cutText.toList.length = 43 := by decide

theorem urlsafe_cutText : cutText.toList.all isUrlsafe = true := by decide

def cutSuffix : UrlsafeToken := ⟨cutText, length_cutText, urlsafe_cutText⟩

/-- A new key whose suffix has an underscore is not accepted. -/
theorem new_key_refused
    : ¬ ∀ visit ∈ visits KeyHistory.step (.new 0) [
        .create "org_acme" "proj_ml" ["job:execute"] 0 cutSuffix 0,
        .validate (makeKey (makeKeyId "org_acme" "proj_ml" 1) cutSuffix.text) 0],
        OnlyIssuedKeys visit := by
  intro right
  have known := @KeysKnown.step (.new 0) (keysKnown_new 0)
    (.create "org_acme" "proj_ml" ["job:execute"] 0 cutSuffix 0) trivial
  have validated := right _ (List.mem_cons_of_mem _ (List.mem_singleton_self _))
  have whole := ((known.right_iff _).mp validated).2 _ (List.mem_singleton_self _) rfl rfl
  exact whole (by decide)

end RomaBridge.Properties
