import RomaBridge.Model.KeyResolvers

/-! A tenant is resolved from its own key. Three resolvers compare digests; the one of the decisions
takes the key for a tenant id. `verify_api_key` returns the id without its surrounding whitespace,
and a registered key with an empty tenant passes for the tenant with the empty id. A rotation changes
both digests or none; afterwards the old key resolves to nothing but a static entry.
-/

namespace RomaBridge.Properties

open RomaBridge.Model (pyStrip)
open RomaBridge.Model.Keys

variable {sha256 : String → String} {store : KeyStore} {key tenantId : String}

def IsKeyOf (sha256 : String → String) (store : KeyStore) (key tenantId : String) : Prop :=
  ∃ row ∈ store.tenants, row.id = tenantId ∧ row.apiKeyHash = some (sha256 key)

/-- Every resolver returns a tenant only for the tenant's own key. -/
structure ResolvesOwnKey (sha256 : String → String) (store : KeyStore) (key : String) : Prop where
  verify : ∀ tenant, verifyApiKey sha256 store (some key) = .ok tenant →
    IsKeyOf sha256 store key tenant.tenantId
  jobs : ∀ tenantId, RouterJobs.tenantFromKey sha256 store (some key) = .ok tenantId →
    IsKeyOf sha256 store key tenantId
  decisions : ∀ tenantId, RouterDecisions.tenantFromKey store (some key) = .ok tenantId →
    IsKeyOf sha256 store key tenantId
  lookup : ∀ info tenantId, lookupKey sha256 store (some key) = some info →
    info.tenantId = some tenantId → (getTenant store tenantId).isSome →
    IsKeyOf sha256 store key tenantId

/-- No tenant's id is the key, or else made of it, unless the key is the tenant's own. The tenant of
the key has an id without surrounding whitespace, if it is let in at all. The key is not registered
for the tenant with the empty id.
-/
structure NamesNoTenant (sha256 : String → String) (store : KeyStore) (key : String) : Prop where
  isNoId : key ≠ "" → ∀ row ∈ store.tenants, row.id = key → row.apiKeyHash = some (sha256 key)
  derivesNoId : key ≠ "" → (∀ row ∈ store.tenants, row.id ≠ key) →
    ∀ row ∈ store.tenants, row.id = RouterDecisions.derivedTenantId key →
    row.apiKeyHash = some (sha256 key)
  plainId : key ≠ "" → ∀ row, rowOfKey sha256 store key = some row →
    adminKeyValid store key || isEmailVerified sha256 store key →
    pyStrip row.id = "" ∨ pyStrip row.id = row.id
      ∨ ∃ other ∈ store.tenants, other.id = pyStrip row.id ∧ other.apiKeyHash = row.apiKeyHash
  noEmptyId : key ≠ "" → ∀ info, store.apiKeys (sha256 key) = some info → info.tenantId = some "" →
    (∀ row ∈ store.tenants, row.apiKeyHash ≠ some (sha256 key)) → ∀ row ∈ store.tenants, row.id ≠ ""

theorem getTenant_spec {row : TenantRow} (found : getTenant store tenantId = some row)
    : row ∈ store.tenants ∧ row.id = tenantId := by
  have named := List.find?_some found
  exact ⟨List.mem_of_find?_eq_some found, beq_iff_eq.mp named⟩

theorem getTenant_eq_none_iff
    : getTenant store tenantId = none ↔ ∀ row ∈ store.tenants, row.id ≠ tenantId := by
  simp [getTenant, List.find?_eq_none]

theorem rowOfKey_spec {row : TenantRow} (found : rowOfKey sha256 store key = some row)
    : row ∈ store.tenants ∧ row.apiKeyHash = some (sha256 key) := by
  have named := List.find?_some found
  exact ⟨List.mem_of_find?_eq_some found, beq_iff_eq.mp named⟩

theorem rowOfKey_eq_none_iff
    : rowOfKey sha256 store key = none
      ↔ ∀ row ∈ store.tenants, row.apiKeyHash ≠ some (sha256 key) := by
  simp [rowOfKey, List.find?_eq_none]

theorem row_unique {row other : TenantRow} (mem : row ∈ store.tenants)
    (otherMem : other ∈ store.tenants) (same : row.id = other.id)
    : row = other :=
  List.inj_on_of_nodup_map store.distinct mem otherMem same

theorem isKeyOf_iff {row : TenantRow} (mem : row ∈ store.tenants)
    : IsKeyOf sha256 store key row.id ↔ row.apiKeyHash = some (sha256 key) := by
  constructor
  · intro ⟨other, otherMem, same, hash⟩
    rw [row_unique mem otherMem same.symm]
    exact hash
  · intro hash
    exact ⟨row, mem, rfl, hash⟩

theorem verifyApiKey_eq_ok_iff {tenant : TenantInfo}
    : verifyApiKey sha256 store (some key) = .ok tenant
      ↔ key ≠ "" ∧ ∃ row, rowOfKey sha256 store key = some row ∧ pyStrip row.id ≠ ""
        ∧ (adminKeyValid store key || isEmailVerified sha256 store key)
        ∧ tenant = ⟨pyStrip row.id, row.name, row.plan, some key⟩ := by
  unfold verifyApiKey findTenantByKey
  by_cases empty : key = ""
  · simp [empty]
  · simp only [empty, if_false, ne_eq, not_false_eq_true, true_and]
    cases found : rowOfKey sha256 store key with
    | none => simp
    | some row =>
        by_cases blank : pyStrip row.id = ""
        · simp [blank]
        · by_cases letIn : (adminKeyValid store key || isEmailVerified sha256 store key) = true
          · simp only [Option.map_some, blank, if_false, letIn, if_true, Except.ok.injEq,
              Option.some.injEq, exists_eq_left', not_false_eq_true, true_and]
            exact eq_comm
          · simp [blank, letIn]

theorem jobs_tenantFromKey_eq_ok_iff
    : RouterJobs.tenantFromKey sha256 store (some key) = .ok tenantId
      ↔ key ≠ "" ∧ ∃ row, rowOfKey sha256 store key = some row ∧ row.id = tenantId := by
  unfold RouterJobs.tenantFromKey findTenantByKey
  by_cases empty : key = ""
  · simp [empty]
  · simp only [empty, if_false, ne_eq, not_false_eq_true, true_and]
    cases found : rowOfKey sha256 store key with
    | none => simp
    | some row => simp

theorem decisions_tenantFromKey_eq_ok_iff
    : RouterDecisions.tenantFromKey store (some key) = .ok tenantId
      ↔ key ≠ "" ∧ ((∃ row ∈ store.tenants, row.id = key ∧ tenantId = key)
        ∨ (∀ row ∈ store.tenants, row.id ≠ key)
          ∧ ∃ row ∈ store.tenants, row.id = RouterDecisions.derivedTenantId key
            ∧ tenantId = row.id) := by
  unfold RouterDecisions.tenantFromKey
  by_cases empty : key = ""
  · simp [empty]
  · simp only [empty, if_false, not_false_eq_true, true_and, ne_eq]
    cases found : getTenant store key with
    | some row =>
        obtain ⟨mem, named⟩ := getTenant_spec found
        constructor
        · intro same
          cases same
          exact .inl ⟨row, mem, named, named⟩
        · intro cases_
          rcases cases_ with ⟨_, _, _, same⟩ | ⟨absent, _⟩
          · rw [same]
            exact congrArg Except.ok named
          · exact absurd named (absent row mem)
    | none =>
        have absent := getTenant_eq_none_iff.mp found
        cases derived : getTenant store (RouterDecisions.derivedTenantId key) with
        | none =>
            have underived := getTenant_eq_none_iff.mp derived
            simp only [Option.isNone_none, if_true]
            refine iff_of_false (by simp) ?_
            intro cases_
            rcases cases_ with ⟨row, mem, named, _⟩ | ⟨_, row, mem, named, _⟩
            · exact absent row mem named
            · exact underived row mem named
        | some row =>
            obtain ⟨mem, named⟩ := getTenant_spec derived
            simp only [Option.isNone_some, Bool.false_eq_true, if_false]
            constructor
            · intro same
              cases same
              exact .inr ⟨absent, row, mem, named, named.symm⟩
            · intro cases_
              rcases cases_ with ⟨other, otherMem, otherNamed, _⟩ | ⟨_, other, _, otherNamed, same⟩
              · exact absurd otherNamed (absent other otherMem)
              · rw [same, otherNamed]

/-- When `lookup_key` names a tenant that exists: the row of the key, or else the tenant with the
empty id for a key that is registered for it.
-/
theorem lookupKey_names_iff (exists_ : (getTenant store tenantId).isSome)
    : (∃ info, lookupKey sha256 store (some key) = some info ∧ info.tenantId = some tenantId)
      ↔ key ≠ "" ∧ ((∃ row, rowOfKey sha256 store key = some row ∧ row.id = tenantId)
        ∨ rowOfKey sha256 store key = none ∧ tenantId = ""
          ∧ ∃ info, store.apiKeys (sha256 key) = some info ∧ info.tenantId = some "") := by
  unfold lookupKey findTenantByKey
  by_cases empty : key = ""
  · simp [empty]
  · simp only [empty, if_false, ne_eq, not_false_eq_true, true_and]
    cases found : rowOfKey sha256 store key with
    | some row => simp
    | none =>
        simp only [Option.map_none]
        cases registered : store.apiKeys (sha256 key) with
        | none => simp
        | some info =>
            cases named : info.tenantId with
            | none => simp [named]
            | some other =>
                by_cases blank : other = ""
                · subst blank
                  simp [named, eq_comm]
                · by_cases known : (getTenant store other).isNone
                  · have differs : other ≠ tenantId := by
                      intro same
                      rw [same, Option.isNone_iff_eq_none] at known
                      rw [known] at exists_
                      cases exists_
                    simp [named, blank, known, differs]
                  · simp [named, blank, known]

theorem verify_own_iff
    : (∀ tenant, verifyApiKey sha256 store (some key) = .ok tenant →
        IsKeyOf sha256 store key tenant.tenantId)
      ↔ (key ≠ "" → ∀ row, rowOfKey sha256 store key = some row →
        adminKeyValid store key || isEmailVerified sha256 store key →
        pyStrip row.id = "" ∨ pyStrip row.id = row.id
          ∨ ∃ other ∈ store.tenants, other.id = pyStrip row.id
            ∧ other.apiKeyHash = row.apiKeyHash) := by
  constructor
  · intro own nonempty row found letIn
    obtain ⟨mem, hash⟩ := rowOfKey_spec found
    by_cases blank : pyStrip row.id = ""
    · exact .inl blank
    · obtain ⟨other, otherMem, named, otherHash⟩ :=
        own _ (verifyApiKey_eq_ok_iff.mpr ⟨nonempty, row, found, blank, letIn, rfl⟩)
      exact .inr (.inr ⟨other, otherMem, named, otherHash.trans hash.symm⟩)
  · intro plain tenant resolved
    obtain ⟨nonempty, row, found, blank, letIn, rfl⟩ := verifyApiKey_eq_ok_iff.mp resolved
    obtain ⟨mem, hash⟩ := rowOfKey_spec found
    rcases plain nonempty row found letIn with empty | same | ⟨other, otherMem, named, otherHash⟩
    · exact absurd empty blank
    · exact ⟨row, mem, same.symm, hash⟩
    · exact ⟨other, otherMem, named, otherHash.trans hash⟩

theorem jobs_own (resolved : RouterJobs.tenantFromKey sha256 store (some key) = .ok tenantId)
    : IsKeyOf sha256 store key tenantId := by
  obtain ⟨_, row, found, named⟩ := jobs_tenantFromKey_eq_ok_iff.mp resolved
  obtain ⟨mem, hash⟩ := rowOfKey_spec found
  exact ⟨row, mem, named, hash⟩

theorem decisions_own_iff
    : (∀ tenantId, RouterDecisions.tenantFromKey store (some key) = .ok tenantId →
        IsKeyOf sha256 store key tenantId)
      ↔ (key ≠ "" → ∀ row ∈ store.tenants, row.id = key → row.apiKeyHash = some (sha256 key))
        ∧ (key ≠ "" → (∀ row ∈ store.tenants, row.id ≠ key) → ∀ row ∈ store.tenants,
          row.id = RouterDecisions.derivedTenantId key → row.apiKeyHash = some (sha256 key)) := by
  constructor
  · intro own
    refine ⟨?_, ?_⟩
    · intro nonempty row mem named
      rw [← isKeyOf_iff mem]
      refine own row.id (decisions_tenantFromKey_eq_ok_iff.mpr ⟨nonempty, .inl ?_⟩)
      exact ⟨row, mem, named, named⟩
    · intro nonempty absent row mem named
      rw [← isKeyOf_iff mem]
      refine own row.id (decisions_tenantFromKey_eq_ok_iff.mpr ⟨nonempty, .inr ?_⟩)
      exact ⟨absent, row, mem, named, rfl⟩
  · intro ⟨isNoId, derivesNoId⟩ tenantId resolved
    obtain ⟨nonempty, cases_⟩ := decisions_tenantFromKey_eq_ok_iff.mp resolved
    rcases cases_ with ⟨row, mem, named, rfl⟩ | ⟨absent, row, mem, named, rfl⟩
    · exact ⟨row, mem, named, isNoId nonempty row mem named⟩
    · exact ⟨row, mem, rfl, derivesNoId nonempty absent row mem named⟩

/-- `lookup_key` returns a tenant that exists only for its own key exactly when the key is not
registered for the tenant with the empty id.
-/
theorem lookup_own_iff
    : (∀ info tenantId, lookupKey sha256 store (some key) = some info →
        info.tenantId = some tenantId → (getTenant store tenantId).isSome →
        IsKeyOf sha256 store key tenantId)
      ↔ (key ≠ "" → ∀ info, store.apiKeys (sha256 key) = some info → info.tenantId = some "" →
        (∀ row ∈ store.tenants, row.apiKeyHash ≠ some (sha256 key)) →
        ∀ row ∈ store.tenants, row.id ≠ "") := by
  constructor
  · intro own nonempty info registered named unknown row mem empty
    have exists_ : (getTenant store "").isSome := by
      rw [Option.isSome_iff_ne_none, ne_eq, getTenant_eq_none_iff]
      exact fun absent => absent row mem empty
    obtain ⟨answer, resolved, tenant⟩ := (lookupKey_names_iff exists_).mpr
      ⟨nonempty, .inr ⟨rowOfKey_eq_none_iff.mpr unknown, rfl, info, registered, named⟩⟩
    obtain ⟨other, otherMem, _, hash⟩ := own answer "" resolved tenant exists_
    exact unknown other otherMem hash
  · intro unregistered info tenantId resolved tenant exists_
    obtain ⟨nonempty, cases_⟩ := (lookupKey_names_iff exists_).mp ⟨info, resolved, tenant⟩
    rcases cases_ with ⟨row, found, named⟩ | ⟨unknown, rfl, entry, registered, named⟩
    · obtain ⟨mem, hash⟩ := rowOfKey_spec found
      exact ⟨row, mem, named, hash⟩
    · have absent := unregistered nonempty entry registered named (rowOfKey_eq_none_iff.mp unknown)
      rw [Option.isSome_iff_ne_none, ne_eq, getTenant_eq_none_iff] at exists_
      exact absurd absent exists_

/-- For every database and every key, all resolvers return a tenant only for its own key exactly
when the key names no other tenant.
-/
theorem resolves_own_key_iff (sha256 : String → String) (store : KeyStore) (key : String)
    : ResolvesOwnKey sha256 store key ↔ NamesNoTenant sha256 store key := by
  constructor
  · intro own
    obtain ⟨isNoId, derivesNoId⟩ := decisions_own_iff.mp own.decisions
    exact ⟨isNoId, derivesNoId, verify_own_iff.mp own.verify, lookup_own_iff.mp own.lookup⟩
  · intro names
    exact ⟨verify_own_iff.mpr names.plainId, fun _ resolved => jobs_own resolved,
      decisions_own_iff.mpr ⟨names.isNoId, names.derivesNoId⟩, lookup_own_iff.mpr names.noEmptyId⟩

def oneTenantStore : KeyStore :=
  { tenants := [⟨"tenant-demo", some "digest-of-its-key", "Demo", "free"⟩]
    distinct := by decide
    users := []
    distinctUsers := by decide
    apiKeys := fun _ => none
    adminKeys := []
    publicBaseUrl := "" }

/-- The id of a tenant, and the first characters of the rest of it, are let in as the tenant. -/
theorem tenant_id_is_let_in
    : RouterDecisions.tenantFromKey oneTenantStore (some "tenant-demo") = .ok "tenant-demo"
      ∧ RouterDecisions.tenantFromKey oneTenantStore (some "demo") = .ok "tenant-demo"
      ∧ ¬ ResolvesOwnKey (fun text => text) oneTenantStore "tenant-demo" := by
  refine ⟨by rfl, by rfl, ?_⟩
  intro own
  obtain ⟨row, mem, _, hash⟩ := own.decisions "tenant-demo" rfl
  simp only [oneTenantStore, List.mem_singleton] at mem
  rw [mem] at hash
  exact absurd hash (by decide)

variable {sha256 : String → String} {backend : Backend} {fault : RotationFault} {store : KeyStore}
  {userId tenantId oldKey newKey digest : String}

/-- A rotation raised and changed nothing, or lost the answer of its commit, or returned after it
found one user and one tenant and set both digests.
-/
theorem rotateUserApiKey_cases (sha256 : String → String) (backend : Backend)
    (fault : RotationFault) (store : KeyStore) (userId tenantId newKey : String)
    : (∃ error, rotateUserApiKey sha256 backend fault store userId tenantId newKey
          = (.error error, store))
      ∨ (fault = .commitLost
          ∧ rotateUserApiKey sha256 backend fault store userId tenantId newKey
            = (.error .database, withDigest store userId tenantId (sha256 newKey)))
      ∨ (∃ result, rotateUserApiKey sha256 backend fault store userId tenantId newKey
            = (.ok result, withDigest store userId tenantId (sha256 newKey))
          ∧ newKey ≠ "" ∧ usersCount store userId = 1
          ∧ tenantsCount store tenantId = 1) := by
  -- one equation instead of three copies of the program, which each `split` would rewrite
  generalize rotates : rotateUserApiKey sha256 backend fault store userId tenantId newKey = outcome
  unfold rotateUserApiKey at rotates
  split at rotates
  · exact .inl ⟨_, rotates.symm⟩
  · split at rotates
    · exact .inl ⟨_, rotates.symm⟩
    · rename_i given
      split at rotates
      · exact .inl ⟨_, rotates.symm⟩
      · split at rotates
        · exact .inl ⟨_, rotates.symm⟩
        · split at rotates
          · exact .inl ⟨_, rotates.symm⟩
          · split at rotates
            · exact .inl ⟨_, rotates.symm⟩
            · split at rotates
              · exact .inl ⟨_, rotates.symm⟩
              · rename_i counts
                rw [not_or, not_not, not_not] at counts
                split at rotates
                · exact .inl ⟨_, rotates.symm⟩
                · split at rotates
                  · rename_i lost
                    exact .inr (.inl ⟨lost, rotates.symm⟩)
                  · exact .inr (.inr ⟨_, rotates.symm, given, counts⟩)

theorem mem_tenants_withDigest {row : TenantRow}
    : row ∈ (withDigest store userId tenantId digest).tenants
      ↔ ∃ old ∈ store.tenants,
        row = if old.id = tenantId then { old with apiKeyHash := some digest } else old := by
  constructor
  · intro mem
    obtain ⟨old, oldMem, same⟩ := List.mem_map.mp mem
    exact ⟨old, oldMem, same.symm⟩
  · intro ⟨old, oldMem, same⟩
    exact List.mem_map.mpr ⟨old, oldMem, same.symm⟩

theorem rowOfKey_old (changed : sha256 oldKey ≠ sha256 newKey)
    (own : ∀ row ∈ store.tenants, row.apiKeyHash = some (sha256 oldKey) → row.id = tenantId)
    : rowOfKey sha256 (withDigest store userId tenantId (sha256 newKey)) oldKey = none := by
  rw [rowOfKey_eq_none_iff]
  intro row mem hash
  obtain ⟨old, oldMem, rfl⟩ := mem_tenants_withDigest.mp mem
  split at hash
  · exact changed (Option.some.inj hash).symm
  · rename_i other
    exact other (own old oldMem hash)

theorem rowOfKey_new (userId : String)
    (counted : tenantsCount store tenantId = 1)
    (own : ∀ row ∈ store.tenants, row.apiKeyHash = some (sha256 newKey) → row.id = tenantId)
    : ∃ row, rowOfKey sha256 (withDigest store userId tenantId (sha256 newKey)) newKey = some row
      ∧ row.id = tenantId := by
  cases found : rowOfKey sha256 (withDigest store userId tenantId (sha256 newKey)) newKey with
  | none =>
      have absent := rowOfKey_eq_none_iff.mp found
      obtain ⟨old, oldMem, named⟩ := List.countP_pos_iff.mp (counted ▸ Nat.one_pos)
      have hash := absent _ (mem_tenants_withDigest.mpr ⟨old, oldMem, rfl⟩)
      rw [if_pos (beq_iff_eq.mp named)] at hash
      exact absurd rfl hash
  | some row =>
      refine ⟨row, rfl, ?_⟩
      obtain ⟨mem, hash⟩ := rowOfKey_spec found
      obtain ⟨old, oldMem, rfl⟩ := mem_tenants_withDigest.mp mem
      split at hash
      · rename_i same
        rw [if_pos same]
        exact same
      · rename_i other
        exact absurd (own old oldMem hash) other

/-- An entry that `lookup_key` keeps without a row of the key: its tenant is missing or has no row.
-/
def isStatic (store : KeyStore) (info : KeyInfo) : Bool :=
  match info.tenantId with
  | none => true
  | some tenantId => tenantId == "" || (getTenant store tenantId).isNone

theorem lookupKey_empty (sha256 : String → String) (store : KeyStore)
    : lookupKey sha256 store (some "") = none := by
  unfold lookupKey
  exact if_pos rfl

theorem lookupKey_of_no_row (nonempty : oldKey ≠ "")
    (unknown : rowOfKey sha256 store oldKey = none)
    : lookupKey sha256 store (some oldKey)
      = (store.apiKeys (sha256 oldKey)).filter (isStatic store) := by
  unfold lookupKey findTenantByKey
  simp only [nonempty, if_false, unknown, Option.map_none]
  cases store.apiKeys (sha256 oldKey) with
  | none => rfl
  | some info =>
      unfold Option.filter isStatic
      cases named : info.tenantId with
      | none => simp [named]
      | some tenantId => simp [named]

def HoldsDigest (store : KeyStore) (userId tenantId digest : String) : Prop :=
  (∃ user ∈ store.users, user.id = userId ∧ user.apiKeyHash = some digest)
  ∧ ∃ tenant ∈ store.tenants, tenant.id = tenantId ∧ tenant.apiKeyHash = some digest

theorem holdsDigest_withDigest
    (users : usersCount store userId = 1)
    (tenants : tenantsCount store tenantId = 1)
    : HoldsDigest (withDigest store userId tenantId digest) userId tenantId digest := by
  obtain ⟨user, userMem, userNamed⟩ := List.countP_pos_iff.mp (users ▸ Nat.one_pos)
  obtain ⟨tenant, tenantMem, tenantNamed⟩ := List.countP_pos_iff.mp (tenants ▸ Nat.one_pos)
  rw [beq_iff_eq] at userNamed tenantNamed
  refine ⟨⟨{ user with apiKey := "", apiKeyHash := some digest }, ?_, userNamed, rfl⟩,
    ⟨{ tenant with apiKeyHash := some digest }, ?_, tenantNamed, rfl⟩⟩
  · exact List.mem_map.mpr ⟨user, userMem, if_pos userNamed⟩
  · exact mem_tenants_withDigest.mpr ⟨tenant, tenantMem, (if_pos tenantNamed).symm⟩

/-- What holds after a rotation for a process with a given registry. -/
structure Rotated (sha256 : String → String) (store : KeyStore)
    (userId tenantId oldKey newKey : String) : Prop where
  verifyOld : ∀ tenant, verifyApiKey sha256 store (some oldKey) ≠ .ok tenant
  lookupOld : lookupKey sha256 store (some oldKey)
    = if oldKey = "" then none else (store.apiKeys (sha256 oldKey)).filter (isStatic store)
  lookupNew : ∃ info, lookupKey sha256 store (some newKey) = some info
    ∧ info.tenantId = some tenantId
  digests : HoldsDigest store userId tenantId (sha256 newKey)

theorem rotated_withDigest (apiKeys : String → Option KeyInfo) (nonempty : newKey ≠ "")
    (changed : sha256 oldKey ≠ sha256 newKey)
    (ownOld : ∀ row ∈ store.tenants, row.apiKeyHash = some (sha256 oldKey) → row.id = tenantId)
    (ownNew : ∀ row ∈ store.tenants, row.apiKeyHash = some (sha256 newKey) → row.id = tenantId)
    (users : usersCount store userId = 1)
    (tenants : tenantsCount store tenantId = 1)
    : Rotated sha256
        ((withDigest store userId tenantId (sha256 newKey)).withRegistry apiKeys)
        userId tenantId oldKey newKey := by
  have dead : rowOfKey sha256
      ((withDigest store userId tenantId (sha256 newKey)).withRegistry apiKeys) oldKey = none :=
    rowOfKey_old changed ownOld
  refine ⟨?_, ?_, ?_, holdsDigest_withDigest users tenants⟩
  · intro tenant resolved
    obtain ⟨_, row, found, _⟩ := verifyApiKey_eq_ok_iff.mp resolved
    rw [dead] at found
    cases found
  · split
    · rename_i empty
      rw [empty, lookupKey_empty]
    · rename_i given
      exact lookupKey_of_no_row given dead
  · obtain ⟨row, found, named⟩ := rowOfKey_new userId tenants ownNew
    have exists_ : (getTenant ((withDigest store userId tenantId
        (sha256 newKey)).withRegistry apiKeys) tenantId).isSome := by
      rw [Option.isSome_iff_ne_none, ne_eq, getTenant_eq_none_iff]
      intro absent
      exact absent row (rowOfKey_spec found).1 named
    exact (lookupKey_names_iff exists_).mpr ⟨nonempty, .inl ⟨row, found, named⟩⟩

/-- A rotation from a key that only this tenant has to one that no other tenant has: when it
returns, then in every process, whatever its registry holds, the old key resolves to nothing but a
static entry, the new one to the tenant, and both tables hold the new digest; when it raises,
nothing changed, unless only the answer of the commit was lost.
-/
theorem rotation_complete (sha256 : String → String) (backend : Backend) (fault : RotationFault)
    (store : KeyStore) (userId tenantId oldKey newKey : String)
    (changed : sha256 oldKey ≠ sha256 newKey)
    (ownOld : ∀ row ∈ store.tenants, row.apiKeyHash = some (sha256 oldKey) → row.id = tenantId)
    (ownNew : ∀ row ∈ store.tenants, row.apiKeyHash = some (sha256 newKey) → row.id = tenantId)
    : match rotateUserApiKey sha256 backend fault store userId tenantId newKey with
      | (.ok _, after) =>
          ∀ apiKeys, Rotated sha256 (after.withRegistry apiKeys) userId tenantId oldKey newKey
      | (.error _, after) => fault ≠ .commitLost → after = store := by
  rcases rotateUserApiKey_cases sha256 backend fault store userId tenantId newKey with
    ⟨error, raised⟩ | ⟨lost, raised⟩ | ⟨result, returned, nonempty, users, tenants⟩
  · rw [raised]
    exact fun _ => rfl
  · rw [raised]
    exact fun answered => absurd lost answered
  · rw [returned]
    exact fun apiKeys =>
      rotated_withDigest apiKeys nonempty changed ownOld ownNew users tenants

/-- In the process that rotated, the switch-over removes also a static entry of the old key. -/
theorem lookupKey_old_switchOver {result : RotationResult}
    (changed : sha256 oldKey ≠ sha256 newKey)
    (unknown : rowOfKey sha256 store oldKey = none)
    (revoked : result.oldApiKeyHash = sha256 oldKey) (digests : sha256 oldKey ≠ "")
    : lookupKey sha256 (switchOver sha256 store tenantId newKey result) (some oldKey) = none := by
  have removed : (switchOver sha256 store tenantId newKey result).apiKeys (sha256 oldKey)
      = none := by
    simp [switchOver, registerKey, revokeKey, revoked, digests, changed]
  have same : rowOfKey sha256 (switchOver sha256 store tenantId newKey result) oldKey = none := by
    have tenants : (switchOver sha256 store tenantId newKey result).tenants = store.tenants := by
      simp only [switchOver, registerKey]
      split
      · rfl
      · rfl
    unfold rowOfKey at unknown ⊢
    rw [tenants]
    exact unknown
  by_cases empty : oldKey = ""
  · rw [empty, lookupKey_empty]
  · rw [lookupKey_of_no_row empty same, removed]
    rfl

def staticStore : KeyStore :=
  { tenants := [⟨"tenant-1", some "key-1", "One", "free"⟩]
    distinct := by decide
    users := [⟨"user-1", "", some "key-1", true⟩]
    distinctUsers := by decide
    apiKeys := fun digest => if digest = "key-1" then some ⟨none, some "free"⟩ else none
    adminKeys := []
    publicBaseUrl := "" }

def sharedStore : KeyStore :=
  { staticStore with
    tenants := [⟨"tenant-1", some "key-1", "One", "free"⟩,
      ⟨"tenant-2", some "key-1", "Two", "free"⟩]
    distinct := by decide }

def takenStore : KeyStore :=
  { staticStore with
    tenants := [⟨"tenant-2", some "key-2", "Two", "free"⟩,
      ⟨"tenant-1", some "key-1", "One", "free"⟩]
    distinct := by decide }

/-- The rotation of the one tenant's key. -/
theorem rotation_complete_staticStore
    : match rotateUserApiKey (fun text => text) .postgres .none staticStore "user-1" "tenant-1" "key-2" with
      | (.ok _, after) => ∀ apiKeys,
          Rotated (fun text => text) (after.withRegistry apiKeys) "user-1" "tenant-1" "key-1" "key-2"
      | (.error _, after) => RotationFault.none ≠ .commitLost → after = staticStore :=
  rotation_complete (fun text => text) .postgres .none staticStore "user-1" "tenant-1" "key-1" "key-2"
    (by decide) (by simp [staticStore]) (by simp [staticStore])

/-- After a rotation that returned, the old key resolves to what is registered for it without a
tenant, or to another tenant with the same key; the new key may be another tenant's; and a rotation
whose commit lost its answer raises with new digests.
-/
theorem old_key_still_resolves
    : lookupKey (fun text => text)
          (rotateUserApiKey (fun text => text) .postgres .none staticStore "user-1" "tenant-1" "key-2").2
          (some "key-1") = some ⟨none, some "free"⟩
      ∧ (lookupKey (fun text => text)
          (rotateUserApiKey (fun text => text) .sqlite .none sharedStore "user-1" "tenant-1" "key-2").2
          (some "key-1")).map KeyInfo.tenantId = some (some "tenant-2")
      ∧ (lookupKey (fun text => text)
          (rotateUserApiKey (fun text => text) .sqlite .none takenStore "user-1" "tenant-1" "key-2").2
          (some "key-2")).map KeyInfo.tenantId = some (some "tenant-2")
      ∧ ((rotateUserApiKey (fun text => text) .postgres .commitLost staticStore "user-1" "tenant-1"
          "key-2").2.tenants.map TenantRow.apiKeyHash) = [some "key-2"] := by
  refine ⟨by decide, by decide, by decide, by decide⟩

end RomaBridge.Properties
