import RomaBridge.Foundation.Trace
import RomaBridge.Model.CryptoWallets

/-! Wallet operations are atomic and addresses usable. The starts of the operations and the rotations keep
what holds between the steps; the answers may not. A wallet is stored before its health check, an RPC
answer without a result is an empty address, and the counter that stands in for a missing index is
read before the await. The scan for spend keys looks into the dictionaries of a list, but not into a
list that is an item of another.
-/

namespace RomaBridge.Properties

open RomaBridge.Foundation RomaBridge.Model RomaBridge.Model.CryptoWallets

variable {service after : WalletService} {operation : ℕ} {reply : WalletReply}

/-- A service with the addresses that the RPC of each wallet returned, and the Monero deposits with
their accounts, both the newest first.
-/
structure WalletBooks where
  service : WalletService
  returned : ℕ → List String
  deposits : List (ℤ × DepositAddress)

def returnedAddress (answer : RpcAnswer) : Option String :=
  match rpcCall answer with
  | none => none
  | some result =>
      match entry result "result" (.dict []) with
      | .dict data =>
          match entry data "address" .null with
          | .str address => some address
          | _ => none
      | _ => none

def returnedAfter (books : WalletBooks) : WalletCall → ℕ → List String
  | .answer operation answer _ =>
      match books.service.pending operation with
      | some (.generating walletId _ _ _) =>
          Function.update books.returned walletId
            ((returnedAddress answer).toList ++ books.returned walletId)
      | _ => books.returned
  | _ => books.returned

/-- The Monero deposits after a step. -/
def depositsAfter (books : WalletBooks) (reply : WalletReply)
    : WalletCall → List (ℤ × DepositAddress)
  | .answer operation _ _ =>
      match books.service.pending operation, reply with
      | some (.generating _ account _ _), .deposited deposit => (account, deposit) :: books.deposits
      | _, _ => books.deposits
  | _ => books.deposits

def booksStep (toInt : JsonValue → Option ℤ) (books : WalletBooks) (call : WalletCall)
    : WalletReply × WalletBooks :=
  ((walletStep toInt books.service call).1,
    ⟨(walletStep toInt books.service call).2, returnedAfter books call,
      depositsAfter books (walletStep toInt books.service call).1 call⟩)

def newBooks : WalletBooks := ⟨newService, fun _ => [], []⟩

/-- The wallet that the operation of a step stored before it awaited. -/
def ownWallet (books : WalletBooks) : WalletCall → Option ℕ
  | .answer operation _ _ =>
      match books.service.pending operation with
      | some (.creatingMonero walletId) | some (.creatingProvider walletId _) => some walletId
      | _ => none
  | _ => none

/-- The wallets, adapters and addresses are what they were, without the operation's own wallet. -/
structure AsTheyWere (own : Option ℕ) (before after : WalletService) : Prop where
  wallets : ∀ id, after.wallets.find? id
    = if own = some id then none else before.wallets.find? id
  addresses : after.addresses = before.addresses
  moneroAdapters : after.moneroAdapters = before.moneroAdapters
  providerAdapters : after.providerAdapters = before.providerAdapters

def AdaptersAtRest (service : WalletService) : Prop :=
  ∀ walletId wallet, service.wallets.find? walletId = some wallet → wallet.walletType = .monero →
    (service.moneroAdapters walletId).isSome
      ∨ ∃ operation, service.pending operation = some (.creatingMonero walletId)

def AdaptersAlways (service : WalletService) : Prop :=
  ∀ walletId wallet, service.wallets.find? walletId = some wallet → wallet.walletType = .monero →
    (service.moneroAdapters walletId).isSome

/-- Two Monero deposits of one account of the wallet share neither address nor index. -/
def Apart (walletId : ℕ) (later earlier : ℤ × DepositAddress) : Prop :=
  later.2.walletId = walletId → earlier.2.walletId = walletId → later.1 = earlier.1 →
    later.2.address ≠ earlier.2.address ∧ later.2.subaddressIndex ≠ earlier.2.subaddressIndex

def DepositsApart (books : WalletBooks) : Prop :=
  ∀ walletId, (books.returned walletId).Nodup → books.deposits.Pairwise (Apart walletId)

/-- The claim at a step. -/
structure WalletsRight (visit : Visit WalletBooks WalletCall WalletReply) : Prop where
  atomic : visit.reply = .raised →
    AsTheyWere (ownWallet visit.before visit.call) visit.before.service visit.after.service
  addresses : ∀ deposit ∈ visit.after.service.addresses, deposit.address ≠ ""
  adapters : AdaptersAtRest visit.after.service
  apart : DepositsApart visit.after

/-- What the rest of `generate_subaddress` has to meet. -/
def GeneratesRight (books : WalletBooks) (call : WalletCall) (walletId : ℕ) (account : ℤ)
    (index : ℕ)
    : Subaddress → Prop
  | .unanswered => True
  | .invalid =>
      ∀ counters, books.service.moneroAdapters walletId = some counters →
        counters account = some (index + 1)
  | .given address number =>
      address ≠ "" ∧ ((returnedAfter books call walletId).Nodup →
        ∀ earlier ∈ books.deposits, earlier.2.walletId = walletId → earlier.1 = account →
          earlier.2.subaddressIndex ≠ some number)

/-- What the rest of an operation has to meet. -/
def ProceedsRight (toInt : JsonValue → Option ℤ) (books : WalletBooks) (call : WalletCall)
    (answer : RpcAnswer)
    : Pending → Prop
  | .creatingMonero _ => moneroHealthy answer = true
  | .creatingProvider _ _ => providerHealthy answer = true
  | .generating walletId account index _ =>
      GeneratesRight books call walletId account index (readSubaddress toInt index answer)

/-- What a step has to meet: no wallet of an unsupported provider, every health check succeeds, and
what the RPC answers can be recorded.
-/
def StepsRight (toInt : JsonValue → Option ℤ) (books : WalletBooks) (call : WalletCall) : Prop :=
  match call with
  | .createWallet operation request _ =>
      books.service.pending operation = none → acceptsRequest request = true → ∀ provider,
        adapterProvider request = some provider → provider ∈ supportedProviders
  | .answer operation answer _ =>
      ∀ pending, books.service.pending operation = some pending →
        ProceedsRight toInt books call answer pending
  | _ => True

def StoresMonero (books : WalletBooks) (call : WalletCall) : Prop :=
  ∃ operation request now, call = .createWallet operation request now
    ∧ books.service.pending operation = none ∧ acceptsRequest request = true
    ∧ request.walletType = .monero

/-- What holds between the steps. -/
structure Sound (books : WalletBooks) : Prop where
  addresses : ∀ deposit ∈ books.service.addresses, deposit.address ≠ ""
  adapters : AdaptersAtRest books.service
  apart : DepositsApart books
  known : ∀ entry ∈ books.deposits, entry.2.address ∈ books.returned entry.2.walletId
  stored : ∀ operation walletId,
    (books.service.pending operation = some (.creatingMonero walletId)
      ∨ ∃ provider, books.service.pending operation = some (.creatingProvider walletId provider)) →
    (books.service.wallets.find? walletId).isSome
  fresh : ∀ walletId, books.service.nextWallet ≤ walletId →
    books.service.wallets.find? walletId = none ∧ books.service.moneroAdapters walletId = none

-- Addresses and rotations

/-- What starting to generate an address or a rotation does. -/
inductive QuietEffect (before : WalletService) : WalletReply → WalletService → Prop where
  | same (reply : WalletReply) : QuietEffect before reply before
  | awaits (operation walletId : ℕ) (account : ℤ) (index : ℕ) (invoiceId : Option ℕ)
      (idle : before.pending operation = none)
      : QuietEffect before .nothing { before with
          pending := Function.update before.pending operation
            (some (.generating walletId account index invoiceId)) }
  | records (deposit : DepositAddress) (filled : deposit.address ≠ "")
      : QuietEffect before (.deposited deposit)
          { before with addresses := before.addresses ++ [deposit] }
  | rotates (wallet rotated : CryptoWallet)
      (found : before.wallets.find? rotated.walletId = some wallet)
      (type : rotated.walletType = wallet.walletType)
      : QuietEffect before (.rotated wallet.status)
          { before with wallets := before.wallets.put rotated }

theorem startGenerating_quiet (idle : service.pending operation = none) (walletId : ℕ) (account : ℤ)
    (invoiceId : Option ℕ)
    : QuietEffect service (startGenerating service operation walletId account invoiceId).1
      (startGenerating service operation walletId account invoiceId).2 := by
  unfold startGenerating
  split
  · exact .same _
  · exact .awaits operation walletId account _ invoiceId idle

theorem generateAddress_quiet (idle : service.pending operation = none) (walletId : ℕ)
    (request : GenerateAddressRequest) (now : ℚ)
    : QuietEffect service (generateAddress service operation walletId request now).1
      (generateAddress service operation walletId request now).2 := by
  unfold generateAddress
  split
  · exact .same _
  · split
    · exact startGenerating_quiet idle walletId 0 request.invoiceId
    · split
      · exact .same _
      · exact .records _ (fun empty =>
          absurd (String.append_eq_empty_iff.mp empty).2 (by decide))
    · exact .records _ (staticAddress_ne_empty _)
    · exact .records _ (staticAddress_ne_empty _)

theorem generateMoneroSubaddress_quiet (idle : service.pending operation = none) (walletId : ℕ)
    (account : ℤ) (invoiceId : Option ℕ)
    : QuietEffect service (generateMoneroSubaddress service operation walletId account invoiceId).1
      (generateMoneroSubaddress service operation walletId account invoiceId).2 := by
  unfold generateMoneroSubaddress
  split
  · exact .same _
  · split
    · exact .same _
    · exact startGenerating_quiet idle walletId account invoiceId

theorem rotateWallet_quiet (service : WalletService) (walletId : ℕ)
    (newPublicAddress : Option String) (now : ℚ)
    : QuietEffect service (rotateWallet service walletId newPublicAddress now).1
      (rotateWallet service walletId newPublicAddress now).2 := by
  unfold rotateWallet
  split
  · exact .same _
  · rename_i wallet found
    have own : wallet.walletId = walletId := (Table.find?_some found).2
    exact .rotates wallet _ (by rw [own]; exact found) rfl

/-- What holds between the steps is kept where the ids and types of the wallets are, no new creation
awaits, and only stored wallets get an adapter: those whose creation ends get one.
-/
theorem Sound.advance {books : WalletBooks} {returned : ℕ → List String}
    {deposits : List (ℤ × DepositAddress)} (sound : Sound books)
    (addresses : ∀ deposit ∈ after.addresses, deposit.address ≠ "")
    (types : ∀ id, (after.wallets.find? id).map CryptoWallet.walletType
      = (books.service.wallets.find? id).map CryptoWallet.walletType)
    (keeps : ∀ id, (books.service.moneroAdapters id).isSome → (after.moneroAdapters id).isSome)
    (gains : ∀ id, (after.moneroAdapters id).isSome →
      (books.service.moneroAdapters id).isSome ∨ (books.service.wallets.find? id).isSome)
    (awaits : ∀ operation pending, (∀ walletId account index invoiceId,
        pending ≠ .generating walletId account index invoiceId) →
      after.pending operation = some pending → books.service.pending operation = some pending)
    (ends : ∀ operation walletId,
      books.service.pending operation = some (.creatingMonero walletId) →
      after.pending operation = some (.creatingMonero walletId)
        ∨ (after.moneroAdapters walletId).isSome)
    (next : after.nextWallet = books.service.nextWallet)
    (apart : DepositsApart ⟨after, returned, deposits⟩)
    (known : ∀ entry ∈ deposits, entry.2.address ∈ returned entry.2.walletId)
    : Sound ⟨after, returned, deposits⟩ := by
  have isSome (id : ℕ) : (after.wallets.find? id).isSome
      = (books.service.wallets.find? id).isSome := by
    have same := congrArg Option.isSome (types id)
    simpa using same
  refine ⟨addresses, ?_, apart, known, ?_, ?_⟩
  · intro walletId wallet found type
    have same := types walletId
    rw [found, Option.map_some] at same
    obtain ⟨old, foundOld, typeOld⟩ := Option.map_eq_some_iff.mp same.symm
    have holds := sound.adapters walletId old foundOld (typeOld.trans type)
    rcases holds with adapter | ⟨operation, waits⟩
    · exact .inl (keeps walletId adapter)
    · rcases ends operation walletId waits with waits | adapter
      · exact .inr ⟨operation, waits⟩
      · exact .inl adapter
  · intro operation walletId waits
    rw [isSome]
    refine sound.stored operation walletId ?_
    rcases waits with waits | ⟨provider, waits⟩
    · exact .inl (awaits operation _ (by simp) waits)
    · exact .inr ⟨provider, awaits operation _ (by simp) waits⟩
  · intro walletId late
    rw [next] at late
    obtain ⟨absent, none⟩ := sound.fresh walletId late
    have same := isSome walletId
    rw [absent] at same
    refine ⟨by simpa using same, ?_⟩
    have unheld : ¬ (after.moneroAdapters walletId).isSome := by
      intro held
      rcases gains walletId held with old | stored
      · simp [none] at old
      · simp [absent] at stored
    simpa using unheld

/-- A quiet step keeps what holds between the steps. One case per effect. -/
theorem Sound.quiet {books : WalletBooks} (sound : Sound books)
    (effect : QuietEffect books.service reply after)
    : Sound ⟨after, books.returned, books.deposits⟩ := by
  cases effect with
  | same => exact sound
  | awaits operation walletId account index invoiceId idle =>
      refine sound.advance sound.addresses (fun _ => rfl) (fun _ held => held)
        (fun _ held => .inl held) ?_ ?_ rfl sound.apart sound.known
      · intro other pending creates waits
        rcases update_some_cases waits with ⟨-, same⟩ | ⟨-, old⟩
        · exact absurd same (creates walletId account index invoiceId)
        · exact old
      · intro other creating waits
        have different : other ≠ operation := by
          rintro rfl
          rw [idle] at waits
          cases waits
        left
        dsimp only
        rw [Function.update_of_ne different, waits]
  | records deposit filled =>
      refine sound.advance ?_ (fun _ => rfl) (fun _ held => held) (fun _ held => .inl held)
        (fun _ _ _ waits => waits) (fun _ _ waits => .inl waits) rfl sound.apart sound.known
      intro other member
      rcases List.mem_append.mp member with old | new
      · exact sound.addresses other old
      · rw [List.mem_singleton.mp new]
        exact filled
  | rotates wallet rotated found type =>
      refine sound.advance sound.addresses ?_ (fun _ held => held) (fun _ held => .inl held)
        (fun _ _ _ waits => waits) (fun _ _ waits => .inl waits) rfl sound.apart sound.known
      intro id
      rw [Table.find?_put]
      by_cases own : rotated.walletId = id
      · rw [if_pos own, ← own, found]
        simp [type]
      · rw [if_neg own]

theorem asTheyWere_refl (service : WalletService) : AsTheyWere none service service :=
  ⟨fun _ => by simp, rfl, rfl, rfl⟩

theorem QuietEffect.raised {before : WalletService} (effect : QuietEffect before .raised after)
    : AsTheyWere none before after := by
  cases effect with
  | same => exact asTheyWere_refl _

-- Creations

/-- What the start of `create_wallet` does. -/
inductive CreateEffect (before : WalletService) (operation : ℕ) (request : CreateWalletRequest)
    : WalletReply → WalletService → Prop where
  | refuses (checked : acceptsRequest request = false)
      : CreateEffect before operation request .raised before
  | stores (wallet : CryptoWallet) (checked : acceptsRequest request = true)
      (number : wallet.walletId = before.nextWallet) (type : wallet.walletType ≠ .monero)
      (known : ∀ provider, adapterProvider request = some provider → provider ∈ supportedProviders)
      (reply : WalletReply) (returns : reply ≠ .raised) (pending : ℕ → Option Pending)
      (awaits : pending = before.pending ∨ ∃ provider,
        pending = Function.update before.pending operation
          (some (.creatingProvider before.nextWallet provider)))
      : CreateEffect before operation request reply { before with
          wallets := before.wallets.put wallet
          pending := pending
          nextWallet := before.nextWallet + 1 }
  | storesMonero (wallet : CryptoWallet) (checked : acceptsRequest request = true)
      (number : wallet.walletId = before.nextWallet) (type : wallet.walletType = .monero)
      (monero : request.walletType = .monero)
      : CreateEffect before operation request .nothing { before with
          wallets := before.wallets.put wallet
          pending := Function.update before.pending operation
            (some (.creatingMonero before.nextWallet))
          nextWallet := before.nextWallet + 1 }
  | abandons (wallet : CryptoWallet) (checked : acceptsRequest request = true)
      (number : wallet.walletId = before.nextWallet) (type : wallet.walletType ≠ .monero)
      (provider : String) (asked : adapterProvider request = some provider)
      (unknown : provider ∉ supportedProviders)
      : CreateEffect before operation request .raised { before with
          wallets := before.wallets.put wallet
          nextWallet := before.nextWallet + 1 }

theorem createWallet_effect (service : WalletService) (operation : ℕ)
    (request : CreateWalletRequest) (now : ℚ)
    : CreateEffect service operation request (createWallet service operation request now).1
      (createWallet service operation request now).2 := by
  unfold createWallet
  cases checked : acceptsRequest request with
  | false => exact .refuses checked
  | true =>
      by_cases monero : request.walletType = .monero
      · simp only [monero]
        exact .storesMonero (newWallet request service.nextWallet now) checked rfl monero monero
      · cases asked : adapterProvider request with
        | none =>
            simp only [monero]
            exact .stores (newWallet request service.nextWallet now) checked rfl monero
              (by simp [asked]) (.created _) (by simp) service.pending (.inl rfl)
        | some provider =>
            by_cases known : provider ∈ supportedProviders
            · simp only [monero, known]
              exact .stores (newWallet request service.nextWallet now) checked rfl monero
                (by simpa [asked] using known) .nothing (by simp) _ (.inr ⟨provider, rfl⟩)
            · simp only [monero, known]
              exact .abandons (newWallet request service.nextWallet now) checked rfl monero provider
                asked known

theorem Sound.put {books : WalletBooks} (sound : Sound books) {wallet : CryptoWallet}
    {pending : ℕ → Option Pending} (number : wallet.walletId = books.service.nextWallet)
    (kept : ∀ operation waiting, books.service.pending operation = some waiting →
      pending operation = some waiting)
    (new : ∀ operation waiting, pending operation = some waiting →
      books.service.pending operation = some waiting
        ∨ waiting = .creatingMonero books.service.nextWallet
        ∨ ∃ provider, waiting = .creatingProvider books.service.nextWallet provider)
    (awaits : wallet.walletType = .monero →
      ∃ operation, pending operation = some (.creatingMonero books.service.nextWallet))
    : Sound ⟨{ books.service with
        wallets := books.service.wallets.put wallet
        pending := pending
        nextWallet := books.service.nextWallet + 1 }, books.returned, books.deposits⟩ := by
  refine ⟨sound.addresses, ?_, sound.apart, sound.known, ?_, ?_⟩
  · intro walletId other found type
    rw [Table.find?_put, number] at found
    by_cases own : books.service.nextWallet = walletId
    · rw [if_pos own, Option.some.injEq] at found
      subst found own
      exact .inr (awaits type)
    · rw [if_neg own] at found
      rcases sound.adapters walletId other found type with adapter | ⟨operation, waits⟩
      · exact .inl adapter
      · exact .inr ⟨operation, kept operation _ waits⟩
  · intro operation walletId waits
    rw [Table.find?_put, number]
    by_cases own : books.service.nextWallet = walletId
    · rw [if_pos own]
      rfl
    · rw [if_neg own]
      refine sound.stored operation walletId ?_
      rcases waits with waits | ⟨provider, waits⟩
      · rcases new operation _ waits with old | same | ⟨_, same⟩
        · exact .inl old
        · cases same
          exact absurd rfl own
        · cases same
      · rcases new operation _ waits with old | same | ⟨_, same⟩
        · exact .inr ⟨provider, old⟩
        · cases same
        · cases same
          exact absurd rfl own
  · intro walletId late
    dsimp only at late
    have older : books.service.nextWallet ≤ walletId := by omega
    have other : books.service.nextWallet ≠ walletId := by omega
    obtain ⟨absent, none⟩ := sound.fresh walletId older
    exact ⟨by rw [Table.find?_put, number, if_neg other, absent], none⟩

/-- A creation keeps what holds between the steps. One case per effect. -/
theorem Sound.create {books : WalletBooks} {request : CreateWalletRequest} (sound : Sound books)
    (idle : books.service.pending operation = none)
    (effect : CreateEffect books.service operation request reply after)
    : Sound ⟨after, books.returned, books.deposits⟩ := by
  have others {waiting : Pending} (other : ℕ) (old : Pending)
      (waits : books.service.pending other = some old)
      : Function.update books.service.pending operation (some waiting) other = some old := by
    have different : other ≠ operation := by
      rintro rfl
      rw [idle] at waits
      cases waits
    rw [Function.update_of_ne different, waits]
  have cases' {waiting : Pending} (other : ℕ) (found : Pending)
      (waits : Function.update books.service.pending operation (some waiting) other = some found)
      : books.service.pending other = some found ∨ found = waiting := by
    rcases update_some_cases waits with ⟨-, same⟩ | ⟨-, old⟩
    · exact .inr same
    · exact .inl old
  cases effect with
  | refuses => exact sound
  | stores wallet _ number type _ _ _ pending awaits =>
      rcases awaits with rfl | ⟨provider, rfl⟩
      · exact sound.put number (fun _ _ waits => waits) (fun _ _ waits => .inl waits)
          (fun monero => absurd monero type)
      · refine sound.put number others ?_ (fun monero => absurd monero type)
        intro other found waits
        exact (cases' other found waits).imp_right (fun same => .inr ⟨provider, same⟩)
  | storesMonero wallet _ number type monero =>
      refine sound.put number others ?_ (fun _ => ⟨operation, Function.update_self ..⟩)
      intro other found waits
      exact (cases' other found waits).imp_right .inl
  | abandons wallet _ number type provider asked unknown =>
      exact sound.put number (fun _ _ waits => waits) (fun _ _ waits => .inl waits)
        (fun monero => absurd monero type)

theorem create_atomic_iff {books : WalletBooks} {request : CreateWalletRequest}
    (sound : Sound books) (effect : CreateEffect books.service operation request reply after)
    : (reply = .raised → AsTheyWere none books.service after)
      ↔ (acceptsRequest request = true → ∀ provider, adapterProvider request = some provider →
        provider ∈ supportedProviders) := by
  cases effect with
  | refuses checked => simp [checked, asTheyWere_refl]
  | stores wallet checked number type known reply returns =>
      exact iff_of_true (fun raised => absurd raised returns) (fun _ => known)
  | storesMonero wallet checked number type monero =>
      refine iff_of_true (by simp) (fun _ provider asked => ?_)
      simp [adapterProvider, monero] at asked
  | abandons wallet checked number type provider asked unknown =>
      refine iff_of_false ?_ (fun known => unknown (known checked provider asked))
      intro undone
      have same := (undone rfl).wallets books.service.nextWallet
      rw [(sound.fresh _ le_rfl).1, Table.find?_put, if_pos number] at same
      cases same

variable {operation walletId index : ℕ} {books : WalletBooks} {call : WalletCall}
  {adapters : ℕ → Option Counters} {account : ℤ} {toInt : JsonValue → Option ℤ} {answer : RpcAnswer}
  {invoiceId : Option ℕ} {reply : WalletReply} {now : ℚ}

-- Answers to a creation

theorem cleared_some {pending : ℕ → Option Pending} {other : ℕ} {waiting : Pending}
    (waits : Function.update pending operation none other = some waiting)
    : other ≠ operation ∧ pending other = some waiting := by
  by_cases own : other = operation
  · subst own
    rw [Function.update_self] at waits
    cases waits
  · rw [Function.update_of_ne own] at waits
    exact ⟨own, waits⟩

theorem not_right_of_abandoned {after : WalletBooks} (own : ownWallet books call = some walletId)
    (stored : (after.service.wallets.find? walletId).isSome)
    : ¬ WalletsRight ⟨books, call, .raised, after⟩ := by
  intro right
  have undone := (right.atomic rfl).wallets walletId
  rw [own, if_pos rfl] at undone
  rw [undone] at stored
  cases stored

theorem Sound.createdMonero (sound : Sound books)
    (waits : books.service.pending operation = some (.creatingMonero walletId))
    : Sound ⟨{ books.service with
        pending := Function.update books.service.pending operation none
        moneroAdapters :=
          Function.update books.service.moneroAdapters walletId (some (fun _ => none)) },
        books.returned, books.deposits⟩ := by
  refine sound.advance sound.addresses (fun _ => rfl) ?_ ?_
    (fun _ _ _ later => (cleared_some later).2) ?_ rfl sound.apart sound.known
  · intro id held
    by_cases own : id = walletId
    · subst own
      simp
    · dsimp only
      rwa [Function.update_of_ne own]
  · intro id held
    by_cases own : id = walletId
    · subst own
      exact .inr (sound.stored operation id (.inl waits))
    · dsimp only at held
      rw [Function.update_of_ne own] at held
      exact .inl held
  · intro other creating found
    by_cases own : other = operation
    · subst own
      obtain rfl : walletId = creating := by
        rw [waits] at found
        cases found
        rfl
      right
      simp
    · left
      dsimp only
      rw [Function.update_of_ne own, found]

theorem Sound.createdProvider {provider : String} (sound : Sound books)
    (waits : books.service.pending operation = some (.creatingProvider walletId provider))
    : Sound ⟨{ books.service with
        pending := Function.update books.service.pending operation none
        providerAdapters :=
          Function.update books.service.providerAdapters walletId (some provider) },
        books.returned, books.deposits⟩ := by
  refine sound.advance sound.addresses (fun _ => rfl) (fun _ held => held) (fun _ held => .inl held)
    (fun _ _ _ later => (cleared_some later).2) ?_ rfl sound.apart sound.known
  intro other creating found
  left
  have different : other ≠ operation := by
    rintro rfl
    rw [waits] at found
    cases found
  dsimp only
  rw [Function.update_of_ne different, found]

-- Answers to a subaddress

theorem isSome_bumpCounter (adapters : ℕ → Option Counters) (walletId : ℕ) (account : ℤ)
    (index id : ℕ)
    : (bumpCounter adapters walletId account index id).isSome = (adapters id).isSome := by
  unfold bumpCounter
  by_cases own : id = walletId
  · subst own
    simp
  · rw [Function.update_of_ne own]

theorem bumpCounter_eq_self_iff
    : bumpCounter adapters walletId account index = adapters
      ↔ ∀ counters, adapters walletId = some counters → counters account = some (index + 1) := by
  unfold bumpCounter
  rw [Function.update_eq_self_iff]
  cases held : adapters walletId with
  | none => simp
  | some counters =>
      simp only [Option.map_some, Option.some.injEq, Function.update_eq_self_iff, forall_eq']
      exact eq_comm

theorem entry_of_str {entries : List (String × JsonValue)} {key text : String}
    (read : entry entries key (.str "") = .str text) (filled : text ≠ "") (default : JsonValue)
    : entry entries key default = .str text := by
  unfold entry at read ⊢
  cases found : (entries.find? (fun item => item.1 = key)).map Prod.snd with
  | none =>
      rw [found, Option.getD_none, JsonValue.str.injEq] at read
      exact absurd read.symm filled
  | some value =>
      rw [found, Option.getD_some] at read
      rw [Option.getD_some, read]

theorem returnedAddress_of_given {address : String} {number : ℤ}
    (given : readSubaddress toInt index answer = .given address number) (filled : address ≠ "")
    : returnedAddress answer = some address := by
  have read : ∃ result data, rpcCall answer = some result
      ∧ entry result "result" (.dict []) = .dict data
      ∧ entry data "address" (.str "") = .str address := by
    unfold readSubaddress at given
    split at given
    · cases given
    · rename_i result answered
      split at given
      · rename_i data found
        split at given
        · rename_i text _ read _
          cases given
          exact ⟨result, data, answered, found, read⟩
        · cases given
      · cases given
  obtain ⟨result, data, answered, found, read⟩ := read
  simp only [returnedAddress, answered, found, entry_of_str read filled .null]

/-- The rest of `generate_subaddress`, with its counter. -/
theorem Sound.generated (sound : Sound books)
    (waits : books.service.pending operation = some (.generating walletId account index invoiceId))
    {addresses : List DepositAddress}
    (held : ∀ id, (adapters id).isSome = (books.service.moneroAdapters id).isSome)
    (filled : ∀ deposit ∈ addresses, deposit.address ≠ "") {returned : ℕ → List String}
    {deposits : List (ℤ × DepositAddress)}
    (apart : DepositsApart ⟨{ books.service with
      addresses := addresses
      moneroAdapters := adapters
      pending := Function.update books.service.pending operation none }, returned, deposits⟩)
    (known : ∀ entry ∈ deposits, entry.2.address ∈ returned entry.2.walletId)
    : Sound ⟨{ books.service with
        addresses := addresses
        moneroAdapters := adapters
        pending := Function.update books.service.pending operation none }, returned, deposits⟩ := by
  refine sound.advance filled (fun _ => rfl) (fun id => by rw [held]; exact fun some => some)
    (fun id => by rw [held]; exact .inl) (fun _ _ _ later => (cleared_some later).2) ?_ rfl apart
    known
  intro other creating found
  left
  have different : other ≠ operation := by
    rintro rfl
    rw [waits] at found
    cases found
  dsimp only
  rw [Function.update_of_ne different, found]

/-- A new address at the wallet keeps its deposits apart exactly when its index is new at the
account, or the wallet's RPC repeats an address.
-/
theorem depositsApart_cons_iff (sound : Sound books) (service : WalletService) (account : ℤ)
    (deposit : DepositAddress) {number : ℤ} (numbered : deposit.subaddressIndex = some number)
    : DepositsApart ⟨service, Function.update books.returned deposit.walletId
        (deposit.address :: books.returned deposit.walletId), (account, deposit) :: books.deposits⟩
      ↔ ((deposit.address :: books.returned deposit.walletId).Nodup →
        ∀ earlier ∈ books.deposits, earlier.2.walletId = deposit.walletId → earlier.1 = account →
          earlier.2.subaddressIndex ≠ some number) := by
  constructor
  · intro apart distinct earlier member sameWallet sameAccount sameIndex
    have pairs := apart deposit.walletId (by simpa using distinct)
    have head := (List.pairwise_cons.mp pairs).1 earlier member rfl sameWallet sameAccount.symm
    exact head.2 (numbered.trans sameIndex.symm)
  · intro numbers id distinct
    dsimp only at distinct ⊢
    by_cases own : id = deposit.walletId
    · subst own
      rw [Function.update_self] at distinct
      obtain ⟨fresh, older⟩ := List.nodup_cons.mp distinct
      refine List.pairwise_cons.mpr ⟨?_, sound.apart _ older⟩
      intro earlier member _ sameWallet sameAccount
      refine ⟨?_, ?_⟩
      · intro sameAddress
        have known := sound.known earlier member
        rw [sameWallet] at known
        exact fresh (sameAddress ▸ known)
      · intro sameIndex
        exact numbers distinct earlier member sameWallet sameAccount.symm
          (sameIndex.symm.trans numbered)
    · rw [Function.update_of_ne own] at distinct
      refine List.pairwise_cons.mpr ⟨?_, sound.apart _ distinct⟩
      intro earlier _ sameWallet
      exact absurd sameWallet.symm own

-- One step

theorem Sound.right {after : WalletBooks} (sound : Sound after)
    (atomic : reply = .raised → AsTheyWere (ownWallet books call) books.service after.service)
    : WalletsRight ⟨books, call, reply, after⟩ :=
  ⟨atomic, sound.addresses, sound.adapters, sound.apart⟩

/-- What a step has to meet, and what it then keeps. -/
def Exact (toInt : JsonValue → Option ℤ) (books : WalletBooks) (call : WalletCall)
    (Condition : Prop) : Prop :=
  (WalletsRight ⟨books, call, (booksStep toInt books call).1, (booksStep toInt books call).2⟩
      ↔ Condition)
    ∧ (Condition → Sound (booksStep toInt books call).2)

theorem creatingMonero_exact (sound : Sound books)
    (waits : books.service.pending operation = some (.creatingMonero walletId))
    : Exact toInt books (.answer operation answer now) (moneroHealthy answer = true) := by
  have stored := sound.stored operation walletId (.inl waits)
  unfold Exact
  cases healthy : moneroHealthy answer with
  | true =>
      have stepped : booksStep toInt books (.answer operation answer now)
          = (.created walletId, ⟨{ books.service with
              pending := Function.update books.service.pending operation none
              moneroAdapters :=
                Function.update books.service.moneroAdapters walletId (some (fun _ => none)) },
              books.returned, books.deposits⟩) := by
        simp [booksStep, walletStep, returnedAfter, depositsAfter, waits, proceed, healthy]
      rw [stepped]
      have kept := sound.createdMonero waits
      exact ⟨iff_of_true (kept.right (fun raised => by cases raised)) rfl, fun _ => kept⟩
  | false =>
      have stepped : booksStep toInt books (.answer operation answer now)
          = (.raised, ⟨{ books.service with
              pending := Function.update books.service.pending operation none },
              books.returned, books.deposits⟩) := by
        simp [booksStep, walletStep, returnedAfter, depositsAfter, waits, proceed, healthy]
      rw [stepped]
      have own : ownWallet books (.answer operation answer now) = some walletId := by
        simp [ownWallet, waits]
      exact ⟨iff_of_false (not_right_of_abandoned own stored) (by simp), by simp⟩

theorem creatingProvider_exact {provider : String} (sound : Sound books)
    (waits : books.service.pending operation = some (.creatingProvider walletId provider))
    : Exact toInt books (.answer operation answer now) (providerHealthy answer = true) := by
  have stored := sound.stored operation walletId (.inr ⟨provider, waits⟩)
  unfold Exact
  cases healthy : providerHealthy answer with
  | true =>
      have stepped : booksStep toInt books (.answer operation answer now)
          = (.created walletId, ⟨{ books.service with
              pending := Function.update books.service.pending operation none
              providerAdapters :=
                Function.update books.service.providerAdapters walletId (some provider) },
              books.returned, books.deposits⟩) := by
        simp [booksStep, walletStep, returnedAfter, depositsAfter, waits, proceed, healthy]
      rw [stepped]
      have kept := sound.createdProvider waits
      exact ⟨iff_of_true (kept.right (fun raised => by cases raised)) rfl, fun _ => kept⟩
  | false =>
      have stepped : booksStep toInt books (.answer operation answer now)
          = (.raised, ⟨{ books.service with
              pending := Function.update books.service.pending operation none },
              books.returned, books.deposits⟩) := by
        simp [booksStep, walletStep, returnedAfter, depositsAfter, waits, proceed, healthy]
      rw [stepped]
      have own : ownWallet books (.answer operation answer now) = some walletId := by
        simp [ownWallet, waits]
      exact ⟨iff_of_false (not_right_of_abandoned own stored) (by simp), by simp⟩

theorem returnedAfter_generating (answer : RpcAnswer) (now : ℚ)
    (waits : books.service.pending operation = some (.generating walletId account index invoiceId))
    : returnedAfter books (.answer operation answer now)
      = Function.update books.returned walletId
        ((returnedAddress answer).toList ++ books.returned walletId) := by
  simp [returnedAfter, waits]

theorem Sound.apart_update (sound : Sound books) (service : WalletService) (walletId : ℕ)
    (new : List String)
    : DepositsApart ⟨service, Function.update books.returned walletId
      (new ++ books.returned walletId), books.deposits⟩ := by
  intro id distinct
  dsimp only at distinct
  refine sound.apart id ?_
  by_cases same : id = walletId
  · subst same
    rw [Function.update_self] at distinct
    exact (List.nodup_append.mp distinct).2.1
  · rwa [Function.update_of_ne same] at distinct

theorem Sound.known_update (sound : Sound books) (walletId : ℕ) (new : List String)
    : ∀ entry ∈ books.deposits, entry.2.address
      ∈ Function.update books.returned walletId (new ++ books.returned walletId)
        entry.2.walletId := by
  intro entry member
  have known := sound.known entry member
  by_cases same : entry.2.walletId = walletId
  · rw [same, Function.update_self, ← same]
    exact List.mem_append_right _ known
  · rwa [Function.update_of_ne same]

/-- An answer that ends without an address is right exactly when the counters are as they were. -/
theorem unrecorded_exact (sound : Sound books)
    (waits : books.service.pending operation = some (.generating walletId account index invoiceId))
    (held : ∀ id, (adapters id).isSome = (books.service.moneroAdapters id).isSome)
    (stepped : walletStep toInt books.service (.answer operation answer now)
      = (.raised, { books.service with
          moneroAdapters := adapters
          pending := Function.update books.service.pending operation none }))
    : Exact toInt books (.answer operation answer now)
      (adapters = books.service.moneroAdapters) := by
  have own : ownWallet books (.answer operation answer now) = none := by
    simp [ownWallet, waits]
  have reached : booksStep toInt books (.answer operation answer now)
      = (.raised, ⟨{ books.service with
          moneroAdapters := adapters
          pending := Function.update books.service.pending operation none },
          Function.update books.returned walletId
            ((returnedAddress answer).toList ++ books.returned walletId), books.deposits⟩) := by
    rw [← returnedAfter_generating answer now waits]
    simp [booksStep, depositsAfter, waits, stepped]
  have kept := sound.generated waits held sound.addresses (sound.apart_update _ walletId _)
    (sound.known_update walletId (returnedAddress answer).toList)
  unfold Exact
  rw [reached]
  refine ⟨⟨fun right => (right.atomic rfl).moneroAdapters, fun same => kept.right fun _ => ?_⟩,
    fun _ => kept⟩
  rw [own]
  exact ⟨fun _ => by simp, rfl, same, rfl⟩

theorem recorded_exact {address : String} {number : ℤ} (sound : Sound books)
    (waits : books.service.pending operation = some (.generating walletId account index invoiceId))
    (given : readSubaddress toInt index answer = .given address number)
    : Exact toInt books (.answer operation answer now)
      (GeneratesRight books (.answer operation answer now) walletId account index
        (.given address number)) := by
  let deposit : DepositAddress :=
    ⟨walletId, invoiceId, "XMR", "MONERO", address, some number, true, now⟩
  let after : WalletService := { books.service with
    addresses := books.service.addresses ++ [deposit]
    moneroAdapters := bumpCounter books.service.moneroAdapters walletId account index
    pending := Function.update books.service.pending operation none }
  have stepped : booksStep toInt books (.answer operation answer now)
      = (.deposited deposit, ⟨after, returnedAfter books (.answer operation answer now),
          (account, deposit) :: books.deposits⟩) := by
    simp [booksStep, walletStep, depositsAfter, waits, proceed, given, recordDeposit, deposit,
      after]
  unfold Exact
  rw [stepped]
  by_cases empty : address = ""
  · refine ⟨iff_of_false (fun right => ?_) (fun condition => condition.1 empty),
      fun condition => absurd empty condition.1⟩
    exact right.addresses deposit (by simp [after]) empty
  · have returned : returnedAfter books (.answer operation answer now)
        = Function.update books.returned walletId (address :: books.returned walletId) := by
      rw [returnedAfter_generating answer now waits, returnedAddress_of_given given empty]
      rfl
    have numbers : DepositsApart ⟨after,
          Function.update books.returned walletId (address :: books.returned walletId),
          (account, deposit) :: books.deposits⟩
        ↔ ((address :: books.returned walletId).Nodup →
          ∀ earlier ∈ books.deposits, earlier.2.walletId = walletId → earlier.1 = account →
            earlier.2.subaddressIndex ≠ some number) :=
      depositsApart_cons_iff sound after account deposit rfl
    have kept (condition : GeneratesRight books (.answer operation answer now) walletId account
          index (.given address number))
        : Sound ⟨after, returnedAfter books (.answer operation answer now),
          (account, deposit) :: books.deposits⟩ := by
      obtain ⟨-, fresh⟩ := condition
      rw [returned, Function.update_self] at fresh
      rw [returned]
      refine sound.generated waits
        (fun id => isSome_bumpCounter books.service.moneroAdapters walletId account index id) ?_
        (numbers.mpr fresh) ?_
      · intro other member
        rcases List.mem_append.mp member with old | new
        · exact sound.addresses other old
        · rw [List.mem_singleton.mp new]
          exact empty
      · intro entry member
        rcases List.mem_cons.mp member with rfl | old
        · simp [deposit]
        · exact sound.known_update walletId [address] entry old
    refine ⟨⟨fun right => ⟨empty, ?_⟩, fun condition => (kept condition).right (by simp)⟩, kept⟩
    have apart := right.apart
    dsimp only at apart
    rw [returned] at apart ⊢
    rw [Function.update_self]
    exact numbers.mp apart

/-- An answer to a subaddress raises before or after the counter is written, or is recorded. One
case per ending.
-/
theorem generating_exact (sound : Sound books)
    (waits : books.service.pending operation = some (.generating walletId account index invoiceId))
    : Exact toInt books (.answer operation answer now)
      (GeneratesRight books (.answer operation answer now) walletId account index
        (readSubaddress toInt index answer)) := by
  cases ended : readSubaddress toInt index answer with
  | unanswered =>
      have unchanged : Exact toInt books (.answer operation answer now)
          (books.service.moneroAdapters = books.service.moneroAdapters) :=
        unrecorded_exact sound waits (fun _ => rfl) (by simp [walletStep, waits, proceed, ended])
      simpa [GeneratesRight] using unchanged
  | invalid =>
      have counted : Exact toInt books (.answer operation answer now)
          (bumpCounter books.service.moneroAdapters walletId account index
            = books.service.moneroAdapters) :=
        unrecorded_exact sound waits
          (fun id => isSome_bumpCounter books.service.moneroAdapters walletId account index id)
          (by simp [walletStep, waits, proceed, ended])
      rw [bumpCounter_eq_self_iff] at counted
      exact counted
  | given address number => exact recorded_exact sound waits ended

theorem quiet_exact (sound : Sound books) (own : ownWallet books call = none)
    (returned : returnedAfter books call = books.returned)
    (deposits : ∀ reply, depositsAfter books reply call = books.deposits)
    (effect : QuietEffect books.service (walletStep toInt books.service call).1
      (walletStep toInt books.service call).2)
    : Exact toInt books call True := by
  have stepped : booksStep toInt books call = ((walletStep toInt books.service call).1,
      ⟨(walletStep toInt books.service call).2, books.returned, books.deposits⟩) := by
    simp [booksStep, returned, deposits]
  unfold Exact
  rw [stepped]
  have kept := sound.quiet effect
  refine ⟨iff_of_true (kept.right fun raised => ?_) trivial, fun _ => kept⟩
  rw [own]
  dsimp only at raised
  rw [raised] at effect
  exact effect.raised

theorem create_exact (sound : Sound books) (idle : books.service.pending operation = none)
    (request : CreateWalletRequest) (now : ℚ)
    : Exact toInt books (.createWallet operation request now)
      (acceptsRequest request = true → ∀ provider, adapterProvider request = some provider →
        provider ∈ supportedProviders) := by
  have stepped : booksStep toInt books (.createWallet operation request now)
      = ((createWallet books.service operation request now).1,
        ⟨(createWallet books.service operation request now).2, books.returned,
          books.deposits⟩) := by
    simp [booksStep, walletStep, idle, returnedAfter, depositsAfter]
  have effect := createWallet_effect books.service operation request now
  have kept := sound.create idle effect
  unfold Exact
  rw [stepped]
  refine ⟨⟨fun right => (create_atomic_iff sound effect).mp right.atomic, fun condition => ?_⟩,
    fun _ => kept⟩
  exact kept.right ((create_atomic_iff sound effect).mpr condition)

theorem step_exact (sound : Sound books) (call : WalletCall)
    : Exact toInt books call (StepsRight toInt books call) := by
  cases call with
  | createWallet operation request now =>
      cases idle : books.service.pending operation with
      | none => simpa [StepsRight, idle] using create_exact sound idle request now
      | some waiting =>
          have quiet : Exact toInt books (.createWallet operation request now) True :=
            quiet_exact sound rfl rfl (fun _ => rfl)
              (by simpa [walletStep, idle] using .same .nothing)
          simpa [StepsRight, idle] using quiet
  | generateAddress operation walletId request now =>
      refine quiet_exact sound rfl rfl (fun _ => rfl) ?_
      cases idle : books.service.pending operation with
      | none =>
          simpa [walletStep, idle] using generateAddress_quiet idle walletId request now
      | some waiting => simpa [walletStep, idle] using .same .nothing
  | generateMoneroSubaddress operation walletId account invoiceId =>
      refine quiet_exact sound rfl rfl (fun _ => rfl) ?_
      cases idle : books.service.pending operation with
      | none =>
          simpa [walletStep, idle] using
            generateMoneroSubaddress_quiet idle walletId account invoiceId
      | some waiting => simpa [walletStep, idle] using .same .nothing
  | rotateWallet walletId newPublicAddress now =>
      exact quiet_exact sound rfl rfl (fun _ => rfl)
        (rotateWallet_quiet books.service walletId newPublicAddress now)
  | answer operation answer now =>
      cases waits : books.service.pending operation with
      | none =>
          have quiet : Exact toInt books (.answer operation answer now) True :=
            quiet_exact sound (by simp [ownWallet, waits]) (by simp [returnedAfter, waits])
              (fun _ => by simp [depositsAfter, waits])
              (by simpa [walletStep, waits] using .same .nothing)
          simpa [StepsRight, waits] using quiet
      | some pending =>
          have condition : StepsRight toInt books (.answer operation answer now)
              ↔ ProceedsRight toInt books (.answer operation answer now) answer pending := by
            simp [StepsRight, waits]
          rw [condition]
          cases pending with
          | creatingMonero walletId => exact creatingMonero_exact sound waits
          | creatingProvider walletId provider => exact creatingProvider_exact sound waits
          | generating walletId account index invoiceId => exact generating_exact sound waits

-- Monero wallets that wait for their adapter

def NoneCreating (service : WalletService) : Prop :=
  ∀ operation walletId, service.pending operation ≠ some (.creatingMonero walletId)

theorem Sound.always (sound : Sound books) (idle : NoneCreating books.service)
    : AdaptersAlways books.service := by
  intro walletId wallet found type
  rcases sound.adapters walletId wallet found type with adapter | ⟨operation, waits⟩
  · exact adapter
  · exact absurd waits (idle operation walletId)

theorem QuietEffect.noneCreating {before after : WalletService}
    (effect : QuietEffect before reply after) (idle : NoneCreating before)
    : NoneCreating after := by
  cases effect with
  | same => exact idle
  | awaits operation walletId account index invoiceId _ =>
      intro other creating waits
      rcases update_some_cases waits with ⟨-, same⟩ | ⟨-, old⟩
      · cases same
      · exact idle other creating old
  | records => exact idle
  | rotates => exact idle

theorem CreateEffect.noneCreating {before after : WalletService} {request : CreateWalletRequest}
    (effect : CreateEffect before operation request reply after) (idle : NoneCreating before)
    (other : acceptsRequest request = true → request.walletType ≠ .monero)
    : NoneCreating after := by
  cases effect with
  | refuses => exact idle
  | stores wallet checked number type known reply returns pending awaits =>
      rcases awaits with rfl | ⟨provider, rfl⟩
      · exact idle
      · intro found creating waits
        rcases update_some_cases waits with ⟨-, same⟩ | ⟨-, old⟩
        · cases same
        · exact idle found creating old
  | storesMonero wallet checked number type monero => exact absurd monero (other checked)
  | abandons => exact idle

theorem proceed_pending (toInt : JsonValue → Option ℤ) (service : WalletService)
    (answer : RpcAnswer) (now : ℚ) (pending : Pending)
    : (proceed toInt service answer now pending).2.pending = service.pending := by
  cases pending with
  | creatingMonero walletId =>
      simp only [proceed]
      split <;> rfl
  | creatingProvider walletId provider =>
      simp only [proceed]
      split <;> rfl
  | generating walletId account index invoiceId =>
      simp only [proceed]
      split <;> rfl

theorem noneCreating_step (idle : NoneCreating books.service) (stores : ¬ StoresMonero books call)
    : NoneCreating (booksStep toInt books call).2.service := by
  change NoneCreating (walletStep toInt books.service call).2
  cases call with
  | createWallet operation request now =>
      cases started : books.service.pending operation with
      | none =>
          have effect := createWallet_effect books.service operation request now
          simp only [walletStep, started]
          refine effect.noneCreating idle fun accepted monero => stores ?_
          exact ⟨operation, request, now, rfl, started, accepted, monero⟩
      | some waiting => simpa [walletStep, started] using idle
  | generateAddress operation walletId request now =>
      cases started : books.service.pending operation with
      | none =>
          simp only [walletStep, started]
          have effect := generateAddress_quiet started walletId request now
          exact effect.noneCreating idle
      | some waiting => simpa [walletStep, started] using idle
  | generateMoneroSubaddress operation walletId account invoiceId =>
      cases started : books.service.pending operation with
      | none =>
          simp only [walletStep, started]
          have effect := generateMoneroSubaddress_quiet started walletId account invoiceId
          exact effect.noneCreating idle
      | some waiting => simpa [walletStep, started] using idle
  | rotateWallet walletId newPublicAddress now =>
      exact (rotateWallet_quiet books.service walletId newPublicAddress now).noneCreating idle
  | answer operation answer now =>
      cases waits : books.service.pending operation with
      | none => simpa [walletStep, waits] using idle
      | some pending =>
          simp only [walletStep, waits]
          intro other creating found
          rw [proceed_pending] at found
          exact idle other creating (cleared_some found).2

theorem not_always_of_stores (sound : Sound books) (stores : StoresMonero books call)
    : ¬ AdaptersAlways (booksStep toInt books call).2.service := by
  obtain ⟨operation, request, now, rfl, idle, accepted, monero⟩ := stores
  intro always
  have found : (booksStep toInt books (.createWallet operation request now)).2.service.wallets.find?
      books.service.nextWallet = some (newWallet request books.service.nextWallet now) := by
    simp [booksStep, walletStep, idle, createWallet, accepted, monero, Table.find?_put, newWallet]
  have held := always _ _ found monero
  have adapters
      : (booksStep toInt books (.createWallet operation request now)).2.service.moneroAdapters
        = books.service.moneroAdapters := by
    simp [booksStep, walletStep, idle, createWallet, accepted, monero]
  rw [adapters, (sound.fresh _ le_rfl).2] at held
  cases held

-- Every run

theorem sound_newBooks : Sound newBooks :=
  ⟨by simp [newBooks, newService], fun _ _ found => by simp [newBooks, newService] at found,
    fun _ _ => List.Pairwise.nil, by simp [newBooks], fun _ _ waits => by
      simp [newBooks, newService] at waits, fun _ _ => ⟨rfl, rfl⟩⟩

/-- In any interleaving of the operations, what raises is undone, addresses are not empty, Monero
wallets whose creation is over have an adapter and deposits are apart, exactly when no step asks for
an adapter of an unknown provider, every health check succeeds, and each answer to a subaddress
either leaves the counter as it was or gives an address that is not empty with an index that is new,
unless the RPC repeats one. With an adapter for every Monero wallet in the table at all times,
exactly when moreover no Monero wallet is stored.
-/
theorem walletOperations_iff (toInt : JsonValue → Option ℤ) (calls : List WalletCall)
    : ((∀ visit ∈ visits (booksStep toInt) newBooks calls, WalletsRight visit)
        ↔ ∀ visit ∈ visits (booksStep toInt) newBooks calls,
          StepsRight toInt visit.before visit.call)
      ∧ ((∀ visit ∈ visits (booksStep toInt) newBooks calls,
          WalletsRight visit ∧ AdaptersAlways visit.after.service)
        ↔ ∀ visit ∈ visits (booksStep toInt) newBooks calls,
          StepsRight toInt visit.before visit.call ∧ ¬ StoresMonero visit.before visit.call) := by
  constructor
  · exact throughout_iff (fun books call sound (_ : True) => (step_exact sound call).1)
      (fun books call sound _ right => (step_exact sound call).2 right) sound_newBooks
      (fun _ _ => trivial)
  · have right (books : WalletBooks) (call : WalletCall)
        (good : Sound books ∧ NoneCreating books.service) (_ : True)
        : WalletsRight ⟨books, call, (booksStep toInt books call).1, (booksStep toInt books call).2⟩
            ∧ AdaptersAlways (booksStep toInt books call).2.service
          ↔ StepsRight toInt books call ∧ ¬ StoresMonero books call := by
      obtain ⟨right, kept⟩ : Exact toInt books call (StepsRight toInt books call) :=
        step_exact good.1 call
      constructor
      · intro ⟨met, always⟩
        exact ⟨right.mp met, fun stores => not_always_of_stores good.1 stores always⟩
      · intro ⟨steps, stores⟩
        exact ⟨right.mpr steps, (kept steps).always (noneCreating_step good.2 stores)⟩
    have kept (books : WalletBooks) (call : WalletCall)
        (good : Sound books ∧ NoneCreating books.service) (_ : True)
        (allowed : StepsRight toInt books call ∧ ¬ StoresMonero books call)
        : Sound (booksStep toInt books call).2
          ∧ NoneCreating (booksStep toInt books call).2.service :=
      ⟨(step_exact good.1 call).2 allowed.1, noneCreating_step good.2 allowed.2⟩
    have idle : NoneCreating newService := fun _ _ waits => by cases waits
    exact throughout_iff right kept ⟨sound_newBooks, idle⟩ (fun _ _ => trivial)

def plainInt : JsonValue → Option ℤ
  | .int number => some number
  | _ => none

def viewOnlyRequest : CreateWalletRequest :=
  ⟨"tenant", "donations", .monero, .viewOnly, none, none, none, none,
    some (.dict [("restore_height", .int 0)])⟩

def versionAnswer : RpcAnswer :=
  .http 200 (some (.dict [("result", .dict [("version", .int 65563)])]))

def errorAnswer : RpcAnswer := .http 200 (some (.dict [("error", .dict [("code", .int (-13))])]))

/-- A wallet whose health check fails stays in the table, and a subaddress whose answer has no
result is recorded with an empty address.
-/
theorem failed_check_keeps_wallet
    : (¬ ∀ visit ∈ visits (booksStep plainInt) newBooks
          [.createWallet 0 viewOnlyRequest 0, .answer 0 errorAnswer 1], WalletsRight visit)
      ∧ ¬ ∀ visit ∈ visits (booksStep plainInt) newBooks
          [.createWallet 0 viewOnlyRequest 0, .answer 0 versionAnswer 1,
            .generateAddress 1 0 ⟨"XMR", "MONERO", none⟩ 2, .answer 1 errorAnswer 3],
          WalletsRight visit := by
  constructor
  · intro all
    have right := all _ (List.mem_of_getLast? rfl)
    have undone : true = false := congrArg Option.isSome ((right.atomic rfl).wallets 0)
    cases undone
  · intro all
    have right := all _ (List.mem_of_getLast? rfl)
    exact right.addresses ⟨0, none, "XMR", "MONERO", "", some 0, true, 3⟩ List.mem_cons_self rfl

section SpendKeys

open Relation RomaBridge.Model.DashBeam

/-- A value is the value of a key of a dictionary, or an item of a list. -/
inductive Contains : Json → Json → Prop where
  | entry {entries : List (String × Json)} {key : String} {value : Json}
      : (key, value) ∈ entries → Contains (.dict entries) value
  | item {items : List Json} {item : Json} : item ∈ items → Contains (.list items) item

/-- A value is contained otherwise than as a list in a list. -/
def Scanned (outer inner : Json) : Prop :=
  Contains outer inner ∧ ¬∃ items inside, outer = .list items ∧ inner = .list inside

/-- The dictionary has a key that is a forbidden one, whatever its case. -/
def HasForbiddenKey (py : PyLower) (entries : List (String × Json)) : Prop :=
  ∃ entry ∈ entries, py.lower entry.1 ∈ forbiddenKeys

def KeyReached (py : PyLower) (step : Json → Json → Prop) (value : Json) : Prop :=
  ∃ entries, ReflTransGen step value (.dict entries) ∧ HasForbiddenKey py entries

/-- The checks let no spend key through, and hold back nothing else. -/
structure SpendKeysBlocked (py : PyLower) (value : Json) : Prop where
  accepted : validateShareData py value = .ok () ↔ ¬KeyReached py Contains value
  viewOnly : ∀ entries, value = .dict entries → validateShareData py value = .ok () →
    validateMoneroViewOnly entries = .ok ()

/-- Where a dictionary has a forbidden key anywhere inside, one such key is reached without going
from a list to a list in it. What is no dictionary has a forbidden key inside.
-/
def KeysInSight (py : PyLower) : Json → Prop
  | .dict entries =>
      KeyReached py Contains (.dict entries) → KeyReached py Scanned (.dict entries)
  | value => KeyReached py Contains value

variable {py : PyLower}

theorem keyReached_iff {step : Json → Json → Prop} {value : Json}
    : KeyReached py step value
      ↔ (∃ entries, value = .dict entries ∧ HasForbiddenKey py entries)
        ∨ ∃ inner, step value inner ∧ KeyReached py step inner := by
  constructor
  · rintro ⟨entries, reached, has⟩
    rcases ReflTransGen.cases_head_iff.mp reached with same | ⟨inner, first, rest⟩
    · exact .inl ⟨entries, same, has⟩
    · exact .inr ⟨inner, first, entries, rest, has⟩
  · rintro (⟨entries, rfl, has⟩ | ⟨inner, first, entries, rest, has⟩)
    · exact ⟨entries, .refl, has⟩
    · exact ⟨entries, .head first rest, has⟩

theorem KeyReached.mono {value : Json} (found : KeyReached py Scanned value)
    : KeyReached py Contains value := by
  obtain ⟨entries, reached, has⟩ := found
  exact ⟨entries, reached.lift id (fun _ _ scanned => scanned.1), has⟩

theorem not_keyReached_scalar (value : Model.PyValue) : ¬KeyReached py Scanned (.scalar value) := by
  rw [keyReached_iff]
  rintro (⟨_, same, _⟩ | ⟨_, ⟨inside, _⟩, _⟩)
  · cases same
  · cases inside

theorem keyReached_nil : ¬KeyReached py Scanned (.dict []) := by
  rw [keyReached_iff]
  rintro (⟨_, same, entry, within, _⟩ | ⟨_, ⟨inside, _⟩, _⟩)
  · cases same
    cases within
  · cases inside with
    | entry within => cases within

theorem keyReached_cons {key : String} {value : Json} {rest : List (String × Json)}
    : KeyReached py Scanned (.dict ((key, value) :: rest))
      ↔ py.lower key ∈ forbiddenKeys ∨ KeyReached py Scanned value
        ∨ KeyReached py Scanned (.dict rest) := by
  have below {entries : List (String × Json)} {inner : Json}
      : Scanned (.dict entries) inner ↔ ∃ key, (key, inner) ∈ entries := by
    constructor
    · rintro ⟨inside, _⟩
      cases inside with
      | entry within => exact ⟨_, within⟩
    · rintro ⟨key, within⟩
      exact ⟨.entry within, fun ⟨_, _, outer, _⟩ => by cases outer⟩
  rw [keyReached_iff, @keyReached_iff py Scanned (.dict rest)]
  simp only [Json.dict.injEq, exists_eq_left', HasForbiddenKey, List.mem_cons, exists_eq_or_imp,
    below, Prod.mk.injEq, exists_or, exists_eq_left']
  grind

theorem keyReached_items {items : List Json}
    : KeyReached py Scanned (.list items)
      ↔ ∃ entries, .dict entries ∈ items ∧ KeyReached py Scanned (.dict entries) := by
  rw [keyReached_iff]
  constructor
  · rintro (⟨_, same, _⟩ | ⟨inner, ⟨inside, flat⟩, found⟩)
    · cases same
    · cases inside with
      | item within =>
          cases inner with
          | scalar value => exact absurd found (not_keyReached_scalar value)
          | list nested => exact absurd ⟨_, nested, rfl, rfl⟩ flat
          | dict entries => exact ⟨entries, within, found⟩
  · rintro ⟨entries, within, found⟩
    exact .inr ⟨_, ⟨.item within, fun ⟨_, _, _, inner⟩ => by cases inner⟩, found⟩

mutual

theorem scanDict_ok_iff (path : String) : ∀ entries : List (String × Json),
    scanDict py path entries = .ok () ↔ ¬KeyReached py Scanned (.dict entries)
  | [] => by simp [scanDict, keyReached_nil]
  | (key, value) :: rest => by
      have inner := scanValue_ok_iff s!"{path}.{key}" value
      have later := scanDict_ok_iff path rest
      rw [keyReached_cons, not_or, not_or, ← inner, ← later, scanDict]
      by_cases bad : py.lower key ∈ forbiddenKeys
      · simp [bad, bind, Except.bind, throw, throwThe, MonadExceptOf.throw]
      · cases scanned : scanValue py s!"{path}.{key}" value <;> simp [bad, bind, Except.bind]

theorem scanValue_ok_iff (fullPath : String) : ∀ value : Json,
    scanValue py fullPath value = .ok () ↔ ¬KeyReached py Scanned value
  | .dict entries => by rw [scanValue, scanDict_ok_iff]
  | .list items => by rw [scanValue, scanItems_ok_iff, keyReached_items]
  | .scalar value => by simp [scanValue, not_keyReached_scalar]

theorem scanItems_ok_iff (fullPath : String) (i : ℕ) : ∀ items : List Json,
    scanItems py fullPath i items = .ok ()
      ↔ ¬∃ entries, .dict entries ∈ items ∧ KeyReached py Scanned (.dict entries)
  | [] => by simp [scanItems]
  | .dict entries :: rest => by
      have first := scanDict_ok_iff s!"{fullPath}[{i}]" entries
      have later := scanItems_ok_iff fullPath (i + 1) rest
      rw [scanItems]
      cases scanned : scanDict py s!"{fullPath}[{i}]" entries <;> simp_all [bind, Except.bind]
  | .list _ :: rest => by
      rw [scanItems, scanItems_ok_iff fullPath (i + 1) rest]
      simp
  | .scalar _ :: rest => by
      rw [scanItems, scanItems_ok_iff fullPath (i + 1) rest]
      simp

end

theorem validateShareData_dict {entries : List (String × Json)}
    : validateShareData py (.dict entries) = .ok () ↔ ¬KeyReached py Scanned (.dict entries) :=
  scanDict_ok_iff "root" entries

theorem lower_viewOnly {key : String} (within : key ∈ viewOnlyForbidden)
    : py.lower key ∈ forbiddenKeys := by
  have small : ∀ key ∈ viewOnlyForbidden,
      key.toList.all (fun c => c.isLower || c == '_') ∧ key ∈ forbiddenKeys := by decide
  rw [py.small key (small key within).1]
  exact (small key within).2

theorem viewOnly_of_accepted {entries : List (String × Json)}
    (accepted : validateShareData py (.dict entries) = .ok ())
    : validateMoneroViewOnly entries = .ok () := by
  rw [validateMoneroViewOnly]
  cases found : viewOnlyForbidden.find? (fun key => entries.any (fun entry => entry.1 == key)) with
  | none => rfl
  | some key =>
      have named := List.find?_some found
      obtain ⟨entry, within, same⟩ := List.any_eq_true.mp named
      have bad : py.lower entry.1 ∈ forbiddenKeys := by
        rw [eq_of_beq same]
        exact lower_viewOnly (List.mem_of_find?_eq_some found)
      exact absurd ⟨entries, .refl, entry, within, bad⟩ (validateShareData_dict.mp accepted)

/-- The checks let no spend key through, and hold back nothing else, exactly on the values of which
no forbidden key is out of sight.
-/
theorem spend_keys_blocked_iff (value : Json)
    : SpendKeysBlocked py value ↔ KeysInSight py value := by
  cases value with
  | dict entries =>
      constructor
      · intro blocked found
        by_contra unseen
        exact blocked.accepted.mp (validateShareData_dict.mpr unseen) found
      · intro inSight
        refine ⟨?_, ?_⟩
        · rw [validateShareData_dict]
          exact not_congr ⟨KeyReached.mono, inSight⟩
        · rintro _ ⟨⟩ accepted
          exact viewOnly_of_accepted accepted
  | list items =>
      refine ⟨fun blocked => ?_, fun found => ⟨?_, fun _ same => by cases same⟩⟩
      · simpa [validateShareData, KeysInSight] using blocked.accepted
      · simpa [validateShareData, KeysInSight] using found
  | scalar value =>
      refine ⟨fun blocked => ?_, fun found => ⟨?_, fun _ same => by cases same⟩⟩
      · simpa [validateShareData, KeysInSight] using blocked.accepted
      · simpa [validateShareData, KeysInSight] using found

def lowerAscii : PyLower where
  lower text := String.ofList (text.toList.map Char.toLower)
  small text all := by
    have kept : ∀ c ∈ text.toList, c.toLower = c := by
      intro c within
      rcases (Bool.or_eq_true _ _).mp (List.all_eq_true.mp all c within) with lower | underscore
      · have small : (decide (97 ≤ c.val) && decide (c.val ≤ 122)) = true := lower
        have above : (97 : UInt32) ≤ c.val := of_decide_eq_true ((Bool.and_eq_true _ _).mp small).1
        exact dif_neg (by grind)
      · rw [beq_iff_eq.mp underscore]
        decide
    rw [List.map_congr_left kept, List.map_id', String.ofList_toList]

/-- A seed in a list of lists is shared. -/
theorem nested_seed_accepted
    : let data := Json.dict [("a", .list [.list [.dict [("seed", .scalar .none)]]])]
      validateShareData lowerAscii data = .ok () ∧ ¬SpendKeysBlocked lowerAscii data := by
  have accepted : validateShareData lowerAscii
      (.dict [("a", .list [.list [.dict [("seed", .scalar .none)]]])]) = .ok () := rfl
  refine ⟨accepted, fun blocked => blocked.accepted.mp accepted ?_⟩
  refine ⟨[("seed", .scalar .none)], ?_, _, List.mem_singleton_self _, by decide⟩
  exact .head (.entry (List.mem_singleton_self _)) (.head (.item (List.mem_singleton_self _))
    (.single (.item (List.mem_singleton_self _))))

end SpendKeys

end RomaBridge.Properties
