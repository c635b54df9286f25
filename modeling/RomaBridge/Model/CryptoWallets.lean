import RomaBridge.Model.PyValues

/-! The wallets of `crypto_payments/wallets`: the service with its Monero and provider adapters.
What a coroutine does between two awaits is one step of any number of operations; one that awaits
its RPC is pending until the answer comes or it is cancelled.
-/

namespace RomaBridge.Model.CryptoWallets

open RomaBridge.Foundation

inductive WalletType where
  | provider
  | selfHosted
  | hardware
  | monero
  deriving DecidableEq

inductive WalletMode where
  | hot
  | viewOnly
  | cold
  deriving DecidableEq

inductive WalletStatus where
  | active
  | rotating
  | retired
  | compromised
  deriving DecidableEq

/-- `CryptoWallet`. A date is in seconds; the ids are in the order of creation. -/
structure CryptoWallet where
  walletId : ℕ
  tenantId : String
  label : String
  walletType : WalletType
  mode : WalletMode
  provider : Option String
  publicAddress : Option String
  rpcEndpoint : Option String
  viewKey : Option String
  status : WalletStatus
  createdAt : ℚ
  rotatedAt : Option ℚ
  metadata : JsonValue

structure DepositAddress where
  walletId : ℕ
  invoiceId : Option ℕ
  currency : String
  network : String
  address : String
  subaddressIndex : Option ℤ
  isMoneroSubaddress : Bool
  createdAt : ℚ

/-- `CreateWalletRequest`, with the dump of its `monero_config`. -/
structure CreateWalletRequest where
  tenantId : String
  label : String
  walletType : WalletType
  mode : WalletMode
  provider : Option String
  publicAddress : Option String
  rpcEndpoint : Option String
  viewKey : Option String
  moneroConfig : Option JsonValue

structure GenerateAddressRequest where
  currency : String
  network : String
  invoiceId : Option ℕ

/-- `_subaddress_counter` of an adapter, by account. -/
abbrev Counters := ℤ → Option ℕ

/-- What an operation that awaits goes on with. -/
inductive Pending where
  | creatingMonero (walletId : ℕ)
  | creatingProvider (walletId : ℕ) (provider : String)
  | generating (walletId : ℕ) (account : ℤ) (index : ℕ) (invoiceId : Option ℕ)

/-- `CryptoWalletService`, with the operations that await. -/
structure WalletService where
  wallets : Table ℕ CryptoWallet CryptoWallet.walletId
  addresses : List DepositAddress
  moneroAdapters : ℕ → Option Counters
  providerAdapters : ℕ → Option String
  pending : ℕ → Option Pending
  nextWallet : ℕ

/-- What ends an await: an exception or a cancellation, or the answer with its status code and its
body, if that is JSON.
-/
inductive RpcAnswer where
  | raised
  | http (status : ℕ) (body : Option JsonValue)

inductive WalletReply where
  | nothing
  | raised
  | created (walletId : ℕ)
  | deposited (deposit : DepositAddress)
  | rotated (oldStatus : WalletStatus)

-- The adapters

def supportedProviders : List String := ["nowpayments", "heleket", "cryptocloud", "btcpay"]

/-- `_rpc_call`, when its answer is a JSON object. `raise_for_status` only lets the codes of success
through.
-/
def rpcCall : RpcAnswer → Option (List (String × JsonValue))
  | .http status (some (.dict entries)) =>
      if 200 ≤ status ∧ status < 300 then some entries else none
  | _ => none

/-- `entries.get(key, default)`. -/
def entry (entries : List (String × JsonValue)) (key : String) (default : JsonValue) : JsonValue :=
  ((entries.find? (fun item => item.1 = key)).map Prod.snd).getD default

/-- `MoneroWalletAdapter.health_check`: the answer has a result. -/
def moneroHealthy (answer : RpcAnswer) : Bool :=
  match rpcCall answer with
  | none => false
  | some result =>
      match entry result "result" .null with
      | .null => false
      | _ => true

/-- `ProviderWalletAdapter.health_check`. -/
def providerHealthy : RpcAnswer → Bool
  | .raised => false
  | .http status _ => status = 200

/-- How the rest of `generate_subaddress` ends: before the counter is written, after it, or with an
address and an index.
-/
inductive Subaddress where
  | unanswered
  | invalid
  | given (address : String) (index : ℤ)

/-- The rest of `generate_subaddress`, from its answer on. The index is the one that was read before
the await; `toInt` is what `MoneroSubaddress` takes for an integer.
-/
def readSubaddress (toInt : JsonValue → Option ℤ) (index : ℕ) (answer : RpcAnswer) : Subaddress :=
  match rpcCall answer with
  | none => .unanswered
  | some result =>
      match entry result "result" (.dict []) with
      | .dict data =>
          match entry data "address" (.str ""), toInt (entry data "address_index" (.int index)) with
          | .str address, some number => .given address number
          | _, _ => .invalid
      | _ => .invalid

def bumpCounter (adapters : ℕ → Option Counters) (walletId : ℕ) (account : ℤ) (index : ℕ)
    : ℕ → Option Counters :=
  Function.update adapters walletId
    ((adapters walletId).map (fun counters => Function.update counters account (some (index + 1))))

-- The operations

def newWallet (request : CreateWalletRequest) (walletId : ℕ) (now : ℚ) : CryptoWallet where
  walletId := walletId
  tenantId := request.tenantId
  label := request.label
  walletType := request.walletType
  mode := request.mode
  provider := request.provider
  publicAddress := request.publicAddress
  rpcEndpoint := request.rpcEndpoint
  viewKey := request.viewKey
  status := .active
  createdAt := now
  rotatedAt := none
  metadata := request.moneroConfig.getD (.dict [])

/-- The checks at the start of `create_wallet`. -/
def acceptsRequest (request : CreateWalletRequest) : Bool :=
  !(request.walletType = .monero && request.moneroConfig.isNone) && request.mode ≠ .hot

/-- The provider that `create_wallet` makes an adapter for. -/
def adapterProvider (request : CreateWalletRequest) : Option String :=
  if request.walletType = .provider then request.provider.filter (fun provider => provider ≠ "")
  else none

/-- `create_wallet`, up to its health check. An adapter for an unsupported provider raises. -/
def createWallet (service : WalletService) (operation : ℕ) (request : CreateWalletRequest) (now : ℚ)
    : WalletReply × WalletService :=
  if !acceptsRequest request then
    (.raised, service)
  else
    let walletId := service.nextWallet
    let stored := { service with
      wallets := service.wallets.put (newWallet request walletId now)
      nextWallet := walletId + 1 }
    let awaits (pending : Pending) : WalletReply × WalletService :=
      (.nothing, { stored with
        pending := Function.update stored.pending operation (some pending) })
    if request.walletType = .monero then
      awaits (.creatingMonero walletId)
    else
      match adapterProvider request with
      | none => (.created walletId, stored)
      | some provider =>
          if provider ∈ supportedProviders then awaits (.creatingProvider walletId provider)
          else (.raised, stored)

/-- A coroutine of `generate_subaddress`, up to its RPC: the index is read here. -/
def startGenerating (service : WalletService) (operation walletId : ℕ) (account : ℤ)
    (invoiceId : Option ℕ)
    : WalletReply × WalletService :=
  match service.moneroAdapters walletId with
  | none => (.raised, service)
  | some counters =>
      (.nothing, { service with
        pending := Function.update service.pending operation
          (some (.generating walletId account ((counters account).getD 0) invoiceId)) })

def recordDeposit (service : WalletService) (deposit : DepositAddress)
    : WalletReply × WalletService :=
  (.deposited deposit, { service with addresses := service.addresses ++ [deposit] })

/-- `public_address`, or a text made of the wallet's id. -/
def staticAddress (wallet : CryptoWallet) : String :=
  match wallet.publicAddress.filter (fun address => address ≠ "") with
  | some address => address
  | none => "static_" ++ toString wallet.walletId

theorem staticAddress_ne_empty (wallet : CryptoWallet) : staticAddress wallet ≠ "" := by
  unfold staticAddress
  split
  · rename_i address found
    simpa using (Option.filter_eq_some_iff.mp found).2
  · intro empty
    exact absurd (String.append_eq_empty_iff.mp empty).1 (by decide)

/-- `generate_address`. The provider's adapter answers without an await. -/
def generateAddress (service : WalletService) (operation walletId : ℕ)
    (request : GenerateAddressRequest) (now : ℚ)
    : WalletReply × WalletService :=
  match service.wallets.find? walletId with
  | none => (.raised, service)
  | some wallet =>
      match wallet.walletType with
      | .monero => startGenerating service operation walletId 0 request.invoiceId
      | .provider =>
          match service.providerAdapters walletId with
          | none => (.raised, service)
          | some provider =>
              recordDeposit service ⟨walletId, request.invoiceId, request.currency, request.network,
                provider ++ "_" ++ request.currency ++ "_" ++ request.network ++ "_addr", none,
                false, now⟩
      | .selfHosted | .hardware =>
          recordDeposit service ⟨walletId, request.invoiceId, request.currency, request.network,
            staticAddress wallet, none, false, now⟩

/-- `generate_monero_subaddress`, up to its RPC. -/
def generateMoneroSubaddress (service : WalletService) (operation walletId : ℕ) (account : ℤ)
    (invoiceId : Option ℕ)
    : WalletReply × WalletService :=
  match service.wallets.find? walletId with
  | none => (.raised, service)
  | some wallet =>
      if wallet.walletType ≠ .monero then (.raised, service)
      else startGenerating service operation walletId account invoiceId

def rotateWallet (service : WalletService) (walletId : ℕ) (newPublicAddress : Option String)
    (now : ℚ)
    : WalletReply × WalletService :=
  match service.wallets.find? walletId with
  | none => (.raised, service)
  | some wallet =>
      (.rotated wallet.status, { service with
        wallets := service.wallets.put { wallet with
          publicAddress :=
            (newPublicAddress.filter (fun address => address ≠ "")).or wallet.publicAddress
          status := .active
          rotatedAt := some now } })

/-- The rest of an operation, from its answer on. -/
def proceed (toInt : JsonValue → Option ℤ) (service : WalletService) (answer : RpcAnswer) (now : ℚ)
    : Pending → WalletReply × WalletService
  | .creatingMonero walletId =>
      if moneroHealthy answer then
        (.created walletId, { service with
          moneroAdapters :=
            Function.update service.moneroAdapters walletId (some (fun _ => none)) })
      else
        (.raised, service)
  | .creatingProvider walletId provider =>
      if providerHealthy answer then
        (.created walletId, { service with
          providerAdapters := Function.update service.providerAdapters walletId (some provider) })
      else
        (.raised, service)
  | .generating walletId account index invoiceId =>
      let bumped := { service with
        moneroAdapters := bumpCounter service.moneroAdapters walletId account index }
      match readSubaddress toInt index answer with
      | .unanswered => (.raised, service)
      | .invalid => (.raised, bumped)
      | .given address number =>
          recordDeposit bumped
            ⟨walletId, invoiceId, "XMR", "MONERO", address, some number, true, now⟩

-- Steps

/-- A step: the start of an operation, or what ends the await of one. -/
inductive WalletCall where
  | createWallet (operation : ℕ) (request : CreateWalletRequest) (now : ℚ)
  | generateAddress (operation walletId : ℕ) (request : GenerateAddressRequest) (now : ℚ)
  | generateMoneroSubaddress (operation walletId : ℕ) (account : ℤ) (invoiceId : Option ℕ)
  | rotateWallet (walletId : ℕ) (newPublicAddress : Option String) (now : ℚ)
  | answer (operation : ℕ) (answer : RpcAnswer) (now : ℚ)

/-- One step. An operation starts once. -/
def walletStep (toInt : JsonValue → Option ℤ) (service : WalletService)
    : WalletCall → WalletReply × WalletService
  | .createWallet operation request now =>
      if (service.pending operation).isSome then (.nothing, service)
      else createWallet service operation request now
  | .generateAddress operation walletId request now =>
      if (service.pending operation).isSome then (.nothing, service)
      else generateAddress service operation walletId request now
  | .generateMoneroSubaddress operation walletId account invoiceId =>
      if (service.pending operation).isSome then (.nothing, service)
      else generateMoneroSubaddress service operation walletId account invoiceId
  | .rotateWallet walletId newPublicAddress now =>
      rotateWallet service walletId newPublicAddress now
  | .answer operation answer now =>
      match service.pending operation with
      | none => (.nothing, service)
      | some pending =>
          proceed toInt
            { service with pending := Function.update service.pending operation none } answer now
            pending

def newService : WalletService :=
  ⟨Table.empty, [], fun _ => none, fun _ => none, fun _ => none, 0⟩

end RomaBridge.Model.CryptoWallets

/-! What DashBeam checks of wallet data before it shares it. The recursion limit is left out. -/

namespace RomaBridge.Model.DashBeam

inductive Json where
  | scalar (value : PyValue)
  | list (items : List Json)
  | dict (entries : List (String × Json))

/-- `str.lower()`, of which only small ASCII letters matter here. -/
structure PyLower where
  lower : String → String
  small : ∀ text, text.toList.all (fun c => c.isLower || c == '_') → lower text = text

/-- An exception that the checks raise. -/
inductive ShareError where
  | valueError (message : String)
  | attributeError

def forbiddenKeys : List String :=
  ["spend_key", "spendkey", "secret_spend_key", "seed", "mnemonic", "seed_phrase", "private_key",
    "secret_key", "master_key", "wallet_password", "passphrase"]

variable (py : PyLower)

mutual

/-- `MoneroSharingValidator._scan_dict`. -/
def scanDict (path : String) : List (String × Json) → Except ShareError Unit
  | [] => .ok ()
  | (key, value) :: rest => do
      if py.lower key ∈ forbiddenKeys then
        throw (.valueError
          s!"SPEND KEY BLOCKED at '{path}.{key}'. DashBeam never transfers spend keys.")
      scanValue s!"{path}.{key}" value
      scanDict path rest

/-- What `_scan_dict` does with the value of a key. -/
def scanValue (fullPath : String) : Json → Except ShareError Unit
  | .dict entries => scanDict fullPath entries
  | .list items => scanItems fullPath 0 items
  | .scalar _ => .ok ()

/-- The loop of `_scan_dict` over a list, from the item at an index. -/
def scanItems (fullPath : String) (i : ℕ) : List Json → Except ShareError Unit
  | [] => .ok ()
  | .dict entries :: rest => do
      scanDict s!"{fullPath}[{i}]" entries
      scanItems fullPath (i + 1) rest
  | .list _ :: rest | .scalar _ :: rest => scanItems fullPath (i + 1) rest

end

/-- `MoneroSharingValidator.validate_share_data`. Only a dictionary has `items`. -/
def validateShareData : Json → Except ShareError Unit
  | .dict entries => scanDict py "root" entries
  | .list _ | .scalar _ => .error .attributeError

/-- The keys that `DashBeamTransferService.validate_monero_view_only` looks for. -/
def viewOnlyForbidden : List String :=
  ["spend_key", "spendkey", "secret_spend_key", "seed", "mnemonic", "private_key"]

/-- `DashBeamTransferService.validate_monero_view_only`. -/
def validateMoneroViewOnly (data : List (String × Json)) : Except ShareError Unit :=
  match viewOnlyForbidden.find? (fun key => data.any (fun entry => entry.1 == key)) with
  | some key => .error (.valueError s!"Blocked: spend key detected in field '{key}'")
  | none => .ok ()

end RomaBridge.Model.DashBeam
