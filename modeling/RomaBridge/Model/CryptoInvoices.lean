import RomaBridge.Model.PyValues

/-! The crypto invoices of `crypto_payments`: the service, the webhook handler and the answers of
NOWPayments. Nothing is stored: `_load_invoice` makes the invoice of every id up.
-/

namespace RomaBridge.Model.CryptoInvoices

open RomaBridge.Foundation

inductive CryptoCurrency where
  | usdtTrc20
  | usdtErc20
  | usdc
  | btc
  | ton
  | sol
  deriving DecidableEq

inductive CryptoNetwork where
  | trc20
  | erc20
  | btc
  | ton
  | sol
  deriving DecidableEq

def CryptoNetwork.value : CryptoNetwork → String
  | .trc20 => "TRC20"
  | .erc20 => "ERC20"
  | .btc => "BTC"
  | .ton => "TON"
  | .sol => "SOL"

def networkForCurrency : CryptoCurrency → CryptoNetwork
  | .usdtTrc20 => .trc20
  | .usdtErc20 | .usdc => .erc20
  | .btc => .btc
  | .ton => .ton
  | .sol => .sol

inductive InvoiceStatus where
  | pending
  | confirming
  | paid
  | overpaid
  | underpaid
  | expired
  | failed
  deriving DecidableEq

def InvoiceStatus.value : InvoiceStatus → String
  | .pending => "pending"
  | .confirming => "confirming"
  | .paid => "paid"
  | .overpaid => "overpaid"
  | .underpaid => "underpaid"
  | .expired => "expired"
  | .failed => "failed"

def InvoiceStatus.all : List InvoiceStatus :=
  [.pending, .confirming, .paid, .overpaid, .underpaid, .expired, .failed]

/-- `InvoiceStatus(value)`, `none` where it raises. -/
def InvoiceStatus.ofValue? : JsonValue → Option InvoiceStatus
  | .str text => InvoiceStatus.all.find? (fun status => status.value = text)
  | _ => none

inductive TierName where
  | start
  | pro
  | enterprise
  deriving DecidableEq

def tierPricesUsd : TierName → ℚ
  | .start => 49
  | .pro => 149
  | .enterprise => 499

def paymentTtlSeconds : ℚ := 3600

/-- `CryptoInvoice`. A date is in seconds. What the provider answers is copied in unchecked. -/
structure CryptoInvoice where
  invoiceId : ℕ
  tenantId : String
  tier : TierName
  currency : CryptoCurrency
  network : CryptoNetwork
  amountCrypto : Option ℚ
  amountUsd : ℚ
  payAddress : JsonValue
  status : InvoiceStatus
  providerInvoiceId : JsonValue
  createdAt : ℚ
  expiresAt : ℚ
  paidAt : Option ℚ
  matchesTier : amountUsd = tierPricesUsd tier

structure CryptoPayment where
  invoiceId : ℕ
  tenantId : String
  txHash : String
  currency : CryptoCurrency
  network : CryptoNetwork
  amountPaid : ℚ
  amountUsd : ℚ
  receivedAt : ℚ

structure CreateInvoiceRequest where
  tenantId : String
  tier : TierName
  currency : CryptoCurrency
  notEmpty : tenantId ≠ ""

structure CreateInvoiceResponse where
  invoiceId : ℕ
  status : InvoiceStatus
  payAddress : String
  amountCrypto : ℚ
  amountUsd : ℚ
  currency : CryptoCurrency
  network : CryptoNetwork
  expiresAt : ℚ

structure InvoiceStatusResponse where
  invoiceId : ℕ
  status : InvoiceStatus
  tier : TierName
  amountCrypto : Option ℚ
  amountUsd : ℚ
  payAddress : JsonValue
  createdAt : ℚ
  expiresAt : ℚ
  paidAt : Option ℚ

/-- The conversions of Python: `uuid.UUID(text)` and `float(value)`, `none` where they raise, and
`str(value)` of values that are no text.
-/
structure Conversions where
  uuid : String → Option ℕ
  float : JsonValue → Option ℚ
  display : JsonValue → String

/-- `str(value)`. -/
def Conversions.str (python : Conversions) : JsonValue → String
  | .str text => text
  | value => python.display value

-- The provider

/-- What `POST /invoice` answers: no answer is an HTTP error, or one that is no JSON object. -/
abbrev HttpAnswer := Option JsonDict

/-- `NOWPaymentsProvider.create_invoice`. -/
def providerCreate (python : Conversions) (network : CryptoNetwork) (answer : HttpAnswer) (now : ℚ)
    : Option JsonDict := do
  let data ← answer
  let id ← data.get? "id"
  let payAddress ← data.get? "pay_address"
  let payAmount ← data.get? "pay_amount"
  let amount ← python.float payAmount
  let payCurrency ← data.get? "pay_currency"
  some (JsonDict.ofList
    [("provider_invoice_id", .str (python.str id)), ("pay_address", payAddress),
      ("amount_crypto", .float amount), ("currency", payCurrency),
      ("network", .str network.value), ("expires_at", .float now)])

-- The service

/-- The invoice that `create_invoice` makes before it asks the provider. -/
def newInvoice (request : CreateInvoiceRequest) (invoiceId : ℕ) (now : ℚ) : CryptoInvoice where
  invoiceId := invoiceId
  tenantId := request.tenantId
  tier := request.tier
  currency := request.currency
  network := networkForCurrency request.currency
  amountCrypto := none
  amountUsd := tierPricesUsd request.tier
  payAddress := .null
  status := .pending
  providerInvoiceId := .null
  createdAt := now
  expiresAt := now + paymentTtlSeconds
  paidAt := none
  matchesTier := rfl

/-- `pay_address or ""`, when it is a text, as the response demands. -/
def addressOf (payAddress : JsonValue) : Option String :=
  if payAddress.truthy then
    match payAddress with
    | .str text => some text
    | _ => none
  else
    some ""

/-- `create_invoice`: the invoice and the response, `none` where it raises. -/
def createInvoice (python : Conversions) (request : CreateInvoiceRequest) (invoiceId : ℕ)
    (answer : HttpAnswer) (now : ℚ)
    : Option (CryptoInvoice × CreateInvoiceResponse) := do
  let invoice := newInvoice request invoiceId now
  let providerResult ← providerCreate python invoice.network answer now
  let invoice := { invoice with
    payAddress := providerResult.getOr "pay_address" (.str "")
    providerInvoiceId := providerResult.getOr "invoice_id" (.str "") }
  let payAddress ← addressOf invoice.payAddress
  some (invoice, {
    invoiceId := invoice.invoiceId
    status := invoice.status
    payAddress := payAddress
    amountCrypto := invoice.amountCrypto.getD 0
    amountUsd := invoice.amountUsd
    currency := invoice.currency
    network := invoice.network
    expiresAt := invoice.expiresAt })

def loadInvoice (invoiceId : ℕ) (now : ℚ) : CryptoInvoice where
  invoiceId := invoiceId
  tenantId := "demo"
  tier := .start
  currency := .usdtTrc20
  network := .trc20
  amountCrypto := none
  amountUsd := tierPricesUsd .start
  payAddress := .str "0x0"
  status := .pending
  providerInvoiceId := .str "np_demo"
  createdAt := now
  expiresAt := now + paymentTtlSeconds
  paidAt := none
  matchesTier := rfl

/-- The status that `get_invoice` reads: the provider's, when its answer has one. -/
def statusRaw (invoice : CryptoInvoice) (answer : HttpAnswer) : JsonValue :=
  match answer with
  | none => .str invoice.status.value
  | some data => data.getOr "payment_status" (.str invoice.status.value)

/-- `get_invoice`, `none` where it raises. -/
def getInvoice (python : Conversions) (invoiceId : String) (answer : HttpAnswer) (now : ℚ)
    : Option InvoiceStatusResponse := do
  let id ← python.uuid invoiceId
  let invoice := loadInvoice id now
  let status ← InvoiceStatus.ofValue? (statusRaw invoice answer)
  some {
    invoiceId := invoice.invoiceId
    status := status
    tier := invoice.tier
    amountCrypto := invoice.amountCrypto
    amountUsd := invoice.amountUsd
    payAddress := invoice.payAddress
    createdAt := invoice.createdAt
    expiresAt := invoice.expiresAt
    paidAt := invoice.paidAt }

structure CryptoWebhookEvent where
  rawPayload : JsonDict
  invoiceId : Option ℕ
  status : InvoiceStatus

/-- `process_webhook`: the payment it makes, if any; `none` where it raises. Without an id it loads
the invoice of `"None"`, which is no UUID.
-/
def processWebhook (python : Conversions) (event : CryptoWebhookEvent) (now : ℚ)
    : Option (Option CryptoPayment) :=
  if event.status ≠ .paid then
    some none
  else do
    let id ← event.invoiceId
    let invoice := loadInvoice id now
    let amountPaid ← decimalOfText (python.str (event.rawPayload.getOr "actually_paid" (.str "0")))
    some (some {
      invoiceId := invoice.invoiceId
      tenantId := invoice.tenantId
      txHash := python.str (event.rawPayload.getOr "payin_hash" (.str ""))
      currency := invoice.currency
      network := invoice.network
      amountPaid := amountPaid
      amountUsd := invoice.amountUsd
      receivedAt := now })

-- The webhook

def webhookFinalStatuses : List String := ["finished", "confirmed", "complete"]

/-- `payment_status in WEBHOOK_FINAL_STATUSES`. -/
def isFinal : JsonValue → Bool
  | .str text => text ∈ webhookFinalStatuses
  | _ => false

/-- `CryptoWebhookHandler.handle`: the status it answers with and the payment it makes, if any;
`none` where it raises. A payload that is no JSON object raises, and so does a status that cannot be
looked up in a set. The partial and the failed statuses are only logged.
-/
def handle (python : Conversions) (signed : Bool) (payload : Option JsonDict) (now : ℚ)
    : Option (JsonValue × Option CryptoPayment) :=
  if !signed then
    none
  else do
    let data ← payload
    let paymentStatus := data.getOr "payment_status" (.str "")
    let orderId := python.str (data.getOr "order_id" (.str ""))
    match paymentStatus with
    | .list _ | .dict _ => none
    | _ =>
        if isFinal paymentStatus then
          let invoiceId ← if orderId = "" then some none else (python.uuid orderId).map some
          let payment ← processWebhook python ⟨data, invoiceId, .paid⟩ now
          some (paymentStatus, payment)
        else
          some (paymentStatus, none)

end RomaBridge.Model.CryptoInvoices
