import RomaBridge.Foundation.Trace
import RomaBridge.Model.CryptoInvoices

/-! A crypto payment is booked on the invoice it paid. The service keeps no invoice: every payment
goes to the one that `_load_invoice` makes up, and the answer of the provider to nowhere.
-/

namespace RomaBridge.Properties

open RomaBridge.Foundation RomaBridge.Model RomaBridge.Model.CryptoInvoices

/-- An invoice that was created, with the crypto amount that the provider asked for. -/
structure CreatedInvoice where
  invoice : CryptoInvoice
  owed : JsonValue

/-- The invoices created and the payments made so far, the newest first. -/
structure CryptoBooks where
  created : List CreatedInvoice
  payments : List CryptoPayment

/-- A call: of the service, or the delivery of a correctly signed webhook. -/
inductive CryptoCall where
  | createInvoice (request : CreateInvoiceRequest) (invoiceId : ℕ) (answer : HttpAnswer) (now : ℚ)
  | getInvoice (invoiceId : String) (answer : HttpAnswer) (now : ℚ)
  | deliver (payload : Option JsonDict) (now : ℚ)

inductive CryptoReply where
  | raised
  | created (response : CreateInvoiceResponse)
  | status (response : InvoiceStatusResponse)
  | processed (paymentStatus : JsonValue)

/-- What the provider's answer says under a key, `null` when it says nothing. -/
def provided (python : Conversions) (request : CreateInvoiceRequest) (answer : HttpAnswer) (now : ℚ)
    (key : String)
    : JsonValue :=
  match providerCreate python (networkForCurrency request.currency) answer now with
  | none => .null
  | some result => result.getOr key .null

def cryptoStep (python : Conversions) (books : CryptoBooks)
    : CryptoCall → CryptoReply × CryptoBooks
  | .createInvoice request invoiceId answer now =>
      match CryptoInvoices.createInvoice python request invoiceId answer now with
      | none => (.raised, books)
      | some (invoice, response) =>
          (.created response, { books with
            created :=
              ⟨invoice, provided python request answer now "amount_crypto"⟩ :: books.created })
  | .getInvoice invoiceId answer now =>
      match CryptoInvoices.getInvoice python invoiceId answer now with
      | none => (.raised, books)
      | some response => (.status response, books)
  | .deliver payload now =>
      match handle python true payload now with
      | none => (.raised, books)
      | some (paymentStatus, payment) =>
          (.processed paymentStatus, { books with payments := payment.toList ++ books.payments })

/-- The payment is the first one of an invoice that was created, is on its tenant, tier and
currency, and covers it.
-/
def BookedRight (books : CryptoBooks) (payment : CryptoPayment) : Prop :=
  (∀ earlier ∈ books.payments, earlier.invoiceId ≠ payment.invoiceId)
  ∧ ∃ created ∈ books.created, created.invoice.invoiceId = payment.invoiceId
    ∧ payment.tenantId = created.invoice.tenantId
    ∧ payment.amountUsd = tierPricesUsd created.invoice.tier
    ∧ payment.currency = created.invoice.currency ∧ payment.network = created.invoice.network
    ∧ ∃ owed, created.owed = .float owed ∧ owed ≤ payment.amountPaid

def reported (answer : HttpAnswer) : Option JsonValue :=
  answer.bind (fun data => data.get? "payment_status")

def BooksRight (python : Conversions) (visit : Visit CryptoBooks CryptoCall CryptoReply) : Prop :=
  match visit.call with
  | .createInvoice request invoiceId answer now =>
      ∀ response, visit.reply = .created response →
        provided python request answer now "pay_address" = .str response.payAddress
        ∧ provided python request answer now "amount_crypto" = .float response.amountCrypto
        ∧ ∀ later,
          provided python request answer now "provider_invoice_id"
            = (loadInvoice invoiceId later).providerInvoiceId
          ∧ provided python request answer now "pay_address"
            = (loadInvoice invoiceId later).payAddress
          ∧ some (provided python request answer now "amount_crypto")
            = (loadInvoice invoiceId later).amountCrypto.map JsonValue.float
  | .getInvoice invoiceId answer _ =>
      (python.uuid invoiceId).isSome → ∃ response, visit.reply = .status response
        ∧ (response.status = .paid
          ↔ ∃ status, reported answer = some status ∧ isFinal status = true)
  | .deliver _ _ =>
      ∀ payment, visit.after.payments = payment :: visit.before.payments →
        BookedRight visit.before payment

/-- The provider's answer has what `create_invoice` reads of it, and an address that is a text or
nothing.
-/
def Usable (python : Conversions) (answer : HttpAnswer) : Prop :=
  ∃ data payAddress payAmount, answer = some data ∧ (data.get? "id").isSome
    ∧ data.get? "pay_address" = some payAddress ∧ (addressOf payAddress).isSome
    ∧ data.get? "pay_amount" = some payAmount ∧ (python.float payAmount).isSome
    ∧ (data.get? "pay_currency").isSome

/-- The notification is final, and its order id and its amount can be read. -/
def Records (python : Conversions) (payload : Option JsonDict) : Prop :=
  ∃ data, payload = some data ∧ isFinal (data.getOr "payment_status" (.str "")) = true
    ∧ python.str (data.getOr "order_id" (.str "")) ≠ ""
    ∧ (python.uuid (python.str (data.getOr "order_id" (.str "")))).isSome
    ∧ (decimalOfText (python.str (data.getOr "actually_paid" (.str "0")))).isSome

/-- The call creates no invoice, records no payment and reads no status but those that both sides
know, `paid` excepted.
-/
def Harmless (python : Conversions) : CryptoCall → Prop
  | .createInvoice _ _ answer _ => ¬ Usable python answer
  | .getInvoice invoiceId answer _ =>
      (python.uuid invoiceId).isSome → ∀ value, reported answer = some value →
        ∃ status, status ≠ InvoiceStatus.paid ∧ value = .str status.value
  | .deliver payload _ => ¬ Records python payload

-- What the calls do

theorem providerCreate_eq_some {python : Conversions} {network : CryptoNetwork}
    {answer : HttpAnswer} {now : ℚ} {result : JsonDict}
    (answered : providerCreate python network answer now = some result)
    : ∃ data payAddress payAmount, answer = some data ∧ (data.get? "id").isSome
      ∧ data.get? "pay_address" = some payAddress ∧ data.get? "pay_amount" = some payAmount
      ∧ (python.float payAmount).isSome ∧ (data.get? "pay_currency").isSome
      ∧ result.get? "pay_address" = some payAddress ∧ result.get? "invoice_id" = none := by
  simp only [providerCreate, Option.bind_eq_bind, Option.bind_eq_some_iff, Option.some.injEq]
    at answered
  obtain ⟨data, rfl, id, hasId, payAddress, hasAddress, payAmount, hasAmount, amount, number,
    payCurrency, hasCurrency, rfl⟩ := answered
  refine ⟨data, payAddress, payAmount, rfl, by simp [hasId], hasAddress, hasAmount,
    by simp [number], by simp [hasCurrency], ?_, ?_⟩
  · simp [JsonDict.ofList, JsonDict.get?]
  · simp [JsonDict.ofList, JsonDict.get?]

theorem providerCreate_isSome {python : Conversions} {network : CryptoNetwork} {data : JsonDict}
    {payAmount : JsonValue} {now : ℚ} (hasId : (data.get? "id").isSome)
    (hasAddress : (data.get? "pay_address").isSome)
    (hasAmount : data.get? "pay_amount" = some payAmount)
    (number : (python.float payAmount).isSome) (hasCurrency : (data.get? "pay_currency").isSome)
    : (providerCreate python network (some data) now).isSome := by
  obtain ⟨id, hasId⟩ := Option.isSome_iff_exists.mp hasId
  obtain ⟨payAddress, hasAddress⟩ := Option.isSome_iff_exists.mp hasAddress
  obtain ⟨amount, number⟩ := Option.isSome_iff_exists.mp number
  obtain ⟨payCurrency, hasCurrency⟩ := Option.isSome_iff_exists.mp hasCurrency
  simp [providerCreate, hasId, hasAddress, hasAmount, number, hasCurrency]

theorem createInvoice_isSome_iff (python : Conversions) (request : CreateInvoiceRequest)
    (invoiceId : ℕ) (answer : HttpAnswer) (now : ℚ)
    : (CryptoInvoices.createInvoice python request invoiceId answer now).isSome
      ↔ Usable python answer := by
  constructor
  · intro returned
    obtain ⟨pair, returned⟩ := Option.isSome_iff_exists.mp returned
    simp only [CryptoInvoices.createInvoice, Option.bind_eq_bind, Option.bind_eq_some_iff]
      at returned
    obtain ⟨result, answered, address, found, -⟩ := returned
    obtain ⟨data, payAddress, payAmount, rfl, hasId, hasAddress, hasAmount, number, hasCurrency,
      given, -⟩ := providerCreate_eq_some answered
    rw [JsonDict.getOr, given, Option.getD_some] at found
    exact ⟨data, payAddress, payAmount, rfl, hasId, hasAddress, by simp [found], hasAmount, number,
      hasCurrency⟩
  · rintro ⟨data, payAddress, payAmount, rfl, hasId, hasAddress, address, hasAmount, number,
      hasCurrency⟩
    obtain ⟨result, answered⟩ := Option.isSome_iff_exists.mp
      (@providerCreate_isSome python (networkForCurrency request.currency) data payAmount now hasId
        (by simp [hasAddress]) hasAmount number hasCurrency)
    obtain ⟨data', payAddress', payAmount', same, -, hasAddress', -, -, -, given, -⟩ :=
      providerCreate_eq_some answered
    cases same
    rw [hasAddress, Option.some.injEq] at hasAddress'
    subst hasAddress'
    obtain ⟨text, address⟩ := Option.isSome_iff_exists.mp address
    simp [CryptoInvoices.createInvoice, newInvoice, answered, JsonDict.getOr, given, address]

theorem text_of_isFinal {value : JsonValue} (final : isFinal value = true)
    : ∃ text, value = .str text := by
  cases value with
  | str text => exact ⟨text, rfl⟩
  | null | bool | int | float | list | dict => cases final

theorem processWebhook_paid (python : Conversions) (data : JsonDict) (id : ℕ) (now : ℚ)
    : (∃ payment, processWebhook python ⟨data, some id, .paid⟩ now = some (some payment))
      ↔ (decimalOfText (python.str (data.getOr "actually_paid" (.str "0")))).isSome := by
  unfold processWebhook
  cases decimalOfText (python.str (data.getOr "actually_paid" (.str "0"))) <;> simp

theorem handle_payment_iff (python : Conversions) (payload : Option JsonDict) (now : ℚ)
    : (∃ paymentStatus payment,
        handle python true payload now = some (paymentStatus, some payment))
      ↔ Records python payload := by
  unfold Records
  cases payload with
  | none => simp [handle]
  | some data =>
      simp only [handle, Option.some.injEq, exists_eq_left', Bool.not_true, Bool.false_eq_true,
        if_false, Option.bind_eq_bind, Option.bind_some]
      cases final : isFinal (data.getOr "payment_status" (.str "")) with
      | false =>
          refine iff_of_false ?_ (by simp)
          rintro ⟨paymentStatus, payment, made⟩
          split at made <;> simp at made
      | true =>
          obtain ⟨text, status⟩ := text_of_isFinal final
          rw [status]
          simp only [if_true, true_and]
          by_cases unnamed : python.str (data.getOr "order_id" (.str "")) = ""
          · simp [unnamed, processWebhook]
          · cases parsed : python.uuid (python.str (data.getOr "order_id" (.str ""))) with
            | none => simp [unnamed]
            | some id =>
                rw [← processWebhook_paid python data id now]
                simp [unnamed, Option.bind_eq_some_iff]

theorem ofValue?_eq_some {value : JsonValue} {status : InvoiceStatus}
    : InvoiceStatus.ofValue? value = some status ↔ value = .str status.value := by
  constructor
  · intro found
    cases value with
    | str text =>
        have same := List.find?_some found
        rw [decide_eq_true_eq] at same
        rw [same]
    | null | bool | int | float | list | dict => cases found
  · rintro rfl
    cases status <;> rfl

theorem isFinal_value (status : InvoiceStatus) : isFinal (.str status.value) = false := by
  cases status <;> decide

theorem statusRaw_eq (id : ℕ) (now : ℚ) (answer : HttpAnswer)
    : statusRaw (loadInvoice id now) answer
      = (reported answer).getD (.str InvoiceStatus.pending.value) := by
  cases answer <;> rfl

theorem getInvoice_status {python : Conversions} {invoiceId : String} {id : ℕ} {answer : HttpAnswer}
    {now : ℚ} (parsed : python.uuid invoiceId = some id) (status : InvoiceStatus)
    : (∃ response, CryptoInvoices.getInvoice python invoiceId answer now = some response
        ∧ response.status = status)
      ↔ (reported answer).getD (.str InvoiceStatus.pending.value) = .str status.value := by
  rw [← statusRaw_eq id now, ← ofValue?_eq_some]
  simp only [CryptoInvoices.getInvoice, parsed, Option.bind_eq_bind, Option.bind_some]
  cases InvoiceStatus.ofValue? (statusRaw (loadInvoice id now) answer) <;> simp

theorem getInvoice_right_iff {python : Conversions} {invoiceId : String} {answer : HttpAnswer}
    {now : ℚ} (parsed : (python.uuid invoiceId).isSome)
    : (∃ response, CryptoInvoices.getInvoice python invoiceId answer now = some response
        ∧ (response.status = .paid
          ↔ ∃ status, reported answer = some status ∧ isFinal status = true))
      ↔ ∀ value, reported answer = some value →
        ∃ status, status ≠ InvoiceStatus.paid ∧ value = .str status.value := by
  obtain ⟨id, parsed⟩ := Option.isSome_iff_exists.mp parsed
  have answers := @getInvoice_status python invoiceId id answer now parsed
  constructor
  · rintro ⟨response, returned, exactly⟩ value known
    have same := (answers response.status).mp ⟨response, returned, rfl⟩
    rw [known, Option.getD_some] at same
    refine ⟨response.status, ?_, same⟩
    intro paid
    obtain ⟨status, again, final⟩ := exactly.mp paid
    rw [known, Option.some.injEq] at again
    subst again
    rw [same, isFinal_value] at final
    cases final
  · intro known
    cases found : reported answer with
    | none =>
        obtain ⟨response, returned, pending⟩ := (answers .pending).mpr (by rw [found]; rfl)
        exact ⟨response, returned, by simp [pending]⟩
    | some value =>
        obtain ⟨status, other, rfl⟩ := known value found
        obtain ⟨response, returned, same⟩ := (answers status).mpr (by rw [found]; rfl)
        exact ⟨response, returned, by simp [same, other, isFinal_value]⟩

def emptyBooks : CryptoBooks := ⟨[], []⟩

theorem booksRight_iff (python : Conversions) (call : CryptoCall)
    : BooksRight python ⟨emptyBooks, call, (cryptoStep python emptyBooks call).1,
        (cryptoStep python emptyBooks call).2⟩
      ↔ Harmless python call := by
  cases call with
  | createInvoice request invoiceId answer now =>
      simp only [BooksRight, Harmless, cryptoStep]
      rw [← createInvoice_isSome_iff python request invoiceId answer now]
      cases CryptoInvoices.createInvoice python request invoiceId answer now with
      | none => simp
      | some pair =>
          refine iff_of_false ?_ (by simp)
          intro right
          -- the invoice that is made up has no crypto amount
          have amount := ((right pair.2 rfl).2.2 0).2.2
          cases amount
  | getInvoice invoiceId answer now =>
      simp only [BooksRight, Harmless, cryptoStep]
      refine imp_congr_right (fun parsed => ?_)
      rw [← getInvoice_right_iff parsed]
      cases CryptoInvoices.getInvoice python invoiceId answer now <;> simp
  | deliver payload now =>
      simp only [BooksRight, Harmless, cryptoStep]
      rw [← handle_payment_iff python payload now]
      cases handled : handle python true payload now with
      | none => simp
      | some pair =>
          obtain ⟨paymentStatus, payment⟩ := pair
          cases payment with
          | none => simp
          | some payment =>
              refine iff_of_false ?_ (by simp)
              intro right
              obtain ⟨-, created, member, -⟩ := right payment rfl
              cases member

theorem emptyBooks_of_harmless {python : Conversions} {call : CryptoCall}
    (harmless : Harmless python call)
    : (cryptoStep python emptyBooks call).2 = emptyBooks := by
  cases call with
  | createInvoice request invoiceId answer now =>
      simp only [Harmless] at harmless
      rw [← createInvoice_isSome_iff python request invoiceId answer now,
        Option.not_isSome_iff_eq_none] at harmless
      simp only [cryptoStep, harmless]
  | getInvoice invoiceId answer now =>
      simp only [cryptoStep]
      split <;> rfl
  | deliver payload now =>
      simp only [Harmless] at harmless
      rw [← handle_payment_iff python payload now] at harmless
      simp only [cryptoStep]
      split
      · rfl
      · rename_i paymentStatus payment handled
        cases payment with
        | none => rfl
        | some payment => exact absurd ⟨paymentStatus, payment, handled⟩ harmless

/-- Payments are booked on the invoices they paid exactly when no invoice is created, no payment is
recorded and every status that is read is one of an invoice.
-/
theorem cryptoBooking_iff (python : Conversions) (calls : List CryptoCall)
    : (∀ visit ∈ visits (cryptoStep python) emptyBooks calls, BooksRight python visit)
      ↔ ∀ visit ∈ visits (cryptoStep python) emptyBooks calls, Harmless python visit.call := by
  have exact_ : ∀ books call, books = emptyBooks → True →
      (BooksRight python ⟨books, call, (cryptoStep python books call).1,
        (cryptoStep python books call).2⟩ ↔ Harmless python call) := by
    rintro _ call rfl -
    exact booksRight_iff python call
  refine throughout_iff exact_ ?_ rfl (fun _ _ => trivial)
  rintro _ call rfl - harmless
  exact emptyBooks_of_harmless harmless

/-- The conversions of the values below. -/
def plainConversions : Conversions where
  uuid text := if text = "00000000-0000-0000-0000-000000000001" then some 1 else none
  float
    | .float value => some value
    | _ => none
  display _ := ""

/-- An invoice of a tenant for the tier `pro`, to be paid in bitcoin. -/
def proRequest : CreateInvoiceRequest := ⟨"tenant-1", .pro, .btc, by decide⟩

def proAnswer : HttpAnswer :=
  some (JsonDict.ofList
    [("id", .str "np-1"), ("pay_address", .str "bc1q"), ("pay_amount", .float 2),
      ("pay_currency", .str "btc")])

def paidNothing : Option JsonDict :=
  some (JsonDict.ofList
    [("payment_status", .str "finished"),
      ("order_id", .str "00000000-0000-0000-0000-000000000001"), ("actually_paid", .str "0")])

/-- The payment is booked on another tenant. -/
theorem payment_on_demo_tenant
    : ¬ ∀ visit ∈ visits (cryptoStep plainConversions) emptyBooks
        [.createInvoice proRequest 1 proAnswer 0, .deliver paidNothing 0],
      BooksRight plainConversions visit := by
  intro all
  have right := all _ (List.mem_of_getLast? rfl)
  obtain ⟨-, created, member, -, tenant, -⟩ := right
    ⟨1, "demo", "", .usdtTrc20, .trc20, 0, 49, 0⟩ rfl
  obtain rfl := List.mem_singleton.mp member
  exact absurd tenant (by decide)

end RomaBridge.Properties
