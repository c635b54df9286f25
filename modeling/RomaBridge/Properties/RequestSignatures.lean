import RomaBridge.Foundation.Separated
import RomaBridge.Foundation.Trace
import RomaBridge.Model.AuthEngine

/-! Signed requests, and keys that were revoked, rotated or refused, over calls at any times. The signed
message is four texts with colons between them, and a tenant without a secret has the empty signature.
A key whose time of expiry is zero never expires.
-/

namespace RomaBridge.Properties

open RomaBridge.Foundation RomaBridge.Model RomaBridge.Model.Auth

variable {floatText : PyFloat → String} {hmacSha256 : String → String → HexDigest}
  {engine : AuthEngine} {tenantId : String} {request other : SignedRequest} {signature : String}
  {now : ℚ}

/-- A signature verifies only for a tenant with a secret, and for the one request it was made for with
that secret.
-/
structure SignatureSound (floatText : PyFloat → String)
    (hmacSha256 : String → String → HexDigest) (engine : AuthEngine) (tenantId : String)
    (request : SignedRequest) (signature : String) (now : ℚ) : Prop where
  issued : engine.verifySignature floatText hmacSha256 tenantId request signature now = some true →
    ∃ secret, engine.hmacSecrets tenantId = some secret ∧ secret ≠ ""
      ∧ signature = (hmacSha256 secret (AuthEngine.message floatText request)).text
  only : engine.verifySignature floatText hmacSha256 tenantId request signature now = some true →
    ∀ signer other, engine.signRequest floatText hmacSha256 signer other = signature →
      other = request

def HasSecret (engine : AuthEngine) (tenantId : String) : Prop :=
  ∃ secret, engine.hmacSecrets tenantId = some secret ∧ secret ≠ ""

def NoColons (request : SignedRequest) : Prop :=
  ':' ∉ request.method.toList ∧ ':' ∉ request.path.toList ∧ ':' ∉ request.body.toList

-- The message

theorem toList_message (floatText : PyFloat → String) (request : SignedRequest)
    : (AuthEngine.message floatText request).toList
      = (request.method.toList ++ ':' :: (request.path.toList ++ ':' :: request.body.toList))
        ++ ':' :: (floatText request.timestamp).toList := by
  simp [AuthEngine.message]

theorem parts_eq {first second third first' second' third' : List Char} (lacks : ':' ∉ first)
    (lacks' : ':' ∉ second) (lacks'' : ':' ∉ third)
    (same : first' ++ ':' :: (second' ++ ':' :: third') = first ++ ':' :: (second ++ ':' :: third))
    : first' = first ∧ second' = second ∧ third' = third := by
  have colons := congrArg (List.count ':') same
  simp only [List.count_append, List.count_cons_self] at colons
  have none_ : List.count ':' first = 0 ∧ List.count ':' second = 0 ∧ List.count ':' third = 0 :=
    ⟨List.count_eq_zero.mpr lacks, List.count_eq_zero.mpr lacks', List.count_eq_zero.mpr lacks''⟩
  have free : ':' ∉ first' := List.count_eq_zero.mp (by omega)
  have free' : ':' ∉ second' := List.count_eq_zero.mp (by omega)
  obtain ⟨firsts, rest⟩ := (append_sep_inj_left free lacks).mp same
  exact ⟨firsts, (append_sep_inj_left free' lacks').mp rest⟩

theorem request_of_message (distinct : Function.Injective floatText)
    (plain : ∀ timestamp, ':' ∉ (floatText timestamp).toList) (free : NoColons request)
    (same : AuthEngine.message floatText other = AuthEngine.message floatText request)
    : other = request := by
  obtain ⟨free, free', free''⟩ := free
  have characters := congrArg String.toList same
  rw [toList_message, toList_message, append_sep_inj_right (plain _) (plain _)] at characters
  obtain ⟨texts, timestamps⟩ := characters
  obtain ⟨methods, paths, bodies⟩ := parts_eq free free' free'' texts
  have timestamp := distinct (String.toList_inj.mp timestamps)
  cases other
  cases request
  simp only [SignedRequest.mk.injEq]
  exact ⟨String.toList_inj.mp methods, String.toList_inj.mp paths, String.toList_inj.mp bodies,
    timestamp⟩

theorem exists_other_request (colons : ¬ NoColons request)
    : ∃ other, other ≠ request
        ∧ AuthEngine.message floatText other = AuthEngine.message floatText request := by
  obtain ⟨method, path, body, timestamp⟩ := request
  by_cases inBody : ':' ∈ body.toList
  · obtain ⟨front, back, split⟩ := List.append_of_mem inBody
    refine ⟨⟨method, path ++ ":" ++ String.ofList front, String.ofList back, timestamp⟩, ?_, ?_⟩
    · intro same
      have paths := congrArg (fun request => request.path.toList.length) same
      simp at paths
    · apply String.toList_inj.mp
      simp [toList_message, split]
  by_cases inPath : ':' ∈ path.toList
  · obtain ⟨front, back, split⟩ := List.append_of_mem inPath
    refine ⟨⟨method ++ ":" ++ String.ofList front, String.ofList back, body, timestamp⟩, ?_, ?_⟩
    · intro same
      have methods := congrArg (fun request => request.method.toList.length) same
      simp at methods
    · apply String.toList_inj.mp
      simp [toList_message, split]
  have inMethod : ':' ∈ method.toList := by
    by_contra absent
    exact colons ⟨absent, inPath, inBody⟩
  obtain ⟨front, back, split⟩ := List.append_of_mem inMethod
  refine ⟨⟨String.ofList front, String.ofList back ++ ":" ++ path, body, timestamp⟩, ?_, ?_⟩
  · intro same
    have paths := congrArg (fun request => request.path.toList.length) same
    simp only [String.toList_append, String.toList_ofList, List.length_append] at paths
    simp at paths
  · apply String.toList_inj.mp
    simp [toList_message, split]

-- What verifies

theorem HexDigest.ascii (digest : HexDigest)
    : digest.text.toList.all (fun c => c.toNat < 128) = true := by
  refine List.all_eq_true.mpr ?_
  intro c member
  have hex := List.all_eq_true.mp digest.hex c member
  simp only [isHexDigit, Char.isDigit, Bool.or_eq_true, Bool.and_eq_true, decide_eq_true_eq,
    Char.le_def, UInt32.le_iff_toNat_le] at hex ⊢
  rcases hex with ⟨_, digit⟩ | ⟨_, letter⟩
  · exact digit.trans_lt (by decide)
  · exact letter.trans_lt (by decide)

theorem signRequest_of_secret {secret : String} (found : engine.hmacSecrets tenantId = some secret)
    (given : secret ≠ "")
    : engine.signRequest floatText hmacSha256 tenantId request
      = (hmacSha256 secret (AuthEngine.message floatText request)).text := by
  simp [AuthEngine.signRequest, found, given]

theorem signRequest_of_no_secret (none_ : ¬ HasSecret engine tenantId)
    : engine.signRequest floatText hmacSha256 tenantId request = "" := by
  unfold AuthEngine.signRequest
  split
  · rfl
  · rename_i secret found
    split
    · rfl
    · rename_i given
      exact absurd ⟨secret, found, given⟩ none_

theorem signRequest_ascii (engine : AuthEngine) (tenantId : String) (request : SignedRequest)
    : (engine.signRequest floatText hmacSha256 tenantId request).toList.all (fun c => c.toNat < 128)
      = true := by
  by_cases has : HasSecret engine tenantId
  · obtain ⟨secret, found, given⟩ := has
    rw [signRequest_of_secret found given]
    exact HexDigest.ascii _
  · rw [signRequest_of_no_secret has]
    rfl

theorem verifySignature_iff
    : engine.verifySignature floatText hmacSha256 tenantId request signature now = some true
      ↔ tooOld now request.timestamp = false
        ∧ engine.signRequest floatText hmacSha256 tenantId request = signature := by
  unfold AuthEngine.verifySignature AuthEngine.compareDigest
  rw [signRequest_ascii]
  cases old : tooOld now request.timestamp with
  | true => simp
  | false =>
      simp only [Bool.false_eq_true, if_false, Bool.true_and, true_and]
      constructor
      · intro verified
        split at verified
        · simpa using verified
        · cases verified
      · rintro rfl
        rw [signRequest_ascii]
        simp

theorem signatureSound_of_secret
    (injective : ∀ secret message secret' message',
      (hmacSha256 secret message).text = (hmacSha256 secret' message').text →
        secret = secret' ∧ message = message')
    (distinct : Function.Injective floatText)
    (plain : ∀ timestamp, ':' ∉ (floatText timestamp).toList)
    (has : HasSecret engine tenantId) (free : NoColons request)
    : SignatureSound floatText hmacSha256 engine tenantId request signature now := by
  obtain ⟨secret, found, given⟩ := has
  constructor
  · intro verified
    refine ⟨secret, found, given, ?_⟩
    rw [← signRequest_of_secret found given]
    exact (verifySignature_iff.mp verified).2.symm
  · intro verified signer other signed
    rw [← (verifySignature_iff.mp verified).2, signRequest_of_secret found given] at signed
    by_cases has' : HasSecret engine signer
    · obtain ⟨secret', found', given'⟩ := has'
      rw [signRequest_of_secret found' given'] at signed
      exact request_of_message distinct plain free (injective _ _ _ _ signed).2
    · rw [signRequest_of_no_secret has'] at signed
      exact absurd signed.symm (HexDigest.nonempty _)

theorem safe_of_signatureSound (recent : tooOld now request.timestamp = false)
    (sound : ∀ signature,
      SignatureSound floatText hmacSha256 engine tenantId request signature now)
    : HasSecret engine tenantId ∧ NoColons request := by
  have right := sound (engine.signRequest floatText hmacSha256 tenantId request)
  have verified : engine.verifySignature floatText hmacSha256 tenantId request
      (engine.signRequest floatText hmacSha256 tenantId request) now = some true :=
    verifySignature_iff.mpr ⟨recent, rfl⟩
  obtain ⟨secret, found, given, _⟩ := right.issued verified
  refine ⟨⟨secret, found, given⟩, ?_⟩
  by_contra colons
  obtain ⟨other, different, same⟩ := @exists_other_request floatText _ colons
  refine different (right.only verified tenantId other ?_)
  rw [signRequest_of_secret found given, signRequest_of_secret found given, same]

/-- For every state, tenant, request and time: all signatures are sound exactly if the request is too
old, or the tenant has a secret and no colon stands in the texts of the request.
-/
theorem signatures_sound_iff (floatText : PyFloat → String)
    (hmacSha256 : String → String → HexDigest)
    (injective : ∀ secret message secret' message',
      (hmacSha256 secret message).text = (hmacSha256 secret' message').text →
        secret = secret' ∧ message = message')
    (distinct : Function.Injective floatText)
    (plain : ∀ timestamp, ':' ∉ (floatText timestamp).toList)
    (engine : AuthEngine) (tenantId : String) (request : SignedRequest) (now : ℚ)
    : (∀ signature,
        SignatureSound floatText hmacSha256 engine tenantId request signature now)
      ↔ tooOld now request.timestamp = true
        ∨ HasSecret engine tenantId ∧ NoColons request := by
  cases old : tooOld now request.timestamp with
  | true =>
      have refused : ∀ signature, engine.verifySignature floatText hmacSha256 tenantId request
          signature now ≠ some true := by
        intro signature verified
        rw [(verifySignature_iff.mp verified).1] at old
        cases old
      refine iff_of_true ?_ (.inl rfl)
      intro signature
      exact ⟨fun verified => absurd verified (refused signature),
        fun verified => absurd verified (refused signature)⟩
  | false =>
      constructor
      · exact fun sound => .inr (safe_of_signatureSound old sound)
      · intro safe signature
        obtain ⟨has, free⟩ := safe.resolve_left Bool.false_ne_true
        exact signatureSound_of_secret injective distinct plain has free

-- A signed request

def unaryCode : List Char → List Char
  | [] => []
  | c :: rest => List.replicate c.toNat '1' ++ '0' :: unaryCode rest

theorem unaryCode_injective : Function.Injective unaryCode := by
  intro first
  induction first with
  | nil =>
      intro second same
      cases second with
      | nil => rfl
      | cons c rest => simp [unaryCode] at same
  | cons c rest ih =>
      intro second same
      cases second with
      | nil => simp [unaryCode] at same
      | cons d others =>
          simp only [unaryCode] at same
          rw [append_sep_inj_left (by simp) (by simp)] at same
          have count : c.toNat = d.toNat := by simpa using congrArg List.length same.1
          rw [Char.toNat_inj.mp count, ih same.2]

theorem mem_unaryCode {text : List Char} {c : Char} (member : c ∈ unaryCode text)
    : c = '0' ∨ c = '1' := by
  induction text with
  | nil => cases member
  | cons d rest ih =>
      simp only [unaryCode, List.mem_append, List.mem_cons, List.mem_replicate] at member
      rcases member with ⟨_, one⟩ | zero | later
      · exact .inr one
      · exact .inl zero
      · exact ih later

def codedDigest (first second : String) : HexDigest where
  text := String.ofList ('a' :: (unaryCode first.toList ++ 'f' :: unaryCode second.toList))
  nonempty := by simp
  hex := by
    refine List.all_eq_true.mpr ?_
    intro c member
    simp only [String.toList_ofList, List.mem_cons, List.mem_append] at member
    rcases member with rfl | code | rfl | code
    · rfl
    · rcases mem_unaryCode code with rfl | rfl <;> rfl
    · rfl
    · rcases mem_unaryCode code with rfl | rfl <;> rfl

theorem codedDigest_inj {first second first' second' : String}
    (same : (codedDigest first second).text = (codedDigest first' second').text)
    : first = first' ∧ second = second' := by
  have free : ∀ text : String, 'f' ∉ unaryCode text.toList := by
    intro text member
    rcases mem_unaryCode member with wrong | wrong <;> exact absurd wrong (by decide)
  have codes := String.ofList_inj.mp same
  rw [List.cons.injEq, append_sep_inj_left (free _) (free _)] at codes
  exact ⟨String.toList_inj.mp (unaryCode_injective codes.2.1),
    String.toList_inj.mp (unaryCode_injective codes.2.2)⟩

def acmeSecret : String := "00112233445566778899aabbccddeeff"

def submitRequest : SignedRequest := ⟨"POST", "/api/v1/submit", "{}", .finite 1700000000⟩

def ratioText (value : ℚ) : List Char :=
  (if value.num < 0 then 'm' else 'p')
    :: (List.replicate value.num.natAbs '1' ++ '/' :: List.replicate value.den '1')

theorem ratioText_injective : Function.Injective ratioText := by
  intro first second same
  simp only [ratioText, List.cons.injEq] at same
  obtain ⟨signs, digits⟩ := same
  rw [append_sep_inj_left (by simp) (by simp)] at digits
  have nums : first.num.natAbs = second.num.natAbs := by simpa using congrArg List.length digits.1
  have dens : first.den = second.den := by simpa using congrArg List.length digits.2
  refine Rat.ext ?_ dens
  split at signs
  · split at signs
    · omega
    · exact absurd signs (by decide)
  · split at signs
    · exact absurd signs (by decide)
    · omega

def codedFloat : PyFloat → String
  | .finite value => String.ofList ('q' :: ratioText value)
  | .nan => "nan"
  | .inf negative => if negative then "-inf" else "inf"

/-- The float can be read back. One case per pair of kinds. -/
theorem codedFloat_injective : Function.Injective codedFloat := by
  have number : ∀ value text, text.toList.head? ≠ some 'q' →
      codedFloat (.finite value) ≠ text := by
    rintro value _ other rfl
    simp [codedFloat] at other
  intro first second same
  cases first with
  | finite value =>
      cases second with
      | finite value' =>
          have digits := List.cons.inj (String.ofList_inj.mp same)
          rw [ratioText_injective digits.2]
      | nan => exact absurd same (number value _ (by decide))
      | inf negative => cases negative <;> exact absurd same (number value _ (by decide))
  | nan =>
      cases second with
      | finite value' => exact absurd same.symm (number value' _ (by decide))
      | nan => rfl
      | inf negative => cases negative <;> exact absurd same (by decide)
  | inf negative =>
      cases second with
      | finite value' =>
          cases negative <;> exact absurd same.symm (number value' _ (by decide))
      | nan => cases negative <;> exact absurd same (by decide)
      | inf negative' =>
          cases negative <;> cases negative' <;> first | rfl | exact absurd same (by decide)

theorem injective_update {α β : Type} [DecidableEq α] {f : α → β} (injective : Function.Injective f)
    {argument : α} {value : β} (unused : ∀ other, f other ≠ value)
    : Function.Injective (Function.update f argument value) := by
  intro first second same
  by_cases here : first = argument
  · by_cases there : second = argument
    · exact here.trans there.symm
    · rw [here, Function.update_self, Function.update_of_ne there] at same
      exact absurd same.symm (unused second)
  · by_cases there : second = argument
    · rw [there, Function.update_self, Function.update_of_ne here] at same
      exact absurd same (unused first)
    · rw [Function.update_of_ne here, Function.update_of_ne there] at same
      exact injective same

/-- The text of the time of that request, and texts that tell the other floats apart. -/
def sampleFloatText : PyFloat → String :=
  Function.update codedFloat (.finite 1700000000) "1700000000.0"

theorem sampleFloatText_injective : Function.Injective sampleFloatText := by
  refine injective_update codedFloat_injective ?_
  intro other same
  cases other with
  | finite value => simp [codedFloat, ← String.toList_inj] at same
  | nan => exact absurd same (by decide)
  | inf negative => cases negative <;> exact absurd same (by decide)

theorem sampleFloatText_plain (timestamp : PyFloat) : ':' ∉ (sampleFloatText timestamp).toList := by
  unfold sampleFloatText
  by_cases here : timestamp = .finite 1700000000
  · rw [here, Function.update_self]
    decide
  rw [Function.update_of_ne here]
  cases timestamp with
  | finite value =>
      simp only [codedFloat, ratioText]
      split <;> simp
  | nan => decide
  | inf negative => cases negative <;> decide

/-- The signature of that request, and digests that tell the other ones apart. -/
def sampleHmac (secret message : String) : HexDigest :=
  if secret = acmeSecret ∧ message = "POST:/api/v1/submit:{}:1700000000.0" then
    ⟨"d85e4e0097a4bfa0c4abababd96bd454d776ddc4da94e87be8b4be7e75dc4c58", by decide, by decide⟩
  else
    codedDigest secret message

theorem sampleHmac_inj {secret message secret' message' : String}
    (same : (sampleHmac secret message).text = (sampleHmac secret' message').text)
    : secret = secret' ∧ message = message' := by
  have coded : ∀ first second,
      "d85e4e0097a4bfa0c4abababd96bd454d776ddc4da94e87be8b4be7e75dc4c58"
        ≠ (codedDigest first second).text := by
    intro first second wrong
    simp [codedDigest, ← String.toList_inj] at wrong
  unfold sampleHmac at same
  split at same
  · split at same
    · rename_i here there
      exact ⟨here.1.trans there.1.symm, here.2.trans there.2.symm⟩
    · exact absurd same (coded _ _)
  · split at same
    · exact absurd same.symm (coded _ _)
    · exact codedDigest_inj same

/-- All signatures of that request are sound for a tenant with a secret, and it is recent. -/
theorem signatures_sound_submit
    : (∀ signature, SignatureSound sampleFloatText sampleHmac
        (AuthEngine.createHmacSecret {} "tenant-acme" acmeSecret) "tenant-acme" submitRequest
        signature 1700000000)
      ∧ tooOld 1700000000 submitRequest.timestamp = false := by
  refine ⟨(signatures_sound_iff sampleFloatText sampleHmac (fun _ _ _ _ => sampleHmac_inj)
    sampleFloatText_injective sampleFloatText_plain _ _ _ _).mpr (.inr ⟨?_, ?_⟩), ?_⟩
  · exact ⟨acmeSecret, rfl, by decide⟩
  · exact ⟨by decide, by decide, by decide⟩
  · decide +kernel

/-- For a tenant that was created without a secret the empty signature verifies. -/
theorem empty_signature_verifies
    : ¬ SignatureSound sampleFloatText sampleHmac (AuthEngine.createTenant {} "tenant-acme" none)
        "tenant-acme" submitRequest "" 1700000000 := by
  intro sound
  obtain ⟨secret, found, _⟩ := sound.issued (verifySignature_iff.mpr ⟨by decide +kernel, rfl⟩)
  cases found

variable {sha256 : String → HexDigest}

/-- A secret that was given out, with the id of its key and what the key was created with. -/
structure IssuedSecret where
  keyId : String
  secret : String
  request : KeyRequest
  deriving DecidableEq

/-- An engine with the secrets it gave out, the ids that were revoked or rotated, and the secrets that
were refused after they had been given out. The code keeps no such record.
-/
structure AuthHistory where
  engine : AuthEngine := {}
  issued : List IssuedSecret := []
  dead : List String := []
  refused : List String := []

/-- A call at a time, with what is drawn for it. -/
inductive AuthCall where
  | create (request : KeyRequest) (draw : KeyDraw) (now : ℚ)
  | validate (secret : String) (now : ℚ)
  | revoke (keyId : String)
  | rotate (keyId : String) (draw : KeyDraw) (now : ℚ)

/-- What a call returns; an error is a `KeyError`. -/
inductive AuthReply where
  | created (ids : Except Unit (String × String))
  | validated (key : Except Unit (Option APIKey))
  | revoked (known : Bool)

def recordOf (engine : AuthEngine) (keyId secret : String) : List IssuedSecret :=
  ((engine.keys keyId).map (fun key => ⟨keyId, secret, AuthEngine.requestOf key⟩)).toList

def AuthHistory.step (sha256 : String → HexDigest) (history : AuthHistory)
    : AuthCall → AuthReply × AuthHistory
  | .create request draw now =>
      let (ids, engine) := history.engine.createKey sha256 request draw now
      (.created (.ok ids),
        { history with engine, issued := history.issued ++ recordOf engine ids.1 ids.2 })
  | .validate secret now =>
      let (found, engine) := history.engine.validateKey sha256 secret now
      match found with
      | .ok none =>
          (.validated found,
            { history with
              engine
              refused := if secret ∈ history.issued.map IssuedSecret.secret
                then secret :: history.refused else history.refused })
      | _ => (.validated found, { history with engine })
  | .revoke keyId =>
      let (known, engine) := history.engine.revokeKey keyId
      (.revoked known,
        { history with engine, dead := if known then keyId :: history.dead else history.dead })
  | .rotate keyId draw now =>
      let (ids, engine) := history.engine.rotateKey sha256 keyId draw now
      match ids with
      | .error _ => (.created ids, { history with engine })
      | .ok (newId, secret) =>
          (.created ids,
            { history with
              engine
              issued := history.issued ++ recordOf engine newId secret
              dead := keyId :: history.dead })

def FreshDraw (history : AuthHistory) : AuthCall → Prop
  | .create _ draw _ | .rotate _ draw _ =>
      history.engine.keys draw.keyId = none
      ∧ ∀ issue ∈ history.issued, issue.secret ≠ draw.fullSecret
  | _ => True

def NotBefore (now : ℚ) (expiresAt : Option PyFloat) : Prop :=
  ∀ time, expiresAt = some time → isPast now time = false

/-- A secret opens the key that it was given out for, if that was neither revoked nor rotated and is not
expired, and not after it was refused. A rotated key hands on what it was created with.
-/
def DeadStaysDead (visit : Visit AuthHistory AuthCall AuthReply) : Prop :=
  match visit.call with
  | .validate secret now =>
      ∀ key, visit.reply = .validated (.ok (some key)) →
        ⟨key.keyId, secret, AuthEngine.requestOf key⟩ ∈ visit.before.issued
        ∧ key.keyId ∉ visit.before.dead
        ∧ NotBefore now key.expiresAt
        ∧ secret ∉ visit.before.refused
  | .rotate keyId draw _ =>
      ∀ issue ∈ visit.before.issued, issue.keyId = keyId →
        visit.reply = .created (.ok (draw.keyId, draw.fullSecret))
        ∧ ⟨draw.keyId, draw.fullSecret, issue.request⟩ ∈ visit.after.issued
  | _ => True

def ZeroPast (now : ℚ) (expiresAt : Option PyFloat) : Prop :=
  ∃ time, expiresAt = some time ∧ time.isZero = true ∧ isPast now time = true

/-- No secret is presented whose key has the time of expiry zero, if that is past and the key was neither
revoked nor rotated.
-/
def NoZeroExpiry (history : AuthHistory) : AuthCall → Prop
  | .validate secret now =>
      ∀ issue ∈ history.issued, issue.secret = secret → issue.keyId ∉ history.dead →
        ¬ ZeroPast now issue.request.expiresAt
  | _ => True

-- The index

theorem indexKey_inj (injective : Function.Injective (fun secret => (sha256 secret).text))
    {secret secret' : String}
    (same : AuthEngine.indexKey sha256 secret = AuthEngine.indexKey sha256 secret')
    : secret = secret' := by
  have free : ∀ secret, ':' ∉ (sha256 secret).text.toList := by
    intro secret member
    exact absurd (List.all_eq_true.mp (sha256 secret).hex _ member) (by decide)
  have texts := congrArg String.toList same
  simp only [AuthEngine.indexKey, String.toList_append, List.append_assoc] at texts
  exact injective (String.toList_inj.mp ((append_sep_inj_right (free _) (free _)).mp texts).2)

theorem length_fullSecret (draw : KeyDraw) : 16 ≤ draw.fullSecret.toList.length := by
  simp [KeyDraw.fullSecret, draw.length]

theorem isExpired_iff {now : ℚ} {expiresAt : Option PyFloat}
    : isExpired now expiresAt = true
      ↔ ∃ time, expiresAt = some time ∧ time.isZero = false ∧ isPast now time = true := by
  cases expiresAt with
  | none => simp [isExpired]
  | some time => simp [isExpired]

theorem notBefore_iff {now : ℚ} {expiresAt : Option PyFloat}
    (open_ : isExpired now expiresAt = false)
    : NotBefore now expiresAt ↔ ¬ ZeroPast now expiresAt := by
  cases expiresAt with
  | none => simp [NotBefore, ZeroPast]
  | some time =>
      simp only [isExpired, Bool.and_eq_false_iff, Bool.not_eq_false'] at open_
      simp only [NotBefore, ZeroPast, Option.some.injEq, forall_eq', exists_eq_left']
      rcases open_ with zero | past
      · simp [zero]
      · simp [past]

-- The keys of the issued secrets

/-- The key of an issued secret. It is active unless it was revoked, rotated or refused; a key that is not
active was revoked or rotated, or its time of expiry was not zero.
-/
def IssueKept (keys : String → Option APIKey) (dead refused : List String) (issue : IssuedSecret)
    : Prop :=
  ∃ key, keys issue.keyId = some key ∧ key.keyId = issue.keyId
    ∧ AuthEngine.requestOf key = issue.request
    ∧ (key.status = .active → issue.keyId ∉ dead ∧ issue.secret ∉ refused)
    ∧ (key.status ≠ .active → issue.keyId ∈ dead ∨ ∀ now, ¬ ZeroPast now issue.request.expiresAt)

/-- The engine knows the issued secrets and no others. -/
structure SecretsKnown (sha256 : String → HexDigest) (history : AuthHistory) : Prop where
  kept : ∀ issue ∈ history.issued,
    IssueKept history.engine.keys history.dead history.refused issue
  found : ∀ issue ∈ history.issued,
    history.engine.keyIndex (AuthEngine.indexKey sha256 issue.secret) = some issue.keyId
  known : ∀ entry keyId, history.engine.keyIndex entry = some keyId →
    ∃ issue ∈ history.issued, issue.keyId = keyId ∧ AuthEngine.indexKey sha256 issue.secret = entry
  formed : ∀ issue ∈ history.issued,
    issue.keyId ≠ "" ∧ 16 ≤ issue.secret.toList.length ∧ issue.request.scopes ≠ []
  dead : ∀ keyId ∈ history.dead, history.engine.keys keyId ≠ none
  refused : ∀ secret ∈ history.refused, ∃ issue ∈ history.issued, issue.secret = secret

theorem secretsKnown_new (sha256 : String → HexDigest) : SecretsKnown sha256 {} where
  kept := by simp
  found := by simp
  known := by simp
  formed := by simp
  dead := by simp
  refused := by simp

variable {history : AuthHistory} {issue : IssuedSecret} {now : ℚ}

theorem SecretsKnown.validateKey (known : SecretsKnown sha256 history)
    (member : issue ∈ history.issued) {key : APIKey}
    (stored : history.engine.keys issue.keyId = some key) (now : ℚ)
    : history.engine.validateKey sha256 issue.secret now
      = if key.status ≠ .active then (.ok none, history.engine)
        else if isExpired now key.expiresAt then
          (.ok none, history.engine.writeKey issue.keyId { key with status := .expired })
        else
          (.ok (some { key with lastUsedAt := some now }),
            history.engine.writeKey issue.keyId { key with lastUsedAt := some now }) := by
  obtain ⟨named, long, _⟩ := known.formed issue member
  unfold AuthEngine.validateKey
  rw [if_neg (not_lt.mpr long), known.found issue member]
  simp only [if_neg named, stored]

theorem SecretsKnown.validateKey_other (known : SecretsKnown sha256 history)
    (injective : Function.Injective (fun secret => (sha256 secret).text)) {secret : String}
    (other : ∀ issue ∈ history.issued, issue.secret ≠ secret) (now : ℚ)
    : history.engine.validateKey sha256 secret now = (.ok none, history.engine) := by
  unfold AuthEngine.validateKey
  split
  · rfl
  · cases entry : history.engine.keyIndex (AuthEngine.indexKey sha256 secret) with
    | none => rfl
    | some keyId =>
        obtain ⟨issue, member, _, same⟩ := known.known _ _ entry
        exact absurd (indexKey_inj injective same) (other issue member)

-- What a call keeps

theorem SecretsKnown.keyId_eq (known : SecretsKnown sha256 history) {other : IssuedSecret}
    (member : issue ∈ history.issued) (member' : other ∈ history.issued)
    (same : issue.secret = other.secret) : issue.keyId = other.keyId := by
  have first := known.found issue member
  rw [same, known.found other member'] at first
  exact (Option.some.inj first).symm

/-- A key is written back as what it was created as, and no more active than it was: the engine still
knows the secrets, with more ids and secrets in the record.
-/
theorem SecretsKnown.write (known : SecretsKnown sha256 history) {keyId : String} {key next : APIKey}
    {dead refused : List String}
    (stored : history.engine.keys keyId = some key)
    (name : next.keyId = key.keyId)
    (content : AuthEngine.requestOf next = AuthEngine.requestOf key)
    (active : next.status = .active →
      key.status = .active ∧ dead = history.dead ∧ refused = history.refused)
    (inactive : next.status ≠ .active →
      key.status ≠ .active ∨ keyId ∈ dead ∨ ∀ now, ¬ ZeroPast now key.expiresAt)
    (deadGrows : history.dead ⊆ dead) (deadOnly : ∀ other ∈ dead, other = keyId ∨ other ∈ history.dead)
    (refusedOnly : ∀ secret ∈ refused, secret ∈ history.refused
      ∨ ∃ issue ∈ history.issued, issue.secret = secret ∧ issue.keyId = keyId)
    : SecretsKnown sha256
        { history with engine := history.engine.writeKey keyId next, dead, refused } where
  kept := by
    intro issue member
    obtain ⟨old, found, id, request, open_, closed⟩ := known.kept issue member
    by_cases here : issue.keyId = keyId
    · subst here
      obtain rfl : key = old := Option.some.inj (stored.symm.trans found)
      refine ⟨next, Function.update_self .., name.trans id, content.trans request, ?_, ?_⟩
      · intro live
        obtain ⟨was, rfl, rfl⟩ := active live
        exact open_ was
      · intro dormant
        have expiry : key.expiresAt = issue.request.expiresAt :=
          congrArg KeyRequest.expiresAt request
        rcases inactive dormant with was | dead | never
        · exact (closed was).imp_left (fun old => deadGrows old)
        · exact .inl dead
        · exact .inr (expiry ▸ never)
    · refine ⟨old, (Function.update_of_ne here ..).trans found, id, request, ?_, ?_⟩
      · intro live
        obtain ⟨notDead, notRefused⟩ := open_ live
        constructor
        · intro dead
          rcases deadOnly _ dead with same | old
          · exact here same
          · exact notDead old
        · intro refused
          rcases refusedOnly _ refused with old | ⟨other, member', same, id'⟩
          · exact notRefused old
          · exact here ((known.keyId_eq member member' same.symm).trans id')
      · exact fun dormant => (closed dormant).imp_left (fun old => deadGrows old)
  found := known.found
  known := known.known
  formed := known.formed
  dead := by
    intro other member
    by_cases here : other = keyId
    · subst here
      simp [AuthEngine.writeKey]
    · rcases deadOnly _ member with same | old
      · exact absurd same here
      · simp only [AuthEngine.writeKey, Function.update_of_ne here]
        exact known.dead other old
  refused := by
    intro secret member
    rcases refusedOnly secret member with old | ⟨issue, member', same, _⟩
    · exact known.refused secret old
    · exact ⟨issue, member', same⟩

theorem SecretsKnown.revoke (known : SecretsKnown sha256 history) {keyId : String} {key : APIKey}
    (stored : history.engine.keys keyId = some key)
    : SecretsKnown sha256
        { history with
          engine := (history.engine.revokeKey keyId).2
          dead := keyId :: history.dead } := by
  have same : (history.engine.revokeKey keyId).2
      = history.engine.writeKey keyId { key with status := .revoked } := by
    simp only [AuthEngine.revokeKey, stored]
  rw [same]
  refine known.write stored rfl rfl (fun live => by cases live) ?_
    (List.subset_cons_self _ _) ?_ (fun _ old => .inl old)
  · exact fun _ => .inr (.inl List.mem_cons_self)
  · exact fun other member => List.mem_cons.mp member

theorem recordOf_create (engine : AuthEngine) (request : KeyRequest) (draw : KeyDraw) (now : ℚ)
    : recordOf (engine.createKey sha256 request draw now).2 draw.keyId draw.fullSecret
      = [⟨draw.keyId, draw.fullSecret, { request with scopes := scopesOr request.scopes }⟩] := by
  simp [recordOf, AuthEngine.createKey, AuthEngine.requestOf, AuthEngine.newKey]

theorem scopesOr_ne_nil (scopes : List String) : scopesOr scopes ≠ [] := by
  unfold scopesOr
  split
  · simp
  · rename_i given
    simpa using given

theorem keyId_ne_empty (draw : KeyDraw) : draw.keyId ≠ "" := by
  simp [KeyDraw.keyId, ← String.toList_inj]

theorem SecretsKnown.create (known : SecretsKnown sha256 history)
    (injective : Function.Injective (fun secret => (sha256 secret).text)) (request : KeyRequest)
    {draw : KeyDraw} (now : ℚ) (fresh : history.engine.keys draw.keyId = none)
    (fresh' : ∀ issue ∈ history.issued, issue.secret ≠ draw.fullSecret)
    : SecretsKnown sha256
        { history with
          engine := (history.engine.createKey sha256 request draw now).2
          issued := history.issued
            ++ recordOf (history.engine.createKey sha256 request draw now).2 draw.keyId
                draw.fullSecret } := by
  rw [recordOf_create]
  have notDead : draw.keyId ∉ history.dead := fun member => known.dead _ member fresh
  have notRefused : draw.fullSecret ∉ history.refused := by
    intro member
    obtain ⟨issue, issued, same⟩ := known.refused _ member
    exact fresh' issue issued same
  have other : ∀ issue ∈ history.issued, issue.keyId ≠ draw.keyId := by
    intro issue member same
    obtain ⟨key, found, _⟩ := known.kept issue member
    rw [same, fresh] at found
    cases found
  have apart : ∀ issue ∈ history.issued,
      AuthEngine.indexKey sha256 issue.secret ≠ AuthEngine.indexKey sha256 draw.fullSecret :=
    fun issue member same => fresh' issue member (indexKey_inj injective same)
  constructor
  · intro issue member
    rcases List.mem_append.mp member with old | new
    · obtain ⟨key, found, rest⟩ := known.kept issue old
      exact ⟨key, (Function.update_of_ne (other issue old) ..).trans found, rest⟩
    · rw [List.mem_singleton.mp new]
      exact ⟨_, Function.update_self .., rfl, rfl, fun _ => ⟨notDead, notRefused⟩,
        fun dormant => absurd rfl dormant⟩
  · intro issue member
    rcases List.mem_append.mp member with old | new
    · simp only [AuthEngine.createKey]
      rw [Function.update_of_ne (apart issue old)]
      exact known.found issue old
    · rw [List.mem_singleton.mp new]
      simp only [AuthEngine.createKey, Function.update_self]
  · intro entry keyId indexed
    simp only [AuthEngine.createKey] at indexed
    by_cases here : entry = AuthEngine.indexKey sha256 draw.fullSecret
    · rw [here, Function.update_self] at indexed
      exact ⟨_, List.mem_append_right _ (List.mem_singleton_self _), Option.some.inj indexed,
        here.symm⟩
    · rw [Function.update_of_ne here] at indexed
      obtain ⟨issue, member, rest⟩ := known.known entry keyId indexed
      exact ⟨issue, List.mem_append_left _ member, rest⟩
  · intro issue member
    rcases List.mem_append.mp member with old | new
    · exact known.formed issue old
    · rw [List.mem_singleton.mp new]
      exact ⟨keyId_ne_empty draw, length_fullSecret draw, scopesOr_ne_nil _⟩
  · intro keyId member
    have different : keyId ≠ draw.keyId := fun same => notDead (same ▸ member)
    simp only [AuthEngine.createKey, Function.update_of_ne different]
    exact known.dead keyId member
  · intro secret member
    obtain ⟨issue, issued, same⟩ := known.refused secret member
    exact ⟨issue, List.mem_append_left _ issued, same⟩

theorem SecretsKnown.step_validate (known : SecretsKnown sha256 history)
    (member : issue ∈ history.issued) {key : APIKey}
    (stored : history.engine.keys issue.keyId = some key) (now : ℚ)
    : history.step sha256 (.validate issue.secret now)
      = if key.status ≠ .active then
          (.validated (.ok none), { history with refused := issue.secret :: history.refused })
        else if isExpired now key.expiresAt then
          (.validated (.ok none),
            { history with
              engine := history.engine.writeKey issue.keyId { key with status := .expired }
              refused := issue.secret :: history.refused })
        else
          (.validated (.ok (some { key with lastUsedAt := some now })),
            { history with
              engine := history.engine.writeKey issue.keyId
                { key with lastUsedAt := some now } }) := by
  have given : issue.secret ∈ history.issued.map IssuedSecret.secret := List.mem_map_of_mem member
  simp only [AuthHistory.step, known.validateKey member stored]
  by_cases active : key.status = .active
  · simp only [active, ne_eq, not_true_eq_false, if_false]
    by_cases expired : isExpired now key.expiresAt = true
    · simp only [expired, if_true, if_pos given]
    · simp only [if_neg expired]
  · simp only [ne_eq, active, not_false_eq_true, if_true, if_pos given]

theorem SecretsKnown.step_validate_other (known : SecretsKnown sha256 history)
    (injective : Function.Injective (fun secret => (sha256 secret).text)) {secret : String}
    (other : ∀ issue ∈ history.issued, issue.secret ≠ secret) (now : ℚ)
    : history.step sha256 (.validate secret now) = (.validated (.ok none), history) := by
  have absent : secret ∉ history.issued.map IssuedSecret.secret := by
    intro member
    obtain ⟨issue, issued, same⟩ := List.mem_map.mp member
    exact other issue issued same
  simp only [AuthHistory.step, known.validateKey_other injective other, if_neg absent]

theorem SecretsKnown.validate (known : SecretsKnown sha256 history)
    (injective : Function.Injective (fun secret => (sha256 secret).text)) (secret : String) (now : ℚ)
    : SecretsKnown sha256 (history.step sha256 (.validate secret now)).2 := by
  by_cases issued : ∃ issue ∈ history.issued, issue.secret = secret
  · obtain ⟨issue, member, rfl⟩ := issued
    obtain ⟨key, stored, _⟩ := known.kept issue member
    have refusedOnly : ∀ other ∈ issue.secret :: history.refused, other ∈ history.refused
        ∨ ∃ given ∈ history.issued, given.secret = other ∧ given.keyId = issue.keyId := by
      intro other refused
      rcases List.mem_cons.mp refused with rfl | old
      · exact .inr ⟨issue, member, rfl, rfl⟩
      · exact .inl old
    rw [known.step_validate member stored]
    split
    · rename_i dormant
      have same : history.engine.writeKey issue.keyId key = history.engine := by
        simp only [AuthEngine.writeKey, ← stored, Function.update_eq_self]
      have written := @SecretsKnown.write _ _ known _ key key history.dead
        (issue.secret :: history.refused) stored rfl rfl (fun live => absurd live dormant)
        (fun _ => .inl dormant) (List.Subset.refl _) (fun _ old => .inr old) refusedOnly
      rw [same] at written
      exact written
    · split
      · rename_i expired
        obtain ⟨time, given, nonzero, _⟩ := isExpired_iff.mp expired
        refine known.write stored rfl rfl (fun live => by cases live) ?_ (List.Subset.refl _)
          (fun _ old => .inr old) refusedOnly
        intro _
        refine .inr (.inr ?_)
        intro later ⟨time', given', zero, _⟩
        rw [given, Option.some.injEq] at given'
        rw [given', zero] at nonzero
        cases nonzero
      · exact known.write stored rfl rfl (fun live => ⟨live, rfl, rfl⟩) (fun dormant => .inl dormant)
          (List.Subset.refl _) (fun _ old => .inr old) (fun _ old => .inl old)
  · have other : ∀ issue ∈ history.issued, issue.secret ≠ secret :=
      fun issue member same => issued ⟨issue, member, same⟩
    rw [known.step_validate_other injective other]
    exact known

theorem SecretsKnown.step (known : SecretsKnown sha256 history)
    (injective : Function.Injective (fun secret => (sha256 secret).text)) {call : AuthCall}
    (fresh : FreshDraw history call)
    : SecretsKnown sha256 (history.step sha256 call).2 := by
  cases call with
  | create request draw now => exact known.create injective request now fresh.1 fresh.2
  | validate secret now => exact known.validate injective secret now
  | revoke keyId =>
      cases stored : history.engine.keys keyId with
      | none =>
          have same : history.engine.revokeKey keyId = (false, history.engine) := by
            simp only [AuthEngine.revokeKey, stored]
          simp only [AuthHistory.step, same]
          exact known
      | some key =>
          have known' : (history.engine.revokeKey keyId).1 = true := by
            simp only [AuthEngine.revokeKey, stored]
          simp only [AuthHistory.step, known', if_true]
          exact known.revoke stored
  | rotate keyId draw now =>
      cases stored : history.engine.keys keyId with
      | none =>
          simp only [AuthHistory.step, AuthEngine.rotateKey, stored]
          exact known
      | some key =>
          have different : draw.keyId ≠ keyId := by
            intro same
            have unused := fresh.1
            rw [same, stored] at unused
            cases unused
          have free : (history.engine.revokeKey keyId).2.keys draw.keyId = none := by
            simp only [AuthEngine.revokeKey, stored, AuthEngine.writeKey,
              Function.update_of_ne different]
            exact fresh.1
          have next := (known.revoke stored).create injective (AuthEngine.requestOf key) now free
            fresh.2
          simp only [AuthHistory.step, AuthEngine.rotateKey, stored]
          exact next

theorem SecretsKnown.rotate_right (known : SecretsKnown sha256 history) (keyId : String)
    (draw : KeyDraw) (now : ℚ)
    : DeadStaysDead ⟨history, .rotate keyId draw now,
        (history.step sha256 (.rotate keyId draw now)).1,
        (history.step sha256 (.rotate keyId draw now)).2⟩ := by
  intro issue member same
  obtain ⟨key, stored, _, request, _⟩ := known.kept issue member
  obtain ⟨_, _, scopes⟩ := known.formed issue member
  rw [same] at stored
  have kept : scopesOr key.scopes = key.scopes := by
    have given : key.scopes ≠ [] := by
      rw [← request] at scopes
      exact scopes
    simp [scopesOr, given]
  simp only [AuthHistory.step, AuthEngine.rotateKey, stored]
  refine ⟨rfl, List.mem_append_right _ ?_⟩
  have record := @recordOf_create sha256 (history.engine.revokeKey keyId).2
    (AuthEngine.requestOf key) draw now
  simp only [AuthEngine.requestOf, kept] at record request
  rw [← request]
  exact record ▸ List.mem_singleton_self _

theorem SecretsKnown.noZeroExpiry_iff (known : SecretsKnown sha256 history)
    (member : issue ∈ history.issued) {key : APIKey}
    (stored : history.engine.keys issue.keyId = some key)
    : NoZeroExpiry history (.validate issue.secret now)
      ↔ (issue.keyId ∉ history.dead → ¬ ZeroPast now key.expiresAt) := by
  have same : ∀ other ∈ history.issued, other.secret = issue.secret →
      other.keyId = issue.keyId ∧ other.request.expiresAt = key.expiresAt := by
    intro other member' secret
    have id := known.keyId_eq member' member secret
    obtain ⟨key', stored', _, request, _⟩ := known.kept other member'
    rw [id, stored, Option.some.injEq] at stored'
    exact ⟨id, by rw [← request, stored']; rfl⟩
  constructor
  · intro allowed alive
    have free := allowed issue member rfl alive
    rwa [(same issue member rfl).2] at free
  · intro allowed other member' secret alive
    obtain ⟨id, expiry⟩ := same other member' secret
    rw [expiry]
    exact allowed (id ▸ alive)

/-- A validation is right exactly if it is allowed: the reply is a key only if that is active and not
expired, and then it is right unless its time is zero and past.
-/
theorem SecretsKnown.validate_iff (known : SecretsKnown sha256 history)
    (member : issue ∈ history.issued) (now : ℚ)
    : DeadStaysDead ⟨history, .validate issue.secret now,
        (history.step sha256 (.validate issue.secret now)).1,
        (history.step sha256 (.validate issue.secret now)).2⟩
      ↔ NoZeroExpiry history (.validate issue.secret now) := by
  obtain ⟨key, stored, name, request, open_, closed⟩ := known.kept issue member
  have expiry : key.expiresAt = issue.request.expiresAt := congrArg KeyRequest.expiresAt request
  rw [known.noZeroExpiry_iff member stored, known.step_validate member stored]
  split
  · rename_i dormant
    refine iff_of_true (fun key found => by cases found) ?_
    intro alive
    rw [expiry]
    exact (closed dormant).resolve_left alive now
  · rename_i live
    rw [not_not] at live
    split
    · rename_i expired
      obtain ⟨time, given, nonzero, _⟩ := isExpired_iff.mp expired
      refine iff_of_true (fun key found => by cases found) ?_
      intro _ ⟨time', given', zero, _⟩
      rw [given, Option.some.injEq] at given'
      rw [given', zero] at nonzero
      cases nonzero
    · rename_i valid
      rw [Bool.not_eq_true] at valid
      obtain ⟨alive, trusted⟩ := open_ live
      rw [← notBefore_iff valid]
      constructor
      · exact fun right _ => (right _ rfl).2.2.1
      · intro current found reply
        cases reply
        have record : ⟨key.keyId, issue.secret, AuthEngine.requestOf key⟩ ∈ history.issued := by
          rw [name, request]
          exact member
        exact ⟨record, name ▸ alive, current alive, trusted⟩

theorem SecretsKnown.right_iff (known : SecretsKnown sha256 history)
    (injective : Function.Injective (fun secret => (sha256 secret).text)) (call : AuthCall)
    : DeadStaysDead ⟨history, call, (history.step sha256 call).1, (history.step sha256 call).2⟩
      ↔ NoZeroExpiry history call := by
  cases call with
  | create request draw now => exact Iff.rfl
  | revoke keyId => exact Iff.rfl
  | rotate keyId draw now => exact iff_of_true (known.rotate_right keyId draw now) trivial
  | validate secret now =>
      by_cases issued : ∃ issue ∈ history.issued, issue.secret = secret
      · obtain ⟨issue, member, rfl⟩ := issued
        exact known.validate_iff member now
      · have other : ∀ issue ∈ history.issued, issue.secret ≠ secret :=
          fun issue member same => issued ⟨issue, member, same⟩
        rw [known.step_validate_other injective other]
        refine iff_of_true (fun key found => by cases found) ?_
        exact fun issue member same => absurd same (other issue member)

theorem noZeroExpiry_of_issued {secret : String}
    (positive : ∀ issue ∈ history.issued, issue.request.expiresAt.any PyFloat.isZero = false)
    : NoZeroExpiry history (.validate secret now) := by
  intro issue member _ _ ⟨time, given, zero, _⟩
  have nonzero := positive issue member
  rw [given, Option.any_some, zero] at nonzero
  cases nonzero

/-- Over every sequence of calls with new draws, at any times, dead keys stay dead exactly if no secret is
presented whose key has the time of expiry zero, once that is past and while the key is neither revoked
nor rotated.
-/
theorem dead_keys_iff (sha256 : String → HexDigest)
    (injective : Function.Injective (fun secret => (sha256 secret).text)) (calls : List AuthCall)
    (fresh : ∀ visit ∈ visits (AuthHistory.step sha256) {} calls,
      FreshDraw visit.before visit.call)
    : (∀ visit ∈ visits (AuthHistory.step sha256) {} calls, DeadStaysDead visit)
      ↔ ∀ visit ∈ visits (AuthHistory.step sha256) {} calls,
          NoZeroExpiry visit.before visit.call :=
  @throughout_iff _ _ _ (AuthHistory.step sha256) (SecretsKnown sha256) FreshDraw NoZeroExpiry
    DeadStaysDead (fun _ call known _ => known.right_iff injective call)
    (fun _ _ known legal _ => known.step injective legal) {} calls (secretsKnown_new sha256) fresh

def firstDraw : KeyDraw where
  uuidHex := "0f8fad5bd9cb469f"
  tokenHex := "0123456789abcdef0123456789abcdef0123456789abcdef"
  length := by decide

def secondDraw : KeyDraw where
  uuidHex := "7c9e6679742540de"
  tokenHex := "fedcba9876543210fedcba9876543210fedcba9876543210"
  length := by decide

def drawDigests : HexDigest × HexDigest :=
  (⟨"5e37e37fab61ebfea25217bfbe016e2dad7200653bdbce5afe5a2723c9d99696", by decide, by decide⟩,
    ⟨"0fe0d97a5ffeb15156a2e76b52fa2192b767b319f8f13834fa7e2c9fac23d3c6", by decide, by decide⟩)

/-- These digests, and others that tell all other texts apart. -/
def sampleSha256 : String → HexDigest :=
  Function.update
    (Function.update (fun text => codedDigest text "") firstDraw.fullSecret drawDigests.1)
    secondDraw.fullSecret drawDigests.2

theorem HexDigest.text_injective : Function.Injective HexDigest.text := by
  intro first second same
  cases first
  cases second
  cases same
  rfl

theorem sampleSha256_injective
    : Function.Injective (fun secret => (sampleSha256 secret).text) := by
  have coded : ∀ text (digest : HexDigest), digest.text.toList.head? ≠ some 'a' →
      codedDigest text "" ≠ digest := by
    rintro text _ other rfl
    simp [codedDigest] at other
  have apart : Function.Injective (fun text => codedDigest text "") := by
    intro first second same
    exact (codedDigest_inj (congrArg HexDigest.text same)).1
  refine HexDigest.text_injective.comp (injective_update (injective_update apart ?_) ?_)
  · exact fun text => coded text _ (by decide)
  · intro text
    by_cases here : text = firstDraw.fullSecret
    · rw [here, Function.update_self]
      decide
    · rw [Function.update_of_ne here]
      exact coded text _ (by decide)

def acmeKey (expiresAt : ℚ) : KeyRequest :=
  ⟨"tenant-acme", "proj-1", .server, "Production key", some (.finite expiresAt), []⟩

def rotatedKey : List AuthCall :=
  [.create (acmeKey 100) firstDraw 0, .rotate firstDraw.keyId secondDraw 20,
    .validate firstDraw.fullSecret 30, .validate secondDraw.fullSecret 40]

theorem rotatedKey_fresh
    : ∀ visit ∈ visits (AuthHistory.step sampleSha256) {} rotatedKey,
        FreshDraw visit.before visit.call := by
  simp only [rotatedKey, visits, List.forall_mem_cons]
  refine ⟨⟨rfl, by simp⟩, ⟨?_, ?_⟩, trivial, trivial, by simp⟩
  · decide +kernel
  · decide +kernel

/-- In that run a key dies, and it stays dead. -/
theorem dead_keys_rotated
    : (∀ visit ∈ visits (AuthHistory.step sampleSha256) {} rotatedKey, DeadStaysDead visit)
      ∧ (finalState (AuthHistory.step sampleSha256) {} rotatedKey).dead = [firstDraw.keyId] := by
  refine ⟨(dead_keys_iff sampleSha256 sampleSha256_injective rotatedKey rotatedKey_fresh).mpr ?_, ?_⟩
  · simp only [rotatedKey, visits, List.forall_mem_cons]
    refine ⟨trivial, trivial, noZeroExpiry_of_issued ?_, noZeroExpiry_of_issued ?_, by simp⟩
    · decide +kernel
    · decide +kernel
  · decide +kernel

def zeroExpiry : List AuthCall :=
  [.create (acmeKey 0) firstDraw 1700000000, .validate firstDraw.fullSecret 1700000001]

/-- It is accepted. -/
theorem expired_key_accepted
    : ¬ ∀ visit ∈ visits (AuthHistory.step sampleSha256) {} zeroExpiry, DeadStaysDead visit := by
  intro right
  have known := (secretsKnown_new sampleSha256).step sampleSha256_injective
    (show FreshDraw {} (.create (acmeKey 0) firstDraw 1700000000) from ⟨rfl, by simp⟩)
  have validated := right _ (List.mem_cons_of_mem _ (List.mem_singleton_self _))
  have member := List.mem_singleton_self (⟨firstDraw.keyId, firstDraw.fullSecret,
    { acmeKey 0 with scopes := ["submit", "status", "cancel"] }⟩ : IssuedSecret)
  have allowed := (known.right_iff sampleSha256_injective _).mp validated
  refine allowed _ member rfl (by decide +kernel) ⟨.finite 0, rfl, rfl, ?_⟩
  decide +kernel

end RomaBridge.Properties
