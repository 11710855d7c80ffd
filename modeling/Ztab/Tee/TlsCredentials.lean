import Mathlib.Data.List.DropRight
import Ztab.Shared.Machine
import Ztab.Tee.Status

set_option autoImplicit false

/-!
# The credentials of the TLS proxy

`EphemeralCredentialGenerator` and `TlsProxy::GetOrCreateSSLCtx` over the calls they make of
BoringSSL, every one of which may fail. `cache_mu_` puts the calls one after another.
-/

namespace Ztab

def webSafeAlphabet : Bytes :=
  utf8 "ABCDEFGHIJKLMNOPQRSTUVWXYZabcdefghijklmnopqrstuvwxyz0123456789-_"

-- Six bits to a letter, without padding.
def webSafeBase64Escape : Bytes → Bytes
  | [] => []
  | [a] => [a.toNat / 4, a.toNat % 4 * 16].map letter
  | [a, b] => [a.toNat / 4, a.toNat % 4 * 16 + b.toNat / 16, b.toNat % 16 * 4].map letter
  | a :: b :: c :: rest =>
    [a.toNat / 4, a.toNat % 4 * 16 + b.toNat / 16, b.toNat % 16 * 4 + c.toNat / 64,
      c.toNat % 64].map letter ++ webSafeBase64Escape rest
where
  letter (sextet : Nat) : UInt8 := webSafeAlphabet.getD sextet 0

def base64UrlEncode (input : Bytes) : Bytes :=
  (webSafeBase64Escape input).rdropWhile fun byte => byte = 61

example : base64UrlEncode (utf8 "AB") = utf8 "QUI" := by decide

example : base64UrlEncode [0xfb, 0xff, 0xfe] = utf8 "-__-" := by decide

def kAttestationOid : String := "1.3.6.1.4.1.99999.1"

structure Certificate (Key : Type) where
  version : Int
  serialNumber : Int
  validSeconds : Int
  publicKey : Bytes
  subject : String
  issuer : String
  extensionOid : String
  extensionValue : Bytes
  signedBy : Key
  deriving DecidableEq

/-- BoringSSL, as far as its results depend on its arguments. -/
structure BoringSsl (Key : Type) where
  -- i2d_PUBKEY: the SubjectPublicKeyInfo.
  spkiDer : Key → Bytes
  sha256 : Bytes → Bytes
  octetStringDer : Bytes → Bytes
  certificatePem : Certificate Key → Bytes
  privateKeyPem : Key → Bytes
  readCertificate : Bytes → Option (Certificate Key)
  readPrivateKey : Bytes → Option Key

inductive KeygenStep where
  | context | init | curve | keygen | der
  deriving DecidableEq, Repr

def KeygenStep.inOrder : List KeygenStep := [.context, .init, .curve, .keygen, .der]

def KeygenStep.message : KeygenStep → String
  | .context => "Failed to create key generator context."
  | .init => "Failed to initialize key generator."
  | .curve => "Failed to set curve SECP256R1."
  | .keygen => "Failed to generate EC key pair."
  | .der => "Failed to serialize public key to DER."

inductive CertificateStep where
  | x509 | version | publicKey | subjectName | subjectCn | issuerName | object | octetString
  | octetStringValue | der | extensionContainer | extensionValue | extension | addExtension | sign
  | keyBio | keyPem | certificateBio | certificatePem
  deriving DecidableEq, Repr

def CertificateStep.inOrder : List CertificateStep :=
  [.x509, .version, .publicKey, .subjectName, .subjectCn, .issuerName, .object, .octetString,
    .octetStringValue, .der, .extensionContainer, .extensionValue, .extension, .addExtension, .sign,
    .keyBio, .keyPem, .certificateBio, .certificatePem]

def CertificateStep.message : CertificateStep → String
  | .x509 => "Failed to create X509 structure."
  | .version => "Failed to set certificate version."
  | .publicKey => "Failed to associate public key with certificate."
  | .subjectName => "Failed to get subject name structure."
  | .subjectCn => "Failed to set subject CN."
  | .issuerName => "Failed to set issuer name."
  | .object => "Failed to create ASN1_OBJECT for OID " ++ kAttestationOid
  | .octetString => "Failed to create ASN1_OCTET_STRING."
  | .octetStringValue => "Failed to set value for ASN1_OCTET_STRING."
  | .der => "Failed to DER encode ASN1_OCTET_STRING."
  | .extensionContainer => "Failed to create extension value container."
  | .extensionValue => "Failed to set extension value bytes."
  | .extension => "Failed to create X509_EXTENSION."
  | .addExtension => "Failed to add extension to certificate."
  | .sign => "Failed to sign certificate."
  | .keyBio => "Failed to create BIO for private key."
  | .keyPem => "Failed to write private key to PEM."
  | .certificateBio => "Failed to create BIO for certificate."
  | .certificatePem => "Failed to write certificate to PEM."

section Generator

variable {Key : Type} (ssl : BoringSsl Key)

-- A key whose DER encoding fails stays in the generator; `pkey_` is the first component.
def generateKeyAndGetHash (fails : KeygenStep → Bool) (key : Key) :
    Option Key × Except Status Bytes :=
  match KeygenStep.inOrder.find? fails with
  | some .der => (some key, .error ⟨.internal, KeygenStep.der.message⟩)
  | some step => (none, .error ⟨.internal, step.message⟩)
  | none => (some key, .ok (ssl.sha256 (ssl.spkiDer key)))

def selfSigned (key : Key) (attestationToken : Bytes) : Certificate Key where
  version := 2
  serialNumber := 1
  validSeconds := 24 * 3600
  publicKey := ssl.spkiDer key
  subject := "CN=ztab-tee"
  issuer := "CN=ztab-tee"
  extensionOid := kAttestationOid
  extensionValue := ssl.octetStringDer attestationToken
  signedBy := key

def generateCertificate (fails : CertificateStep → Bool) (pkey : Option Key)
    (attestationToken : Bytes) : Except Status (Bytes × Bytes) :=
  match pkey with
  | none =>
    .error ⟨.failedPrecondition, "Key pair not generated. Call GenerateKeyAndGetHash() first."⟩
  | some key =>
    match CertificateStep.inOrder.find? fails with
    | some step => .error ⟨.internal, step.message⟩
    | none => .ok (ssl.certificatePem (selfSigned ssl key attestationToken), ssl.privateKeyPem key)

end Generator

structure SslCtx (Key : Type) where
  certificate : Certificate Key
  privateKey : Key
  deriving DecidableEq

structure CredentialCache (Key : Type) where
  cachedTime : Int := 0
  cachedCertPem : Bytes := []
  cachedKeyPem : Bytes := []
  cachedSslCtx : Option (SslCtx Key) := none

inductive SslCtxStep where
  | new | readCertificate | useCertificate | readPrivateKey | usePrivateKey
  deriving DecidableEq, Repr

/-- One call: its readings of the clock, at the start and once the credentials are complete, the
key its generator draws, the token service, and the library calls that fail. -/
structure SslCtxCall (Key : Type) where
  start : Int
  finish : Int
  key : Key
  keygenFails : KeygenStep → Bool := fun _ => false
  getAttestationToken : Bytes → Except Status Bytes
  certificateFails : CertificateStep → Bool := fun _ => false
  ctxFails : SslCtxStep → Bool := fun _ => false

def kCredentialSeconds : Int := 10 * 1000000000

namespace CredentialCache

variable {Key : Type} (ssl : BoringSsl Key)

def Fresh (cache : CredentialCache Key) (now : Int) : Prop :=
  now - cache.cachedTime < kCredentialSeconds ∧ cache.cachedCertPem ≠ []

instance (cache : CredentialCache Key) (now : Int) : Decidable (cache.Fresh now) :=
  inferInstanceAs (Decidable (_ ∧ _))

-- The certificate and the key are read back from the cached PEM texts. Every failure frees the
-- new context.
def loadSslCtx (fails : SslCtxStep → Bool) (cache : CredentialCache Key) : Option (SslCtx Key) := do
  guard (fails .new = false)
  guard (fails .readCertificate = false)
  let certificate ← ssl.readCertificate cache.cachedCertPem
  guard (fails .useCertificate = false)
  guard (fails .readPrivateKey = false)
  let privateKey ← ssl.readPrivateKey cache.cachedKeyPem
  guard (fails .usePrivateKey = false)
  return { certificate, privateKey }

def rebuildSslCtx (fails : SslCtxStep → Bool) (cache : CredentialCache Key) :
    CredentialCache Key × Option (SslCtx Key) :=
  let ctx := cache.loadSslCtx ssl fails
  ({ cache with cachedSslCtx := ctx }, ctx)

def getOrCreateSslCtx (cache : CredentialCache Key) (call : SslCtxCall Key) :
    CredentialCache Key × Option (SslCtx Key) :=
  if cache.Fresh call.start then (cache, cache.cachedSslCtx)
  else
    let (pkey, hash) := generateKeyAndGetHash ssl call.keygenFails call.key
    match hash with
    | .error _ => (cache, none)
    | .ok hash =>
      match call.getAttestationToken (base64UrlEncode hash) with
      | .error _ => (cache, none)
      | .ok token =>
        match generateCertificate ssl call.certificateFails pkey token with
        | .error _ => (cache, none)
        | .ok (certPem, keyPem) =>
          rebuildSslCtx ssl call.ctxFails
            { cache with cachedCertPem := certPem, cachedKeyPem := keyPem, cachedTime := call.finish }

end CredentialCache

-- The proxy's one cache and the calls it gets, in the order in which they take the mutex.
def credentialMachine {Key : Type} (ssl : BoringSsl Key) :
    Machine (CredentialCache Key) (SslCtxCall Key) (Option (SslCtx Key)) where
  initial := {}
  step cache call := cache.getOrCreateSslCtx ssl call

/-- What PEM writes, PEM reads back, if it reads it at all. -/
structure BoringSsl.Faithful {Key : Type} (ssl : BoringSsl Key) : Prop where
  certificate : ∀ certificate read,
    ssl.readCertificate (ssl.certificatePem certificate) = some read → read = certificate
  privateKey : ∀ key read, ssl.readPrivateKey (ssl.privateKeyPem key) = some read → read = key

section Contexts

variable {Key : Type} {ssl : BoringSsl Key} {cache : CredentialCache Key} {call : SslCtxCall Key}
  {ctx : SslCtx Key}

def IssuedBy (ssl : BoringSsl Key) (call : SslCtxCall Key) (ctx : SslCtx Key) : Prop :=
  ∃ token, call.getAttestationToken (base64UrlEncode (ssl.sha256 (ssl.spkiDer call.key))) = .ok token ∧
    ctx.certificate = selfSigned ssl call.key token ∧ ctx.privateKey = call.key

def Generates (ssl : BoringSsl Key) (cache : CredentialCache Key) (call : SslCtxCall Key)
    (ctx : SslCtx Key) : Prop :=
  ¬ cache.Fresh call.start ∧ (cache.getOrCreateSslCtx ssl call).2 = some ctx

-- The last time a call read the clock before it returned.
def CredentialCache.returnedAt (cache : CredentialCache Key) (call : SslCtxCall Key) : Int :=
  if cache.Fresh call.start then call.start else call.finish

theorem generateKeyAndGetHash_ok {fails : KeygenStep → Bool} {key : Key} {hash : Bytes}
    (hashed : (generateKeyAndGetHash ssl fails key).2 = .ok hash) :
    (generateKeyAndGetHash ssl fails key).1 = some key ∧ hash = ssl.sha256 (ssl.spkiDer key) := by
  unfold generateKeyAndGetHash at hashed ⊢
  split at hashed
  next => cases hashed
  next => cases hashed
  next =>
    cases hashed
    exact ⟨rfl, rfl⟩

theorem generateCertificate_ok {fails : CertificateStep → Bool} {key : Key} {token : Bytes}
    {pems : Bytes × Bytes} (signed : generateCertificate ssl fails (some key) token = .ok pems) :
    pems = (ssl.certificatePem (selfSigned ssl key token), ssl.privateKeyPem key) := by
  unfold generateCertificate at signed
  simp only at signed
  split at signed
  next => cases signed
  next =>
    cases signed
    rfl

theorem loadSslCtx_some {fails : SslCtxStep → Bool} (loaded : cache.loadSslCtx ssl fails = some ctx) :
    ssl.readCertificate cache.cachedCertPem = some ctx.certificate ∧
      ssl.readPrivateKey cache.cachedKeyPem = some ctx.privateKey := by
  unfold CredentialCache.loadSslCtx at loaded
  obtain ⟨-, -, loaded⟩ := Option.bind_eq_some_iff.mp loaded
  obtain ⟨-, -, loaded⟩ := Option.bind_eq_some_iff.mp loaded
  obtain ⟨certificate, read, loaded⟩ := Option.bind_eq_some_iff.mp loaded
  obtain ⟨-, -, loaded⟩ := Option.bind_eq_some_iff.mp loaded
  obtain ⟨-, -, loaded⟩ := Option.bind_eq_some_iff.mp loaded
  obtain ⟨privateKey, readKey, loaded⟩ := Option.bind_eq_some_iff.mp loaded
  obtain ⟨-, -, made⟩ := Option.bind_eq_some_iff.mp loaded
  cases made
  exact ⟨read, readKey⟩

-- A call serves the cache, or fails, or replaces certificate, key, context and time together.
theorem getOrCreateSslCtx_cases (faithful : ssl.Faithful) (cache : CredentialCache Key)
    (call : SslCtxCall Key) :
    (cache.Fresh call.start ∧ cache.getOrCreateSslCtx ssl call = (cache, cache.cachedSslCtx)) ∨
      (¬ cache.Fresh call.start ∧ (cache.getOrCreateSslCtx ssl call).2 = none ∧
        ((cache.getOrCreateSslCtx ssl call).1 = cache ∨
          (cache.getOrCreateSslCtx ssl call).1.cachedSslCtx = none)) ∨
      (¬ cache.Fresh call.start ∧ ∃ ctx, (cache.getOrCreateSslCtx ssl call).2 = some ctx ∧
        (cache.getOrCreateSslCtx ssl call).1.cachedSslCtx = some ctx ∧
        (cache.getOrCreateSslCtx ssl call).1.cachedTime = call.finish ∧ IssuedBy ssl call ctx) := by
  by_cases fresh : cache.Fresh call.start
  next =>
    left
    simp [fresh, CredentialCache.getOrCreateSslCtx]
  next =>
    right
    simp only [fresh, not_false_eq_true, true_and, CredentialCache.getOrCreateSslCtx, if_false]
    cases hashed : (generateKeyAndGetHash ssl call.keygenFails call.key).2 with
    | error status => exact .inl ⟨rfl, .inl rfl⟩
    | ok hash =>
      obtain ⟨held, rfl⟩ := generateKeyAndGetHash_ok hashed
      simp only [held]
      cases asked : call.getAttestationToken
          (base64UrlEncode (ssl.sha256 (ssl.spkiDer call.key))) with
      | error status => exact .inl ⟨rfl, .inl rfl⟩
      | ok token =>
        simp only
        cases signed : generateCertificate ssl call.certificateFails (some call.key) token with
        | error status => exact .inl ⟨rfl, .inl rfl⟩
        | ok pems =>
          cases generateCertificate_ok signed
          simp only
          unfold CredentialCache.rebuildSslCtx
          cases loaded : CredentialCache.loadSslCtx ssl call.ctxFails
              { cache with
                cachedCertPem := ssl.certificatePem (selfSigned ssl call.key token)
                cachedKeyPem := ssl.privateKeyPem call.key
                cachedTime := call.finish } with
          | none => exact .inl ⟨rfl, .inr rfl⟩
          | some ctx =>
            obtain ⟨read, readKey⟩ := loadSslCtx_some loaded
            exact .inr ⟨ctx, rfl, rfl, rfl, token, asked, faithful.certificate _ _ read,
              faithful.privateKey _ _ readKey⟩

def Cached (ssl : BoringSsl Key) (calls : List (SslCtxCall Key)) (cache : CredentialCache Key) : Prop :=
  ∀ ctx, cache.cachedSslCtx = some ctx → ∃ before origin after, calls = before ++ origin :: after ∧
    Generates ssl ((credentialMachine ssl).after (credentialMachine ssl).initial before) origin ctx ∧
    IssuedBy ssl origin ctx ∧ origin.finish = cache.cachedTime

theorem cached_after (faithful : ssl.Faithful) (calls : List (SslCtxCall Key)) :
    Cached ssl calls ((credentialMachine ssl).after (credentialMachine ssl).initial calls) := by
  induction calls using List.reverseRecOn with
  | nil =>
    intro ctx cached
    cases cached
  | append_singleton earlier call ih =>
    intro ctx cached
    rw [Machine.after_append] at cached ⊢
    generalize state : (credentialMachine ssl).after (credentialMachine ssl).initial earlier = cache
      at cached ih ⊢
    have kept (same : ((credentialMachine ssl).after cache [call]) = cache) :
        ∃ before origin after, earlier ++ [call] = before ++ origin :: after ∧
          Generates ssl ((credentialMachine ssl).after (credentialMachine ssl).initial before) origin
            ctx ∧ IssuedBy ssl origin ctx ∧
              origin.finish = ((credentialMachine ssl).after cache [call]).cachedTime := by
      rw [same] at cached ⊢
      obtain ⟨before, origin, after, rfl, generates, issued, time⟩ := ih ctx cached
      exact ⟨before, origin, after ++ [call], by simp, generates, issued, time⟩
    obtain ⟨-, served⟩ | ⟨-, -, failed | failed⟩ | ⟨stale, made, returned, stored, time, issued⟩ :=
      getOrCreateSslCtx_cases faithful cache call
    · exact kept (congrArg Prod.fst served)
    · exact kept failed
    · cases failed.symm.trans cached
    · cases stored.symm.trans cached
      refine ⟨earlier, call, [], rfl, ?_, issued, time.symm⟩
      rw [state]
      exact ⟨stale, returned⟩

/-- The clock does not run backwards, neither within a call nor from one to the next. -/
structure CallsOrdered (calls : List (SslCtxCall Key)) : Prop where
  within : ∀ call ∈ calls, call.start ≤ call.finish
  between : calls.Pairwise fun first second => first.finish ≤ second.start

/-- The context comes from one generator of this run, whose token was bound to its key, and was
completed less than ten seconds before the return. -/
def KeyBoundAndFresh (ssl : BoringSsl Key) (earlier : List (SslCtxCall Key)) (call : SslCtxCall Key)
    (ctx : SslCtx Key) : Prop :=
  ∃ before origin after, earlier ++ [call] = before ++ origin :: after ∧
    Generates ssl ((credentialMachine ssl).after (credentialMachine ssl).initial before) origin ctx ∧
    IssuedBy ssl origin ctx ∧
    let returnedAt :=
      ((credentialMachine ssl).after (credentialMachine ssl).initial earlier).returnedAt call
    origin.finish ≤ returnedAt ∧ returnedAt - origin.finish < kCredentialSeconds

theorem served_contexts_key_bound (ssl : BoringSsl Key) (faithful : ssl.Faithful)
    (calls : List (SslCtxCall Key)) (ordered : CallsOrdered calls)
    (earlier : List (SslCtxCall Key)) (call : SslCtxCall Key) (later : List (SslCtxCall Key))
    (split : calls = earlier ++ call :: later) (ctx : SslCtx Key)
    (served : (((credentialMachine ssl).after (credentialMachine ssl).initial
      earlier).getOrCreateSslCtx ssl call).2 = some ctx) :
    KeyBoundAndFresh ssl earlier call ctx := by
  have sound := cached_after faithful earlier
  unfold KeyBoundAndFresh
  generalize state : (credentialMachine ssl).after (credentialMachine ssl).initial earlier = cache
    at served sound ⊢
  obtain ⟨fresh, hit⟩ | ⟨-, missing, -⟩ | ⟨stale, made, returned, -, -, issued⟩ :=
    getOrCreateSslCtx_cases faithful cache call
  · rw [hit] at served
    obtain ⟨before, origin, after, rfl, generates, issued, time⟩ := sound ctx served
    refine ⟨before, origin, after ++ [call], by simp, generates, issued, ?_⟩
    have order := ordered.between
    rw [split, List.pairwise_append] at order
    have earlierThan := order.2.2 origin (by simp) call (by simp)
    simp only [CredentialCache.returnedAt, fresh, if_true, time]
    exact ⟨time ▸ earlierThan, fresh.1⟩
  · rw [missing] at served
    cases served
  · cases returned.symm.trans served
    refine ⟨earlier, call, [], rfl, ?_, issued, ?_⟩
    · rw [state]
      exact ⟨stale, returned⟩
    · simp [CredentialCache.returnedAt, stale, kCredentialSeconds]

end Contexts

def smallCertificate : Certificate Bytes where
  version := 2
  serialNumber := 1
  validSeconds := 24 * 3600
  publicKey := [1]
  subject := "CN=ztab-tee"
  issuer := "CN=ztab-tee"
  extensionOid := kAttestationOid
  extensionValue := [4, 1, 7]
  signedBy := [1]

-- One key, one certificate. The hash is that of the one byte this run hashes.
def smallSsl : BoringSsl Bytes where
  spkiDer key := key
  sha256 _ :=
    [0x4b, 0xf5, 0x12, 0x2f, 0x34, 0x45, 0x54, 0xc5, 0x3b, 0xde, 0x2e, 0xbb, 0x8c, 0xd2, 0xb7, 0xe3,
      0xd1, 0x60, 0x0a, 0xd6, 0x31, 0xc3, 0x85, 0xa5, 0xd7, 0xcc, 0xe2, 0x3c, 0x77, 0x85, 0x45, 0x9a]
  octetStringDer value := [4, UInt8.ofNat value.length] ++ value
  certificatePem certificate := if certificate = smallCertificate then [1] else []
  privateKeyPem key := key
  readCertificate pem := if pem = [1] then some smallCertificate else none
  readPrivateKey pem := some pem

theorem smallSsl_faithful : smallSsl.Faithful := by
  constructor
  · intro certificate read found
    by_cases same : certificate = smallCertificate
    next =>
      simp only [smallSsl, same, if_true, Option.some.injEq] at found
      rw [same, found]
    next => simp [smallSsl, same] at found
  · intro key read found
    exact (Option.some.inj found).symm

-- The second call is served from the cache, five seconds after the first.
def smallCalls : List (SslCtxCall Bytes) :=
  [⟨20 * 1000000000, 21 * 1000000000, [1], fun _ => false, fun _ => .ok [7], fun _ => false,
      fun _ => false⟩,
    ⟨26 * 1000000000, 26 * 1000000000, [2], fun _ => false, fun _ => .ok [8], fun _ => false,
      fun _ => false⟩]

theorem small_context_key_bound :
    KeyBoundAndFresh smallSsl (smallCalls.take 1) ⟨26 * 1000000000, 26 * 1000000000, [2],
      fun _ => false, fun _ => .ok [8], fun _ => false, fun _ => false⟩ ⟨smallCertificate, [1]⟩ := by
  refine served_contexts_key_bound smallSsl smallSsl_faithful smallCalls ?_ (smallCalls.take 1) _ []
    rfl _ ?_
  · constructor
    · simp [smallCalls]
    · simp [smallCalls]
  · decide +kernel

end Ztab
