import Ztab.Agent.AttestationToken
import Ztab.Agent.TokenClaims

set_option autoImplicit false

/-!
# The nonce that binds the key

The server asks for a token with the hash of its key as the nonce, and the client computes the hash
of the key it meets. The text is the same exactly when the hash is.
-/

namespace Ztab

namespace CredentialCache

variable {Key : Type} (ssl : BoringSsl Key)

def requestedNonce (cache : CredentialCache Key) (call : SslCtxCall Key) : Option Bytes :=
  if cache.Fresh call.start then none
  else
    match (generateKeyAndGetHash ssl call.keygenFails call.key).2 with
    | .error _ => none
    | .ok hash => some (base64UrlEncode hash)

variable {ssl} {cache : CredentialCache Key} {call : SslCtxCall Key} {nonce : Bytes}

theorem requestedNonce_eq_some (requested : cache.requestedNonce ssl call = some nonce) :
    ¬ cache.Fresh call.start ∧
      (generateKeyAndGetHash ssl call.keygenFails call.key).2 =
        .ok (ssl.sha256 (ssl.spkiDer call.key)) ∧
      nonce = base64UrlEncode (ssl.sha256 (ssl.spkiDer call.key)) := by
  unfold requestedNonce at requested
  split at requested
  next => cases requested
  next stale =>
    split at requested
    next => cases requested
    next hash hashed =>
      obtain ⟨-, rfl⟩ := generateKeyAndGetHash_ok hashed
      exact ⟨stale, hashed, (Option.some.inj requested).symm⟩

theorem getOrCreateSslCtx_asks (requested : cache.requestedNonce ssl call = some nonce)
    {provider : Bytes → Except Status Bytes} (same : provider nonce = call.getAttestationToken nonce) :
    cache.getOrCreateSslCtx ssl { call with getAttestationToken := provider } =
      cache.getOrCreateSslCtx ssl call := by
  obtain ⟨stale, hashed, rfl⟩ := requestedNonce_eq_some requested
  simp only [getOrCreateSslCtx, stale, if_false, hashed, same]

end CredentialCache

namespace Ita

/-- Both libraries compute SHA-256, and the key of a certificate is read as it was set. -/
structure Cryptography.Fits {Key : Type} (crypto : Cryptography) (ssl : BoringSsl Key) : Prop where
  hash : ∀ data, crypto.sha256 data = ssl.sha256 data
  subjectKey : ∀ key token,
    crypto.extractPubkeyFromCert (ssl.certificatePem (selfSigned ssl key token)) =
      .ok (ssl.spkiDer key)

def IssuedFor (claims : PyValue) (nonce : Bytes) : Prop :=
  ∃ held, claims.follow ["eat_nonce"] = some held ∧
    (held = .str (Utf8.decode nonce) ∨ ∃ others, held = .list (.str (Utf8.decode nonce) :: others))

/-- The nonce is all that the server asks for; the client expects it of the certificates of the key,
and of no certificate whose key has another digest. -/
structure NonceBinds {Key : Type} (ssl : BoringSsl Key) (crypto : Cryptography)
    (cache : CredentialCache Key) (call : SslCtxCall Key) (nonce : Bytes) : Prop where
  asked : ∀ provider : Bytes → Except Status Bytes, provider nonce = call.getAttestationToken nonce →
    cache.getOrCreateSslCtx ssl { call with getAttestationToken := provider } =
      cache.getOrCreateSslCtx ssl call
  expected : ∀ fails token certPem keyPem,
    generateCertificate ssl fails (some call.key) token = .ok (certPem, keyPem) →
      computePubkeyHashB64url crypto certPem = .ok (Utf8.decode nonce) ∧
        ∀ claims, IssuedFor claims nonce → verifyKeyBinding crypto claims certPem = .ok true
  unexpected : ∀ certPem spkiDer, crypto.extractPubkeyFromCert certPem = .ok spkiDer →
    crypto.sha256 spkiDer ≠ ssl.sha256 (ssl.spkiDer call.key) →
      computePubkeyHashB64url crypto certPem ≠ .ok (Utf8.decode nonce) ∧
        ∀ claims, IssuedFor claims nonce → verifyKeyBinding crypto claims certPem = .ok false

theorem decode_base64UrlEncode (data : Bytes) :
    Utf8.decode (base64UrlEncode data) = base64urlEncodeNopad data := by
  have ascii : ∀ byte ∈ base64UrlEncode data, byte.toNat < 128 :=
    fun byte listed => (base64UrlEncode_safe data byte listed).ascii
  calc
    Utf8.decode (base64UrlEncode data)
      = ((base64UrlEncode data).map UInt8.toNat).map PyJson.code := by
        rw [Utf8.decode_ascii ascii, List.map_map]
        rfl
    _ = ((base64urlEncodeNopad data).map Fin.val).map PyJson.code := by rw [encoders_same]
    _ = base64urlEncodeNopad data := by simp [Function.comp_def]

section Binding

variable {Key : Type} {ssl : BoringSsl Key} {crypto : Cryptography} {certPem spkiDer digest : Bytes}

theorem computePubkeyHashB64url_eq (extracted : crypto.extractPubkeyFromCert certPem = .ok spkiDer) :
    computePubkeyHashB64url crypto certPem = .ok (base64urlEncodeNopad (crypto.sha256 spkiDer)) := by
  simp [computePubkeyHashB64url, extracted, bind, Except.bind, pure, Except.pure]

theorem verifyKeyBinding_digests (extracted : crypto.extractPubkeyFromCert certPem = .ok spkiDer)
    (nonempty : digest ≠ []) {claims : PyValue} (issued : IssuedFor claims (base64UrlEncode digest)) :
    verifyKeyBinding crypto claims certPem = .ok (decide (digest = crypto.sha256 spkiDer)) := by
  obtain ⟨held, present, shape⟩ := issued
  rw [decode_base64UrlEncode] at shape
  rw [verifyKeyBinding_eq present shape (base64urlEncodeNopad_nonempty nonempty)
    (computePubkeyHashB64url_eq extracted)]
  exact congrArg Except.ok (decide_eq_decide.mpr base64urlEncodeNopad_injective.eq_iff)

/-- Server and client agree on the text of every digest, so the nonce that the server asks for is the
one that the client expects, and it is no other key's. -/
theorem server_and_client_nonces_agree (fits : crypto.Fits ssl) :
    (∀ data, EncodersAgree data) ∧
      ∀ (cache : CredentialCache Key) (call : SslCtxCall Key) (nonce : Bytes),
        cache.requestedNonce ssl call = some nonce → NonceBinds ssl crypto cache call nonce := by
  refine ⟨encodersAgree, ?_⟩
  intro cache call nonce requested
  obtain ⟨-, -, rfl⟩ := CredentialCache.requestedNonce_eq_some requested
  have digests := fits.hash (ssl.spkiDer call.key)
  have nonempty : ssl.sha256 (ssl.spkiDer call.key) ≠ [] := by
    intro empty
    simpa [digests, empty] using crypto.digestSize (ssl.spkiDer call.key)
  constructor
  · intro provider same
    exact CredentialCache.getOrCreateSslCtx_asks requested same
  · intro fails token certPem keyPem made
    cases generateCertificate_ok made
    have extracted := fits.subjectKey call.key token
    constructor
    · rw [computePubkeyHashB64url_eq extracted, digests, decode_base64UrlEncode]
    · intro claims issued
      rw [verifyKeyBinding_digests extracted nonempty issued, digests]
      simp
  · intro certPem spkiDer extracted differs
    constructor
    · rw [computePubkeyHashB64url_eq extracted, decode_base64UrlEncode]
      intro same
      exact differs (base64urlEncodeNopad_injective (Except.ok.inj same))
    · intro claims issued
      rw [verifyKeyBinding_digests extracted nonempty issued, decide_eq_false differs.symm]

end Binding

-- The digests are those of the two keys of this run.
def pairSha256 (data : Bytes) : Bytes :=
  if data = [2] then
    [0xdb, 0xc1, 0xb4, 0xc9, 0x00, 0xff, 0xe4, 0x8d, 0x57, 0x5b, 0x5d, 0xa5, 0xc6, 0x38, 0x04, 0x01,
      0x25, 0xf6, 0x5d, 0xb0, 0xfe, 0x3e, 0x24, 0x49, 0x4b, 0x76, 0xea, 0x98, 0x64, 0x57, 0xd9, 0x86]
  else smallSsl.sha256 data

-- A certificate is stood for by its key.
def pairSsl : BoringSsl Bytes :=
  { smallSsl with
    sha256 := pairSha256
    certificatePem := fun certificate => certificate.publicKey }

def pairCryptography : Cryptography where
  extractPubkeyFromCert pem := .ok pem
  sha256 := pairSha256
  digestSize data := by
    unfold pairSha256
    split <;> rfl

def firstCall : SslCtxCall Bytes where
  start := 20 * 1000000000
  finish := 21 * 1000000000
  key := [1]
  getAttestationToken _ := .ok [7]

def firstNonce : String := "S_USLzRFVMU73i67jNK349FgCtYxw4Wl18ziPHeFRZo"

theorem firstNonce_binds :
    NonceBinds pairSsl pairCryptography {} firstCall (utf8 firstNonce) ∧
      verifyKeyBinding pairCryptography (pyDict [("eat_nonce", .list [pyText firstNonce])]) [1] =
        .ok true ∧
      verifyKeyBinding pairCryptography (pyDict [("eat_nonce", .list [pyText firstNonce])]) [2] =
        .ok false := by
  have fits : pairCryptography.Fits pairSsl := ⟨fun _ => rfl, fun _ _ => rfl⟩
  have requested : CredentialCache.requestedNonce pairSsl {} firstCall = some (utf8 firstNonce) := by
    decide +kernel
  have binds := (server_and_client_nonces_agree fits).2 {} firstCall (utf8 firstNonce) requested
  have issued : IssuedFor (pyDict [("eat_nonce", .list [pyText firstNonce])]) (utf8 firstNonce) := by
    refine ⟨.list [pyText firstNonce], rfl, .inr ⟨[], ?_⟩⟩
    rw [Utf8.decode_utf8]
    rfl
  have made : generateCertificate pairSsl (fun _ => false) (some firstCall.key) [7] =
      .ok ([1], [1]) := rfl
  have differs : pairSha256 [2] ≠ pairSha256 [1] := by decide
  exact ⟨binds, (binds.expected _ _ _ _ made).2 _ issued,
    (binds.unexpected [2] [2] rfl differs).2 _ issued⟩

end Ita

end Ztab
