import Ztab.Agent.JsonRoundTrip
import Ztab.Agent.KeyBinding

set_option autoImplicit false

/-!
# The keys behind attested channels

Any number of containers, some of them with a proxy and some with programs of other people, ask
their attestation agents for tokens, and anybody may present any certificate to a client. The
client opens a channel only if the key of the certificate was made by a proxy in a container
whose image the policy names.
-/

namespace Ztab

-- How libcurl's part of a request ends.
inductive CurlOutcome where
  | initFails
  | contentTypeFails
  | metadataFlavorFails
  | performFails (what : String)
  | answered (httpCode : Int) (readBuffer : Bytes)

inductive HttpStatusCode where
  | internal | invalidArgument | unavailable
  deriving DecidableEq, Repr

structure HttpStatus where
  code : HttpStatusCode
  message : Bytes
  deriving DecidableEq

def httpStatusCode (httpCode : Int) : HttpStatusCode :=
  if 400 ≤ httpCode ∧ httpCode < 500 then .invalidArgument
  else if 500 ≤ httpCode then .unavailable
  else .internal

def postJsonViaUnixSocket : CurlOutcome → Except HttpStatus Bytes
  | .initFails => .error ⟨.internal, utf8 "Failed to initialize curl."⟩
  | .contentTypeFails => .error ⟨.internal, utf8 "Failed to append Content-Type header."⟩
  | .metadataFlavorFails => .error ⟨.internal, utf8 "Failed to append Metadata-Flavor header."⟩
  | .performFails what => .error ⟨.internal, utf8 ("curl_easy_perform() failed: " ++ what)⟩
  | .answered httpCode readBuffer =>
    if httpCode ≠ 200 then
      .error ⟨httpStatusCode httpCode,
        utf8 ("Attestation agent returned HTTP status " ++ toString httpCode ++ ": ") ++ readBuffer⟩
    else .ok readBuffer

def kAgentSocketPath : String := "/run/container_launcher/teeserver.sock"

def kItaTokenUrl : String := "http://localhost/v1/intel/token"

def kAudience : String := "ztab_tls"

def itaJsonPayload (nonce : Bytes) : Bytes :=
  utf8 ("\x7b\"audience\": \"" ++ kAudience ++
    "\", \"token_type\": \"PRINCIPAL_TAGS\", \"nonces\": [\"") ++ nonce ++ utf8 "\"]\x7d"

abbrev AttestationAgent := String → String → Bytes → CurlOutcome

def gcpGetAttestationToken (agent : AttestationAgent) (nonce : Bytes) : Except HttpStatus Bytes :=
  match postJsonViaUnixSocket (agent kItaTokenUrl kAgentSocketPath (itaJsonPayload nonce)) with
  | .error status =>
    .error ⟨status.code, utf8 "Failed to fetch ITA attestation token: " ++ status.message⟩
  | .ok response => .ok response

theorem escapePoint_safe {point : CodePoint} (safe : Ita.UrlSafe point.val) :
    PyJson.escapePoint point = [point] := by
  have bounds : 'A'.toNat = 65 ∧ 'Z'.toNat = 90 ∧ 'a'.toNat = 97 ∧ 'z'.toNat = 122 ∧ '0'.toNat = 48 ∧
      '9'.toNat = 57 ∧ '-'.toNat = 45 ∧ '_'.toNat = 95 := by decide
  unfold Ita.UrlSafe at safe
  have printable : 0x20 ≤ point.val ∧ point.val ≤ 0x7E ∧ point.val ≠ 0x22 ∧ point.val ≠ 0x5C := by
    omega
  have unescaped : PyJson.escapeLetters.lookup point.val = none := by
    simp only [PyJson.escapeLetters, List.lookup_eq_none_iff]
    intro entry listed
    simp only [List.mem_cons, List.not_mem_nil, or_false] at listed
    rcases listed with rfl | rfl | rfl | rfl | rfl | rfl | rfl <;> simp <;> omega
  simp [PyJson.escapePoint, unescaped, printable.1, printable.2.1]

theorem dumpsStr_safe {text : PyStr} (safe : ∀ point ∈ text, Ita.UrlSafe point.val) :
    PyJson.dumpsStr text = PyJson.code 0x22 :: (text ++ [PyJson.code 0x22]) := by
  have plain : text.flatMap PyJson.escapePoint = text := by
    induction text with
    | nil => rfl
    | cons point rest ih =>
      obtain ⟨first, others⟩ := List.forall_mem_cons.mp safe
      rw [List.flatMap_cons, escapePoint_safe first, ih others]
      rfl
  rw [PyJson.dumpsStr, plain]

theorem unpaired_safe {text : PyStr} (safe : ∀ point ∈ text, Ita.UrlSafe point.val) :
    PyJson.Unpaired text := by
  apply List.Pairwise.isChain
  apply List.pairwise_of_forall_mem_list
  intro left leftListed right _ surrogates
  have ascii := (safe left leftListed).ascii
  simp only [PyJson.isHigh, Bool.and_eq_true, decide_eq_true_eq] at surrogates
  omega

def itaRequest (nonce : PyStr) : PyValue :=
  pyDict [("audience", pyText kAudience), ("token_type", pyText "PRINCIPAL_TAGS"),
    ("nonces", .list [.str nonce])]

theorem dumps_itaRequest (python : Python) {nonce : PyStr}
    (safe : ∀ point ∈ nonce, Ita.UrlSafe point.val) :
    PyJson.dumps python (itaRequest nonce) =
      .ok (py ("\x7b\"audience\": \"" ++ kAudience ++
        "\", \"token_type\": \"PRINCIPAL_TAGS\", \"nonces\": [\"") ++ nonce ++
          py "\"]\x7d") := by
  have opening : py ("\x7b\"audience\": \"" ++ kAudience ++
      "\", \"token_type\": \"PRINCIPAL_TAGS\", \"nonces\": [\"") =
      PyJson.code 0x7B :: (PyJson.dumpsStr (py "audience") ++ PyJson.code 0x3A :: PyJson.code 0x20 ::
        (PyJson.dumpsStr (py kAudience) ++ PyJson.code 0x2C :: PyJson.code 0x20 ::
          (PyJson.dumpsStr (py "token_type") ++ PyJson.code 0x3A :: PyJson.code 0x20 ::
            (PyJson.dumpsStr (py "PRINCIPAL_TAGS") ++ PyJson.code 0x2C :: PyJson.code 0x20 ::
              (PyJson.dumpsStr (py "nonces") ++ [PyJson.code 0x3A, PyJson.code 0x20,
                PyJson.code 0x5B, PyJson.code 0x22]))))) := by decide +kernel
  have closing : py "\"]\x7d" = [PyJson.code 0x22, PyJson.code 0x5D, PyJson.code 0x7D] := by decide
  have quoted := dumpsStr_safe safe
  rw [opening, closing]
  simp only [itaRequest, pyDict, pyText, List.map_cons, List.map_nil, PyJson.dumps,
    PyJson.dumpsEntries, PyJson.dumpsElements, quoted, bind, Except.bind, pure, Except.pure,
    List.cons_append, List.append_assoc, List.nil_append]

theorem itaRequest_nonces (nonce : PyStr) :
    (itaRequest nonce).follow ["nonces"] = some (.list [.str nonce]) := by
  have apart : py "audience" ≠ py "nonces" ∧ py "token_type" ≠ py "nonces" := by decide
  simp [itaRequest, pyDict, PyValue.follow, PyValue.find, apart]

theorem loads_itaJsonPayload (parseFloat : PyStr → PyFloat) (digest : Bytes) :
    PyJson.loads parseFloat (Utf8.decode (itaJsonPayload (base64UrlEncode digest))) =
      some (itaRequest (Utf8.decode (base64UrlEncode digest))) := by
  have safe : ∀ point ∈ Utf8.decode (base64UrlEncode digest), Ita.UrlSafe point.val := by
    rw [Ita.decode_base64UrlEncode]
    exact Ita.base64urlEncodeNopad_safe digest
  have written : Utf8.decode (itaJsonPayload (base64UrlEncode digest)) =
      py ("\x7b\"audience\": \"" ++ kAudience ++
        "\", \"token_type\": \"PRINCIPAL_TAGS\", \"nonces\": [\"") ++
          Utf8.decode (base64UrlEncode digest) ++ py "\"]\x7d" := by
    have ascii : ∀ octet ∈ itaJsonPayload (base64UrlEncode digest), octet.toNat < 128 := by
      intro octet listed
      simp only [itaJsonPayload, List.mem_append, or_assoc] at listed
      rcases listed with opening | nonce | closing
      · exact (by decide +kernel : ∀ octet ∈ utf8 ("\x7b\"audience\": \"" ++ kAudience ++
          "\", \"token_type\": \"PRINCIPAL_TAGS\", \"nonces\": [\""), octet.toNat < 128) octet opening
      · exact (Ita.base64UrlEncode_safe digest octet nonce).ascii
      · exact (by decide +kernel : ∀ octet ∈ utf8 "\"]\x7d", octet.toNat < 128) octet closing
    rw [Utf8.decode_ascii ascii, Utf8.decode_ascii fun octet listed =>
      (Ita.base64UrlEncode_safe digest octet listed).ascii]
    simp only [itaJsonPayload, List.map_append]
    rfl
  have portable : PyJson.Portable (itaRequest (Utf8.decode (base64UrlEncode digest))) := by
    have keys : [py "audience", py "token_type", py "nonces"].Nodup ∧
        PyJson.Unpaired (py "audience") ∧ PyJson.Unpaired (py "token_type") ∧
        PyJson.Unpaired (py "nonces") := by decide
    have texts : PyJson.Unpaired (py kAudience) ∧ PyJson.Unpaired (py "PRINCIPAL_TAGS") := by decide
    refine ⟨?_, keys.2.1, texts.1, keys.2.2.1, texts.2, keys.2.2.2, ⟨unpaired_safe safe, trivial⟩,
      trivial⟩
    simpa only [List.map_cons, List.map_nil] using keys.1
  obtain ⟨text, dumped, read⟩ := PyJson.loads_dumps plainPython parseFloat portable
  rw [dumps_itaRequest plainPython safe] at dumped
  cases dumped
  rw [written]
  exact read

structure ProxyCall (Key : Type) where
  start : Int
  finish : Int
  key : Key
  keygenFails : KeygenStep → Bool := fun _ => false
  agent : AttestationAgent
  certificateFails : CertificateStep → Bool := fun _ => false
  ctxFails : SslCtxStep → Bool := fun _ => false

-- The cache looks at the token and logs the rest.
def ProxyCall.sslCtxCall {Key : Type} (call : ProxyCall Key) : SslCtxCall Key where
  start := call.start
  finish := call.finish
  key := call.key
  keygenFails := call.keygenFails
  getAttestationToken nonce :=
    (gcpGetAttestationToken call.agent nonce).mapError fun _ => ⟨.internal, "token fetch failed"⟩
  certificateFails := call.certificateFails
  ctxFails := call.ctxFails

structure Containers (Key : Type) where
  caches : Nat → CredentialCache Key := fun _ => {}
  -- History: what each container asked its agent for, and the keys that its proxy made for it.
  requests : List (Nat × Bytes) := []
  generated : List (Nat × Key) := []

inductive ContainerAction (Key : Type) where
  | serve (container : Nat) (call : ProxyCall Key)
  -- A program of somebody else asks its agent for anything.
  | request (container : Nat) (payload : Bytes)

section Protocol

variable {Key : Type} (ssl : BoringSsl Key)

namespace Containers

def serve (state : Containers Key) (container : Nat) (call : ProxyCall Key) :
    Containers Key × Option (SslCtx Key) :=
  let (cache, ctx) := (state.caches container).getOrCreateSslCtx ssl call.sslCtxCall
  let caches := Function.update state.caches container cache
  match (state.caches container).requestedNonce ssl call.sslCtxCall with
  | none => ({ state with caches }, ctx)
  | some nonce =>
    ({ caches
       requests := state.requests ++ [(container, itaJsonPayload nonce)]
       generated := state.generated ++ [(container, call.key)] }, ctx)

def step (state : Containers Key) : ContainerAction Key → Containers Key × Option (SslCtx Key)
  | .serve container call => state.serve ssl container call
  | .request container payload =>
    ({ state with requests := state.requests ++ [(container, payload)] }, none)

end Containers

def containerMachine : Machine (Containers Key) (ContainerAction Key) (Option (SslCtx Key)) where
  initial := {}
  step := Containers.step ssl

/-- The claims of a token that the agent gave a container of this image for this payload: the image,
and the nonces of the request, a single one also by itself. -/
structure Attests (parseFloat : PyStr → PyFloat) (digest : PyValue) (payload : Bytes)
    (claims : PyValue) : Prop where
  image : claims.follow ["submods", "container", "image_digest"] = some digest
  nonces : ∀ request nonces, PyJson.loads parseFloat (Utf8.decode payload) = some request →
    request.follow ["nonces"] = some (.list nonces) →
      claims.follow ["eat_nonce"] = some (.list nonces) ∨
        ∃ nonce, nonces = [nonce] ∧ claims.follow ["eat_nonce"] = some nonce

/-- A token that the keys of the authority verify was given for one of the requests. -/
def Genuine {SigningKey : Type} (parseFloat : PyStr → PyFloat) (digestOf : Nat → PyValue)
    (state : Containers Key) (jwt : Ita.PyJwt SigningKey) (policy : ItaPolicy) : Prop :=
  ∀ token claims, Ita.decodeToken jwt policy token = .ok (some claims) →
    ∃ request ∈ state.requests, Attests parseFloat (digestOf request.1) request.2 claims

/-- In a container with an image of the policy runs the proxy, and nothing else asks the agent. -/
def Measured (digestOf : Nat → PyValue) (policy : ItaPolicy) (_ : Containers Key) :
    ContainerAction Key → Prop
  | .serve _ _ => True
  | .request container _ => digestOf container ∉ policy.expectedImageDigests

variable {ssl} {digestOf : Nat → PyValue} {policy : ItaPolicy}

-- Every request under a trusted image is for a key that the proxy there has made.
def Containers.Traced (ssl : BoringSsl Key) (digestOf : Nat → PyValue) (policy : ItaPolicy)
    (state : Containers Key) : Prop :=
  ∀ container payload, (container, payload) ∈ state.requests →
    digestOf container ∈ policy.expectedImageDigests →
      ∃ key, (container, key) ∈ state.generated ∧
        payload = itaJsonPayload (base64UrlEncode (ssl.sha256 (ssl.spkiDer key)))

theorem Containers.Traced.step {state : Containers Key} (traced : state.Traced ssl digestOf policy)
    (action : ContainerAction Key) (allowed : Measured digestOf policy state action) :
    (state.step ssl action).1.Traced ssl digestOf policy := by
  intro container payload listed trusted
  cases action with
  | serve owner call =>
    simp only [Containers.step, Containers.serve] at listed ⊢
    split at listed
    next => exact traced container payload listed trusted
    next nonce requested =>
      rcases List.mem_append.mp listed with earlier | new
      · obtain ⟨key, made, same⟩ := traced container payload earlier trusted
        exact ⟨key, List.mem_append_left _ made, same⟩
      · obtain ⟨-, -, rfl⟩ := CredentialCache.requestedNonce_eq_some requested
        cases List.mem_singleton.mp new
        exact ⟨call.key, by simp, rfl⟩
  | request owner body =>
    rcases List.mem_append.mp listed with earlier | new
    · exact traced container payload earlier trusted
    · cases List.mem_singleton.mp new
      exact absurd trusted allowed

theorem traced_of_measured (run : List (ContainerAction Key))
    (measured : (containerMachine ssl).Allowed (Measured digestOf policy)
      (containerMachine ssl).initial run) :
    ((containerMachine ssl).after (containerMachine ssl).initial run).Traced ssl digestOf policy :=
  (containerMachine ssl).allowed_preserves (Measured digestOf policy)
    (Containers.Traced ssl digestOf policy)
    (fun _ action allowed traced => traced.step action allowed) _
    (fun _ _ impossible => by cases impossible) run measured

theorem getStub_verified (env : AgentEnv) (network : Network) (target : Target) :
    Effect.Ensures (fun _ => True) (getStub env network target)
      (fun _ _ => ∃ certPem token verifier, getVerifier env target.policy = .ok verifier ∧
        network.fetchServerCertPem target.host target.port = .ok certPem ∧
        network.extractAttestationToken certPem = .ok (some token) ∧
        runVerifier env network token certPem verifier = .ok true)
      (fun _ => True) := by
  apply Effect.ensures_bind_ofExcept fun _ _ => trivial
  intro verifier gated
  apply Effect.ensures_bind_get
  intro state
  apply Effect.ensures_bind_modify (fun _ => True) fun _ _ => trivial
  apply Effect.ensures_bind_ofExcept fun _ _ => trivial
  intro certPem fetched
  apply Effect.ensures_bind_ofExcept fun _ _ => trivial
  intro extracted held
  cases extracted with
  | none => exact Effect.ensures_throw fun _ _ => trivial
  | some token =>
    apply Effect.ensures_bind_ofExcept fun _ _ => trivial
    intro verdict said
    apply Effect.ensures_bind_modify (fun _ => True) fun _ _ => trivial
    split
    next accepted =>
      apply Effect.ensures_bind_ofExcept fun _ _ => trivial
      intro _ opened
      apply Effect.ensures_bind_modify (fun _ => True) fun _ _ => trivial
      exact Effect.ensures_pure fun _ _ =>
        ⟨certPem, token, verifier, gated, fetched, held, accepted ▸ said⟩
    next => exact Effect.ensures_throw fun _ _ => trivial

-- A conforming token whose nonces are those of a proxy's request is bound to the proxy's key.
theorem key_of_attested {parseFloat : PyStr → PyFloat} {crypto : Ita.Cryptography} {python : Python}
    (sameHash : ∀ data, crypto.sha256 data = ssl.sha256 data) {claims : PyValue} {certPem : Bytes}
    {digest : PyValue} {key : Key}
    (conforms : Ita.Conforms python crypto policy claims certPem)
    (attests : Attests parseFloat digest
      (itaJsonPayload (base64UrlEncode (ssl.sha256 (ssl.spkiDer key)))) claims) :
    ∃ spkiDer, crypto.extractPubkeyFromCert certPem = .ok spkiDer ∧
      crypto.sha256 spkiDer = crypto.sha256 (ssl.spkiDer key) := by
  obtain ⟨hash, computed, nonce, held, shape⟩ := conforms.keyBinding
  have asked := attests.nonces _ _ (loads_itaJsonPayload parseFloat _) (itaRequest_nonces _)
  rw [Ita.decode_base64UrlEncode] at asked
  have same : hash = Ita.base64urlEncodeNopad (ssl.sha256 (ssl.spkiDer key)) := by
    rcases asked with several | ⟨single, only, alone⟩
    · rw [several] at held
      cases held
      rcases shape with text | ⟨others, list⟩
      · cases text
      · cases list
        rfl
    · rw [alone] at held
      cases held
      cases List.singleton_inj.mp only
      rcases shape with text | ⟨others, list⟩
      · cases text
        rfl
      · cases list
  unfold Ita.computePubkeyHashB64url at computed
  obtain ⟨spkiDer, extracted, encoded⟩ := Effect.bind_eq_ok.mp computed
  refine ⟨spkiDer, extracted, ?_⟩
  rw [sameHash (ssl.spkiDer key)]
  apply Ita.base64urlEncodeNopad_injective
  rw [← same]
  exact Except.ok.inj encoded

/-- Whatever the containers did, whoever asked their agents for tokens and whatever certificate the
server presents: if the client opens a channel, the key of that certificate has the hash of a key
that a proxy made in a container with an image of the policy. -/
theorem attested_channel_key {SigningKey : Type} (parseFloat : PyStr → PyFloat)
    (crypto : Ita.Cryptography) (sameHash : ∀ data, crypto.sha256 data = ssl.sha256 data)
    (env : AgentEnv) (production : env.isTest = false) (target : Target)
    (named : target.policy = .ita policy) (run : List (ContainerAction Key))
    (measured : (containerMachine ssl).Allowed (Measured digestOf policy)
      (containerMachine ssl).initial run)
    (jwt : Ita.PyJwt SigningKey) (genuine : Genuine parseFloat digestOf
      ((containerMachine ssl).after (containerMachine ssl).initial run) jwt policy)
    (network : Network) (verifies : network.itaVerifier = Ita.itaVerifier env.python crypto jwt)
    (mcp : McpState) (channel : ZtabChannel)
    (opened : ((getStub env network target).exec mcp).1 = .ok channel) :
    ∃ certPem spkiDer container key,
      network.fetchServerCertPem target.host target.port = .ok certPem ∧
      crypto.extractPubkeyFromCert certPem = .ok spkiDer ∧
      digestOf container ∈ policy.expectedImageDigests ∧
      (container, key) ∈
        ((containerMachine ssl).after (containerMachine ssl).initial run).generated ∧
      crypto.sha256 spkiDer = crypto.sha256 (ssl.spkiDer key) := by
  have both := getStub_verified env network target mcp trivial
  split at both
  next value after ended =>
    obtain ⟨certPem, token, verifier, gated, fetched, extracted, accepted⟩ := both
    obtain ⟨ita, claims, same, sound, decoded, conforms⟩ :=
      Ita.verified_channel_conforms production verifies gated accepted
    rw [named] at same
    cases same
    obtain ⟨⟨container, payload⟩, listed, attests⟩ := genuine token claims decoded
    obtain ⟨digest, trusted, image⟩ := conforms.imageDigest
    have held : digestOf container ∈ policy.expectedImageDigests := by
      rw [attests.image] at image
      exact Option.some.inj image ▸ trusted
    obtain ⟨key, made, rfl⟩ := traced_of_measured run measured container payload listed held
    obtain ⟨spkiDer, subject, hashes⟩ := key_of_attested sameHash conforms attests
    exact ⟨certPem, spkiDer, container, key, fetched, subject, held, made, hashes⟩
  next raised after ended =>
    rw [ended] at opened
    cases opened

end Protocol

def firstImage (container : Nat) : PyValue :=
  if container = 0 then pyText "sha256:00" else pyText "sha256:ff"

def firstProxyCall : ProxyCall Bytes where
  start := 20 * 1000000000
  finish := 21 * 1000000000
  key := [1]
  agent _ _ _ := .answered 200 [7]

-- Another container asks for a token for the nonce of the proxy, which the proxy asks for later.
def firstRun : List (ContainerAction Bytes) :=
  [.request 1 (itaJsonPayload (utf8 Ita.firstNonce)), .serve 0 firstProxyCall]

def firstTarget : Target where
  host := pyText "server"
  port := 8000
  policy := .ita Ita.samplePolicy

def firstNetwork : Network where
  fetchServerCertPem _ _ := .ok [1]
  extractAttestationToken _ := .ok (some (py "token"))
  itaVerifier := Ita.itaVerifier Ita.samplePython Ita.pairCryptography Ita.sampleJwt
  secureChannel := .ok ()
  rpc _ := .error (.runtimeError [])
  uuid := []
  decodeJwtPayload _ := .none

theorem firstRun_requests :
    (0, itaJsonPayload (base64UrlEncode (Ita.pairSsl.sha256 (Ita.pairSsl.spkiDer [1])))) ∈
      ((containerMachine Ita.pairSsl).after (containerMachine Ita.pairSsl).initial
        firstRun).requests := by
  decide +kernel

theorem first_channel_attested :
    ∃ certPem spkiDer container key,
      firstNetwork.fetchServerCertPem firstTarget.host firstTarget.port = .ok certPem ∧
      Ita.pairCryptography.extractPubkeyFromCert certPem = .ok spkiDer ∧
      firstImage container ∈ Ita.samplePolicy.expectedImageDigests ∧
      (container, key) ∈ ((containerMachine Ita.pairSsl).after (containerMachine Ita.pairSsl).initial
        firstRun).generated ∧
      Ita.pairCryptography.sha256 spkiDer =
        Ita.pairCryptography.sha256 (Ita.pairSsl.spkiDer key) := by
  have measured : (containerMachine Ita.pairSsl).Allowed (Measured firstImage Ita.samplePolicy)
      (containerMachine Ita.pairSsl).initial firstRun := by
    refine ⟨?_, trivial, trivial⟩
    simp [Measured, firstImage, Ita.samplePolicy, pyText]
    decide
  have genuine : Genuine (fun _ => .nan) firstImage ((containerMachine Ita.pairSsl).after
      (containerMachine Ita.pairSsl).initial firstRun) Ita.sampleJwt Ita.samplePolicy := by
    intro token claims decoded
    have fixed : claims = .dict Ita.sampleClaims := (Option.some.inj (Except.ok.inj decoded)).symm
    subst fixed
    refine ⟨_, firstRun_requests, rfl, ?_⟩
    intro request nonces read listed
    rw [loads_itaJsonPayload] at read
    cases read
    rw [itaRequest_nonces] at listed
    cases listed
    have nonce : base64UrlEncode (Ita.pairSsl.sha256 (Ita.pairSsl.spkiDer [1])) =
        utf8 Ita.firstNonce := by decide +kernel
    rw [nonce, Utf8.decode_utf8]
    exact .inl rfl
  exact attested_channel_key (fun _ => .nan) Ita.pairCryptography (fun _ => rfl)
    ⟨Ita.samplePython, none⟩ rfl firstTarget rfl firstRun measured Ita.sampleJwt genuine firstNetwork
    rfl {} ⟨0, firstTarget, py "token"⟩ rfl

end Ztab
