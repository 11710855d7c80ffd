import Ztab.Agent.VerifierPolicy
import Ztab.Json.Value
import Ztab.Shared.Effect

set_option autoImplicit false

/-!
# The ITA verifier

`ita_verifier` over the claims of a decoded token. The claims are whatever JSON the token
holds, so every lookup may meet a value it has no method for, and then raises.
-/

namespace Ztab

namespace PyValue

-- `value is True`
def isTrue : PyValue → Bool
  | .bool value => value
  | _ => false

-- `value in elements` for a set, which hashes the value first
def inSet (value : PyValue) (elements : List PyValue) : Except PyException Bool := do
  value.hash
  return value.memberOf elements

-- `element in value`
def containsValue (value element : PyValue) : Except PyException Bool :=
  match value, element with
  | .list elements, element => .ok (memberOf element elements)
  | .dict entries, .str key => .ok (find key entries).isSome
  | .dict _, element => do
    element.hash
    return false
  | .str text, .str key => .ok (decide (key <:+: text))
  | _, _ => .error .typeError

-- `value.get(first, {}).get(second, {}). … .get(last, default)`
def getPath (value : PyValue) (default : PyValue) : List String → Except PyException PyValue
  | [] => .ok value
  | [key] => value.get key default
  | key :: rest => do
    let inner ← value.get key (.dict [])
    inner.getPath default rest

end PyValue

namespace Ita

def itaIssuer : String := "https://portal.trustauthority.intel.com"

def expectedHwmodel : String := "INTEL_TDX"

def expectedSwname : String := "CONFIDENTIAL_SPACE"

def expectedCvmCompliance : String := "gcp_compliant_cvm"

def validDbgStates : List String := ["disabled-since-boot", "disabled", "enabled"]

-- A check that is not passed, or raises, ends the verification.
def inTurn : List (Except PyException Bool) → Except PyException Bool
  | [] => .ok true
  | check :: rest =>
    match check with
    | .ok true => inTurn rest
    | other => other

def expectText (claims : PyValue) (path : List String) (expected : String) :
    Except PyException Bool := do
  let actual ← claims.getPath (.str []) path
  return actual.eq (.str (py expected))

def verifyIssuer (claims : PyValue) : Except PyException Bool :=
  expectText claims ["iss"] itaIssuer

def verifySecboot (claims : PyValue) : Except PyException Bool := do
  let secboot ← claims.getPath (.bool false) ["secboot"]
  return secboot.isTrue

def acceptedDbgStates (policy : ItaPolicy) : List String :=
  if policy.allowDebug.truthy then validDbgStates else ["disabled", "disabled-since-boot"]

def verifyDbgstat (claims : PyValue) (policy : ItaPolicy) : Except PyException Bool := do
  let dbgstat ← claims.getPath (.str []) ["dbgstat"]
  dbgstat.inSet ((acceptedDbgStates policy).map fun state => .str (py state))

def verifySupportAttributes (claims : PyValue) (policy : ItaPolicy) : Except PyException Bool :=
  if policy.allowDebug.truthy then .ok true
  else do
    let attrs ← claims.getPath (.list []) ["submods", "confidential_space", "support_attributes"]
    return !(← attrs.contains (py "DEBUG"))

def verifyHwClaims (claims : PyValue) (policy : ItaPolicy) : Except PyException Bool :=
  inTurn [expectText claims ["hwmodel"] expectedHwmodel, verifySecboot claims,
    verifyDbgstat claims policy, verifySupportAttributes claims policy]

-- `cs` is looked up before the flag is read.
def verifyMonitoring (claims : PyValue) (policy : ItaPolicy) : Except PyException Bool := do
  let cs ← claims.getPath (.dict []) ["submods", "confidential_space"]
  if policy.allowMemoryMonitoring.truthy then return true
  else
    let memory ← cs.getPath .none ["monitoring_enabled", "memory"]
    return !memory.isTrue

def meetsMinimum (python : Python) (minimum : Int) (version : PyValue) : Bool :=
  match python.intOfText (python.str version) with
  | .ok parsed => decide (minimum ≤ parsed)
  | .error _ => false

def swversionEntries : PyValue → List PyValue
  | .list entries => entries
  | single => [single]

def verifySwversion (python : Python) (claims : PyValue) (policy : ItaPolicy) :
    Except PyException Bool := do
  let swversion ← claims.getPath (.list []) ["swversion"]
  if policy.minCsVersion ≠ 0 then
    return (swversionEntries swversion).any (meetsMinimum python policy.minCsVersion)
  else return true

def verifyPlatformIdentity (python : Python) (claims : PyValue) (policy : ItaPolicy) :
    Except PyException Bool :=
  inTurn [expectText claims ["swname"] expectedSwname,
    expectText claims ["tdx", "cvm_compliance_status"] expectedCvmCompliance,
    verifyMonitoring claims policy, verifySwversion python claims policy]

def base64Alphabet : List Char :=
  "ABCDEFGHIJKLMNOPQRSTUVWXYZabcdefghijklmnopqrstuvwxyz0123456789+/".toList

-- Three bytes to four letters, the last group filled up with `=`.
def b64encode : Bytes → List Char
  | [] => []
  | [a] => [a.toNat / 4, a.toNat % 4 * 16].map letter ++ ['=', '=']
  | [a, b] =>
    [a.toNat / 4, a.toNat % 4 * 16 + b.toNat / 16, b.toNat % 16 * 4].map letter ++ ['=']
  | a :: b :: c :: rest =>
    [a.toNat / 4, a.toNat % 4 * 16 + b.toNat / 16, b.toNat % 16 * 4 + c.toNat / 64,
      c.toNat % 64].map letter ++ b64encode rest
where
  letter (sextet : Nat) : Char := base64Alphabet.getD sextet '='

def urlsafeB64encode (data : Bytes) : List Char :=
  (b64encode data).map fun char => if char = '+' then '-' else if char = '/' then '_' else char

def base64urlEncodeNopad (data : Bytes) : PyStr :=
  py (String.ofList ((urlsafeB64encode data).rdropWhile fun char => char = '='))

example : base64urlEncodeNopad [0xfb, 0xff] = py "-_8" := by decide

structure Cryptography where
  extractPubkeyFromCert : Bytes → Except PyException Bytes
  sha256 : Bytes → Bytes
  digestSize : ∀ data, (sha256 data).length = 32

def computePubkeyHashB64url (crypto : Cryptography) (certPem : Bytes) :
    Except PyException PyStr := do
  let spkiDer ← crypto.extractPubkeyFromCert certPem
  return base64urlEncodeNopad (crypto.sha256 spkiDer)

-- A list stands for its first element.
def nonceValue : PyValue → PyValue
  | .list (first :: _) => first
  | .list [] => .str []
  | single => single

def verifyKeyBinding (crypto : Cryptography) (claims : PyValue) (certPem : Bytes) :
    Except PyException Bool := do
  let eatNonce ← claims.getPath (.str []) ["eat_nonce"]
  if eatNonce.truthy = false then return false
  else
    let expectedNonce ← computePubkeyHashB64url crypto certPem
    return (nonceValue eatNonce).eq (.str expectedNonce)

def verifyImageDigest (claims : PyValue) (policy : ItaPolicy) : Except PyException Bool := do
  let actualDigest ← claims.getPath (.str []) ["submods", "container", "image_digest"]
  if actualDigest.truthy = false then return false
  else actualDigest.inSet policy.expectedImageDigests

def verifyProjectId (claims : PyValue) (policy : ItaPolicy) : Except PyException Bool :=
  if policy.expectedProjectId.truthy then do
    let pid ← claims.getPath (.str []) ["submods", "gce", "project_id"]
    return pid.eq policy.expectedProjectId
  else .ok true

def verifyServiceAccount (claims : PyValue) (policy : ItaPolicy) : Except PyException Bool :=
  if policy.expectedServiceAccount.truthy then do
    let accounts ← claims.getPath (.list []) ["google_service_accounts"]
    accounts.containsValue policy.expectedServiceAccount
  else .ok true

def verifyContainerIdentity (claims : PyValue) (policy : ItaPolicy) : Except PyException Bool :=
  inTurn [verifyImageDigest claims policy, verifyProjectId claims policy,
    verifyServiceAccount claims policy]

/-- PyJWT, and what get_jwks returns at first and after a forced refresh. -/
structure PyJwt (Key : Type) where
  getJwks : Bool → Except PyException PyValue
  -- PyJWKSet.from_dict: every key with its key_id.
  signingKeys : PyValue → Except PyException (List (PyValue × Key))
  getUnverifiedHeader : PyStr → Except PyException (List (PyStr × PyValue))
  -- The signature, the times with a leeway, the audience; the claims are an object.
  decode : PyStr → Key → Int → Except PyException (List (PyStr × PyValue))

variable {Key : Type}

def matchingKey (kid : PyValue) (keys : List (PyValue × Key)) : Option Key :=
  (keys.find? fun entry => entry.1.eq kid).map Prod.snd

def refreshedKey (jwt : PyJwt Key) (kid : PyValue) : Except PyException (Option Key) := do
  let keys ← jwt.signingKeys (← jwt.getJwks true)
  return matchingKey kid keys

-- Step 1; nothing when the token names no key or a key nobody has.
def decodeToken (jwt : PyJwt Key) (policy : ItaPolicy) (token : PyStr) :
    Except PyException (Option PyValue) := do
  let keys ← jwt.signingKeys (← jwt.getJwks false)
  let header ← jwt.getUnverifiedHeader token
  let kid := (PyValue.find (py "kid") header).getD .none
  if kid.truthy = false then return none
  else
    let found ← match matchingKey kid keys with
      | some key => .ok (some key)
      | none => refreshedKey jwt kid
    match found with
    | none => return none
    | some key =>
      let claims ← jwt.decode token key policy.clockSkewSeconds
      return some (.dict claims)

def verifyClaims (python : Python) (crypto : Cryptography) (policy : ItaPolicy) (claims : PyValue)
    (certPem : Bytes) : Except PyException Bool :=
  inTurn [verifyIssuer claims, verifyHwClaims claims policy,
    verifyPlatformIdentity python claims policy, verifyKeyBinding crypto claims certPem,
    verifyContainerIdentity claims policy]

-- Whatever step 1 raises is caught; what a check raises is not.
def itaVerifier (python : Python) (crypto : Cryptography) (jwt : PyJwt Key) (policy : ItaPolicy)
    (token : PyStr) (certPem : Bytes) : Except PyException Bool :=
  match decodeToken jwt policy token with
  | .error _ => .ok false
  | .ok none => .ok false
  | .ok (some claims) => verifyClaims python crypto policy claims certPem

end Ita

end Ztab
