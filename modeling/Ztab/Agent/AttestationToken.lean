import Mathlib.Data.Nat.Digits.Lemmas
import Ztab.Agent.PythonJson
import Ztab.Tee.TlsCredentials

set_option autoImplicit false

/-!
# The token in the certificate

The server wraps the token into an OCTET STRING and the client takes the header off by hand. The
two agree on every length that has a DER form.
-/

namespace Ztab

namespace Der

-- Big-endian, without leading zeros.
def lengthOctets (length : Nat) : Bytes := (Nat.digits 256 length).reverse.map UInt8.ofNat

-- The short form below 128; the long form starts with the number of octets.
def definiteLength (length : Nat) : Bytes :=
  if length < 128 then [UInt8.ofNat length]
  else UInt8.ofNat (128 + (lengthOctets length).length) :: lengthOctets length

def octetString (content : Bytes) : Bytes := 0x04 :: (definiteLength content.length ++ content)

-- The first octet of a long form is never 255, so a length has at most 126 octets.
def kLengthLimit : Nat := 256 ^ 126

theorem length_lengthOctets_le {length : Nat} (sized : length < kLengthLimit) :
    (lengthOctets length).length ≤ 126 := by
  rw [lengthOctets, List.length_map, List.length_reverse]
  exact (Nat.digits_length_le_iff (by decide) length).mpr sized

end Der

namespace Utf8

/-- A sequence that has begun: the octets it still needs, its bits so far, and the bounds of the next
octet. -/
structure Pending where
  needed : Nat
  bits : Nat
  lower : Nat := 0x80
  upper : Nat := 0xBF
  deriving DecidableEq

def replacement : CodePoint := PyJson.code 0xFFFD

-- What one octet outside a sequence gives, and the sequence it begins.
def begin (octet : Nat) : PyStr × Option Pending :=
  if octet < 0x80 then ([PyJson.code octet], none)
  else if 0xC2 ≤ octet ∧ octet ≤ 0xDF then ([], some { needed := 1, bits := octet - 0xC0 })
  else if octet = 0xE0 then ([], some { needed := 2, bits := 0, lower := 0xA0 })
  else if octet = 0xED then ([], some { needed := 2, bits := 0xD, upper := 0x9F })
  else if 0xE1 ≤ octet ∧ octet ≤ 0xEF then ([], some { needed := 2, bits := octet - 0xE0 })
  else if octet = 0xF0 then ([], some { needed := 3, bits := 0, lower := 0x90 })
  else if octet = 0xF4 then ([], some { needed := 3, bits := 4, upper := 0x8F })
  else if 0xF1 ≤ octet ∧ octet ≤ 0xF3 then ([], some { needed := 3, bits := octet - 0xF0 })
  else ([replacement], none)

-- A sequence that breaks off is replaced as far as it went; the octet that broke it is looked at again.
def decodeFrom : Option Pending → Bytes → PyStr
  | none, [] => []
  | some _, [] => [replacement]
  | none, octet :: rest =>
    let (points, pending) := begin octet.toNat
    points ++ decodeFrom pending rest
  | some pending, octet :: rest =>
    if pending.lower ≤ octet.toNat ∧ octet.toNat ≤ pending.upper then
      let bits := pending.bits * 64 + (octet.toNat - 0x80)
      if pending.needed = 1 then PyJson.code bits :: decodeFrom none rest
      else decodeFrom (some { needed := pending.needed - 1, bits }) rest
    else
      let (points, pending) := begin octet.toNat
      replacement :: (points ++ decodeFrom pending rest)

-- `octets.decode("utf-8", errors="replace")`
def decode (octets : Bytes) : PyStr := decodeFrom none octets

example : decode [0x61, 0xE2, 0x82, 0x41, 0xC0, 0xF0, 0x9F] = [0x61, 0xFFFD, 0x41, 0xFFFD, 0xFFFD] := by
  decide

theorem begin_two {bits : Nat} (low : 2 ≤ bits) (high : bits < 32) :
    begin (bits + 0xC0) = ([], some { needed := 1, bits }) := by
  revert bits
  decide

theorem begin_three {bits : Nat} (high : bits < 16) :
    begin (bits + 0xE0) =
      ([], some ⟨2, bits, if bits = 0 then 0xA0 else 0x80, if bits = 0xD then 0x9F else 0xBF⟩) := by
  revert bits
  decide

theorem begin_four {bits : Nat} (high : bits < 5) :
    begin (bits + 0xF0) =
      ([], some ⟨3, bits, if bits = 0 then 0x90 else 0x80, if bits = 4 then 0x8F else 0xBF⟩) := by
  revert bits
  decide

theorem decodeFrom_begin {octet : Nat} {pending : Option Pending} (small : octet < 256)
    (begins : begin octet = ([], pending)) (rest : Bytes) :
    decodeFrom none (UInt8.ofNat octet :: rest) = decodeFrom pending rest := by
  simp only [decodeFrom, UInt8.toNat_ofNat_of_lt' small, begins, List.nil_append]

theorem decodeFrom_last {octet bits lower upper : Nat} (small : octet < 64)
    (fits : lower ≤ octet + 0x80 ∧ octet + 0x80 ≤ upper) (rest : Bytes) :
    decodeFrom (some ⟨1, bits, lower, upper⟩) (UInt8.ofNat (octet + 0x80) :: rest) =
      PyJson.code (bits * 64 + octet) :: decodeFrom none rest := by
  simp only [decodeFrom, UInt8.toNat_ofNat_of_lt' (by omega : octet + 0x80 < 256), fits, and_self,
    if_true, Nat.add_sub_cancel]

theorem decodeFrom_more {octet needed bits lower upper : Nat} (small : octet < 64)
    (fits : lower ≤ octet + 0x80 ∧ octet + 0x80 ≤ upper) (rest : Bytes) :
    decodeFrom (some ⟨needed + 2, bits, lower, upper⟩) (UInt8.ofNat (octet + 0x80) :: rest) =
      decodeFrom (some ⟨needed + 1, bits * 64 + octet, 0x80, 0xBF⟩) rest := by
  simp only [decodeFrom, UInt8.toNat_ofNat_of_lt' (by omega : octet + 0x80 < 256), fits, and_self,
    if_true, Nat.add_sub_cancel]
  rfl

theorem decodeFrom_char (char : Char) (rest : Bytes) :
    decodeFrom none (String.utf8EncodeChar char ++ rest) =
      PyJson.code char.toNat :: decodeFrom none rest := by
  have valid : char.val.toNat < 0xD800 ∨ 0xDFFF < char.val.toNat ∧ char.val.toNat < 0x110000 :=
    char.valid
  have value : char.toNat = char.val.toNat := rfl
  rw [value]
  simp only [String.utf8EncodeChar]
  generalize char.val.toNat = point at valid
  split_ifs with one two three
  · simp [decodeFrom, begin, UInt8.toNat_ofNat_of_lt' (by omega : point < 256), Nat.lt_succ_of_le one]
  · have bits : point = point / 64 % 32 * 64 + point % 64 := by omega
    simp only [List.cons_append, List.nil_append]
    rw [decodeFrom_begin (by omega) (begin_two (by omega) (by omega)),
      decodeFrom_last (by omega) (by omega), ← bits]
  · have bits : point = (point / 4096 % 16 * 64 + point / 64 % 64) * 64 + point % 64 := by omega
    simp only [List.cons_append, List.nil_append]
    rw [decodeFrom_begin (by omega) (begin_three (by omega)),
      decodeFrom_more (by omega) (by split_ifs <;> omega), decodeFrom_last (by omega) (by omega),
      ← bits]
  · have bits : point = ((point / 262144 % 8 * 64 + point / 4096 % 64) * 64 + point / 64 % 64) * 64 +
        point % 64 := by omega
    simp only [List.cons_append, List.nil_append]
    rw [decodeFrom_begin (by omega) (begin_four (by omega)),
      decodeFrom_more (by omega) (by split_ifs <;> omega), decodeFrom_more (by omega) (by omega),
      decodeFrom_last (by omega) (by omega), ← bits]

theorem decode_utf8 (text : String) : decode (utf8 text) = py text := by
  rw [utf8_eq_flatMap, py, decode]
  induction text.toList with
  | nil => rfl
  | cons char rest ih =>
    rw [List.flatMap_cons, decodeFrom_char, ih]
    rfl

theorem decode_ascii {octets : Bytes} (ascii : ∀ octet ∈ octets, octet.toNat < 128) :
    decode octets = octets.map fun octet => PyJson.code octet.toNat := by
  rw [decode]
  induction octets with
  | nil => rfl
  | cons octet rest ih =>
    obtain ⟨small, later⟩ := List.forall_mem_cons.mp ascii
    simp only [decodeFrom, begin, if_pos small, List.cons_append, List.nil_append, List.map_cons,
      ih later]

end Utf8

def attestationOid : String := "1.3.6.1.4.1.99999.1"

structure X509Library where
  extensionValue : Bytes → String → Except PyException (Option Bytes)

-- The header of an OCTET STRING is taken off.
def unwrapToken (raw : Bytes) : Option PyStr :=
  match raw with
  | tag :: length :: rest =>
    if tag ≠ 0x04 then some (Utf8.decode raw)
    else if length < 0x80 then some (Utf8.decode rest)
    else some (Utf8.decode (raw.drop (2 + (length &&& 0x7F).toNat)))
  | _ => none

def extractAttestationToken (x509 : X509Library) (certPem : Bytes) :
    Except PyException (Option PyStr) := do
  match ← x509.extensionValue certPem attestationOid with
  | none => return none
  | some raw => return unwrapToken raw

theorem long_form_octet {count : Nat} (few : count ≤ 126) :
    ¬ UInt8.ofNat (128 + count) < 0x80 ∧ (UInt8.ofNat (128 + count) &&& 0x7F).toNat = count := by
  have small : count < 127 := Nat.lt_succ_of_le few
  revert count
  decide

theorem unwrapToken_octetString {content : Bytes} (sized : content.length < Der.kLengthLimit) :
    unwrapToken (Der.octetString content) = some (Utf8.decode content) := by
  rw [Der.octetString, Der.definiteLength]
  split
  next short =>
    have small : UInt8.ofNat content.length < 0x80 := by
      rw [UInt8.lt_iff_toNat_lt, UInt8.toNat_ofNat_of_lt' (Nat.lt_trans short (by decide))]
      exact short
    simp [unwrapToken, small]
  next long =>
    obtain ⟨notShort, count⟩ := long_form_octet (Der.length_lengthOctets_le sized)
    simp only [List.cons_append, unwrapToken, notShort, count, if_false]
    rw [if_neg (by decide), Nat.add_comm, List.drop_succ_cons, List.drop_succ_cons, List.drop_left]

/-- What is known of the two libraries: i2d writes DER, and the extension of a certificate is read as
it was set. -/
structure X509Library.Reads {Key : Type} (x509 : X509Library) (ssl : BoringSsl Key) : Prop where
  der : ∀ content, content.length < Der.kLengthLimit →
    ssl.octetStringDer content = Der.octetString content
  unchanged : ∀ certificate : Certificate Key,
    x509.extensionValue (ssl.certificatePem certificate) certificate.extensionOid =
      .ok (some certificate.extensionValue)

/-- The client reads out of a certificate exactly the token that was put into it, whatever its
length. -/
theorem attestation_extension_round_trips {Key : Type} {ssl : BoringSsl Key} {x509 : X509Library}
    (reads : x509.Reads ssl) (fails : CertificateStep → Bool) (pkey : Option Key) (token : String)
    (sized : (utf8 token).length < Der.kLengthLimit) {certPem keyPem : Bytes}
    (made : generateCertificate ssl fails pkey (utf8 token) = .ok (certPem, keyPem)) :
    extractAttestationToken x509 certPem = .ok (some (py token)) := by
  cases pkey with
  | none => cases made
  | some key =>
    simp only [generateCertificate] at made
    split at made
    · cases made
    · cases made
      have read := reads.unchanged (selfSigned ssl key (utf8 token))
      have wrapped : (selfSigned ssl key (utf8 token)).extensionValue = Der.octetString (utf8 token) :=
        reads.der _ sized
      rw [wrapped] at read
      have found : x509.extensionValue (ssl.certificatePem (selfSigned ssl key (utf8 token)))
          attestationOid = .ok (some (Der.octetString (utf8 token))) := read
      simp only [extractAttestationToken, found]
      rw [← Utf8.decode_utf8, ← unwrapToken_octetString sized]
      rfl

-- A certificate is stood for by its extension.
def derSsl : BoringSsl Bytes :=
  { smallSsl with
    octetStringDer := Der.octetString
    certificatePem := fun certificate => certificate.extensionValue }

def plainX509 : X509Library where
  extensionValue pem _ := .ok (some pem)

-- The length of this token takes three octets.
def longToken : String := String.ofList (List.replicate 70000 'é')

theorem longToken_extracted :
    ∃ certPem keyPem, generateCertificate derSsl (fun _ => false) (some [1]) (utf8 longToken) =
        .ok (certPem, keyPem) ∧
      extractAttestationToken plainX509 certPem = .ok (some (py longToken)) := by
  have reads : plainX509.Reads derSsl := ⟨fun _ _ => rfl, fun _ => rfl⟩
  have made : ∀ token, generateCertificate derSsl (fun _ => false) (some [1]) token =
      .ok (Der.octetString token, [1]) := fun _ => rfl
  have length : ∀ count, (utf8 (String.ofList (List.replicate count 'é'))).length = count * 2 := by
    intro count
    rw [utf8_eq_flatMap, String.toList_ofList, List.length_flatMap, List.map_replicate,
      List.sum_replicate]
    rfl
  have limit : 70000 * 2 < Der.kLengthLimit :=
    Nat.lt_of_lt_of_le (by decide : 70000 * 2 < 256 ^ 3) (Nat.pow_le_pow_right (by decide) (by decide))
  have sized : (utf8 longToken).length < Der.kLengthLimit := (length 70000).trans_lt limit
  exact ⟨_, _, made _, attestation_extension_round_trips reads _ _ longToken sized (made _)⟩

end Ztab
