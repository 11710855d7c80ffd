import Ztab.Agent.ItaVerifier
import Ztab.Agent.PythonJson
import Ztab.Shared.Base64
import Ztab.Tee.TlsCredentials

set_option autoImplicit false

/-!
# Base64Url on both sides

`Base64UrlEncode` of the server and `_base64url_encode_nopad` of the client write the same letters,
and `_base64url_decode` reads them back. Both strip the padding, if there is any, and the decoder
computes it again from the length.
-/

namespace Ztab

namespace Binascii

/-- The loop of a2b_base64: the place in the group of four, the bits left over from it, the padding
in a row, and the octets so far. -/
structure Quad where
  quadPos : Nat := 0
  leftchar : Nat := 0
  pads : Nat := 0
  binData : Bytes := []
  deriving DecidableEq, Repr

def tableA2bBase64 (char : UInt8) : Option Nat :=
  Ita.base64Alphabet.idxOf? (Char.ofNat char.toNat)

def Quad.take (quad : Quad) (value : Nat) : Quad :=
  match quad.quadPos with
  | 0 => ⟨1, value, 0, quad.binData⟩
  | 1 => ⟨2, value % 16, 0, quad.binData ++ [UInt8.ofNat (quad.leftchar * 4 + value / 16)]⟩
  | 2 => ⟨3, value % 4, 0, quad.binData ++ [UInt8.ofNat (quad.leftchar * 16 + value / 4)]⟩
  | _ => ⟨0, 0, 0, quad.binData ++ [UInt8.ofNat (quad.leftchar * 64 + value)]⟩

def Quad.finish (quad : Quad) : Except PyException Bytes :=
  if quad.quadPos = 0 then .ok quad.binData
  else if quad.quadPos = 1 then
    .error (.valueError (py ("Invalid base64-encoded string: number of data characters (" ++
      toString (quad.binData.length / 3 * 4 + 1) ++ ") cannot be 1 more than a multiple of 4")))
  else .error (.valueError (py "Incorrect padding"))

-- Padding that completes a group ends the text, and other padding and foreign characters are skipped.
def Quad.run (quad : Quad) : Bytes → Except PyException Bytes
  | [] => quad.finish
  | char :: rest =>
    if char = 0x3D then
      if 2 ≤ quad.quadPos then
        if 4 ≤ quad.quadPos + (quad.pads + 1) then .ok quad.binData
        else Quad.run { quad with pads := quad.pads + 1 } rest
      else quad.run rest
    else
      match tableA2bBase64 char with
      | none => quad.run rest
      | some value => (quad.take value).run rest

def a2bBase64 (ascii : Bytes) : Except PyException Bytes := Quad.run {} ascii

end Binascii

namespace Ita

def encodeAscii (s : PyStr) : Except PyException Bytes :=
  if s.all (·.val < 128) then .ok (s.map fun point => UInt8.ofNat point.val)
  else .error (.valueError (py "string argument should contain only ASCII characters"))

-- `-` and `_` stand for `+` and `/`.
def urlsafeDecodeTranslation (char : UInt8) : UInt8 :=
  if char = 0x2D then 0x2B else if char = 0x5F then 0x2F else char

def urlsafeB64decode (s : PyStr) : Except PyException Bytes := do
  let ascii ← encodeAscii s
  Binascii.a2bBase64 (ascii.map urlsafeDecodeTranslation)

def base64urlDecode (s : PyStr) : Except PyException Bytes :=
  urlsafeB64decode (s ++ List.replicate ((4 - s.length % 4) % 4) (PyJson.code 0x3D))

example : base64urlDecode (py "SGVsbG8") = .ok (utf8 "Hello") := by decide

-- A sextet as the client writes it, and as its decoder looks it up after the translation.
def urlsafeLetter (sextet : Nat) : Char :=
  let char := b64encode.letter sextet
  if char = '+' then '-' else if char = '/' then '_' else char

def urlsafePoint (sextet : Nat) : CodePoint := PyJson.code (urlsafeLetter sextet).toNat

def plainLetter (sextet : Nat) : UInt8 :=
  urlsafeDecodeTranslation (UInt8.ofNat (urlsafePoint sextet).val)

def UrlSafe (point : Nat) : Prop :=
  ('A'.toNat ≤ point ∧ point ≤ 'Z'.toNat) ∨ ('a'.toNat ≤ point ∧ point ≤ 'z'.toNat) ∨
    ('0'.toNat ≤ point ∧ point ≤ '9'.toNat) ∨ point = '-'.toNat ∨ point = '_'.toNat

instance (point : Nat) : Decidable (UrlSafe point) := inferInstanceAs (Decidable (_ ∨ _))

section Letters

variable {sextet : Nat}

theorem letters_same (small : sextet < 64) :
    (webSafeBase64Escape.letter sextet).toNat = (urlsafePoint sextet).val := by
  revert sextet
  decide +kernel

theorem urlsafePoint_safe (small : sextet < 64) : UrlSafe (urlsafePoint sextet).val := by
  revert sextet
  decide +kernel

theorem tableA2bBase64_plainLetter (small : sextet < 64) :
    Binascii.tableA2bBase64 (plainLetter sextet) = some sextet := by
  revert sextet
  decide +kernel

theorem webSafeLetter_ne_pad (small : sextet < 64) : webSafeBase64Escape.letter sextet ≠ 61 := by
  intro pad
  have safe := urlsafePoint_safe small
  rw [← letters_same small, pad] at safe
  revert safe
  decide

theorem urlsafeLetter_ne_pad (small : sextet < 64) : urlsafeLetter sextet ≠ '=' := by
  intro pad
  have safe := urlsafePoint_safe small
  rw [urlsafePoint, pad] at safe
  revert safe
  decide

theorem plainLetter_ne_pad (small : sextet < 64) : plainLetter sextet ≠ 0x3D := by
  intro pad
  have value := tableA2bBase64_plainLetter small
  have missing : Binascii.tableA2bBase64 0x3D = none := by decide +kernel
  rw [pad, missing] at value
  cases value

end Letters

-- The loop of Base64UrlEncode, with any escape function in the library's place.
def base64UrlEncodeWith (escape : Bytes → Bytes) (input : Bytes) : Bytes :=
  (escape input).rdropWhile fun byte => byte = 61

def WebSafe (escape : Bytes → Bytes) : Prop :=
  ∀ data, ∃ count, (count = 0 ∨ count = Base64.pads data.length) ∧
    escape data = (Base64.sextets data).map webSafeBase64Escape.letter ++ List.replicate count 61

theorem webSafe_webSafeBase64Escape : WebSafe webSafeBase64Escape := by
  intro data
  refine ⟨0, .inl rfl, ?_⟩
  rw [List.replicate_zero, List.append_nil]
  induction data using Base64.groups with
  | empty | one | two => rfl
  | group a b c rest ih =>
    rw [webSafeBase64Escape, ih, Base64.sextets, List.map_append]

theorem base64UrlEncodeWith_eq {escape : Bytes → Bytes} (webSafe : WebSafe escape) (data : Bytes) :
    base64UrlEncodeWith escape data = (Base64.sextets data).map webSafeBase64Escape.letter := by
  obtain ⟨count, -, escaped⟩ := webSafe data
  rw [base64UrlEncodeWith, escaped]
  exact Base64.rdropWhile_pads (fun _ => webSafeLetter_ne_pad) data count

theorem base64UrlEncode_eq (data : Bytes) :
    base64UrlEncode data = (Base64.sextets data).map webSafeBase64Escape.letter :=
  base64UrlEncodeWith_eq webSafe_webSafeBase64Escape data

theorem urlsafeB64encode_eq (data : Bytes) :
    urlsafeB64encode data =
      (Base64.sextets data).map urlsafeLetter ++ List.replicate (Base64.pads data.length) '=' := by
  unfold urlsafeB64encode
  induction data using Base64.groups with
  | empty | one | two => rfl
  | group a b c rest ih =>
    rw [b64encode, List.map_append, ih, Base64.pads_cons, Base64.sextets, List.map_append,
      List.append_assoc]
    rfl

theorem base64urlEncodeNopad_eq (data : Bytes) :
    base64urlEncodeNopad data = (Base64.sextets data).map urlsafePoint := by
  rw [base64urlEncodeNopad, urlsafeB64encode_eq, py, String.toList_ofList,
    Base64.rdropWhile_pads (fun _ => urlsafeLetter_ne_pad), List.map_map]
  rfl

theorem run_letter (quad : Binascii.Quad) {sextet : Nat} (small : sextet < 64) (rest : Bytes) :
    quad.run (plainLetter sextet :: rest) = (quad.take sextet).run rest := by
  simp [Binascii.Quad.run, plainLetter_ne_pad small, tableA2bBase64_plainLetter small]

-- An octet is complete with the second, the third and the fourth letter of a group; `high` are the
-- bits of the next one that came along.
theorem run_second (a : UInt8) {high : Nat} (small : high < 16) (binData rest : Bytes) :
    Binascii.Quad.run { binData } (plainLetter (a.toNat / 4) ::
      plainLetter (a.toNat % 4 * 16 + high) :: rest) =
        Binascii.Quad.run ⟨2, high, 0, binData ++ [a]⟩ rest := by
  have bound := a.toNat_lt
  have octet : a.toNat / 4 * 4 + (a.toNat % 4 * 16 + high) / 16 = a.toNat := by omega
  have left : (a.toNat % 4 * 16 + high) % 16 = high := by omega
  rw [run_letter _ (by omega), run_letter _ (by omega)]
  simp only [Binascii.Quad.take, octet, left, UInt8.ofNat_toNat]

theorem run_third (b : UInt8) {high : Nat} (small : high < 4) (binData rest : Bytes) :
    Binascii.Quad.run ⟨2, b.toNat / 16, 0, binData⟩ (plainLetter (b.toNat % 16 * 4 + high) :: rest) =
      Binascii.Quad.run ⟨3, high, 0, binData ++ [b]⟩ rest := by
  have bound := b.toNat_lt
  have octet : b.toNat / 16 * 16 + (b.toNat % 16 * 4 + high) / 4 = b.toNat := by omega
  have left : (b.toNat % 16 * 4 + high) % 4 = high := by omega
  rw [run_letter _ (by omega)]
  simp only [Binascii.Quad.take, octet, left, UInt8.ofNat_toNat]

theorem run_fourth (c : UInt8) (binData rest : Bytes) :
    Binascii.Quad.run ⟨3, c.toNat / 64, 0, binData⟩ (plainLetter (c.toNat % 64) :: rest) =
      Binascii.Quad.run { binData := binData ++ [c] } rest := by
  have octet : c.toNat / 64 * 64 + c.toNat % 64 = c.toNat := by omega
  rw [run_letter _ (by omega)]
  simp only [Binascii.Quad.take, octet, UInt8.ofNat_toNat]

theorem run_encoded (data binData : Bytes) :
    Binascii.Quad.run { binData } ((Base64.sextets data).map plainLetter ++
      List.replicate (Base64.pads data.length) 0x3D) = .ok (binData ++ data) := by
  induction data using Base64.groups generalizing binData with
  | empty => simp [Base64.sextets, Base64.pads, Binascii.Quad.run, Binascii.Quad.finish]
  | one a => exact run_second a (by decide : 0 < 16) binData _
  | two a b =>
    have bound := b.toNat_lt
    have third := run_third b (by decide : 0 < 4) (binData ++ [a]) [0x3D]
    refine (run_second a (by omega) binData _).trans (third.trans ?_)
    simp [Binascii.Quad.run]
  | group a b c rest ih =>
    have second := b.toNat_lt
    have third := c.toNat_lt
    simp only [Base64.sextets, List.map_cons, List.cons_append, List.nil_append, Base64.pads_cons]
    rw [run_second a (by omega), run_third b (by omega), run_fourth, ih]
    simp

theorem UrlSafe.ascii {point : Nat} (safe : UrlSafe point) : point < 128 := by
  have letters : 'Z'.toNat < 128 ∧ 'z'.toNat < 128 ∧ '9'.toNat < 128 ∧ '-'.toNat < 128 ∧
      '_'.toNat < 128 := by decide
  unfold UrlSafe at safe
  omega

theorem urlsafePoints_safe (data : Bytes) :
    ∀ point ∈ (Base64.sextets data).map urlsafePoint, UrlSafe point.val := by
  intro point listed
  obtain ⟨sextet, held, rfl⟩ := List.mem_map.mp listed
  exact urlsafePoint_safe (Base64.sextets_lt data sextet held)

theorem urlsafeB64decode_padded (data : Bytes) :
    urlsafeB64decode ((Base64.sextets data).map urlsafePoint ++
      List.replicate (Base64.pads data.length) (PyJson.code 0x3D)) = .ok data := by
  have ascii : ∀ point ∈ (Base64.sextets data).map urlsafePoint ++
      List.replicate (Base64.pads data.length) (PyJson.code 0x3D), point.val < 128 := by
    intro point listed
    obtain letter | pad := List.mem_append.mp listed
    · exact (urlsafePoints_safe data point letter).ascii
    · rw [List.eq_of_mem_replicate pad]
      decide
  simp only [urlsafeB64decode, encodeAscii, List.all_eq_true, decide_eq_true_eq]
  rw [if_pos ascii]
  simp only [bind, Except.bind, List.map_append, List.map_map, List.map_replicate]
  exact run_encoded data []

theorem base64urlDecode_encoded (data : Bytes) :
    base64urlDecode (base64urlEncodeNopad data) = .ok data := by
  rw [base64urlDecode, base64urlEncodeNopad_eq, List.length_map, Base64.pads_eq]
  exact urlsafeB64decode_padded data

theorem base64urlEncodeNopad_nonempty {data : Bytes} (nonempty : data ≠ []) :
    base64urlEncodeNopad data ≠ [] := by
  intro empty
  have decoded := base64urlDecode_encoded data
  rw [empty] at decoded
  exact nonempty (Except.ok.inj decoded).symm

/-- The two encoders write one text, which is url-safe, belongs to these data only, and is read back;
and the server's text does not depend on whether its library pads. -/
structure EncodersAgree (data : Bytes) : Prop where
  same : (base64UrlEncode data).map UInt8.toNat = (base64urlEncodeNopad data).map Fin.val
  unpadded : ∀ escape, WebSafe escape → base64UrlEncodeWith escape data = base64UrlEncode data
  serverSafe : ∀ byte ∈ base64UrlEncode data, UrlSafe byte.toNat
  clientSafe : ∀ point ∈ base64urlEncodeNopad data, UrlSafe point.val
  serverDistinct : ∀ other, base64UrlEncode other = base64UrlEncode data → other = data
  clientDistinct : ∀ other, base64urlEncodeNopad other = base64urlEncodeNopad data → other = data
  decoded : base64urlDecode (base64urlEncodeNopad data) = .ok data

theorem encoders_same (data : Bytes) :
    (base64UrlEncode data).map UInt8.toNat = (base64urlEncodeNopad data).map Fin.val := by
  rw [base64UrlEncode_eq, base64urlEncodeNopad_eq, List.map_map, List.map_map]
  apply List.map_congr_left
  intro sextet listed
  exact letters_same (Base64.sextets_lt data sextet listed)

theorem base64urlEncodeNopad_safe (data : Bytes) :
    ∀ point ∈ base64urlEncodeNopad data, UrlSafe point.val := by
  rw [base64urlEncodeNopad_eq]
  exact urlsafePoints_safe data

theorem base64UrlEncode_safe (data : Bytes) : ∀ byte ∈ base64UrlEncode data, UrlSafe byte.toNat := by
  intro byte listed
  have value : byte.toNat ∈ (base64urlEncodeNopad data).map Fin.val :=
    encoders_same data ▸ List.mem_map_of_mem listed
  obtain ⟨point, held, same⟩ := List.mem_map.mp value
  rw [← same]
  exact base64urlEncodeNopad_safe data point held

theorem base64urlEncodeNopad_injective : Function.Injective base64urlEncodeNopad := by
  intro data other same
  have decoded := base64urlDecode_encoded data
  rw [same, base64urlDecode_encoded other] at decoded
  exact (Except.ok.inj decoded).symm

theorem base64UrlEncode_injective : Function.Injective base64UrlEncode := by
  intro data other same
  apply base64urlEncodeNopad_injective
  apply List.map_injective_iff.mpr (fun _ _ => Fin.ext)
  rw [← encoders_same, ← encoders_same, same]

theorem encodersAgree (data : Bytes) : EncodersAgree data where
  same := encoders_same data
  unpadded escape webSafe := by rw [base64UrlEncodeWith_eq webSafe, base64UrlEncode_eq]
  serverSafe := base64UrlEncode_safe data
  clientSafe := base64urlEncodeNopad_safe data
  serverDistinct _ same := base64UrlEncode_injective same
  clientDistinct _ same := base64urlEncodeNopad_injective same
  decoded := base64urlDecode_encoded data

end Ita

end Ztab
