import BlindNet.ActionPill
import BlindNet.Lib.StructPack

/-!
# The issuing client

`action_pill_tools.py`: builds the 480 bytes of an Action Pill with layouts and
hash inputs of its own. Nothing here is shared with the firmware's model except
bytes; the libraries the client calls are a parameter.
-/

namespace BlindNet

namespace PillTools

set_option autoImplicit false

open ByteLayout StructPack

/-- What a failing call raises. The text of a `struct.error` is not the
program's own. -/
inductive PyError where
  | valueError (message : String)
  | structError
  | assertionError (message : String)
  deriving DecidableEq, Repr

abbrev Raises (Value : Type) := Except PyError Value

/-- `hashlib`, `hmac`, `cryptography` and `str.upper`. -/
structure Client (PrivateKey : Type) where
  sha256 : Bytes → ByteArr 32
  hmacSha256 : (key message : Bytes) → ByteArr 32
  aesGcmEncrypt : (key nonce plaintext : Bytes) → Bytes
  publicPem : PrivateKey → Bytes
  sign : PrivateKey → (digest : ByteArr 32) → Bytes
  upper : String → String

/-- The answers of `os.urandom` within one call of the builder. -/
structure Urandom where
  activeNonce : ByteArr 12
  capsuleNonce : ByteArr 16

def capsulePillSignatureMaxLen : Nat := 96
def activeSubstanceVersion : Int := 2
def activeSubstanceCiphertextMaxLen : Nat := 256
def activeSubstanceTagLen : Nat := 16
def activeSubstanceCipherAes128Gcm : Int := 1
def activeSubstanceCipherAes256Gcm : Int := 2
def actionPillLen : Nat := 480

def hkdfSaltPrefix : Bytes := CString.utf8 "BlindNet active enzyme salt v1"
def hkdfInfoPrefix : Bytes := CString.utf8 "BlindNet active substance decrypt key v1"

def aminoValueNone : Int := 0
def aminoValueInt : Int := 2

def aminos : List (String × Int × Int) :=
  [("ON", 1, aminoValueNone), ("OFF", 2, aminoValueNone), ("OPEN", 3, aminoValueNone),
    ("CLOSE", 4, aminoValueNone), ("SET_SPEED", 5, aminoValueInt),
    ("SET_LEVEL", 6, aminoValueInt), ("READ_STATE", 7, aminoValueNone),
    ("TOGGLE", 8, aminoValueNone), ("LOCK", 9, aminoValueNone), ("UNLOCK", 10, aminoValueNone),
    ("SET_TEMPERATURE", 11, aminoValueInt), ("SET_MODE", 12, aminoValueInt)]

structure ActionPillBuild where
  actionPill : Bytes
  messageId : ByteArr 32
  issuerKeyId : Bytes
  networkId : Bytes
  activeHash : ByteArr 32
  signature : Bytes
  deriving DecidableEq

def structPack (format : List Item) (values : List Value) : Raises Bytes :=
  match pack format values with
  | none => .error .structError
  | some bytes => .ok bytes

def structPackU16Into (buffer : Bytes) (offset : Nat) (value : Int) : Raises Bytes :=
  match packInto [.u16] buffer offset [.int value] with
  | none => .error .structError
  | some bytes => .ok bytes

/-- `buffer[start:stop] = bytes` on a `bytearray`. -/
def setSlice (buffer : Bytes) (start stop : Nat) (bytes : Bytes) : Bytes :=
  buffer.take start ++ bytes ++ buffer.drop stop

def slice (bytes : Bytes) (start stop : Nat) : Bytes := (bytes.take stop).drop start

def cStringField (value : String) (size : Nat) (name : String) : Raises Bytes :=
  let raw := CString.utf8 value
  if raw = [] ∨ size ≤ raw.length then
    .error (.valueError
      (name ++ " deve ter entre 1 e " ++ toString (size - 1) ++ " bytes UTF-8"))
  else
    .ok (raw ++ List.replicate (size - raw.length) 0)

def replaceCrLf : Bytes → Bytes
  | [] => []
  | [byte] => [byte]
  | first :: second :: rest =>
      if first = 13 ∧ second = 10 then 10 :: replaceCrLf rest
      else first :: replaceCrLf (second :: rest)

section Builder

variable {PrivateKey : Type} (client : Client PrivateKey)

def issuerKeyIdFromPublicPem (publicPem : Bytes) : Bytes :=
  let normalized := (replaceCrLf publicPem).filter (· != 13)
  (client.sha256 normalized).toList.take 16

def commandFormat : List Item := [.raw 32, .raw 32, .i32, .u8, .raw 3, .i32]

/-- The value check within `make_command_plaintext`. -/
def payloadFor (aminoKey : String) (payloadType : Int) (value : Option Int) : Raises Int :=
  if payloadType = aminoValueNone then
    match value with
    | some _ => .error (.valueError (aminoKey ++ " nao aceita --value"))
    | none => .ok 0
  else
    match value with
    | none => .error (.valueError (aminoKey ++ " precisa de --value"))
    | some value => .ok value

def makeCommandPlaintext (deviceId topic aminoName : String) (value : Option Int) :
    Raises Bytes :=
  let aminoKey := client.upper aminoName
  match aminos.lookup aminoKey with
  | none => .error (.valueError ("amino desconhecido: " ++ aminoName))
  | some (aminoId, payloadType) => do
      let payloadI32 ← payloadFor aminoKey payloadType value
      let deviceField ← cStringField deviceId 32 "device-id"
      let topicField ← cStringField topic 32 "topic"
      structPack commandFormat
        [.raw deviceField, .raw topicField, .int aminoId, .int payloadType, .raw [0, 0, 0],
          .int payloadI32]

def hkdfSha256OneBlock (ikm salt info : Bytes) (outLen : Nat) : Bytes :=
  let prk := client.hmacSha256 salt ikm
  let t1 := client.hmacSha256 prk.toList (info ++ [1])
  t1.toList.take outLen

def activeFormat : List Item := [.u8, .u8, .u16, .raw 12, .raw 16, .raw 256]

/-- The cipher check within `encrypt_active_substance`. -/
def keyLenFor (cipher : Int) : Raises Nat :=
  if cipher = activeSubstanceCipherAes128Gcm then
    .ok 16
  else if cipher = activeSubstanceCipherAes256Gcm then
    .ok 32
  else
    .error (.valueError "cipher nao suportado")

def encryptActiveSubstance (nonce : ByteArr 12) (plaintext deviceSecret : Bytes)
    (epoch cipher : Int) : Raises Bytes :=
  if activeSubstanceCiphertextMaxLen < plaintext.length then
    .error (.valueError "plaintext maior que ACTIVE_SUBSTANCE_CIPHERTEXT_MAX_LEN")
  else do
    let keyLen ← keyLenFor cipher
    let epochBytes ← structPack [.u32] [.int epoch]
    let salt := hkdfSaltPrefix ++ epochBytes ++ nonce.toList
    let info := hkdfInfoPrefix ++ [UInt8.ofInt activeSubstanceVersion, UInt8.ofInt cipher]
    let key := hkdfSha256OneBlock client deviceSecret salt info keyLen
    let sealed := client.aesGcmEncrypt key nonce.toList plaintext
    let ciphertext := sealed.take (sealed.length - activeSubstanceTagLen)
    let tag := sealed.drop (sealed.length - activeSubstanceTagLen)
    let paddedCiphertext :=
      ciphertext ++ List.replicate (activeSubstanceCiphertextMaxLen - ciphertext.length) 0
    structPack activeFormat
      [.int activeSubstanceVersion, .int cipher, .int ciphertext.length, .raw nonce.toList,
        .raw tag, .raw paddedCiphertext]

def makeEmptyActiveSubstance (nonce : ByteArr 12) (cipher : Int) : Raises Bytes :=
  if cipher ≠ activeSubstanceCipherAes128Gcm ∧ cipher ≠ activeSubstanceCipherAes256Gcm then
    .error (.valueError "cipher nao suportado")
  else
    let dummyCiphertext : Bytes := [0]
    let paddedCiphertext := dummyCiphertext ++
      List.replicate (activeSubstanceCiphertextMaxLen - dummyCiphertext.length) 0
    structPack activeFormat
      [.int activeSubstanceVersion, .int cipher, .int dummyCiphertext.length, .raw nonce.toList,
        .raw (List.replicate activeSubstanceTagLen 0), .raw paddedCiphertext]

/-- The successive `update` calls are one concatenation. -/
def activeSubstanceHash (active : Bytes) : Raises (ByteArr 32) :=
  match unpack [.u8, .u8, .u16] (slice active 0 4) with
  | some [.int version, .int cipher, .int ciphertextLen] => do
      let nonce := slice active 4 16
      let tag := slice active 16 32
      let ciphertext := slice active 32 (32 + ciphertextLen.toNat)
      let header ← structPack [.u8, .u8, .u16] [.int version, .int cipher, .int ciphertextLen]
      .ok (client.sha256 (header ++ nonce ++ tag ++ ciphertext))
  | _ => .error .structError

def capsuleFormat : List Item :=
  [.u8, .u8, .u8, .u8, .u32, .u32, .raw 16, .raw 16, .raw 32, .raw 16, .u8, .u8, .raw 2, .raw 96]

def capsuleSigningDigest (capsuleWithoutSignature : Bytes) : Raises (ByteArr 32) :=
  match unpack capsuleFormat capsuleWithoutSignature with
  | some [.int version, .int flags, .int actionClass, .int reserved0, .int issuedMs,
      .int expiresMs, .raw networkId, .raw nonce, .raw activeHash, .raw issuerKeyId,
      .int signatureAlg, _, _, _] => do
      let scalars ← structPack [.u8, .u8, .u8, .u8, .u32, .u32]
        [.int version, .int flags, .int actionClass, .int reserved0, .int issuedMs,
          .int expiresMs]
      let alg ← structPack [.u8] [.int signatureAlg]
      .ok (client.sha256 (scalars ++ networkId ++ nonce ++ activeHash ++ issuerKeyId ++ alg))
  | _ => .error .structError

def capsuleSigningCanonical (capsule : Bytes) : Raises Bytes :=
  match unpack capsuleFormat capsule with
  | some [field0, field1, field2, field3, field4, field5, .raw field6, .raw field7, .raw field8,
      .raw field9, field10, _, _, _] => do
      let scalars ← structPack [.u8, .u8, .u8, .u8, .u32, .u32]
        [field0, field1, field2, field3, field4, field5]
      let alg ← structPack [.u8] [field10]
      .ok (scalars ++ field6 ++ field7 ++ field8 ++ field9 ++ alg)
  | _ => .error .structError

def capsuleDigest (capsule : Bytes) : Raises (ByteArr 32) := do
  let signatureLen := (capsule.getD 93 0).toNat
  let signature := slice capsule 96 (96 + signatureLen)
  let canonical ← capsuleSigningCanonical capsule
  let length ← structPack [.u8] [.int signatureLen]
  .ok (client.sha256 (canonical ++ length ++ signature))

def signDigestDer (privateKey : PrivateKey) (digest : ByteArr 32) : Raises Bytes :=
  let signature := client.sign privateKey digest
  if capsulePillSignatureMaxLen < signature.length then
    .error (.valueError "assinatura DER maior que o firmware aceita")
  else
    .ok signature

structure BuildArguments (PrivateKey : Type) where
  privateKey : PrivateKey
  deviceSecret : Option Bytes
  networkId : Bytes
  deviceId : Option String
  topic : Option String
  amino : String
  value : Option Int
  epoch : Int
  issuedMs : Int
  expiresMs : Int
  cipher : Int := activeSubstanceCipherAes256Gcm
  emptyActive : Bool := false

/-- `struct.pack` of a capsule; the builder calls it without and with the signature. -/
def packCapsule (arguments : BuildArguments PrivateKey) (nonce : ByteArr 16)
    (activeHash : ByteArr 32) (issuerKeyId signature : Bytes) : Raises Bytes :=
  structPack capsuleFormat
    [.int 3, .int 0, .int 1, .int 0, .int arguments.issuedMs, .int arguments.expiresMs,
      .raw arguments.networkId, .raw nonce.toList, .raw activeHash.toList, .raw issuerKeyId,
      .int 1, .int signature.length, .raw [0, 0],
      .raw (signature ++ List.replicate (capsulePillSignatureMaxLen - signature.length) 0)]

def makeActive (random : Urandom) (arguments : BuildArguments PrivateKey) : Raises Bytes :=
  if arguments.emptyActive then
    makeEmptyActiveSubstance random.activeNonce arguments.cipher
  else
    match arguments.deviceSecret, arguments.deviceId, arguments.topic with
    | none, _, _ => .error (.valueError "device_secret e obrigatorio sem empty_active")
    | some _, none, _ => .error (.valueError "device_id e obrigatorio sem empty_active")
    | some _, some _, none => .error (.valueError "topic e obrigatorio sem empty_active")
    | some deviceSecret, some deviceId, some topic => do
        let plaintext ←
          makeCommandPlaintext client deviceId topic arguments.amino arguments.value
        encryptActiveSubstance client random.activeNonce plaintext deviceSecret arguments.epoch
          arguments.cipher

def buildActionPill (random : Urandom) (arguments : BuildArguments PrivateKey) :
    Raises ActionPillBuild := do
  let issuerKeyId := issuerKeyIdFromPublicPem client (client.publicPem arguments.privateKey)
  let active ← makeActive client random arguments
  let activeHash ← activeSubstanceHash client active
  let unsignedCapsule ← packCapsule arguments random.capsuleNonce activeHash issuerKeyId []
  let digest ← capsuleSigningDigest client unsignedCapsule
  let signature ← signDigestDer client arguments.privateKey digest
  let capsule ← packCapsule arguments random.capsuleNonce activeHash issuerKeyId signature
  let actionPill := capsule ++ active
  if actionPill.length ≠ actionPillLen then
    .error (.assertionError ("ActionPill len inesperado: " ++ toString actionPill.length))
  else
    let messageId ← capsuleDigest client capsule
    .ok ⟨actionPill, messageId, issuerKeyId, arguments.networkId, activeHash, signature⟩

end Builder

/-! ## Fragments -/

def g2gBleFragmentMaxLen : Nat := 220
def g2gWireVersion : UInt8 := 1
def g2gWireTypeActionPill : UInt8 := 1
def g2gWireHeaderLen : Nat := 46
def g2gWirePayloadMax : Nat := g2gBleFragmentMaxLen - g2gWireHeaderLen

/-- The body of the loop in `build_g2g_fragments`. -/
def buildG2gFrame (actionPill messageId : Bytes) (fragCount fragIndex : Nat) : Raises Bytes := do
  let offset := fragIndex * g2gWirePayloadMax
  let payload := slice actionPill offset (offset + g2gWirePayloadMax)
  let frame := List.replicate (g2gWireHeaderLen + payload.length) 0
  let frame := frame.set 0 g2gWireVersion
  let frame := frame.set 1 g2gWireTypeActionPill
  let frame ← structPackU16Into frame 4 actionPill.length
  let frame ← structPackU16Into frame 6 offset
  let frame ← structPackU16Into frame 8 fragIndex
  let frame ← structPackU16Into frame 10 fragCount
  let frame ← structPackU16Into frame 12 payload.length
  let frame := setSlice frame 14 46 messageId
  .ok (setSlice frame g2gWireHeaderLen frame.length payload)

/-- `math.ceil` of the float quotient is the exact ceiling for lengths up to 768. -/
def buildG2gFragments (actionPill messageId : Bytes) : Raises (List Bytes) :=
  if 768 < actionPill.length then
    .error (.valueError "action_pill maior que G2G_ACTION_PILL_MAX_LEN")
  else if messageId.length ≠ 32 then
    .error (.valueError "message_id precisa ter 32 bytes")
  else
    let fragCount := (actionPill.length + g2gWirePayloadMax - 1) / g2gWirePayloadMax
    (List.range fragCount).mapM (buildG2gFrame actionPill messageId fragCount)

end PillTools

end BlindNet
