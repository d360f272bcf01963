import DbGateway.Aead
import DbGateway.Base64
import DbGateway.Json.Roundtrip

/-!
# DbGateway.Encryption.Envelope

`services/encryption.py`: data encrypted under a key of its own, which is
wrapped by a key-encryption key and stored with the data.

What is stored decrypts, for every key-encryption key that unwraps what it
wraps (`decrypt_stored`).
-/

namespace DbGateway.Encryption

open Json (PythonFloat)

abbrev Bytes := List UInt8

/-- `AESGCM(key).encrypt(nonce, data, associated_data)` and `decrypt`; `none` is
an exception. -/
abbrev AesGcm := Aead Bytes Bytes Bytes (Option Bytes) Bytes

/-- What each call of `os.urandom` returns, for every size. -/
structure Urandom where
  bytes : Nat → Nat → Bytes
  length_bytes : ∀ call size, (bytes call size).length = size

/-- Code that calls the outside, and can raise.  The calls are numbered. -/
abbrev Outside := StateT Nat Option

namespace Outside

/-- A call. -/
def call {α : Type} (reply : Nat → Option α) : Outside α :=
  fun n => (reply n).map fun a => (a, n + 1)

/-- `os.urandom(size)` -/
def urandom (random : Urandom) (size : Nat) : Outside Bytes :=
  call fun n => some (random.bytes n size)

/-- What the code returns, and raises, when so many calls have been made. -/
def returns {α : Type} (code : Outside α) (n : Nat) : Option α := (code.run n).map Prod.fst

variable {α β : Type}

theorem run_call_eq_some {reply : Nat → Option α} {n m : Nat} {a : α} :
    (call reply).run n = some (a, m) ↔ reply n = some a ∧ m = n + 1 := by
  simp [call, StateT.run, eq_comm]

theorem run_lift_eq_some {x : Option α} {n m : Nat} {a : α} :
    (liftM x : Outside α).run n = some (a, m) ↔ x = some a ∧ m = n := by
  cases x with
  | none => simp
  | some b => simp [eq_comm]

theorem run_bind_eq_some {code : Outside α} {f : α → Outside β} {n m : Nat} {b : β} :
    (code >>= f).run n = some (b, m) ↔ ∃ a k, code.run n = some (a, k) ∧
      (f a).run k = some (b, m) := by
  simp [StateT.run_bind, Option.bind_eq_some_iff]

theorem run_pure_eq_some {a b : α} {n m : Nat} :
    (pure a : Outside α).run n = some (b, m) ↔ b = a ∧ m = n := by
  simp [eq_comm]

theorem returns_eq_some_iff {code : Outside α} {n : Nat} {a : α} :
    code.returns n = some a ↔ ∃ m, code.run n = some (a, m) := by
  simp [returns]

end Outside

/-! ## Key-encryption keys -/

/-- Abstract base class for Key Encryption Keys. -/
structure KeyEncryptionKey where
  keyId : String
  wrapKey : Bytes → Outside Bytes
  unwrapKey : Bytes → Outside Bytes

/-- What has been wrapped is unwrapped, whenever that is tried. -/
def KeyEncryptionKey.Inverts (self : KeyEncryptionKey) : Prop :=
  ∀ {dek wrapped n m}, (self.wrapKey dek).run n = some (wrapped, m) →
    ∀ later, (self.unwrapKey wrapped).returns later = some dek

/-- `LocalKEK`, for a master key that is there -/
def localKEK (aesgcm : AesGcm) (random : Urandom) (keyId : String) (masterKey : Bytes) :
    KeyEncryptionKey where
  keyId
  wrapKey dek := do
    let nonce ← Outside.urandom random 12
    let wrapped ← aesgcm.encrypt masterKey nonce dek none
    return nonce ++ wrapped
  unwrapKey wrappedDek :=
    let nonce := wrappedDek.take 12
    let ciphertext := wrappedDek.drop 12
    aesgcm.decrypt masterKey nonce ciphertext none

section

variable {aesgcm : AesGcm} {random : Urandom} {keyId : String} {masterKey dek wrapped : Bytes}

/-- The nonce is in front of the wrapped key. -/
theorem localKEK_wrapKey_eq_some {n m : Nat}
    (h : ((localKEK aesgcm random keyId masterKey).wrapKey dek).run n = some (wrapped, m)) :
    ∃ sealed, aesgcm.encrypt masterKey (random.bytes n 12) dek none = some sealed ∧
      wrapped = random.bytes n 12 ++ sealed := by
  simp only [localKEK, Outside.urandom, Outside.run_bind_eq_some, Outside.run_call_eq_some,
    Outside.run_lift_eq_some, Outside.run_pure_eq_some] at h
  obtain ⟨nonce, _, ⟨hnonce, rfl⟩, sealed, _, ⟨hsealed, rfl⟩, hwrapped, rfl⟩ := h
  cases hnonce
  exact ⟨sealed, hsealed, hwrapped⟩

/-- A nonce has twelve bytes, so it is told from what follows. -/
theorem localKEK_unwrapKey (n : Nat) (sealed : Bytes) :
    (localKEK aesgcm random keyId masterKey).unwrapKey (random.bytes n 12 ++ sealed) =
      liftM (aesgcm.decrypt masterKey (random.bytes n 12) sealed none) := by
  have hlength := random.length_bytes n 12
  rw [localKEK]
  dsimp only
  rw [List.take_left' hlength, List.drop_left' hlength]

theorem localKEK_inverts : (localKEK aesgcm random keyId masterKey).Inverts := by
  intro dek wrapped n m h later
  obtain ⟨sealed, hsealed, rfl⟩ := localKEK_wrapKey_eq_some h
  rw [localKEK_unwrapKey, Outside.returns_eq_some_iff]
  exact ⟨later, Outside.run_lift_eq_some.mpr ⟨aesgcm.decrypt_encrypt hsealed, rfl⟩⟩

end

/-! ## Envelopes -/

/-- Encrypted data with wrapped DEK. -/
structure EncryptedData where
  ciphertext : Bytes
  wrappedDek : Bytes
  nonce : Bytes
  kekId : String
  algorithm : String := "AES256-GCM"

namespace EnvelopeEncryption

/-- Encrypt data using envelope encryption. -/
def encrypt (aesgcm : AesGcm) (random : Urandom) (kek : KeyEncryptionKey) (plaintext : Bytes)
    (associatedData : Option Bytes) : Outside EncryptedData := do
  let dek ← Outside.urandom random 32
  let nonce ← Outside.urandom random 12
  let ciphertext ← aesgcm.encrypt dek nonce plaintext associatedData
  let wrappedDek ← kek.wrapKey dek
  return {
    ciphertext
    wrappedDek
    nonce
    kekId := kek.keyId
    algorithm := "AES256-GCM" }

/-- Decrypt data using envelope encryption. -/
def decrypt (aesgcm : AesGcm) (kek : KeyEncryptionKey) (encrypted : EncryptedData)
    (associatedData : Option Bytes) : Outside Bytes := do
  let dek ← kek.unwrapKey encrypted.wrappedDek
  aesgcm.decrypt dek encrypted.nonce encrypted.ciphertext associatedData

variable {aesgcm : AesGcm} {random : Urandom} {kek : KeyEncryptionKey} {plaintext : Bytes}
  {associatedData : Option Bytes} {n m : Nat} {encrypted : EncryptedData}

/-- What an envelope is made of: the first two draws are the key and the nonce
of the data. -/
theorem encrypt_eq_some
    (h : (encrypt aesgcm random kek plaintext associatedData).run n = some (encrypted, m)) :
    encrypted.nonce = random.bytes (n + 1) 12 ∧
      aesgcm.encrypt (random.bytes n 32) encrypted.nonce plaintext associatedData =
        some encrypted.ciphertext ∧
      (kek.wrapKey (random.bytes n 32)).run (n + 2) = some (encrypted.wrappedDek, m) := by
  simp only [encrypt, Outside.urandom, Outside.run_bind_eq_some, Outside.run_call_eq_some,
    Outside.run_lift_eq_some, Outside.run_pure_eq_some] at h
  obtain ⟨dek, _, ⟨hdek, rfl⟩, nonce, _, ⟨hnonce, rfl⟩, ciphertext, _, ⟨hciphertext, rfl⟩, wrapped,
    _, hwrapped, rfl, rfl⟩ := h
  cases hdek
  cases hnonce
  exact ⟨rfl, hciphertext, hwrapped⟩

/-- An envelope decrypts under the same key-encryption key. -/
theorem decrypt_encrypt (hkek : kek.Inverts)
    (h : (encrypt aesgcm random kek plaintext associatedData).run n = some (encrypted, m))
    (later : Nat) :
    (decrypt aesgcm kek encrypted associatedData).returns later = some plaintext := by
  obtain ⟨-, hciphertext, hwrapped⟩ := encrypt_eq_some h
  obtain ⟨k, hdek⟩ := Outside.returns_eq_some_iff.mp (hkek hwrapped later)
  rw [Outside.returns_eq_some_iff]
  refine ⟨k, Outside.run_bind_eq_some.mpr ⟨_, k, hdek, Outside.run_lift_eq_some.mpr ⟨?_, rfl⟩⟩⟩
  exact aesgcm.decrypt_encrypt hciphertext

end EnvelopeEncryption

/-! ## Storage -/

/-- `base64.b64encode(data).decode()` -/
def b64encode (data : Bytes) : String := String.ofList (Base64.encode data)

/-- `base64.b64decode(value)`, for a value of a JSON document -/
def b64decode : Json → Option Bytes
  | .str text => Base64.decode text.toList
  | _ => none

theorem b64decode_b64encode (data : Bytes) : b64decode (.str (b64encode data)) = some data := by
  rw [b64decode, b64encode, String.toList_ofList, Base64.decode_encode]

/-- A value that the annotation says is a `str`. -/
def asStr : Json → Option String
  | .str text => some text
  | _ => none

section

variable [Python]

/-- Serialize EncryptedData to base64 JSON string for storage. -/
def serializeEncrypted (encrypted : EncryptedData) : String :=
  Json.dumps .default (.obj
    [("ciphertext", .str (b64encode encrypted.ciphertext)),
      ("wrapped_dek", .str (b64encode encrypted.wrappedDek)),
      ("nonce", .str (b64encode encrypted.nonce)),
      ("kek_id", .str encrypted.kekId),
      ("algorithm", .str encrypted.algorithm)])

variable [PythonFloat]

/-- Deserialize EncryptedData from base64 JSON string.  A `kek_id` or `algorithm`
that is no string would make a record that no annotation allows, and counts as
an error. -/
def deserializeEncrypted (data : String) : Option EncryptedData := do
  let obj ← Json.loads data
  let ciphertext ← b64decode (← obj.get? "ciphertext")
  let wrappedDek ← b64decode (← obj.get? "wrapped_dek")
  let nonce ← b64decode (← obj.get? "nonce")
  let kekId ← asStr (← obj.get? "kek_id")
  let algorithm ← asStr ((obj.get? "algorithm").getD (.str "AES256-GCM"))
  return { ciphertext, wrappedDek, nonce, kekId, algorithm }

/-- An object with the fields of an envelope is read as that envelope. -/
theorem deserializeEncrypted_of_fields {data : String} {obj : Json} {encrypted : EncryptedData}
    (hobj : Json.loads data = some obj)
    (hciphertext : obj.get? "ciphertext" = some (.str (b64encode encrypted.ciphertext)))
    (hwrapped : obj.get? "wrapped_dek" = some (.str (b64encode encrypted.wrappedDek)))
    (hnonce : obj.get? "nonce" = some (.str (b64encode encrypted.nonce)))
    (hkek : obj.get? "kek_id" = some (.str encrypted.kekId))
    (halgorithm : obj.get? "algorithm" = some (.str encrypted.algorithm)) :
    deserializeEncrypted data = some encrypted := by
  simp only [deserializeEncrypted, hobj, hciphertext, hwrapped, hnonce, hkek, halgorithm,
    Option.bind_eq_bind, Option.bind_some, Option.getD_some, Option.pure_def, b64decode_b64encode,
    asStr]

theorem deserializeEncrypted_serializeEncrypted (encrypted : EncryptedData) :
    deserializeEncrypted (serializeEncrypted encrypted) = some encrypted := by
  refine deserializeEncrypted_of_fields (Json.loads_dumps _ ?_) rfl rfl rfl rfl rfl
  simp [Json.Proper, Json.properFields_iff]

/-- **Stored envelopes decrypt.**  What is encrypted under a key-encryption key
that unwraps what it wraps, such as the local one, and stored, is read and
decrypted as it was; and storage keeps every envelope. -/
theorem decrypt_stored (aesgcm : AesGcm) (random : Urandom) :
    (∀ (kek : KeyEncryptionKey), kek.Inverts →
      ∀ (plaintext : Bytes) (associatedData : Option Bytes) (n m : Nat) (encrypted : EncryptedData),
      (EnvelopeEncryption.encrypt aesgcm random kek plaintext associatedData).run n =
        some (encrypted, m) →
      ∃ stored, deserializeEncrypted (serializeEncrypted encrypted) = some stored ∧
        ∀ later, (EnvelopeEncryption.decrypt aesgcm kek stored associatedData).returns later =
          some plaintext) ∧
    (∀ keyId masterKey, (localKEK aesgcm random keyId masterKey).Inverts) ∧
    ∀ encrypted, deserializeEncrypted (serializeEncrypted encrypted) = some encrypted := by
  refine ⟨?_, fun _ _ => localKEK_inverts, deserializeEncrypted_serializeEncrypted⟩
  intro kek hkek plaintext associatedData n m encrypted h
  exact ⟨encrypted, deserializeEncrypted_serializeEncrypted encrypted,
    EnvelopeEncryption.decrypt_encrypt hkek h⟩

end

/-! ## A sample -/

/-- Every call draws its own number. -/
def Urandom.counting : Urandom where
  bytes call size := List.replicate size (.ofNat call)
  length_bytes _ _ := List.length_replicate

/-- AES-GCM for the first draws: a key of ones with a nonce of twos, as for data,
and keys of zeros and fours with a nonce of threes, as for wrapping. -/
def sampleAesGcm : AesGcm :=
  Aead.ofStream
    (fun key nonce i =>
      if key = List.replicate 32 1 ∧ nonce = List.replicate 12 2 then
        [7, 214, 201, 73].getD i 0
      else if key = List.replicate 32 0 ∧ nonce = List.replicate 12 3 then
        [152, 51, 52, 36, 202, 6, 60, 144, 39, 55, 21, 22, 173, 39, 198, 25, 191, 170, 158, 14, 62,
          5, 209, 127, 173, 162, 188, 255, 223, 244, 222, 2].getD i 0
      else 0)
    (fun key nonce _ _ =>
      if key = List.replicate 32 1 ∧ nonce = List.replicate 12 2 then
        (⟨[145, 216, 170, 204, 207, 101, 134, 131, 4, 240, 122, 137, 27, 250, 225, 123], rfl⟩ :
          {tag : List UInt8 // tag.length = 16})
      else if key = List.replicate 32 0 ∧ nonce = List.replicate 12 3 then
        ⟨[220, 135, 99, 232, 97, 32, 9, 193, 227, 40, 175, 77, 202, 90, 180, 153], rfl⟩
      else ⟨[62, 189, 63, 178, 95, 5, 202, 40, 187, 184, 186, 225, 173, 105, 97, 58], rfl⟩)

/-- `b"card"` and `b"acme"` -/
def sampleText : Bytes := [99, 97, 114, 100]

def sampleData : Bytes := [97, 99, 109, 101]

/-- A card number of a tenant under a local key. -/
theorem decrypt_stored_card :
    ∃ encrypted, (EnvelopeEncryption.encrypt sampleAesGcm .counting
        (localKEK sampleAesGcm .counting "local-dev-kek" (List.replicate 32 0)) sampleText
        (some sampleData)).run 1 = some (encrypted, 4) ∧
      ∃ stored, @deserializeEncrypted Json.whole Json.wholeFloat
          (@serializeEncrypted Json.whole encrypted) = some stored ∧
        ∀ later, (EnvelopeEncryption.decrypt sampleAesGcm
          (localKEK sampleAesGcm .counting "local-dev-kek" (List.replicate 32 0)) stored
          (some sampleData)).returns later = some sampleText := by
  let _ := Json.whole
  let _ := Json.wholeFloat
  obtain ⟨hstored, hlocal, -⟩ := decrypt_stored sampleAesGcm .counting
  have hencrypt : (EnvelopeEncryption.encrypt sampleAesGcm .counting
      (localKEK sampleAesGcm .counting "local-dev-kek" (List.replicate 32 0)) sampleText
      (some sampleData)).run 1 = some (_, 4) := rfl
  exact ⟨_, hencrypt, hstored _ (hlocal _ _) _ _ _ _ _ hencrypt⟩

end DbGateway.Encryption
