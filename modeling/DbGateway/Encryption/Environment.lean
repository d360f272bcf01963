import DbGateway.Encryption.Envelope

/-!
# DbGateway.Encryption.Environment

The key-encryption keys that `get_kek_from_environment` makes, and
`encrypt_data` and `decrypt_data`, which make one for each call.

A key that a service keeps is the same one the next time.  The local key is
drawn anew, so what is encrypted under it is lost (`decryptData_encryptData_iff`).
-/

namespace DbGateway.Encryption

/-! ## Services -/

/-- `str.encode` -/
def utf8Encode (s : String) : Bytes := s.toByteArray.data.toList

/-- `bytes.decode` -/
def utf8Decode (data : Bytes) : Option String := String.fromUTF8? ⟨data.toArray⟩

theorem utf8Decode_utf8Encode (s : String) : utf8Decode (utf8Encode s) = some s := by
  rw [utf8Decode, utf8Encode, Array.toArray_toList, String.fromUTF8?,
    dif_pos s.isValidUTF8]
  rfl

/-- The services that keep a key.  Each decrypts what it has encrypted; both
can fail, and the answer can be another one the next time. -/
structure Services where
  /-- `boto3.client("kms", region_name=region)` -/
  awsEncrypt : Nat → Option String → (keyId : String) → (plaintext : Bytes) → Option Bytes
  awsDecrypt : Nat → Option String → (ciphertextBlob : Bytes) → Option Bytes
  awsDecrypt_awsEncrypt : ∀ {n region keyId plaintext blob},
    awsEncrypt n region keyId plaintext = some blob →
    ∀ later, awsDecrypt later region blob = some plaintext
  /-- `kms.KeyManagementServiceClient()` -/
  gcpEncrypt : Nat → (name : String) → (plaintext : Bytes) → Option Bytes
  gcpDecrypt : Nat → (name : String) → (ciphertext : Bytes) → Option Bytes
  gcpDecrypt_gcpEncrypt : ∀ {n name plaintext ciphertext},
    gcpEncrypt n name plaintext = some ciphertext →
    ∀ later, gcpDecrypt later name ciphertext = some plaintext
  /-- `hvac.Client(url=url, token=token).secrets.transit` -/
  vaultEncrypt : Nat → (url token name : String) → (plaintext : String) → Option String
  vaultDecrypt : Nat → (url token name : String) → (ciphertext : String) → Option String
  vaultDecrypt_vaultEncrypt : ∀ {n url token name plaintext ciphertext},
    vaultEncrypt n url token name plaintext = some ciphertext →
    ∀ later, vaultDecrypt later url token name ciphertext = some plaintext

/-- AWS KMS Key Encryption Key. -/
def awsKMSKEK (services : Services) (keyId : String) (region : Option String) :
    KeyEncryptionKey where
  keyId
  wrapKey dek := Outside.call fun n => services.awsEncrypt n region keyId dek
  unwrapKey wrappedDek := Outside.call fun n => services.awsDecrypt n region wrappedDek

/-- Google Cloud KMS Key Encryption Key. -/
def gcpKMSKEK (services : Services) (keyId : String) : KeyEncryptionKey where
  keyId
  wrapKey dek := Outside.call fun n => services.gcpEncrypt n keyId dek
  unwrapKey wrappedDek := Outside.call fun n => services.gcpDecrypt n keyId wrappedDek

/-- `vault_addr.rstrip("/")` -/
def rstripSlash (s : String) : String := String.ofList (s.toList.rdropWhile (· == '/'))

/-- HashiCorp Vault Transit Key Encryption Key. -/
def vaultTransitKEK (services : Services) (keyName vaultAddr token : String) :
    KeyEncryptionKey where
  keyId := "vault:" ++ keyName
  wrapKey dek := do
    let ciphertext ← Outside.call fun n =>
      services.vaultEncrypt n (rstripSlash vaultAddr) token keyName (b64encode dek)
    return utf8Encode ciphertext
  unwrapKey wrappedDek := do
    let ciphertext ← utf8Decode wrappedDek
    let plaintext ← Outside.call fun n =>
      services.vaultDecrypt n (rstripSlash vaultAddr) token keyName ciphertext
    b64decode (.str plaintext)

theorem awsKMSKEK_inverts (services : Services) (keyId : String) (region : Option String) :
    (awsKMSKEK services keyId region).Inverts := by
  intro dek wrapped n m h later
  obtain ⟨hwrapped, -⟩ := Outside.run_call_eq_some.mp h
  rw [Outside.returns_eq_some_iff]
  exact ⟨later + 1, Outside.run_call_eq_some.mpr ⟨services.awsDecrypt_awsEncrypt hwrapped later, rfl⟩⟩

theorem gcpKMSKEK_inverts (services : Services) (keyId : String) :
    (gcpKMSKEK services keyId).Inverts := by
  intro dek wrapped n m h later
  obtain ⟨hwrapped, -⟩ := Outside.run_call_eq_some.mp h
  rw [Outside.returns_eq_some_iff]
  exact ⟨later + 1, Outside.run_call_eq_some.mpr ⟨services.gcpDecrypt_gcpEncrypt hwrapped later, rfl⟩⟩

/-- A key goes to Vault in base64, and comes back so. -/
theorem vaultTransitKEK_inverts (services : Services) (keyName vaultAddr token : String) :
    (vaultTransitKEK services keyName vaultAddr token).Inverts := by
  intro dek wrapped n m h later
  simp only [vaultTransitKEK, Outside.run_bind_eq_some, Outside.run_call_eq_some,
    Outside.run_pure_eq_some] at h
  obtain ⟨ciphertext, _, ⟨hciphertext, rfl⟩, rfl, rfl⟩ := h
  rw [Outside.returns_eq_some_iff]
  simp only [vaultTransitKEK, Outside.run_bind_eq_some, Outside.run_call_eq_some,
    Outside.run_lift_eq_some, utf8Decode_utf8Encode]
  exact ⟨later + 1, ciphertext, later, ⟨rfl, rfl⟩, b64encode dek, later + 1,
    ⟨services.vaultDecrypt_vaultEncrypt hciphertext later, rfl⟩, b64decode_b64encode dek, rfl⟩

/-! ## The environment -/

section

variable [Python]

/-- `os.getenv("ENCRYPTION_KEK_TYPE", "local").lower()` -/
def kekType (environ : Dict String) : String :=
  lower ((environ.get? "ENCRYPTION_KEK_TYPE").getD "local")

/-- Create a KEK from environment configuration. -/
def getKekFromEnvironment (aesgcm : AesGcm) (random : Urandom) (services : Services)
    (environ : Dict String) : Outside KeyEncryptionKey :=
  if kekType environ = "aws" then
    match environ.get? "ENCRYPTION_AWS_KMS_KEY_ID" with
    | some keyId =>
        if keyId = "" then failure
        else pure (awsKMSKEK services keyId (environ.get? "ENCRYPTION_AWS_KMS_REGION"))
    | none => failure
  else if kekType environ = "gcp" then
    match environ.get? "ENCRYPTION_GCP_KMS_KEY_ID" with
    | some keyId => if keyId = "" then failure else pure (gcpKMSKEK services keyId)
    | none => failure
  else if kekType environ = "vault" then
    match environ.get? "ENCRYPTION_VAULT_KEY_NAME", environ.get? "ENCRYPTION_VAULT_ADDR",
      environ.get? "ENCRYPTION_VAULT_TOKEN" with
    | some keyName, some vaultAddr, some token =>
        if keyName = "" ∨ vaultAddr = "" ∨ token = "" then failure
        else pure (vaultTransitKEK services keyName vaultAddr token)
    | _, _, _ => failure
  else do
    -- Local development - uses ephemeral key
    let masterKey ← Outside.urandom random 32
    return localKEK aesgcm random "local-dev-kek" masterKey

/-- Encrypt data using envelope encryption from environment config. -/
def encryptData (aesgcm : AesGcm) (random : Urandom) (services : Services) (environ : Dict String)
    (plaintext : Bytes) (associatedData : Option Bytes) : Outside EncryptedData := do
  let kek ← getKekFromEnvironment aesgcm random services environ
  EnvelopeEncryption.encrypt aesgcm random kek plaintext associatedData

/-- Decrypt data using envelope encryption from environment config. -/
def decryptData (aesgcm : AesGcm) (random : Urandom) (services : Services) (environ : Dict String)
    (encrypted : EncryptedData) (associatedData : Option Bytes) : Outside Bytes := do
  let kek ← getKekFromEnvironment aesgcm random services environ
  EnvelopeEncryption.decrypt aesgcm kek encrypted associatedData

variable {aesgcm : AesGcm} {random : Urandom} {services : Services} {environ : Dict String}

/-- The types of key that a service keeps. -/
def serviceTypes : List String := ["aws", "gcp", "vault"]

/-- The key of a service is the same one every time. -/
theorem getKekFromEnvironment_of_mem (htype : kekType environ ∈ serviceTypes) :
    getKekFromEnvironment aesgcm random services environ = failure ∨
      ∃ kek : KeyEncryptionKey, kek.Inverts ∧
        getKekFromEnvironment aesgcm random services environ = pure kek := by
  rw [getKekFromEnvironment]
  by_cases haws : kekType environ = "aws"
  · rw [if_pos haws]
    split
    · split
      · exact .inl rfl
      · exact .inr ⟨_, awsKMSKEK_inverts _ _ _, rfl⟩
    · exact .inl rfl
  · rw [if_neg haws]
    by_cases hgcp : kekType environ = "gcp"
    · rw [if_pos hgcp]
      split
      · split
        · exact .inl rfl
        · exact .inr ⟨_, gcpKMSKEK_inverts _ _, rfl⟩
      · exact .inl rfl
    · rw [if_neg hgcp]
      have hvault : kekType environ = "vault" := by
        simpa [serviceTypes, haws, hgcp] using htype
      rw [if_pos hvault]
      split
      · split
        · exact .inl rfl
        · exact .inr ⟨_, vaultTransitKEK_inverts _ _ _ _, rfl⟩
      · exact .inl rfl

/-- The local key is the next draw. -/
theorem getKekFromEnvironment_of_not_mem (htype : kekType environ ∉ serviceTypes) (n : Nat) :
    (getKekFromEnvironment aesgcm random services environ).run n =
      some (localKEK aesgcm random "local-dev-kek" (random.bytes n 32), n + 1) := by
  simp only [serviceTypes, List.mem_cons, List.not_mem_nil, or_false, not_or] at htype
  rw [getKekFromEnvironment, if_neg htype.1, if_neg htype.2.1, if_neg htype.2.2]
  rfl

variable {plaintext : Bytes} {associatedData : Option Bytes} {n m later : Nat}
  {encrypted : EncryptedData}

/-- **Convenience round trip**: what `encrypt_data` makes, `decrypt_data`
decrypts if a service keeps the key.  Else the two draw a key each, and AES-GCM
raises when the key is not the one that has wrapped. -/
theorem decryptData_encryptData_iff
    (h : (encryptData aesgcm random services environ plaintext associatedData).run n =
      some (encrypted, m))
    (hfresh : random.bytes n 32 ≠ random.bytes later 32)
    (hinvalidTag : random.bytes n 32 ≠ random.bytes later 32 →
      aesgcm.Rejects (random.bytes n 32) (random.bytes later 32) (random.bytes (n + 3) 12)
        (random.bytes (n + 1) 32) none) :
    (decryptData aesgcm random services environ encrypted associatedData).returns later =
      some plaintext ↔ kekType environ ∈ serviceTypes := by
  rw [encryptData, Outside.run_bind_eq_some] at h
  obtain ⟨kek, k, hkek, hencrypt⟩ := h
  by_cases htype : kekType environ ∈ serviceTypes
  · obtain hfailure | ⟨kek', hinverts, hpure⟩ := getKekFromEnvironment_of_mem htype
    · rw [hfailure] at hkek
      contradiction
    · rw [hpure, Outside.run_pure_eq_some] at hkek
      obtain ⟨rfl, rfl⟩ := hkek
      rw [decryptData, hpure, pure_bind]
      exact iff_of_true (EnvelopeEncryption.decrypt_encrypt hinverts hencrypt later) htype
  · rw [getKekFromEnvironment_of_not_mem htype, Option.some_inj, Prod.mk.injEq] at hkek
    obtain ⟨rfl, rfl⟩ := hkek
    obtain ⟨-, -, hwrapped⟩ := EnvelopeEncryption.encrypt_eq_some hencrypt
    obtain ⟨sealed, hsealed, hwrappedDek⟩ := localKEK_wrapKey_eq_some hwrapped
    refine iff_of_false ?_ htype
    -- the key that unwraps is another draw than the one that has wrapped
    have hnone := hinvalidTag hfresh sealed hsealed
    intro hreturns
    obtain ⟨m', hrun⟩ := Outside.returns_eq_some_iff.mp hreturns
    simp only [decryptData, EnvelopeEncryption.decrypt, Outside.run_bind_eq_some,
      getKekFromEnvironment_of_not_mem htype, Option.some_inj, Prod.mk.injEq] at hrun
    obtain ⟨kek', k', ⟨rfl, rfl⟩, dek, k'', hunwrap, -⟩ := hrun
    rw [hwrappedDek, localKEK_unwrapKey, hnone] at hunwrap
    contradiction

end

/-- No service can be reached. -/
def Services.unreachable : Services where
  awsEncrypt _ _ _ _ := none
  awsDecrypt _ _ _ := none
  awsDecrypt_awsEncrypt h := nomatch h
  gcpEncrypt _ _ _ := none
  gcpDecrypt _ _ _ := none
  gcpDecrypt_gcpEncrypt h := nomatch h
  vaultEncrypt _ _ _ _ _ := none
  vaultDecrypt _ _ _ _ _ := none
  vaultDecrypt_vaultEncrypt h := nomatch h

/-- Every service can be reached, and turns round what it encrypts. -/
def Services.reversing : Services where
  awsEncrypt _ _ _ plaintext := some plaintext.reverse
  awsDecrypt _ _ blob := some blob.reverse
  awsDecrypt_awsEncrypt h _ := by rw [← Option.some.inj h, List.reverse_reverse]
  gcpEncrypt _ _ plaintext := some plaintext.reverse
  gcpDecrypt _ _ ciphertext := some ciphertext.reverse
  gcpDecrypt_gcpEncrypt h _ := by rw [← Option.some.inj h, List.reverse_reverse]
  vaultEncrypt _ _ _ _ plaintext := some (String.ofList plaintext.toList.reverse)
  vaultDecrypt _ _ _ _ ciphertext := some (String.ofList ciphertext.toList.reverse)
  vaultDecrypt_vaultEncrypt h _ := by
    rw [← Option.some.inj h, String.toList_ofList, List.reverse_reverse, String.ofList_toList]

/-- A key of Google Cloud KMS. -/
def gcpEnviron : Dict String :=
  [("ENCRYPTION_KEK_TYPE", "gcp"), ("ENCRYPTION_GCP_KMS_KEY_ID", "audit")]

/-- With a key kept outside the process `decrypt_data` decrypts. -/
theorem decryptData_encryptData_iff_gcp :
    ∃ encrypted m, (@encryptData Python.ascii sampleAesGcm .counting .reversing gcpEnviron
        sampleText (some sampleData)).run 0 = some (encrypted, m) ∧
      (@decryptData Python.ascii sampleAesGcm .counting .reversing gcpEnviron encrypted
        (some sampleData)).returns 4 = some sampleText := by
  let _ := Python.ascii
  have hencrypt : (encryptData sampleAesGcm .counting .reversing gcpEnviron sampleText
      (some sampleData)).run 0 = some (_, _) := rfl
  refine ⟨_, _, hencrypt, (decryptData_encryptData_iff hencrypt (by decide) ?_).mpr (by decide)⟩
  intro _ sealed hsealed
  cases hsealed
  rfl

/-- With nothing set in the environment the key is drawn anew. -/
theorem decryptData_encryptData_default :
    ∃ encrypted, (@encryptData Python.ascii sampleAesGcm .counting .unreachable [] sampleText
        (some sampleData)).run 0 = some (encrypted, 4) ∧
      (@decryptData Python.ascii sampleAesGcm .counting .unreachable [] encrypted
        (some sampleData)).returns 4 = none :=
  ⟨_, rfl, rfl⟩

end DbGateway.Encryption
