import Kms.ServerConfig

/-! The test server of `test_server/src/test_server.rs`, as built for Linux.
`start_test_server_with_options` turns its four options into a `ClapConfig` and then into
`ServerParams`. It writes the owner's client configuration, starts the server and waits for it to
answer. It then asks the server for a database, writes the owner's configuration again with the
database's secret, and derives the user's configuration from it. What lies outside the file is a
field of `Fixture` (constants and `Default` values) or of `TestWorld` (effects).

`waitLoop_spec` is the retry loop of `wait_for_server_to_start`, for any timeout: the sleeps
between queries double, and the loop returns `Ok` exactly when one of its queries found the
server up. `startTestServerWithOptions_spec` says what a started test server leaves behind. Each
configuration file holds the configuration the context names, the owner's with the database
secret. The owner connects with the scheme the server runs, with the Auth0 token exactly when the
server has identity providers, and with a client certificate exactly when the server verifies
them. The user's configuration is the owner's with the user's certificate.
`generateInvalidConf_spec` says that
`generate_invalid_conf` writes the correct configuration but for its database secret, which names
the same group with a new random key, provided base64 and JSON read back what they wrote. -/
namespace Kms.TestServer
open Utf8Lossy ServerConfig

/-- `ClientError`: `Default` with its message, or another error of the client library as the
text it displays. -/
inductive ClientError where
  | default (message : String)
  | other (display : String)
  deriving DecidableEq

/-- `ClientConf`, with the fields the test server sets. The others keep `ClientConf::default()`,
and nothing here reads them. A string made from a path is its bytes. -/
structure ClientConf where
  kmsServerUrl : String
  acceptInvalidCerts : Bool
  kmsAccessToken : Option String
  sslClientPkcs12Path : Option (List UInt8)
  sslClientPkcs12Password : Option String
  kmsDatabaseSecret : Option String
  deriving DecidableEq

/-- `TestsContext`, without the handles of the server and of its thread. -/
structure TestsContext where
  ownerClientConfPath : String
  userClientConfPath : String
  ownerClientConf : ClientConf
  deriving DecidableEq

/-- What the test server takes from outside its file: `Default` values, the crate's directory,
and the Auth0 settings of `test_jwt`. -/
structure Fixture where
  /-- `ClapConfig::default()`. -/
  clapConfigDefault : ClapConfig
  /-- `HttpConfig::default()`. -/
  httpConfigDefault : HttpConfig
  /-- `DBConfig::default()`. -/
  dbConfigDefault : DBConfig
  /-- `JwtAuthConfig::default()`. -/
  jwtAuthConfigDefault : JwtAuthConfig
  /-- `ClientConf::default()`. -/
  clientConfDefault : ClientConf
  /-- `env!("CARGO_MANIFEST_DIR")`. -/
  rootDir : List UInt8
  /-- The directory is a `&str`, so UTF-8. -/
  rootDirUtf8 : WellFormed rootDir
  /-- `get_auth0_jwt_config()`. -/
  auth0JwtConfig : JwtAuthConfig
  /-- `AUTH0_TOKEN`. -/
  auth0Token : String

/-- What the files of `/tmp` hold: the configuration last written under each path. -/
def Files : Type := String → Option ClientConf

/-- The files once `conf` is written under `path`. -/
def Files.write (files : Files) (path : String) (conf : ClientConf) : Files := fun p =>
  if p = path then some conf else files p

/-- How a run ends when it does not return `Ok`. -/
inductive Failure where
  | error (e : ClientError)
  | panic (message : String)
  deriving DecidableEq

/-- A step of the test server: it may write files, and it may fail or panic. -/
abbrev TestM (α : Type) : Type := StateT Files (Except Failure) α

/-- `ExtraDatabaseParams`: the group of an encrypted database and its key. A database secret is
the base64 of their JSON. -/
structure ExtraDatabaseParams where
  groupId : Nat
  key : List UInt8
  deriving DecidableEq

/-- The effects of the test server. -/
structure TestWorld where
  /-- What `ServerParams::try_from` reads. -/
  config : ConfigWorld
  /-- `{e}` of a `KmsError`. -/
  displayKmsError : KmsError → String
  /-- Whether `write_json_object_to_file` writes a configuration under a path. -/
  writeJson : String → ClientConf → Except ClientError Unit
  /-- `ClientConf::initialize_kms_client`. -/
  initializeKmsClient : ClientConf → Except ClientError Unit
  /-- Whether the server's thread sends its handle within 25 seconds. -/
  handleSent : ServerParams → Bool
  /-- `KmsClient::version`: whether the server answers the `n`-th query. -/
  version : Nat → Bool
  /-- `KmsClient::new_database`: the secret of the new database. -/
  newDatabase : Except ClientError String
  /-- `Secret::<AES_256_GCM_KEY_LENGTH>::new_random()`. -/
  newRandomKey : Option (List UInt8)
  /-- `b64.decode`. -/
  b64Decode : String → Option (List UInt8)
  /-- `b64.encode`. -/
  b64Encode : List UInt8 → String
  /-- `serde_json::from_slice::<ExtraDatabaseParams>`. -/
  paramsFromSlice : List UInt8 → Option ExtraDatabaseParams
  /-- `serde_json::to_string` of `ExtraDatabaseParams`, as the bytes of the text. -/
  paramsToString : ExtraDatabaseParams → Option (List UInt8)

/-- `?` on a `ClientError`. -/
def orFail {α : Type} : Except ClientError α → TestM α
  | .ok a => pure a
  | .error e => throw (.error e)

/-- `.expect(message)`. -/
def expect {ε α : Type} (message : String) : Except ε α → TestM α
  | .ok a => pure a
  | .error _ => throw (.panic message)

/-- `.expect(message)` on an `Option`. -/
def expectSome {α : Type} (message : String) (o : Option α) : TestM α :=
  expect message (o.elim (.error ()) .ok)

/-- `.expect(message)` on a function that returns a `ClientError`. -/
def expectM {α : Type} (message : String) (step : TestM α) : TestM α := fun files =>
  match step files with
  | .error (.error _) => .error (.panic message)
  | outcome => outcome

/-- `write_json_object_to_file`: the file holds the configuration once the write succeeds. -/
def writeJsonObjectToFile (w : TestWorld) (conf : ClientConf) (path : String) :
    TestM (Except ClientError Unit) := fun files =>
  match w.writeJson path conf with
  | .ok () => .ok (.ok (), files.write path conf)
  | .error e => .ok (.error e, files)

theorem Files.write_same (files : Files) (path : String) (conf : ClientConf) :
    files.write path conf path = some conf := if_pos rfl

theorem Files.write_other (files : Files) {path other : String} (conf : ClientConf)
    (apart : other ≠ path) : files.write path conf other = files other := if_neg apart

section Steps

variable {α β : Type} {files files' : Files}

/-- A run of steps that returns: each step did. -/
theorem testM_bind_eq_ok {x : TestM α} {f : α → TestM β} {b : β} :
    (x >>= f) files = .ok (b, files') ↔ ∃ a mid, x files = .ok (a, mid) ∧ f a mid = .ok (b, files') := by
  show (x files).bind _ = _ ↔ _
  cases x files with
  | error e => simp [Except.bind]
  | ok r =>
    obtain ⟨a, mid⟩ := r
    exact ⟨fun h => ⟨a, mid, rfl, h⟩, fun ⟨_, _, same, h⟩ => by cases same; exact h⟩

theorem testM_pure_eq_ok {a b : α} :
    (pure a : TestM α) files = .ok (b, files') ↔ a = b ∧ files = files' := by
  simp [pure, StateT.pure, Except.pure]

theorem testM_throw_eq_ok {f : Failure} {r : α × Files} :
    (throw f : TestM α) files = .ok r ↔ False := by
  simp [throw, throwThe, MonadExceptOf.throw, StateT.lift, bind, Except.bind]

theorem orFail_ok {a : α} : orFail (.ok a) = pure a := rfl

theorem orFail_eq_ok {e : Except ClientError α} {a : α} :
    orFail e files = .ok (a, files') ↔ e = .ok a ∧ files' = files := by
  cases e <;> simp [orFail, pure, StateT.pure, throw, throwThe, MonadExceptOf.throw, StateT.lift,
    Except.pure, bind, Except.bind, and_comm, eq_comm]

theorem expect_eq_ok {ε : Type} {message : String} {e : Except ε α} {a : α} :
    expect message e files = .ok (a, files') ↔ e = .ok a ∧ files' = files := by
  cases e <;> simp [expect, pure, StateT.pure, throw, throwThe, MonadExceptOf.throw, StateT.lift,
    Except.pure, bind, Except.bind, and_comm, eq_comm]

theorem expectSome_eq_ok {message : String} {o : Option α} {a : α} :
    expectSome message o files = .ok (a, files') ↔ o = some a ∧ files' = files := by
  cases o <;> simp [expectSome, expect_eq_ok]

theorem expectM_eq_ok {message : String} {step : TestM α} {r : α × Files} :
    expectM message step files = .ok r ↔ step files = .ok r := by
  unfold expectM
  split <;> simp_all

theorem writeJsonObjectToFile_eq_ok {w : TestWorld} {conf : ClientConf} {path : String}
    {r : Except ClientError Unit} :
    writeJsonObjectToFile w conf path files = .ok (r, files') ↔
      r = w.writeJson path conf ∧ files' = if r.isOk then files.write path conf else files := by
  unfold writeJsonObjectToFile
  split
  all_goals
    rename_i written
    rw [written]
    constructor
    · intro h
      cases h
      exact ⟨rfl, rfl⟩
    · rintro ⟨rfl, rfl⟩
      rfl

end Steps

/-- `Path::join`: a relative path goes after a `/`, unless the directory is empty or already ends
with one; an absolute path replaces the directory. -/
def join (dir rel : List UInt8) : List UInt8 :=
  if rel.head? = some 0x2F then rel
  else
    match dir.getLast? with
    | some last => if last = 0x2F then dir ++ rel else dir ++ 0x2F :: rel
    | none => dir ++ rel

/-- A path joined from UTF-8 pieces is UTF-8. -/
theorem join_wellFormed {dir rel : List UInt8} (wfDir : WellFormed dir) (wfRel : WellFormed rel) :
    WellFormed (join dir rel) := by
  unfold join
  split
  · exact wfRel
  · split
    · split
      · exact wfDir.append wfRel
      · exact wfDir.append (WellFormed.cons (Utf8Char.one (by decide : (0x2F : UInt8) < 0x80)) wfRel)
    · exact wfDir.append wfRel

/-! ## Waiting for the server -/

/-- The `while retry` loop of `wait_for_server_to_start` from the `attempt`-th query on, with
`waiting` seconds to sleep after a failed query. `timeout` never goes below zero before its
decrement, so it is a `Nat`, and `timeout >= 0` after the decrement is `timeout ≠ 0` before it.
Returns the sleeps made and how the loop ended. -/
def waitLoop (version : Nat → Bool) (attempt timeout waiting : Nat) :
    List Nat × Except ClientError Unit :=
  if version attempt then ([], .ok ())
  else
    match timeout with
    | 0 => ([], .error (.default "Can't start the kms server to run tests"))
    | timeout + 1 =>
      let (sleeps, outcome) := waitLoop version (attempt + 1) timeout (waiting * 2)
      (waiting :: sleeps, outcome)

/-- `wait_for_server_to_start`: `timeout` starts at 5 and `waiting` at 1. -/
def waitForServerToStart (version : Nat → Bool) : List Nat × Except ClientError Unit :=
  waitLoop version 0 5 1

/-- The loop sleeps after each query that fails and stops at the first that succeeds: the sleeps
double, one query fewer than `timeout + 1` at most, and the loop returns `Ok` exactly when one of
those queries found the server up. -/
theorem waitLoop_spec (version : Nat → Bool) (attempt timeout waiting : Nat) :
    let (sleeps, outcome) := waitLoop version attempt timeout waiting
    sleeps <+: List.iterate (· * 2) waiting timeout ∧
      (∀ k < sleeps.length, version (attempt + k) = false) ∧
      (outcome = .ok () ↔ ∃ k ≤ timeout, version (attempt + k) = true) ∧
      (outcome = .ok () → version (attempt + sleeps.length) = true) := by
  induction timeout generalizing attempt waiting with
  | zero =>
    unfold waitLoop
    cases up : version attempt <;> simp [up]
  | succ timeout ih =>
    obtain ⟨prefixed, failed, okIff, okUp⟩ := ih (attempt + 1) (waiting * 2)
    have shifted (k : Nat) : attempt + 1 + k = attempt + (k + 1) := by omega
    unfold waitLoop
    cases up : version attempt
    · simp only [Bool.false_eq_true, if_false, List.iterate, List.cons_prefix_cons, true_and,
        List.length_cons]
      refine ⟨prefixed, ?_, ?_, fun ok => shifted _ ▸ okUp ok⟩
      · intro k below
        cases k with
        | zero => exact up
        | succ k => exact shifted k ▸ failed k (by omega)
      · rw [okIff]
        constructor
        · rintro ⟨k, le, found⟩
          exact ⟨k + 1, by omega, shifted k ▸ found⟩
        · rintro ⟨k, le, found⟩
          cases k with
          | zero => simp [up] at found
          | succ k => exact ⟨k, by omega, (shifted k).symm ▸ found⟩
    · simpa [up] using ⟨0, Nat.zero_le _, up⟩

/-! ## The server's parameters and the clients' configurations -/

section Fixture

variable (fx : Fixture)

/-- `root_dir.join(file)`, then `to_str().ok_or(..)?`: a file of the test crate, its path as a
`String`. -/
def certificatePath (file : String) : Except ClientError (List UInt8) :=
  match toStr (join fx.rootDir (asciiBytes file)) with
  | some path => pure path
  | none => throw (.default "Can't convert path to string")

/-- The `ClapConfig` of `generate_server_params`. -/
def clapConfigFor (port : UInt16) (useJwtToken useHttps useClientCert : Bool) : ClapConfig :=
  { fx.clapConfigDefault with
    auth := if useJwtToken then fx.auth0JwtConfig else fx.jwtAuthConfigDefault
    db := { fx.dbConfigDefault with databaseType := some "sqlite-enc", clearDatabase := true }
    http :=
      if useHttps then
        if useClientCert then
          { fx.httpConfigDefault with
            port
            httpsP12File :=
              some (join fx.rootDir (asciiBytes "certificates/server/kmserver.acme.com.p12"))
            httpsP12Password := some "password"
            authorityCertFile := some (join fx.rootDir (asciiBytes "certificates/server/ca.crt")) }
        else
          { fx.httpConfigDefault with
            port
            httpsP12File :=
              some (join fx.rootDir (asciiBytes "certificates/server/kmserver.acme.com.p12"))
            httpsP12Password := some "password" }
      else { fx.httpConfigDefault with port } }

/-- `generate_server_params`. -/
def generateServerParams (w : TestWorld) (port : UInt16) (useJwtToken useHttps useClientCert : Bool) :
    Except ClientError ServerParams :=
  (tryFrom w.config (clapConfigFor fx port useJwtToken useHttps useClientCert)).mapError fun e =>
    .default ("failed initializing the server config: " ++ w.displayKmsError e)

/-- `owner_client_conf` of `generate_owner_conf`, given the path of the owner's PKCS#12 file. -/
def ownerClientConf (serverParams : ServerParams) (sslClientPkcs12Path : Option (List UInt8)) :
    ClientConf :=
  { fx.clientConfDefault with
    kmsServerUrl :=
      if serverParams.httpParams matches .https _ then "https://0.0.0.0:" ++ toString serverParams.port
      else "http://0.0.0.0:" ++ toString serverParams.port
    acceptInvalidCerts := true
    kmsAccessToken :=
      if serverParams.identityProviderConfigurations.isSome then some fx.auth0Token else none
    sslClientPkcs12Path
    sslClientPkcs12Password := if serverParams.clientCert.isSome then some "password" else none }

/-- `generate_owner_conf`: writes the owner's configuration and returns it with its path. -/
def generateOwnerConf (w : TestWorld) (serverParams : ServerParams) : TestM (String × ClientConf) := do
  let ownerClientConfPath := "/tmp/owner_kms_" ++ toString serverParams.port ++ ".json"
  let sslClientPkcs12Path ← if serverParams.clientCert.isSome then
      some <$> orFail (certificatePath fx "certificates/owner/owner.client.acme.com.p12")
    else pure none
  let ownerClientConf := ownerClientConf fx serverParams sslClientPkcs12Path
  expect "Can't write owner CLI conf path" (← writeJsonObjectToFile w ownerClientConf ownerClientConfPath)
  pure (ownerClientConfPath, ownerClientConf)

/-- `generate_user_conf`: the owner's configuration with the user's certificate, written under
the user's path. -/
def generateUserConf (w : TestWorld) (port : UInt16) (ownerClientConf : ClientConf) : TestM String := do
  let sslClientPkcs12Path ← orFail (certificatePath fx "certificates/user/user.client.acme.com.p12")
  let userConf :=
    { ownerClientConf with sslClientPkcs12Path := some sslClientPkcs12Path
                           sslClientPkcs12Password := some "password" }
  let userConfPath := "/tmp/user_kms_" ++ toString port ++ ".json"
  orFail (← writeJsonObjectToFile w userConf userConfPath)
  pure userConfPath

/-- `start_test_server_with_options`. -/
def startTestServerWithOptions (w : TestWorld) (port : UInt16)
    (useJwtToken useHttps useClientCert : Bool) : TestM TestsContext := do
  let serverParams ← orFail (generateServerParams fx w port useJwtToken useHttps useClientCert)
  let (ownerClientConfPath, ownerClientConf) ← generateOwnerConf fx w serverParams
  orFail (w.initializeKmsClient ownerClientConf)
  if !w.handleSent serverParams then throw (.panic "Can't get test KMS server handle after 25 seconds")
  expect "server timeout" (waitForServerToStart w.version).2
  let databaseSecret ← orFail w.newDatabase
  let ownerClientConf := { ownerClientConf with kmsDatabaseSecret := some databaseSecret }
  expect "Can't write owner CLI conf path" (← writeJsonObjectToFile w ownerClientConf ownerClientConfPath)
  let userClientConfPath ← expectM "Can't generate user conf" (generateUserConf fx w port ownerClientConf)
  pure { ownerClientConfPath, userClientConfPath, ownerClientConf }

/-- `start_default_test_kms_server`: port 9990, no JWT, HTTPS, client certificates. -/
def startDefaultTestKmsServer (w : TestWorld) : TestM TestsContext :=
  startTestServerWithOptions fx w 9990 false true true

/-- A path under the crate's directory is UTF-8, so `to_str` finds it. -/
theorem certificatePath_eq (file : String) (utf8 : WellFormed (asciiBytes file)) :
    certificatePath fx file = .ok (join fx.rootDir (asciiBytes file)) := by
  simp [certificatePath, toStr_of_wellFormed (join_wellFormed fx.rootDirUtf8 utf8), pure,
    Except.pure]

variable {w : TestWorld} {files files' : Files}

/-- What a `generate_owner_conf` that returns wrote. -/
theorem generateOwnerConf_ok {serverParams : ServerParams} {path : String} {conf : ClientConf}
    (built : generateOwnerConf fx w serverParams files = .ok ((path, conf), files')) :
    path = "/tmp/owner_kms_" ++ toString serverParams.port ++ ".json" ∧
      conf = ownerClientConf fx serverParams (if serverParams.clientCert.isSome then
        some (join fx.rootDir (asciiBytes "certificates/owner/owner.client.acme.com.p12")) else none) ∧
      w.writeJson path conf = .ok () ∧ files' = files.write path conf := by
  have p12 := certificatePath_eq fx "certificates/owner/owner.client.acme.com.p12" (by decide)
  cases cert : serverParams.clientCert.isSome <;>
    simp only [generateOwnerConf, cert, Bool.false_eq_true, ↓reduceIte, p12, orFail_ok, map_pure,
      pure_bind, testM_bind_eq_ok, expect_eq_ok, writeJsonObjectToFile_eq_ok, testM_pure_eq_ok] at built ⊢
  all_goals
    obtain ⟨_, _, ⟨written, rfl⟩, _, _, ⟨rfl, rfl⟩, ⟨rfl, rfl⟩, rfl⟩ := built
    exact ⟨rfl, rfl, written.symm, rfl⟩

/-- What a `generate_user_conf` that returns wrote. -/
theorem generateUserConf_ok {port : UInt16} {owner : ClientConf} {path : String}
    (built : generateUserConf fx w port owner files = .ok (path, files')) :
    path = "/tmp/user_kms_" ++ toString port ++ ".json" ∧
      files' = files.write path
        { owner with
          sslClientPkcs12Path := some (join fx.rootDir (asciiBytes "certificates/user/user.client.acme.com.p12"))
          sslClientPkcs12Password := some "password" } := by
  have p12 := certificatePath_eq fx "certificates/user/user.client.acme.com.p12" (by decide)
  simp only [generateUserConf, p12, orFail_ok, pure_bind, testM_bind_eq_ok, orFail_eq_ok,
    writeJsonObjectToFile_eq_ok, testM_pure_eq_ok] at built
  obtain ⟨_, _, ⟨written, rfl⟩, _, _, ⟨rfl, rfl⟩, rfl, rfl⟩ := built
  exact ⟨rfl, by simp [← written, Except.isOk, Except.toBool]⟩

private theorem userPath_ne_ownerPath (port : UInt16) :
    "/tmp/user_kms_" ++ toString port ++ ".json" ≠ "/tmp/owner_kms_" ++ toString port ++ ".json" := by
  intro same
  simpa [String.append] using congrArg (fun path : String => path.data.get? 5) same

/-- `generate_server_params` returns the parameters `try_from` builds. -/
theorem generateServerParams_eq_ok {port : UInt16} {useJwtToken useHttps useClientCert : Bool}
    {serverParams : ServerParams} :
    generateServerParams fx w port useJwtToken useHttps useClientCert = .ok serverParams ↔
      tryFrom w.config (clapConfigFor fx port useJwtToken useHttps useClientCert) = .ok serverParams := by
  cases built : tryFrom w.config (clapConfigFor fx port useJwtToken useHttps useClientCert) <;>
    simp [generateServerParams, Except.mapError, built]

/-- The server listens on the port it is given. -/
theorem generateServerParams_port {port : UInt16} {useJwtToken useHttps useClientCert : Bool}
    {serverParams : ServerParams}
    (generated : generateServerParams fx w port useJwtToken useHttps useClientCert = .ok serverParams) :
    serverParams.port = port := by
  obtain ⟨_, _, _, _, _, -, -, -, -, -, rfl⟩ := tryFrom_eq_ok.mp ((generateServerParams_eq_ok fx).mp generated)
  unfold clapConfigFor
  split_ifs <;> rfl

/-- What a started test server leaves behind. The owner's configuration is the one
`generate_owner_conf` builds from the server's parameters, with the new database's secret, and
its file holds it. The user's file holds the same configuration with the user's certificate.
The server answered one of the first six queries. -/
theorem startTestServerWithOptions_spec (port : UInt16) (useJwtToken useHttps useClientCert : Bool)
    (ctx : TestsContext)
    (started : startTestServerWithOptions fx w port useJwtToken useHttps useClientCert files = .ok (ctx, files')) :
    ∃ serverParams databaseSecret,
      generateServerParams fx w port useJwtToken useHttps useClientCert = .ok serverParams ∧
      w.newDatabase = .ok databaseSecret ∧
      ctx.ownerClientConf =
        { ownerClientConf fx serverParams (if serverParams.clientCert.isSome then
            some (join fx.rootDir (asciiBytes "certificates/owner/owner.client.acme.com.p12")) else none) with
          kmsDatabaseSecret := some databaseSecret } ∧
      files' ctx.ownerClientConfPath = some ctx.ownerClientConf ∧
      files' ctx.userClientConfPath =
        some { ctx.ownerClientConf with
          sslClientPkcs12Path := some (join fx.rootDir (asciiBytes "certificates/user/user.client.acme.com.p12"))
          sslClientPkcs12Password := some "password" } ∧
      ∃ k ≤ 5, w.version k = true := by
  simp only [startTestServerWithOptions, testM_bind_eq_ok, orFail_eq_ok] at started
  obtain ⟨serverParams, _, ⟨generated, rfl⟩, ⟨path, conf⟩, _, owner, _, _, ⟨-, rfl⟩, rest⟩ := started
  obtain ⟨rfl, rfl, -, rfl⟩ := generateOwnerConf_ok fx owner
  split at rest
  · simp only [testM_bind_eq_ok, testM_throw_eq_ok, false_and, exists_false] at rest
  simp only [pure_bind, testM_bind_eq_ok, expect_eq_ok, orFail_eq_ok, writeJsonObjectToFile_eq_ok,
    expectM_eq_ok, testM_pure_eq_ok] at rest
  obtain ⟨_, _, ⟨up, rfl⟩, secret, _, ⟨database, rfl⟩, _, _, ⟨written, rfl⟩, _, _, ⟨rfl, rfl⟩, userPath,
    _, user, rfl, rfl⟩ := rest
  obtain ⟨rfl, rfl⟩ := generateUserConf_ok fx user
  obtain ⟨-, -, upIff, -⟩ := waitLoop_spec w.version 0 5 1
  refine ⟨serverParams, secret, generated, database, rfl, ?_, Files.write_same .., ?_⟩
  · rw [generateServerParams_port fx generated, Files.write_other _ _ (userPath_ne_ownerPath port).symm]
    simp [← written, Except.isOk, Except.toBool, Files.write_same]
  · simpa using upIff.mp up

end Fixture

/-- A world in which every effect succeeds, base64 stands for the bytes as characters, and the
JSON of the group 7 is its key. -/
def startingWorld : TestWorld where
  config := acceptingWorld
  displayKmsError _ := ""
  writeJson _ _ := .ok ()
  initializeKmsClient _ := .ok ()
  handleSent _ := true
  version n := 2 ≤ n
  newDatabase := .ok "secret"
  newRandomKey := some [1]
  b64Decode secret := some (asciiBytes secret)
  b64Encode bytes := String.mk (bytes.map fun byte => Char.ofNat byte.toNat)
  paramsFromSlice json := some ⟨7, json⟩
  paramsToString params := if params.groupId = 7 then some params.key else none

/-- No file written yet. -/
def noFiles : Files := fun _ => none

/-- The context of an owner of the default server: HTTPS on port 9990, with the owner's
certificate and the database secret `secret`. -/
def defaultContext : TestsContext where
  ownerClientConfPath := "/tmp/owner_kms_9990.json"
  userClientConfPath := "/tmp/user_kms_9990.json"
  ownerClientConf :=
    ⟨"https://0.0.0.0:9990", true, none,
      some (join (asciiBytes "/kms/test_server") (asciiBytes "certificates/owner/owner.client.acme.com.p12")),
      some "password", some "secret"⟩

/-- `generate_invalid_conf`: the configuration with a database secret whose key is a new random
one, written under `/tmp/invalid_conf.json`. -/
def generateInvalidConf (w : TestWorld) (correctConf : ClientConf) : TestM String := do
  let dbKey ← expectSome "Failed to generate rand bytes for generate_invalid_conf" w.newRandomKey
  let invalidConfPath := "/tmp/invalid_conf.json"
  let secret ← expectSome "missing database secret" correctConf.kmsDatabaseSecret
  let secrets ← expectSome "Can't decode token" (w.b64Decode secret)
  let secrets ← expectSome "Can't deserialized token" (w.paramsFromSlice secrets)
  let json ← expectSome "Can't encode token" (w.paramsToString { secrets with key := dbKey })
  let invalidConf := { correctConf with kmsDatabaseSecret := some (w.b64Encode json) }
  expect "Can't write CONF_PATH_BAD_KEY" (← writeJsonObjectToFile w invalidConf invalidConfPath)
  pure invalidConfPath

/-- The group and the key a configuration's database secret names. -/
def databaseParams (w : TestWorld) (conf : ClientConf) : Option ExtraDatabaseParams :=
  conf.kmsDatabaseSecret >>= w.b64Decode >>= w.paramsFromSlice

/-- When base64 and the JSON of `ExtraDatabaseParams` read back what they wrote, the configuration
`generate_invalid_conf` writes is the correct one but for its database secret. That secret names
the correct one's group with a new random key, so it is invalid exactly when that key is not the
database's. -/
theorem generateInvalidConf_spec {w : TestWorld} {correctConf : ClientConf} {path : String}
    {files files' : Files}
    (b64RoundTrip : ∀ bytes, w.b64Decode (w.b64Encode bytes) = some bytes)
    (jsonRoundTrip : ∀ params json, w.paramsToString params = some json →
      w.paramsFromSlice json = some params)
    (generated : generateInvalidConf w correctConf files = .ok (path, files')) :
    path = "/tmp/invalid_conf.json" ∧
      ∃ invalidConf dbKey params, w.newRandomKey = some dbKey ∧ files' path = some invalidConf ∧
        { invalidConf with kmsDatabaseSecret := correctConf.kmsDatabaseSecret } = correctConf ∧
        databaseParams w correctConf = some params ∧
        databaseParams w invalidConf = some { params with key := dbKey } := by
  simp only [generateInvalidConf, testM_bind_eq_ok, expectSome_eq_ok, expect_eq_ok,
    writeJsonObjectToFile_eq_ok, testM_pure_eq_ok] at generated
  obtain ⟨dbKey, _, ⟨random, rfl⟩, secret, _, ⟨stored, rfl⟩, bytes, _, ⟨decoded, rfl⟩, params, _,
    ⟨parsed, rfl⟩, json, _, ⟨encoded, rfl⟩, _, _, ⟨-, rfl⟩, _, _, ⟨rfl, rfl⟩, rfl, rfl⟩ := generated
  refine ⟨rfl, { correctConf with kmsDatabaseSecret := some (w.b64Encode json) }, dbKey, params, random,
    by simp [Except.isOk, Except.toBool, Files.write_same], rfl, ?_, ?_⟩
  · simp [databaseParams, stored, decoded, parsed]
  · simp [databaseParams, b64RoundTrip, jsonRoundTrip _ _ encoded]

/-- In `startingWorld`, base64 stands for the bytes as characters; they read back. -/
theorem startingWorld_b64_roundTrip (bytes : List UInt8) :
    startingWorld.b64Decode (startingWorld.b64Encode bytes) = some bytes := by
  have byte (b : UInt8) : (Char.ofNat b.toNat).toNat.toUInt8 = b := by
    have lt : b.toNat < 256 := b.toNat_lt_size
    have valid : Nat.isValidChar b.toNat := Or.inl (by omega)
    simp only [Char.ofNat, valid, Char.ofNatAux, Char.toNat, dite_true]
    exact UInt8.toNat.inj (UInt8.toNat_ofNat_of_lt lt)
  simp [startingWorld, asciiBytes, Function.comp_def, byte]

/-- In `startingWorld`, the JSON of the group 7 is its key; it reads back. -/
theorem startingWorld_json_roundTrip (params : ExtraDatabaseParams) (json : List UInt8)
    (written : startingWorld.paramsToString params = some json) :
    startingWorld.paramsFromSlice json = some params := by
  simp only [startingWorld, Option.ite_none_right_eq_some, Option.some.injEq] at written ⊢
  obtain ⟨group, rfl⟩ := written
  rw [← group]

/-- The files once the invalid configuration of the default server's owner is written. -/
def invalidFiles : Files :=
  noFiles.write "/tmp/invalid_conf.json"
    { defaultContext.ownerClientConf with kmsDatabaseSecret := some (startingWorld.b64Encode [1]) }

theorem invalid_conf_of_default_owner :
    ((∀ bytes, startingWorld.b64Decode (startingWorld.b64Encode bytes) = some bytes) ∧
      (∀ params json, startingWorld.paramsToString params = some json →
        startingWorld.paramsFromSlice json = some params) ∧
      generateInvalidConf startingWorld defaultContext.ownerClientConf noFiles =
        .ok ("/tmp/invalid_conf.json", invalidFiles)) ∧
    ("/tmp/invalid_conf.json" = "/tmp/invalid_conf.json" ∧
      ∃ invalidConf dbKey params, startingWorld.newRandomKey = some dbKey ∧
        invalidFiles "/tmp/invalid_conf.json" = some invalidConf ∧
        { invalidConf with kmsDatabaseSecret := defaultContext.ownerClientConf.kmsDatabaseSecret } =
          defaultContext.ownerClientConf ∧
        databaseParams startingWorld defaultContext.ownerClientConf = some params ∧
        databaseParams startingWorld invalidConf = some { params with key := dbKey }) :=
  have generated : generateInvalidConf startingWorld defaultContext.ownerClientConf noFiles =
      .ok ("/tmp/invalid_conf.json", invalidFiles) := rfl
  ⟨⟨startingWorld_b64_roundTrip, startingWorld_json_roundTrip, generated⟩,
    generateInvalidConf_spec startingWorld_b64_roundTrip startingWorld_json_roundTrip generated⟩

end Kms.TestServer
