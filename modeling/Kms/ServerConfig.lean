import Kms.Utf8Lossy

/-! How the server gets its parameters. `main` (`server/src/main.rs`) picks the configuration:
the TOML file `COSMIAN_KMS_CONF` names, which must exist; else `/etc/cosmian_kms/server.toml`
when it exists; else the command line. `ServerParams::try_from`
(`server/src/config/params/server_params.rs`) then builds the parameters the server runs with.
What lies outside these two files is a field of `ConfigWorld` or `Env`.

`tryFrom_clientCert` says that client certificates are verified exactly when the configuration
names an authority certificate, and then only over HTTPS. The partial `Clone` drops the database
parameters and the PKCS#12 identity but keeps the client certificate, so the clone of parameters
that verify client certificates breaks that rule (`clone_breaks_clientCert_rule`).
`startEnv_process_wins` is the start-up of `main` before it reads `COSMIAN_KMS_CONF`: `.env` sets
no variable the process has, and never `RUST_LOG` or `RUST_BACKTRACE`, since `main` gives both a
default before it loads the file. -/
namespace Kms.ServerConfig
open Utf8Lossy

/-! ## Configuration and parameters -/

/-- `DBConfig`. Paths are their bytes. -/
structure DBConfig where
  databaseType : Option String
  databaseUrl : Option String
  sqlitePath : List UInt8
  redisMasterPassword : Option String
  redisFindexLabel : Option String
  clearDatabase : Bool
  deriving DecidableEq

/-- `HttpConfig`. -/
structure HttpConfig where
  port : UInt16
  hostname : String
  httpsP12File : Option (List UInt8)
  httpsP12Password : Option String
  authorityCertFile : Option (List UInt8)
  deriving DecidableEq

/-- `JwtAuthConfig`. -/
structure JwtAuthConfig where
  jwtIssuerUri : Option (List String)
  jwksUri : Option (List String)
  jwtAudience : Option (List String)
  deriving DecidableEq

/-- `WorkspaceConfig`. -/
structure WorkspaceConfig where
  rootDataPath : List UInt8
  tmpPath : List UInt8
  deriving DecidableEq

/-- `ClapConfig`: the server's configuration, from the command line or from a TOML file. -/
structure ClapConfig where
  db : DBConfig
  http : HttpConfig
  auth : JwtAuthConfig
  workspace : WorkspaceConfig
  defaultUsername : String
  forceDefaultUsername : Bool
  googleCseKaclsUrl : Option String
  msDkeServiceUrl : Option String
  deriving DecidableEq

/-- `ParsedPkcs12_2`: the server's TLS identity. Defined outside these files, and only moved
here. -/
structure ParsedPkcs12 where
  der : List UInt8
  deriving DecidableEq

/-- `HttpParams`: TLS with the server's identity, or plain HTTP. -/
inductive HttpParams where
  | https (p12 : ParsedPkcs12)
  | http
  deriving DecidableEq

/-- `HttpParams::is_running_https`. -/
def HttpParams.isRunningHttps : HttpParams → Bool
  | .https _ => true
  | .http => false

/-- `openssl::x509::X509`: a parsed certificate, only moved here. -/
structure X509 where
  der : List UInt8
  deriving DecidableEq

/-- `IdpConfig`: one identity provider's settings, only moved here. -/
structure IdpConfig where
  jwtIssuerUri : String
  deriving DecidableEq

/-- `DbParams`: the database `DBConfig::init` chose, only moved here. -/
structure DbParams where
  description : String
  deriving DecidableEq

/-- `ServerParams`. -/
structure ServerParams where
  identityProviderConfigurations : Option (List IdpConfig)
  defaultUsername : String
  forceDefaultUsername : Bool
  dbParams : Option DbParams
  clearDbOnStart : Bool
  hostname : String
  port : UInt16
  httpParams : HttpParams
  clientCert : Option X509
  googleCseKaclsUrl : Option String
  msDkeServiceUrl : Option String
  deriving DecidableEq

/-- `KmsError`: `ServerError` with its message, or the error of a step outside these files, as
the text it displays. -/
inductive KmsError where
  | serverError (message : String)
  | other (display : String)
  deriving DecidableEq

/-- What `ServerParams::try_from` reads outside `server_params.rs`. -/
structure ConfigWorld where
  /-- `HttpParams::try_from(&conf.http)`. -/
  httpParamsTryFrom : HttpConfig → Except KmsError HttpParams
  /-- `File::open`, then `read_to_end`. -/
  readFile : List UInt8 → Except KmsError (List UInt8)
  /-- `X509::from_pem`. -/
  x509FromPem : List UInt8 → Except KmsError X509
  /-- `JwtAuthConfig::extract_idp_configs`. -/
  extractIdpConfigs : JwtAuthConfig → Except KmsError (Option (List IdpConfig))
  /-- `WorkspaceConfig::init`. -/
  workspaceInit : WorkspaceConfig → Except KmsError WorkspaceConfig
  /-- `DBConfig::init`, in the initialised workspace. -/
  dbInit : DBConfig → WorkspaceConfig → Except KmsError (Option DbParams)

/-! ## `ServerParams::try_from` -/

/-- `ServerParams::load_cert`. -/
def loadCert (w : ConfigWorld) (authorityCertFile : List UInt8) : Except KmsError X509 := do
  let pemBytes ← w.readFile authorityCertFile
  w.x509FromPem pemBytes

/-- The message of an authority certificate under plain HTTP. -/
def httpsOnlyMessage : String :=
  "The authority certificate file can only be used when the server is running in HTTPS mode"

/-- `verify_cert` of `try_from`: the authority certificate is loaded over HTTPS and refused
otherwise (`.map(..).transpose()?`). -/
def verifyCert (w : ConfigWorld) (httpParams : HttpParams) :
    Option (List UInt8) → Except KmsError (Option X509)
  | none => pure none
  | some certFile =>
    some <$> if httpParams.isRunningHttps then loadCert w certFile
      else throw (.serverError httpsOnlyMessage)

/-- `ServerParams::try_from`. The fields are computed in the order the struct literal lists them:
the identity providers, then the workspace and the database. -/
def tryFrom (w : ConfigWorld) (conf : ClapConfig) : Except KmsError ServerParams := do
  let httpParams ← w.httpParamsTryFrom conf.http
  let verifyCert ← verifyCert w httpParams conf.http.authorityCertFile
  let identityProviderConfigurations ← w.extractIdpConfigs conf.auth
  let dbParams ← w.dbInit conf.db (← w.workspaceInit conf.workspace)
  pure {
    identityProviderConfigurations, dbParams, httpParams
    clearDbOnStart := conf.db.clearDatabase
    hostname := conf.http.hostname
    port := conf.http.port
    defaultUsername := conf.defaultUsername
    forceDefaultUsername := conf.forceDefaultUsername
    clientCert := verifyCert
    googleCseKaclsUrl := conf.googleCseKaclsUrl
    msDkeServiceUrl := conf.msDkeServiceUrl }

/-- `<ServerParams as Clone>::clone`, a partial clone: "the `DbParams` and PKCS#12 information is
not copied since it may contain sensitive material". -/
def ServerParams.clone (p : ServerParams) : ServerParams where
  identityProviderConfigurations := p.identityProviderConfigurations
  defaultUsername := p.defaultUsername
  forceDefaultUsername := p.forceDefaultUsername
  dbParams := none
  clearDbOnStart := p.clearDbOnStart
  hostname := p.hostname
  port := p.port
  httpParams := .http
  clientCert := p.clientCert
  googleCseKaclsUrl := p.googleCseKaclsUrl
  msDkeServiceUrl := p.msDkeServiceUrl

/-- The `kms_url` field `<ServerParams as Debug>::fmt` prints. -/
def ServerParams.kmsUrl (p : ServerParams) : String :=
  "http" ++ (if p.httpParams.isRunningHttps then "s" else "") ++ "://" ++ p.hostname ++ ":" ++
    toString p.port

/-- What `try_from` enforces of the client certificate: one is verified only over HTTPS. -/
def ClientCertNeedsHttps (p : ServerParams) : Prop :=
  p.clientCert.isSome → p.httpParams.isRunningHttps

instance (p : ServerParams) : Decidable (ClientCertNeedsHttps p) :=
  inferInstanceAs (Decidable (p.clientCert.isSome → p.httpParams.isRunningHttps))

variable {w : ConfigWorld} {conf : ClapConfig} {p : ServerParams} {httpParams : HttpParams}
  {certFile : Option (List UInt8)} {cert : Option X509}

/-- A `do` block that returns: each step did. -/
theorem except_bind_eq_ok {ε α β : Type} {x : Except ε α} {f : α → Except ε β} {b : β} :
    x.bind f = .ok b ↔ ∃ a, x = .ok a ∧ f a = .ok b := by
  cases x <;> simp [Except.bind]

/-- Everything a successful `try_from` did. -/
theorem tryFrom_eq_ok : tryFrom w conf = .ok p ↔
    ∃ httpParams verified idps workspace dbParams,
      w.httpParamsTryFrom conf.http = .ok httpParams ∧
      verifyCert w httpParams conf.http.authorityCertFile = .ok verified ∧
      w.extractIdpConfigs conf.auth = .ok idps ∧ w.workspaceInit conf.workspace = .ok workspace ∧
      w.dbInit conf.db workspace = .ok dbParams ∧
      p = { identityProviderConfigurations := idps, dbParams, httpParams
            clearDbOnStart := conf.db.clearDatabase, hostname := conf.http.hostname
            port := conf.http.port, defaultUsername := conf.defaultUsername
            forceDefaultUsername := conf.forceDefaultUsername, clientCert := verified
            googleCseKaclsUrl := conf.googleCseKaclsUrl, msDkeServiceUrl := conf.msDkeServiceUrl } := by
  simp only [tryFrom, bind, pure, Except.pure, except_bind_eq_ok, Except.ok.injEq]
  constructor
  · rintro ⟨h, hOk, v, vOk, i, iOk, ws, wsOk, d, dOk, rfl⟩
    exact ⟨h, v, i, ws, d, hOk, vOk, iOk, wsOk, dOk, rfl⟩
  · rintro ⟨h, v, i, ws, d, hOk, vOk, iOk, wsOk, dOk, rfl⟩
    exact ⟨h, hOk, v, vOk, i, iOk, ws, wsOk, d, dOk, rfl⟩

/-- A verified certificate comes from a named file, over HTTPS. -/
theorem verifyCert_eq_ok (verified : verifyCert w httpParams certFile = .ok cert) :
    (cert.isSome ↔ certFile.isSome) ∧ (cert.isSome → httpParams.isRunningHttps) := by
  cases certFile with
  | none => cases verified; simp
  | some file =>
    simp only [verifyCert] at verified
    split at verified
    · rename_i https
      cases loaded : loadCert w file <;> simp [loaded, Functor.map, Except.map] at verified
      simp [← verified, https]
    · cases verified

/-- An authority certificate under plain HTTP is refused, with its message. -/
theorem verifyCert_http (file : List UInt8) :
    verifyCert w .http (some file) = .error (.serverError httpsOnlyMessage) := rfl

/-- Client certificates are verified exactly when the configuration names an authority
certificate, and then only over HTTPS. -/
theorem tryFrom_clientCert (built : tryFrom w conf = .ok p) :
    (p.clientCert.isSome ↔ conf.http.authorityCertFile.isSome) ∧ ClientCertNeedsHttps p := by
  obtain ⟨_, _, _, _, _, -, certOk, -, -, -, rfl⟩ := tryFrom_eq_ok.mp built
  exact verifyCert_eq_ok certOk

/-- Over plain HTTP an authority certificate stops `try_from`, whatever else is configured. -/
theorem tryFrom_authority_without_https (file : List UInt8)
    (named : conf.http.authorityCertFile = some file) (plain : w.httpParamsTryFrom conf.http = .ok .http) :
    tryFrom w conf = .error (.serverError httpsOnlyMessage) := by
  simp [tryFrom, plain, named, verifyCert_http, bind, Except.bind]

/-! ## The partial clone -/

/-- A clone runs plain HTTP and keeps the client certificate: it meets the rule of `try_from`
only when there is no certificate. -/
theorem clone_clientCertNeedsHttps_iff : ClientCertNeedsHttps p.clone ↔ p.clientCert = none := by
  simp [ClientCertNeedsHttps, ServerParams.clone, HttpParams.isRunningHttps, Option.isSome_iff_ne_none]

/-- A world in which every step succeeds, `HttpParams::try_from` serving HTTPS exactly when a
PKCS#12 file is named. -/
def acceptingWorld : ConfigWorld where
  httpParamsTryFrom http := .ok (if http.httpsP12File.isSome then .https ⟨[]⟩ else .http)
  readFile path := .ok path
  x509FromPem pem := .ok ⟨pem⟩
  extractIdpConfigs _ := .ok none
  workspaceInit workspace := .ok workspace
  dbInit _ _ := .ok none

/-- A configuration that serves HTTPS and verifies client certificates. -/
def tlsConf : ClapConfig where
  db := ⟨some "sqlite", none, [], none, none, false⟩
  http := ⟨443, "kms.acme.com", some (asciiBytes "server.p12"), some "password",
    some (asciiBytes "ca.crt")⟩
  auth := ⟨none, none, none⟩
  workspace := ⟨[], []⟩
  defaultUsername := "admin"
  forceDefaultUsername := false
  googleCseKaclsUrl := none
  msDkeServiceUrl := none

/-- The parameters `try_from` builds from `tlsConf` in `acceptingWorld`. -/
def tlsParams : ServerParams where
  identityProviderConfigurations := none
  defaultUsername := "admin"
  forceDefaultUsername := false
  dbParams := none
  clearDbOnStart := false
  hostname := "kms.acme.com"
  port := 443
  httpParams := .https ⟨[]⟩
  clientCert := some ⟨asciiBytes "ca.crt"⟩
  googleCseKaclsUrl := none
  msDkeServiceUrl := none

/-- `KMS_SERVER_CONF`. -/
def kmsServerConf : List UInt8 := asciiBytes "/etc/cosmian_kms/server.toml"

/-- What `main` reads of the process before it builds the parameters. -/
structure Env where
  /-- The bytes of `COSMIAN_KMS_CONF` once `.env` is loaded, `none` when it is unset. -/
  cosmianKmsConf : Option (List UInt8)
  /-- `Path::exists`. -/
  pathExists : List UInt8 → Bool
  /-- `std::fs::read_to_string`, its error as `{e:?}` prints it. -/
  readToString : List UInt8 → Except String String
  /-- `toml::from_str::<ClapConfig>`, its error as `{e:?}` prints it. -/
  fromToml : String → Except String ClapConfig
  /-- `ClapConfig::parse()`: the command line and environment, or `none` where clap ends the
  process (`--help`, `--version`, or arguments it refuses). -/
  parse : Option ClapConfig

/-- `std::env::var`: the value when it is UTF-8; an unset variable and one that is not UTF-8 both
give `Err`. -/
def envVar (value : Option (List UInt8)) : Option (List UInt8) :=
  value.bind fun bytes => if WellFormed bytes then some bytes else none

/-! ## Start-up

Before it reads `COSMIAN_KMS_CONF`, `main` gives `RUST_BACKTRACE` and `RUST_LOG` a value when
`std::env::var` finds none, then loads `.env` with `dotenvy`. That loader sets a variable only where
`std::env::var` finds none too, so the first declaration of a name in the file wins. -/

/-- `if std::env::var(key).is_err() { std::env::set_var(key, value) }`, on the process's
variables, `none` for an unset one. -/
def setIfUnset (vars : String → Option (List UInt8)) (key : String) (value : List UInt8) :
    String → Option (List UInt8) :=
  if envVar (vars key) = none then Function.update vars key (some value) else vars

/-- The filter `main` gives `RUST_LOG` when it has none. -/
def defaultRustLog : String :=
  "info,cosmian=info,cosmian_kms_server=info, actix_web=info,sqlx::query=error,mysql=info"

/-- `dotenv().ok()`: the declarations of `.env`, in order, as far as `dotenvy` reads before an
error, which `.ok()` drops. -/
def loadDotenv (declared : List (String × List UInt8)) (vars : String → Option (List UInt8)) :
    String → Option (List UInt8) :=
  declared.foldl (fun vars d => setIfUnset vars d.1 d.2) vars

/-- The variables of `main` once its defaults are set and `.env` is loaded: where
`Env.cosmianKmsConf` is read. -/
def startEnv (declared : List (String × List UInt8)) (vars : String → Option (List UInt8)) :
    String → Option (List UInt8) :=
  loadDotenv declared
    (setIfUnset (setIfUnset vars "RUST_BACKTRACE" (asciiBytes "1")) "RUST_LOG" (asciiBytes defaultRustLog))

section StartUp

variable {vars : String → Option (List UInt8)} {key name : String} {value found : List UInt8}

theorem setIfUnset_other (other : key ≠ name) : setIfUnset vars key value name = vars name := by
  unfold setIfUnset
  split_ifs <;> simp [Function.update_noteq (Ne.symm other)]

/-- A variable `std::env::var` reads keeps its value. -/
theorem envVar_setIfUnset_of_some (read : envVar (vars name) = some found) :
    envVar (setIfUnset vars key value name) = some found := by
  by_cases same : key = name
  · subst same
    simp [setIfUnset, read]
  · rwa [setIfUnset_other same]

theorem envVar_setIfUnset_self (utf8 : WellFormed value) :
    envVar (setIfUnset vars key value key) = some ((envVar (vars key)).getD value) := by
  cases read : envVar (vars key) with
  | none =>
    rw [setIfUnset, if_pos read, Function.update_same]
    simp [envVar, utf8]
  | some found => exact envVar_setIfUnset_of_some read

/-- `.env` changes no variable `std::env::var` reads. -/
theorem envVar_loadDotenv_of_some (declared : List (String × List UInt8))
    (read : envVar (vars name) = some found) : envVar (loadDotenv declared vars name) = some found := by
  induction declared generalizing vars with
  | nil => exact read
  | cons d rest ih => exact ih (envVar_setIfUnset_of_some read)

end StartUp

/-- **Start-up.** Whatever `.env` declares, every variable the process sets to UTF-8 keeps its
value, and `RUST_BACKTRACE` and `RUST_LOG` are the process's when UTF-8, else `main`'s defaults:
`.env` never sets either. -/
theorem startEnv_process_wins (declared : List (String × List UInt8)) (vars : String → Option (List UInt8)) :
    (∀ name found, envVar (vars name) = some found → envVar (startEnv declared vars name) = some found) ∧
      envVar (startEnv declared vars "RUST_BACKTRACE") =
        some ((envVar (vars "RUST_BACKTRACE")).getD (asciiBytes "1")) ∧
      envVar (startEnv declared vars "RUST_LOG") =
        some ((envVar (vars "RUST_LOG")).getD (asciiBytes defaultRustLog)) := by
  have logKept : setIfUnset vars "RUST_BACKTRACE" (asciiBytes "1") "RUST_LOG" = vars "RUST_LOG" :=
    setIfUnset_other (by decide)
  refine ⟨fun name found read => envVar_loadDotenv_of_some declared
      (envVar_setIfUnset_of_some (envVar_setIfUnset_of_some read)),
    envVar_loadDotenv_of_some declared (envVar_setIfUnset_of_some (envVar_setIfUnset_self (by decide))),
    envVar_loadDotenv_of_some declared ?_⟩
  rw [envVar_setIfUnset_self (by decide), logKept]

/-- How `main` ends before the server starts. -/
inductive Outcome where
  /-- clap ended the process. -/
  | exit
  /-- `main` returned an error. -/
  | error (e : KmsError)
  /-- `start_kms_server` is called with these parameters. -/
  | start (params : ServerParams)
  deriving DecidableEq

section Main

/- `<PathBuf as Debug>::fmt`: the path quoted and escaped. -/
variable (pathDebug : List UInt8 → String)

/-- The configuration file `main` settles on: the one `COSMIAN_KMS_CONF` names, which must exist,
or `KMS_SERVER_CONF`. -/
def confPath (env : Env) : Except KmsError (List UInt8) :=
  match envVar env.cosmianKmsConf with
  | some confPath =>
    if !env.pathExists confPath then
      throw (.serverError ("Cannot read kms server config at specified path: " ++
        pathDebug confPath ++ " - file does not exist"))
    else pure confPath
  | none => pure kmsServerConf

/-- The `ClapConfig` of `main`: the file's when it exists, after a parse of the command line
that only catches `--help` and `--version`; the command line's otherwise. `none` where clap ends
the process. -/
def clapConfig (env : Env) (conf : List UInt8) : Option (Except KmsError ClapConfig) :=
  if env.pathExists conf then
    env.parse.map fun _ => do
      let confContent ← (env.readToString conf).mapError fun e =>
        .serverError ("Cannot read kms server config at: " ++ pathDebug conf ++ " - " ++ e)
      (env.fromToml confContent).mapError fun e =>
        .serverError ("Cannot parse kms server config at: " ++ pathDebug conf ++ " - " ++ e)
  else env.parse.map pure

/-- `main`, up to `start_kms_server`. -/
def main (w : ConfigWorld) (env : Env) : Outcome :=
  match confPath pathDebug env with
  | .error e => .error e
  | .ok conf =>
    match clapConfig pathDebug env conf with
    | none => .exit
    | some (.error e) => .error e
    | some (.ok clapConfig) =>
      match tryFrom w clapConfig with
      | .error e => .error e
      | .ok serverParams => .start serverParams

end Main

end Kms.ServerConfig
