import Kms.Utf8Lossy
import Kms.OsPath
import Kms.HashMap

/-! `cli/src/actions/google/keypairs/insert_keypairs.rs`, and the Gmail client of
`gmail_client/client_builder.rs` it posts through. What lies outside the program is a field of
`World`: the file system, the token service and the Gmail API. `run` returns the calls it makes
to `post_keypairs`, each with the cert file that the index `email_cert_file_map[email]` resolves
to, and how it ended: `Ok`, an error propagated by `?`, or a panic. -/
namespace Kms.InsertKeypairs
open Utf8Lossy OsPath

/-- The `CliError` variants a run can return. Those converted by `?` from a library's error keep
no payload, since nothing here reads it. -/
inductive CliError where
  /-- `CliError::Conversion`. -/
  | conversion (message : String)
  /-- From `std::io::Error`. -/
  | io
  /-- From `serde_json::Error`. -/
  | serde
  /-- From `GoogleApiError`: the token request, a request that could not be sent, or a response
  whose body could not be read. -/
  | googleApi
  /-- `CliError::GmailApiError`: the message of an error the Gmail API answered. -/
  | gmailApiError (message : String)
  deriving DecidableEq, Repr

/-- How a run ends when it does not return `Ok`. -/
inductive Failure where
  /-- An `Err` returned through `?`. -/
  | error (e : CliError)
  /-- A panic, such as indexing a map under a missing key. -/
  | panic
  deriving DecidableEq, Repr

/-- `KeyFile`: the JSON of a wrapped key file. -/
structure KeyFile where
  kaclsUrl : String
  wrappedPrivateKey : String
  deriving DecidableEq, Repr

/-- `KaclsKeyMetadata`. -/
structure KaclsKeyMetadata where
  kaclsUri : String
  kaclsData : String
  deriving DecidableEq, Repr

/-- `PrivateKeyMetadata`. -/
structure PrivateKeyMetadata where
  kaclsKeyMetadata : KaclsKeyMetadata
  deriving DecidableEq, Repr

/-- `KeyPairInfo`: the body posted for one user, sent as its JSON. -/
structure KeyPairInfo where
  pkcs7 : String
  privateKeyMetadata : List PrivateKeyMetadata
  deriving DecidableEq, Repr

/-- `GmailClient`: the bearer token and the URL every request is made under. -/
structure GmailClient where
  token : String
  baseUrl : String
  deriving DecidableEq, Repr

/-- A request as `GmailClient::post` sends it. -/
structure Request where
  url : String
  token : String
  body : KeyPairInfo
  deriving DecidableEq, Repr

/-- A response of the Gmail API: its status, and its body as `Response::text` reads it. -/
structure Response where
  status : UInt16
  text : Except CliError String

/-- What a run reads from outside the program. -/
structure World where
  /-- `ServiceAccount::load_from_config(conf_path)`, then `retrieve_token` for a user. -/
  serviceAccountToken : List UInt8 → String → Except CliError String
  /-- `fs::read_dir`: the entries of a directory, `none` for one the iterator failed to read. -/
  readDir : List UInt8 → Except CliError (List (Option FileName))
  /-- `Path::is_file`: the path is a regular file, symbolic links followed. -/
  isFile : PathBuf → Bool
  /-- `File::open`, then `read_to_string`. -/
  readToString : PathBuf → Except CliError String
  /-- `serde_json::from_str::<KeyFile>`. -/
  parseKeyFile : String → Except CliError KeyFile
  /-- The Gmail API: its response, or an error when the request cannot be sent. -/
  send : Request → Except CliError Response
  /-- `Response::json::<RequestError>` of an error body: its `error.message`. -/
  requestErrorMessage : String → Except CliError String

/-- `InsertKeypairsAction`: the command line of `keypairs insert`. -/
structure InsertKeypairsAction where
  userId : String
  inkeydir : List UInt8
  incertdir : List UInt8

/-- The extension of wrapped key files. -/
def wrapExt : List UInt8 := asciiBytes "wrap"

/-- The extension of certificate files. -/
def p7pemExt : List UInt8 := asciiBytes "p7pem"

/-- `GmailClient::new`: the builder loads the service account and asks a token for the user;
requests then go under the user's Gmail API root. -/
def gmailClientNew (w : World) (confPath : List UInt8) (userId : String) :
    Except CliError GmailClient := do
  let token ← w.serviceAccountToken confPath userId
  pure { token, baseUrl := "https://gmail.googleapis.com/gmail/v1/users/" ++ userId }

/-- `GmailClient::post`. -/
def GmailClient.post (w : World) (client : GmailClient) (endpoint : String)
    (content : KeyPairInfo) : Except CliError Response :=
  w.send { url := client.baseUrl ++ endpoint, token := client.token, body := content }

/-- `GmailClient::handle_response`: a success status prints the body; any other status is the
`GmailApiError` of the body's `error.message`. -/
def handleResponse (w : World) (response : Response) : Except CliError Unit :=
  if 200 ≤ response.status ∧ response.status ≤ 299 then response.text.map fun _ => ()
  else do
    let message ← response.text >>= w.requestErrorMessage
    throw (.gmailApiError message)

/-- `get_input_files`: the paths of the entries of `indir` that are files with extension `ext`.
An entry the iterator fails to read is dropped (`entry.ok()`). -/
def getInputFiles (w : World) (indir ext : List UInt8) : Except CliError (List PathBuf) := do
  let fullNames := (← w.readDir indir).filterMap fun entry => entry.map (PathBuf.mk indir)
  let allFiles := fullNames.filter w.isFile
  pure (allFiles.filter fun f => (f.extension.map (· == ext)).getD false)

/-- One pass of the loop of `get_email_to_file`: the lossy file name is cut at its last dot, the
front is the email, and the file is recorded under it unless the back is not `.` and `ext`.
(The message of the error also shows the path; that branch is never taken, see
`getEmailToFile_ok`.) -/
def emailToFileStep (ext : List UInt8) (emailFileMap : HashMap (List UInt8) PathBuf)
    (file : PathBuf) : Except CliError (HashMap (List UInt8) PathBuf) := do
  let fname ← match file.fileName with
    | some name => pure (toStringLossy name)
    | none => throw (.conversion "cannot get file name from input file")
  match rfind fname dot with
  | none => pure emailFileMap
  | some idx =>
    let (email, xtn) := fname.splitAt idx
    if xtn.isEmpty || xtn.drop 1 != ext then pure emailFileMap
    else pure (emailFileMap.insert email file)

/-- `get_email_to_file`. -/
def getEmailToFile (files : List PathBuf) (ext : List UInt8) :
    Except CliError (HashMap (List UInt8) PathBuf) :=
  files.foldlM (emailToFileStep ext) HashMap.empty

/-- A `Result<_, CliError>` as a step of a run that may also panic. -/
def cli {α : Type} (result : Except CliError α) : Except Failure α := result.mapError .error

/-- `map[key]`: the value, or a panic (`no entry found for key`). -/
def index (m : HashMap (List UInt8) PathBuf) (key : List UInt8) : Except Failure PathBuf :=
  match m.get? key with
  | some file => pure file
  | none => throw .panic

section

/- `KEYPAIRS_ENDPOINT`, a constant of the parent module. -/
variable (keypairsEndpoint : String)

/-- `post_keypairs`: reads and parses the key file, reads the cert file the email indexes, and
posts both as one `KeyPairInfo`. What `handle_response` makes of the response is only printed:
once the request is sent the call returns `Ok`. -/
def postKeypairs (w : World) (gmailClient : GmailClient)
    (emailCertFileMap : HashMap (List UInt8) PathBuf) (email : List UInt8) (keyFile : PathBuf) :
    Except Failure Unit := do
  let keyFile ← cli (w.readToString keyFile)
  let keyFile ← cli (w.parseKeyFile keyFile)
  let pkcs7 ← cli (w.readToString (← index emailCertFileMap email))
  let keyPairInfo : KeyPairInfo :=
    { pkcs7, privateKeyMetadata := [⟨⟨keyFile.kaclsUrl, keyFile.wrappedPrivateKey⟩⟩] }
  let response ← cli (gmailClient.post w keypairsEndpoint keyPairInfo)
  let _printed := handleResponse w response
  pure ()

/-- What one call of `post_keypairs` is given: the email and the key file, with the cert file its
index `email_cert_file_map[email]` resolves to (`none` where the index panics). -/
structure PostCall where
  email : List UInt8
  keyFile : PathBuf
  certFile : Option PathBuf
  deriving DecidableEq

/-- The `for` loop of `run` over the entries of the key map, in the order iteration hands them
out: an email without a cert file is skipped, the others go to `post_keypairs` until one call
fails. Returns the calls made and how the loop ended. -/
def postEach (post : List UInt8 → PathBuf → Except Failure Unit)
    (emailCertFileMap : HashMap (List UInt8) PathBuf) :
    List (List UInt8 × PathBuf) → List PostCall × Except Failure Unit
  | [] => ([], .ok ())
  | (email, keyFile) :: rest =>
    if !emailCertFileMap.containsKey email then postEach post emailCertFileMap rest
    else
      let call : PostCall := ⟨email, keyFile, emailCertFileMap.get? email⟩
      match post email keyFile with
      | .error failure => ([call], .error failure)
      | .ok () =>
        let (calls, outcome) := postEach post emailCertFileMap rest
        (call :: calls, outcome)

/-- What `run` does before its loop: the client, the two file lists and the two maps. -/
def prepare (self : InsertKeypairsAction) (w : World) (confPath : List UInt8) :
    Except CliError (GmailClient × HashMap (List UInt8) PathBuf × HashMap (List UInt8) PathBuf) := do
  let gmailClient ← gmailClientNew w confPath self.userId
  let wrappedKeyFiles ← getInputFiles w self.inkeydir wrapExt
  let p7CertFiles ← getInputFiles w self.incertdir p7pemExt
  let emailKeyFileMap ← getEmailToFile wrappedKeyFiles wrapExt
  let emailCertFileMap ← getEmailToFile p7CertFiles p7pemExt
  pure (gmailClient, emailKeyFileMap, emailCertFileMap)

/-- `InsertKeypairsAction::run`, with the map iterated in the order `order` picks. -/
def run (self : InsertKeypairsAction) (w : World) (confPath : List UInt8)
    (order : IterOrder (List UInt8 × PathBuf)) : List PostCall × Except Failure Unit :=
  match prepare self w confPath with
  | .error e => ([], .error (.error e))
  | .ok (gmailClient, emailKeyFileMap, emailCertFileMap) =>
    postEach (postKeypairs keypairsEndpoint w gmailClient emailCertFileMap) emailCertFileMap
      (emailKeyFileMap.iter order)

end

end Kms.InsertKeypairs
