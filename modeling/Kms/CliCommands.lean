import Kms.Utf8Lossy

/-! The command lines of the CLI's tests, `cli/src/tests`. `import_key` (`shared/import.rs`) runs
`<sub_command> keys import` of the CLI's binary and reads the imported key's id from its output.
`encrypt` and `decrypt` (`certificates/encrypt.rs`) run `encrypt` and `decrypt` of the
certificates' subcommand. Each builds its arguments as a vector of strings and runs the binary
with the configuration's path in its environment. A failed run becomes `CliError::Default` with
the binary's standard error. The binary, its output, two constants of other crates and the
extraction of the id lie outside the files and are fields of `World`.

The binary reads its arguments with clap, whose option tables lie outside the files too.
`readArgs` is that reading, over a table `Options` of the options that take a value and the
flags. An option that takes a value takes the next token, which must not look like an option.
`--` ends the options, and every token after it is a positional value. A token naming a flag is
that flag, any other token that looks like an option is refused, and the rest are positional
values. `importKey_ok` says that an id `import_key` returns was printed by a successful run of
the binary that was asked exactly what `import_key` was given. It needs the proviso that neither
the key file, the key id, a tag nor a key usage looks like an option. Without it the key id is
lost: `optionLike_keyId_never_read` says a key id that looks like an option never reaches the
binary when the key file does not look like one, whatever options `keys import` has; `-u` is read
as the unwrap flag, and after a key file `--` the key id does get through. `cipherFile_ok` says
the same of `encrypt` and `decrypt`: they return `Ok` only when the binary succeeded, asked for
the key, the input file, the output file and the authentication data they were given. -/
namespace Kms.CliCommands
open Utf8Lossy

/-! ### Reading a command line -/

/-- Whether clap takes a token for an option or a flag rather than a value: it starts with a
dash and is not the lone `-`. -/
def looksLikeOption (token : String) : Bool :=
  match token.toList with
  | '-' :: _ :: _ => true
  | _ => false

/-- One item of a command line as clap reads it: a positional value, an option with its value,
or a flag. -/
inductive Arg where
  | value (text : String)
  | option (name value : String)
  | flag (name : String)
  deriving DecidableEq, Repr

/-- The tokens of an item. -/
def Arg.render : Arg → List String
  | .value text => [text]
  | .option name given => [name, given]
  | .flag name => [name]

/-- Options of one name, given each value of a list in turn. -/
@[simp] theorem flatMap_render_options (name : String) (values : List String) :
    (values.map (Arg.option name)).flatMap Arg.render = values.flatMap fun given => [name, given] := by
  induction values with
  | nil => rfl
  | cons given rest ih => simp only [List.map_cons, List.flatMap_cons, ih, Arg.render]

/-- The options of a subcommand as clap knows them: those that take a value, and flags. -/
structure Options where
  valued : List String
  flags : List String

/-- A table clap could be given: every name looks like an option, no flag also takes a value, and
none is `--`. -/
def Options.Sane (options : Options) : Prop :=
  (∀ name ∈ options.valued, looksLikeOption name = true) ∧
    (∀ name ∈ options.flags, looksLikeOption name = true ∧ name ∉ options.valued) ∧
    "--" ∉ options.valued ∧ "--" ∉ options.flags

/-- `options` knows at least the options of `smaller`. -/
def Options.Extends (smaller options : Options) : Prop :=
  smaller.valued ⊆ options.valued ∧ smaller.flags ⊆ options.flags

/-- clap's reading of a subcommand's tokens. A token naming an option that takes a value takes
the next token, which must not look like an option. `--` ends the options: every token after it
is a positional value. A token naming a flag is that flag, and any other token that looks like an
option is refused. The rest are positional values. `none` is clap's error. -/
def readArgs (options : Options) : List String → Option (List Arg)
  | [] => some []
  | token :: rest =>
    if token ∈ options.valued then
      match rest with
      | value :: rest =>
        if looksLikeOption value then none else (readArgs options rest).map (.option token value :: ·)
      | [] => none
    else if token = "--" then some (rest.map .value)
    else if looksLikeOption token then
      if token ∈ options.flags then (readArgs options rest).map (.flag token :: ·) else none
    else (readArgs options rest).map (.value token :: ·)

/-- clap's reading of a command line that names the subcommands `names` and then gives their
arguments. -/
def readSubcommand (names : List String) (options : Options) (tokens : List String) :
    Option (List Arg) :=
  if names <+: tokens then readArgs options (tokens.drop names.length) else none

/-- An item that clap reads back as itself. -/
def Arg.Readable (options : Options) : Arg → Prop
  | .value text => looksLikeOption text = false
  | .option name given => name ∈ options.valued ∧ looksLikeOption given = false
  | .flag name =>
    name ∉ options.valued ∧ name ≠ "--" ∧ looksLikeOption name = true ∧ name ∈ options.flags

/-- An item named by an option or a flag the subcommand knows, whatever its value. -/
def Arg.Named (options : Options) : Arg → Prop
  | .value _ => False
  | .option name _ => name ∈ options.valued
  | .flag name => name ∈ options.flags

section Reading

variable {options : Options} {token : String} {rest : List String}

theorem ne_dashDash_of_not_option (notOption : looksLikeOption token = false) : token ≠ "--" := by
  rintro rfl
  exact absurd notOption (by decide)

theorem readArgs_value (notValued : token ∉ options.valued)
    (notOption : looksLikeOption token = false) :
    readArgs options (token :: rest) = (readArgs options rest).map (.value token :: ·) := by
  cases rest <;> simp [readArgs, notValued, notOption, ne_dashDash_of_not_option notOption]

theorem readArgs_flag (notValued : token ∉ options.valued) (notDash : token ≠ "--")
    (isOption : looksLikeOption token = true) (known : token ∈ options.flags) :
    readArgs options (token :: rest) = (readArgs options rest).map (.flag token :: ·) := by
  cases rest <;> simp [readArgs, notValued, notDash, isOption, known]

theorem readArgs_option {given : String} (isValued : token ∈ options.valued)
    (notOption : looksLikeOption given = false) :
    readArgs options (token :: given :: rest) =
      (readArgs options rest).map (.option token given :: ·) := by
  simp [readArgs, isValued, notOption]

/-- An option that takes a value refuses the end of the line or a token that looks like an
option. -/
theorem readArgs_valued_refused (isValued : token ∈ options.valued)
    (next : ∀ given ∈ rest.head?, looksLikeOption given = true) :
    readArgs options (token :: rest) = none := by
  cases rest with
  | nil => simp [readArgs, isValued]
  | cons given rest => simp [readArgs, isValued, next given rfl]

theorem readArgs_dashDash (notValued : "--" ∉ options.valued) :
    readArgs options ("--" :: rest) = some (rest.map .value) := by
  cases rest <;> simp [readArgs, notValued]

theorem readArgs_unknown (notValued : token ∉ options.valued) (notDash : token ≠ "--")
    (isOption : looksLikeOption token = true) (unknown : token ∉ options.flags) :
    readArgs options (token :: rest) = none := by
  cases rest <;> simp [readArgs, notValued, notDash, isOption, unknown]

/-- Items that each read back as themselves are read back together: clap splits the tokens where
they were joined. -/
theorem readArgs_render (optionNames : ∀ name ∈ options.valued, looksLikeOption name = true) :
    ∀ args : List Arg, (∀ a ∈ args, a.Readable options) →
      readArgs options (args.flatMap Arg.render) = some args
  | [], _ => rfl
  | a :: rest, readable => by
    have tail := readArgs_render optionNames rest fun b mem => readable b (.tail a mem)
    have head := readable a (.head rest)
    cases a with
    | value text =>
      have notValued : text ∉ options.valued := fun mem => by
        simp only [Arg.Readable, optionNames text mem, Bool.true_eq_false] at head
      simp only [List.flatMap_cons, Arg.render, List.singleton_append, readArgs_value notValued head,
        tail, Option.map_some']
    | option name given =>
      simp only [List.flatMap_cons, Arg.render, List.cons_append, List.nil_append,
        readArgs_option head.1 head.2, tail, Option.map_some']
    | flag name =>
      simp only [List.flatMap_cons, Arg.render, List.singleton_append,
        readArgs_flag head.1 head.2.1 head.2.2.1 head.2.2.2, tail, Option.map_some']

variable (sane : options.Sane)
include sane

/-- The first token of items the subcommand knows by name looks like an option and is not
`--`. -/
theorem head_render_named :
    ∀ items : List Arg, (∀ a ∈ items, a.Named options) →
      ∀ given ∈ (items.flatMap Arg.render).head?, looksLikeOption given = true ∧ given ≠ "--"
  | [], _ => by simp
  | a :: rest, named => by
    have head := named a (.head rest)
    cases a with
    | value text => exact absurd head id
    | option name given =>
      simpa [Arg.render] using ⟨sane.1 name head, fun same => sane.2.2.1 (same ▸ head)⟩
    | flag name =>
      simpa [Arg.render] using ⟨(sane.2.1 name head).1, fun same => sane.2.2.2 (same ▸ head)⟩

/-- Items the subcommand knows by name are read as themselves, or not at all: a value that looks
like an option makes clap refuse the line. -/
theorem readArgs_named :
    ∀ items : List Arg, (∀ a ∈ items, a.Named options) →
      ∀ args : List Arg, readArgs options (items.flatMap Arg.render) = some args → args = items
  | [], _, _, read => by simpa [readArgs] using read.symm
  | a :: rest, named, args, read => by
    have tail := readArgs_named rest fun b mem => named b (.tail a mem)
    have head := named a (.head rest)
    cases a with
    | value text => exact absurd head id
    | option name given =>
      cases notOption : looksLikeOption given
      · rw [List.flatMap_cons, Arg.render, List.cons_append, List.cons_append, List.nil_append,
          readArgs_option head notOption] at read
        obtain ⟨items, readRest, rfl⟩ := Option.map_eq_some'.mp read
        rw [tail items readRest]
      · rw [List.flatMap_cons, Arg.render, List.cons_append, List.cons_append,
          readArgs_valued_refused head (by simp [notOption])] at read
        cases read
    | flag name =>
      have flagged := sane.2.1 name head
      rw [List.flatMap_cons, Arg.render, List.singleton_append,
        readArgs_flag flagged.2 (fun same => sane.2.2.2 (same ▸ head)) flagged.1 head] at read
      obtain ⟨items, readRest, rfl⟩ := Option.map_eq_some'.mp read
      rw [tail items readRest]

omit sane

theorem readArgs_of_readSubcommand {names tokens : List String} {args : List Arg}
    (read : readSubcommand names options tokens = some args) :
    readArgs options (tokens.drop names.length) = some args := by
  unfold readSubcommand at read
  split_ifs at read
  exact read

theorem readSubcommand_render (optionNames : ∀ name ∈ options.valued, looksLikeOption name = true)
    (names : List String) {args : List Arg} (readable : ∀ a ∈ args, a.Readable options) :
    readSubcommand names options (names ++ args.flatMap Arg.render) = some args := by
  simp [readSubcommand, readArgs_render optionNames args readable]

end Reading

/-! ### The binary -/

/-- A `Command` of the CLI's binary: the variables it sets in the environment and its
arguments. -/
structure Command where
  env : List (String × String)
  args : List String
  deriving DecidableEq

/-- The `Output` of a run: whether it succeeded, and its standard output and error. -/
structure Output where
  success : Bool
  stdout : List UInt8
  stderr : List UInt8
  deriving DecidableEq

/-- `CliError`, with the variants these helpers make: `Default` with its message, the
conversion of a `Utf8Error`, and that of the error of `Command::cargo_bin`. A string made from
the binary's output is its bytes. -/
inductive CliError where
  | default (message : List UInt8)
  | utf8
  | cargo (display : String)
  deriving DecidableEq

/-- What the helpers take from outside their files. -/
structure World where
  /-- `Command::cargo_bin(PROG_NAME)`, its error converted by `?`. -/
  cargoBin : Except CliError Unit
  /-- `KMS_CLI_CONF_ENV`. -/
  kmsCliConfEnv : String
  /-- `SUB_COMMAND` of the certificates' tests. -/
  subCommand : String
  /-- `recover_cmd_logs`: runs the command and returns its output. -/
  recoverCmdLogs : Command → Output
  /-- `extract_imported_key_id`. -/
  extractImportedKeyId : List UInt8 → Option (List UInt8)

/-- `std::str::from_utf8(..)?`. -/
def fromUtf8 (bytes : List UInt8) : Except CliError (List UInt8) :=
  if WellFormed bytes then .ok bytes else .error .utf8

/-- The command the helpers run: the CLI's configuration and `RUST_LOG` in the environment, then
the subcommand and the arguments. -/
def cliCommand (w : World) (cliConfPath subCommand : String) (args : List String) : Command where
  env := [(w.kmsCliConfEnv, cliConfPath), ("RUST_LOG", "cosmian_kms_cli=info")]
  args := subCommand :: args

/-- A failed run: `CliError::Default` with the standard error, once it is found UTF-8. -/
def runError {α : Type} (output : Output) : Except CliError α := do
  throw (.default (← fromUtf8 output.stderr))

/-! ### `import_key` -/

/-- `ImportKeyFormat`. -/
inductive ImportKeyFormat where
  | jsonTtlv
  | pem
  | sec1
  | pkcs1Priv
  | pkcs1Pub
  | pkcs8
  | spki
  | aes
  | chacha20
  deriving DecidableEq, Repr

/-- `kfs`: the text `import_key` passes after `--key-format`. -/
def ImportKeyFormat.kfs : ImportKeyFormat → String
  | .jsonTtlv => "json-ttlv"
  | .pem => "pem"
  | .sec1 => "sec1"
  | .pkcs1Priv => "pkcs1-priv"
  | .pkcs1Pub => "pkcs1-pub"
  | .pkcs8 => "pkcs8"
  | .spki => "spki"
  | .aes => "aes"
  | .chacha20 => "chacha20"

/-- The vector `args` of `import_key`. A key usage is the text its `into()` gives. -/
def importKeyArgs (keyFile : String) (keyFormat : Option ImportKeyFormat) (keyId : Option String)
    (tags : List String) (keyUsageVec : Option (List String)) (unwrap replaceExisting : Bool) :
    List String :=
  ["keys", "import", keyFile] ++ keyId.toList ++ tags.flatMap (fun tag => ["--tag", tag]) ++
    (keyFormat.map fun keyFormat => ["--key-format", keyFormat.kfs]).getD [] ++
    (keyUsageVec.getD []).flatMap (fun keyUsage => ["--key-usage", keyUsage]) ++
    (if unwrap then ["-u"] else []) ++ (if replaceExisting then ["-r"] else [])

/-- `import_key`: the imported key's id, read from the standard output of a successful run. -/
def importKey (w : World) (cliConfPath subCommand keyFile : String)
    (keyFormat : Option ImportKeyFormat) (keyId : Option String) (tags : List String)
    (keyUsageVec : Option (List String)) (unwrap replaceExisting : Bool) :
    Except CliError (List UInt8) := do
  w.cargoBin
  let output := w.recoverCmdLogs (cliCommand w cliConfPath subCommand
    (importKeyArgs keyFile keyFormat keyId tags keyUsageVec unwrap replaceExisting))
  if output.success then
    let importOutput ← fromUtf8 output.stdout
    match w.extractImportedKeyId importOutput with
    | some importedKeyId => pure importedKeyId
    | none => throw (.default (asciiBytes "failed extracting the imported key id"))
  else runError output

/-! ### `encrypt` and `decrypt` -/

/-- The vector `args` of `encrypt` and `decrypt`: the action, the option naming the key and the
key, the input file, then `-o` and `-a` when given. -/
def cipherArgs (action keyOption keyId inputFile : String)
    (outputFile authenticationData : Option String) : List String :=
  [action, keyOption, keyId, inputFile] ++
    (outputFile.map fun outputFile => ["-o", outputFile]).getD [] ++
    (authenticationData.map fun authenticationData => ["-a", authenticationData]).getD []

/-- `encrypt` and `decrypt`, given the action and the option naming the key: `Ok(())` when the
run succeeds. -/
def cipherFile (w : World) (action keyOption cliConfPath inputFile keyId : String)
    (outputFile authenticationData : Option String) : Except CliError Unit := do
  w.cargoBin
  let output := w.recoverCmdLogs (cliCommand w cliConfPath w.subCommand
    (cipherArgs action keyOption keyId inputFile outputFile authenticationData))
  if output.success then pure () else runError output

/-- `encrypt`: the input file encrypted under the certificate `certificate_id`. -/
def encrypt (w : World) (cliConfPath inputFile certificateId : String)
    (outputFile authenticationData : Option String) : Except CliError Unit :=
  cipherFile w "encrypt" "--certificate-id" cliConfPath inputFile certificateId outputFile
    authenticationData

/-- `decrypt`: the input file decrypted with the private key `private_key_id`. -/
def decrypt (w : World) (cliConfPath inputFile privateKeyId : String)
    (outputFile authenticationData : Option String) : Except CliError Unit :=
  cipherFile w "decrypt" "--key-id" cliConfPath inputFile privateKeyId outputFile
    authenticationData

/-! ### What the binary is asked -/

/-- What `keys import` is asked: its positional key file and key id, the values of `--tag`,
`--key-format` and `--key-usage`, and the flags `-u` and `-r`. -/
structure ImportRequest where
  keyFile : String
  keyId : Option String
  tags : List String
  keyFormat : Option String
  keyUsage : List String
  unwrap : Bool
  replaceExisting : Bool
  deriving DecidableEq, Repr

/-- The options of `keys import` that `import_key` passes: those it gives a value, and the flags
`-u` and `-r`. -/
def importOptions : Options := ⟨["--tag", "--key-format", "--key-usage"], ["-u", "-r"]⟩

theorem importOptions_sane : importOptions.Sane := by
  unfold Options.Sane
  decide

/-- The text of a positional value. -/
def Arg.positional : Arg → Option String
  | .value text => some text
  | _ => none

/-- The value given to the option `name`. -/
def Arg.valueOf (name : String) : Arg → Option String
  | .option given text => if given = name then some text else none
  | _ => none

/-- Whether the item is the flag `name`. -/
def Arg.isFlag (name : String) : Arg → Bool
  | .flag given => given == name
  | _ => false

section Projections

variable (name : String) (values : List String)

@[simp] theorem filterMap_positional_values :
    (values.map Arg.value).filterMap Arg.positional = values := by
  simp [List.filterMap_map, Function.comp_def, Arg.positional]

@[simp] theorem filterMap_positional_options :
    (values.map (Arg.option name)).filterMap Arg.positional = [] :=
  List.filterMap_eq_nil_iff.mpr fun _ mem => by
    obtain ⟨_, _, rfl⟩ := List.mem_map.mp mem
    rfl

@[simp] theorem filterMap_valueOf_options (other : String) :
    (values.map (Arg.option name)).filterMap (Arg.valueOf other) = if name = other then values else [] := by
  induction values with
  | nil => simp
  | cons given rest ih => by_cases same : name = other <;> simp_all [Arg.valueOf]

@[simp] theorem any_isFlag_options (flag : String) :
    (values.map (Arg.option name)).any (Arg.isFlag flag) = false := by
  simp [Arg.isFlag]

end Projections

/-- The request clap fills from the items of `keys import`: one or two positional values, the
values of a repeated option in order, at most one value of `--key-format`, and whether each flag
is given. -/
def importRequest (args : List Arg) : Option ImportRequest := do
  let (keyFile, keyId) ← match args.filterMap Arg.positional with
    | [keyFile] => some (keyFile, none)
    | [keyFile, keyId] => some (keyFile, some keyId)
    | _ => none
  let keyFormat ← match args.filterMap (Arg.valueOf "--key-format") with
    | [] => some none
    | [keyFormat] => some (some keyFormat)
    | _ => none
  pure
    { keyFile, keyId, keyFormat
      tags := args.filterMap (Arg.valueOf "--tag")
      keyUsage := args.filterMap (Arg.valueOf "--key-usage")
      unwrap := args.any (Arg.isFlag "-u")
      replaceExisting := args.any (Arg.isFlag "-r") }

/-- The key id clap fills in is the second positional value it read. -/
theorem importRequest_keyId {args : List Arg} {request : ImportRequest}
    (read : importRequest args = some request) :
    request.keyId = (args.filterMap Arg.positional).tail.head? := by
  rcases listed : args.filterMap Arg.positional with _ | ⟨keyFile, _ | ⟨keyId, _ | ⟨_, _⟩⟩⟩ <;>
    simp only [importRequest, listed, Option.pure_def, Option.bind_eq_bind, Option.some_bind,
      Option.none_bind, reduceCtorEq] at read <;> split at read <;> cases read <;> rfl

/-- Items named by options and flags hold no positional value. -/
theorem filterMap_positional_named {options : Options} {items : List Arg}
    (named : ∀ a ∈ items, a.Named options) : items.filterMap Arg.positional = [] :=
  List.filterMap_eq_nil_iff.mpr fun a mem => by
    cases a with
    | value text => exact absurd (named _ mem) id
    | option name given => rfl
    | flag name => rfl

/-- The items `import_key` passes after its key file and key id: the tags, the key format, the
key usages and the two flags. -/
def importOptionItems (keyFormat : Option ImportKeyFormat) (tags : List String)
    (keyUsageVec : Option (List String)) (unwrap replaceExisting : Bool) : List Arg :=
  tags.map (.option "--tag") ++
    keyFormat.toList.map (fun keyFormat => .option "--key-format" keyFormat.kfs) ++
    (keyUsageVec.getD []).map (.option "--key-usage") ++
    (if unwrap then [.flag "-u"] else []) ++ (if replaceExisting then [.flag "-r"] else [])

/-- The items `import_key` passes after `keys import`. -/
def importKeyItems (keyFile : String) (keyFormat : Option ImportKeyFormat) (keyId : Option String)
    (tags : List String) (keyUsageVec : Option (List String)) (unwrap replaceExisting : Bool) :
    List Arg :=
  .value keyFile :: keyId.toList.map .value ++
    importOptionItems keyFormat tags keyUsageVec unwrap replaceExisting

section ImportKey

variable (keyFile : String) (keyFormat : Option ImportKeyFormat) (keyId : Option String)
  (tags : List String) (keyUsageVec : Option (List String)) (unwrap replaceExisting : Bool)

theorem importKeyArgs_eq_render :
    importKeyArgs keyFile keyFormat keyId tags keyUsageVec unwrap replaceExisting =
      ["keys", "import"] ++
        (importKeyItems keyFile keyFormat keyId tags keyUsageVec unwrap replaceExisting).flatMap
          Arg.render := by
  cases keyId <;> cases keyFormat <;> cases unwrap <;> cases replaceExisting <;>
    simp [importKeyArgs, importKeyItems, importOptionItems, List.flatMap_append, Arg.render]

theorem kfs_not_option (keyFormat : ImportKeyFormat) : looksLikeOption keyFormat.kfs = false := by
  cases keyFormat <;> rfl

variable {keyFile keyFormat keyId tags keyUsageVec unwrap replaceExisting} in
theorem importKeyItems_readable (fileValue : looksLikeOption keyFile = false)
    (idValue : ∀ id ∈ keyId, looksLikeOption id = false)
    (tagValues : ∀ tag ∈ tags, looksLikeOption tag = false)
    (usageValues : ∀ keyUsage ∈ keyUsageVec.getD [], looksLikeOption keyUsage = false) :
    ∀ a ∈ importKeyItems keyFile keyFormat keyId tags keyUsageVec unwrap replaceExisting,
      a.Readable importOptions := by
  intro a mem
  simp only [importKeyItems, importOptionItems, List.mem_append, List.mem_cons, List.mem_map,
    Option.mem_toList, List.mem_ite_nil_right, List.not_mem_nil, or_false] at mem
  rcases mem with
    (rfl | ⟨id, mem, rfl⟩) | (((⟨tag, mem, rfl⟩ | ⟨keyFormat, -, rfl⟩) | ⟨keyUsage, mem, rfl⟩) |
      ⟨-, rfl⟩) | ⟨-, rfl⟩
  · exact fileValue
  · exact idValue id mem
  · exact ⟨by decide, tagValues tag mem⟩
  · exact ⟨by decide, kfs_not_option keyFormat⟩
  · exact ⟨by decide, usageValues keyUsage mem⟩
  all_goals exact ⟨by decide, by decide, rfl, by decide⟩

theorem importRequest_items :
    importRequest (importKeyItems keyFile keyFormat keyId tags keyUsageVec unwrap replaceExisting) =
      some { keyFile, keyId, tags, keyFormat := keyFormat.map ImportKeyFormat.kfs
             keyUsage := keyUsageVec.getD [], unwrap, replaceExisting } := by
  cases keyId <;> cases keyFormat <;> cases unwrap <;> cases replaceExisting <;>
    simp [importRequest, importKeyItems, importOptionItems, List.filterMap_append, Arg.positional,
      Arg.valueOf, Arg.isFlag, List.any_append, -List.filterMap_map, -List.any_map]

variable {keyFormat tags keyUsageVec unwrap replaceExisting} in
/-- The tags, key format, key usages and flags are named by options any table that knows
`import_key`'s own knows, whatever their values. -/
theorem importOptionItems_named {options : Options} (knows : importOptions.Extends options) :
    ∀ a ∈ importOptionItems keyFormat tags keyUsageVec unwrap replaceExisting, a.Named options := by
  intro a mem
  simp only [importOptionItems, List.mem_append, List.mem_map, Option.mem_toList,
    List.mem_ite_nil_right, List.mem_singleton] at mem
  rcases mem with (((⟨_, -, rfl⟩ | ⟨_, -, rfl⟩) | ⟨_, -, rfl⟩) | ⟨-, rfl⟩) | ⟨-, rfl⟩
  all_goals first | exact knows.1 (by decide) | exact knows.2 (by decide)

variable {keyFile keyFormat keyId tags keyUsageVec unwrap replaceExisting} in
/-- The binary reads back what `import_key` was given, when none of the values looks like an
option. -/
theorem importKeyArgs_read (fileValue : looksLikeOption keyFile = false)
    (idValue : ∀ id ∈ keyId, looksLikeOption id = false)
    (tagValues : ∀ tag ∈ tags, looksLikeOption tag = false)
    (usageValues : ∀ keyUsage ∈ keyUsageVec.getD [], looksLikeOption keyUsage = false)
    (names : List String) :
    (readSubcommand (names ++ ["keys", "import"]) importOptions
        (names ++ importKeyArgs keyFile keyFormat keyId tags keyUsageVec unwrap replaceExisting)).bind
      importRequest =
      some ⟨keyFile, keyId, tags, keyFormat.map ImportKeyFormat.kfs, keyUsageVec.getD [], unwrap,
        replaceExisting⟩ := by
  rw [importKeyArgs_eq_render, ← List.append_assoc,
    readSubcommand_render importOptions_sane.1 _
      (importKeyItems_readable fileValue idValue tagValues usageValues),
    Option.some_bind, importRequest_items]

end ImportKey

section Runs

variable {w : World} {cliConfPath subCommand keyFile : String} {keyFormat : Option ImportKeyFormat}
  {keyId : Option String} {tags : List String} {keyUsageVec : Option (List String)}
  {unwrap replaceExisting : Bool} {importedKeyId : List UInt8}

theorem runError_ne_ok {α : Type} (output : Output) (a : α) : runError output ≠ .ok a := by
  unfold runError fromUtf8
  split <;> simp [bind, Except.bind, throw, throwThe, MonadExceptOf.throw]

theorem importKey_eq_ok :
    importKey w cliConfPath subCommand keyFile keyFormat keyId tags keyUsageVec unwrap
        replaceExisting = .ok importedKeyId ↔
      w.cargoBin = .ok () ∧
        (w.recoverCmdLogs (cliCommand w cliConfPath subCommand
          (importKeyArgs keyFile keyFormat keyId tags keyUsageVec unwrap replaceExisting))).success ∧
        WellFormed (w.recoverCmdLogs (cliCommand w cliConfPath subCommand
          (importKeyArgs keyFile keyFormat keyId tags keyUsageVec unwrap replaceExisting))).stdout ∧
        w.extractImportedKeyId (w.recoverCmdLogs (cliCommand w cliConfPath subCommand
          (importKeyArgs keyFile keyFormat keyId tags keyUsageVec unwrap replaceExisting))).stdout =
            some importedKeyId := by
  unfold importKey
  generalize w.recoverCmdLogs _ = output
  rcases w.cargoBin with e | ⟨⟩
  · simp [bind, Except.bind]
  simp only [bind, Except.bind, true_and]
  cases success : output.success
  · simpa using runError_ne_ok output importedKeyId
  · unfold fromUtf8
    by_cases wf : WellFormed output.stdout
    · simp only [wf, ↓reduceIte, true_and]
      split <;> simp_all [pure, Except.pure, throw, throwThe, MonadExceptOf.throw]
    · simp [wf]

/-- An id `import_key` returns was printed by a successful run of the binary. The run had the
CLI's configuration in its environment and asked exactly what `import_key` was given: the key
file, the key id, the tags, the key format's text, the key usages and the two flags. -/
theorem importKey_ok (fileValue : looksLikeOption keyFile = false)
    (idValue : ∀ id ∈ keyId, looksLikeOption id = false)
    (tagValues : ∀ tag ∈ tags, looksLikeOption tag = false)
    (usageValues : ∀ keyUsage ∈ keyUsageVec.getD [], looksLikeOption keyUsage = false)
    (imported : importKey w cliConfPath subCommand keyFile keyFormat keyId tags keyUsageVec unwrap
      replaceExisting = .ok importedKeyId) :
    ∃ command : Command,
      command.env = [(w.kmsCliConfEnv, cliConfPath), ("RUST_LOG", "cosmian_kms_cli=info")] ∧
      (readSubcommand [subCommand, "keys", "import"] importOptions command.args).bind importRequest =
        some ⟨keyFile, keyId, tags, keyFormat.map ImportKeyFormat.kfs, keyUsageVec.getD [], unwrap,
          replaceExisting⟩ ∧
      (w.recoverCmdLogs command).success ∧ WellFormed (w.recoverCmdLogs command).stdout ∧
      w.extractImportedKeyId (w.recoverCmdLogs command).stdout = some importedKeyId := by
  obtain ⟨-, success, wf, extracted⟩ := importKey_eq_ok.mp imported
  exact ⟨cliCommand w cliConfPath subCommand
    (importKeyArgs keyFile keyFormat keyId tags keyUsageVec unwrap replaceExisting), rfl,
    importKeyArgs_read fileValue idValue tagValues usageValues [subCommand], success, wf, extracted⟩

end Runs

/-- A binary that succeeds on every command and prints `1`, which is read as the imported key's
id. -/
def succeedingWorld : World where
  cargoBin := .ok ()
  kmsCliConfEnv := "KMS_CLI_CONF"
  subCommand := "certificates"
  recoverCmdLogs _ := ⟨true, [0x31], []⟩
  extractImportedKeyId text := some text

theorem pem_import_asks_its_inputs :
    (looksLikeOption "key.pem" = false ∧ (∀ id ∈ some "my-key", looksLikeOption id = false) ∧
      (∀ tag ∈ ["external"], looksLikeOption tag = false) ∧
      (∀ keyUsage ∈ (none : Option (List String)).getD [], looksLikeOption keyUsage = false) ∧
      importKey succeedingWorld "conf.toml" "ec" "key.pem" (some .pem) (some "my-key") ["external"]
        none false true = .ok [0x31]) ∧
    ∃ command : Command,
      command.env = [(succeedingWorld.kmsCliConfEnv, "conf.toml"), ("RUST_LOG", "cosmian_kms_cli=info")] ∧
      (readSubcommand ["ec", "keys", "import"] importOptions command.args).bind importRequest =
        some ⟨"key.pem", some "my-key", ["external"], some "pem", [], false, true⟩ ∧
      (succeedingWorld.recoverCmdLogs command).success ∧
      WellFormed (succeedingWorld.recoverCmdLogs command).stdout ∧
      succeedingWorld.extractImportedKeyId (succeedingWorld.recoverCmdLogs command).stdout = some [0x31] :=
  have fileValue : looksLikeOption "key.pem" = false := rfl
  have idValue : ∀ id ∈ some "my-key", looksLikeOption id = false := by decide
  have tagValues : ∀ tag ∈ ["external"], looksLikeOption tag = false := by decide
  have usageValues : ∀ keyUsage ∈ (none : Option (List String)).getD [],
      looksLikeOption keyUsage = false := by decide
  have imported : importKey succeedingWorld "conf.toml" "ec" "key.pem" (some .pem) (some "my-key")
      ["external"] none false true = .ok [0x31] := rfl
  ⟨⟨fileValue, idValue, tagValues, usageValues, imported⟩,
    importKey_ok fileValue idValue tagValues usageValues imported⟩

/-- A key id that looks like an option never reaches the binary as the key id, whatever else
`import_key` is given and whatever other options `keys import` has, as long as the key file does
not look like an option: clap reads the key id as a flag, as `--` (after which the key id is the
next token, an option's name), or not at all. -/
theorem optionLike_keyId_never_read (options : Options) (sane : options.Sane)
    (knows : importOptions.Extends options) (w : World) (cliConfPath subCommand keyFile : String)
    (keyFormat : Option ImportKeyFormat) (keyId : String) (tags : List String)
    (keyUsageVec : Option (List String)) (unwrap replaceExisting : Bool)
    (fileValue : looksLikeOption keyFile = false) (optionLike : looksLikeOption keyId = true)
    (request : ImportRequest)
    (read : (readSubcommand [subCommand, "keys", "import"] options
      (cliCommand w cliConfPath subCommand
        (importKeyArgs keyFile keyFormat (some keyId) tags keyUsageVec unwrap replaceExisting)).args).bind
      importRequest = some request) :
    request.keyId ≠ some keyId := by
  obtain ⟨args, readItems, built⟩ := Option.bind_eq_some.mp read
  have named : ∀ a ∈ importOptionItems keyFormat tags keyUsageVec unwrap replaceExisting,
      a.Named options := importOptionItems_named knows
  have head := head_render_named sane _ named
  have fileNotValued : keyFile ∉ options.valued := fun mem => by
    simp [sane.1 keyFile mem] at fileValue
  have readTail : readArgs options (keyFile :: keyId ::
      (importOptionItems keyFormat tags keyUsageVec unwrap replaceExisting).flatMap Arg.render) =
        some args := by
    simpa [cliCommand, importKeyArgs_eq_render, importKeyItems, Arg.render] using
      readArgs_of_readSubcommand readItems
  rw [readArgs_value fileNotValued fileValue] at readTail
  obtain ⟨rest, readRest, rfl⟩ := Option.map_eq_some'.mp readTail
  rw [importRequest_keyId built, List.filterMap_cons, Arg.positional, List.tail_cons]
  by_cases isValued : keyId ∈ options.valued
  · rw [readArgs_valued_refused isValued fun given mem => (head given mem).1] at readRest
    cases readRest
  by_cases dash : keyId = "--"
  · subst dash
    rw [readArgs_dashDash isValued] at readRest
    cases readRest
    rw [filterMap_positional_values]
    exact fun first => (head "--" first).2 rfl
  by_cases known : keyId ∈ options.flags
  · rw [readArgs_flag isValued dash optionLike known] at readRest
    obtain ⟨items, readMore, rfl⟩ := Option.map_eq_some'.mp readRest
    rw [readArgs_named sane _ named items readMore]
    simp [Arg.positional, filterMap_positional_named named]
  · rw [readArgs_unknown isValued dash optionLike known] at readRest
    cases readRest

theorem dash_u_key_id_never_read :
    (importOptions.Sane ∧ importOptions.Extends importOptions ∧ looksLikeOption "key.pem" = false ∧
      looksLikeOption "-u" = true ∧
      (readSubcommand ["ec", "keys", "import"] importOptions
        (cliCommand succeedingWorld "conf.toml" "ec"
          (importKeyArgs "key.pem" none (some "-u") [] none false false)).args).bind importRequest =
        some ⟨"key.pem", none, [], none, [], true, false⟩) ∧
      (⟨"key.pem", none, [], none, [], true, false⟩ : ImportRequest).keyId ≠ some "-u" :=
  have knows : importOptions.Extends importOptions := ⟨fun _ => id, fun _ => id⟩
  have fileValue : looksLikeOption "key.pem" = false := rfl
  have optionLike : looksLikeOption "-u" = true := rfl
  have read : (readSubcommand ["ec", "keys", "import"] importOptions
      (cliCommand succeedingWorld "conf.toml" "ec"
        (importKeyArgs "key.pem" none (some "-u") [] none false false)).args).bind importRequest =
      some ⟨"key.pem", none, [], none, [], true, false⟩ := rfl
  ⟨⟨importOptions_sane, knows, fileValue, optionLike, read⟩,
    optionLike_keyId_never_read importOptions importOptions_sane knows succeedingWorld "conf.toml"
      "ec" "key.pem" none "-u" [] none false false fileValue optionLike _ read⟩

/-- The proviso on the key file is needed: a key file `--` ends the options, and the key id after
it reaches the binary as it is. -/
example : (readSubcommand ["ec", "keys", "import"] importOptions
    (cliCommand succeedingWorld "conf.toml" "ec"
      (importKeyArgs "--" none (some "-u") [] none true false)).args).bind importRequest =
    some ⟨"-u", some "-u", [], none, [], false, false⟩ := rfl

/-! ### What `encrypt` and `decrypt` ask -/

/-- The options of `encrypt` and `decrypt` the helpers pass, all with a value: the option naming
the key, `-o` and `-a`. -/
def cipherOptions (keyOption : String) : Options := ⟨[keyOption, "-o", "-a"], []⟩

/-- The items `encrypt` and `decrypt` pass after their action. -/
def cipherItems (keyOption keyId inputFile : String) (outputFile authenticationData : Option String) :
    List Arg :=
  [.option keyOption keyId, .value inputFile] ++ outputFile.toList.map (.option "-o") ++
    authenticationData.toList.map (.option "-a")

section Cipher

variable {w : World} {action keyOption cliConfPath inputFile keyId : String}
  {outputFile authenticationData : Option String}

theorem cipherArgs_eq_render :
    cipherArgs action keyOption keyId inputFile outputFile authenticationData =
      [action] ++ (cipherItems keyOption keyId inputFile outputFile authenticationData).flatMap
        Arg.render := by
  cases outputFile <;> cases authenticationData <;> rfl

theorem cipherItems_readable (keyValue : looksLikeOption keyId = false)
    (inputValue : looksLikeOption inputFile = false)
    (outputValue : ∀ output ∈ outputFile, looksLikeOption output = false)
    (dataValue : ∀ data ∈ authenticationData, looksLikeOption data = false) :
    ∀ a ∈ cipherItems keyOption keyId inputFile outputFile authenticationData,
      a.Readable (cipherOptions keyOption) := by
  intro a mem
  simp only [cipherItems, List.mem_append, List.mem_cons, List.mem_map, Option.mem_toList,
    List.not_mem_nil, or_false] at mem
  rcases mem with ((rfl | rfl) | ⟨output, mem, rfl⟩) | ⟨data, mem, rfl⟩
  · exact ⟨.head _, keyValue⟩
  · exact inputValue
  · exact ⟨by simp [cipherOptions], outputValue output mem⟩
  · exact ⟨by simp [cipherOptions], dataValue data mem⟩

theorem cipherFile_eq_ok :
    cipherFile w action keyOption cliConfPath inputFile keyId outputFile authenticationData = .ok () ↔
      w.cargoBin = .ok () ∧
        (w.recoverCmdLogs (cliCommand w cliConfPath w.subCommand
          (cipherArgs action keyOption keyId inputFile outputFile authenticationData))).success := by
  unfold cipherFile
  generalize w.recoverCmdLogs _ = output
  rcases w.cargoBin with e | ⟨⟩
  · simp [bind, Except.bind]
  simp only [bind, Except.bind, true_and]
  cases output.success
  · simpa using runError_ne_ok output ()
  · simp [pure, Except.pure]

/-- `encrypt` and `decrypt` return `Ok` only after a successful run of the binary. The run had the
CLI's configuration in its environment and was asked for the key under the option naming it,
the input file as the positional value, and the output file and the authentication data when
given. -/
theorem cipherFile_ok (keyOptionIsOption : looksLikeOption keyOption = true)
    (keyValue : looksLikeOption keyId = false) (inputValue : looksLikeOption inputFile = false)
    (outputValue : ∀ output ∈ outputFile, looksLikeOption output = false)
    (dataValue : ∀ data ∈ authenticationData, looksLikeOption data = false)
    (done : cipherFile w action keyOption cliConfPath inputFile keyId outputFile
      authenticationData = .ok ()) :
    ∃ command : Command,
      command.env = [(w.kmsCliConfEnv, cliConfPath), ("RUST_LOG", "cosmian_kms_cli=info")] ∧
      readSubcommand [w.subCommand, action] (cipherOptions keyOption) command.args =
        some ([.option keyOption keyId, .value inputFile] ++ outputFile.toList.map (.option "-o") ++
          authenticationData.toList.map (.option "-a")) ∧
      (w.recoverCmdLogs command).success := by
  have optionNames : ∀ name ∈ (cipherOptions keyOption).valued, looksLikeOption name = true :=
    List.forall_mem_cons.mpr ⟨keyOptionIsOption, by decide⟩
  refine ⟨_, rfl, ?_, (cipherFile_eq_ok.mp done).2⟩
  simp only [cliCommand, cipherArgs_eq_render]
  exact readSubcommand_render optionNames [w.subCommand, action]
    (cipherItems_readable keyValue inputValue outputValue dataValue)

end Cipher

theorem encrypt_asks_its_inputs :
    (looksLikeOption "--certificate-id" = true ∧ looksLikeOption "cert-id" = false ∧
      looksLikeOption "plain.txt" = false ∧ (∀ output ∈ some "plain.enc", looksLikeOption output = false) ∧
      (∀ data ∈ (none : Option String), looksLikeOption data = false) ∧
      encrypt succeedingWorld "conf.toml" "plain.txt" "cert-id" (some "plain.enc") none = .ok ()) ∧
    ∃ command : Command,
      command.env = [(succeedingWorld.kmsCliConfEnv, "conf.toml"), ("RUST_LOG", "cosmian_kms_cli=info")] ∧
      readSubcommand [succeedingWorld.subCommand, "encrypt"] (cipherOptions "--certificate-id")
          command.args =
        some [.option "--certificate-id" "cert-id", .value "plain.txt", .option "-o" "plain.enc"] ∧
      (succeedingWorld.recoverCmdLogs command).success :=
  have keyOptionIsOption : looksLikeOption "--certificate-id" = true := rfl
  have keyValue : looksLikeOption "cert-id" = false := rfl
  have inputValue : looksLikeOption "plain.txt" = false := rfl
  have outputValue : ∀ output ∈ some "plain.enc", looksLikeOption output = false := by decide
  have dataValue : ∀ data ∈ (none : Option String), looksLikeOption data = false := by decide
  have done : encrypt succeedingWorld "conf.toml" "plain.txt" "cert-id" (some "plain.enc") none =
      .ok () := rfl
  ⟨⟨keyOptionIsOption, keyValue, inputValue, outputValue, dataValue, done⟩,
    cipherFile_ok keyOptionIsOption keyValue inputValue outputValue dataValue done⟩

end Kms.CliCommands
