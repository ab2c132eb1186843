import Kms.Utf8Lossy
import Kms.OsPath
import Kms.HashMap
import Kms.InsertKeypairs
import Kms.InsertKeypairsPairing
import Kms.ServerConfig
import Kms.TestServer
import Kms.CreateKey
import Kms.GoogleCse
import Kms.CliCommands
