import Cosigner.Coin.Selection
import Cosigner.Command.Help
import Cosigner.Json.Print
import Cosigner.Key.Derivation
import Cosigner.Signing.Sighash
import Cosigner.Transaction.Parse
import Cosigner.Transaction.View
import Cosigner.Wallet.Error
/-!
What the commands of the program show.

No command talks to a node. A failure is reported with its cause, if it has one, behind a blank
line, and ends the program with code 1; arguments that are not in order end it with code 2.
-/

namespace Cosigner

inductive CommandError where
  /-- The configuration cannot be read. -/
  | unreadable (fault : ConfigFault)
  /-- The configuration cannot be used. -/
  | unusable (fault : ConfigFault)
  | unknownNetwork (name : String)
  | identifier (text : String)
  | transaction (error : ChainError)
  | scriptCode (fault : Hex.Fault)
  | digest (error : ChainError)
  | feeRate
deriving DecidableEq, Repr

namespace CommandError

def message : CommandError → String
  | .unreadable fault => (WalletError.config fault).message
  | .unusable _ => "set server_secret in the config file or SIGNER_SERVER_SECRET"
  | .unknownNetwork name => "unknown network '" ++ name ++ "' (expected mainnet or testnet)"
  | .identifier text => "identifier must be non-empty hex: " ++ text
  | .transaction _ => "failed to parse transaction"
  | .scriptCode _ => "script code is not hex"
  | .digest error => error.message
  | .feeRate => "fee rate must be positive"

def cause? : CommandError → Option String
  | .unusable fault => some (WalletError.config fault).message
  | .unknownNetwork name => some (ChainError.network name).message
  | .transaction error => some error.message
  | .scriptCode fault => some fault.message
  | _ => none

/-- A text with four spaces in front of each line. -/
def indent (text : String) : String :=
  "    " ++ String.ofList (text.toList.flatMap fun c =>
    if c = '\n' then ['\n', ' ', ' ', ' ', ' '] else [c])

def report (error : CommandError) : String :=
  match error.cause? with
  | none => "Error: " ++ error.message ++ "\n"
  | some cause => "Error: " ++ error.message ++ "\n\nCaused by:\n" ++ indent cause ++ "\n"

end CommandError

namespace Command

open WalletConfig (Environment)

/-- The configuration in a file, or the defaults, as the environment overrides them. -/
def loadConfig (environment : Environment) (contents : Except ReadFault ByteArray)
    (path : Option String) : Except CommandError WalletConfig := do
  let config ← match path with
    | none => .ok { serverSecret := ⟨""⟩ }
    | some path => (WalletConfig.ofFile path contents).mapError .unreadable
  let config := config.override environment
  config.validate.mapError .unusable
  return config

def parseNetwork (name : String) : Except CommandError Network :=
  (Network.parse name).mapError fun _ => .unknownNetwork name

def parseTransaction (hex : String) : Except CommandError Transaction :=
  (Transaction.ofHex hex).mapError .transaction

/-- What a command shows, given what the file that it names holds. -/
def output (environment : Environment) (contents : Except ReadFault ByteArray) :
    Command → Except CommandError String
  | .deriveAddress identifier round path name => do
    let config ← loadConfig environment contents path
    let network ← match config.network with
      | some network => .ok network
      | none => parseNetwork name
    match derivePrivateKey? identifier config.serverSecret round network with
    | none => throw (.identifier identifier)
    | some key =>
      return "address:    " ++ key.address ++ "\npublic key: " ++ Hex.encode key.publicKey ++ "\n"
  | .decode hex name => do
    let network ← parseNetwork name
    let tx ← parseTransaction hex
    return (TransactionView.ofTransaction tx network).toJson.indented ++ "\n"
  | .sighash hex input text => do
    let tx ← parseTransaction hex
    let scriptCode ← (Hex.decodeChars (Text.trim text.toList)).mapError .scriptCode
    let digest ← (signatureHash tx input scriptCode).mapError .digest
    return Hex.encode digest.bytes ++ "\n"
  | .fee inputs outputs feePerKb =>
    if feePerKb ≤ 0 then .error .feeRate
    else .ok (toString (estimateFee inputs outputs feePerKb).toInt ++ "\n")

end Command

/-- How the program ends: its code, and what it shows. -/
structure Ending where
  code : Nat
  output : String
  errors : String
deriving DecidableEq, Repr

/-- How the program ends for these arguments. -/
def Ending.ofArguments (environment : WalletConfig.Environment)
    (contents : Except ReadFault ByteArray) (arguments : List String) : Ending :=
  match Request.ofArguments? arguments with
  | none => ⟨2, "", Help.usage⟩
  | some .version => ⟨0, Help.versionText, ""⟩
  | some (.help topic) => ⟨0, Help.text topic, ""⟩
  | some (.command command) =>
    match command.output environment contents with
    | .ok text => ⟨0, text, ""⟩
    | .error error => ⟨1, "", error.report⟩

end Cosigner
