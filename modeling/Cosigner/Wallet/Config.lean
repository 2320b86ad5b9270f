import Cosigner.Bytes
import Cosigner.File
import Cosigner.Key.Secret
import Cosigner.Network
import Cosigner.Coin.Amount
import Cosigner.Text.Basic
import Cosigner.Toml.Parse
/-!
The configuration of a wallet.

All settings but the secret have defaults. A configuration is read from a TOML table, or from a
file that holds one, and variables of the environment may override settings; a variable whose
value is not one of the setting is passed over. `validate` says whether a configuration can be
used, and the first reason why not. Its description does not show the secret.
-/

namespace Cosigner

inductive ConfigFault where
  | unreadable (path : String) (fault : ReadFault)
  /-- The text is no TOML table, or a setting has a value of another type. -/
  | malformed
  | emptySecret
  | secret (fault : IntegerFault)
  | noRounds
  | feeNotPositive
  | confirmationsCross
  | noInterval
deriving DecidableEq, Repr

def ConfigFault.message : ConfigFault → String
  | .unreadable path fault => "failed to read " ++ path ++ ": " ++ fault.message
  | .malformed => "invalid TOML"
  | .emptySecret => "server_secret must not be empty"
  | .secret fault => "server_secret: " ++ fault.message
  | .noRounds => "max_rounds must be > 0"
  | .feeNotPositive => "fee_per_kb must be > 0"
  | .confirmationsCross => "min_confirmations must not exceed max_confirmations"
  | .noInterval => "discovery_interval_secs must be > 0"

structure WalletConfig where
  /-- The secret that every key is derived from. -/
  serverSecret : SecretText
  /-- The network; when there is none, the node's chain decides. -/
  network : Option Network := none
  /-- The rounds tried for an identifier are those from one to this. -/
  maxRounds : Nat := 100
  /-- Satoshis for each started kilobyte of a transaction. -/
  feePerKb : Int64 := 10000
  minConfirmations : Nat := 1
  maxConfirmations : Nat := 9999999
  /-- Seconds between two searches for redeem scripts. -/
  discoveryInterval : Nat := 60

namespace WalletConfig

/-! ### Use -/

/-- The first reason why a configuration cannot be used. -/
def validate (config : WalletConfig) : Except ConfigFault Unit :=
  if config.serverSecret.isEmpty then .error .emptySecret
  else
    match config.serverSecret.integerBytes with
    | .error fault => .error (.secret fault)
    | .ok _ =>
      if config.maxRounds = 0 then .error .noRounds
      else if config.feePerKb ≤ 0 then .error .feeNotPositive
      else if config.maxConfirmations < config.minConfirmations then .error .confirmationsCross
      else if config.discoveryInterval = 0 then .error .noInterval
      else .ok ()

def describe (config : WalletConfig) : String :=
  let network := match config.network with
    | none => "None"
    | some .mainnet => "Some(Mainnet)"
    | some .testnet => "Some(Testnet)"
  "WalletConfig \x7b server_secret: " ++ config.serverSecret.describe ++
    ", network: " ++ network ++
    ", max_rounds: " ++ toString config.maxRounds ++
    ", fee_per_kb: " ++ toString config.feePerKb.toInt ++
    ", min_confirmations: " ++ toString config.minConfirmations ++
    ", max_confirmations: " ++ toString config.maxConfirmations ++
    ", discovery_interval_secs: " ++ toString config.discoveryInterval ++ " \x7d"

/-- Whether the description shows the secret. -/
def disclosesSecret (config : WalletConfig) : Bool :=
  !config.serverSecret.isEmpty &&
    Text.occurs config.serverSecret.text.toList config.describe.toList

/-! ### Files -/

def textSetting? : Toml.Item → Option String
  | .string text => some text
  | _ => none

/-- A natural number below a bound. -/
def natSetting? (bound : Nat) : Toml.Item → Option Nat
  | .integer n => if 0 ≤ n ∧ n < bound then some n.toNat else none
  | _ => none

def amountSetting? : Toml.Item → Option Int64
  | .integer n => Amount.ofInt? n
  | _ => none

/-- The name of a network, or a table whose only entry has that name and is empty. -/
def networkSetting? : Toml.Item → Option Network
  | .string name => Network.ofName? name
  | .table _ [(name, .table _ [])] => Network.ofName? name
  | .table _ [(name, .array [])] => Network.ofName? name
  | _ => none

/-- The value of a setting, or its default when it is not there. -/
def settingOr {α : Type} (default : α) (read? : Toml.Item → Option α) (entries : Toml.Entries)
    (key : String) : Option α :=
  match entries.lookup key with
  | none => some default
  | some item => read? item

/-- The configuration in a table. Entries of other names do not count. -/
def ofEntries? (entries : Toml.Entries) : Option WalletConfig := do
  let secret ← (← entries.lookup "server_secret") |> textSetting?
  let default : WalletConfig := { serverSecret := ⟨secret⟩ }
  return {
    serverSecret := ⟨secret⟩
    network := ← settingOr none (fun item => (networkSetting? item).map some) entries "network"
    maxRounds := ← settingOr default.maxRounds (natSetting? Word.bound32) entries "max_rounds"
    feePerKb := ← settingOr default.feePerKb amountSetting? entries "fee_per_kb"
    minConfirmations :=
      ← settingOr default.minConfirmations (natSetting? Word.bound32) entries "min_confirmations"
    maxConfirmations :=
      ← settingOr default.maxConfirmations (natSetting? Word.bound32) entries "max_confirmations"
    discoveryInterval :=
      ← settingOr default.discoveryInterval (natSetting? Word.bound64) entries
        "discovery_interval_secs" }

/-- Reads a TOML document. -/
def ofToml (text : String) : Except ConfigFault WalletConfig :=
  match (Toml.parse? text).bind ofEntries? with
  | some config => .ok config
  | none => .error .malformed

/-- Reads a file, given what it holds or why it was not read. -/
def ofFile (path : String) (contents : Except ReadFault ByteArray) :
    Except ConfigFault WalletConfig :=
  match contents with
  | .error fault => .error (.unreadable path fault)
  | .ok bytes =>
    match String.fromUTF8? bytes with
    | none => .error (.unreadable path .notText)
    | some text => ofToml text

/-! ### Environment -/

/-- The variables of an environment. -/
abbrev Environment := List (String × String)

/-- A setting as a variable overrides it. -/
def overridden {α : Type} (environment : Environment) (name : String)
    (read? : String → Option α) (value : α) : α :=
  ((environment.lookup name).bind read?).getD value

/-- The variables that override settings. -/
def variableNames : List String :=
  ["SIGNER_SERVER_SECRET", "SIGNER_NETWORK", "SIGNER_FEE_PER_KB", "SIGNER_MAX_ROUNDS",
    "SIGNER_DISCOVERY_INTERVAL"]

def override (environment : Environment) (config : WalletConfig) : WalletConfig :=
  { config with
    serverSecret := overridden environment "SIGNER_SERVER_SECRET"
      (fun text => some ⟨text⟩) config.serverSecret
    network := overridden environment "SIGNER_NETWORK"
      (fun text => (Network.parse text).toOption.map some) config.network
    feePerKb := overridden environment "SIGNER_FEE_PER_KB"
      (fun text => (Text.readSigned? Word.signedBound64 text.toList).map Int64.ofInt)
      config.feePerKb
    maxRounds := overridden environment "SIGNER_MAX_ROUNDS"
      (fun text => Text.readUnsigned? Word.bound32 text.toList) config.maxRounds
    discoveryInterval := overridden environment "SIGNER_DISCOVERY_INTERVAL"
      (fun text => Text.readUnsigned? Word.bound64 text.toList) config.discoveryInterval }

end WalletConfig

end Cosigner
