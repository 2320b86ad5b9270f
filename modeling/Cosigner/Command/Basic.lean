import Cosigner.Bytes
import Cosigner.Command.Arguments
import Cosigner.Text.Basic
/-!
The commands of the program, and how they are asked for.

The first argument names a command, or asks for help or for the version. The other arguments are
those of the command.
-/

namespace Cosigner

inductive Command where
  /-- Shows the address and the public key of an identifier at a round. -/
  | deriveAddress (identifier : String) (round : Nat) (config : Option String) (network : String)
  /-- Shows a transaction. -/
  | decode (tx network : String)
  /-- Shows the digest to be signed for an input. -/
  | sighash (tx : String) (input : Nat) (scriptCode : String)
  /-- Shows the fee of a transaction of this shape. -/
  | fee (inputs outputs : Nat) (feePerKb : Int64)
deriving DecidableEq, Repr

/-- The commands by name. -/
inductive CommandName where
  | deriveAddress
  | decode
  | sighash
  | fee
deriving DecidableEq, Repr

def CommandName.ofText? (text : String) : Option CommandName :=
  if text = "derive-address" then some .deriveAddress
  else if text = "decode" then some .decode
  else if text = "sighash" then some .sighash
  else if text = "fee" then some .fee
  else none

namespace Command

/-! ### Values of options -/

/-- A number of 32 bits; minus zero counts as one. -/
def word? (text : String) : Option Nat := do
  let n ← Text.readSigned? Word.signedBound64 text.toList
  if 0 ≤ n ∧ n < Word.bound32 then some n.toNat else none

/-- A number of 64 bits. -/
def size? (text : String) : Option Nat := Text.readUnsigned? Word.bound64 text.toList

def amount? (text : String) : Option Int64 :=
  (Text.readSigned? Word.signedBound64 text.toList).map Int64.ofInt

/-! ### Forms -/

def anyText : String → Bool := fun _ => true

def networkOption : OptionForm := ⟨"network", some 'n', anyText⟩

def form : CommandName → CommandForm
  | .deriveAddress => ⟨[⟨"round", some 'r', fun text => (word? text).isSome⟩,
      ⟨"config", some 'c', fun text => !text.isEmpty⟩, networkOption], 1⟩
  | .decode => ⟨[networkOption], 1⟩
  | .sighash => ⟨[⟨"input", some 'i', fun text => (size? text).isSome⟩,
      ⟨"script-code", some 's', anyText⟩], 1⟩
  | .fee => ⟨[⟨"inputs", none, fun text => (size? text).isSome⟩,
      ⟨"outputs", none, fun text => (size? text).isSome⟩,
      ⟨"fee-per-kb", none, fun text => (amount? text).isSome⟩], 0⟩

/-- The network that is meant when none is named. -/
def defaultNetwork : String := "testnet"

/-- The value of an option, or its default when it is not given. -/
def optionOr {α : Type} (default : α) (read? : String → Option α) (arguments : Arguments)
    (name : String) : Option α :=
  match arguments.value? name with
  | none => some default
  | some text => read? text

/-- The command that complete arguments spell; none when one that it needs is not there. -/
def ofArguments? (name : CommandName) (arguments : Arguments) : Option Command := do
  let network := arguments.valueOr "network" defaultNetwork
  match name, arguments.operands with
  | .deriveAddress, [identifier] =>
    let round ← optionOr 1 word? arguments "round"
    return .deriveAddress identifier round (arguments.value? "config") network
  | .decode, [tx] => return .decode tx network
  | .sighash, [tx] =>
    let input ← size? (← arguments.value? "input")
    return .sighash tx input (← arguments.value? "script-code")
  | .fee, [] =>
    let inputs ← size? (← arguments.value? "inputs")
    let outputs ← size? (← arguments.value? "outputs")
    return .fee inputs outputs (← optionOr 10000 amount? arguments "fee-per-kb")
  | _, _ => none

end Command

/-- What help is about. -/
inductive HelpTopic where
  /-- The program as a whole. -/
  | overview
  /-- Asking for help itself. -/
  | help
  | command (name : CommandName)
deriving DecidableEq, Repr

/-- What the program is asked for. -/
inductive Request where
  | command (command : Command)
  | help (topic : HelpTopic)
  | version
deriving DecidableEq, Repr

namespace Request

/-- A request for help on what the arguments name, if they name a topic. -/
def helpOn? : List String → Option Request
  | [] => some (.help .overview)
  | [name] =>
    if name = "help" then some (.help .help)
    else (CommandName.ofText? name).map fun command => .help (.command command)
  | _ => none

/-- The request that the arguments of a command make. -/
def ofCommand? (name : CommandName) (arguments : List String) : Option Request := do
  match ← Arguments.read? (Command.form name) .none arguments with
  | .help => return .help (.command name)
  | .complete arguments => return .command (← Command.ofArguments? name arguments)

/-- The request that all arguments make; none when they are not in order. -/
def ofArguments? : List String → Option Request
  | [] => none
  | first :: rest =>
    match CommandName.ofText? first with
    | some name => ofCommand? name rest
    | none =>
      if first = "help" then helpOn? rest
      else
        match first.toList with
        | '-' :: 'h' :: _ => some (.help .overview)
        | '-' :: 'V' :: _ => some .version
        | _ =>
          if first = "--help" then some (.help .overview)
          else if first = "--version" then some .version
          else none

/-- The file that a request needs. -/
def configPath? : Request → Option String
  | .command (.deriveAddress _ _ config _) => config
  | _ => none

end Request

end Cosigner
