import Cosigner.Command.Basic
/-!
The texts that explain the program.
-/

namespace Cosigner.Help

def programName : String := "signer-cli"

def versionText : String := programName ++ " 0.1.0\n"

def lines (texts : List String) : String := String.join (texts.map fun text => text ++ "\n")

def overview : String := lines [
  "Offline tools for the custodial signing service",
  "",
  "Usage: signer-cli <COMMAND>",
  "",
  "Commands:",
  "  derive-address  Derive the address and public key of an identifier",
  "  decode          Decode a raw transaction into JSON",
  "  sighash         Compute the SIGHASH_ALL digest of one input",
  "  fee             Estimate the fee of a transaction shape",
  "  help            Print this message or the help of the given subcommand(s)",
  "",
  "Options:",
  "  -h, --help     Print help",
  "  -V, --version  Print version"]

def deriveAddress : String := lines [
  "Derive the address and public key of an identifier",
  "",
  "Usage: signer-cli derive-address [OPTIONS] <IDENTIFIER>",
  "",
  "Arguments:",
  "  <IDENTIFIER>  Hex identifier of the user",
  "",
  "Options:",
  "  -r, --round <ROUND>      Derivation round (1-based) [default: 1]",
  "  -c, --config <CONFIG>    TOML config carrying `server_secret`. SIGNER_* env vars override it",
  "  -n, --network <NETWORK>  Network (mainnet or testnet), used when the config names none " ++
    "[default: testnet]",
  "  -h, --help               Print help"]

def decode : String := lines [
  "Decode a raw transaction into JSON",
  "",
  "Usage: signer-cli decode [OPTIONS] <TX>",
  "",
  "Arguments:",
  "  <TX>  Raw transaction hex",
  "",
  "Options:",
  "  -n, --network <NETWORK>  [default: testnet]",
  "  -h, --help               Print help"]

def sighash : String := lines [
  "Compute the SIGHASH_ALL digest of one input",
  "",
  "Usage: signer-cli sighash --input <INPUT> --script-code <SCRIPT_CODE> <TX>",
  "",
  "Arguments:",
  "  <TX>  Raw transaction hex",
  "",
  "Options:",
  "  -i, --input <INPUT>              Index of the input being signed",
  "  -s, --script-code <SCRIPT_CODE>  Hex script code: the spent scriptPubKey, or the redeem " ++
    "script for P2SH",
  "  -h, --help                       Print help"]

def fee : String := lines [
  "Estimate the fee of a transaction shape",
  "",
  "Usage: signer-cli fee [OPTIONS] --inputs <INPUTS> --outputs <OUTPUTS>",
  "",
  "Options:",
  "      --inputs <INPUTS>          ",
  "      --outputs <OUTPUTS>        Output count, change included",
  "      --fee-per-kb <FEE_PER_KB>  Satoshis per started kilobyte [default: 10000]",
  "  -h, --help                     Print help"]

def help : String := lines [
  "Print this message or the help of the given subcommand(s)",
  "",
  "Usage: signer-cli help [COMMAND]...",
  "",
  "Arguments:",
  "  [COMMAND]...  Print help for the subcommand(s)"]

def text : HelpTopic → String
  | .overview => overview
  | .help => help
  | .command .deriveAddress => deriveAddress
  | .command .decode => decode
  | .command .sighash => sighash
  | .command .fee => fee

/-- What is shown when the arguments are not in order. -/
def usage : String := lines [
  "error: the arguments are not in order",
  "",
  "Usage: signer-cli <COMMAND>",
  "",
  "For more information, try '--help'."]

end Cosigner.Help
