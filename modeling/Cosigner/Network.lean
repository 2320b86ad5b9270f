import Cosigner.Error
import Cosigner.Text.Basic
/-!
The two networks and the bytes that tell them apart.

A network gives each kind of Base58Check text its version byte. The test networks share theirs, so
every one of their chain names stands for `testnet`. Names are compared without surrounding blanks
and without regard to the case of ASCII letters.

* `ofKeyVersion?_keyVersion`: the version byte of a private key gives back its network.
-/

namespace Cosigner

inductive Network where
  | mainnet
  | testnet
deriving DecidableEq, Repr

namespace Network

def name : Network → String
  | .mainnet => "mainnet"
  | .testnet => "testnet"

/-- The network with exactly this name. -/
def ofName? (text : String) : Option Network :=
  if text = "mainnet" then some .mainnet
  else if text = "testnet" then some .testnet
  else none

def mainChains : List String := ["main", "mainnet", "bitcoin"]

def testChains : List String := ["test", "testnet", "testnet3", "testnet4", "signet", "regtest"]

/-- The network of a chain, by the name its node reports. -/
def ofChainName? (chain : String) : Option Network :=
  let folded := String.ofList ((Text.trim chain.toList).map Char.toLower)
  if folded ∈ mainChains then some .mainnet
  else if folded ∈ testChains then some .testnet
  else none

/-- The network that a user names; every chain name is accepted. -/
def parse (text : String) : Except ChainError Network :=
  match ofChainName? text with
  | some network => .ok network
  | none => .error (.network text)

/-- The version byte of an address that pays to a public key hash. -/
def keyHashVersion : Network → UInt8
  | .mainnet => 0x00
  | .testnet => 0x6f

/-- The version byte of an address that pays to a script hash. -/
def scriptHashVersion : Network → UInt8
  | .mainnet => 0x05
  | .testnet => 0xc4

/-- The version byte of a private key. -/
def keyVersion : Network → UInt8
  | .mainnet => 0x80
  | .testnet => 0xef

def ofKeyVersion? (version : UInt8) : Option Network :=
  if version = 0x80 then some .mainnet
  else if version = 0xef then some .testnet
  else none

@[simp] theorem ofKeyVersion?_keyVersion (network : Network) :
    ofKeyVersion? network.keyVersion = some network := by
  cases network <;> rfl

end Network

end Cosigner
