import Cosigner.Proofs.Script.Template
import Cosigner.Transaction.View
/-!
What a view of a transaction shows.

A view names the payee of an output by an address. Whoever pays to that address on the view's
network makes the script of the output, and every address that makes it is shown
(`view_shows_payees`): the view recognizes exactly the scripts that pay to an address
(`payee?_eq_some_iff`), and an address has one text.
-/

namespace Cosigner

namespace Address

/-- The network of an address text. -/
def networkOf? (text : String) : Option Network := (decode? text).bind network?

/-- The kind of an address text. -/
def kindOf? (text : String) : Option AddressKind := (decode? text).bind kind?

end Address

theorem exists_kindOf? {text : String} {script : Bytes}
    (pays : Script.lockingScript text = .ok script) :
    ∃ kind, Address.kindOf? text = some kind := by
  obtain ⟨address, kind, read, isKind, -⟩ := Script.lockingScript_eq_ok_iff.mp pays
  exact ⟨kind, by rw [Address.kindOf?, read, Option.bind_some, isKind]⟩

/-- The payee of a script is an address of its own kind on the network, and paying to the address
makes the script. -/
theorem payee?_eq_some_iff {network : Network} {script : Bytes} {payee : Payee} :
    payee? network script = some payee ↔ Script.lockingScript payee.address = .ok script ∧
      Address.networkOf? payee.address = some network ∧
      Address.kindOf? payee.address = some payee.kind := by
  constructor
  · intro shown
    obtain ⟨⟨kind, hash⟩, recognized, rfl⟩ := Option.map_eq_some_iff.mp shown
    have read := Address.decode?_encode ⟨Address.versionOf network kind, hash⟩
    have isKind := Address.kind?_versionOf network kind hash
    have isNetwork := Address.network?_versionOf network kind hash
    refine ⟨?_, ?_, ?_⟩
    · rw [Script.lockingScript_eq_ok_iff]
      exact ⟨_, kind, read, isKind, Script.classify?_eq_some_iff.mp recognized⟩
    · rw [Address.networkOf?, read, Option.bind_some, isNetwork]
    · rw [Address.kindOf?, read, Option.bind_some, isKind]
  · rintro ⟨pays, isNetwork, isKind⟩
    obtain ⟨address, kind, read, ofKind, rfl⟩ := Script.lockingScript_eq_ok_iff.mp pays
    rw [Address.networkOf?, read, Option.bind_some] at isNetwork
    rw [Address.kindOf?, read, Option.bind_some, ofKind] at isKind
    have version := Address.kind?_and_network?_iff.mp ⟨ofKind, isNetwork⟩
    obtain ⟨_, text⟩ := payee
    cases isKind
    rw [payee?_payTo, ← version, ← Address.decode?_eq_some_iff.mp read]

namespace TransactionView

/-- A view shows a payee for the output of this number. -/
def Shows (view : TransactionView) (index : Nat) (payee : Payee) : Prop :=
  ∃ shown, view.outputs[index]? = some shown ∧ shown.payee = some payee

variable {network : Network} {tx : Transaction} {index : Nat}

theorem getElem?_outputViews (network : Network) (outputs : List Output) (index : Nat) :
    (outputViews network outputs)[index]? = outputs[index]?.map fun output =>
      ⟨index, output.amount, output.script, payee? network output.script⟩ := by
  simp [outputViews, Function.comp_def]

/-- A view shows whom an output pays. -/
theorem shows_iff {payee : Payee} :
    (ofTransaction tx network).Shows index payee ↔
      ∃ output, tx.outputs[index]? = some output ∧
        payee? network output.script = some payee := by
  simp [Shows, ofTransaction, getElem?_outputViews]

/-- A view has the outputs of its transaction, numbered in order. For each of them it shows an
address exactly when paying to this address makes the script of the output and the address is one of
the view's network, and the kind that it shows is that of the address. -/
theorem view_shows_payees (tx : Transaction) (network : Network) :
    let view := ofTransaction tx network
    (view.outputs.map fun shown => Output.mk shown.amount shown.script) = tx.outputs ∧
      view.outputs.map OutputView.index = List.range tx.outputs.length ∧
      ∀ (index : Nat) (address : String),
        ((∃ kind, view.Shows index ⟨kind, address⟩) ↔
          (∃ output, tx.outputs[index]? = some output ∧
            Script.lockingScript address = .ok output.script) ∧
          Address.networkOf? address = some network) ∧
        ∀ kind, view.Shows index ⟨kind, address⟩ → Address.kindOf? address = some kind := by
  refine ⟨?_, ?_, fun index address => ⟨?_, ?_⟩⟩
  · simp [ofTransaction, outputViews, Function.comp_def]
  · simp [ofTransaction, outputViews, Function.comp_def, List.range_eq_range']
  · constructor
    · rintro ⟨kind, shown⟩
      obtain ⟨output, there, payee⟩ := shows_iff.mp shown
      obtain ⟨pays, isNetwork, -⟩ := payee?_eq_some_iff.mp payee
      exact ⟨⟨output, there, pays⟩, isNetwork⟩
    · rintro ⟨⟨output, there, pays⟩, isNetwork⟩
      obtain ⟨kind, isKind⟩ := exists_kindOf? pays
      exact ⟨kind, shows_iff.mpr ⟨output, there,
        payee?_eq_some_iff.mpr ⟨pays, isNetwork, isKind⟩⟩⟩
  · intro kind shown
    obtain ⟨output, -, payee⟩ := shows_iff.mp shown
    obtain ⟨-, -, isKind⟩ := payee?_eq_some_iff.mp payee
    exact isKind

/-- A transaction with an output that pays to the hash of a key, and one whose script lacks the last
opcode of such a script. -/
def nearlyStandard : Transaction :=
  .new [] [⟨1000, Script.payTo .keyHash (.ofNatBE 20 7)⟩,
    ⟨1000, (Script.payTo .keyHash (.ofNatBE 20 7)).dropLast⟩]

/-- The view on the test network shows an address that pays to the first output, and there is none
on this network that pays to the second one. -/
theorem nearly_standard_output_has_no_address :
    ∃ address, Script.lockingScript address = .ok (Script.payTo .keyHash (.ofNatBE 20 7)) ∧
      Address.kindOf? address = some .keyHash ∧
      ∀ other, Address.networkOf? other = some .testnet →
        Script.lockingScript other ≠ .ok (Script.payTo .keyHash (.ofNatBE 20 7)).dropLast := by
  obtain ⟨-, -, shows⟩ := view_shows_payees nearlyStandard .testnet
  let address := Address.encode ⟨Network.testnet.keyHashVersion, .ofNatBE 20 7⟩
  have shown : (ofTransaction nearlyStandard .testnet).Shows 0 ⟨.keyHash, address⟩ :=
    shows_iff.mpr ⟨_, rfl, payee?_payTo .testnet .keyHash (.ofNatBE 20 7)⟩
  refine ⟨address, ?_, (shows 0 address).2 _ shown, fun other isNetwork pays => ?_⟩
  · obtain ⟨⟨output, there, pays⟩, -⟩ := (shows 0 address).1.mp ⟨_, shown⟩
    cases there
    exact pays
  · obtain ⟨kind, output, there, payee⟩ := (shows 1 other).1.mpr ⟨⟨_, rfl, pays⟩, isNetwork⟩
    cases there
    cases payee

end TransactionView

end Cosigner
