import Cosigner.Proofs.Address
import Cosigner.Proofs.Result
import Cosigner.Proofs.Transaction.Inputs
import Cosigner.Signing.Apply
import Mathlib.Data.List.Forall2
/-!
The requests for the inputs of an address, and the answers to them.

A request names the input that spends its outpoint, and carries the digest of exactly that input.
An outpoint that the transaction spends has as many requests as it is listed among the outputs, so
one that is listed once is signed once (`signatureRequests_spec`).

* `scriptCode_eq_ok_iff`: the bytes of the script that an input is signed under.
* `signatureHash_eq_ok_iff`: the bytes that a digest is of.
-/

namespace Cosigner

/-! ### What is signed -/

/-- The script that an input is signed under: the output script for the hash in the address, or the
redeem script. -/
def SpendTemplate.SignsUnder (template : SpendTemplate) (address : String) (code : Bytes) : Prop :=
  match template with
  | .keyHash => ∃ version hash, address = Address.encode ⟨version, hash⟩ ∧
    code = 0x76 :: 0xa9 :: 0x14 :: hash.bytes ++ [0x88, 0xac]
  | .multisig redeemScript => code = redeemScript

theorem SpendTemplate.scriptCode_eq_ok_iff {template : SpendTemplate} {address : String}
    {code : Bytes} : template.scriptCode address = .ok code ↔ template.SignsUnder address code := by
  cases template with
  | multisig redeemScript => simp [scriptCode, SignsUnder, eq_comm]
  | keyHash =>
    rw [scriptCode, SignsUnder]
    constructor
    · intro coded
      split at coded
      · rename_i decoded read
        cases coded
        exact ⟨decoded.version, decoded.hash, Address.decode?_eq_some_iff.mp read, rfl⟩
      · cases coded
    · rintro ⟨version, hash, rfl, rfl⟩
      rw [Address.decode?_encode]
      rfl

/-- A transaction in which one input shows a script, and no other shows any. -/
def Transaction.withOnlyScript (tx : Transaction) (index : Nat) (script : Bytes) : Transaction :=
  { tx with inputs := tx.inputs.mapIdx fun place input =>
      { input with script := if place = index then script else [] } }

theorem Transaction.stripScripts_setScript_eq (tx : Transaction) (index : Nat)
    (script : Bytes) : tx.stripScripts.setScript index script = tx.withOnlyScript index script := by
  rw [stripScripts, setScript, withOnlyScript]
  congr 1
  refine List.ext_getElem? fun place => ?_
  rw [List.getElem?_modify, List.getElem?_map, List.getElem?_mapIdx]
  cases tx.inputs[place]? with
  | none => rfl
  | some input => by_cases here : index = place <;> simp [here, eq_comm]

/-- A digest is that of the transaction in which the input alone shows a script, and the type of the
signature behind it. -/
theorem signatureHash_eq_ok_iff {tx : Transaction} {index : Nat} {code : Bytes}
    {digest : Hash256} :
    signatureHash tx index code = .ok digest ↔ index < tx.inputs.length ∧
      digest = sha256d ((tx.withOnlyScript index code).encode ++ [1, 0, 0, 0]) := by
  have type : Bytes.ofNatLE 4 sighashAll.toNat = [1, 0, 0, 0] := by decide
  rw [signatureHash, signaturePreimage, Transaction.stripScripts_setScript_eq, type]
  by_cases within : index < tx.inputs.length
  · simp [within, eq_comm]
  · simp [within]

/-- The outputs listed under an address at an outpoint. -/
def listedAt (utxos : List Utxo) (address : String) (outpoint : Outpoint) : List Utxo :=
  utxos.filter fun utxo => decide (utxo.address = address ∧ utxo.At outpoint)

/-- The requests for an outpoint. -/
def requestsAt (requests : List SignatureRequest) (outpoint : Outpoint) : List SignatureRequest :=
  requests.filter fun request => decide (request.outpoint = outpoint)

variable {tx : Transaction} {scriptCode : Bytes} {utxos : List Utxo}
  {requests : List SignatureRequest}

/-! ### Requests -/

/-- One listed output leads to no request when the transaction does not spend it, and to one
otherwise. -/
theorem requestsFor_cons_eq_ok_iff {utxo : Utxo} :
    requestsFor tx scriptCode (utxo :: utxos) = .ok requests ↔
      ∃ outpoint rest, utxo.At outpoint ∧
        requestsFor tx scriptCode utxos = .ok rest ∧
        ((¬ tx.Spends outpoint ∧ requests = rest) ∨
          ∃ index digest, tx.findInput? outpoint = some index ∧
            signatureHash tx index scriptCode = .ok digest ∧
            requests = ⟨index, outpoint, digest⟩ :: rest) := by
  rw [requestsFor, Result.bind_eq_ok_iff]
  constructor
  · rintro ⟨hash, read, h⟩
    have here : utxo.At ⟨hash, utxo.index⟩ := ⟨Txid.toHash_eq_ok_iff.mp read, rfl⟩
    dsimp only at h
    split at h
    · rename_i absent
      exact ⟨_, requests, here, h, .inl ⟨Transaction.findInput?_eq_none_iff.mp absent, rfl⟩⟩
    · rename_i index found
      obtain ⟨digest, hashed, h⟩ := Result.bind_eq_ok_iff.mp h
      obtain ⟨rest, others, done⟩ := Result.bind_eq_ok_iff.mp h
      cases done
      exact ⟨_, rest, here, others, .inr ⟨index, digest, found, hashed, rfl⟩⟩
  · rintro ⟨⟨hash, index⟩, rest, ⟨names, rfl⟩, others, absent | found⟩
    · obtain ⟨unspent, rfl⟩ := absent
      refine ⟨hash, Txid.toHash_eq_ok_iff.mpr names, ?_⟩
      dsimp only
      rw [Transaction.findInput?_eq_none_iff.mpr unspent]
      exact others
    · obtain ⟨index, digest, found, hashed, rfl⟩ := found
      refine ⟨hash, Txid.toHash_eq_ok_iff.mpr names, ?_⟩
      dsimp only
      rw [found]
      exact Result.bind_eq_ok_iff.mpr ⟨digest, hashed, Result.bind_eq_ok_iff.mpr
        ⟨rest, others, rfl⟩⟩

/-- A request is for the input that spends its outpoint, and carries the digest of that input. -/
theorem digest_of_requestsFor (h : requestsFor tx scriptCode utxos = .ok requests) :
    ∀ request ∈ requests, tx.findInput? request.outpoint = some request.inputIndex ∧
      signatureHash tx request.inputIndex scriptCode = .ok request.digest := by
  induction utxos generalizing requests with
  | nil =>
    cases h
    simp
  | cons utxo utxos ih =>
    obtain ⟨outpoint, rest, -, others, ⟨-, rfl⟩ | ⟨index, digest, found, hashed, rfl⟩⟩ :=
      requestsFor_cons_eq_ok_iff.mp h
    · exact ih others
    · exact List.forall_mem_cons.mpr ⟨⟨found, hashed⟩, ih others⟩

/-- An outpoint that is spent has a request for each time that it is listed. -/
theorem length_requestsAt (h : requestsFor tx scriptCode utxos = .ok requests)
    {outpoint : Outpoint} (spent : tx.Spends outpoint) :
    (requestsAt requests outpoint).length =
      (utxos.filter fun utxo => decide (utxo.At outpoint)).length := by
  induction utxos generalizing requests with
  | nil =>
    cases h
    rfl
  | cons utxo utxos ih =>
    obtain ⟨other, rest, named, others, ⟨absent, rfl⟩ | ⟨index, digest, -, -, rfl⟩⟩ :=
      requestsFor_cons_eq_ok_iff.mp h
    · have differs : ¬ other = outpoint := by
        rintro rfl
        exact absent spent
      rw [List.filter_cons_of_neg (by simpa [named.at_iff] using differs)]
      exact ih others
    · have step := ih others
      by_cases same : other = outpoint
      · rw [requestsAt, List.filter_cons_of_pos (by simpa using same),
          List.filter_cons_of_pos (by simpa [named.at_iff] using same), List.length_cons,
          List.length_cons, ← step, requestsAt]
      · rw [requestsAt, List.filter_cons_of_neg (by simpa using same),
          List.filter_cons_of_neg (by simpa [named.at_iff] using same), ← step, requestsAt]

/-- The requests for an address carry the digests of the inputs that they are for, and there is one
for each time that an outpoint of the transaction is listed under the address. -/
theorem signatureRequests_spec {address : String} {template : SpendTemplate}
    (h : signatureRequests tx address utxos template = .ok requests) :
    ∃ scriptCode, template.SignsUnder address scriptCode ∧
      (∀ request ∈ requests, tx.findInput? request.outpoint = some request.inputIndex ∧
        signatureHash tx request.inputIndex scriptCode = .ok request.digest) ∧
      ∀ outpoint, tx.Spends outpoint →
        (requestsAt requests outpoint).length = (listedAt utxos address outpoint).length := by
  obtain ⟨scriptCode, code, made⟩ := Result.bind_eq_ok_iff.mp h
  refine ⟨scriptCode, SpendTemplate.scriptCode_eq_ok_iff.mp code, digest_of_requestsFor made,
    fun outpoint spent => ?_⟩
  rw [length_requestsAt made spent, List.filter_filter, listedAt]
  congr 1
  refine List.filter_congr fun utxo _ => ?_
  rw [Bool.eq_iff_iff]
  simp [and_comm]

end Cosigner
