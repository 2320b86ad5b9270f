import Cosigner.Proofs.Script.Quorum
import Cosigner.Proofs.Signing.Gather
import Mathlib.Data.List.Perm.Subperm
/-!
Signatures stand in the order in which they arrive.

A quorum is met by signatures in the order of their keys in the redeem script, and the script that
spends from it gathers them as they come; whose they are is not asked for. So of all the orders
in which the signers of an input may hand theirs on, just one puts them into the order of the
keys (`signatures_stand_as_they_arrive`), and two signers who come the other way round are
already out of it (`later_key_may_stand_first`).
-/

namespace Cosigner

/-- The signatures that are shown are those of some entries, in the order in which the redeem script
has the keys that they are by. -/
def InKeyOrder (redeemScript : Bytes) (entries : List SignatureEntry) (shown : List Bytes) : Prop :=
  ∃ quorum arranged, Quorum.ofRedeemScript? redeemScript = some quorum ∧
    List.Perm arranged entries ∧ shown = arranged.map SignatureEntry.contribution ∧
    (arranged.map SignatureEntry.publicKey).Sublist quorum.keys

variable {entries : List SignatureEntry}

/-! ### Arranging entries by their keys -/

section Arranging

variable {keys : List Bytes}

/-- Members that differ in their images are told apart by these, in lists as well. -/
theorem eq_of_map_eq_of_nodup {α β : Type} {f : α → β} {all xs ys : List α}
    (distinct : (all.map f).Nodup) (left : xs ⊆ all) (right : ys ⊆ all)
    (same : xs.map f = ys.map f) : xs = ys := by
  induction xs generalizing ys with
  | nil => exact (List.map_eq_nil_iff.mp same.symm).symm
  | cons x xs ih =>
    obtain ⟨y, ys, rfl, head, tail⟩ := List.map_eq_cons_iff.mp same.symm
    obtain ⟨x_mem, left⟩ := List.cons_subset.mp left
    obtain ⟨y_mem, right⟩ := List.cons_subset.mp right
    rw [List.inj_on_of_nodup_map distinct x_mem y_mem head.symm, ih left right tail.symm]

/-- The entries by these keys, in the order of the keys. -/
def arrange (keys : List Bytes) (entries : List SignatureEntry) : List SignatureEntry :=
  keys.filterMap fun key => entries.find? fun entry => decide (entry.publicKey = key)

theorem arrange_sublist (keys : List Bytes) (entries : List SignatureEntry) :
    ((arrange keys entries).map SignatureEntry.publicKey).Sublist keys := by
  induction keys with
  | nil => exact List.nil_sublist _
  | cons key keys ih =>
    rw [arrange, List.filterMap_cons]
    split
    · exact ih.cons key
    · rename_i entry found
      have own : entry.publicKey = key := by simpa using List.find?_some found
      rw [List.map_cons, own]
      exact ih.cons_cons key

theorem find?_publicKey (signers : (entries.map SignatureEntry.publicKey).Nodup)
    {entry : SignatureEntry} (mem : entry ∈ entries) :
    (entries.find? fun other => decide (other.publicKey = entry.publicKey)) = some entry := by
  have some : (entries.find? fun other => decide (other.publicKey = entry.publicKey)).isSome :=
    List.find?_isSome.mpr ⟨entry, mem, by simp⟩
  obtain ⟨other, found⟩ := Option.isSome_iff_exists.mp some
  have own : other.publicKey = entry.publicKey := by simpa using List.find?_some found
  rw [found, List.inj_on_of_nodup_map signers (List.mem_of_find?_eq_some found) mem own]

theorem arrange_perm (distinct : keys.Nodup)
    (signers : (entries.map SignatureEntry.publicKey).Nodup)
    (members : ∀ entry ∈ entries, entry.publicKey ∈ keys) :
    (arrange keys entries).Perm entries := by
  have arranged := (distinct.sublist (arrange_sublist keys entries)).of_map
  refine (List.perm_ext_iff_of_nodup arranged signers.of_map).mpr fun entry => ?_
  rw [arrange, List.mem_filterMap]
  constructor
  · rintro ⟨key, -, found⟩
    exact List.mem_of_find?_eq_some found
  · intro mem
    exact ⟨entry.publicKey, members entry mem, find?_publicKey signers mem⟩

end Arranging

/-- Hash types behind signatures do not make different signatures alike. -/
theorem nodup_contributions (distinct : (entries.map SignatureEntry.signature).Nodup) :
    (entries.map SignatureEntry.contribution).Nodup := by
  have behind : entries.map SignatureEntry.contribution =
      (entries.map SignatureEntry.signature).map (· ++ [sighashAll]) := by
    rw [List.map_map]
    rfl
  rw [behind]
  exact distinct.map (List.append_left_injective _)

/-- Signatures of entries stand in the order of their keys when the entries do. -/
theorem inKeyOrder_iff {quorum : Quorum} {redeemScript : Bytes} {ordered : List SignatureEntry}
    (built : quorum.redeemScript = .ok redeemScript) (distinct : quorum.keys.Nodup)
    (members : ∀ entry ∈ entries, entry.publicKey ∈ quorum.keys)
    (signers : (entries.map SignatureEntry.publicKey).Nodup)
    (signatures : (entries.map SignatureEntry.signature).Nodup) (same : ordered.Perm entries) :
    InKeyOrder redeemScript entries (ordered.map SignatureEntry.contribution) ↔
      ordered = arrange quorum.keys entries := by
  have read := Quorum.ofRedeemScript?_of_redeemScript built
  have perm := arrange_perm distinct signers members
  have sublist := arrange_sublist quorum.keys entries
  constructor
  · rintro ⟨other, arranged, read', perm', shown, sublist'⟩
    obtain rfl : other = quorum := Option.some.inj (read'.symm.trans read)
    have keys := (distinct.perm_iff_eq_of_sublist sublist' sublist).mp
      ((perm'.trans perm.symm).map SignatureEntry.publicKey)
    rw [eq_of_map_eq_of_nodup (nodup_contributions signatures) same.subset perm'.subset shown,
      eq_of_map_eq_of_nodup signers perm'.subset perm.subset keys]
  · rintro rfl
    exact ⟨quorum, _, read, perm, rfl, sublist⟩

/-! ### Writing into one input -/

section Writing

variable {template : SpendTemplate} {tx : Transaction} {index : Nat} {input : Input}

theorem applyEntry_setScript {entry : SignatureEntry} (there : tx.inputs[index]? = some input)
    (addressed : tx.findInput? entry.outpoint = some index) (script : Bytes) :
    applyEntry template (tx.setScript index script) entry =
      (template.writeEntry entry script).map fun script => (tx.setScript index script, true) := by
  rw [applyEntry, Transaction.findInput?_setScript, addressed]
  simp only [Transaction.getElem?_setScript there]
  cases template.writeEntry entry script with
  | error e => rfl
  | ok written => simp only [Transaction.setScript_setScript, Except.map]

/-- Entries for one input are written into it one after the other. -/
theorem applySignatures_setScript (there : tx.inputs[index]? = some input)
    (addressed : ∀ entry ∈ entries, tx.findInput? entry.outpoint = some index) (script : Bytes) :
    applySignatures template (tx.setScript index script) entries =
      (template.writeAll entries script).map fun script =>
        (tx.setScript index script, entries.length) := by
  induction entries generalizing script with
  | nil => rfl
  | cons entry entries ih =>
    obtain ⟨here, addressed⟩ := List.forall_mem_cons.mp addressed
    rw [applySignatures, applyEntry_setScript there here, SpendTemplate.writeAll_cons]
    cases template.writeEntry entry script with
    | error e => rfl
    | ok written =>
      simp only [Except.map, ih addressed, bind, Except.bind]
      cases template.writeAll entries written with
      | error e => rfl
      | ok last => rfl

theorem applyBatches_setScript {batches : List (List SignatureEntry)}
    (there : tx.inputs[index]? = some input)
    (addressed : ∀ entry ∈ batches.flatten, tx.findInput? entry.outpoint = some index)
    (script : Bytes) :
    applyBatches template (tx.setScript index script) batches =
      (template.writeAll batches.flatten script).map fun script =>
        (tx.setScript index script, batches.flatten.length) := by
  induction batches generalizing script with
  | nil => rfl
  | cons batch batches ih =>
    rw [List.flatten_cons] at addressed ⊢
    obtain ⟨first, rest⟩ := List.forall_mem_append.mp addressed
    rw [applyBatches, applySignatures_setScript there first, SpendTemplate.writeAll_append,
      List.length_append]
    cases template.writeAll batch script with
    | error e => rfl
    | ok written =>
      simp only [Except.map, ih rest, bind, Except.bind]
      cases template.writeAll batches.flatten written with
      | error e => rfl
      | ok last => rfl

/-- What an empty script shows after different signatures were written is these, as they came. -/
theorem exists_shown_as_written (redeemScript : Bytes)
    (signatures : (entries.map SignatureEntry.signature).Nodup)
    (fits : ∀ entry ∈ entries, entry.contribution.length < Word.bound32) :
    ∃ shown, (SpendTemplate.multisig redeemScript).writeAll entries [] = .ok shown ∧
      Multisig.signatures shown redeemScript =
        .ok (entries.map SignatureEntry.contribution) := by
  by_cases some : entries = []
  · subst some
    exact ⟨[], rfl, rfl⟩
  · have whole : gathered [] (entries.map SignatureEntry.contribution) =
        entries.map SignatureEntry.contribution := by
      rw [gathered, List.nil_append, List.removeAll_nil,
        Multisig.eraseDups_eq_self (nodup_contributions signatures)]
    have wrote := writeAll_multisig (show Multisig.signatures [] redeemScript = .ok [] from rfl)
      fits some
    rw [whole] at wrote
    refine ⟨_, wrote, Multisig.signatures_assemble redeemScript fun s mem => ?_⟩
    obtain ⟨entry, there, rfl⟩ := List.mem_map.mp mem
    exact fits entry there

/-- Different signatures for an input without a script are all taken, and shown as they came. -/
theorem exists_shown_as_applied {batches : List (List SignatureEntry)} (redeemScript : Bytes)
    (there : tx.inputs[index]? = some input) (empty : input.script = [])
    (addressed : ∀ entry ∈ batches.flatten, tx.findInput? entry.outpoint = some index)
    (signatures : (batches.flatten.map SignatureEntry.signature).Nodup)
    (fits : ∀ entry ∈ batches.flatten, entry.contribution.length < Word.bound32) :
    ∃ shown, applyBatches (.multisig redeemScript) tx batches =
        .ok (tx.setScript index shown, batches.flatten.length) ∧
      Multisig.signatures shown redeemScript =
        .ok (batches.flatten.map SignatureEntry.contribution) := by
  obtain ⟨shown, wrote, shows⟩ := exists_shown_as_written redeemScript signatures fits
  have written :=
    @applyBatches_setScript (.multisig redeemScript) _ _ _ _ there addressed input.script
  rw [Transaction.setScript_self there, empty, wrote] at written
  exact ⟨shown, written, shows⟩

/-- A signature that is too long for a push keeps any other from being written behind it. -/
theorem writeAll_behind_wide {entry next : SignatureEntry} {rest : Bytes}
    (starts : entry.contribution = 0xff :: rest) (wide : rest.length + 1 = Word.bound32)
    (redeemScript : Bytes) :
    (SpendTemplate.multisig redeemScript).writeAll [entry, next] [] =
      .error (.script (.notPush 0xff)) := by
  have wrote : (SpendTemplate.multisig redeemScript).writeEntry entry [] =
      .ok (Multisig.assemble [entry.contribution] redeemScript) := by
    simp only [SpendTemplate.writeEntry, Multisig.mergeSignature, Multisig.signatures,
      Multisig.addOnce, List.not_mem_nil, if_false, List.nil_append, SignatureEntry.contribution]
  have unread : Multisig.signatures (Multisig.assemble [entry.contribution] redeemScript)
      redeemScript = .error (.script (.notPush 0xff)) := by
    rw [Multisig.signatures_assemble_eq, Push.pushAll, List.flatMap_singleton, starts,
      Push.items_push_wide wide]
  rw [SpendTemplate.writeAll_cons, wrote]
  simp only [bind, Except.bind, SpendTemplate.writeAll_cons, SpendTemplate.writeEntry,
    Multisig.mergeSignature, unread]

end Writing

/-- Whatever order the signers of an input come in, and in whatever lists, all their signatures are
taken, and the input shows them as they came. Of these orders, exactly the one of their keys puts
the signatures into the order of the keys. -/
theorem signatures_stand_as_they_arrive (quorum : Quorum) (redeemScript : Bytes)
    (tx : Transaction) (index : Nat) (input : Input) (entries : List SignatureEntry)
    (built : quorum.redeemScript = .ok redeemScript) (distinct : quorum.keys.Nodup)
    (there : tx.inputs[index]? = some input) (empty : input.script = [])
    (addressed : ∀ entry ∈ entries, tx.findInput? entry.outpoint = some index)
    (members : ∀ entry ∈ entries, entry.publicKey ∈ quorum.keys)
    (signers : (entries.map SignatureEntry.publicKey).Nodup)
    (signatures : (entries.map SignatureEntry.signature).Nodup)
    (fits : ∀ entry ∈ entries, entry.contribution.length < Word.bound32) :
    (arrange quorum.keys entries).Perm entries ∧
      ∀ batches : List (List SignatureEntry), batches.flatten.Perm entries →
        ∃ shown, applyBatches (.multisig redeemScript) tx batches =
            .ok (tx.setScript index shown, entries.length) ∧
          Multisig.signatures shown redeemScript =
            .ok (batches.flatten.map SignatureEntry.contribution) ∧
          (InKeyOrder redeemScript entries (batches.flatten.map SignatureEntry.contribution) ↔
            batches.flatten = arrange quorum.keys entries) := by
  refine ⟨arrange_perm distinct signers members, fun batches same => ?_⟩
  have addressed' : ∀ entry ∈ batches.flatten, tx.findInput? entry.outpoint = some index :=
    fun entry mem => addressed entry (same.mem_iff.mp mem)
  have fits' : ∀ entry ∈ batches.flatten, entry.contribution.length < Word.bound32 :=
    fun entry mem => fits entry (same.mem_iff.mp mem)
  have signatures' : (batches.flatten.map SignatureEntry.signature).Nodup :=
    (same.map _).nodup_iff.mpr signatures
  obtain ⟨shown, written, shows⟩ :=
    exists_shown_as_applied redeemScript there empty addressed' signatures' fits'
  rw [same.length_eq] at written
  exact ⟨shown, written, shows, inKeyOrder_iff built distinct members signers signatures same⟩

/-! ### Two signers -/

/-- A quorum of two keys. -/
def pair : Quorum := ⟨2, [Quorum.sampleKey 1, Quorum.sampleKey 2]⟩

def pairScript : Bytes := pair.framed (Push.pushAll pair.keys)

theorem pairScript_built : pair.redeemScript = .ok pairScript :=
  Quorum.redeemScript_eq_ok_iff.mpr ⟨⟨by decide, by decide, by decide, by decide⟩, rfl, by decide⟩

/-- A made-up signature by a key of the pair. -/
def signerEntry (n : UInt8) : SignatureEntry :=
  { sampleEntry n with publicKey := Quorum.sampleKey n }

/-- Of two signers of a pair, the one of the first key has to come first. -/
theorem first_key_has_to_come_first :
    (∃ shown, applyBatches (.multisig pairScript) sampleSpend [[signerEntry 1], [signerEntry 2]] =
        .ok (sampleSpend.setScript 0 shown, 2) ∧
      Multisig.signatures shown pairScript = .ok [[1, 1], [2, 1]]) ∧
      InKeyOrder pairScript [signerEntry 1, signerEntry 2] [[1, 1], [2, 1]] ∧
      ¬ InKeyOrder pairScript [signerEntry 1, signerEntry 2] [[2, 1], [1, 1]] := by
  obtain ⟨-, outcome⟩ := signatures_stand_as_they_arrive pair pairScript sampleSpend 0
    (.unsigned ⟨.ofNatBE 32 7, 0⟩) [signerEntry 1, signerEntry 2] pairScript_built (by decide) rfl
    rfl (by decide) (by decide) (by decide) (by decide) (by decide)
  obtain ⟨shown, written, shows, ordered⟩ := outcome [[signerEntry 1], [signerEntry 2]] (.refl _)
  obtain ⟨-, -, -, reversed⟩ := outcome [[signerEntry 2, signerEntry 1]] (.swap _ _ _)
  exact ⟨⟨shown, written, shows⟩, ordered.mpr (by decide), mt reversed.mp (by decide)⟩

/-- A byte string that is too long for a push by one byte, its hash type included. -/
def wideSignature : Bytes := 0xff :: List.replicate (Word.bound32 - 2) 0xff

def wideEntry : SignatureEntry := { signerEntry 1 with signature := wideSignature }

/-- Two signers of a pair who come in the order of the second key first stand in this order, and one
whose signature is too long for a push keeps the other from signing at all. -/
theorem later_key_may_stand_first :
    pair.redeemScript = .ok pairScript ∧ pair.keys.Nodup ∧
      (∃ shown, applyBatches (.multisig pairScript) sampleSpend
          [[signerEntry 2], [signerEntry 1]] = .ok (sampleSpend.setScript 0 shown, 2) ∧
        Multisig.signatures shown pairScript = .ok [[2, 1], [1, 1]] ∧
        ¬ InKeyOrder pairScript [signerEntry 1, signerEntry 2] [[2, 1], [1, 1]]) ∧
      applyBatches (.multisig pairScript) sampleSpend [[wideEntry], [signerEntry 2]] =
        .error (.script (.notPush 0xff)) := by
  have distinct : pair.keys.Nodup := by decide
  have there : sampleSpend.inputs[0]? = some (.unsigned ⟨.ofNatBE 32 7, 0⟩) := rfl
  have addressed : sampleSpend.findInput? (signerEntry 1).outpoint = some 0 ∧
      sampleSpend.findInput? (signerEntry 2).outpoint = some 0 := by
    decide
  refine ⟨pairScript_built, distinct, ?reversed, ?wide⟩
  case reversed =>
    obtain ⟨shown, written, shows⟩ := @exists_shown_as_applied _ _ _
      [[signerEntry 2], [signerEntry 1]] pairScript there rfl (by decide) (by decide) (by decide)
    have order := @inKeyOrder_iff [signerEntry 1, signerEntry 2] pair pairScript
      [signerEntry 2, signerEntry 1] pairScript_built distinct (by decide) (by decide) (by decide)
      (.swap _ _ _)
    exact ⟨shown, written, shows, mt order.mp (by decide)⟩
  case wide =>
    -- The signature is never written out here: what counts is its first byte and its length.
    have starts : wideEntry.contribution =
        0xff :: (List.replicate (Word.bound32 - 2) 0xff ++ [sighashAll]) := by
      rw [SignatureEntry.contribution, wideEntry, wideSignature, List.cons_append]
    have wide : (List.replicate (Word.bound32 - 2) 0xff ++ [sighashAll]).length + 1 =
        Word.bound32 := by
      rw [List.length_append, List.length_replicate, List.length_singleton]
      decide
    have refused := @writeAll_behind_wide wideEntry (signerEntry 2) _ starts wide pairScript
    have addressed : ∀ entry ∈ [[wideEntry], [signerEntry 2]].flatten,
        sampleSpend.findInput? entry.outpoint = some 0 := by
      intro entry mem
      rcases List.mem_cons.mp mem with rfl | mem
      · exact addressed.1
      · rw [List.mem_singleton.mp mem]
        exact addressed.2
    have written :=
      @applyBatches_setScript (.multisig pairScript) _ _ _ _ there addressed []
    rw [List.flatten_cons, List.flatten_singleton, List.singleton_append, refused] at written
    exact written

end Cosigner
