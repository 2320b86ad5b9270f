import Cosigner.Proofs.Result
import Cosigner.Proofs.Script.Push
/-!
The loop that reads the pushes of a script, and what it reads in scripts that were pushed anew.

A `Scan` is the loop between two turns. Each turn moves the cursor forward and never past the end of
the script (`Inside.turn`), so the loop ends after at most as many turns as the script has bytes,
and it ends with the items of the script (`exists_reaches_ends`).

What the loop has read does not depend on what follows (`items_append`). Of all headers that
announce a length, the one that is written is the shortest (`Spelling.least_iff_shortest`).
-/

namespace Cosigner.Push

/-! ### One push after the other -/

/-- A header takes at least one byte, and all of its bytes are there. -/
theorem size_of_readHeader {script : Bytes} {length size : Nat}
    (read : readHeader script = .ok (length, size)) : 0 < size ∧ size ≤ script.length := by
  cases script with
  | nil => cases read
  | cons opcode rest =>
    rw [readHeader] at read
    split at read
    · rename_i width announces
      cases read
      have there := width_le_of_announced announces
      rw [List.length_cons]
      omega
    · cases read

/-- A script that is not empty is one push and the script behind it. -/
theorem items_of_ne_nil {script : Bytes} (some : script ≠ []) :
    items script =
      match readHeader script with
      | .error e => .error e
      | .ok (length, size) =>
        if size + length ≤ script.length then
          (items (script.drop (size + length))).map ((script.drop size).take length :: ·)
        else .error (.script .overrun) := by
  cases script with
  | nil => exact absurd rfl some
  | cons opcode rest =>
    rw [items, readHeader]
    cases announces : announced opcode rest with
    | error e => rfl
    | ok header =>
      obtain ⟨length, width⟩ := header
      have there := width_le_of_announced announces
      have inside : 1 + width + length ≤ (opcode :: rest).length ↔
          length ≤ (rest.drop width).length := by
        rw [List.length_cons, List.length_drop]
        omega
      have behind : (opcode :: rest).drop (1 + width + length) =
          (rest.drop width).drop length := by
        rw [Nat.add_assoc, Nat.add_comm 1, List.drop_succ_cons, List.drop_drop]
      have data : (opcode :: rest).drop (1 + width) = rest.drop width := by
        rw [Nat.add_comm, List.drop_succ_cons]
      simp only [Bytes.holds_eq, inside, behind, data, decide_eq_true_eq]
      split
      · cases items ((rest.drop width).drop length) with
        | error e => rfl
        | ok tail => rfl
      · rfl

/-- What was read from a script is read in front of whatever follows it. -/
theorem items_append {script more : Bytes} {xs : List Bytes} (read : items script = .ok xs) :
    items (script ++ more) = (items more).map (xs ++ ·) := by
  obtain ⟨row, rfl, rfl⟩ := items_eq_ok_iff.mp read
  clear read
  induction row with
  | nil => exact (congrFun Except.map_id (items more)).symm
  | cons spelling row ih =>
    rw [List.flatMap_cons, List.append_assoc, items_bytes_append, ih, Result.map_map]
    rfl

/-- Whatever is wrong with a script of pushes is an error of scripts. -/
theorem exists_fault_of_announced {opcode : UInt8} {rest : Bytes} {e : ChainError}
    (refused : announced opcode rest = .error e) : ∃ fault, e = .script fault := by
  unfold announced at refused
  split at refused
  · cases refused
    exact ⟨_, rfl⟩
  · cases refused
  · split at refused
    · cases refused
    · cases refused
      exact ⟨_, rfl⟩

theorem exists_fault_of_readHeader {script : Bytes} {e : ChainError}
    (refused : readHeader script = .error e) : ∃ fault, e = .script fault := by
  cases script with
  | nil =>
    cases refused
    exact ⟨_, rfl⟩
  | cons opcode rest =>
    rw [readHeader] at refused
    split at refused
    · cases refused
    · rename_i refused'
      cases refused
      exact exists_fault_of_announced refused'

/-! ### The loop -/

/-- The loop over a script between two turns: the items that were read, and the cursor. -/
structure Scan where
  read : List Bytes
  cursor : Nat

/-- What one turn of the loop comes to. -/
inductive Turn where
  | goesOn (scan : Scan)
  | ends (result : Except ChainError (List Bytes))

namespace Scan

/-- The loop before its first turn. -/
def start : Scan := ⟨[], 0⟩

/-- One turn: the header at the cursor is read, then as many bytes of data as it announces. -/
def turn (script : Bytes) (scan : Scan) : Turn :=
  if scan.cursor < script.length then
    match readHeaderAt script scan.cursor with
    | .error e => .ends (.error e)
    | .ok (length, size) =>
      let data := scan.cursor + size
      if data + length ≤ script.length then
        .goesOn ⟨scan.read ++ [(script.drop data).take length], data + length⟩
      else .ends (.error (.script .overrun))
  else .ends (.ok scan.read)

/-- The loop over a script stands so after so many turns. -/
inductive Reaches (script : Bytes) : Nat → Scan → Prop where
  | start : Reaches script 0 start
  | turn {turns : Nat} {scan next : Scan} : Reaches script turns scan →
      scan.turn script = .goesOn next → Reaches script (turns + 1) next

/-- What the turns of the loop keep: the cursor is in the script or at its end, each turn took it
forward, and the items of the script are those that were read and those behind the cursor. -/
structure Inside (script : Bytes) (turns : Nat) (scan : Scan) : Prop where
  turns_le : turns ≤ scan.cursor
  cursor_le : scan.cursor ≤ script.length
  items_eq : items script = (items (script.drop scan.cursor)).map (scan.read ++ ·)

variable {script : Bytes} {turns : Nat} {scan next : Scan}

/-- The header at a cursor ends within the script. -/
theorem Inside.header_le (inside : Inside script turns scan) {length size : Nat}
    (read : readHeaderAt script scan.cursor = .ok (length, size)) :
    0 < size ∧ scan.cursor + size ≤ script.length := by
  obtain ⟨pos, there⟩ := size_of_readHeader read
  have le := inside.cursor_le
  rw [List.length_drop] at there
  exact ⟨pos, by omega⟩

theorem Inside.turn (inside : Inside script turns scan)
    (goesOn : scan.turn script = .goesOn next) : Inside script (turns + 1) next := by
  obtain ⟨turns_le, cursor_le, items_eq⟩ := id inside
  unfold Scan.turn at goesOn
  split at goesOn
  · rename_i before
    split at goesOn
    · cases goesOn
    · rename_i length size read
      obtain ⟨pos, -⟩ := inside.header_le read
      dsimp only at goesOn
      split at goesOn
      · rename_i enough
        cases goesOn
        refine ⟨by dsimp only; omega, enough, ?_⟩
        have some : script.drop scan.cursor ≠ [] := by
          rw [ne_eq, List.drop_eq_nil_iff]
          omega
        have enough : size + length ≤ (script.drop scan.cursor).length := by
          rw [List.length_drop]
          omega
        rw [readHeaderAt] at read
        rw [items_eq, items_of_ne_nil some, read]
        simp only [if_pos enough, List.drop_drop, ← Nat.add_assoc, Result.map_map,
          List.append_assoc, List.singleton_append]
      · cases goesOn
  · cases goesOn

/-- Where the loop ends, it ends with the items of the script. -/
theorem Inside.ends (inside : Inside script turns scan) {result : Except ChainError (List Bytes)}
    (ends : scan.turn script = .ends result) : result = items script := by
  obtain ⟨-, cursor_le, items_eq⟩ := inside
  unfold Scan.turn at ends
  split at ends
  · rename_i before
    have some : script.drop scan.cursor ≠ [] := by
      rw [ne_eq, List.drop_eq_nil_iff]
      omega
    rw [items_eq, items_of_ne_nil some]
    split at ends
    · rename_i e refused
      cases ends
      rw [readHeaderAt] at refused
      rw [refused]
      rfl
    · rename_i length size read
      dsimp only at ends
      split at ends
      · cases ends
      · rename_i short
        cases ends
        have short : ¬ size + length ≤ (script.drop scan.cursor).length := by
          rw [List.length_drop]
          omega
        rw [readHeaderAt] at read
        rw [read]
        simp only [if_neg short]
        rfl
  · rename_i behind
    cases ends
    rw [items_eq, List.drop_eq_nil_iff.mpr (Nat.le_of_not_lt behind), items]
    simp [Except.map]

/-- The loop gives up with errors of scripts only. -/
theorem exists_fault_of_ends {e : ChainError} (ends : scan.turn script = .ends (.error e)) :
    ∃ fault, e = .script fault := by
  unfold Scan.turn at ends
  split at ends
  · split at ends
    · rename_i refused
      cases ends
      exact exists_fault_of_readHeader refused
    · dsimp only at ends
      split at ends
      · cases ends
      · cases ends
        exact ⟨_, rfl⟩
  · cases ends

theorem Reaches.inside (reaches : Reaches script turns scan) : Inside script turns scan := by
  induction reaches with
  | start =>
    exact ⟨Nat.le_refl 0, Nat.zero_le _, (congrFun Except.map_id (items script)).symm⟩
  | turn _ goesOn ih => exact ih.turn goesOn

/-- Wherever the loop stands, it comes to its end. -/
theorem Reaches.exists_ends {turns : Nat} {scan : Scan} (reaches : Reaches script turns scan) :
    ∃ turns' scan', Reaches script turns' scan' ∧ scan'.turn script = .ends (items script) := by
  have inside := reaches.inside
  cases step : scan.turn script with
  | ends result =>
    obtain rfl := inside.ends step
    exact ⟨turns, scan, reaches, step⟩
  | goesOn next =>
    have later := inside.turn step
    exact (Reaches.turn reaches step).exists_ends
termination_by script.length - turns
decreasing_by
  have turns_le := later.turns_le
  have cursor_le := later.cursor_le
  omega

end Scan

/-! ### The shortest header -/

/-- No push of the same data has a shorter header. -/
def Spelling.Least (spelling : Spelling) : Prop :=
  ∀ other : Spelling, other.data = spelling.data → spelling.header.length ≤ other.header.length

theorem Spelling.least_iff_shortest {spelling : Spelling} :
    spelling.Least ↔ spelling.Shortest := by
  constructor
  · intro least
    obtain ⟨written, spelled, own⟩ := exists_bytes_eq_push spelling.length_data_lt
    have shortest : written.Shortest := shortest_iff.mpr (by rw [spelled, own])
    have le := least written own
    rw [shortest, own] at le
    obtain ⟨ge, only⟩ := spelling.header_shortest
    exact only.mp (Nat.le_antisymm ge le)
  · intro shortest other same
    obtain ⟨le, -⟩ := other.header_shortest
    rw [shortest, ← same]
    exact le

/-- The items of a script, pushed again, are the script exactly when no push in it has a header that
could be shorter. -/
theorem pushAll_eq_iff_least {script : Bytes} {xs : List Bytes} (read : items script = .ok xs) :
    pushAll xs = script ↔
      ∃ row : List Spelling, row.flatMap Spelling.bytes = script ∧
        ∀ spelling ∈ row, spelling.Least := by
  rw [pushAll_eq_iff_shortest read, Shortest]
  simp only [Spelling.least_iff_shortest]

/-! ### Pushing and reading -/

/-- Items that fit are read back from their pushes. Items that were read come back when they are
pushed again, in a script that is no longer than the first and is the same when no header in that
one could be shorter; and they are read in front of whatever follows. The loop that reads ends on
every script, within as many turns as there are bytes, stays within the script, and fails with
errors of scripts only. -/
theorem pushing_and_reading_are_inverse :
    (∀ xs : List Bytes, (∀ x ∈ xs, x.length < Word.bound32) → items (pushAll xs) = .ok xs) ∧
    (∀ (script : Bytes) (xs : List Bytes), items script = .ok xs →
      items (pushAll xs) = .ok xs ∧ (pushAll xs).length ≤ script.length ∧
      (pushAll xs = script ↔ ∃ row : List Spelling, row.flatMap Spelling.bytes = script ∧
        ∀ spelling ∈ row, spelling.Least) ∧
      ∀ more, items (script ++ more) = (items more).map (xs ++ ·)) ∧
    ∀ script : Bytes,
      (∃ turns scan, turns ≤ script.length ∧ Scan.Reaches script turns scan ∧
        scan.turn script = .ends (items script)) ∧
      (∀ turns scan, Scan.Reaches script turns scan →
        turns ≤ scan.cursor ∧ scan.cursor ≤ script.length ∧
        ∀ length size, readHeaderAt script scan.cursor = .ok (length, size) →
          scan.cursor + size ≤ script.length) ∧
      ∀ e, items script = .error e → ∃ fault, e = .script fault := by
  refine ⟨fun xs => items_pushAll, fun script xs read => ?_, fun script => ⟨?_, ?_, ?_⟩⟩
  · have shorter := (pushAll_shortest read).1
    exact ⟨items_pushAll (length_of_items read), shorter, pushAll_eq_iff_least read,
      fun more => items_append read⟩
  · obtain ⟨turns, scan, reaches, ends⟩ := (@Scan.Reaches.start script).exists_ends
    have inside := reaches.inside
    exact ⟨turns, scan, Nat.le_trans inside.turns_le inside.cursor_le, reaches, ends⟩
  · intro turns scan reaches
    have inside := reaches.inside
    exact ⟨inside.turns_le, inside.cursor_le, fun length size read => (inside.header_le read).2⟩
  · intro e failed
    obtain ⟨_, _, -, ends⟩ := (@Scan.Reaches.start script).exists_ends
    exact Scan.exists_fault_of_ends (failed ▸ ends)

/-- One byte behind a header that spells its length apart is read, and pushed again a byte shorter;
an opcode that follows is refused. -/
theorem respelled_byte_is_shorter :
    let long : Bytes := [0x4c, 1, 7]
    items (pushAll [[7]]) = .ok [[7]] ∧ items long = .ok [[7]] ∧
      (pushAll [[7]]).length < long.length ∧
      (¬ ∃ row : List Spelling, row.flatMap Spelling.bytes = long ∧
        ∀ spelling ∈ row, spelling.Least) ∧
      items (long ++ [0xae]) = .error (.script (.notPush 0xae)) := by
  intro long
  obtain ⟨-, read, -⟩ := pushing_and_reading_are_inverse
  have back : items long = .ok [[7]] :=
    items_eq_ok_iff.mpr ⟨[⟨0x4c, [1], [7], rfl⟩], rfl, rfl⟩
  have refused : items [0xae] = .error (.script (.notPush 0xae)) := by
    rw [items]
    rfl
  obtain ⟨again, -, least, behind⟩ := read long [[7]] back
  refine ⟨again, back, by decide, fun row => ?_, ?_⟩
  · exact absurd (least.mpr row) (by decide)
  · rw [behind, refused]
    rfl

end Cosigner.Push
