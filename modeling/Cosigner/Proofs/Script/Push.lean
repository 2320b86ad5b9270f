import Cosigner.Proofs.Bytes
import Cosigner.Script.Push
/-!
Reading back the pushes of a script.

The same data can be pushed behind more than one header; a `Spelling` is one push as it stands.

* `items_eq_ok_iff`: what is read from a script is the data of a row of pushes.
* `flatMap_bytes_injective`: a script is such a row in at most one way.
* `items_pushAll`: pushes are read back as what was pushed, when every length fits into the four
  bytes that a push has for it.
* `length_of_items`: what is read from a script is never longer than that.
* `pushAll_shortest`: of all scripts with the same items, the one that pushes them is the shortest.
* `pushAll_eq_iff_shortest`: it is the script itself exactly when each push has the shortest header.
-/

namespace Cosigner.Push

/-! ### The header of a push -/

/-- An opcode with a written length behind it announces that length. -/
theorem announced_wide {opcode : UInt8} {width n : Nat} (rest : Bytes)
    (wide : lengthWidth? opcode = some (width + 1)) (fits : n < Bytes.capacity (width + 1)) :
    announced opcode (Bytes.ofNatLE (width + 1) n ++ rest) = .ok (n, width + 1) := by
  have written : Bytes.ofNatLE (width + 1) n <+: Bytes.ofNatLE (width + 1) n ++ rest :=
    List.prefix_append _ rest
  obtain ⟨long, read⟩ := Bytes.ofNatLE_prefix_iff.mp ⟨fits, written⟩
  simp only [announced, wide, Bytes.holds_eq, long, decide_true, if_true, read]

/-- The header of a length that fits announces it, and takes as many bytes as it says. -/
theorem announced_header {n : Nat} (fits : n < Word.bound32) :
    ∃ opcode front, header n = opcode :: front ∧
      ∀ rest, announced opcode (front ++ rest) = .ok (n, front.length) := by
  unfold header
  split
  · rename_i direct
    refine ⟨UInt8.ofNat n, [], rfl, ?_⟩
    intro rest
    have value : (UInt8.ofNat n).toNat = n :=
      UInt8.toNat_ofNat_of_lt' (Nat.lt_trans direct (by decide))
    have below : UInt8.ofNat n < 0x4c := by
      rw [UInt8.lt_iff_toNat_lt, value]
      exact direct
    simp only [announced, lengthWidth?, below, if_true, value, List.length_nil]
  · split
    · refine ⟨0x4c, _, rfl, fun rest => ?_⟩
      rw [Bytes.length_ofNatLE]
      exact announced_wide rest rfl (by rw [Bytes.capacity_succ]; simp [Bytes.capacity]; omega)
    · split
      · refine ⟨0x4d, _, rfl, fun rest => ?_⟩
        rw [Bytes.length_ofNatLE]
        exact announced_wide rest rfl (by rw [Bytes.capacity_two]; omega)
      · refine ⟨0x4e, _, rfl, fun rest => ?_⟩
        rw [Bytes.length_ofNatLE]
        exact announced_wide rest rfl fits

theorem lengthWidth?_le {opcode : UInt8} {width : Nat} (h : lengthWidth? opcode = some width) :
    width ≤ 4 := by
  unfold lengthWidth? at h
  repeat' split at h
  all_goals cases h
  all_goals decide

theorem announced_lt {opcode : UInt8} {rest : Bytes} {length width : Nat}
    (h : announced opcode rest = .ok (length, width)) : length < Word.bound32 := by
  unfold announced at h
  split at h
  · cases h
  · cases h
    exact Nat.lt_trans opcode.toNat_lt (by decide)
  · rename_i wide
    split at h
    · cases h
      have bound := Bytes.toNatLE_lt (rest.take width)
      have narrow : (rest.take width).length ≤ 4 := by
        rw [List.length_take]
        exact Nat.le_trans (Nat.min_le_left _ _) (lengthWidth?_le wide)
      exact Nat.lt_of_lt_of_le bound (Nat.pow_le_pow_right (by decide) narrow)
    · cases h

theorem length_header (n : Nat) :
    (header n).length = if n < 0x4c then 1 else if n ≤ 0xff then 2 else if n ≤ 0xffff then 3
      else 5 := by
  unfold header
  split
  · rfl
  · split
    · simp
    · split <;> simp

/-- Of few bytes, their number is the opcode. -/
theorem push_of_lt {data : Bytes} (short : data.length < 0x4c) :
    push data = UInt8.ofNat data.length :: data := by
  rw [push, header, if_pos short]
  rfl

theorem lengthWidth?_eq_some_iff {opcode : UInt8} {width : Nat} :
    lengthWidth? opcode = some width ↔
      (opcode < 0x4c ∧ width = 0) ∨ (opcode = 0x4c ∧ width = 1) ∨ (opcode = 0x4d ∧ width = 2) ∨
        (opcode = 0x4e ∧ width = 4) := by
  unfold lengthWidth?
  grind

/-- The bytes that spell a length are there. -/
theorem width_le_of_announced {opcode : UInt8} {rest : Bytes} {n width : Nat}
    (announces : announced opcode rest = .ok (n, width)) : width ≤ rest.length := by
  unfold announced at announces
  split at announces
  · cases announces
  · cases announces
    exact Nat.zero_le _
  · split at announces
    · rename_i enough
      cases announces
      rw [Bytes.holds_eq] at enough
      exact of_decide_eq_true enough
    · cases announces

/-- The header that is written for a length takes at most as many bytes as any that announces it,
and exactly as many only when it is that one. -/
theorem header_shortest {opcode : UInt8} {rest : Bytes} {n width : Nat}
    (announces : announced opcode rest = .ok (n, width)) :
    (header n).length ≤ 1 + width ∧
      ((header n).length = 1 + width → header n = opcode :: rest.take width) := by
  have long := width_le_of_announced announces
  rw [length_header]
  unfold announced at announces
  split at announces
  · cases announces
  · rename_i direct
    cases announces
    have small : opcode.toNat < 0x4c := by
      rcases lengthWidth?_eq_some_iff.mp direct with ⟨below, -⟩ | ⟨-, h⟩ | ⟨-, h⟩ | ⟨-, h⟩
      · exact UInt8.lt_iff_toNat_lt.mp below
      all_goals cases h
    rw [header, if_pos small, if_pos small, UInt8.ofNat_toNat]
    exact ⟨Nat.le_refl 1, fun _ => rfl⟩
  · rename_i direct wide
    split at announces
    · cases announces
      have spelled := Bytes.ofNatLE_toNatLE (rest.take width)
      have bound := Bytes.toNatLE_lt (rest.take width)
      rw [List.length_take_of_le long] at spelled bound
      generalize Bytes.toNatLE (rest.take width) = n at *
      rw [header, ← spelled]
      rcases lengthWidth?_eq_some_iff.mp wide with ⟨-, rfl⟩ | ⟨rfl, rfl⟩ | ⟨rfl, rfl⟩ | ⟨rfl, rfl⟩
      · exact absurd rfl direct
      · rw [Bytes.capacity_one] at bound
        grind
      · rw [Bytes.capacity_two] at bound
        grind
      · grind
    · cases announces

/-- What an opcode announces does not depend on what follows the length. -/
theorem announced_take_append {opcode : UInt8} {rest : Bytes} {n width : Nat}
    (announces : announced opcode rest = .ok (n, width)) (behind : Bytes) :
    announced opcode (rest.take width ++ behind) = .ok (n, width) := by
  have long := width_le_of_announced announces
  unfold announced at announces ⊢
  split at announces
  · cases announces
  · rename_i direct
    cases announces
    rfl
  · rename_i direct wide
    split at announces
    · cases announces
      have enough : Bytes.holds width (rest.take width ++ behind) = true := by
        simp [Bytes.holds_eq, long]
      simp only [enough, if_true, List.take_left' (List.length_take_of_le long)]
    · cases announces

/-! ### Pushes as they are spelled -/

/-- A push as it stands in a script: an opcode, the bytes that spell a length, and the data. -/
structure Spelling where
  opcode : UInt8
  lengthBytes : Bytes
  data : Bytes
  announces : announced opcode lengthBytes = .ok (data.length, lengthBytes.length)
deriving DecidableEq

namespace Spelling

def header (spelling : Spelling) : Bytes := spelling.opcode :: spelling.lengthBytes

def bytes (spelling : Spelling) : Bytes := spelling.header ++ spelling.data

/-- The push has the header that is written for its data. -/
def Shortest (spelling : Spelling) : Prop :=
  spelling.header = Push.header spelling.data.length

theorem length_data_lt (spelling : Spelling) : spelling.data.length < Word.bound32 :=
  announced_lt spelling.announces

theorem length_bytes (spelling : Spelling) :
    spelling.bytes.length = spelling.header.length + spelling.data.length :=
  List.length_append

/-- The push of data, with the shortest header. -/
theorem exists_bytes_eq_push {data : Bytes} (fits : data.length < Word.bound32) :
    ∃ spelling : Spelling, spelling.bytes = push data ∧ spelling.data = data := by
  obtain ⟨opcode, lengthBytes, spelled, announces⟩ := announced_header fits
  have own := announces []
  rw [List.append_nil] at own
  exact ⟨⟨opcode, lengthBytes, data, own⟩, by rw [bytes, header, push, spelled], rfl⟩

/-- No header for the same data is shorter than the one that is written, and no other as short. -/
theorem header_shortest (spelling : Spelling) :
    (Push.header spelling.data.length).length ≤ spelling.header.length ∧
      ((Push.header spelling.data.length).length = spelling.header.length ↔
        spelling.Shortest) := by
  obtain ⟨shorter, only⟩ := Push.header_shortest spelling.announces
  rw [List.take_length] at only
  rw [header, List.length_cons, Nat.add_comm]
  refine ⟨shorter, fun same => (only same).symm, fun shortest => ?_⟩
  rw [← shortest, header, List.length_cons, Nat.add_comm]

/-- A push has the shortest header when it is the push of its data. -/
theorem shortest_iff {spelling : Spelling} :
    spelling.Shortest ↔ spelling.bytes = push spelling.data := by
  rw [Shortest, bytes, push, List.append_left_inj]

/-- Where the push in front of a script ends can be told from the bytes. -/
theorem bytes_append_inj {first second : Spelling} {script script' : Bytes}
    (same : first.bytes ++ script = second.bytes ++ script') :
    first = second ∧ script = script' := by
  obtain ⟨opcode, lengthBytes, data, announces⟩ := first
  obtain ⟨opcode', lengthBytes', data', announces'⟩ := second
  simp only [bytes, header, List.cons_append, List.append_assoc, List.cons.injEq] at same
  obtain ⟨rfl, rest⟩ := same
  -- Both are announced by the same opcode in front of the same bytes.
  have read := announced_take_append announces (data ++ script)
  have read' := announced_take_append announces' (data' ++ script')
  rw [List.take_length, rest] at read
  rw [List.take_length, read, Except.ok.injEq, Prod.mk.injEq] at read'
  obtain ⟨rfl, behind⟩ := List.append_inj rest read'.2
  obtain ⟨rfl, rfl⟩ := List.append_inj behind read'.1
  exact ⟨rfl, rfl⟩

end Spelling

/-! ### Scripts of pushes -/

/-- A push in front of a script is one more item in front of those of the script. -/
theorem items_bytes_append (spelling : Spelling) (script : Bytes) :
    items (spelling.bytes ++ script) = (items script).map (spelling.data :: ·) := by
  have announces := announced_take_append spelling.announces (spelling.data ++ script)
  rw [List.take_length] at announces
  have enough : Bytes.holds spelling.data.length (spelling.data ++ script) = true := by
    simp [Bytes.holds_eq]
  rw [Spelling.bytes, Spelling.header, List.cons_append, List.cons_append, List.append_assoc,
    items, announces]
  simp only [List.drop_left, enough, if_true, List.take_left]
  cases items script with
  | error e => rfl
  | ok tail => rfl

/-- A script has items exactly when it is a row of pushes of them. -/
theorem items_eq_ok_iff {script : Bytes} {xs : List Bytes} :
    items script = .ok xs ↔ ∃ spellings : List Spelling,
      spellings.flatMap Spelling.bytes = script ∧ spellings.map Spelling.data = xs := by
  constructor
  · intro read
    induction script using items.induct generalizing xs with
    | case1 =>
      rw [items] at read
      cases read
      exact ⟨[], rfl, rfl⟩
    | case2 opcode rest e refused =>
      rw [items, refused] at read
      cases read
    | case3 opcode rest length width announces enough tail later ih =>
      rw [items, announces] at read
      simp only [enough, if_true, later] at read
      cases read
      obtain ⟨spellings, row, rfl⟩ := ih later
      rw [Bytes.holds_eq] at enough
      have size := List.length_take_of_le (of_decide_eq_true enough)
      have front := List.length_take_of_le (width_le_of_announced announces)
      have own := announced_take_append announces []
      rw [List.append_nil] at own
      refine ⟨⟨opcode, rest.take width, (rest.drop width).take length, ?_⟩ :: spellings, ?_, rfl⟩
      · rw [size, front]
        exact own
      · rw [List.flatMap_cons, row, Spelling.bytes, Spelling.header, List.cons_append,
          List.cons_append, List.append_assoc, List.take_append_drop, List.take_append_drop]
    | case4 opcode rest length width announces enough e refused ih =>
      rw [items, announces] at read
      simp only [enough, if_true, refused] at read
      cases read
    | case5 opcode rest length width announces short =>
      rw [items, announces] at read
      simp only [short] at read
      cases read
  · rintro ⟨spellings, rfl, rfl⟩
    induction spellings with
    | nil => rw [List.flatMap_nil, items, List.map_nil]
    | cons spelling spellings ih =>
      rw [List.flatMap_cons, items_bytes_append, ih]
      rfl

/-- A script can be cut into pushes in at most one way. -/
theorem flatMap_bytes_injective :
    Function.Injective fun spellings : List Spelling => spellings.flatMap Spelling.bytes := by
  intro first second same
  dsimp only at same
  induction first generalizing second with
  | nil =>
    cases second with
    | nil => rfl
    | cons spelling second => cases same
  | cons spelling first ih =>
    cases second with
    | nil => cases same
    | cons spelling' second =>
      rw [List.flatMap_cons, List.flatMap_cons] at same
      obtain ⟨rfl, rest⟩ := Spelling.bytes_append_inj same
      rw [ih rest]

/-- Pushes are read back as what was pushed. -/
theorem items_pushAll {xs : List Bytes} (fits : ∀ x ∈ xs, x.length < Word.bound32) :
    items (pushAll xs) = .ok xs := by
  induction xs with
  | nil => rw [pushAll, List.flatMap_nil, items]
  | cons x xs ih =>
    obtain ⟨fit, fits⟩ := List.forall_mem_cons.mp fits
    obtain ⟨spelling, spelled, own⟩ := Spelling.exists_bytes_eq_push fit
    rw [pushAll, List.flatMap_cons, ← spelled, ← own, items_bytes_append, ← pushAll, ih fits]
    rfl

/-- A push of one byte too many is headed by a length of zero, so its data is read as opcodes. -/
theorem items_push_wide {rest : Bytes} (wide : rest.length + 1 = Word.bound32) :
    items (push (0xff :: rest)) = .error (.script (.notPush 0xff)) := by
  have headed : push (0xff :: rest) = 0x4e :: 0 :: 0 :: 0 :: 0 :: 0xff :: rest := by
    rw [push, List.length_cons, wide]
    rfl
  have announces : announced 0x4e (0 :: 0 :: 0 :: 0 :: 0xff :: rest) = .ok (0, 4) := rfl
  have refused : announced 0xff rest = .error (.script (.notPush 0xff)) := rfl
  rw [headed, items, announces]
  simp only [Bytes.holds, if_true, List.drop_succ_cons, List.drop_zero]
  rw [items, refused]

/-- No item of a script is longer than a push can say. -/
theorem length_of_items {script : Bytes} {xs : List Bytes} (h : items script = .ok xs) :
    ∀ x ∈ xs, x.length < Word.bound32 := by
  obtain ⟨spellings, -, rfl⟩ := items_eq_ok_iff.mp h
  exact List.forall_mem_map.mpr fun spelling _ => spelling.length_data_lt

/-! ### The shortest script -/

/-- Data pushed again takes at most as many bytes as before, and exactly as many only when every
push had the shortest header. -/
theorem length_pushAll_le (spellings : List Spelling) :
    (pushAll (spellings.map Spelling.data)).length ≤ (spellings.flatMap Spelling.bytes).length ∧
      ((pushAll (spellings.map Spelling.data)).length =
          (spellings.flatMap Spelling.bytes).length →
        ∀ spelling ∈ spellings, spelling.Shortest) := by
  induction spellings with
  | nil => exact ⟨Nat.le_refl 0, fun _ _ mem => absurd mem List.not_mem_nil⟩
  | cons spelling spellings ih =>
    obtain ⟨shorter, only⟩ := ih
    obtain ⟨shorter', only'⟩ := spelling.header_shortest
    rw [pushAll] at shorter only ⊢
    rw [List.map_cons, List.flatMap_cons, List.flatMap_cons, List.length_append,
      List.length_append, push, List.length_append, spelling.length_bytes]
    refine ⟨by omega, fun same => List.forall_mem_cons.mpr ⟨?_, only ?_⟩⟩
    · exact only'.mp (by omega)
    · omega

/-- Data pushed again gives the script back when every push had the shortest header. -/
theorem pushAll_map_data {spellings : List Spelling}
    (shortest : ∀ spelling ∈ spellings, spelling.Shortest) :
    pushAll (spellings.map Spelling.data) = spellings.flatMap Spelling.bytes := by
  rw [pushAll, List.flatMap_map, List.flatMap_def, List.flatMap_def]
  refine congrArg List.flatten (List.map_congr_left fun spelling mem => ?_)
  rw [push, Spelling.bytes, shortest spelling mem]

/-- Every push of the script has the shortest header. -/
def Shortest (script : Bytes) : Prop :=
  ∃ spellings : List Spelling, spellings.flatMap Spelling.bytes = script ∧
    ∀ spelling ∈ spellings, spelling.Shortest

/-- The items of a script, pushed again, take at most as many bytes as the script, and exactly as
many only when they are pushed as in the script. -/
theorem pushAll_shortest {script : Bytes} {xs : List Bytes} (read : items script = .ok xs) :
    (pushAll xs).length ≤ script.length ∧
      ((pushAll xs).length = script.length → pushAll xs = script) := by
  obtain ⟨spellings, rfl, rfl⟩ := items_eq_ok_iff.mp read
  obtain ⟨shorter, only⟩ := length_pushAll_le spellings
  exact ⟨shorter, fun same => pushAll_map_data (only same)⟩

/-- The items of a script, pushed again, are the script exactly when its headers are shortest. -/
theorem pushAll_eq_iff_shortest {script : Bytes} {xs : List Bytes}
    (read : items script = .ok xs) : pushAll xs = script ↔ Shortest script := by
  constructor
  · intro same
    obtain ⟨spellings, rfl, rfl⟩ := items_eq_ok_iff.mp read
    obtain ⟨-, only⟩ := length_pushAll_le spellings
    exact ⟨spellings, rfl, only (congrArg List.length same)⟩
  · rintro ⟨spellings, row, shortest⟩
    have again := items_eq_ok_iff.mpr ⟨spellings, row, rfl⟩
    rw [Except.ok.inj (read.symm.trans again), pushAll_map_data shortest, row]

end Cosigner.Push
