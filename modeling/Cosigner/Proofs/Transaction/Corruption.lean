import Cosigner.Proofs.Transaction.WireFormat
import Mathlib.Logic.Relation
/-!
What becomes of a transaction whose bytes are cut off or followed by others.

The cursor of a reader moves over bytes that are there and over nothing else, so it never passes the
end of the byte string (`Cursor.Comes.within`). A reader that fails tells of the transaction
what is wrong at the place where the cursor has come to (`Cursor.EndsWell`). No encoding of a
transaction stands in front of another one (`eq_of_prefix_of_encode`), so what is left of an
encoding that is cut off is that of no other transaction (`damaged_length_is_corruption`).
-/

namespace Cosigner

namespace Cursor

variable {α β : Type} {c d c' : Cursor} {bytes : Bytes}

/-! ### Where a cursor can come to -/

/-- A cursor before and after one piece is read: so many bytes, a block, or the form of a count. -/
inductive Moves : Cursor → Cursor → Prop where
  | take {c c' : Cursor} {n : Nat} {bytes : Bytes} (read : c.take n = .ok (bytes, c')) : Moves c c'
  | block {c c' : Cursor} {width : Nat} {block : FixedBytes width}
      (read : c.block width = .ok (block, c')) : Moves c c'
  | count {c : Cursor} {value size : Nat} (read : CompactSize.read c.rest = .ok (value, size)) :
      Moves c (c.advance size)

/-- A cursor before and after any number of pieces. -/
def Comes : Cursor → Cursor → Prop := Relation.ReflTransGen Moves

/-- A cursor stands in a byte string, not behind its end, and has before it what is left from
there. -/
structure Within (c : Cursor) (bytes : Bytes) : Prop where
  offset_le : c.offset ≤ bytes.length
  rest_eq : c.rest = bytes.drop c.offset

theorem within_ofBytes (bytes : Bytes) : (ofBytes bytes).Within bytes :=
  ⟨Nat.zero_le _, rfl⟩

/-- A move passes bytes that are there. -/
theorem Moves.exists_advance (moves : c.Moves c') :
    ∃ n, n ≤ c.rest.length ∧ c' = c.advance n := by
  cases moves with
  | take read =>
    obtain ⟨-, passed⟩ := take_eq_ok_iff.mp read
    exact ⟨_, passed.length_le, passed.2⟩
  | block read =>
    obtain ⟨-, passed⟩ := (reads_block _).mp read
    exact ⟨_, passed.length_le, passed.2⟩
  | count read =>
    obtain ⟨-, front, rfl⟩ := CompactSize.read_eq_ok_iff.mp read
    exact ⟨_, front.length_le, rfl⟩

theorem Within.moves (within : c.Within bytes) (moves : c.Moves c') : c'.Within bytes := by
  obtain ⟨n, enough, rfl⟩ := moves.exists_advance
  obtain ⟨offset, rest⟩ := within
  rw [rest, List.length_drop] at enough
  constructor
  · simp only [advance]
    omega
  · simp only [advance, rest, List.drop_drop]

/-- From the beginning of a byte string, a cursor comes to no place behind its end. -/
theorem Comes.within (comes : (ofBytes bytes).Comes c) : c.Within bytes := by
  induction comes with
  | refl => exact within_ofBytes bytes
  | tail _ moves ih => exact ih.moves moves

/-! ### How a reader ends -/

/-- What a fault says is so where the cursor stands. -/
inductive Refuses (c : Cursor) : TransactionFault → Prop where
  /-- No count stands in front of the cursor. -/
  | malformed {fault : TransactionFault}
      (refused : CompactSize.read c.rest = .error (.transaction fault)) : Refuses c fault
  /-- Fewer bytes are left than have to be read. -/
  | short {needed : Nat} (less : c.rest.length < needed) :
      Refuses c (.short needed c.offset c.rest.length)
  /-- Fewer bytes are left than a count says. -/
  | overrun {declared : Nat} (less : c.rest.length < declared) :
      Refuses c (.overrun declared c.rest.length)
  /-- Bytes are left behind the transaction. -/
  | trailing (left : c.rest ≠ []) : Refuses c (.trailing c.rest.length)

/-- How reading ends: the cursor has moved on, or a fault of the transaction is told that is found
at the place where the cursor has come to. -/
def EndsWell (c : Cursor) : Except ChainError (α × Cursor) → Prop
  | .ok (_, c') => c.Comes c'
  | .error e => ∃ d fault, c.Comes d ∧ d.Refuses fault ∧ e = .transaction fault

theorem endsWell_pure (c : Cursor) (a : α) : c.EndsWell (.ok (a, c)) :=
  Relation.ReflTransGen.refl

theorem EndsWell.bind {x : Except ChainError (α × Cursor)}
    {f : α × Cursor → Except ChainError (β × Cursor)} (first : c.EndsWell x)
    (second : ∀ a (d : Cursor), d.EndsWell (f (a, d))) : c.EndsWell (x >>= f) := by
  cases x with
  | error e => exact first
  | ok read =>
    obtain ⟨a, d⟩ := read
    have behind := second a d
    show c.EndsWell (f (a, d))
    cases ends : f (a, d) with
    | ok read =>
      rw [ends] at behind
      exact Relation.ReflTransGen.trans first behind
    | error e =>
      rw [ends] at behind
      obtain ⟨d', fault, comes, refuses, same⟩ := behind
      exact ⟨d', fault, Relation.ReflTransGen.trans first comes, refuses, same⟩

theorem endsWell_of_refuses {fault : TransactionFault} (refuses : c.Refuses fault) :
    c.EndsWell (.error (.transaction fault) : Except ChainError (α × Cursor)) :=
  ⟨c, fault, .refl, refuses, rfl⟩

/-! ### The readers -/

theorem endsWell_take (c : Cursor) (n : Nat) : c.EndsWell (c.take n) := by
  cases read : c.take n with
  | ok taken => exact .single (.take read)
  | error e =>
    rw [take, Bytes.holds_eq] at read
    split at read
    · cases read
    · rename_i less
      cases read
      exact endsWell_of_refuses (.short (by simpa using less))

theorem endsWell_block (c : Cursor) (width : Nat) : c.EndsWell (c.block width) := by
  cases read : c.block width with
  | ok taken => exact .single (.block read)
  | error e =>
    rw [block] at read
    split at read
    · cases read
    · rename_i less
      cases read
      rw [Bytes.holds_eq] at less
      exact endsWell_of_refuses (.short (by simpa using less))

theorem endsWell_number (c : Cursor) (width : Nat) : c.EndsWell (c.number width) :=
  (endsWell_take c width).bind fun _ d => endsWell_pure d _

theorem endsWell_count (c : Cursor) : c.EndsWell c.count := by
  rw [count]
  cases read : CompactSize.read c.rest with
  | error e =>
    obtain ⟨fault, rfl⟩ := CompactSize.exists_fault_of_read read
    exact endsWell_of_refuses (.malformed read)
  | ok form =>
    obtain ⟨value, size⟩ := form
    have moved : c.Comes (c.advance size) := .single (.count read)
    show c.EndsWell (if Bytes.holds value (c.advance size).rest then _ else _)
    rw [Bytes.holds_eq]
    split
    · exact moved
    · rename_i less
      exact ⟨_, _, moved, .overrun (by simpa using less), rfl⟩

theorem endsWell_script (c : Cursor) : c.EndsWell c.script :=
  (endsWell_count c).bind fun length d => endsWell_take d length

theorem endsWell_many {read : Cursor → Except ChainError (α × Cursor)}
    (one : ∀ c, EndsWell c (read c)) (n : Nat) (c : Cursor) : c.EndsWell (many read n c) := by
  induction n generalizing c with
  | zero => exact endsWell_pure c []
  | succ n ih => exact (one c).bind fun _ d => (ih d).bind fun _ d' => endsWell_pure d' _

end Cursor

theorem Input.endsWell_read (c : Cursor) : c.EndsWell (Input.read c) := by
  refine (Cursor.endsWell_block c 32).bind fun hash c => ?_
  refine (Cursor.endsWell_number c 4).bind fun index c => ?_
  refine (Cursor.endsWell_script c).bind fun script c => ?_
  exact (Cursor.endsWell_number c 4).bind fun sequence c => Cursor.endsWell_pure c _

theorem Output.endsWell_read (c : Cursor) : c.EndsWell (Output.read c) := by
  refine (Cursor.endsWell_number c 8).bind fun amount c => ?_
  exact (Cursor.endsWell_script c).bind fun script c => Cursor.endsWell_pure c _

namespace Transaction

theorem endsWell_read (c : Cursor) : c.EndsWell (Transaction.read c) := by
  refine (Cursor.endsWell_number c 4).bind fun version c => ?_
  refine (Cursor.endsWell_count c).bind fun inputCount c => ?_
  refine (Cursor.endsWell_many Input.endsWell_read inputCount c).bind fun inputs c => ?_
  refine (Cursor.endsWell_count c).bind fun outputCount c => ?_
  refine (Cursor.endsWell_many Output.endsWell_read outputCount c).bind fun outputs c => ?_
  exact (Cursor.endsWell_number c 4).bind fun lockTime c => Cursor.endsWell_pure c _

/-- How a byte string is read as a transaction, with the cursor at the end: it is read to its end,
or it is corrupt where the cursor stands. -/
inductive ParsedTo (bytes : Bytes) (c : Cursor) : Prop where
  | complete {tx : Transaction} (parsed : parse bytes = .ok tx)
      (read : Transaction.read (.ofBytes bytes) = .ok (tx, c)) (done : c.rest = [])
  | corrupt {fault : TransactionFault} (parsed : parse bytes = .error (.transaction fault))
      (refuses : c.Refuses fault)

/-- A transaction that is read is parsed when nothing is left behind it. -/
theorem parse_of_read {bytes : Bytes} {tx : Transaction} {c : Cursor}
    (read : Transaction.read (.ofBytes bytes) = .ok (tx, c)) :
    parse bytes = if c.rest = [] then .ok tx
      else .error (.transaction (.trailing c.rest.length)) := by
  rw [parse, read]
  simp only [← List.isEmpty_iff]
  rfl

theorem exists_parsedTo (bytes : Bytes) :
    ∃ c, (Cursor.ofBytes bytes).Comes c ∧ ParsedTo bytes c := by
  have ends := endsWell_read (.ofBytes bytes)
  cases read : Transaction.read (.ofBytes bytes) with
  | error e =>
    rw [read] at ends
    obtain ⟨c, fault, comes, refuses, rfl⟩ := ends
    have parsed : parse bytes = .error (.transaction fault) := by
      rw [parse, read]
      rfl
    exact ⟨c, comes, .corrupt parsed refuses⟩
  | ok done =>
    obtain ⟨tx, c⟩ := done
    rw [read] at ends
    refine ⟨c, ends, ?_⟩
    by_cases left : c.rest = []
    · exact .complete (by rw [parse_of_read read, if_pos left]) read left
    · exact .corrupt (by rw [parse_of_read read, if_neg left]) (.trailing left)

/-! ### Encodings in front of byte strings -/

variable {tx tx' : Transaction}

theorem read_encode_append (fits : tx.Fits) (suffix : Bytes) :
    Transaction.read (.ofBytes (tx.encode ++ suffix)) = .ok (tx, ⟨tx.encode.length, suffix⟩) := by
  refine reads_read.mpr ⟨fits, List.prefix_append _ _, ?_⟩
  simp [Cursor.advance, Cursor.ofBytes]

/-- No encoding stands in front of another one. -/
theorem eq_of_prefix_of_encode (fits : tx.Fits) (fits' : tx'.Fits)
    (front : tx.encode <+: tx'.encode) : tx = tx' := by
  obtain ⟨suffix, whole⟩ := front
  have read := read_encode_append fits suffix
  rw [whole, ← List.append_nil tx'.encode, read_encode_append fits' []] at read
  cases read
  rfl

/-- A byte string is corrupt: reading it tells a fault of the transaction. -/
def IsCorrupt (bytes : Bytes) : Prop := ∃ fault, parse bytes = .error (.transaction fault)

theorem parses_or_isCorrupt (bytes : Bytes) :
    (∃ tx, parse bytes = .ok tx) ∨ IsCorrupt bytes := by
  obtain ⟨c, -, ends⟩ := exists_parsedTo bytes
  cases ends with
  | complete parsed => exact .inl ⟨_, parsed⟩
  | corrupt parsed => exact .inr ⟨_, parsed⟩

theorem isCorrupt_of_truncated {cut : Bytes} (fits : tx.Fits) (front : cut <+: tx.encode)
    (short : cut ≠ tx.encode) : IsCorrupt cut := by
  refine (parses_or_isCorrupt cut).resolve_left ?_
  rintro ⟨tx', parsed⟩
  obtain ⟨fits', rfl⟩ := parse_eq_ok_iff.mp parsed
  exact short (congrArg encode (eq_of_prefix_of_encode fits' fits front))

theorem parse_encode_append {suffix : Bytes} (fits : tx.Fits) (more : suffix ≠ []) :
    parse (tx.encode ++ suffix) = .error (.transaction (.trailing suffix.length)) := by
  rw [parse_of_read (read_encode_append fits suffix), if_neg more]

/-- Every damage to the length of a transaction is corruption: a part of its bytes from the
beginning is corrupt, and so are its bytes with others behind them. Any byte string at all is read
as a transaction or is corrupt, with the cursor nowhere behind the end. -/
theorem damaged_length_is_corruption (tx : Transaction) (fits : tx.Fits) (bytes : Bytes) :
    (bytes <+: tx.encode → bytes ≠ tx.encode → IsCorrupt bytes) ∧
      (bytes ≠ [] → IsCorrupt (tx.encode ++ bytes)) ∧
      (∀ c, (Cursor.ofBytes bytes).Comes c → c.Within bytes) ∧
      ∃ c, (Cursor.ofBytes bytes).Comes c ∧ ParsedTo bytes c :=
  ⟨isCorrupt_of_truncated fits, fun more => ⟨_, parse_encode_append fits more⟩,
    fun _ => Cursor.Comes.within, exists_parsedTo bytes⟩

/-- A transaction that spends one output and makes one. -/
def oneSpend : Transaction := .new [.unsigned ⟨.ofNatBE 32 7, 0⟩] [⟨90000, [0x51]⟩]

/-- One byte less or one byte more makes a transaction corrupt. -/
theorem one_byte_less_or_more_is_corrupt :
    IsCorrupt oneSpend.encode.dropLast ∧ IsCorrupt (oneSpend.encode ++ [0x00]) := by
  have fits : oneSpend.Fits :=
    ⟨by decide, by decide⟩
  obtain ⟨short, -⟩ := damaged_length_is_corruption oneSpend fits oneSpend.encode.dropLast
  obtain ⟨-, long, -⟩ := damaged_length_is_corruption oneSpend fits [0x00]
  exact ⟨short (List.dropLast_prefix _) (by decide), long (by decide)⟩

end Transaction

end Cosigner
