import GoSocks5.Datagram.Basic

/-!
# What the parser accepts

A `Frame` is a UDP request that the parser's checks allow: `FRAG` zero, a known
address type with an address of its width, a port other than `00 00` and at
least one byte of data. Its fields are the ones `NewDatagramFromByte` returns;
on the wire a domain name is preceded by its length byte, which the parser
drops and `NewDatagram` puts back.

The main results are that `newDatagramFromByte` returns `f.datagram` on the
bytes of every frame `f`, and that whatever it accepts is the bytes of a frame.
With the specifications of `newDatagram`, `toBytes` and `address` on frames,
every later proof about the codec starts from these lemmas and never unfolds
the Go functions again.

Every index and slice of `NewDatagramFromByte` comes after the length check that
covers it, so on any input the parser returns a datagram or an error.
-/

namespace GoSocks5

open Slice Except

/-- The address bytes an address type allows, as the parser keeps them. -/
def AddrValid (aTyp : UInt8) (addr : Bytes) : Prop :=
  aTyp = ipv4Address ∧ addr.length = 4 ∨ aTyp = ipv6Address ∧ addr.length = 16 ∨
    aTyp = fqdnAddress ∧ 0 < addr.length ∧ addr.length < 256

/-- A datagram the parser accepts, field by field. -/
structure Frame where
  rsv : Bytes
  aTyp : UInt8
  addr : Bytes
  port : Bytes
  data : Bytes
  rsv_length : rsv.length = 2
  addr_valid : AddrValid aTyp addr
  port_length : port.length = 2
  port_ne_zero : port ≠ [0, 0]
  data_ne_nil : data ≠ []

namespace Frame

/-- `FRAG`, `ATYP`, `DST.ADDR` and `DST.PORT` as they stand on the wire. -/
def header (f : Frame) : Bytes := 0 :: f.aTyp :: (addrField f.aTyp f.addr ++ f.port)

/-- The frame's bytes on the wire. -/
def bytes (f : Frame) : Bytes := f.rsv ++ f.header ++ f.data

/-- The datagram the parser returns for the frame. -/
def datagram (f : Frame) : Datagram :=
  { rsv := f.rsv, frag := 0, aTyp := f.aTyp, dstAddr := f.addr, dstPort := f.port,
    data := f.data }

end Frame

theorem addrField_fqdn (addr : Bytes) :
    addrField fqdnAddress addr = UInt8.ofNat addr.length :: addr := by
  simp [addrField]

theorem addrField_of_ne {aTyp : UInt8} (notFqdn : aTyp ≠ fqdnAddress) (addr : Bytes) :
    addrField aTyp addr = addr := by
  simp [addrField, notFqdn]

theorem pair_of_length_two {l : Bytes} (two : l.length = 2) : ∃ a b, l = [a, b] := by
  match l, two with
  | [a, b], _ => exact ⟨a, b, rfl⟩

theorem bind_ok_pair {ε α β : Type} {x : Except ε α} {n' n : β} {a : α} :
    (x >>= fun y => .ok (n', y)) = .ok (n, a) ↔ n = n' ∧ x = .ok a := by
  cases x <;> simp [eq_comm]

/-- `readDstAddr` finds the address field of a frame behind its first four bytes. -/
theorem readDstAddr_addrField (r0 r1 frag : UInt8) {aTyp : UInt8} {addr : Bytes}
    (valid : AddrValid aTyp addr) (tail : Bytes) :
    readDstAddr (r0 :: r1 :: frag :: aTyp :: (addrField aTyp addr ++ tail)) 4 aTyp =
      .ok (4 + (addrField aTyp addr).length, addr) := by
  rcases valid with ⟨rfl, length⟩ | ⟨rfl, length⟩ | ⟨rfl, positive, short⟩
  · simp +arith [readDstAddr, addrField, slice_of_le, length]
  · simp +arith [readDstAddr, addrField, slice_of_le, length]
  · have byteLength : (UInt8.ofNat addr.length).toNat = addr.length :=
      UInt8.toNat_ofNat_of_lt short
    simp +arith [readDstAddr, addrField, slice_of_le, byteLength,
      Nat.pos_iff_ne_zero.mp positive]

/-- `readDstPort` takes a port other than `00 00` from the two bytes at `needLen`. -/
theorem readDstPort_append (pre : Bytes) {port : Bytes} (portLength : port.length = 2)
    (nonzero : port ≠ [0, 0]) (tail : Bytes) :
    readDstPort (pre ++ port ++ tail) pre.length = .ok (pre.length + 2, port) := by
  match port, portLength with
  | [p0, p1], _ =>
    have portSlice := slice_append pre (p0 :: p1 :: tail) (show 2 ≤ _ by simp)
    simp only [List.append_assoc, List.cons_append, List.nil_append] at portSlice ⊢
    by_cases high : p0 = 0
    · subst high
      have low : p1 ≠ 0 := fun low => nonzero (by rw [low])
      simp +arith [readDstPort, portSlice, low]
    · simp +arith [readDstPort, portSlice, high]

/-- The allocation section fills every field with its source. -/
theorem copyFromByte_eq (memCreater : MemAllocation) {bs : Bytes} (long : 2 ≤ bs.length)
    (frag aTyp : UInt8) (dstAddr dstPort data : Bytes) :
    copyFromByte memCreater bs frag aTyp dstAddr dstPort data =
      .ok { rsv := bs.take 2, frag, aTyp, dstAddr, dstPort, data } := by
  have fits := memCreater.alloc_length (2 + dstAddr.length + dstPort.length + data.length)
  simp only [copyFromByte]
  generalize memCreater.alloc _ = buf at fits ⊢
  obtain ⟨rsv, rsvSlice, rsvLength⟩ := exists_slice_of_le (show 0 ≤ 2 by omega)
    (show 2 ≤ buf.length by omega)
  obtain ⟨addr, addrSlice, addrLength⟩ := exists_slice_of_le
    (show 2 ≤ 2 + dstAddr.length by omega) (show _ ≤ buf.length by omega)
  obtain ⟨port, portSlice, portLength⟩ := exists_slice_of_le
    (show 2 + dstAddr.length ≤ 2 + dstAddr.length + dstPort.length by omega)
    (show _ ≤ buf.length by omega)
  obtain ⟨payload, dataSlice, dataLength⟩ := exists_slice_of_le
    (show 2 + dstAddr.length + dstPort.length ≤
      2 + dstAddr.length + dstPort.length + data.length by omega)
    (show _ ≤ buf.length by omega)
  simp only [rsvSlice, addrSlice, portSlice, dataSlice, slice_of_le (Nat.zero_le 2) long,
    ok_bind, pure_eq]
  simp_all

theorem readDstAddr_ne_panic (bs : Bytes) (needLen : Nat) (aTyp : UInt8) :
    readDstAddr bs needLen aTyp ≠ .error .panic := by
  unfold readDstAddr
  dsimp only
  by_cases ipv4 : aTyp = ipv4Address
  · rw [if_pos ipv4]
    by_cases short : bs.length < needLen + 4
    · rw [if_pos short]
      nofun
    · rw [if_neg short, slice_of_le (Nat.sub_le _ _) (by omega)]
      nofun
  rw [if_neg ipv4]
  by_cases ipv6 : aTyp = ipv6Address
  · rw [if_pos ipv6]
    by_cases short : bs.length < needLen + 16
    · rw [if_pos short]
      nofun
    · rw [if_neg short, slice_of_le (Nat.sub_le _ _) (by omega)]
      nofun
  rw [if_neg ipv6]
  by_cases fqdn : aTyp = fqdnAddress
  · rw [if_pos fqdn]
    by_cases short : bs.length < needLen + 1
    · rw [if_pos short]
      nofun
    obtain ⟨nameLen, read⟩ : ∃ b, index bs (needLen + 1 - 1) = .ok b :=
      ⟨_, index_of_lt (by omega)⟩
    rw [if_neg short, read, ok_bind]
    by_cases empty : nameLen.toNat = 0
    · rw [if_pos empty]
      nofun
    by_cases short : bs.length < needLen + 1 + nameLen.toNat
    · rw [if_neg empty, if_pos short]
      nofun
    · rw [if_neg empty, if_neg short, slice_of_le (Nat.sub_le _ _) (by omega)]
      nofun
  · rw [if_neg fqdn]
    nofun

theorem readDstPort_ne_panic (bs : Bytes) (needLen : Nat) :
    readDstPort bs needLen ≠ .error .panic := by
  unfold readDstPort
  dsimp only
  split_ifs with short
  · simp [datagramIllegal]
  · obtain ⟨port, sliced, portLength⟩ := exists_slice_of_le
      (show needLen + 2 - 2 ≤ needLen + 2 by omega) (not_lt.mp short)
    obtain ⟨p0, p1, rfl⟩ := pair_of_length_two (portLength.trans (by omega))
    simp only [pure_eq, ok_bind, sliced, index_cons_zero, index_cons_succ]
    split_ifs <;> simp [datagramIllegal]

/-- What `readDstAddr` reads is a valid address field, and `needLen` ends it. -/
theorem readDstAddr_eq_ok {r0 r1 frag aTyp : UInt8} {rest addr : Bytes} {n : Nat}
    (read : readDstAddr (r0 :: r1 :: frag :: aTyp :: rest) 4 aTyp = .ok (n, addr)) :
    AddrValid aTyp addr ∧ n = (addrField aTyp addr).length + 4 ∧
      rest = addrField aTyp addr ++ rest.drop (addrField aTyp addr).length := by
  unfold readDstAddr at read
  dsimp only at read
  by_cases ipv4 : aTyp = ipv4Address
  · rw [if_pos ipv4] at read
    by_cases short : (r0 :: r1 :: frag :: aTyp :: rest).length < 4 + 4
    · rw [if_pos short] at read
      exact absurd read nofun
    rw [if_neg short, pure_eq, ok_bind] at read
    obtain ⟨rfl, sliced⟩ := bind_ok_pair.mp read
    obtain ⟨-, -, rfl⟩ := slice_eq_ok_iff.mp sliced
    simp only [List.length_cons] at short
    refine ⟨.inl ⟨ipv4, by simp; omega⟩, by simp [addrField, ipv4]; omega, ?_⟩
    simp [addrField, ipv4, Nat.min_eq_left (show 4 ≤ rest.length by omega)]
  rw [if_neg ipv4] at read
  by_cases ipv6 : aTyp = ipv6Address
  · rw [if_pos ipv6] at read
    by_cases short : (r0 :: r1 :: frag :: aTyp :: rest).length < 4 + 16
    · rw [if_pos short] at read
      exact absurd read nofun
    rw [if_neg short, pure_eq, ok_bind] at read
    obtain ⟨rfl, sliced⟩ := bind_ok_pair.mp read
    obtain ⟨-, -, rfl⟩ := slice_eq_ok_iff.mp sliced
    simp only [List.length_cons] at short
    refine ⟨.inr (.inl ⟨ipv6, by simp; omega⟩), by simp [addrField, ipv6]; omega, ?_⟩
    simp [addrField, ipv6, Nat.min_eq_left (show 16 ≤ rest.length by omega)]
  rw [if_neg ipv6] at read
  by_cases fqdn : aTyp = fqdnAddress
  · rw [if_pos fqdn] at read
    match rest with
    | [] => exact absurd read (by simp)
    | b :: rest =>
      by_cases short : (r0 :: r1 :: frag :: aTyp :: b :: rest).length < 4 + 1
      · rw [if_pos short] at read
        exact absurd read nofun
      rw [if_neg short, pure_eq, ok_bind, show 4 + 1 - 1 = 3 + 1 from rfl, index_cons_succ,
        index_cons_succ, index_cons_succ, index_cons_succ, index_cons_zero, ok_bind] at read
      by_cases zero : b.toNat = 0
      · rw [if_pos zero] at read
        exact absurd read nofun
      by_cases short : (r0 :: r1 :: frag :: aTyp :: b :: rest).length < 4 + 1 + b.toNat
      · rw [if_neg zero, if_pos short] at read
        exact absurd read nofun
      rw [if_neg zero, if_neg short, ok_bind] at read
      obtain ⟨rfl, sliced⟩ := bind_ok_pair.mp read
      obtain ⟨-, -, rfl⟩ := slice_eq_ok_iff.mp sliced
      simp only [List.length_cons] at short
      have nameLength : (List.take b.toNat rest).length = b.toNat := by simp; omega
      refine ⟨.inr (.inr ⟨fqdn, ?_, ?_⟩), ?_, ?_⟩
      · simp; omega
      · simpa [nameLength] using b.toNat_lt_size
      · simp [addrField_fqdn, fqdn]; omega
      · simp [addrField_fqdn, fqdn, nameLength, uint8_ofNat_toNat]
  · rw [if_neg fqdn] at read
    exact absurd read nofun

/-- What `readDstPort` reads are the two bytes at `needLen`, not both zero. -/
theorem readDstPort_eq_ok {bs port : Bytes} {n m : Nat}
    (read : readDstPort bs n = .ok (m, port)) :
    m = n + 2 ∧ m ≤ bs.length ∧ port = (bs.drop n).take 2 ∧ port ≠ [0, 0] := by
  unfold readDstPort at read
  by_cases short : bs.length < n + 2
  · simp [short] at read
  obtain ⟨dstPort, sliced, read⟩ := bind_eq_ok.mp (by simpa [short] using read)
  obtain ⟨p0, p1, rfl⟩ := pair_of_length_two ((length_slice sliced).trans (by omega))
  have result : m = n + 2 ∧ port = [p0, p1] ∧ [p0, p1] ≠ [0, 0] := by
    by_cases high : p0 = 0 <;> by_cases low : p1 = 0 <;> simp [high, low, eq_comm] at read ⊢ <;>
      exact read
  obtain ⟨rfl, rfl, nonzero⟩ := result
  obtain ⟨-, -, taken⟩ := slice_eq_ok_iff.mp sliced
  exact ⟨rfl, by omega, by simpa using taken, nonzero⟩

/-- The parser returns `f.datagram` on the bytes of every frame `f`. -/
theorem newDatagramFromByte_bytes (memCreater : MemAllocation) (f : Frame) :
    newDatagramFromByte memCreater f.bytes = .ok f.datagram := by
  obtain ⟨rsv, aTyp, addr, port, data, rsvLength, valid, portLength, portNonzero, dataNonempty⟩ := f
  match rsv, rsvLength with
  | [r0, r1], _ =>
    obtain ⟨pre, preDef⟩ : ∃ pre : Bytes, pre = r0 :: r1 :: 0 :: aTyp :: addrField aTyp addr :=
      ⟨_, rfl⟩
    have bytesEq : Frame.bytes ⟨[r0, r1], aTyp, addr, port, data, rfl, valid, portLength,
        portNonzero, dataNonempty⟩ = pre ++ port ++ data := by
      simp [Frame.bytes, Frame.header, preDef]
    have preLength : pre.length = 4 + (addrField aTyp addr).length := by simp [preDef]; omega
    have dataLength : data.length ≠ 0 := by simpa using dataNonempty
    have long : ¬(pre ++ port ++ data).length ≤ 4 := by simp [preLength]; omega
    have fragAt : index (pre ++ port ++ data) 2 = .ok 0 := by simp [preDef]
    have aTypAt : index (pre ++ port ++ data) 3 = .ok aTyp := by simp [preDef]
    have addrRead : readDstAddr (pre ++ port ++ data) 4 aTyp = .ok (pre.length, addr) := by
      rw [preLength, preDef]
      simpa using readDstAddr_addrField r0 r1 0 valid (port ++ data)
    have dataSlice : slice (pre ++ port ++ data) (pre.length + 2) (pre ++ port ++ data).length =
        .ok data := by
      simpa [portLength, Nat.add_assoc] using slice_append (pre ++ port) data le_rfl
    have rsvBytes : (pre ++ port ++ data).take 2 = [r0, r1] := by simp [preDef]
    rw [bytesEq]
    simp only [newDatagramFromByte, long, fragAt, aTypAt, addrRead,
      readDstPort_append pre portLength portNonzero data, dataSlice, dataLength,
      copyFromByte_eq memCreater (show 2 ≤ (pre ++ port ++ data).length by omega), rsvBytes,
      if_false, ne_eq, not_true_eq_false, ok_bind, throw_eq, pure_eq, Frame.datagram]

/-- Whatever the parser accepts is the bytes of a frame, and it returns that frame's
fields. -/
theorem exists_frame_of_newDatagramFromByte {memCreater : MemAllocation} {bs : Bytes}
    {d : Datagram} (accepted : newDatagramFromByte memCreater bs = .ok d) :
    ∃ f : Frame, f.bytes = bs ∧ f.datagram = d := by
  match bs, accepted with
  | r0 :: r1 :: frag :: aTyp :: rest, accepted =>
    unfold newDatagramFromByte at accepted
    dsimp only at accepted
    by_cases short : (r0 :: r1 :: frag :: aTyp :: rest).length ≤ 4
    · rw [if_pos short] at accepted
      cases accepted
    rw [if_neg short, pure_eq, ok_bind, index_cons_succ, index_cons_succ, index_cons_zero,
      ok_bind] at accepted
    by_cases fragged : frag ≠ 0
    · rw [if_pos fragged] at accepted
      cases accepted
    rw [if_neg fragged, ok_bind, index_cons_succ, index_cons_succ, index_cons_succ,
      index_cons_zero, ok_bind] at accepted
    obtain ⟨⟨n, addr⟩, addrRead, accepted⟩ := bind_eq_ok.mp accepted
    obtain ⟨valid, rfl, restEq⟩ := readDstAddr_eq_ok addrRead
    obtain ⟨⟨m, port⟩, portRead, accepted⟩ := bind_eq_ok.mp accepted
    obtain ⟨rfl, inBounds, rfl, nonzero⟩ := readDstPort_eq_ok portRead
    obtain ⟨data, dataSlice, accepted⟩ := bind_eq_ok.mp accepted
    by_cases noData : data.length = 0
    · rw [if_pos noData] at accepted
      cases accepted
    rw [if_neg noData, ok_bind, copyFromByte_eq memCreater (by simp)] at accepted
    cases accepted
    obtain ⟨-, -, rfl⟩ := slice_eq_ok_iff.mp dataSlice
    obtain rfl : frag = 0 := not_not.mp fragged
    dsimp only at inBounds nonzero noData
    simp only [List.drop_succ_cons, List.length_cons] at inBounds nonzero noData
    have dataEq : ((rest.drop ((addrField aTyp addr).length + 2)).take
        (rest.length + 1 + 1 + 1 + 1 - ((addrField aTyp addr).length + 4 + 2))) =
        rest.drop ((addrField aTyp addr).length + 2) :=
      List.take_of_length_le (by simp)
    rw [dataEq] at noData
    refine ⟨⟨[r0, r1], aTyp, addr, (rest.drop (addrField aTyp addr).length).take 2,
      rest.drop ((addrField aTyp addr).length + 2), rfl, valid, ?_, nonzero, mt List.length_eq_zero.mpr noData⟩, ?_, ?_⟩
    · simp; omega
    · simp only [Frame.bytes, Frame.header, List.cons_append, List.nil_append, List.append_assoc]
      rw [← List.drop_drop, List.take_append_drop, ← restEq]
    · simp [Frame.datagram]
  | [], accepted | [_], accepted | [_, _], accepted | [_, _, _], accepted =>
    unfold newDatagramFromByte at accepted
    rw [if_pos (by simp)] at accepted
    cases accepted

/-- `NewDatagramFromByte` never panics: on every input it returns a datagram or an
error. -/
theorem newDatagramFromByte_ne_panic (memCreater : MemAllocation) (bs : Bytes) :
    newDatagramFromByte memCreater bs ≠ .error .panic := by
  match bs with
  | r0 :: r1 :: frag :: aTyp :: rest =>
    unfold newDatagramFromByte
    dsimp only
    by_cases short : (r0 :: r1 :: frag :: aTyp :: rest).length ≤ 4
    · rw [if_pos short]
      nofun
    rw [if_neg short, pure_eq, ok_bind, index_cons_succ, index_cons_succ, index_cons_zero, ok_bind]
    by_cases fragged : frag ≠ 0
    · rw [if_pos fragged]
      nofun
    rw [if_neg fragged, ok_bind, index_cons_succ, index_cons_succ, index_cons_succ,
      index_cons_zero, ok_bind]
    refine bind_ne_error (readDstAddr_ne_panic _ _ _) fun ⟨n, addr⟩ read => ?_
    obtain ⟨-, rfl, -⟩ := readDstAddr_eq_ok read
    refine bind_ne_error (readDstPort_ne_panic _ _) fun ⟨m, port⟩ readPort => ?_
    obtain ⟨rfl, inBounds, -, -⟩ := readDstPort_eq_ok readPort
    obtain ⟨data, sliced, -⟩ := exists_slice_of_le inBounds le_rfl
    rw [sliced, ok_bind]
    by_cases noData : data.length = 0
    · rw [if_pos noData]
      nofun
    · rw [if_neg noData, ok_bind, copyFromByte_eq memCreater (by simp)]
      nofun
  | [] | [_] | [_, _] | [_, _, _] => simp [newDatagramFromByte, datagramIllegal]

/-- The parser accepts exactly the bytes of frames. -/
theorem newDatagramFromByte_eq_ok_iff {memCreater : MemAllocation} {bs : Bytes} {d : Datagram} :
    newDatagramFromByte memCreater bs = .ok d ↔ ∃ f : Frame, f.bytes = bs ∧ f.datagram = d := by
  constructor
  · exact exists_frame_of_newDatagramFromByte
  · rintro ⟨f, rfl, rfl⟩
    exact newDatagramFromByte_bytes memCreater f

end GoSocks5
