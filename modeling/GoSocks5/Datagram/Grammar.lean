import GoSocks5.Datagram.Frame

/-!
# The UDP datagram grammar

The layout of a UDP request, written from byte positions alone: `FRAG` at
`bs[2]`, `ATYP` at `bs[3]`, an address of a width `a` from `bs[4]`, the port at
`bs[4+a : 6+a]` and the data after it. `a` is 4 for IPv4, 16 for IPv6, and for a
domain name its length byte `bs[4]`, which may not be zero, and the name.

The main result is that `NewDatagramFromByte` accepts exactly the byte strings
of the grammar and returns the fields at these positions. It goes through
`Frame`: the bytes of every frame are in the grammar, and every string in the
grammar is the bytes of a frame.
-/

namespace GoSocks5

open Slice Except

/-- The width `a` the grammar gives the address of `bs`, from its `ATYP` `bs[3]`:
four bytes for IPv4, sixteen for IPv6, and for a domain name the length byte
`bs[4]`, at least one, and the name. Other address types have none. -/
def grammarAddrLen (bs : Bytes) : Option Nat :=
  match bs[3]? with
  | some aTyp =>
    if aTyp = ipv4Address then some 4
    else if aTyp = ipv6Address then some 16
    else if aTyp = fqdnAddress then
      match bs[4]? with
      | some nameLen => if 1 ≤ nameLen.toNat then some (1 + nameLen.toNat) else none
      | none => none
    else none
  | none => none

/-- The UDP datagram grammar: `FRAG` zero, an address type with a width `a`, more
than `4 + a + 2` bytes, and a port other than `00 00`. -/
def InDatagramGrammar (bs : Bytes) : Prop :=
  match grammarAddrLen bs with
  | some a => bs[2]? = some 0 ∧ 4 + a + 2 < bs.length ∧
      (bs[4 + a]?, bs[5 + a]?) ≠ (some 0, some 0)
  | none => False

instance : DecidablePred InDatagramGrammar := fun bs =>
  match width : grammarAddrLen bs with
  | some a =>
    decidable_of_iff (bs[2]? = some 0 ∧ 4 + a + 2 < bs.length ∧
      (bs[4 + a]?, bs[5 + a]?) ≠ (some 0, some 0)) (by rw [InDatagramGrammar, width])
  | none => isFalse (by rw [InDatagramGrammar, width]; exact id)

/-- An address field the parser allows has the width the grammar gives it. -/
theorem grammarAddrLen_addrField (r0 r1 frag : UInt8) {aTyp : UInt8} {addr : Bytes}
    (valid : AddrValid aTyp addr) (tail : Bytes) :
    grammarAddrLen (r0 :: r1 :: frag :: aTyp :: (addrField aTyp addr ++ tail)) =
      some (addrField aTyp addr).length := by
  rcases valid with ⟨rfl, length⟩ | ⟨rfl, length⟩ | ⟨rfl, positive, short⟩
  · simp [grammarAddrLen, addrField, length]
  · simp [grammarAddrLen, addrField, length]
  · have byteLength : (UInt8.ofNat addr.length).toNat = addr.length :=
      UInt8.toNat_ofNat_of_lt short
    simp [grammarAddrLen, addrField, byteLength]
    omega

/-- The first `a` bytes after the header, for a width `a` of the grammar, are the
address field of an address the parser allows. -/
theorem exists_addr_of_grammarAddrLen {r0 r1 frag aTyp : UInt8} {rest : Bytes} {a : Nat}
    (width : grammarAddrLen (r0 :: r1 :: frag :: aTyp :: rest) = some a)
    (long : a ≤ rest.length) :
    ∃ addr, AddrValid aTyp addr ∧ addrField aTyp addr = rest.take a := by
  by_cases ipv4 : aTyp = ipv4Address
  · subst ipv4
    obtain rfl : 4 = a := by simpa [grammarAddrLen] using width
    exact ⟨rest.take 4, .inl ⟨rfl, by simp; omega⟩, by simp [addrField]⟩
  by_cases ipv6 : aTyp = ipv6Address
  · subst ipv6
    obtain rfl : 16 = a := by simpa [grammarAddrLen] using width
    exact ⟨rest.take 16, .inr (.inl ⟨rfl, by simp; omega⟩), by simp [addrField]⟩
  by_cases fqdn : aTyp = fqdnAddress
  · subst fqdn
    match rest with
    | [] => simp [grammarAddrLen] at width
    | nameLen :: name =>
      obtain ⟨positive, rfl⟩ : 1 ≤ nameLen.toNat ∧ 1 + nameLen.toNat = a := by
        simpa [grammarAddrLen] using width
      have nameLength : (name.take nameLen.toNat).length = nameLen.toNat := by
        simp only [List.length_cons] at long
        simp only [List.length_take]
        omega
      refine ⟨name.take nameLen.toNat, .inr (.inr ⟨rfl, ?_, ?_⟩), ?_⟩
      · omega
      · rw [nameLength]
        exact nameLen.toNat_lt_size
      · rw [addrField_fqdn, Nat.add_comm, List.take_succ_cons, nameLength, uint8_ofNat_toNat]
  · simp [grammarAddrLen, ipv4, ipv6, fqdn] at width

theorem getElem?_header (r0 r1 frag aTyp : UInt8) (rest : Bytes) (i : Nat) :
    (r0 :: r1 :: frag :: aTyp :: rest)[4 + i]? = rest[i]? := by
  rw [Nat.add_comm]
  simp

namespace Frame

theorem bytes_eq_header (f : Frame) :
    ∃ r0 r1, f.rsv = [r0, r1] ∧
      f.bytes = r0 :: r1 :: 0 :: f.aTyp :: (addrField f.aTyp f.addr ++ f.port ++ f.data) := by
  obtain ⟨r0, r1, rsvEq⟩ := pair_of_length_two f.rsv_length
  exact ⟨r0, r1, rsvEq, by simp [bytes, header, rsvEq]⟩

theorem grammarAddrLen_bytes (f : Frame) :
    grammarAddrLen f.bytes = some (addrField f.aTyp f.addr).length := by
  obtain ⟨r0, r1, -, bytesEq⟩ := f.bytes_eq_header
  rw [bytesEq, List.append_assoc]
  exact grammarAddrLen_addrField r0 r1 0 f.addr_valid _

/-- Behind the header and the address field of a frame come its port and data. -/
theorem drop_bytes (f : Frame) :
    f.bytes.drop (4 + (addrField f.aTyp f.addr).length) = f.port ++ f.data := by
  obtain ⟨r0, r1, -, bytesEq⟩ := f.bytes_eq_header
  rw [bytesEq, Nat.add_comm, List.append_assoc]
  exact List.drop_left _ _

/-- The bytes of every frame are in the grammar. -/
theorem inDatagramGrammar_bytes (f : Frame) : InDatagramGrammar f.bytes := by
  obtain ⟨r0, r1, -, bytesEq⟩ := f.bytes_eq_header
  obtain ⟨p0, p1, portEq⟩ := pair_of_length_two f.port_length
  have portAt : ∀ j, f.bytes[4 + (addrField f.aTyp f.addr).length + j]? = (f.port ++ f.data)[j]? :=
    fun j => by rw [← List.getElem?_drop, f.drop_bytes]
  have dataLength : f.data.length ≠ 0 := by simpa using f.data_ne_nil
  unfold InDatagramGrammar
  rw [f.grammarAddrLen_bytes]
  refine ⟨by rw [bytesEq]; rfl, ?_, ?_⟩
  · rw [bytesEq]
    simp only [List.length_cons, List.length_append, f.port_length]
    omega
  · have first := portAt 0
    rw [Nat.add_zero] at first
    rw [show 5 + (addrField f.aTyp f.addr).length = 4 + (addrField f.aTyp f.addr).length + 1
      by omega, first, portAt]
    have nonzero := f.port_ne_zero
    simp only [portEq, List.cons_append, List.getElem?_cons_zero, List.getElem?_cons_succ,
      ne_eq, Prod.mk.injEq, Option.some.injEq, List.cons.injEq, and_true] at nonzero ⊢
    exact nonzero

end Frame

/-- Every byte string of the grammar is the bytes of a frame. -/
theorem exists_frame_of_inDatagramGrammar {bs : Bytes} (grammatical : InDatagramGrammar bs) :
    ∃ f : Frame, f.bytes = bs := by
  unfold InDatagramGrammar at grammatical
  split at grammatical
  next a width =>
    obtain ⟨fragZero, long, portNonzero⟩ := grammatical
    match bs, width, fragZero, long, portNonzero with
    | r0 :: r1 :: frag :: aTyp :: rest, width, fragZero, long, portNonzero =>
      obtain rfl : frag = 0 := by simpa using fragZero
      simp only [List.length_cons] at long
      obtain ⟨addr, valid, field⟩ := exists_addr_of_grammarAddrLen width (by omega)
      obtain ⟨p0, p1, tail, portAt⟩ : ∃ p0 p1 tail, rest.drop a = p0 :: p1 :: tail := by
        match dropped : rest.drop a with
        | p0 :: p1 :: tail => exact ⟨p0, p1, tail, rfl⟩
        | [] | [_] => have := congrArg List.length dropped; simp at this; omega
      have tailLength : tail.length ≠ 0 := by
        have := congrArg List.length portAt
        simp only [List.length_drop, List.length_cons] at this
        omega
      have first : (rest.drop a)[0]? = rest[a]? := List.getElem?_drop rest a 0
      have second : (rest.drop a)[1]? = rest[a + 1]? := List.getElem?_drop rest a 1
      rw [getElem?_header, show 5 + a = 4 + (a + 1) by omega, getElem?_header, ← first,
        ← second, portAt] at portNonzero
      refine ⟨⟨[r0, r1], aTyp, addr, [p0, p1], tail, rfl, valid, rfl, ?_, ?_⟩, ?_⟩
      · simpa using portNonzero
      · simpa using tailLength
      · conv_rhs => rw [← List.take_append_drop a rest, portAt]
        simp [Frame.bytes, Frame.header, field]
  next => exact grammatical.elim

/-- `NewDatagramFromByte` accepts exactly the byte strings of the UDP datagram
grammar. What it returns is `RSV` from `bs[0:2]`, `FRAG` zero, `ATYP` from `bs[3]`,
the port from `bs[4+a : 6+a]` and the data from `bs[6+a:]`. -/
theorem newDatagramFromByte_accepts_grammar (memCreater : MemAllocation) (bs : Bytes) :
    ((∃ d, newDatagramFromByte memCreater bs = .ok d) ↔ InDatagramGrammar bs) ∧
    ∀ d, newDatagramFromByte memCreater bs = .ok d → ∃ a, grammarAddrLen bs = some a ∧
      d.rsv = bs.take 2 ∧ d.frag = 0 ∧ bs[3]? = some d.aTyp ∧
      d.dstPort = (bs.drop (4 + a)).take 2 ∧ d.data = bs.drop (6 + a) := by
  refine ⟨⟨fun ⟨d, accepted⟩ => ?_, fun grammatical => ?_⟩, fun d accepted => ?_⟩
  · obtain ⟨f, rfl, -⟩ := newDatagramFromByte_eq_ok_iff.mp accepted
    exact f.inDatagramGrammar_bytes
  · obtain ⟨f, rfl⟩ := exists_frame_of_inDatagramGrammar grammatical
    exact ⟨_, newDatagramFromByte_bytes memCreater f⟩
  · obtain ⟨f, rfl, rfl⟩ := newDatagramFromByte_eq_ok_iff.mp accepted
    obtain ⟨r0, r1, rsvEq, bytesEq⟩ := f.bytes_eq_header
    refine ⟨_, f.grammarAddrLen_bytes, ?_, rfl, by simp [bytesEq, Frame.datagram], ?_, ?_⟩
    · simp [bytesEq, rsvEq, Frame.datagram]
    · rw [f.drop_bytes, List.take_left' f.port_length]
      rfl
    · rw [show 6 + (addrField f.aTyp f.addr).length = 4 + (addrField f.aTyp f.addr).length + 2
        by omega, ← List.drop_drop, f.drop_bytes, List.drop_left' f.port_length]
      rfl

example : InDatagramGrammar [0, 0, 0, 1, 127, 0, 0, 1, 0, 80, 42] := by decide

example : ¬InDatagramGrammar [0, 0, 0, 3, 0, 0, 80, 42] := by decide

end GoSocks5
