import GoSocks5.Datagram.Encode

/-!
# Round trips through the codec

The parser keeps a domain name without the length byte that precedes it on the
wire, while `NewDatagram`, `toBytes` and `Address` all treat `DstAddr` as the
field as it stands on the wire, length byte first. The parser alone is out of
step: the client's decoder `NewDatagramFromBytes` keeps the byte.

For IPv4 and IPv6 the codec is a bijection: `toBytes` re-encodes a parsed
datagram to the bytes it came from, and the parser gives back the fields of a
datagram `NewDatagram` built. For a domain name both round trips lose the
length byte and `Address` loses the name's first byte. The relay's reply path
happens to be right, because it hands the parser's `DstAddr` to `NewDatagram`,
which puts the length byte back.
-/

namespace GoSocks5

open Datagram

namespace Frame

theorem wire_datagram (f : Frame) :
    f.datagram.wire = f.rsv ++ 0 :: f.aTyp :: (f.addr ++ f.port ++ f.data) := rfl

/-- Away from domain names the parser's fields are the wire's. -/
theorem wire_datagram_of_ne {f : Frame} (notFqdn : f.aTyp ≠ fqdnAddress) :
    f.datagram.wire = f.bytes := by
  simp [wire_datagram, bytes, header, addrField_of_ne notFqdn]

end Frame

/-- For an IPv4 or IPv6 datagram, `toBytes` of what the parser returns writes back
the bytes it parsed. -/
theorem toBytes_newDatagramFromByte_of_ne {memCreater : MemAllocation} {bs buf : Bytes}
    {d : Datagram} (accepted : newDatagramFromByte memCreater bs = .ok d)
    (notFqdn : d.aTyp ≠ fqdnAddress) (fits : bs.length ≤ buf.length) :
    d.toBytes buf = .ok (bs.length, bs ++ buf.drop bs.length) := by
  obtain ⟨f, rfl, rfl⟩ := exists_frame_of_newDatagramFromByte accepted
  rw [← Frame.wire_datagram_of_ne notFqdn] at fits ⊢
  exact toBytes_of_le f.rsv_length fits

/-- The IPv4 datagram for `1.2.3.4:80` with data `x` re-encodes to its bytes. -/
theorem ipv4_datagram_reencodes :
    let bs : Bytes := [0, 0, 0, 1, 1, 2, 3, 4, 0, 80, 120]
    let d : Datagram := ⟨[0, 0], 0, 1, [1, 2, 3, 4], [0, 80], [120]⟩
    let buf : Bytes := List.replicate 11 0
    newDatagramFromByte Mem bs = .ok d ∧ d.aTyp ≠ fqdnAddress ∧ bs.length ≤ buf.length ∧
      d.toBytes buf = .ok (bs.length, bs ++ buf.drop bs.length) :=
  ⟨by decide, by decide, by decide,
    @toBytes_newDatagramFromByte_of_ne Mem _ _ _ (by decide) (by decide) (by decide)⟩

/-- For an IPv4 or IPv6 datagram, the parser returns the fields of a datagram that
`NewDatagram` built and `toBytes` encoded. -/
theorem newDatagramFromByte_toBytes_of_ne (memCreater : MemAllocation) (f : Frame)
    (notFqdn : f.aTyp ≠ fqdnAddress) {buf : Bytes} (fits : f.bytes.length ≤ buf.length) :
    ∃ d n written, newDatagram memCreater f.aTyp f.addr f.port f.data = .ok d ∧
      d.toBytes buf = .ok (n, written) ∧
      newDatagramFromByte memCreater (written.take n.toNat) = .ok d := by
  have built := newDatagram_eq memCreater f.aTyp f.addr f.port f.data
  have wireEq : Datagram.wire
      { rsv := [0, 0], frag := 0, aTyp := f.aTyp, dstAddr := addrField f.aTyp f.addr,
        dstPort := f.port, data := f.data } =
      Frame.bytes { f with rsv := [0, 0], rsv_length := rfl } := by
    simp [wire, Frame.bytes, Frame.header, addrField_of_ne notFqdn]
  have sameLength : (Frame.bytes { f with rsv := [0, 0], rsv_length := rfl }).length =
      f.bytes.length := by
    simp [Frame.bytes, Frame.header, f.rsv_length]
    omega
  refine ⟨_, _, _, built, toBytes_of_le rfl (by rw [wireEq, sameLength]; exact fits), ?_⟩
  simp only [Int.toNat_ofNat, wireEq, List.take_left]
  rw [newDatagramFromByte_bytes]
  simp [Frame.datagram, addrField_of_ne notFqdn]

/-- The IPv4 frame for `1.2.3.4:80` with data `x` comes back from the parser as
`NewDatagram` built it. -/
theorem ipv4_frame_round_trips :
    let f : Frame :=
      ⟨[0, 0], ipv4Address, [1, 2, 3, 4], [0, 80], [120], rfl, .inl ⟨rfl, rfl⟩, rfl, by decide, by decide⟩
    let buf : Bytes := List.replicate 11 0
    f.aTyp ≠ fqdnAddress ∧ f.bytes.length ≤ buf.length ∧
      ∃ d n written, newDatagram Mem f.aTyp f.addr f.port f.data = .ok d ∧
        d.toBytes buf = .ok (n, written) ∧ newDatagramFromByte Mem (written.take n.toNat) = .ok d :=
  ⟨by decide, by decide, newDatagramFromByte_toBytes_of_ne Mem _ (by decide) (by decide)⟩

/-- `Address` names the domain-name datagram for `a`, port 80, as `:80`, not `a:80`. -/
theorem address_drops_name_byte :
    (newDatagramFromByte Mem [0, 0, 0, 3, 1, 97, 0, 80, 120]).bind Datagram.address =
        .ok (ascii ":80") ∧
      ascii ":80" ≠ joinHostPort [97] (itoa 80) := by
  decide

/-- Both round trips fail on a domain name. Re-encoding the parsed datagram for `a`
writes 8 bytes where 9 were parsed; and parsing what `NewDatagram` and `toBytes`
produce gives `DstAddr = [97]` where `NewDatagram` had `[1, 97]`. -/
theorem fqdn_roundTrip_fails :
    ((newDatagramFromByte Mem [0, 0, 0, 3, 1, 97, 0, 80, 120]).bind fun d =>
        (d.toBytes (List.replicate 9 0)).map Prod.fst) = .ok 8 ∧
      ((newDatagram Mem 3 [97] [0, 80] [120]).bind fun d =>
        (d.toBytes (List.replicate 9 0)).map Prod.snd) = .ok [0, 0, 0, 3, 1, 97, 0, 80, 120] ∧
      (newDatagram Mem 3 [97] [0, 80] [120]).map Datagram.dstAddr = .ok [1, 97] ∧
      (newDatagramFromByte Mem [0, 0, 0, 3, 1, 97, 0, 80, 120]).map Datagram.dstAddr = .ok [97] := by
  decide

end GoSocks5
