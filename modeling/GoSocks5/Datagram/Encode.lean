import GoSocks5.Datagram.Frame

/-!
# Building, encoding and naming datagrams

Specifications of `NewDatagram`, `toBytes` and `Address`. `NewDatagram` never
panics: the allocator's buffer is long enough for every slice it takes.
`toBytes` writes the fields one after the other when they fit and returns `-1`
otherwise. On a frame's datagram, `Address` prints an IP address with
`net.IP.String`, but for a domain name it drops the first byte of `DstAddr`:
`NewDatagram` puts the length byte there, the parser does not.
-/

namespace GoSocks5

open Slice Except

/-- `NewDatagram` returns the fields it is given, the domain name's length byte
put in front of `DstAddr`, and zero `RSV` and `FRAG`. -/
theorem newDatagram_eq (memCreater : MemAllocation) (aTyp : UInt8) (dstAddr dstPort data : Bytes) :
    newDatagram memCreater aTyp dstAddr dstPort data =
      .ok { rsv := [0, 0], frag := 0, aTyp, dstAddr := addrField aTyp dstAddr, dstPort, data } := by
  have fits := memCreater.alloc_length
    (2 + (addrField aTyp dstAddr).length + dstPort.length + data.length)
  simp only [newDatagram]
  generalize addrField aTyp dstAddr = field at fits ⊢
  generalize memCreater.alloc _ = buf at fits ⊢
  obtain ⟨rsv, rsvSlice, rsvLength⟩ := exists_slice_of_le (show 0 ≤ 2 by omega)
    (show 2 ≤ buf.length by omega)
  obtain ⟨r0, r1, rfl⟩ := pair_of_length_two rsvLength
  obtain ⟨addr, addrSlice, addrLength⟩ := exists_slice_of_le
    (show 2 ≤ 2 + field.length by omega) (show _ ≤ buf.length by omega)
  obtain ⟨port, portSlice, portLength⟩ := exists_slice_of_le
    (show 2 + field.length ≤ 2 + field.length + dstPort.length by omega)
    (show _ ≤ buf.length by omega)
  obtain ⟨payload, dataSlice, dataLength⟩ := exists_slice_of_le
    (show 2 + field.length + dstPort.length ≤
      2 + field.length + dstPort.length + data.length by omega)
    (show _ ≤ buf.length by omega)
  simp only [rsvSlice, addrSlice, portSlice, dataSlice, ok_bind, pure_eq]
  simp_all [setAt]

namespace Datagram

@[simp]
theorem length_wire (d : Datagram) :
    d.wire.length = d.rsv.length + 2 + d.dstAddr.length + d.dstPort.length + d.data.length := by
  simp [wire]; omega

/-- When the fields fit, `toBytes` writes them at the front of `buf` and returns
their length. -/
theorem toBytes_of_le {d : Datagram} {buf : Bytes} (rsvLength : d.rsv.length = 2)
    (fits : d.wire.length ≤ buf.length) :
    d.toBytes buf = .ok (d.wire.length, d.wire ++ buf.drop d.wire.length) := by
  obtain ⟨rsv, frag, aTyp, addr, port, data⟩ := d
  obtain ⟨r0, r1, rfl⟩ := pair_of_length_two rsvLength
  replace fits : 4 + addr.length + port.length + data.length ≤ buf.length := by
    simp at fits; omega
  have rsvCopy : copy buf [r0, r1] = [r0, r1] ++ buf.drop 2 := by
    simp [copy, List.take_of_length_le (show [r0, r1].length ≤ buf.length by simp; omega)]
  simp only [toBytes, show ¬(2 + 1 + 1 + addr.length + port.length + data.length > buf.length) by
      omega, if_false, rsvCopy, List.length_cons, List.length_nil]
  rw [setAt_after (by rfl) (by omega), ok_bind,
    setAt_after (show 0 + 1 + 1 + 1 = ([r0, r1] ++ [frag]).length by rfl) (by omega), ok_bind,
    copyAt_after (show 0 + 1 + 1 + 2 = ([r0, r1] ++ [frag] ++ [aTyp]).length by rfl)
      (by omega), ok_bind,
    copyAt_after (show 0 + 1 + 1 + 2 + addr.length =
      ([r0, r1] ++ [frag] ++ [aTyp] ++ addr).length by simp; omega) (by omega), ok_bind,
    copyAt_after (show 0 + 1 + 1 + 2 + addr.length + port.length =
      ([r0, r1] ++ [frag] ++ [aTyp] ++ addr ++ port).length by simp; omega) (by omega)]
  simp only [wire, length_wire, Except.ok.injEq, Prod.mk.injEq]
  simp
  exact ⟨by omega, congrArg (List.drop · buf) (by omega)⟩

/-- When the fields do not fit, `toBytes` returns `-1` and leaves `buf` alone. -/
theorem toBytes_of_lt {d : Datagram} {buf : Bytes} (rsvLength : d.rsv.length = 2)
    (tooLong : buf.length < d.wire.length) : d.toBytes buf = .ok (-1, buf) := by
  simp only [length_wire, rsvLength] at tooLong
  simp [toBytes, show 2 + 1 + 1 + d.dstAddr.length + d.dstPort.length + d.data.length >
    buf.length by omega]

end Datagram

/-- `Address` on a frame's datagram: an IP address through `net.IP.String`, a domain
name without its first byte, and the port in decimal. -/
theorem address_datagram (f : Frame) :
    f.datagram.address = .ok (joinHostPort
      (if f.aTyp = fqdnAddress then f.addr.drop 1 else ipString f.addr) (itoa (bigEndian f.port))) := by
  have portValue := bigEndianUint16_of_length f.port_length
  by_cases fqdn : f.aTyp = fqdnAddress
  · have nonempty : 1 ≤ f.addr.length := by
      rcases f.addr_valid with ⟨ipv4, -⟩ | ⟨ipv6, -⟩ | ⟨-, positive, -⟩
      · simp [fqdn] at ipv4
      · simp [fqdn] at ipv6
      · exact positive
    simp [Datagram.address, Frame.datagram, fqdn, portValue, slice_of_le nonempty le_rfl,
      List.take_of_length_le (show f.addr.tail.length ≤ f.addr.length - 1 by simp)]
  · simp [Datagram.address, Frame.datagram, fqdn, portValue]

end GoSocks5
