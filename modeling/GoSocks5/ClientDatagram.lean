import GoSocks5.Datagram.RoundTrip

/-!
# The client's datagram codec

`client_datagram.go` decodes and encodes the same UDP format on the client side,
with its own code: `NewDatagramFromBytes` re-slices the input instead of copying
it, checks neither `FRAG` nor the port, and keeps a domain name's length byte in
`DstAddr`; `NewDatagramC` and `Bytes` build and encode with `append`.

Its `ATYP` constants and `ErrBadRequest` are declared with the client code,
which is not among the sources: the codes are the spec's, and the error value is
a parameter. The decoder's debug log line runs only when the package variable
`Debug` is set; it is not set by default and it does not change the result, so
the model leaves it out.

On every datagram the server's parser accepts, the two decoders agree on every
field but one: for a domain name the client's `DstAddr` still has the length
byte the server's has dropped.
-/

namespace GoSocks5

open Slice Except

/-- Modelled from the spec: `ATYPIPv4`, the client's `ATYP` of an IPv4 address
(§4.1: IPv4 = 0x01); the client code that declares it is not among the sources. -/
def ATYPIPv4 : UInt8 := 1

/-- Modelled from the spec: `ATYPDomain`, the client's `ATYP` of a domain name
(§4.1: FQDN = 0x03); the client code that declares it is not among the sources. -/
def ATYPDomain : UInt8 := 3

/-- Modelled from the spec: `ATYPIPv6`, the client's `ATYP` of an IPv6 address
(§4.1: IPv6 = 0x04); the client code that declares it is not among the sources. -/
def ATYPIPv6 : UInt8 := 4

@[simp] theorem ATYPIPv4_eq : ATYPIPv4 = ipv4Address := rfl
@[simp] theorem ATYPDomain_eq : ATYPDomain = fqdnAddress := rfl
@[simp] theorem ATYPIPv6_eq : ATYPIPv6 = ipv6Address := rfl

/-- The client's record of a UDP datagram. -/
structure DatagramC where
  rsv : Bytes
  frag : UInt8
  atyp : UInt8
  dstAddr : Bytes
  dstPort : Bytes
  data : Bytes
  deriving DecidableEq, Repr

section Client

variable (errBadRequest : Failure)

/-- The address branch of `NewDatagramFromBytes`: `minl` after `DST.ADDR`, and the
address; a domain name keeps its length byte, `append([]byte{l}, addr...)`. -/
def readAddrC (bb : Bytes) : Except Failure (Nat × Bytes) := do
  let n := bb.length
  let minl := 4
  let aTyp ← index bb 3
  if aTyp = ATYPIPv4 then
    let minl := minl + 4
    if n < minl then throw errBadRequest
    return (minl, ← slice bb (minl - 4) minl)
  else if aTyp = ATYPIPv6 then
    let minl := minl + 16
    if n < minl then throw errBadRequest
    return (minl, ← slice bb (minl - 16) minl)
  else if aTyp = ATYPDomain then
    let minl := minl + 1
    if n < minl then throw errBadRequest
    let l ← index bb 4
    if l = 0 then throw errBadRequest
    let minl := minl + l.toNat
    if n < minl then throw errBadRequest
    return (minl, l :: (← slice bb (minl - l.toNat) minl))
  else throw errBadRequest

/-- `NewDatagramFromBytes`, the client's decoder. -/
def newDatagramFromBytes (bb : Bytes) : Except Failure DatagramC := do
  if bb.length < 4 then throw errBadRequest
  let (minl, addr) ← readAddrC errBadRequest bb
  let minl := minl + 2
  if bb.length ≤ minl then throw errBadRequest
  let port ← slice bb (minl - 2) minl
  let data ← slice bb minl bb.length
  return { rsv := ← slice bb 0 2, frag := ← index bb 2, atyp := ← index bb 3, dstAddr := addr,
           dstPort := port, data }

/-- The client finds the address field of a frame, length byte included. -/
theorem readAddrC_addrField (r0 r1 frag : UInt8) {aTyp : UInt8} {addr : Bytes}
    (valid : AddrValid aTyp addr) (tail : Bytes) :
    readAddrC errBadRequest (r0 :: r1 :: frag :: aTyp :: (addrField aTyp addr ++ tail)) =
      .ok (4 + (addrField aTyp addr).length, addrField aTyp addr) := by
  unfold readAddrC
  dsimp only
  rw [index_cons_succ, index_cons_succ, index_cons_succ, index_cons_zero, ok_bind]
  rcases valid with ⟨rfl, length⟩ | ⟨rfl, length⟩ | ⟨rfl, positive, short⟩
  · rw [addrField_of_ne (by decide), if_pos ATYPIPv4_eq.symm, if_neg (by simp; omega),
      slice_of_le (by omega) (by simp; omega)]
    simp [length]
  · rw [addrField_of_ne (by decide), if_neg (by decide), if_pos ATYPIPv6_eq.symm,
      if_neg (by simp; omega), slice_of_le (by omega) (by simp; omega)]
    simp [length]
  · have byteLength : (UInt8.ofNat addr.length).toNat = addr.length :=
      UInt8.toNat_ofNat_of_lt short
    have nonzero : UInt8.ofNat addr.length ≠ 0 := fun zero => by
      rw [zero] at byteLength; simp at byteLength; omega
    rw [addrField_fqdn, List.cons_append, if_neg (by decide), if_neg (by decide),
      if_pos ATYPDomain_eq.symm, if_neg (by simp), pure_eq, ok_bind, index_cons_succ,
      index_cons_succ, index_cons_succ, index_cons_succ, index_cons_zero, ok_bind, if_neg nonzero,
      if_neg (by simp; omega), slice_of_le (by omega) (by simp; omega)]
    simp [byteLength]
    omega

/-- On the bytes of a frame, the client's decoder returns the frame's fields with
the address field as it stands on the wire. -/
theorem newDatagramFromBytes_bytes (f : Frame) :
    newDatagramFromBytes errBadRequest f.bytes =
      .ok { rsv := f.rsv, frag := 0, atyp := f.aTyp, dstAddr := addrField f.aTyp f.addr,
            dstPort := f.port, data := f.data } := by
  obtain ⟨rsv, aTyp, addr, port, data, rsvLength, valid, portLength, portNonzero, dataNonempty⟩ := f
  match rsv, rsvLength with
  | [r0, r1], _ =>
    obtain ⟨pre, preDef⟩ : ∃ pre : Bytes, pre = r0 :: r1 :: 0 :: aTyp :: addrField aTyp addr :=
      ⟨_, rfl⟩
    have bytesEq : Frame.bytes ⟨[r0, r1], aTyp, addr, port, data, rfl, valid, portLength,
        portNonzero, dataNonempty⟩ = pre ++ port ++ data := by
      simp [Frame.bytes, Frame.header, preDef]
    have preLength : pre.length = 4 + (addrField aTyp addr).length := by simp [preDef]; omega
    have dataLength : data.length ≠ 0 := by simpa using dataNonempty
    have addrRead : readAddrC errBadRequest (pre ++ port ++ data) =
        .ok (pre.length, addrField aTyp addr) := by
      rw [preLength, preDef]
      simpa using readAddrC_addrField errBadRequest r0 r1 0 valid (port ++ data)
    have portSlice : slice (pre ++ port ++ data) pre.length (pre.length + 2) = .ok port := by
      simpa [portLength] using slice_append pre (port ++ data) (show 2 ≤ _ by simp; omega)
    have dataSlice : slice (pre ++ port ++ data) (pre.length + 2) (pre ++ port ++ data).length =
        .ok data := by
      simpa [portLength, Nat.add_assoc] using slice_append (pre ++ port) data le_rfl
    have fragAt : index (pre ++ port ++ data) 2 = .ok 0 := by simp [preDef]
    have aTypAt : index (pre ++ port ++ data) 3 = .ok aTyp := by simp [preDef]
    have rsvSlice : slice (pre ++ port ++ data) 0 2 = .ok [r0, r1] := by
      simp [preDef, slice_of_le]
    have long : ¬(pre ++ port ++ data).length < 4 := by
      simp only [List.length_append, preLength]; omega
    have withData : ¬(pre ++ port ++ data).length ≤ pre.length + 2 := by
      simp only [List.length_append, portLength]; omega
    rw [bytesEq]
    simp only [newDatagramFromBytes, long, withData, addrRead, portSlice, dataSlice, rsvSlice,
      fragAt, aTypAt, if_false, ok_bind, pure_eq, Nat.add_sub_cancel]

/-- Every index and slice of the client decoder's address branch comes after the
length check that covers it. -/
theorem readAddrC_ne_panic (message : String) {bb : Bytes} (long : 4 ≤ bb.length) :
    readAddrC (.error message) bb ≠ .error .panic := by
  unfold readAddrC
  dsimp only
  obtain ⟨aTyp, read⟩ : ∃ b, index bb 3 = .ok b := ⟨_, index_of_lt (by omega)⟩
  rw [read, ok_bind]
  by_cases ipv4 : aTyp = ATYPIPv4
  · rw [if_pos ipv4]
    by_cases short : bb.length < 4 + 4
    · rw [if_pos short]
      nofun
    · rw [if_neg short, slice_of_le (Nat.sub_le _ _) (by omega)]
      nofun
  rw [if_neg ipv4]
  by_cases ipv6 : aTyp = ATYPIPv6
  · rw [if_pos ipv6]
    by_cases short : bb.length < 4 + 16
    · rw [if_pos short]
      nofun
    · rw [if_neg short, slice_of_le (Nat.sub_le _ _) (by omega)]
      nofun
  rw [if_neg ipv6]
  by_cases domain : aTyp = ATYPDomain
  · rw [if_pos domain]
    by_cases short : bb.length < 4 + 1
    · rw [if_pos short]
      nofun
    obtain ⟨l, readLen⟩ : ∃ b, index bb 4 = .ok b := ⟨_, index_of_lt (by omega)⟩
    rw [if_neg short, pure_eq, ok_bind, readLen, ok_bind]
    by_cases zero : l = 0
    · rw [if_pos zero]
      nofun
    by_cases short : bb.length < 4 + 1 + l.toNat
    · rw [if_neg zero, if_pos short]
      nofun
    · rw [if_neg zero, if_neg short, slice_of_le (Nat.sub_le _ _) (by omega)]
      nofun
  · rw [if_neg domain]
    nofun

/-- `NewDatagramFromBytes` never panics when `ErrBadRequest` is an error value: on
every input it returns a datagram or `ErrBadRequest`. -/
theorem newDatagramFromBytes_ne_panic (message : String) (bb : Bytes) :
    newDatagramFromBytes (.error message) bb ≠ .error .panic := by
  unfold newDatagramFromBytes
  dsimp only
  by_cases short : bb.length < 4
  · rw [if_pos short]
    nofun
  rw [if_neg short, pure_eq, ok_bind]
  refine bind_ne_error (readAddrC_ne_panic message (by omega)) fun ⟨minl, addr⟩ _ => ?_
  by_cases noData : bb.length ≤ minl + 2
  · rw [if_pos noData]
    nofun
  rw [if_neg noData]
  simp (disch := omega) only [slice_of_le, index_of_lt, ok_bind, pure_eq]
  nofun

/-- The two decoders agree on every datagram the server accepts, except that the
client's `DstAddr` is the address field as it stands on the wire. -/
theorem newDatagramFromBytes_of_accepted {memCreater : MemAllocation} {bs : Bytes}
    {d : Datagram} (accepted : newDatagramFromByte memCreater bs = .ok d) :
    newDatagramFromBytes errBadRequest bs =
      .ok { rsv := d.rsv, frag := d.frag, atyp := d.aTyp, dstAddr := addrField d.aTyp d.dstAddr,
            dstPort := d.dstPort, data := d.data } := by
  obtain ⟨f, rfl, rfl⟩ := exists_frame_of_newDatagramFromByte accepted
  exact newDatagramFromBytes_bytes errBadRequest f

end Client

/-- On the domain-name datagram for `a`, both decoders succeed; the client's `DstAddr`
is `[1, 97]`, the server's `[97]` with its length byte. -/
theorem decoders_on_fqdn_datagram :
    newDatagramFromByte Mem [0, 0, 0, 3, 1, 97, 0, 80, 120] = .ok ⟨[0, 0], 0, 3, [97], [0, 80], [120]⟩ ∧
      newDatagramFromBytes (.error "ErrBadRequest") [0, 0, 0, 3, 1, 97, 0, 80, 120] =
        .ok { rsv := [0, 0], frag := 0, atyp := 3, dstAddr := addrField 3 [97], dstPort := [0, 80],
              data := [120] } := by
  have accepted : newDatagramFromByte Mem [0, 0, 0, 3, 1, 97, 0, 80, 120] =
      .ok ⟨[0, 0], 0, 3, [97], [0, 80], [120]⟩ := by decide
  exact ⟨accepted, newDatagramFromBytes_of_accepted (.error "ErrBadRequest") accepted⟩

/-- The decoders disagree on the domain-name datagram for `a`: the server's
`DstAddr` is `[97]`, the client's `[1, 97]`. -/
theorem decoders_disagree_on_fqdn :
    (newDatagramFromByte Mem [0, 0, 0, 3, 1, 97, 0, 80, 120]).map Datagram.dstAddr = .ok [97] ∧
      (newDatagramFromBytes (.error "ErrBadRequest") [0, 0, 0, 3, 1, 97, 0, 80, 120]).map
        DatagramC.dstAddr = .ok [1, 97] := by
  decide

/-- `NewDatagramC`, which puts a domain name's length byte in front of it. -/
def newDatagramC (atyp : UInt8) (dstaddr dstport data : Bytes) : DatagramC :=
  let dstaddr := if atyp = ATYPDomain then UInt8.ofNat dstaddr.length :: dstaddr else dstaddr
  { rsv := [0, 0], frag := 0, atyp, dstAddr := dstaddr, dstPort := dstport, data }

/-- `Bytes`: the fields appended one after the other. -/
def DatagramC.bytes (d : DatagramC) : Bytes :=
  d.rsv ++ [d.frag] ++ [d.atyp] ++ d.dstAddr ++ d.dstPort ++ d.data

/-- `NewDatagramC`'s datagram lays out as the server's reply datagram with the same
fields. -/
theorem bytes_newDatagramC (atyp : UInt8) (dstaddr dstport data : Bytes) :
    (newDatagramC atyp dstaddr dstport data).bytes =
      Datagram.wire
        { rsv := [0, 0], frag := 0, aTyp := atyp, dstAddr := addrField atyp dstaddr,
          dstPort := dstport, data } := by
  simp [newDatagramC, DatagramC.bytes, Datagram.wire, addrField]

/-- `toBytes` returns `-1` and leaves the buffer alone exactly when the fields do not
fit. Otherwise it writes them one after the other at the front of the buffer, leaves
the rest of the buffer alone, and returns their length. What it writes for
`NewDatagram` is `NewDatagramC`'s `Bytes` on the same arguments. -/
theorem toBytes_writes_client_bytes :
    (∀ (d : Datagram) (buf : Bytes), d.rsv.length = 2 →
      let n := 4 + d.dstAddr.length + d.dstPort.length + d.data.length
      (d.toBytes buf = .ok (-1, buf) ↔ n > buf.length) ∧
      (n ≤ buf.length → d.toBytes buf =
        .ok (n, d.rsv ++ [d.frag, d.aTyp] ++ d.dstAddr ++ d.dstPort ++ d.data ++ buf.drop n))) ∧
    ∀ (memCreater : MemAllocation) (atyp : UInt8) (dstaddr dstport data : Bytes),
      ∃ d, newDatagram memCreater atyp dstaddr dstport data = .ok d ∧
        ∀ buf : Bytes, (newDatagramC atyp dstaddr dstport data).bytes.length ≤ buf.length →
          d.toBytes buf = .ok ((newDatagramC atyp dstaddr dstport data).bytes.length,
            (newDatagramC atyp dstaddr dstport data).bytes ++
              buf.drop (newDatagramC atyp dstaddr dstport data).bytes.length) := by
  refine ⟨fun d buf rsvLength => ?_, fun memCreater atyp dstaddr dstport data => ?_⟩
  · have wireLength : d.wire.length = 4 + d.dstAddr.length + d.dstPort.length + d.data.length := by
      simp only [Datagram.length_wire, rsvLength]
    have wireEq : d.wire = d.rsv ++ [d.frag, d.aTyp] ++ d.dstAddr ++ d.dstPort ++ d.data := by
      simp [Datagram.wire]
    dsimp only
    refine ⟨⟨fun refused => ?_, fun tooLong => Datagram.toBytes_of_lt rsvLength (by omega)⟩,
      fun fits => ?_⟩
    · by_contra fits
      rw [Datagram.toBytes_of_le rsvLength (by omega)] at refused
      simp only [Except.ok.injEq, Prod.mk.injEq] at refused
      omega
    · rw [Datagram.toBytes_of_le rsvLength (by omega), wireLength, wireEq]
  · refine ⟨_, newDatagram_eq memCreater atyp dstaddr dstport data, fun buf fits => ?_⟩
    rw [bytes_newDatagramC] at fits ⊢
    exact Datagram.toBytes_of_le (by rfl) fits

section RoundTrip

variable (errBadRequest : Failure)

/-- What the client's address branch accepts stands at the front of the input: its
first `minl` bytes are the four header bytes and the address field. -/
theorem readAddrC_eq_ok {bb : Bytes} {minl : Nat} {addr : Bytes}
    (read : readAddrC errBadRequest bb = .ok (minl, addr)) :
    minl ≤ bb.length ∧ bb.take minl = bb.take 4 ++ addr := by
  unfold readAddrC at read
  dsimp only at read
  obtain ⟨aTyp, -, read⟩ := bind_eq_ok.mp read
  have fixedLength : ∀ k, (slice bb (4 + k - k) (4 + k) >>= fun field => pure (4 + k, field)) =
      .ok (minl, addr) → minl ≤ bb.length ∧ bb.take minl = bb.take 4 ++ addr := fun k read => by
    obtain ⟨field, sliced, read⟩ := bind_eq_ok.mp read
    obtain ⟨-, inBounds, rfl⟩ := slice_eq_ok_iff.mp sliced
    obtain ⟨rfl, rfl⟩ := Prod.mk.inj_iff.mp (Except.ok.inj read)
    exact ⟨inBounds, by rw [Nat.add_sub_cancel, Nat.add_sub_cancel_left, List.take_add]⟩
  by_cases ipv4 : aTyp = ATYPIPv4
  · rw [if_pos ipv4] at read
    exact fixedLength 4 (ite_throw_eq_ok read).2
  rw [if_neg ipv4] at read
  by_cases ipv6 : aTyp = ATYPIPv6
  · rw [if_pos ipv6] at read
    exact fixedLength 16 (ite_throw_eq_ok read).2
  rw [if_neg ipv6] at read
  by_cases domain : aTyp = ATYPDomain
  · rw [if_pos domain] at read
    obtain ⟨l, lengthByte, read⟩ := bind_eq_ok.mp (ite_throw_eq_ok read).2
    obtain ⟨-, read⟩ := ite_throw_eq_ok read
    obtain ⟨short', read⟩ := ite_throw_eq_ok read
    obtain ⟨field, sliced, read⟩ := bind_eq_ok.mp read
    obtain ⟨-, -, rfl⟩ := slice_eq_ok_iff.mp sliced
    obtain ⟨rfl, rfl⟩ := Prod.mk.inj_iff.mp (Except.ok.inj read)
    have atFour : bb.drop 4 = l :: bb.drop 5 := by
      rw [index_of_lt (by omega), Except.ok.injEq] at lengthByte
      rw [← lengthByte, List.drop_eq_getElem_cons]
    refine ⟨by omega, ?_⟩
    rw [show 4 + 1 + l.toNat - l.toNat = 5 by omega, show 4 + 1 + l.toNat - 5 = l.toNat by omega,
      show 4 + 1 + l.toNat = 4 + (l.toNat + 1) by omega, List.take_add, atFour, List.take_succ_cons]
  · rw [if_neg domain] at read
    cases read

/-- The client's decoder loses nothing: the datagram it returns lays out as exactly
the bytes it was given. -/
theorem bytes_newDatagramFromBytes {bb : Bytes} {d : DatagramC}
    (decoded : newDatagramFromBytes errBadRequest bb = .ok d) : d.bytes = bb := by
  unfold newDatagramFromBytes at decoded
  dsimp only at decoded
  obtain ⟨short, decoded⟩ := ite_throw_eq_ok decoded
  obtain ⟨⟨minl, addr⟩, read, decoded⟩ := bind_eq_ok.mp decoded
  obtain ⟨within, front⟩ := readAddrC_eq_ok errBadRequest read
  dsimp only at decoded
  obtain ⟨noData, decoded⟩ := ite_throw_eq_ok decoded
  simp (disch := omega) only [slice_of_le, index_of_lt, ok_bind, pure_eq, Except.ok.injEq,
    List.drop_zero, Nat.sub_zero] at decoded
  subst decoded
  have header : bb.take 2 ++ [bb[2]] ++ [bb[3]] = bb.take 4 := by
    show _ = bb.take (2 + 1 + 1)
    conv_rhs => rw [List.take_succ, List.take_succ]
    rw [List.getElem?_eq_getElem (by omega), List.getElem?_eq_getElem (by omega)]
    rfl
  calc DatagramC.bytes _
      = bb.take 4 ++ addr ++ (bb.drop minl).take 2 ++ bb.drop (minl + 2) := by
        simp only [DatagramC.bytes, ← header, Nat.add_sub_cancel, Nat.add_sub_cancel_left,
          show minl + 2 - (minl + 2 - 2) = 2 by omega,
          List.take_of_length_le (show (bb.drop (minl + 2)).length ≤ bb.length - (minl + 2) by simp)]
    _ = bb.take (minl + 2) ++ bb.drop (minl + 2) := by rw [← front, ← List.take_add]
    _ = bb := List.take_append_drop _ _

/-- The client reads the datagram for `a:80` with data `x` as its bytes say. -/
theorem client_decoder_keeps_name_datagram :
    newDatagramFromBytes (.error "bad request") [0, 0, 0, 3, 1, 97, 0, 80, 120] =
        .ok ⟨[0, 0], 0, 3, [1, 97], [0, 80], [120]⟩ ∧
      DatagramC.bytes ⟨[0, 0], 0, 3, [1, 97], [0, 80], [120]⟩ = [0, 0, 0, 3, 1, 97, 0, 80, 120] :=
  ⟨by decide, bytes_newDatagramFromBytes (.error "bad request") (by decide)⟩

/-- The client's decoder splits every layout of its fields back into them: any
reserved bytes, fragment number and port, a valid address for the type, and some
data. -/
theorem newDatagramFromBytes_layout (r0 r1 frag : UInt8) {aTyp : UInt8} {addr port data : Bytes}
    (valid : AddrValid aTyp addr) (portLength : port.length = 2) (nonempty : data ≠ []) :
    newDatagramFromBytes errBadRequest
        (r0 :: r1 :: frag :: aTyp :: (addrField aTyp addr ++ port ++ data)) =
      .ok { rsv := [r0, r1], frag, atyp := aTyp, dstAddr := addrField aTyp addr, dstPort := port,
            data } := by
  obtain ⟨pre, preDef⟩ : ∃ pre : Bytes, pre = r0 :: r1 :: frag :: aTyp :: addrField aTyp addr :=
    ⟨_, rfl⟩
  have layout : r0 :: r1 :: frag :: aTyp :: (addrField aTyp addr ++ port ++ data) =
      pre ++ port ++ data := by
    simp [preDef]
  have preLength : pre.length = 4 + (addrField aTyp addr).length := by simp [preDef]; omega
  have dataLength : data.length ≠ 0 := by simpa using nonempty
  have addrRead : readAddrC errBadRequest (pre ++ port ++ data) =
      .ok (pre.length, addrField aTyp addr) := by
    rw [preLength, preDef]
    simpa using readAddrC_addrField errBadRequest r0 r1 frag valid (port ++ data)
  have portSlice : slice (pre ++ port ++ data) pre.length (pre.length + 2) = .ok port := by
    simpa [portLength] using slice_append pre (port ++ data) (show 2 ≤ _ by simp; omega)
  have dataSlice : slice (pre ++ port ++ data) (pre.length + 2) (pre ++ port ++ data).length =
      .ok data := by
    simpa [portLength, Nat.add_assoc] using slice_append (pre ++ port) data le_rfl
  have long : ¬(pre ++ port ++ data).length < 4 := by
    simp only [List.length_append, preLength]; omega
  have withData : ¬(pre ++ port ++ data).length ≤ pre.length + 2 := by
    simp only [List.length_append, portLength]; omega
  rw [layout]
  simp only [newDatagramFromBytes, long, withData, addrRead, portSlice, dataSlice, if_false, ok_bind,
    pure_eq, Nat.add_sub_cancel]
  simp [preDef, slice_of_le]

/-- The client's codec round-trips: a datagram `NewDatagramC` builds, with an
address valid for its type, a two-byte port and some data, is what
`NewDatagramFromBytes` reads back from its `Bytes`, domain name length byte and
all. -/
theorem newDatagramFromBytes_newDatagramC {atyp : UInt8} {addr port data : Bytes}
    (valid : AddrValid atyp addr) (portLength : port.length = 2) (nonempty : data ≠ []) :
    newDatagramFromBytes errBadRequest (newDatagramC atyp addr port data).bytes =
      .ok (newDatagramC atyp addr port data) := by
  have built : newDatagramC atyp addr port data =
      { rsv := [0, 0], frag := 0, atyp, dstAddr := addrField atyp addr, dstPort := port, data } := by
    simp [newDatagramC, addrField]
  rw [built, ← newDatagramFromBytes_layout errBadRequest 0 0 0 valid portLength nonempty]
  simp [DatagramC.bytes]

/-- The client's datagram for `a:80` with data `x` round-trips. -/
theorem client_name_datagram_round_trip :
    AddrValid 3 [97] ∧ [(0 : UInt8), 80].length = 2 ∧ [(120 : UInt8)] ≠ [] ∧
      newDatagramFromBytes (.error "bad request") (newDatagramC 3 [97] [0, 80] [120]).bytes =
        .ok (newDatagramC 3 [97] [0, 80] [120]) :=
  ⟨.inr (.inr ⟨rfl, by decide, by decide⟩), rfl, by decide,
    newDatagramFromBytes_newDatagramC (.error "bad request") (.inr (.inr ⟨rfl, by decide, by decide⟩)) rfl (by decide)⟩

end RoundTrip

end GoSocks5
