import GoSocks5.Go.Net

/-!
# SOCKS5 UDP datagrams

The functions of `datagram.go`: the server's parser `NewDatagramFromByte`, the
constructor `NewDatagram`, the encoder `toBytes` and `Address`, the text the
relay dials and keys its flows by. The wire layout is RFC 1928 §7:

    +-----+------+------+----------+----------+----------+
    | RSV | FRAG | ATYP | DST.ADDR | DST.PORT |   DATA   |
    |  2  |  1   |  1   | Variable |    2     | Variable |
    +-----+------+------+----------+----------+----------+

Both the parser and `NewDatagram` copy every field into one buffer from the
association's allocator, so a datagram's fields do not depend on what the
allocator left in it; the model keeps the fields and drops the buffer. Which
allocation a datagram owns, and when it is freed, is tracked by the relay loops
that call these functions.

The three address-type codes are declared next to the request parser, which is
not among the sources; their values are the spec's.
-/

namespace GoSocks5

open Slice

/-- Modelled from the spec: `ipv4Address`, the `ATYP` of an IPv4 address, declared
in the request code that is not among the sources (§4.1: IPv4 = 0x01). -/
def ipv4Address : UInt8 := 1

/-- Modelled from the spec: `fqdnAddress`, the `ATYP` of a domain name, declared in
the request code that is not among the sources (§4.1: FQDN = 0x03). -/
def fqdnAddress : UInt8 := 3

/-- Modelled from the spec: `ipv6Address`, the `ATYP` of an IPv6 address, declared
in the request code that is not among the sources (§4.1: IPv6 = 0x04). -/
def ipv6Address : UInt8 := 4

@[simp] theorem ipv4Address_ne_fqdnAddress : ipv4Address ≠ fqdnAddress := by decide
@[simp] theorem ipv6Address_ne_fqdnAddress : ipv6Address ≠ fqdnAddress := by decide
@[simp] theorem ipv4Address_ne_ipv6Address : ipv4Address ≠ ipv6Address := by decide
@[simp] theorem fqdnAddress_ne_ipv4Address : fqdnAddress ≠ ipv4Address := by decide
@[simp] theorem fqdnAddress_ne_ipv6Address : fqdnAddress ≠ ipv6Address := by decide
@[simp] theorem ipv6Address_ne_ipv4Address : ipv6Address ≠ ipv4Address := by decide

/-- A `MemAllocation`. `Alloc(size)` returns at least `size` bytes; `Free` does not
change any value the model keeps, and the relay loops record its calls. -/
structure MemAllocation where
  alloc : Nat → Bytes
  alloc_length : ∀ size, size ≤ (alloc size).length

/-- `Mem`, the default allocator: `make([]byte, size)`. -/
def Mem : MemAllocation where
  alloc size := List.replicate size 0
  alloc_length size := by simp

/-- A SOCKS5 UDP request or response. -/
structure Datagram where
  rsv : Bytes
  frag : UInt8
  aTyp : UInt8
  dstAddr : Bytes
  dstPort : Bytes
  data : Bytes
  deriving DecidableEq, Repr

/-- `fmt.Errorf("Datagram Illegal")`. -/
def datagramIllegal : Failure := .error "Datagram Illegal"

/-- The `switch aTyp` of `NewDatagramFromByte`: `needLen` after `DST.ADDR`, and the
address bytes. For a domain name these are the name without its length byte. -/
def readDstAddr (bs : Bytes) (needLen : Nat) (aTyp : UInt8) : Except Failure (Nat × Bytes) := do
  let dataLen := bs.length
  if aTyp = ipv4Address then
    let needLen := needLen + 4
    if dataLen < needLen then throw datagramIllegal
    return (needLen, ← slice bs (needLen - 4) needLen)
  else if aTyp = ipv6Address then
    let needLen := needLen + 16
    if dataLen < needLen then throw datagramIllegal
    return (needLen, ← slice bs (needLen - 16) needLen)
  else if aTyp = fqdnAddress then
    let needLen := needLen + 1
    if dataLen < needLen then throw datagramIllegal
    let domainLen := (← index bs (needLen - 1)).toNat
    if domainLen = 0 then throw datagramIllegal
    let needLen := needLen + domainLen
    if dataLen < needLen then throw datagramIllegal
    return (needLen, ← slice bs (needLen - domainLen) needLen)
  else throw datagramIllegal

/-- The port section of `NewDatagramFromByte`: `needLen` after `DST.PORT`, and the
port, which may not be `00 00`. -/
def readDstPort (bs : Bytes) (needLen : Nat) : Except Failure (Nat × Bytes) := do
  let needLen := needLen + 2
  if bs.length < needLen then throw datagramIllegal
  let dstPort ← slice bs (needLen - 2) needLen
  if (← index dstPort 0) = 0 then
    if (← index dstPort 1) = 0 then throw datagramIllegal
  return (needLen, dstPort)

/-- The end of `NewDatagramFromByte`: one allocation, sliced into the fields, each
filled by `copy`; `RSV` is copied from `bs[:2]`. -/
def copyFromByte (memCreater : MemAllocation) (bs : Bytes) (frag aTyp : UInt8)
    (dstAddr dstPort data : Bytes) : Except Failure Datagram := do
  let buf := memCreater.alloc (2 + dstAddr.length + dstPort.length + data.length)
  let rsv ← slice buf 0 2
  let rsv := copy rsv (← slice bs 0 2)
  let portAt := 2 + dstAddr.length
  let dataAt := portAt + dstPort.length
  let dstAddr := copy (← slice buf 2 portAt) dstAddr
  let dstPort := copy (← slice buf portAt dataAt) dstPort
  let data := copy (← slice buf dataAt (dataAt + data.length)) data
  return { rsv, frag, aTyp, dstAddr, dstPort, data }

/-- `NewDatagramFromByte`, the server's parser of the datagrams a client sends. -/
def newDatagramFromByte (memCreater : MemAllocation) (bs : Bytes) : Except Failure Datagram := do
  if bs.length ≤ 4 then throw datagramIllegal
  let frag ← index bs 2
  if frag ≠ 0 then throw (.error "Datagram Not Support Slice Transmission")
  let aTyp ← index bs 3
  let (needLen, dstAddr) ← readDstAddr bs 4 aTyp
  let (needLen, dstPort) ← readDstPort bs needLen
  let data ← slice bs needLen bs.length
  if data.length = 0 then throw (.error "Datagram Has No Data")
  copyFromByte memCreater bs frag aTyp dstAddr dstPort data

/-- `DST.ADDR` as `NewDatagram` lays it out: a domain name gets its length byte,
`byte(len(dstAddr))`, in front. -/
def addrField (aTyp : UInt8) (dstAddr : Bytes) : Bytes :=
  if aTyp = fqdnAddress then UInt8.ofNat dstAddr.length :: dstAddr else dstAddr

/-- `NewDatagram`, which builds the reply datagrams the relay sends back. -/
def newDatagram (memCreater : MemAllocation) (aTyp : UInt8) (dstAddr dstPort data : Bytes) :
    Except Failure Datagram := do
  let dstAddr := addrField aTyp dstAddr
  let buf := memCreater.alloc (2 + dstAddr.length + dstPort.length + data.length)
  let rsv ← slice buf 0 2
  let rsv ← setAt rsv 0 0
  let rsv ← setAt rsv 1 0
  let portAt := 2 + dstAddr.length
  let dataAt := portAt + dstPort.length
  let dstAddr := copy (← slice buf 2 portAt) dstAddr
  let dstPort := copy (← slice buf portAt dataAt) dstPort
  let data := copy (← slice buf dataAt (dataAt + data.length)) data
  return { rsv, frag := 0, aTyp, dstAddr, dstPort, data }

namespace Datagram

/-- The bytes `toBytes` writes: the fields one after the other. -/
def wire (d : Datagram) : Bytes :=
  d.rsv ++ d.frag :: d.aTyp :: (d.dstAddr ++ d.dstPort ++ d.data)

/-- `toBytes`: the length written, or `-1` when `buf` is too short, and `buf` after
the call. -/
def toBytes (d : Datagram) (buf : Bytes) : Except Failure (Int × Bytes) := do
  let totalLen := 2 + 1 + 1 + d.dstAddr.length + d.dstPort.length + d.data.length
  if totalLen > buf.length then return (-1, buf)
  let buf := copy buf d.rsv
  let idx := d.rsv.length
  let buf ← setAt buf idx d.frag
  let buf ← setAt buf (idx + 1) d.aTyp
  let buf ← copyAt buf (idx + 2) d.dstAddr
  let buf ← copyAt buf (idx + 2 + d.dstAddr.length) d.dstPort
  let buf ← copyAt buf (idx + 2 + d.dstAddr.length + d.dstPort.length) d.data
  return (totalLen, buf)

/-- `Address`: the destination as `host:port` text. For a domain name it drops the
first byte of `DstAddr`, where `NewDatagram` puts the length byte. -/
def address (d : Datagram) : Except Failure Bytes := do
  let s ← if d.aTyp = fqdnAddress then slice d.dstAddr 1 d.dstAddr.length
    else pure (ipString d.dstAddr)
  let p ← bigEndianUint16 d.dstPort
  return joinHostPort s (itoa p)

end Datagram

end GoSocks5
