import GoSocks5.Go.Slice

/-!
# Addresses as text

The relay names a flow by text: `from.String() + "-" + datagram.Address()`, and
it dials that address. This file models the library functions the two calls go
through: `strconv.Itoa`, `binary.BigEndian.Uint16`, `net.JoinHostPort`,
`net.IP.String` and `(*net.UDPAddr).String`. A Go string is its bytes, so an
FQDN that is not valid UTF-8 keeps every byte it had on the wire.

`net.IP.String` prints four bytes, and an IPv4-mapped sixteen, in dotted
decimal; any other sixteen bytes as eight hexadecimal groups with the first
longest run of two or more zero groups written `::`, as `netip` does.
-/

namespace GoSocks5

/-- The bytes of an ASCII string literal. -/
def ascii (s : String) : Bytes := s.toList.map fun c => c.toNat.toUInt8

/-- `strconv.Itoa` of a value that is not negative. -/
def itoa (n : Nat) : Bytes := ascii (toString n)

/-- `binary.BigEndian.Uint16(b)`, which panics unless `len(b) ≥ 2`. -/
def bigEndianUint16 (b : Bytes) : Except Failure Nat := do
  let low ← Slice.index b 1
  let high ← Slice.index b 0
  return high.toNat * 256 + low.toNat

/-- `net.JoinHostPort`: a host with a colon is taken for an IPv6 literal and bracketed. -/
def joinHostPort (host port : Bytes) : Bytes :=
  if (58 : UInt8) ∈ host then ascii "[" ++ host ++ ascii "]:" ++ port
  else host ++ ascii ":" ++ port

namespace IP

/-- Lowercase hexadecimal without leading zeros. -/
def hex (v : Nat) : Bytes := ascii (String.mk (Nat.toDigits 16 v))

/-- Dotted decimal. -/
def dotted (ip : Bytes) : Bytes := (ascii ".").intercalate (ip.map fun b => itoa b.toNat)

/-- The 16-bit groups of an IPv6 address, high byte first. -/
def groups : Bytes → List Nat
  | high :: low :: rest => (high.toNat * 256 + low.toNat) :: groups rest
  | _ => []

/-- The first longest run of two or more zero groups, `(start, end)`, found as
`netip.Addr.appendTo6` finds it; `(255, 255)` when there is none. -/
def zeroRun (g : List Nat) : Nat × Nat :=
  (List.range 8).foldl (fun run i =>
    let j := i + ((g.drop i).takeWhile (· = 0)).length
    if 2 ≤ j - i ∧ run.2 - run.1 < j - i then (i, j) else run) (255, 255)

/-- The printing loop of `netip.Addr.appendTo6` from group `i` on; `fuel` bounds
its iterations. -/
def appendTo6 (g : List Nat) (zeroStart zeroEnd : Nat) : Nat → Nat → Bytes
  | 0, _ => []
  | fuel + 1, i =>
    if 8 ≤ i then []
    else if i = zeroStart then
      if 8 ≤ zeroEnd then ascii "::"
      else ascii "::" ++ hex (g.getD zeroEnd 0) ++ appendTo6 g zeroStart zeroEnd fuel (zeroEnd + 1)
    else (if 0 < i then ascii ":" else []) ++ hex (g.getD i 0) ++
      appendTo6 g zeroStart zeroEnd fuel (i + 1)

/-- `hexString` of the `net` package: two lowercase hexadecimal digits a byte. -/
def hexString (ip : Bytes) : Bytes :=
  ip.flatMap fun b => ascii (String.mk [Nat.digitChar (b.toNat / 16), Nat.digitChar (b.toNat % 16)])

end IP

/-- `net.IP.String`. -/
def ipString (ip : Bytes) : Bytes :=
  if ip.length = 0 then ascii "<nil>"
  else if ip.length = 4 then IP.dotted ip
  else if ip.length = 16 then
    if ip.take 12 = List.replicate 10 0 ++ [255, 255] then IP.dotted (ip.drop 12)
    else
      let run := IP.zeroRun (IP.groups ip)
      IP.appendTo6 (IP.groups ip) run.1 run.2 8 0
  else ascii "?" ++ IP.hexString ip

example : ipString [127, 0, 0, 1] = ascii "127.0.0.1" := by decide

example : ipString [0x20, 1, 0x0d, 0xb8, 0, 0, 0, 0, 0, 0, 0, 0, 0, 0, 0, 1] =
    ascii "2001:db8::1" := by decide

/-- A `net.UDPAddr`: its IP, port and IPv6 zone. -/
structure UDPAddr where
  ip : Bytes
  port : Nat
  zone : Bytes
  deriving DecidableEq, Repr

/-- `(*net.UDPAddr).String`. -/
def UDPAddr.string (a : UDPAddr) : Bytes :=
  let ip := if a.ip.length = 0 then [] else ipString a.ip
  if a.zone = [] then joinHostPort ip (itoa a.port)
  else joinHostPort (ip ++ ascii "%" ++ a.zone) (itoa a.port)

theorem uint8_ofNat_toNat (b : UInt8) : UInt8.ofNat b.toNat = b :=
  UInt8.toNat.inj (UInt8.toNat_ofNat_of_lt b.toNat_lt_size)

/-- The value of two bytes read big-endian. -/
def bigEndian (b : Bytes) : Nat := (b.getD 0 0).toNat * 256 + (b.getD 1 0).toNat

theorem bigEndianUint16_of_length {b : Bytes} (two : b.length = 2) :
    bigEndianUint16 b = .ok (bigEndian b) := by
  match b, two with
  | [high, low], _ => rfl

end GoSocks5
