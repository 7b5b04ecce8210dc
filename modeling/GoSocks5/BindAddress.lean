import Mathlib.Tactic.Ring
import GoSocks5.ServeConn

/-!
# The addresses `doAssociate` and `doBind` announce

Both commands open a socket on `0.0.0.0:0` and tell the client its port, which they
read back from text: `net.SplitHostPort` of the socket's `LocalAddr().String()`,
then `strconv.Atoi` of the port with its error dropped. `doBind` then accepts a
connection and tells the client the peer's address the same way, with the IP read
by `net.ParseIP`. The sockets, `sendReply` (in `request.go`, which the sources do
not include) and the proxying are left out; what is kept is how each announced
value is computed from the socket's address.

`strconv.Atoi` is modelled on a 64-bit platform with both its paths: the fast path
for strings of 1 to 18 bytes, and `ParseInt(s, 10, 0)` otherwise, whose `ParseUint`
stops at the first byte that is not a digit or at the first overflow, and which
clamps a value out of range to the bounds of `int64`. The model returns the value
Go returns and whether the error is nil; both callers drop the error.

The main results: the port both commands announce is the socket's own, and the
peer address `doBind` announces is the peer's IP in its 16-byte form and its port;
for a peer whose address has a zone the announced IP is nil.
-/

namespace GoSocks5

/-- The digit loop of `strconv.Atoi`'s fast path: `ch -= '0'`, a byte above 9 is a
syntax error, otherwise `n = n*10 + int(ch)`. -/
def atoiDigits (n : Int) : Bytes → Option Int
  | [] => some n
  | ch :: s => if 9 < ch - 48 then none else atoiDigits (n * 10 + (ch - 48).toNat) s

/-- `maxUint64`, the largest value of `ParseUint` with `bitSize` 64. -/
def maxUint64 : Nat := 2 ^ 64 - 1

/-- The digit loop of `strconv.ParseUint(s, 10, 64)`: a byte that is not a decimal
digit is a syntax error (`none`); a digit with `n >= cutoff`, or one that takes
`n*10 + d` past `maxUint64`, returns `maxUint64` with a range error (`false`). -/
def parseUintDigits (n : Nat) : Bytes → Option (Nat × Bool)
  | [] => some (n, true)
  | c :: s =>
    if 48 ≤ c ∧ c ≤ 57 then
      if maxUint64 / 10 + 1 ≤ n then some (maxUint64, false)
      else if maxUint64 < n * 10 + (c - 48).toNat then some (maxUint64, false)
      else parseUintDigits (n * 10 + (c - 48).toNat) s
    else none

/-- `strconv.ParseInt(s, 10, 0)` on a 64-bit platform: the value and whether the
error is nil. A syntax error gives 0; a value out of range is clamped to the bounds
of `int64`. -/
def parseInt (s : Bytes) : Int × Bool :=
  if s = [] then (0, false)
  else
    let neg := s.head? = some 45
    let digits := if s.head? = some 43 ∨ s.head? = some 45 then s.drop 1 else s
    match if digits = [] then none else parseUintDigits 0 digits with
    | none => (0, false)
    | some (un, _) =>
      if ¬neg ∧ 2 ^ 63 ≤ un then (2 ^ 63 - 1, false)
      else if neg ∧ 2 ^ 63 < un then (-2 ^ 63, false)
      else (if neg then -(un : Int) else un, true)

/-- `strconv.Atoi` on a 64-bit platform: the value and whether the error is nil. The
fast path takes strings of 1 to 18 bytes and gives 0 on a syntax error; the others
go through `ParseInt`. -/
def atoi (s : Bytes) : Int × Bool :=
  if 0 < s.length ∧ s.length < 19 then
    let digits := if s.head? = some 45 ∨ s.head? = some 43 then s.drop 1 else s
    if digits.length < 1 then (0, false)
    else
      match atoiDigits 0 digits with
      | some n => (if s.head? = some 45 then -n else n, true)
      | none => (0, false)
  else parseInt s

/-- `_, port, err := net.SplitHostPort(addr.String())` then `bindPort, _ :=
strconv.Atoi(port)`, the split's error wrapped by `context`. -/
def portOfAddr (context : String) (addr : UDPAddr) : Except Failure Int :=
  match splitHostPort addr.string with
  | .ok (_, port) => .ok (atoi port).1
  | .error (.error err) => .error (.error (context ++ err))
  | .error .panic => .error .panic

/-- The port `doAssociate` announces, read from `udpServer.LocalAddr().String()`. -/
def doAssociateBindPort (localAddr : UDPAddr) : Except Failure Int :=
  portOfAddr "doAssociate Failed to SplitHostPort: " localAddr

/-- The port `doBind` announces first, read from `listenTcp.Addr().String()`. -/
def doBindBindPort (localAddr : TCPAddr) : Except Failure Int :=
  portOfAddr "doBind Failed to SplitHostPort: " ⟨localAddr.ip, localAddr.port, localAddr.zone⟩

/-- The address `doBind` announces second, read from
`tcpConn.RemoteAddr().String()`: `AddrSpec{IP: net.ParseIP(remoteIp), Port:
remotePort}`. The split's error is returned as it is. -/
def doBindAcceptAddr (remote : TCPAddr) : Except Failure (Bytes × Int) := do
  let (remoteIp, port) ← splitHostPort remote.string
  return (parseIP remoteIp, (atoi port).1)

theorem digitByte_digit : ∀ d : Nat, d < 10 →
    ¬9 < digitByte d - 48 ∧ (digitByte d - 48).toNat = d
  | 0, _ | 1, _ | 2, _ | 3, _ | 4, _ | 5, _ | 6, _ | 7, _ | 8, _ | 9, _ => by decide
  | _ + 10, lt => absurd lt (by omega)

/-- The digit loop reads the digits of `strconv.Itoa` whole. -/
theorem atoiDigits_itoa (n : Nat) : ∀ (acc : Int) (rest : Bytes),
    atoiDigits acc (itoa n ++ rest) = atoiDigits (acc * 10 ^ (itoa n).length + n) rest := by
  induction n using Nat.strong_induction_on with
  | _ n ih =>
    intro acc rest
    by_cases small : n < 10
    · obtain ⟨digit, value⟩ := digitByte_digit n small
      rw [itoa_of_lt small, List.singleton_append, atoiDigits, if_neg digit, value]
      simp
    · obtain ⟨digit, value⟩ := digitByte_digit (n % 10) (Nat.mod_lt _ (by decide))
      rw [itoa_of_le (by omega), List.append_assoc, List.singleton_append,
        ih (n / 10) (Nat.div_lt_self (by omega) (by decide)), atoiDigits, if_neg digit, value,
        List.length_append, List.length_singleton]
      congr 1
      have split : (n : Int) = (n / 10 : Nat) * 10 + (n % 10 : Nat) := by omega
      rw [split, pow_succ]
      ring

theorem length_itoa_le : ∀ {k n : Nat}, n < 10 ^ (k + 1) → (itoa n).length ≤ k + 1
  | 0, n, lt => by rw [itoa_of_lt (by rwa [Nat.zero_add, Nat.pow_one] at lt)]; rfl
  | k + 1, n, lt => by
    by_cases small : n < 10
    · rw [itoa_of_lt small, List.length_singleton]
      omega
    · have quotient : n / 10 < 10 ^ (k + 1) := by
        rw [Nat.div_lt_iff_lt_mul (by decide), ← Nat.pow_succ]
        exact lt
      rw [itoa_of_le (by omega), List.length_append, List.length_singleton]
      exact Nat.succ_le_succ (length_itoa_le quotient)

/-- `strconv.Atoi` reads back what `strconv.Itoa` writes, below `10^18`. -/
theorem atoi_itoa {n : Nat} (small : n < 10 ^ 18) : atoi (itoa n) = ((n : Int), true) := by
  have short := length_itoa_le (k := 17) small
  have nonempty := List.length_pos.mpr (itoa_ne_nil n)
  obtain ⟨c, s, text⟩ := List.exists_cons_of_ne_nil (itoa_ne_nil n)
  have unsigned : ¬(c = 45 ∨ c = 43) := by
    have digit := hexDigit_of_mem_itoa (text ▸ List.mem_cons_self c s)
    rintro (rfl | rfl) <;> revert digit <;> decide
  have digits := atoiDigits_itoa n 0 []
  rw [List.append_nil, Int.zero_mul, Int.zero_add, atoiDigits] at digits
  rw [atoi, if_pos ⟨nonempty, by omega⟩]
  dsimp only
  rw [text, List.head?_cons,
    if_neg (show ¬(some c = some 45 ∨ some c = some 43) by simpa using unsigned),
    if_neg (show ¬(c :: s).length < 1 by simp), ← text, digits]
  simp [show ¬c = 45 from fun same => unsigned (.inl same)]

/-- The port read back from the text of an address with a 4- or 16-byte IP and no
zone is the address's port. -/
theorem portOfAddr_eq (context : String) {addr : UDPAddr}
    (sized : addr.ip.length = 4 ∨ addr.ip.length = 16) (noZone : addr.zone = [])
    (small : addr.port < 10 ^ 18) : portOfAddr context addr = .ok addr.port := by
  rw [portOfAddr, splitHostPort_string sized noZone]
  simp [atoi_itoa small]

/-- The ports `doAssociate` and `doBind` announce are the ports their sockets have,
for every local address with a 4- or 16-byte IP and no zone; and the peer address
`doBind` announces after an accept is the peer's IP in its 16-byte form with the
peer's port, when the peer's address has no zone, and carries a nil IP when it
has one. -/
theorem announced_addresses {udpAddr : UDPAddr} {tcpAddr remote : TCPAddr}
    (udpSized : udpAddr.ip.length = 4 ∨ udpAddr.ip.length = 16) (udpNoZone : udpAddr.zone = [])
    (udpSmall : udpAddr.port < 10 ^ 18)
    (tcpSized : tcpAddr.ip.length = 4 ∨ tcpAddr.ip.length = 16) (tcpNoZone : tcpAddr.zone = [])
    (tcpSmall : tcpAddr.port < 10 ^ 18)
    (remoteSized : remote.ip.length = 4 ∨ remote.ip.length = 16) (remoteSmall : remote.port < 10 ^ 18) :
    doAssociateBindPort udpAddr = .ok udpAddr.port ∧ doBindBindPort tcpAddr = .ok tcpAddr.port ∧
      (remote.zone = [] → doBindAcceptAddr remote = .ok (to16 remote.ip, remote.port)) ∧
      (remote.zone ≠ [] → ∀ announced, doBindAcceptAddr remote = .ok announced → announced.1 = []) := by
  refine ⟨portOfAddr_eq _ udpSized udpNoZone udpSmall, portOfAddr_eq _ tcpSized tcpNoZone tcpSmall,
    fun noZone => ?_, fun zoned announced accepted => ?_⟩
  · rw [doBindAcceptAddr, TCPAddr.string, splitHostPort_string remoteSized noZone]
    simp [parseIP_ipString remoteSized, atoi_itoa remoteSmall]
  · rw [doBindAcceptAddr, TCPAddr.string] at accepted
    rcases split : splitHostPort (UDPAddr.mk remote.ip remote.port remote.zone).string with
      _ | ⟨remoteIp, port⟩
    · rw [split] at accepted
      cases accepted
    · rw [split] at accepted
      simp only [Except.ok_bind, Except.pure_eq, Except.ok.injEq] at accepted
      rw [← accepted, parseIP_of_percent (percent_mem_of_splitHostPort remoteSized zoned split)]

/-- A UDP socket on 0.0.0.0:40000, a listener on [::]:40001, and a peer at fe80::1
on eth0. -/
theorem announced_for_wildcard_sockets :
    let udpAddr : UDPAddr := ⟨[0, 0, 0, 0], 40000, []⟩
    let tcpAddr : TCPAddr := ⟨List.replicate 16 0, 40001, []⟩
    let remote : TCPAddr := ⟨[0xfe, 0x80, 0, 0, 0, 0, 0, 0, 0, 0, 0, 0, 0, 0, 0, 1], 5000, ascii "eth0"⟩
    ((udpAddr.ip.length = 4 ∨ udpAddr.ip.length = 16) ∧ udpAddr.zone = [] ∧ udpAddr.port < 10 ^ 18 ∧
      (tcpAddr.ip.length = 4 ∨ tcpAddr.ip.length = 16) ∧ tcpAddr.zone = [] ∧
      tcpAddr.port < 10 ^ 18 ∧ (remote.ip.length = 4 ∨ remote.ip.length = 16) ∧
      remote.port < 10 ^ 18) ∧
    doAssociateBindPort udpAddr = .ok udpAddr.port ∧ doBindBindPort tcpAddr = .ok tcpAddr.port ∧
      (remote.zone = [] → doBindAcceptAddr remote = .ok (to16 remote.ip, remote.port)) ∧
      (remote.zone ≠ [] → ∀ announced, doBindAcceptAddr remote = .ok announced → announced.1 = []) :=
  ⟨⟨.inl rfl, rfl, by decide, .inr rfl, rfl, by decide, .inr rfl, by decide⟩,
    announced_addresses (.inl rfl) rfl (by decide) (.inr rfl) rfl (by decide) (.inr rfl) (by decide)⟩

end GoSocks5
