import Mathlib.Data.Nat.Digits
import GoSocks5.Go.Net

/-!
# Addresses read back from text

`ServeConn` decides whether a client may connect from text: it prints the
connection's remote address with `(*net.TCPAddr).String`, splits off the port
with `net.SplitHostPort`, parses the host with `net.ParseIP`, and compares the
result with each allowed IP by `net.IP.Equal`. This file models the three
library functions as Go 1.22 has them: `ParseIP` parses with `netip.ParseAddr`
and refuses an address that carries a zone.

`ParseIP` only says whether it parsed, so the parser's error texts are left out
and each failure is `none`. The errors of `SplitHostPort` are kept, since
`ServeConn` returns them. A `netip.Addr` is kept as `ParseIP` reads it: its
16-byte form and its zone.

The main results are the round trips. `SplitHostPort` gives back the host and
port that `JoinHostPort` joined, and `ParseIP` reads every 4- or 16-byte IP back
from its `String`, in the 16-byte form. A host with a `%` in it never parses.

`strconv.Itoa` and the hexadecimal groups of `IP.String` write the digits
`Nat.toDigits` gives, most significant first. Each number is read back digit by
digit, so the lemmas below split off the last digit.
-/

namespace GoSocks5

/-- A Go string of ASCII bytes as text, for error messages. -/
def text (b : Bytes) : String := String.mk (b.map fun c => Char.ofNat c.toNat)

/-- `bytealg.IndexByteString(s, c)`: the first index of `c` in `s`. -/
def indexByte (c : UInt8) : Bytes → Option Nat
  | [] => none
  | b :: s => if b = c then some 0 else (indexByte c s).map (· + 1)

/-- `bytealg.LastIndexByteString(s, c)`: the last index of `c` in `s`. -/
def lastIndexByte (c : UInt8) : Bytes → Option Nat
  | [] => none
  | b :: s =>
    match lastIndexByte c s with
    | some i => some (i + 1)
    | none => if b = c then some 0 else none

/-- The `*net.AddrError` of `SplitHostPort`, as its `Error()` text, which names the
address unless it is empty. -/
def addrError (addr : Bytes) (why : String) : Failure :=
  .error (if addr = [] then why else "address " ++ text addr ++ ": " ++ why)

/-- `net.SplitHostPort`: the host and port of `host:port`, `[host]:port` or
`[host%zone]:port`. -/
def splitHostPort (hostport : Bytes) : Except Failure (Bytes × Bytes) := do
  let some i := lastIndexByte 58 hostport
    | throw (addrError hostport "missing port in address")
  let (host, j, k) ← (if hostport.head? = some 91 then do
      let some e := indexByte 93 hostport
        | throw (addrError hostport "missing ']' in address")
      if e + 1 = hostport.length then throw (addrError hostport "missing port in address")
      else if e + 1 = i then pure ((hostport.take e).drop 1, 1, e + 1)
      else if hostport[e + 1]? = some 58 then
        throw (addrError hostport "too many colons in address")
      else throw (addrError hostport "missing port in address")
    else
      if (indexByte 58 (hostport.take i)).isSome then
        throw (addrError hostport "too many colons in address")
      else pure (hostport.take i, 0, 0) : Except Failure (Bytes × Nat × Nat))
  if (indexByte 91 (hostport.drop j)).isSome then
    throw (addrError hostport "unexpected '[' in address")
  else if (indexByte 93 (hostport.drop k)).isSome then
    throw (addrError hostport "unexpected ']' in address")
  else return (host, hostport.drop (i + 1))

namespace IP

/-- `v4InV6Prefix`, the first twelve bytes of an IPv4-mapped IPv6 address. -/
def v4InV6Prefix : Bytes := List.replicate 10 0 ++ [255, 255]

/-- The loop of `netip.parseIPv4Fields`: the octets read so far, the value of the
current one and its number of digits, and the byte before the rest (`none` at the
start of the text). -/
def parseIPv4Fields (fields : Bytes) (val digLen : Nat) : Option UInt8 → Bytes → Option Bytes
  | _, [] => if fields.length < 3 then none else some (fields ++ [UInt8.ofNat val])
  | prev, c :: s =>
    if 48 ≤ c ∧ c ≤ 57 then
      if digLen = 1 ∧ val = 0 then none
      else if 255 < val * 10 + (c.toNat - 48) then none
      else parseIPv4Fields fields (val * 10 + (c.toNat - 48)) (digLen + 1) (some c) s
    else if c = 46 then
      if prev = none ∨ s = [] ∨ prev = some 46 then none
      else if fields.length = 3 then none
      else parseIPv4Fields (fields ++ [UInt8.ofNat val]) 0 0 (some c) s
    else none

/-- `netip.parseIPv4`: four octets in dotted decimal, none with a leading zero. -/
def parseIPv4 (s : Bytes) : Option Bytes := parseIPv4Fields [] 0 0 none s

/-- The value of a hexadecimal digit, of either case. -/
def hexDigit (c : UInt8) : Option Nat :=
  if 48 ≤ c ∧ c ≤ 57 then some (c.toNat - 48)
  else if 97 ≤ c ∧ c ≤ 102 then some (c.toNat - 97 + 10)
  else if 65 ≤ c ∧ c ≤ 70 then some (c.toNat - 65 + 10)
  else none

/-- The inner loop of `netip.parseIPv6`: the hexadecimal number at the front of the
text as `(acc, off)`, failing on a fifth digit. -/
def hexField (acc off : Nat) : Bytes → Option (Nat × Nat)
  | [] => some (acc, off)
  | c :: s =>
    match hexDigit c with
    | none => some (acc, off)
    | some d =>
      if 3 < off then none
      else if 65535 < acc * 16 + d then none
      else hexField (acc * 16 + d) (off + 1) s

/-- The loop of `netip.parseIPv6` over its colon-separated fields: the bytes of
`ip` so far (Go's `i` is their number), the position of the `::` if one was read,
and the text left. It stops as Go's loop does, at `i = 16`, at the end of the
text, or after an embedded IPv4 address. Each pass reads a field of two bytes or
more, so eight passes are enough. -/
def parseIPv6Loop : Nat → Bytes → Option Nat → Bytes → Option (Bytes × Option Nat × Bytes)
  | 0, ip, ellipsis, s => some (ip, ellipsis, s)
  | fuel + 1, ip, ellipsis, s =>
    if 16 ≤ ip.length then some (ip, ellipsis, s)
    else
      match hexField 0 0 s with
      | none => none
      | some (acc, off) =>
        if off = 0 then none
        else if s[off]? = some 46 then
          if ellipsis = none ∧ ip.length ≠ 12 then none
          else if 16 < ip.length + 4 then none
          else (parseIPv4 s).map fun ip4 => (ip ++ ip4, ellipsis, [])
        else
          let ip := ip ++ [UInt8.ofNat (acc / 256), UInt8.ofNat acc]
          match s.drop off with
          | [] => some (ip, ellipsis, [])
          | c :: s =>
            if c ≠ 58 then none
            else
              match s with
              | [] => none
              | c :: s =>
                if c = 58 then
                  if ellipsis.isSome then none
                  else if s = [] then some (ip, some ip.length, [])
                  else parseIPv6Loop fuel ip (some ip.length) s
                else parseIPv6Loop fuel ip ellipsis (c :: s)

/-- `netip.parseIPv6` after the zone is split off: the 16 bytes of the text. The two
loops that move the fields after the `::` to the end and fill the gap with zeros are
written as the list they build. -/
def parseIPv6Fields (s : Bytes) : Option Bytes :=
  let (ellipsis, s) := if s.take 2 = [58, 58] then (some 0, s.drop 2) else (none, s)
  if ellipsis = some 0 ∧ s = [] then some (List.replicate 16 0)
  else
    match parseIPv6Loop 8 [] ellipsis s with
    | none => none
    | some (ip, ellipsis, s) =>
      if s ≠ [] then none
      else if ip.length < 16 then
        match ellipsis with
        | none => none
        | some e => some (ip.take e ++ List.replicate (16 - ip.length) 0 ++ ip.drop e)
      else if ellipsis.isSome then none
      else some ip

/-- `netip.parseIPv6`: the 16 bytes and the zone, the text after the first `%`,
which must not be empty when the `%` is there. -/
def parseIPv6 (input : Bytes) : Option (Bytes × Bytes) :=
  let s := input.takeWhile (· ≠ 37)
  let zone := input.drop (s.length + 1)
  if s.length < input.length ∧ zone = [] then none
  else (parseIPv6Fields s).map fun ip => (ip, zone)

/-- `netip.ParseAddr`, as `ParseIP` reads its result: the 16-byte form and the zone.
The first `.`, `:` or `%` decides the form. -/
def parseAddr (s : Bytes) : Option (Bytes × Bytes) :=
  match s.find? (fun c => c = 46 ∨ c = 58 ∨ c = 37) with
  | some c =>
    if c = 46 then (parseIPv4 s).map fun ip => (v4InV6Prefix ++ ip, [])
    else if c = 58 then parseIPv6 s
    else none
  | none => none

end IP

/-- `net.ParseIP`: the 16-byte form of the address, or nil, written `[]`. -/
def parseIP (s : Bytes) : Bytes :=
  match IP.parseAddr s with
  | some (ip, zone) => if zone = [] then ip else []
  | none => []

/-- `net.IP.Equal`: the same address, where a 4-byte address equals its 16-byte
IPv4-mapped form. -/
def ipEqual (ip x : Bytes) : Bool :=
  if ip.length = x.length then ip == x
  else if ip.length = 4 ∧ x.length = 16 then x.take 12 == IP.v4InV6Prefix && ip == x.drop 12
  else if ip.length = 16 ∧ x.length = 4 then ip.take 12 == IP.v4InV6Prefix && ip.drop 12 == x
  else false

/-- `net.IP.To16`: the 16-byte form of a 4- or 16-byte address. -/
def to16 (ip : Bytes) : Bytes :=
  if ip.length = 4 then IP.v4InV6Prefix ++ ip
  else if ip.length = 16 then ip
  else []

theorem indexByte_eq_none {c : UInt8} {s : Bytes} : indexByte c s = none ↔ c ∉ s := by
  induction s with
  | nil => simp [indexByte]
  | cons b s ih =>
    by_cases same : b = c
    · simp [indexByte, same]
    · simp [indexByte, same, ih, Ne.symm same]

theorem indexByte_append {c : UInt8} {a : Bytes} (absent : c ∉ a) (b : Bytes) :
    indexByte c (a ++ b) = (indexByte c b).map (· + a.length) := by
  induction a with
  | nil => simp only [List.nil_append, List.length_nil, Nat.add_zero, Option.map_id']
  | cons x a ih =>
    have other : x ≠ c := fun same => absent (same ▸ List.mem_cons_self x a)
    rw [List.cons_append, indexByte, if_neg other, ih (fun mem => absent (List.mem_cons_of_mem x mem))]
    cases indexByte c b <;> simp [Nat.add_assoc]

theorem lastIndexByte_eq_none {c : UInt8} {s : Bytes} : lastIndexByte c s = none ↔ c ∉ s := by
  induction s with
  | nil => simp [lastIndexByte]
  | cons b s ih =>
    rcases last : lastIndexByte c s with _ | i
    · by_cases same : b = c <;> simp_all [lastIndexByte, Ne.symm]
    · have : c ∈ s := by
        by_contra absent
        rw [← ih] at absent
        simp [last] at absent
      simp [lastIndexByte, last, this]

/-- The last `c` of `a ++ c :: b`, when `b` has none, is at `|a|`. -/
theorem lastIndexByte_append_cons {c : UInt8} (a : Bytes) {b : Bytes} (absent : c ∉ b) :
    lastIndexByte c (a ++ c :: b) = some a.length := by
  induction a with
  | nil => simp [lastIndexByte, lastIndexByte_eq_none.mpr absent]
  | cons x a ih => simp [lastIndexByte, ih]

/-- What `SplitHostPort` returns: the text after the last colon as the port, and as
the host the text between the brackets, or before the last colon. -/
theorem splitHostPort_eq_ok {hostport host port : Bytes}
    (split : splitHostPort hostport = .ok (host, port)) :
    ∃ i, lastIndexByte 58 hostport = some i ∧ port = hostport.drop (i + 1) ∧
      if hostport.head? = some 91 then
        ∃ e, indexByte 93 hostport = some e ∧ host = (hostport.take e).drop 1
      else host = hostport.take i := by
  unfold splitHostPort at split
  rcases last : lastIndexByte 58 hostport with _ | i
  · rw [last] at split
    cases split
  rw [last] at split
  dsimp only at split
  obtain ⟨⟨host', j, k⟩, parts, rest⟩ := Except.bind_eq_ok.mp split
  have result : host' = host ∧ hostport.drop (i + 1) = port := by
    dsimp only at rest
    split_ifs at rest
    simpa using rest
  obtain ⟨rfl, rfl⟩ := result
  refine ⟨i, rfl, rfl, ?_⟩
  by_cases bracket : hostport.head? = some 91
  · rw [if_pos bracket] at parts ⊢
    rcases close : indexByte 93 hostport with _ | e
    · rw [close] at parts
      cases parts
    rw [close] at parts
    dsimp only at parts
    refine ⟨e, rfl, ?_⟩
    split_ifs at parts
    simp only [Except.pure_eq, Except.ok.injEq, Prod.mk.injEq] at parts
    exact parts.1.symm
  · rw [if_neg bracket] at parts ⊢
    split_ifs at parts
    simp only [Except.pure_eq, Except.ok.injEq, Prod.mk.injEq] at parts
    exact parts.1.symm

/-- `JoinHostPort` brackets a host with a colon in it. -/
theorem joinHostPort_of_colon {host : Bytes} (colon : (58 : UInt8) ∈ host) (port : Bytes) :
    joinHostPort host port = 91 :: (host ++ 93 :: 58 :: port) := by
  simp [joinHostPort, colon]
  rfl

theorem joinHostPort_of_not_colon {host : Bytes} (colon : (58 : UInt8) ∉ host) (port : Bytes) :
    joinHostPort host port = host ++ 58 :: port := by
  simp [joinHostPort, colon]
  rfl

/-- `SplitHostPort` gives back the host and port `JoinHostPort` joined, when the
host has no bracket and the port no colon or bracket. -/
theorem splitHostPort_joinHostPort {host port : Bytes} (noOpen : 91 ∉ host) (noClose : 93 ∉ host)
    (portColon : 58 ∉ port) (portOpen : 91 ∉ port) (portClose : 93 ∉ port) :
    splitHostPort (joinHostPort host port) = .ok (host, port) := by
  by_cases colon : (58 : UInt8) ∈ host
  · have last := lastIndexByte_append_cons (91 :: host ++ [93]) portColon
    simp only [List.cons_append, List.append_assoc, List.singleton_append, List.length_cons,
      List.length_append, List.length_singleton, List.nil_append, List.length_nil] at last
    have close : indexByte 93 (91 :: (host ++ 93 :: 58 :: port)) = some (host.length + 1) := by
      simp [indexByte, indexByte_append noClose]
    have noOpen' : indexByte 91 (host ++ 93 :: 58 :: port) = none :=
      indexByte_eq_none.mpr (by simp [noOpen, portOpen])
    have noClose' : indexByte 93 (58 :: port) = none := indexByte_eq_none.mpr (by simp [portClose])
    have rest : (91 :: (host ++ 93 :: 58 :: port)).drop (host.length + 1 + 1) = 58 :: port := by
      simp
    rw [joinHostPort_of_colon colon]
    simp [splitHostPort, last, close, noOpen', noClose', rest]
  · have head : host.head? ≠ some 91 := by
      cases host with
      | nil => simp
      | cons b host => simpa using fun same : b = 91 => noOpen (same ▸ List.mem_cons_self b host)
    rw [joinHostPort_of_not_colon colon]
    simp [splitHostPort, lastIndexByte_append_cons host portColon, head, indexByte_eq_none.mpr,
      colon, noOpen, noClose, portOpen, portClose]

example : splitHostPort (ascii "[2001:db8::1]:80") = .ok (ascii "2001:db8::1", ascii "80") := by
  decide

/-- The byte of digit `d` as `Nat.toDigits` writes it. -/
def digitByte (d : Nat) : UInt8 := (Nat.digitChar d).toNat.toUInt8

theorem toDigitsCore_append (b : Nat) : ∀ (fuel n : Nat) (ds : List Char),
    Nat.toDigitsCore b fuel n ds = Nat.toDigitsCore b fuel n [] ++ ds
  | 0, _, _ => rfl
  | fuel + 1, n, ds => by
    simp only [Nat.toDigitsCore]
    split
    · rfl
    · rw [toDigitsCore_append b fuel _ (_ :: ds), toDigitsCore_append b fuel _ [_]]
      simp

theorem toDigitsCore_fuel {b : Nat} (base : 1 < b) : ∀ (fuel fuel' n : Nat) (ds : List Char),
    n < fuel → n < fuel' → Nat.toDigitsCore b fuel n ds = Nat.toDigitsCore b fuel' n ds
  | 0, _, _, _, lt, _ => absurd lt (Nat.not_lt_zero _)
  | _ + 1, 0, _, _, _, lt => absurd lt (Nat.not_lt_zero _)
  | fuel + 1, fuel' + 1, n, ds, lt, lt' => by
    simp only [Nat.toDigitsCore]
    split
    · rfl
    · have : n / b < n := Nat.div_lt_self (Nat.pos_of_ne_zero fun zero => by simp_all) base
      exact toDigitsCore_fuel base fuel fuel' _ _ (by omega) (by omega)

/-- A number of two digits or more is the digits of its quotient, then its last. -/
theorem toDigits_of_le {b n : Nat} (base : 1 < b) (le : b ≤ n) :
    Nat.toDigits b n = Nat.toDigits b (n / b) ++ [Nat.digitChar (n % b)] := by
  have pos : 0 < n / b := Nat.div_pos le (by omega)
  have lt : n / b < n := Nat.div_lt_self (by omega) base
  unfold Nat.toDigits
  conv_lhs => rw [Nat.toDigitsCore]
  simp only [Nat.pos_iff_ne_zero.mp pos, if_false]
  rw [toDigitsCore_append, toDigitsCore_fuel base n (n / b + 1) _ _ lt (by omega)]

theorem toDigits_of_lt {b n : Nat} (lt : n < b) : Nat.toDigits b n = [Nat.digitChar n] := by
  simp [Nat.toDigits, Nat.toDigitsCore, Nat.div_eq_of_lt lt, Nat.mod_eq_of_lt lt]

theorem itoa_of_le {n : Nat} (le : 10 ≤ n) : itoa n = itoa (n / 10) ++ [digitByte (n % 10)] := by
  simp only [itoa, ascii, toString, Nat.repr, List.asString, String.toList]
  rw [toDigits_of_le (by decide) le, List.map_append]
  rfl

theorem itoa_of_lt {n : Nat} (lt : n < 10) : itoa n = [digitByte n] := by
  simp only [itoa, ascii, toString, Nat.repr, List.asString, String.toList]
  rw [toDigits_of_lt lt]
  rfl

theorem hex_of_le {v : Nat} (le : 16 ≤ v) : IP.hex v = IP.hex (v / 16) ++ [digitByte (v % 16)] := by
  simp only [IP.hex, ascii]
  rw [toDigits_of_le (by decide) le]
  exact List.map_append _ _ _

theorem hex_of_lt {v : Nat} (lt : v < 16) : IP.hex v = [digitByte v] := by
  simp only [IP.hex, ascii]
  rw [toDigits_of_lt lt]
  rfl

theorem length_hex_le : ∀ {k v : Nat}, v < 16 ^ (k + 1) → (IP.hex v).length ≤ k + 1
  | 0, v, lt => by rw [hex_of_lt (by rwa [Nat.zero_add, Nat.pow_one] at lt)]; rfl
  | k + 1, v, lt => by
    by_cases small : v < 16
    · rw [hex_of_lt small, List.length_singleton]
      omega
    · have quotient : v / 16 < 16 ^ (k + 1) := by
        rw [Nat.div_lt_iff_lt_mul (by decide), ← Nat.pow_succ]
        exact lt
      rw [hex_of_le (by omega), List.length_append, List.length_singleton]
      exact Nat.succ_le_succ (length_hex_le quotient)

theorem digitByte_decimal : ∀ d : Nat, d < 10 →
    48 ≤ digitByte d ∧ digitByte d ≤ 57 ∧ (digitByte d).toNat - 48 = d
  | 0, _ | 1, _ | 2, _ | 3, _ | 4, _ | 5, _ | 6, _ | 7, _ | 8, _ | 9, _ => by decide
  | _ + 10, lt => absurd lt (by omega)

theorem hexDigit_digitByte : ∀ d : Nat, d < 16 → IP.hexDigit (digitByte d) = some d
  | 0, _ | 1, _ | 2, _ | 3, _ | 4, _ | 5, _ | 6, _ | 7, _ | 8, _ | 9, _ | 10, _ | 11, _ | 12, _
  | 13, _ | 14, _ | 15, _ => by decide
  | _ + 16, lt => absurd lt (by omega)

/-- No separator of the address text is a hexadecimal digit. -/
theorem hexDigit_separators :
    IP.hexDigit 46 = none ∧ IP.hexDigit 58 = none ∧ IP.hexDigit 37 = none ∧
      IP.hexDigit 91 = none ∧ IP.hexDigit 93 = none := by
  decide

/-- The inner loop of `parseIPv6` reads a group printed by `IP.String` whole. -/
theorem hexField_hex {v : Nat} (lt : v < 65536) (rest : Bytes) :
    IP.hexField 0 0 (IP.hex v ++ rest) = IP.hexField v (IP.hex v).length rest := by
  induction v using Nat.strong_induction_on generalizing rest with
  | _ v ih =>
    by_cases small : v < 16
    · rw [hex_of_lt small, List.singleton_append, IP.hexField, hexDigit_digitByte v small]
      simp only [Nat.zero_mul, Nat.zero_add, List.length_singleton]
      rw [if_neg (by decide), if_neg (by omega)]
    · have quotient : v / 16 < v := Nat.div_lt_self (by omega) (by decide)
      have short : (IP.hex (v / 16)).length ≤ 3 := length_hex_le (k := 2) (by omega)
      rw [hex_of_le (by omega), List.append_assoc, List.singleton_append,
        ih (v / 16) quotient (by omega), IP.hexField,
        hexDigit_digitByte _ (Nat.mod_lt _ (by decide))]
      simp only [List.length_append, List.length_singleton]
      rw [if_neg (by omega), if_neg (by omega), Nat.div_add_mod' v 16]

/-- `parseIPv4Fields` reads an octet printed by `strconv.Itoa` whole: the digits
have no leading zero, so the check against one never fires. -/
theorem parseIPv4Fields_itoa {n : Nat} (le : n ≤ 255) (fields : Bytes) (prev : Option UInt8)
    (rest : Bytes) :
    IP.parseIPv4Fields fields 0 0 prev (itoa n ++ rest) =
      IP.parseIPv4Fields fields n (itoa n).length (some (digitByte (n % 10))) rest := by
  induction n using Nat.strong_induction_on generalizing prev rest with
  | _ n ih =>
    by_cases small : n < 10
    · obtain ⟨low, high, value⟩ := digitByte_decimal n small
      rw [itoa_of_lt small, List.singleton_append, IP.parseIPv4Fields, if_pos ⟨low, high⟩,
        if_neg (by omega), if_neg (by omega), value, Nat.mod_eq_of_lt small, Nat.zero_mul,
        Nat.zero_add]
      rfl
    · have quotient : n / 10 < n := Nat.div_lt_self (by omega) (by decide)
      obtain ⟨low, high, value⟩ := digitByte_decimal (n % 10) (Nat.mod_lt _ (by decide))
      rw [itoa_of_le (by omega), List.append_assoc, List.singleton_append,
        ih (n / 10) quotient (by omega), IP.parseIPv4Fields, if_pos ⟨low, high⟩,
        if_neg (by omega), value, if_neg (by omega), Nat.div_add_mod' n 10]
      simp only [List.length_append, List.length_singleton]

theorem itoa_ne_nil (n : Nat) : itoa n ≠ [] := by
  by_cases small : n < 10
  · simp [itoa_of_lt small]
  · simp [itoa_of_le (Nat.le_of_not_lt small)]

/-- A dot after an octet closes it, when fewer than three are closed. -/
theorem parseIPv4Fields_dot {fields : Bytes} (room : fields.length < 3) (val digLen : Nat)
    {d : Nat} (digit : d < 10) {s : Bytes} (more : s ≠ []) :
    IP.parseIPv4Fields fields val digLen (some (digitByte d)) (46 :: s) =
      IP.parseIPv4Fields (fields ++ [UInt8.ofNat val]) 0 0 (some 46) s := by
  have notDot : digitByte d ≠ 46 := fun dot => by
    have := (digitByte_decimal d digit).1
    rw [dot] at this
    exact absurd this (by decide)
  rw [IP.parseIPv4Fields, if_neg (by decide), if_pos rfl,
    if_neg (by simp [more, notDot]), if_neg (by omega)]

theorem dotted_four (a b c d : UInt8) :
    IP.dotted [a, b, c, d] =
      itoa a.toNat ++ 46 :: (itoa b.toNat ++ 46 :: (itoa c.toNat ++ 46 :: (itoa d.toNat ++ []))) := by
  simp [IP.dotted, ascii, List.intercalate]
  rfl

theorem toNat_le_255 (x : UInt8) : x.toNat ≤ 255 := Nat.le_of_lt_succ x.toNat_lt_size

/-- `parseIPv4` reads the dotted decimal of `IP.String` back. -/
theorem parseIPv4_dotted {ip : Bytes} (four : ip.length = 4) : IP.parseIPv4 (IP.dotted ip) = some ip := by
  match ip, four with
  | [a, b, c, d], _ =>
    have more : ∀ (x : UInt8) (s : Bytes), itoa x.toNat ++ s ≠ [] := fun x s => by
      simp [itoa_ne_nil]
    have digit : ∀ x : UInt8, x.toNat % 10 < 10 := fun x => Nat.mod_lt _ (by decide)
    rw [dotted_four, IP.parseIPv4, parseIPv4Fields_itoa (toNat_le_255 a),
      parseIPv4Fields_dot (by simp) _ _ (digit a) (more b _), parseIPv4Fields_itoa (toNat_le_255 b),
      parseIPv4Fields_dot (by simp) _ _ (digit b) (more c _), parseIPv4Fields_itoa (toNat_le_255 c),
      parseIPv4Fields_dot (by simp) _ _ (digit c) (more d _), parseIPv4Fields_itoa (toNat_le_255 d),
      IP.parseIPv4Fields]
    simp [uint8_ofNat_toNat]

namespace IP

/-- Groups written as `IP.String` writes them outside a `::`: `hex v₁:hex v₂:…`. -/
def fieldsText : List Nat → Bytes
  | [] => []
  | [v] => hex v
  | v :: l => hex v ++ 58 :: fieldsText l

/-- The two bytes of each group, high byte first. -/
def groupBytes (l : List Nat) : Bytes := l.flatMap fun v => [UInt8.ofNat (v / 256), UInt8.ofNat v]

end IP

@[simp]
theorem groupBytes_nil : IP.groupBytes [] = [] := rfl

@[simp]
theorem groupBytes_append (l l' : List Nat) :
    IP.groupBytes (l ++ l') = IP.groupBytes l ++ IP.groupBytes l' :=
  List.flatMap_append _ _ _

@[simp]
theorem length_groupBytes (l : List Nat) : (IP.groupBytes l).length = 2 * l.length := by
  induction l with
  | nil => rfl
  | cons v l ih => simp [IP.groupBytes, List.flatMap_cons] at ih ⊢; omega

theorem mem_hex {v : Nat} {b : UInt8} (mem : b ∈ IP.hex v) : ∃ d < 16, b = digitByte d := by
  induction v using Nat.strong_induction_on with
  | _ v ih =>
    by_cases small : v < 16
    · rw [hex_of_lt small, List.mem_singleton] at mem
      exact ⟨v, small, mem⟩
    · rw [hex_of_le (by omega), List.mem_append, List.mem_singleton] at mem
      rcases mem with mem | rfl
      · exact ih (v / 16) (Nat.div_lt_self (by omega) (by decide)) mem
      · exact ⟨v % 16, Nat.mod_lt _ (by decide), rfl⟩

theorem hexDigit_of_mem_hex {v : Nat} {b : UInt8} (mem : b ∈ IP.hex v) : (IP.hexDigit b).isSome := by
  obtain ⟨d, lt, rfl⟩ := mem_hex mem
  simp [hexDigit_digitByte d lt]

theorem hex_ne_nil (v : Nat) : IP.hex v ≠ [] := by
  by_cases small : v < 16
  · simp [hex_of_lt small]
  · simp [hex_of_le (Nat.le_of_not_lt small)]

/-- An IPv6 text of fields starts with a hexadecimal digit. -/
theorem fieldsText_cons (v : Nat) (l : List Nat) :
    ∃ c s, IP.fieldsText (v :: l) = c :: s ∧ (IP.hexDigit c).isSome := by
  obtain ⟨c, s, split⟩ := List.exists_cons_of_ne_nil (hex_ne_nil v)
  have digit := hexDigit_of_mem_hex (split ▸ List.mem_cons_self c s)
  cases l with
  | nil => exact ⟨c, s, split, digit⟩
  | cons w l => exact ⟨c, s ++ 58 :: IP.fieldsText (w :: l), by simp [IP.fieldsText, split], digit⟩

theorem ne_colon_of_hexDigit {c : UInt8} (digit : (IP.hexDigit c).isSome) : c ≠ 58 := by
  rintro rfl
  simp [hexDigit_separators] at digit

theorem colonAfterHex (v : Nat) (s : Bytes) : (IP.hex v ++ 58 :: s)[(IP.hex v).length]? = some 58 := by
  rw [List.getElem?_append_right le_rfl, Nat.sub_self]
  simp

theorem hexField_colon (acc off : Nat) (s : Bytes) : IP.hexField acc off (58 :: s) = some (acc, off) := by
  simp [IP.hexField, hexDigit_separators]

/-- A pass of the loop of `parseIPv6` on the last group of the text. -/
theorem parseIPv6Loop_last {v : Nat} (lt : v < 65536) {ip : Bytes} (room : ip.length < 16)
    (fuel : Nat) (e : Option Nat) :
    IP.parseIPv6Loop (fuel + 1) ip e (IP.hex v) = some (ip ++ IP.groupBytes [v], e, []) := by
  have read := hexField_hex lt []
  rw [List.append_nil] at read
  rw [IP.parseIPv6Loop, if_neg (by omega), read]
  simp [IP.hexField, hex_ne_nil, IP.groupBytes]

/-- A pass of the loop of `parseIPv6` on a group followed by `:` and another group. -/
theorem parseIPv6Loop_next {v : Nat} (lt : v < 65536) {ip : Bytes} (room : ip.length < 16)
    (fuel : Nat) (e : Option Nat) {c : UInt8} (digit : (IP.hexDigit c).isSome) (s : Bytes) :
    IP.parseIPv6Loop (fuel + 1) ip e (IP.hex v ++ 58 :: c :: s) =
      IP.parseIPv6Loop fuel (ip ++ IP.groupBytes [v]) e (c :: s) := by
  rw [IP.parseIPv6Loop, if_neg (by omega), hexField_hex lt, hexField_colon]
  dsimp only
  rw [if_neg (by simp [hex_ne_nil]), colonAfterHex, if_neg (by decide), List.drop_left]
  simp [ne_colon_of_hexDigit digit, IP.groupBytes]

/-- A pass of the loop of `parseIPv6` on a group followed by `::`. -/
theorem parseIPv6Loop_ellipsis {v : Nat} (lt : v < 65536) {ip : Bytes} (room : ip.length < 16)
    (fuel : Nat) (s : Bytes) :
    IP.parseIPv6Loop (fuel + 1) ip none (IP.hex v ++ 58 :: 58 :: s) =
      if s = [] then some (ip ++ IP.groupBytes [v], some (ip.length + 2), [])
      else IP.parseIPv6Loop fuel (ip ++ IP.groupBytes [v]) (some (ip.length + 2)) s := by
  rw [IP.parseIPv6Loop, if_neg (by omega), hexField_hex lt, hexField_colon]
  dsimp only
  rw [if_neg (by simp [hex_ne_nil]), colonAfterHex, if_neg (by decide), List.drop_left]
  simp [IP.groupBytes]

theorem fieldsText_cons_cons (v w : Nat) (l : List Nat) :
    IP.fieldsText (v :: w :: l) = IP.hex v ++ 58 :: IP.fieldsText (w :: l) := rfl

/-- The loop of `parseIPv6` reads a text of fields to its end, two bytes a field. -/
theorem parseIPv6Loop_fieldsText : ∀ {l : List Nat}, l ≠ [] → (∀ v ∈ l, v < 65536) →
    ∀ {ip : Bytes}, ip.length + 2 * l.length ≤ 16 → ∀ {fuel : Nat}, l.length ≤ fuel →
    ∀ e : Option Nat, IP.parseIPv6Loop fuel ip e (IP.fieldsText l) = some (ip ++ IP.groupBytes l, e, [])
  | [], nonempty, _, _, _, _, _, _ => absurd rfl nonempty
  | _ :: _, _, _, _, _, 0, enough, _ => absurd enough (by simp)
  | [v], _, small, ip, room, fuel + 1, _, e =>
    parseIPv6Loop_last (small v (List.mem_singleton_self v)) (by simp at room; omega) fuel e
  | v :: w :: l, _, small, ip, room, fuel + 1, enough, e => by
    obtain ⟨c, s, text, digit⟩ := fieldsText_cons w l
    simp only [List.length_cons] at room enough
    rw [fieldsText_cons_cons, text, parseIPv6Loop_next (small v (List.mem_cons_self v _))
        (by omega) fuel e digit, ← text,
      parseIPv6Loop_fieldsText (List.cons_ne_nil w l) (fun x mem => small x (List.mem_cons_of_mem v mem))
        (by simp; omega) (by simp; omega) e]
    simp [IP.groupBytes]

/-- The loop of `parseIPv6` reads a text of fields followed by `::`, and notes where
the `::` stands. -/
theorem parseIPv6Loop_fieldsText_ellipsis : ∀ {l : List Nat}, l ≠ [] → (∀ v ∈ l, v < 65536) →
    ∀ {ip : Bytes}, ip.length + 2 * l.length ≤ 16 → ∀ {fuel : Nat}, l.length ≤ fuel → ∀ s : Bytes,
    IP.parseIPv6Loop fuel ip none (IP.fieldsText l ++ 58 :: 58 :: s) =
      if s = [] then some (ip ++ IP.groupBytes l, some (ip.length + 2 * l.length), [])
      else IP.parseIPv6Loop (fuel - l.length) (ip ++ IP.groupBytes l)
        (some (ip.length + 2 * l.length)) s
  | [], nonempty, _, _, _, _, _, _ => absurd rfl nonempty
  | _ :: _, _, _, _, _, 0, enough, _ => absurd enough (by simp)
  | [v], _, small, ip, room, fuel + 1, _, s => by
    simp only [List.length_singleton] at room
    exact parseIPv6Loop_ellipsis (small v (List.mem_singleton_self v)) (by omega) fuel s
  | v :: w :: l, _, small, ip, room, fuel + 1, enough, s => by
    obtain ⟨c, t, text, digit⟩ := fieldsText_cons w l
    simp only [List.length_cons] at room enough
    rw [fieldsText_cons_cons, List.append_assoc, List.cons_append, text, List.cons_append,
      parseIPv6Loop_next (small v (List.mem_cons_self v _)) (by omega) fuel none digit,
      ← List.cons_append, ← text,
      parseIPv6Loop_fieldsText_ellipsis (List.cons_ne_nil w l)
        (fun x mem => small x (List.mem_cons_of_mem v mem)) (by simp; omega) (by simp; omega) s]
    have position : ip.length + 2 + 2 * (l.length + 1) = ip.length + 2 * (l.length + 1 + 1) := by
      omega
    have bytes : IP.groupBytes [v] ++ IP.groupBytes (w :: l) = IP.groupBytes (v :: w :: l) := rfl
    simp only [List.append_assoc, List.length_append, length_groupBytes, List.length_cons,
      List.length_singleton, List.length_nil, Nat.zero_add, Nat.mul_one, position, bytes, show fuel - (l.length + 1) = fuel + 1 - (l.length + 1 + 1)
        by omega]

theorem groupBytes_group (high low : UInt8) :
    IP.groupBytes [high.toNat * 256 + low.toNat] = [high, low] := by
  have lowLt := low.toNat_lt_size
  simp only [UInt8.size] at lowLt
  have quotient : (high.toNat * 256 + low.toNat) / 256 = high.toNat := by omega
  simp only [IP.groupBytes, List.flatMap_cons, List.flatMap_nil, List.append_nil, quotient,
    uint8_ofNat_toNat, List.cons.injEq, true_and, and_true]
  apply UInt8.toNat.inj
  show (high.toNat * 256 + low.toNat) % 256 = low.toNat
  omega

theorem groupBytes_groups : ∀ {ip : Bytes}, ip.length % 2 = 0 → IP.groupBytes (IP.groups ip) = ip
  | [], _ => rfl
  | [_], even => absurd even (by simp)
  | high :: low :: rest, even => by
    rw [IP.groups, ← List.singleton_append, groupBytes_append, groupBytes_group,
      groupBytes_groups (by simp at even ⊢; omega)]
    rfl

theorem length_groups : ∀ ip : Bytes, (IP.groups ip).length = ip.length / 2
  | [] => rfl
  | [_] => by simp [IP.groups]
  | _ :: _ :: rest => by simp [IP.groups, length_groups rest]; omega

theorem lt_of_mem_groups : ∀ {ip : Bytes} {v : Nat}, v ∈ IP.groups ip → v < 65536
  | [], _, mem => absurd mem (List.not_mem_nil _)
  | [_], _, mem => absurd mem (List.not_mem_nil _)
  | high :: low :: rest, v, mem => by
    rw [IP.groups, List.mem_cons] at mem
    rcases mem with rfl | mem
    · have := high.toNat_lt_size
      have := low.toNat_lt_size
      simp only [UInt8.size] at *
      omega
    · exact lt_of_mem_groups mem

theorem groupBytes_replicate : ∀ n : Nat, IP.groupBytes (List.replicate n 0) = List.replicate (2 * n) 0
  | 0 => rfl
  | n + 1 => by
    rw [List.replicate_succ, ← List.singleton_append, groupBytes_append, groupBytes_replicate n,
      show 2 * (n + 1) = 2 + 2 * n by omega, List.replicate_add]
    rfl

/-- The zero groups `zeroRun` counts at the front of a list are zeros. -/
theorem take_zeros (l : List Nat) :
    l.take (l.takeWhile (· = 0)).length = List.replicate (l.takeWhile (· = 0)).length 0 := by
  rw [← List.prefix_iff_eq_take.mp (List.takeWhile_prefix _)]
  exact List.eq_replicate_iff.mpr ⟨rfl, fun x mem => by simpa using List.mem_takeWhile_imp mem⟩

/-- What `zeroRun` finds: nothing, or a run of two or more zero groups inside the
address. -/
theorem zeroRun_spec (g : List Nat) :
    IP.zeroRun g = (255, 255) ∨
      (IP.zeroRun g).1 + 2 ≤ (IP.zeroRun g).2 ∧ (IP.zeroRun g).2 ≤ g.length ∧
        (g.drop (IP.zeroRun g).1).take ((IP.zeroRun g).2 - (IP.zeroRun g).1) =
          List.replicate ((IP.zeroRun g).2 - (IP.zeroRun g).1) 0 := by
  let Found : Nat × Nat → Prop := fun run => run = (255, 255) ∨
    run.1 + 2 ≤ run.2 ∧ run.2 ≤ g.length ∧
      (g.drop run.1).take (run.2 - run.1) = List.replicate (run.2 - run.1) 0
  have keep : ∀ (indices : List Nat) (run : Nat × Nat), Found run →
      Found (indices.foldl (fun run i =>
        let j := i + ((g.drop i).takeWhile (· = 0)).length
        if 2 ≤ j - i ∧ run.2 - run.1 < j - i then (i, j) else run) run) := by
    intro indices
    induction indices with
    | nil => exact fun _ found => found
    | cons i indices ih =>
      intro run found
      apply ih
      dsimp only
      split_ifs with longer
      · have within := (List.takeWhile_prefix (fun x => decide (x = 0)) (l := g.drop i)).length_le
        rw [List.length_drop] at within
        refine .inr ⟨by omega, by simp only; omega, ?_⟩
        simp only [Nat.add_sub_cancel_left]
        exact take_zeros (g.drop i)
      · exact found
  exact keep (List.range 8) (255, 255) (.inl rfl)

/-- A run of zero groups cut out of the groups. -/
theorem split_zeroRun {g : List Nat} {zs ze : Nat} (order : zs ≤ ze)
    (zeros : (g.drop zs).take (ze - zs) = List.replicate (ze - zs) 0) :
    g = g.take zs ++ List.replicate (ze - zs) 0 ++ g.drop ze := by
  conv_lhs => rw [← List.take_append_drop zs g, ← List.take_append_drop (ze - zs) (g.drop zs)]
  rw [zeros, List.drop_drop, Nat.add_sub_cancel' order, List.append_assoc]

theorem fieldsText_cons_of_ne_nil (v : Nat) {l : List Nat} (more : l ≠ []) :
    IP.fieldsText (v :: l) = IP.hex v ++ 58 :: IP.fieldsText l := by
  cases l with
  | nil => exact absurd rfl more
  | cons w l => rfl

theorem drop_eq_getD_cons {g : List Nat} {i : Nat} (lt : i < g.length) :
    g.drop i = g.getD i 0 :: g.drop (i + 1) := by
  rw [List.drop_eq_getElem_cons lt, List.getD_eq_getElem?_getD, List.getElem?_eq_getElem lt]
  rfl

theorem appendTo6_of_le {g : List Nat} {zs ze i : Nat} (done : 8 ≤ i) :
    ∀ fuel, IP.appendTo6 g zs ze fuel i = []
  | 0 => rfl
  | _ + 1 => by rw [IP.appendTo6, if_pos done]

@[simp] theorem ascii_colon : ascii ":" = [58] := rfl

@[simp] theorem ascii_colons : ascii "::" = [58, 58] := rfl

/-- From a group after the `::`, or with no `::` at all, `appendTo6` prints the groups
left, each after a colon but the first of the text. -/
theorem appendTo6_fields {g : List Nat} (len : g.length = 8) {zs ze : Nat} :
    ∀ {fuel i : Nat}, i < 8 → 8 - i ≤ fuel → (∀ j, i ≤ j → j < 8 → j ≠ zs) →
      IP.appendTo6 g zs ze fuel i = (if 0 < i then [58] else []) ++ IP.fieldsText (g.drop i)
  | 0, _, lt, enough, _ => absurd enough (by omega)
  | fuel + 1, i, lt, enough, noRun => by
    rw [IP.appendTo6, if_neg (Nat.not_le_of_lt lt), if_neg (noRun i le_rfl lt),
      drop_eq_getD_cons (by omega), ascii_colon]
    by_cases last : i + 1 = 8
    · rw [last, appendTo6_of_le le_rfl, show g.drop 8 = [] by simp [len], List.append_nil]
      rfl
    · rw [appendTo6_fields len (by omega) (by omega) (fun j lo hi => noRun j (by omega) hi),
        fieldsText_cons_of_ne_nil _ (by simp [len]; omega), if_pos (Nat.succ_pos i)]
      simp

/-- From a group up to the `::`, `appendTo6` prints the groups before it, the `::`,
and the groups after it. -/
theorem appendTo6_run {g : List Nat} (len : g.length = 8) {zs ze : Nat} (order : zs + 2 ≤ ze)
    (inside : ze ≤ 8) :
    ∀ {fuel i : Nat}, i ≤ zs → 8 - i ≤ fuel →
      IP.appendTo6 g zs ze fuel i =
        (if i < zs then (if 0 < i then [58] else []) ++ IP.fieldsText ((g.drop i).take (zs - i))
          else []) ++ 58 :: 58 :: IP.fieldsText (g.drop ze)
  | 0, i, le, enough => absurd enough (by omega)
  | fuel + 1, i, le, enough => by
    rw [IP.appendTo6, if_neg (show ¬8 ≤ i by omega)]
    by_cases atRun : i = zs
    · subst atRun
      rw [if_pos rfl, if_neg (Nat.lt_irrefl i), ascii_colons, List.nil_append]
      by_cases ends : 8 ≤ ze
      · rw [if_pos ends, show g.drop ze = [] by simp [len]; omega]
        rfl
      · rw [if_neg ends, drop_eq_getD_cons (by omega)]
        by_cases last : ze + 1 = 8
        · rw [last, appendTo6_of_le le_rfl, show g.drop 8 = [] by simp [len], List.append_nil]
          rfl
        · rw [appendTo6_fields len (by omega) (by omega) (fun j lo _ => by omega),
            fieldsText_cons_of_ne_nil _ (by simp [len]; omega), if_pos (Nat.succ_pos ze)]
          simp
    · have before : i < zs := by omega
      rw [if_neg atRun, appendTo6_run len order inside before (by omega), if_pos before,
        drop_eq_getD_cons (i := i) (by omega), show zs - i = zs - (i + 1) + 1 by omega,
        List.take_succ_cons,
        if_pos (Nat.succ_pos i), ascii_colon]
      by_cases last : i + 1 = zs
      · rw [if_neg (show ¬i + 1 < zs by omega), last, Nat.sub_self, List.take_zero]
        simp
        rfl
      · rw [if_pos (show i + 1 < zs by omega), fieldsText_cons_of_ne_nil _ (by simp [len]; omega)]
        simp

theorem fieldsText_ne_nil {l : List Nat} (nonempty : l ≠ []) : IP.fieldsText l ≠ [] := by
  obtain ⟨v, l, rfl⟩ := List.exists_cons_of_ne_nil nonempty
  obtain ⟨c, s, text, -⟩ := fieldsText_cons v l
  simp [text]

/-- A text of fields does not start with `::`. -/
theorem take_fieldsText_append {l : List Nat} (nonempty : l ≠ []) (s : Bytes) :
    (IP.fieldsText l ++ s).take 2 ≠ [58, 58] := by
  obtain ⟨v, l, rfl⟩ := List.exists_cons_of_ne_nil nonempty
  obtain ⟨c, t, text, digit⟩ := fieldsText_cons v l
  simp [text, ne_colon_of_hexDigit digit]

/-- `parseIPv6` reads eight groups written out in full. -/
theorem parseIPv6Fields_fieldsText {l : List Nat} (eight : l.length = 8)
    (small : ∀ v ∈ l, v < 65536) : IP.parseIPv6Fields (IP.fieldsText l) = some (IP.groupBytes l) := by
  have nonempty : l ≠ [] := fun empty => by simp [empty] at eight
  have noColons := take_fieldsText_append nonempty []
  rw [List.append_nil] at noColons
  rw [IP.parseIPv6Fields, if_neg noColons]
  dsimp only
  rw [if_neg (by simp), @parseIPv6Loop_fieldsText l nonempty small [] (by simp [eight]) 8 (by omega)]
  simp [eight]

/-- `parseIPv6` reads groups around a `::`, which stands for one zero group or more. -/
theorem parseIPv6Fields_ellipsis {pre post : List Nat} (short : pre.length + post.length < 8)
    (small : ∀ v ∈ pre ++ post, v < 65536) :
    IP.parseIPv6Fields (IP.fieldsText pre ++ 58 :: 58 :: IP.fieldsText post) =
      some (IP.groupBytes pre ++ List.replicate (16 - 2 * (pre.length + post.length)) 0 ++
        IP.groupBytes post) := by
  have smallPre : ∀ v ∈ pre, v < 65536 := fun v mem => small v (List.mem_append_left _ mem)
  have smallPost : ∀ v ∈ post, v < 65536 := fun v mem => small v (List.mem_append_right _ mem)
  by_cases noPre : pre = []
  · subst noPre
    rw [List.length_nil, Nat.zero_add] at short
    rw [show IP.fieldsText [] ++ 58 :: 58 :: IP.fieldsText post = 58 :: 58 :: IP.fieldsText post
      from rfl, IP.parseIPv6Fields,
      if_pos (show (58 :: 58 :: IP.fieldsText post).take 2 = [58, 58] from rfl)]
    dsimp only [List.drop_succ_cons, List.drop_zero]
    by_cases noPost : post = []
    · subst noPost
      rw [if_pos ⟨rfl, rfl⟩]
      rfl
    · rw [if_neg (fun empty => fieldsText_ne_nil noPost empty.2),
        @parseIPv6Loop_fieldsText post noPost smallPost [] (by simp; omega) 8 (by omega) (some 0)]
      simp [show 2 * post.length < 16 by omega]
  · rw [IP.parseIPv6Fields, if_neg (take_fieldsText_append noPre _)]
    dsimp only
    rw [if_neg (by simp), @parseIPv6Loop_fieldsText_ellipsis pre noPre smallPre [] (by simp; omega) 8
      (by omega) (IP.fieldsText post)]
    by_cases noPost : post = []
    · subst noPost
      rw [show IP.fieldsText [] = [] from rfl, if_pos rfl]
      simp [show 2 * pre.length < 16 by simp at short; omega, List.take_of_length_le,
        List.drop_of_length_le]
    · rw [if_neg (fieldsText_ne_nil noPost), @parseIPv6Loop_fieldsText post noPost smallPost
        _ (by simp; omega) _ (by omega) _]
      simp [show 2 * pre.length + 2 * post.length < 16 by omega]
      omega

/-- `parseIPv6` reads back the text `IP.String` prints for eight groups, with or
without a `::`. -/
theorem parseIPv6Fields_appendTo6 {g : List Nat} (len : g.length = 8)
    (small : ∀ v ∈ g, v < 65536) :
    IP.parseIPv6Fields (IP.appendTo6 g (IP.zeroRun g).1 (IP.zeroRun g).2 8 0) =
      some (IP.groupBytes g) := by
  rcases zeroRun_spec g with none | ⟨order, inside, zeros⟩
  · rw [none]
    dsimp only
    rw [@appendTo6_fields g len 255 255 8 0 (by decide) (by decide) (fun j _ hi => by omega),
      if_neg (by decide), List.nil_append, List.drop_zero, parseIPv6Fields_fieldsText len small]
  · generalize IP.zeroRun g = run at order inside zeros ⊢
    obtain ⟨zs, ze⟩ := run
    dsimp only at order inside zeros ⊢
    have text : IP.appendTo6 g zs ze 8 0 =
        IP.fieldsText (g.take zs) ++ 58 :: 58 :: IP.fieldsText (g.drop ze) := by
      rw [appendTo6_run len order (by omega) (Nat.zero_le zs) (by decide)]
      by_cases start : 0 < zs
      · simp [start]
      · simp [show zs = 0 by omega]
        rfl
    have count : 16 - 2 * ((g.take zs).length + (g.drop ze).length) = 2 * (ze - zs) := by
      rw [List.length_take, List.length_drop, len]
      omega
    rw [text, parseIPv6Fields_ellipsis (by rw [List.length_take, List.length_drop, len]; omega)
      (fun v mem => small v (by simp at mem; exact mem.elim List.mem_of_mem_take List.mem_of_mem_drop)),
      count, ← groupBytes_replicate, ← groupBytes_append, ← groupBytes_append,
      ← split_zeroRun (by omega) zeros]

theorem mem_itoa {n : Nat} {b : UInt8} (mem : b ∈ itoa n) : ∃ d < 10, b = digitByte d := by
  induction n using Nat.strong_induction_on with
  | _ n ih =>
    by_cases small : n < 10
    · rw [itoa_of_lt small, List.mem_singleton] at mem
      exact ⟨n, small, mem⟩
    · rw [itoa_of_le (by omega), List.mem_append, List.mem_singleton] at mem
      rcases mem with mem | rfl
      · exact ih (n / 10) (Nat.div_lt_self (by omega) (by decide)) mem
      · exact ⟨n % 10, Nat.mod_lt _ (by decide), rfl⟩

theorem hexDigit_of_mem_itoa {n : Nat} {b : UInt8} (mem : b ∈ itoa n) : (IP.hexDigit b).isSome := by
  obtain ⟨d, lt, rfl⟩ := mem_itoa mem
  simp [hexDigit_digitByte d (by omega)]

/-- Dotted decimal is digits and dots. -/
theorem mem_dotted {ip : Bytes} (four : ip.length = 4) {b : UInt8} (mem : b ∈ IP.dotted ip) :
    (IP.hexDigit b).isSome ∨ b = 46 := by
  match ip, four with
  | [w, x, y, z], _ =>
    rw [dotted_four] at mem
    simp only [List.mem_append, List.mem_cons, List.append_nil] at mem
    rcases mem with m | rfl | m | rfl | m | rfl | m <;>
      first | exact .inr rfl | exact .inl (hexDigit_of_mem_itoa m)

theorem dot_mem_dotted {ip : Bytes} (four : ip.length = 4) : 46 ∈ IP.dotted ip := by
  match ip, four with
  | [w, x, y, z], _ => simp [dotted_four]

theorem mem_fieldsText : ∀ {l : List Nat} {b : UInt8}, b ∈ IP.fieldsText l →
    (IP.hexDigit b).isSome ∨ b = 58
  | [], _, mem => absurd mem (List.not_mem_nil _)
  | [_], _, mem => .inl (hexDigit_of_mem_hex mem)
  | v :: w :: l, b, mem => by
    rw [fieldsText_cons_cons, List.mem_append, List.mem_cons] at mem
    rcases mem with mem | rfl | mem
    · exact .inl (hexDigit_of_mem_hex mem)
    · exact .inr rfl
    · exact mem_fieldsText mem

/-- `IP.String` writes sixteen bytes with hexadecimal digits and colons only. -/
theorem mem_appendTo6 {g : List Nat} {zs ze : Nat} :
    ∀ {fuel i : Nat} {b : UInt8}, b ∈ IP.appendTo6 g zs ze fuel i → (IP.hexDigit b).isSome ∨ b = 58
  | 0, _, _, mem => absurd mem (List.not_mem_nil _)
  | fuel + 1, i, b, mem => by
    have digits : ∀ {j}, b ∈ IP.hex (g.getD j 0) → (IP.hexDigit b).isSome ∨ b = 58 :=
      fun mem => .inl (hexDigit_of_mem_hex mem)
    rw [IP.appendTo6] at mem
    split_ifs at mem
    · exact absurd mem (List.not_mem_nil _)
    · simp only [ascii_colons, List.mem_cons, List.not_mem_nil, or_false, or_self] at mem
      exact .inr mem
    · simp only [ascii_colons, List.mem_append, List.mem_cons, List.not_mem_nil, or_false,
        or_self] at mem
      exact mem.elim (·.elim .inr digits) mem_appendTo6
    · simp only [ascii_colon, List.mem_append, List.mem_singleton] at mem
      exact mem.elim (·.elim .inr digits) mem_appendTo6
    · simp only [List.nil_append, List.mem_append] at mem
      exact mem.elim digits mem_appendTo6

theorem colon_mem_appendTo6 (g : List Nat) (zs ze : Nat) : 58 ∈ IP.appendTo6 g zs ze 8 0 := by
  rw [IP.appendTo6, if_neg (by decide)]
  by_cases atStart : 0 = zs
  · rw [if_pos atStart]
    split_ifs <;> simp
  · rw [if_neg atStart, if_neg (Nat.lt_irrefl 0), IP.appendTo6, if_neg (by decide),
      if_pos (show 0 < 0 + 1 by decide)]
    split_ifs <;> simp

/-- `ParseAddr` goes by the first separator: in a text of digits and one kind of
separator, that separator. -/
theorem find?_separator {c : UInt8} (sep : c = 46 ∨ c = 58) {l : Bytes}
    (bytes : ∀ b ∈ l, (IP.hexDigit b).isSome ∨ b = c) (mem : c ∈ l) :
    l.find? (fun b => b = 46 ∨ b = 58 ∨ b = 37) = some c := by
  induction l with
  | nil => exact absurd mem (List.not_mem_nil c)
  | cons b l ih =>
    rcases bytes b (List.mem_cons_self b l) with digit | rfl
    · have notSep : ¬(b = 46 ∨ b = 58 ∨ b = 37) := by
        rintro (rfl | rfl | rfl) <;> simp [hexDigit_separators] at digit
      have other : c ≠ b := by rintro rfl; rcases sep with rfl | rfl <;> exact notSep (by simp)
      rw [List.find?_cons_of_neg _ (by simpa using notSep)]
      exact ih (fun x mem => bytes x (List.mem_cons_of_mem b mem))
        ((List.mem_cons.mp mem).resolve_left other)
    · exact List.find?_cons_of_pos _ (by rcases sep with rfl | rfl <;> decide)

/-- Without a `%`, `parseIPv6` reads no zone. -/
theorem parseIPv6_of_not_percent {s : Bytes} (noPercent : 37 ∉ s) :
    IP.parseIPv6 s = (IP.parseIPv6Fields s).map fun ip => (ip, []) := by
  have whole : s.takeWhile (· ≠ 37) = s := List.takeWhile_eq_self_iff.mpr fun x mem => by
    simpa using fun same : x = 37 => noPercent (same ▸ mem)
  unfold IP.parseIPv6
  dsimp only
  rw [whole, if_neg (fun short => Nat.lt_irrefl _ short.1), List.drop_of_length_le (Nat.le_succ _)]

theorem parseAddr_of_dots {s : Bytes} (bytes : ∀ b ∈ s, (IP.hexDigit b).isSome ∨ b = 46)
    (dot : 46 ∈ s) :
    IP.parseAddr s = (IP.parseIPv4 s).map fun ip => (IP.v4InV6Prefix ++ ip, []) := by
  rw [IP.parseAddr, find?_separator (.inl rfl) bytes dot]
  rfl

theorem parseAddr_of_colons {s : Bytes} (bytes : ∀ b ∈ s, (IP.hexDigit b).isSome ∨ b = 58)
    (colon : 58 ∈ s) : IP.parseAddr s = (IP.parseIPv6Fields s).map fun ip => (ip, []) := by
  have noPercent : 37 ∉ s := fun mem => by
    rcases bytes 37 mem with digit | same
    · simp [hexDigit_separators] at digit
    · exact absurd same (by decide)
  rw [IP.parseAddr, find?_separator (.inr rfl) bytes colon]
  exact parseIPv6_of_not_percent noPercent

theorem parseIP_dotted {ip : Bytes} (four : ip.length = 4) :
    parseIP (IP.dotted ip) = IP.v4InV6Prefix ++ ip := by
  rw [parseIP, parseAddr_of_dots (fun b => mem_dotted four) (dot_mem_dotted four), parseIPv4_dotted four]
  rfl

/-- `ParseIP` reads back what `IP.String` prints for a 4- or 16-byte IP, in the
16-byte form. -/
theorem parseIP_ipString {ip : Bytes} (sized : ip.length = 4 ∨ ip.length = 16) :
    parseIP (ipString ip) = to16 ip := by
  rcases sized with four | sixteen
  · rw [ipString, if_neg (show ¬ip.length = 0 by omega), if_pos four, parseIP_dotted four, to16,
      if_pos four]
  · rw [ipString, if_neg (show ¬ip.length = 0 by omega), if_neg (show ¬ip.length = 4 by omega),
      if_pos sixteen, to16, if_neg (show ¬ip.length = 4 by omega), if_pos sixteen]
    by_cases mapped : ip.take 12 = List.replicate 10 0 ++ [255, 255]
    · rw [if_pos mapped, parseIP_dotted (by simp [sixteen]), IP.v4InV6Prefix, ← mapped,
        List.take_append_drop]
    · rw [if_neg mapped]
      dsimp only
      rw [parseIP, parseAddr_of_colons (fun b => mem_appendTo6) (colon_mem_appendTo6 _ _ _),
        parseIPv6Fields_appendTo6 (by rw [length_groups, sixteen]) (fun v => lt_of_mem_groups),
        groupBytes_groups (by omega)]
      rfl

example : parseIP (ascii "::ffff:10.0.0.1") = IP.v4InV6Prefix ++ [10, 0, 0, 1] := by decide

/-- `IP.String` of a 4- or 16-byte IP is hexadecimal digits, dots and colons. -/
theorem mem_ipString {ip : Bytes} (sized : ip.length = 4 ∨ ip.length = 16) {b : UInt8}
    (mem : b ∈ ipString ip) : (IP.hexDigit b).isSome ∨ b = 46 ∨ b = 58 := by
  rcases sized with four | sixteen
  · rw [ipString, if_neg (show ¬ip.length = 0 by omega), if_pos four] at mem
    exact (mem_dotted four mem).imp_right .inl
  · rw [ipString, if_neg (show ¬ip.length = 0 by omega), if_neg (show ¬ip.length = 4 by omega),
      if_pos sixteen] at mem
    split_ifs at mem
    · exact (mem_dotted (by simp [sixteen]) mem).imp_right .inl
    · exact (mem_appendTo6 mem).imp_right .inr

theorem brackets_not_mem_ipString {ip : Bytes} (sized : ip.length = 4 ∨ ip.length = 16) :
    91 ∉ ipString ip ∧ 93 ∉ ipString ip := by
  constructor <;> intro mem <;> rcases mem_ipString sized mem with digit | dot | colon <;>
    first | simp [hexDigit_separators] at digit | exact absurd dot (by decide) |
      exact absurd colon (by decide)

theorem separators_not_mem_itoa (n : Nat) : 58 ∉ itoa n ∧ 91 ∉ itoa n ∧ 93 ∉ itoa n := by
  refine ⟨fun mem => ?_, fun mem => ?_, fun mem => ?_⟩ <;>
    simpa [hexDigit_separators] using hexDigit_of_mem_itoa mem

/-- The text of an address with no zone splits back into the text of its IP and its
port. -/
theorem splitHostPort_string {a : UDPAddr} (sized : a.ip.length = 4 ∨ a.ip.length = 16)
    (noZone : a.zone = []) : splitHostPort a.string = .ok (ipString a.ip, itoa a.port) := by
  obtain ⟨noOpen, noClose⟩ := brackets_not_mem_ipString sized
  obtain ⟨portColon, portOpen, portClose⟩ := separators_not_mem_itoa a.port
  rw [UDPAddr.string, if_neg (show ¬a.ip.length = 0 by omega), if_pos noZone]
  exact splitHostPort_joinHostPort noOpen noClose portColon portOpen portClose

/-- A host split from the text of an address with a zone has the `%` in it, wherever
the zone's brackets and colons fall. -/
theorem percent_mem_of_splitHostPort {a : UDPAddr} (sized : a.ip.length = 4 ∨ a.ip.length = 16)
    (zoned : a.zone ≠ []) {host port : Bytes} (split : splitHostPort a.string = .ok (host, port)) :
    37 ∈ host := by
  obtain ⟨noOpen, noClose⟩ := brackets_not_mem_ipString sized
  obtain ⟨portColon, -, -⟩ := separators_not_mem_itoa a.port
  rw [UDPAddr.string, if_neg (show ¬a.ip.length = 0 by omega), if_neg zoned,
    show ascii "%" = [37] from rfl] at split
  obtain ⟨i, last, -, shape⟩ := splitHostPort_eq_ok split
  by_cases colon : (58 : UInt8) ∈ ipString a.ip ++ [37] ++ a.zone
  · rw [joinHostPort_of_colon colon] at shape
    obtain ⟨e, close, rfl⟩ := shape
    have text : 91 :: (ipString a.ip ++ [37] ++ a.zone ++ 93 :: 58 :: itoa a.port) =
        (91 :: ipString a.ip) ++ 37 :: (a.zone ++ 93 :: 58 :: itoa a.port) := by simp
    rw [text, indexByte_append (by simpa using noClose), indexByte, if_neg (by decide),
      Option.map_map] at close
    obtain ⟨e, -, rfl⟩ := Option.map_eq_some'.mp close
    rw [show ((· + (91 :: ipString a.ip).length) ∘ (· + 1)) e = e + 1 + (ipString a.ip).length + 1
        by simp only [Function.comp, List.length_cons]; omega,
      List.take_succ_cons, List.drop_one, List.tail_cons, List.append_assoc, List.append_assoc,
      List.take_append_eq_append_take, show e + 1 + (ipString a.ip).length - (ipString a.ip).length =
        e + 1 by omega]
    simp
  · rw [joinHostPort_of_not_colon colon] at last shape
    have head : (ipString a.ip ++ [37] ++ a.zone ++ 58 :: itoa a.port).head? ≠ some 91 := by
      rcases text : ipString a.ip with _ | ⟨c, t⟩
      · simp
      · rw [text] at noOpen
        simp only [List.cons_append, List.head?_cons, ne_eq, Option.some.injEq]
        rintro rfl
        exact noOpen (List.mem_cons_self _ _)
    rw [lastIndexByte_append_cons _ portColon, Option.some.injEq] at last
    rw [if_neg head, ← last, List.take_left] at shape
    simp [shape]

/-- `parseIPv4` refuses a text with a `%`: only digits and dots go through. -/
theorem parseIPv4Fields_of_percent : ∀ {s : Bytes}, 37 ∈ s →
    ∀ fields val digLen prev, IP.parseIPv4Fields fields val digLen prev s = none
  | [], mem, _, _, _, _ => absurd mem (List.not_mem_nil _)
  | c :: s, mem, fields, val, digLen, prev => by
    rw [IP.parseIPv4Fields]
    by_cases percent : c = 37
    · subst percent
      rw [if_neg (by decide), if_neg (by decide)]
    · have rest : 37 ∈ s := (List.mem_cons.mp mem).resolve_left (Ne.symm percent)
      split_ifs <;> first | rfl | exact parseIPv4Fields_of_percent rest _ _ _ _

/-- `parseIPv6` reads the text after a `%` as a zone, and refuses an empty one. -/
theorem parseIPv6_zone {s : Bytes} (percent : 37 ∈ s) {ip zone : Bytes}
    (parsed : IP.parseIPv6 s = some (ip, zone)) : zone ≠ [] := by
  have short : (s.takeWhile (· ≠ 37)).length < s.length := by
    refine lt_of_le_of_ne (List.takeWhile_prefix _).length_le fun same => ?_
    have whole := List.prefix_iff_eq_take.mp (List.takeWhile_prefix (fun b => decide (b ≠ 37)) (l := s))
    rw [same, List.take_length] at whole
    have := List.takeWhile_eq_self_iff.mp whole 37 percent
    simp at this
  unfold IP.parseIPv6 at parsed
  dsimp only at parsed
  split_ifs at parsed with empty
  · obtain ⟨_, -, found⟩ := Option.map_eq_some'.mp parsed
    cases found
    exact fun nil => empty ⟨short, nil⟩

/-- `ParseAddr` reads a text with a `%` as an address with a zone, if at all. -/
theorem parseAddr_zone {s : Bytes} (percent : 37 ∈ s) {ip zone : Bytes}
    (parsed : IP.parseAddr s = some (ip, zone)) : zone ≠ [] := by
  unfold IP.parseAddr at parsed
  split at parsed
  · split_ifs at parsed
    · rw [IP.parseIPv4, parseIPv4Fields_of_percent percent] at parsed
      cases parsed
    · exact parseIPv6_zone percent parsed
  · cases parsed

/-- `ParseIP` refuses every text with a `%`: an address with a zone, or no address. -/
theorem parseIP_of_percent {s : Bytes} (percent : 37 ∈ s) : parseIP s = [] := by
  unfold parseIP
  rcases parsed : IP.parseAddr s with _ | ⟨ip, zone⟩
  · rfl
  · exact if_neg (parseAddr_zone percent parsed)

theorem length_v4InV6Prefix_append (ip : Bytes) :
    (IP.v4InV6Prefix ++ ip).length = 12 + ip.length := by
  simp [IP.v4InV6Prefix]
  omega

/-- `IP.Equal` does not see the difference between an IP and its 16-byte form. -/
theorem ipEqual_to16 {ip : Bytes} (sized : ip.length = 4 ∨ ip.length = 16) (x : Bytes) :
    ipEqual (to16 ip) x = ipEqual ip x := by
  rcases sized with four | sixteen
  · have prefixLength : IP.v4InV6Prefix.length = 12 := rfl
    rw [to16, if_pos four]
    unfold ipEqual
    rw [length_v4InV6Prefix_append, four]
    by_cases x16 : x.length = 16
    · rw [if_pos x16.symm, if_neg (by omega), if_pos ⟨rfl, x16⟩]
      conv_lhs => rw [← List.take_append_drop 12 x]
      apply Bool.eq_iff_iff.mpr
      simp only [beq_iff_eq, Bool.and_eq_true]
      constructor
      · intro same
        obtain ⟨front, back⟩ := List.append_inj same (by simp [prefixLength, x16])
        exact ⟨front.symm, back⟩
      · rintro ⟨front, back⟩
        rw [front, back]
    · by_cases x4 : x.length = 4
      · rw [if_neg (by omega), if_neg (by omega), if_pos ⟨rfl, x4⟩, if_pos x4.symm,
          List.take_left' prefixLength, List.drop_left' prefixLength]
        simp
      · rw [if_neg (by omega), if_neg (by omega), if_neg (by omega), if_neg (by omega),
          if_neg (by omega), if_neg (by omega)]
  · rw [to16, if_neg (by omega), if_pos sixteen]

/-- Nil is `IP.Equal` only to nil. -/
theorem ipEqual_nil (x : Bytes) : ipEqual [] x = true ↔ x = [] := by
  cases x <;> simp [ipEqual]

end GoSocks5
