import GoSocks5.Associate.ReadFromSrc
import GoSocks5.Go.ParseIP

/-!
# Flows are per client

`handleDatagram` keys a flow by the text `from.String() + "-" + Address()`, so two
datagrams share a flow, and the connection it holds, exactly when their keys are
the same text. This file shows that the text says who sent the datagram. When the
source address has a 4- or 16-byte IP and no zone, as `ReadFromUDP` returns for
every IPv4 peer and every IPv6 peer outside link-local scope, its text has no `-`,
and `SplitHostPort` and `ParseIP` read the IP and port back from it. Two such keys
are equal only when the clients' IPs are `IP.Equal`, their ports are the same, and
the destination addresses have the same text.

With the flow table's invariant this is the relay's isolation: over every run of
`readFromSrc`, a datagram's data is written only to a connection that was dialled
for a datagram of the same client and the same destination. The same invariant
bounds the table: it never holds more flows than there are distinct keys among the
datagrams handled so far.
-/

namespace GoSocks5

open Slice Except

/-- A source address with a 4- or 16-byte IP and no zone. -/
def UDPAddr.Plain (a : UDPAddr) : Prop := (a.ip.length = 4 ∨ a.ip.length = 16) ∧ a.zone = []

instance (a : UDPAddr) : Decidable a.Plain := inferInstanceAs (Decidable (_ ∧ _))

theorem itoa_injective : ∀ {n m : Nat}, itoa n = itoa m → n = m := by
  intro n
  induction n using Nat.strong_induction_on with
  | _ n ih =>
    intro m same
    have digit : ∀ {d e : Nat}, d < 10 → e < 10 → digitByte d = digitByte e → d = e :=
      fun dLt eLt sameByte => by
        have := (digitByte_decimal _ dLt).2.2
        have := (digitByte_decimal _ eLt).2.2
        rw [sameByte] at *
        omega
    have long : ∀ k, 10 ≤ k → 2 ≤ (itoa k).length := fun k le => by
      rw [itoa_of_le le, List.length_append, List.length_singleton]
      have := List.length_pos.mpr (itoa_ne_nil (k / 10))
      omega
    by_cases small : n < 10 <;> by_cases small' : m < 10
    · rw [itoa_of_lt small, itoa_of_lt small', List.singleton_inj] at same
      exact digit small small' same
    · have := long m (by omega)
      rw [← same, itoa_of_lt small, List.length_singleton] at this
      omega
    · have := long n (by omega)
      rw [same, itoa_of_lt small', List.length_singleton] at this
      omega
    · rw [itoa_of_le (show 10 ≤ n by omega), itoa_of_le (show 10 ≤ m by omega)] at same
      obtain ⟨high, low⟩ := List.append_inj' same rfl
      rw [← Nat.div_add_mod n 10, ← Nat.div_add_mod m 10,
        ih (n / 10) (Nat.div_lt_self (by omega) (by decide)) high,
        digit (Nat.mod_lt _ (by decide)) (Nat.mod_lt _ (by decide)) (List.singleton_inj.mp low)]

theorem mem_joinHostPort {host port : Bytes} {b : UInt8} (mem : b ∈ joinHostPort host port) :
    b ∈ host ∨ b ∈ port ∨ b = 58 ∨ b = 91 ∨ b = 93 := by
  by_cases colon : (58 : UInt8) ∈ host
  · rw [joinHostPort_of_colon colon] at mem
    simp only [List.mem_cons, List.mem_append] at mem
    tauto
  · rw [joinHostPort_of_not_colon colon] at mem
    simp only [List.mem_cons, List.mem_append] at mem
    tauto

/-- The text of a plain address has no `-`. -/
theorem dash_not_mem_string {a : UDPAddr} (plain : a.Plain) : 45 ∉ a.string := by
  have notHex : IP.hexDigit 45 = none := by decide
  rw [UDPAddr.string, if_neg (show ¬a.ip.length = 0 by rcases plain.1 with h | h <;> omega),
    if_pos plain.2]
  intro mem
  rcases mem_joinHostPort mem with ip | port | separator
  · rcases mem_ipString plain.1 ip with digit | dot | colon
    · simp [notHex] at digit
    · exact absurd dot (by decide)
    · exact absurd colon (by decide)
  · simpa [notHex] using hexDigit_of_mem_itoa port
  · rcases separator with h | h | h <;> exact absurd h (by decide)

/-- Texts joined at a byte neither first part has split back at that byte. -/
theorem eq_of_append_cons {c : UInt8} :
    ∀ {a a' b b' : Bytes}, c ∉ a → c ∉ a' → a ++ c :: b = a' ++ c :: b' → a = a' ∧ b = b'
  | [], [], _, _, _, _, same => ⟨rfl, List.tail_eq_of_cons_eq same⟩
  | [], x :: _, _, _, _, absent', same => by
    rw [List.nil_append, List.cons_append, List.cons.injEq] at same
    exact absurd (by rw [same.1]; exact List.mem_cons_self _ _) absent'
  | x :: _, [], _, _, absent, _, same => by
    rw [List.nil_append, List.cons_append, List.cons.injEq] at same
    exact absurd (by rw [← same.1]; exact List.mem_cons_self _ _) absent
  | x :: a, y :: a', b, b', absent, absent', same => by
    simp only [List.cons_append, List.cons.injEq] at same
    obtain ⟨rfl, rest⟩ := same
    obtain ⟨front, back⟩ := eq_of_append_cons (fun mem => absent (List.mem_cons_of_mem x mem))
      (fun mem => absent' (List.mem_cons_of_mem x mem)) rest
    exact ⟨by rw [front], back⟩

theorem ipEqual_self (ip : Bytes) : ipEqual ip ip = true := by
  simp [ipEqual]

/-- The text of a plain address says its IP, up to `IP.Equal`, and its port. -/
theorem ipEqual_of_string_eq {a a' : UDPAddr} (plain : a.Plain) (plain' : a'.Plain)
    (same : a.string = a'.string) : ipEqual a.ip a'.ip = true ∧ a.port = a'.port := by
  have split := splitHostPort_string plain.1 plain.2
  rw [same, splitHostPort_string plain'.1 plain'.2, Except.ok.injEq, Prod.mk.injEq] at split
  obtain ⟨ipText, portText⟩ := split
  have forms : to16 a'.ip = to16 a.ip := by
    rw [← parseIP_ipString plain.1, ← parseIP_ipString plain'.1, ipText]
  refine ⟨?_, (itoa_injective portText).symm⟩
  rw [← ipEqual_to16 plain.1, ← forms, ipEqual_to16 plain'.1, ipEqual_self]

theorem flowKey_eq_ok {a : UDPAddr} {d : Datagram} {key : Bytes} (keyed : flowKey a d = .ok key) :
    ∃ addr, d.address = .ok addr ∧ key = a.string ++ 45 :: addr := by
  obtain ⟨addr, named, text⟩ := bind_eq_ok.mp keyed
  refine ⟨addr, named, ?_⟩
  simp only [pure_eq, Except.ok.injEq] at text
  rw [← text, show ascii "-" = [45] from rfl, List.append_assoc, List.singleton_append]

/-- Datagrams of two plain clients have the same flow key only when the clients' IPs
are `IP.Equal`, their ports are the same, and their destinations have the same text. -/
theorem flowKey_injective {a a' : UDPAddr} {d d' : Datagram} {key : Bytes} (plain : a.Plain)
    (plain' : a'.Plain) (keyed : flowKey a d = .ok key) (keyed' : flowKey a' d' = .ok key) :
    ipEqual a.ip a'.ip = true ∧ a.port = a'.port ∧ d.address = d'.address := by
  obtain ⟨addr, named, rfl⟩ := flowKey_eq_ok keyed
  obtain ⟨addr', named', same⟩ := flowKey_eq_ok keyed'
  obtain ⟨texts, addrs⟩ :=
    eq_of_append_cons (dash_not_mem_string plain) (dash_not_mem_string plain') same
  exact ⟨(ipEqual_of_string_eq plain plain' texts).1, (ipEqual_of_string_eq plain plain' texts).2,
    by rw [named, named', addrs]⟩

/-- An iteration hands `handleDatagram` at most the datagram it read, with the
address it read it from. -/
theorem handled_step (memCreater : MemAllocation) (s : SrcLoop) (read : UdpRead) :
    (s.step memCreater read).handled = s.handled ∨
      ∃ fromAddr bytes dialOk writeOk datagram, read = .message fromAddr bytes dialOk writeOk ∧
        (s.step memCreater read).handled = s.handled ++ [(fromAddr, datagram)] := by
  by_cases running : s.status = .running
  · cases read with
    | error => exact .inl (by simp [SrcLoop.step, running, SrcLoop.exit])
    | message fromAddr bytes dialOk writeOk =>
      simp only [SrcLoop.step, running]
      split
      · exact .inl rfl
      · exact .inl (by simp [SrcLoop.exit])
      · rename_i datagram _
        split <;> exact .inr ⟨fromAddr, bytes, dialOk, writeOk, datagram, rfl, rfl⟩
  · refine .inl ?_
    unfold SrcLoop.step
    split <;> simp_all

/-- Every datagram `readFromSrc` handles came with a read from its source address. -/
theorem readFromSrc_handled_from (memCreater : MemAllocation) (reads : List UdpRead) :
    ∀ call ∈ (readFromSrc memCreater reads).handled,
      ∃ bytes dialOk writeOk, UdpRead.message call.1 bytes dialOk writeOk ∈ reads := by
  induction reads using List.reverseRecOn with
  | nil => simp
  | append_singleton reads read ih =>
    rw [readFromSrc_append_singleton]
    intro call mem
    rcases handled_step memCreater (readFromSrc memCreater reads) read with same | ⟨fromAddr, bytes,
      dialOk, writeOk, datagram, rfl, grown⟩
    · obtain ⟨bytes, dialOk, writeOk, old⟩ := ih call (same ▸ mem)
      exact ⟨bytes, dialOk, writeOk, List.mem_append_left _ old⟩
    · rw [grown, List.mem_append, List.mem_singleton] at mem
      rcases mem with old | rfl
      · obtain ⟨bytes, dialOk, writeOk, old⟩ := ih call old
        exact ⟨bytes, dialOk, writeOk, List.mem_append_left _ old⟩
      · exact ⟨bytes, dialOk, writeOk, by simp⟩

/-- Over every run of `readFromSrc` on datagrams from plain addresses, with any
datagrams and any outcome of each dial and write: whenever the data of a handled
datagram is written to a connection, that connection was opened by the one dial
made for a datagram, handled no later, from a client whose IP is `IP.Equal` to the
sender's and whose port is the sender's, to a destination with the same text. -/
theorem readFromSrc_keeps_clients_apart (memCreater : MemAllocation) (reads : List UdpRead)
    (plain : ∀ fromAddr bytes dialOk writeOk,
      UdpRead.message fromAddr bytes dialOk writeOk ∈ reads → fromAddr.Plain) :
    let s := readFromSrc memCreater reads
    ∀ i fromAddr datagram c data ok, s.handled[i]? = some (fromAddr, datagram) →
      (c, data, ok) ∈ writes (effectsOf s.log i) →
      data = datagram.data ∧ ∃ j fromAddr' datagram', j ≤ i ∧
        s.handled[j]? = some (fromAddr', datagram') ∧ Dialled (effectsOf s.log j) c ∧
        (∀ j', Dialled (effectsOf s.log j') c → j' = j) ∧
        ipEqual fromAddr'.ip fromAddr.ip = true ∧ fromAddr'.port = fromAddr.port ∧
        datagram'.address = datagram.address := by
  intro s i fromAddr datagram c data ok call wrote
  have senderPlain : ∀ {k : Nat} {a : UDPAddr} {d : Datagram}, s.handled[k]? = some (a, d) → a.Plain :=
    fun found => by
    obtain ⟨bytes, dialOk, writeOk, read⟩ :=
      readFromSrc_handled_from memCreater reads _ (List.getElem?_mem found)
    exact plain _ bytes dialOk writeOk read
  obtain ⟨addr, named, none | ⟨c', ok', written, j, fromAddr', datagram', before, call', sameKey,
    dialled, once⟩⟩ := (readFromSrc_invariants memCreater reads).2.1.written i fromAddr datagram call
  · rw [none.1] at wrote
    exact absurd wrote (List.not_mem_nil _)
  · rw [written, List.mem_singleton, Prod.mk.injEq, Prod.mk.injEq] at wrote
    obtain ⟨rfl, rfl, -⟩ := wrote
    rw [flowKey_eq named] at sameKey
    obtain ⟨sameIP, samePort, sameAddress⟩ :=
      flowKey_injective (senderPlain call') (senderPlain call) sameKey (flowKey_eq named)
    exact ⟨rfl, j, fromAddr', datagram', before, call', dialled, once, sameIP, samePort,
      sameAddress⟩

/-- Over every run of `readFromSrc`, the flow table holds at most one entry for each
distinct flow key among the datagrams handled so far, whatever the outcome of each
dial and write. -/
theorem flow_table_bounded_by_flow_keys (memCreater : MemAllocation) (reads : List UdpRead) :
    let s := readFromSrc memCreater reads
    s.peers.m.length ≤ (s.handled.map fun call => flowKey call.1 call.2).dedup.length := by
  intro s
  have created := (readFromSrc_invariants memCreater reads).2.1.created
  have seen : (s.peers.m.map fun entry => (Except.ok entry.1 : Except Failure Bytes)) ⊆
      (s.handled.map fun call => flowKey call.1 call.2).dedup := by
    intro key mem
    obtain ⟨⟨k, udpPeer⟩, entry, rfl⟩ := List.mem_map.mp mem
    obtain ⟨i, fromAddr, datagram, addr, call, -, keyed, -⟩ :=
      created k udpPeer (UdpAssociate.get_eq_some_iff.mpr entry)
    exact List.mem_dedup.mpr (List.mem_map.mpr ⟨_, List.getElem?_mem call, keyed⟩)
  have distinct : (s.peers.m.map fun entry => (Except.ok entry.1 : Except Failure Bytes)).Nodup := by
    simpa only [List.map_map, Function.comp_def] using
      s.peers.nodup.map (f := (Except.ok : Bytes → Except Failure Bytes)) fun _ _ same => Except.ok.inj same
  simpa using (List.subperm_of_subset distinct seen).length_le

/-- The run of one datagram from 10.0.0.1:5000 to 1.2.3.4:80, whose sender is plain. -/
theorem plain_client_run :
    let reads := [UdpRead.message ⟨[10, 0, 0, 1], 5000, []⟩ [0, 0, 0, 1, 1, 2, 3, 4, 0, 80, 120]
      true true]
    (∀ fromAddr bytes dialOk writeOk,
      UdpRead.message fromAddr bytes dialOk writeOk ∈ reads → fromAddr.Plain) ∧
    let s := readFromSrc Mem reads
    ∀ i fromAddr datagram c data ok, s.handled[i]? = some (fromAddr, datagram) →
      (c, data, ok) ∈ writes (effectsOf s.log i) →
      data = datagram.data ∧ ∃ j fromAddr' datagram', j ≤ i ∧
        s.handled[j]? = some (fromAddr', datagram') ∧ Dialled (effectsOf s.log j) c ∧
        (∀ j', Dialled (effectsOf s.log j') c → j' = j) ∧
        ipEqual fromAddr'.ip fromAddr.ip = true ∧ fromAddr'.port = fromAddr.port ∧
        datagram'.address = datagram.address := by
  intro reads
  have plain : ∀ fromAddr bytes dialOk writeOk,
      UdpRead.message fromAddr bytes dialOk writeOk ∈ reads → fromAddr.Plain := by
    intro fromAddr bytes dialOk writeOk mem
    simp only [reads, List.mem_singleton, UdpRead.message.injEq] at mem
    rw [mem.1]
    decide
  exact ⟨plain, readFromSrc_keeps_clients_apart Mem reads plain⟩

end GoSocks5
