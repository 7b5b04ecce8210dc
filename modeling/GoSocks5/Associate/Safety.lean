import GoSocks5.Associate.ReadFromDst
import GoSocks5.ClientDatagram

/-!
# What any host can send never panics the association

The association's UDP port is open to every host, and a panic in one of its
goroutines ends the whole server. The bytes a datagram carries reach the
server's parser `NewDatagramFromByte`, and a reply's payload reaches
`NewDatagram` and `toBytes`; the client's decoder `NewDatagramFromBytes` reads
the same format. Every index and slice these functions take comes after the
length check that covers it, `Address` reads only fields the parser has checked,
and `toBytes` refuses a datagram that does not fit rather than write past its
buffer.

Over whole runs: neither loop of the association ever ends in a panic, whatever
the network delivers. The relay loop does what `relayed` says it is for: it hands
each datagram it receives, cut to its buffer, to `handleDatagram` in order, and
returns at the first read error or the first datagram the parser rejects. So one
malformed datagram from any host ends the relay of every flow of the association.
-/

namespace GoSocks5

open Slice Except

/-- On a datagram the parser accepts, `Address` and the flow key succeed. -/
theorem flowKey_of_accepted {memCreater : MemAllocation} {bs : Bytes} {datagram : Datagram}
    (accepted : newDatagramFromByte memCreater bs = .ok datagram) (fromAddr : UDPAddr) :
    ∃ addr, datagram.address = .ok addr ∧
      flowKey fromAddr datagram = .ok (fromAddr.string ++ ascii "-" ++ addr) := by
  obtain ⟨addr, named⟩ := address_of_accepted accepted
  exact ⟨addr, named, flowKey_eq named⟩

/-- `NewDatagram` followed by `toBytes` into a buffer: the reply is written when it
fits, and `toBytes` returns `-1` with the buffer untouched when it does not. -/
theorem toBytes_newDatagram (memCreater : MemAllocation) (aTyp : UInt8)
    (dstAddr dstPort payload buf : Bytes) :
    ∃ reply, newDatagram memCreater aTyp dstAddr dstPort payload = .ok reply ∧
      reply.toBytes buf = .ok (if reply.wire.length ≤ buf.length
        then (reply.wire.length, reply.wire ++ buf.drop reply.wire.length) else (-1, buf)) := by
  refine ⟨_, newDatagram_eq memCreater aTyp dstAddr dstPort payload, ?_⟩
  split_ifs with fits
  · exact Datagram.toBytes_of_le rfl fits
  · exact Datagram.toBytes_of_lt rfl (Nat.lt_of_not_le fits)

/-- No byte string a host sends to the association's port makes the server's parser
or the client's decoder panic. On a datagram the parser accepts, `Address` and the
flow key of `handleDatagram` succeed. For every reply payload, `NewDatagram` with
the fields a flow stores, followed by `toBytes` into `readFromDst`'s 65536-byte
buffer, does not panic: `toBytes` returns `-1` rather than write past the buffer. -/
theorem untrusted_bytes_never_panic :
    (∀ (memCreater : MemAllocation) (bs : Bytes), newDatagramFromByte memCreater bs ≠ .error .panic) ∧
    (∀ (message : String) (bs : Bytes), newDatagramFromBytes (.error message) bs ≠ .error .panic) ∧
    (∀ (memCreater : MemAllocation) (bs : Bytes) (datagram : Datagram) (fromAddr : UDPAddr),
      newDatagramFromByte memCreater bs = .ok datagram →
      ∃ addr, datagram.address = .ok addr ∧
        flowKey fromAddr datagram = .ok (fromAddr.string ++ ascii "-" ++ addr)) ∧
    (∀ (memCreater : MemAllocation) (bs : Bytes) (datagram : Datagram) (fromAddr : UDPAddr)
      (dst : Nat) (payload buf : Bytes),
      newDatagramFromByte memCreater bs = .ok datagram → buf.length = 65536 →
      let udpPeer := newUdpPeer fromAddr datagram dst
      ∃ reply, newDatagram memCreater udpPeer.atyp udpPeer.dstAddr udpPeer.dstPort payload =
          .ok reply ∧
        reply.toBytes buf = .ok (if reply.wire.length ≤ 65536
          then (reply.wire.length, reply.wire ++ buf.drop reply.wire.length) else (-1, buf))) :=
  ⟨newDatagramFromByte_ne_panic, newDatagramFromBytes_ne_panic,
    fun _ _ _ fromAddr accepted => flowKey_of_accepted accepted fromAddr,
    fun memCreater _ datagram fromAddr dst payload buf _ sized => by
      simpa only [sized] using toBytes_newDatagram memCreater datagram.aTyp
        (newUdpPeer fromAddr datagram dst).dstAddr (newUdpPeer fromAddr datagram dst).dstPort
        payload buf⟩

namespace SrcLoop

/-- An iteration of `readFromSrc` never panics: the parser returns a datagram or an
error, and `handleDatagram` succeeds on every datagram the parser accepts. -/
theorem status_step_ne_panicked (memCreater : MemAllocation) {s : SrcLoop}
    (notPanicked : s.status ≠ .panicked) (read : UdpRead) :
    (s.step memCreater read).status ≠ .panicked := by
  cases status : s.status with
  | panicked => exact absurd status notPanicked
  | returned => simp [step, status]
  | running =>
    cases read with
    | error => simp [step, status, exit]
    | message fromAddr bytes dialOk writeOk =>
      have sliced := slice_readInto s.bs bytes
      simp only [step, status]
      generalize readInto s.bs bytes = received at sliced ⊢
      obtain ⟨bs, n⟩ := received
      simp only at sliced ⊢
      rw [sliced, ok_bind]
      split
      · rename_i panicked
        exact absurd panicked (newDatagramFromByte_ne_panic _ _)
      · simp [exit]
      · rename_i datagram accepted
        obtain ⟨addr, named⟩ := address_of_accepted accepted
        obtain ⟨peers, dials, effects, handled⟩ :=
          handleDatagram_ok named s.peers s.dials fromAddr dialOk writeOk
        simp [handled, status]

end SrcLoop

namespace DstLoop

/-- An iteration of `readFromDst` never panics: `NewDatagram` fills its buffer within
bounds, and `toBytes` refuses a reply that does not fit. -/
theorem status_step_ne_panicked (memCreater : MemAllocation) (udpPeer : UdpPeer) {s : DstLoop}
    (notPanicked : s.status ≠ .panicked) (read : DstRead) :
    (s.step memCreater udpPeer read).status ≠ .panicked := by
  by_cases running : s.status = .running
  · cases read with
    | error => simp [step_error running, exit]
    | message bytes sendOk =>
      rw [step_message running]
      dsimp only
      split_ifs <;> simp [exit, running]
  · rwa [step_of_not_running running]

end DstLoop

/-- Whatever the network delivers, neither loop of an association ends in a panic:
not `readFromSrc`, and not the `readFromDst` of any flow. -/
theorem association_loops_never_panic (memCreater : MemAllocation) :
    (∀ reads, (readFromSrc memCreater reads).status ≠ .panicked) ∧
    ∀ udpPeer reads, (readFromDst memCreater udpPeer reads).status ≠ .panicked := by
  refine ⟨fun reads => ?_, fun udpPeer reads => ?_⟩
  · induction reads using List.reverseRecOn with
    | nil => simp [readFromSrc_nil]
    | append_singleton reads read ih =>
      rw [readFromSrc_append_singleton]
      exact SrcLoop.status_step_ne_panicked memCreater ih read
  · induction reads using List.reverseRecOn with
    | nil => simp [readFromDst_nil]
    | append_singleton reads read ih =>
      rw [readFromDst_append_singleton]
      exact DstLoop.status_step_ne_panicked memCreater udpPeer ih read

/-- What the relay loop is for: the datagrams it hands on, each one received, cut to
the 65536-byte buffer and parsed, in order; and whether it has returned, at the
first read error or the first datagram the parser rejects. -/
def relayed (memCreater : MemAllocation) : List UdpRead → List (UDPAddr × Datagram) × Bool
  | [] => ([], false)
  | .error :: _ => ([], true)
  | .message fromAddr bytes _ _ :: rest =>
    match newDatagramFromByte memCreater (bytes.take 65536) with
    | .ok datagram => ((fromAddr, datagram) :: (relayed memCreater rest).1, (relayed memCreater rest).2)
    | .error _ => ([], true)

/-- A read after the loop has returned changes nothing; otherwise it adds what it
relays on its own. -/
theorem relayed_append_singleton (memCreater : MemAllocation) (reads : List UdpRead)
    (read : UdpRead) :
    relayed memCreater (reads ++ [read]) =
      if (relayed memCreater reads).2 then relayed memCreater reads
      else ((relayed memCreater reads).1 ++ (relayed memCreater [read]).1,
        (relayed memCreater [read]).2) := by
  induction reads with
  | nil => rfl
  | cons first reads ih =>
    rcases first with ⟨fromAddr, bytes, dialOk, writeOk⟩ | _
    · rw [List.cons_append]
      rcases parsed : newDatagramFromByte memCreater (bytes.take 65536) with failure | datagram
      · simp [relayed, parsed]
      · simp only [relayed, parsed, ih]
        split <;> simp
    · rfl

namespace SrcLoop

/-- A running iteration with the 65536-byte buffer relays what `relayed` says of its
read alone. -/
theorem relayed_step (memCreater : MemAllocation) {s : SrcLoop} (running : s.status = .running)
    (sized : s.bs.length = 65536) (read : UdpRead) :
    (s.step memCreater read).handled = s.handled ++ (relayed memCreater [read]).1 ∧
      (s.step memCreater read).status = if (relayed memCreater [read]).2 then .returned else .running := by
  cases read with
  | error => simp [step, running, exit, relayed]
  | message fromAddr bytes dialOk writeOk =>
    have sliced := slice_readInto s.bs bytes
    simp only [step, running]
    generalize readInto s.bs bytes = received at sliced ⊢
    obtain ⟨bs, n⟩ := received
    simp only at sliced ⊢
    rw [sliced, ok_bind, sized]
    rcases parsed : newDatagramFromByte memCreater (bytes.take 65536) with failure | datagram
    · cases failure with
      | panic => exact absurd parsed (newDatagramFromByte_ne_panic _ _)
      | error => simp [exit, relayed, parsed]
    · obtain ⟨addr, named⟩ := address_of_accepted parsed
      obtain ⟨peers, dials, effects, handled⟩ :=
        handleDatagram_ok named s.peers s.dials fromAddr dialOk writeOk
      simp [handled, running, relayed, parsed]

end SrcLoop

/-- Over every run of `readFromSrc`, whatever the network delivers, the loop hands
to `handleDatagram` exactly the datagrams `relayed` names, in the order received,
and it has returned exactly when a read failed or the parser rejected a datagram;
otherwise it is still running. -/
theorem readFromSrc_relays_until_rejected (memCreater : MemAllocation) (reads : List UdpRead) :
    (readFromSrc memCreater reads).handled = (relayed memCreater reads).1 ∧
      (readFromSrc memCreater reads).status =
        if (relayed memCreater reads).2 then .returned else .running := by
  induction reads using List.reverseRecOn with
  | nil => exact ⟨rfl, rfl⟩
  | append_singleton reads read ih =>
    obtain ⟨handledEq, statusEq⟩ := ih
    rw [readFromSrc_append_singleton, relayed_append_singleton]
    by_cases ended : (relayed memCreater reads).2 = true
    · rw [if_pos ended] at statusEq ⊢
      rw [show (readFromSrc memCreater reads).step memCreater read = readFromSrc memCreater reads by
        cases read <;> simp [SrcLoop.step, statusEq]]
      exact ⟨handledEq, by rw [statusEq, if_pos ended]⟩
    · rw [if_neg ended] at statusEq ⊢
      obtain ⟨handled, status⟩ := SrcLoop.relayed_step memCreater statusEq
        (length_readFromSrc_bs memCreater reads) read
      exact ⟨by rw [handled, handledEq], status⟩

end GoSocks5
