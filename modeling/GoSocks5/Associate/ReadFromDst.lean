import GoSocks5.Associate.ReadFromSrc

/-!
# The reverse path

`readFromDst` reads replies from a flow's connection into a 65536-byte buffer,
wraps each in a datagram that `NewDatagram` builds from the flow's stored
`atyp`, `dstAddr` and `dstPort`, encodes it into the same buffer with
`toBytes`, and sends it to the flow's client. It stops at the first read error,
reply that does not fit, or failed send, and then frees the datagram it still
holds.

`step_message` computes an iteration on a reply. From it: the reply to a flow
created by a client datagram carries that datagram's header byte for byte, for
every address type, since the flow keeps the parser's `DstAddr` and
`NewDatagram` puts a domain name's length byte back; and each loop frees every
buffer it allocates exactly once, after its last use.
-/

namespace GoSocks5

open Slice Except

/-- What `udpPeer.dst.Read(bs)` returns: a reply from the remote, with the answer
the network will give to sending it on to the client; or an error. -/
inductive DstRead where
  | message (bytes : Bytes) (sendOk : Bool)
  | error
  deriving DecidableEq, Repr

/-- The variables of `readFromDst` and its log; `allocs` counts the buffers
allocated so far, which names the next one. -/
structure DstLoop where
  bs : Bytes
  allocs : Nat
  datagram : Option Nat
  status : LoopStatus
  log : List Event

namespace DstLoop

/-- The state on entry: `make([]byte, 65536)` and a nil `datagram`. -/
def init : DstLoop :=
  { bs := List.replicate 65536 0, allocs := 0, datagram := none, status := .running, log := [] }

/-- The code after the loop: `datagram.free` unless `datagram` is nil. -/
def exit (s : DstLoop) : DstLoop :=
  { s with status := .returned,
           log := s.log ++ s.datagram.toList.map fun b => Event.mk none (.free b) }

/-- One iteration of the loop of `readFromDst` for the flow `udpPeer`. `NewDatagram`
allocates the buffer and never returns nil, so the nil check never fires. -/
def step (memCreater : MemAllocation) (udpPeer : UdpPeer) (s : DstLoop) (read : DstRead) :
    DstLoop :=
  match s.status, read with
  | .running, .error => s.exit
  | .running, .message bytes sendOk =>
    let (bs, n) := readInto s.bs bytes
    match slice bs 0 n >>= newDatagram memCreater udpPeer.atyp udpPeer.dstAddr udpPeer.dstPort with
    | .error _ => { s with bs, status := .panicked }
    | .ok datagram =>
      let b := s.allocs
      let s := { s with bs, allocs := b + 1, datagram := some b,
                        log := s.log ++ [Event.mk none (.alloc b)] }
      match datagram.toBytes s.bs with
      | .error _ => { s with status := .panicked }
      | .ok (n, bs) =>
        let s := { s with bs, log := s.log ++ [Event.mk (some b) (.encode n)] }
        if n ≤ 0 then s.exit
        else
          match slice bs 0 n.toNat with
          | .error _ => { s with status := .panicked }
          | .ok sent =>
            let s := { s with log := s.log ++ [Event.mk none (.sendTo udpPeer.fromAddr sent sendOk)] }
            if sendOk then { s with datagram := none, log := s.log ++ [Event.mk none (.free b)] }
            else s.exit
  | _, _ => s

@[simp] theorem init_bs : init.bs = List.replicate 65536 0 := rfl
@[simp] theorem init_allocs : init.allocs = 0 := rfl
@[simp] theorem init_datagram : init.datagram = none := rfl
@[simp] theorem init_status : init.status = .running := rfl
@[simp] theorem init_log : init.log = [] := rfl

end DstLoop

/-- `readFromDst` for the flow `udpPeer`, over the results of its reads. -/
def readFromDst (memCreater : MemAllocation) (udpPeer : UdpPeer) (reads : List DstRead) : DstLoop :=
  reads.foldl (DstLoop.step memCreater udpPeer) DstLoop.init

@[simp]
theorem readFromDst_nil (memCreater : MemAllocation) (udpPeer : UdpPeer) :
    readFromDst memCreater udpPeer [] = DstLoop.init := rfl

@[simp]
theorem readFromDst_append_singleton (memCreater : MemAllocation) (udpPeer : UdpPeer)
    (reads : List DstRead) (read : DstRead) :
    readFromDst memCreater udpPeer (reads ++ [read]) =
      (readFromDst memCreater udpPeer reads).step memCreater udpPeer read := by
  simp [readFromDst]

/-- The datagram `NewDatagram` builds for a reply of a flow: its stored destination,
a domain name's length byte put back, and the payload. -/
def replyDatagram (udpPeer : UdpPeer) (payload : Bytes) : Datagram :=
  { rsv := [0, 0], frag := 0, aTyp := udpPeer.atyp,
    dstAddr := addrField udpPeer.atyp udpPeer.dstAddr, dstPort := udpPeer.dstPort, data := payload }

theorem newDatagram_reply (memCreater : MemAllocation) (udpPeer : UdpPeer) (payload : Bytes) :
    newDatagram memCreater udpPeer.atyp udpPeer.dstAddr udpPeer.dstPort payload =
      .ok (replyDatagram udpPeer payload) :=
  newDatagram_eq memCreater _ _ _ _

namespace DstLoop

/-- An iteration on a reply: the reply is sent when its encoding fits the buffer,
and the loop stops when it does not fit or the send fails. -/
theorem step_message {s : DstLoop} (running : s.status = .running) (memCreater : MemAllocation)
    (udpPeer : UdpPeer) (bytes : Bytes) (sendOk : Bool) :
    s.step memCreater udpPeer (.message bytes sendOk) =
      let reply := (replyDatagram udpPeer (bytes.take s.bs.length)).wire
      let b := s.allocs
      if reply.length ≤ s.bs.length then
        let s := { s with bs := reply ++ List.drop reply.length (readInto s.bs bytes).1,
                          allocs := b + 1, datagram := some b,
                          log := s.log ++ [Event.mk (none) (.alloc b), Event.mk (some b) (.encode reply.length),
                            Event.mk (none) (.sendTo udpPeer.fromAddr reply sendOk)] }
        if sendOk then { s with datagram := none, log := s.log ++ [Event.mk (none) (.free b)] } else s.exit
      else
        { s with bs := (readInto s.bs bytes).1, allocs := b + 1, datagram := some b,
                 log := s.log ++ [Event.mk (none) (.alloc b), Event.mk (some b) (.encode (-1))] }.exit := by
  have sliced := slice_readInto s.bs bytes
  have sameLength := length_readInto s.bs bytes
  simp only [step, running]
  generalize readInto s.bs bytes = read at sliced sameLength ⊢
  obtain ⟨bs, n⟩ := read
  simp only at sliced sameLength ⊢
  simp only [sliced, ok_bind, newDatagram_reply]
  by_cases fits : (replyDatagram udpPeer (bytes.take s.bs.length)).wire.length ≤ s.bs.length
  · have encoded : (replyDatagram udpPeer (bytes.take s.bs.length)).toBytes bs = _ :=
      Datagram.toBytes_of_le rfl (by rw [sameLength]; exact fits)
    have positive : ¬((replyDatagram udpPeer (bytes.take s.bs.length)).wire.length : Int) ≤ 0 := by
      simp [replyDatagram]
      omega
    have sent : slice ((replyDatagram udpPeer (bytes.take s.bs.length)).wire ++
        bs.drop (replyDatagram udpPeer (bytes.take s.bs.length)).wire.length) 0
        ((replyDatagram udpPeer (bytes.take s.bs.length)).wire.length : Int).toNat =
        .ok (replyDatagram udpPeer (bytes.take s.bs.length)).wire := by
      rw [Int.toNat_ofNat, slice_of_le (Nat.zero_le _) (by simp)]
      simp
    simp only [encoded, positive, sent, fits, if_false, if_true]
    cases sendOk <;> simp [exit]
  · have encoded : (replyDatagram udpPeer (bytes.take s.bs.length)).toBytes bs = _ :=
      Datagram.toBytes_of_lt rfl (by rw [sameLength]; exact Nat.lt_of_not_le fits)
    simp only [encoded, fits, if_false]
    simp [exit]

theorem step_error {s : DstLoop} (running : s.status = .running) (memCreater : MemAllocation)
    (udpPeer : UdpPeer) : s.step memCreater udpPeer .error = s.exit := by
  simp [step, running]

theorem step_of_not_running {s : DstLoop} (notRunning : s.status ≠ .running)
    (memCreater : MemAllocation) (udpPeer : UdpPeer) (read : DstRead) :
    s.step memCreater udpPeer read = s := by
  unfold step
  split <;> simp_all

/-- What every state satisfies: no datagram is held between iterations, the buffer
keeps its 65536 bytes, and the log names only buffers allocated so far. -/
structure Wf (s : DstLoop) : Prop where
  idle : s.status = .running → s.datagram = none
  buffer : s.bs.length = 65536
  below : Below s.allocs s.log

theorem wf_init : Wf DstLoop.init :=
  ⟨fun _ => rfl, by rw [init_bs, List.length_replicate], by simp [Below]⟩

/-- An iteration on a reply appends one segment: allocate, encode, maybe send, free. -/
theorem invariants_message {s : DstLoop} (wf : Wf s) (freed : FreedAfterUse s.log)
    (running : s.status = .running) (memCreater : MemAllocation) (udpPeer : UdpPeer)
    (bytes : Bytes) (sendOk : Bool) :
    let s' := s.step memCreater udpPeer (.message bytes sendOk)
    Wf s' ∧ FreedAfterUse s'.log := by
  rw [step_message running]
  simp only
  generalize (replyDatagram udpPeer (bytes.take s.bs.length)).wire = reply
  have sendUses : ∀ e ∈ [Event.mk (some s.allocs) (.encode reply.length),
      Event.mk none (.sendTo udpPeer.fromAddr reply sendOk)],
      (e.reads = none ∨ e.reads = some s.allocs) ∧ e.effect.buffer = none := by
    simp [Effect.buffer]
  have encodeUses : ∀ e ∈ [Event.mk (some s.allocs) (.encode (-1))],
      (e.reads = none ∨ e.reads = some s.allocs) ∧ e.effect.buffer = none := by
    simp [Effect.buffer]
  split_ifs with fits sent
  · refine ⟨⟨fun _ => rfl, by simp [wf.buffer] at fits ⊢; omega, ?_⟩, ?_⟩
    · simpa using FreedAfterUse.below_append_segment wf.below sendUses
    · simpa using FreedAfterUse.append_segment freed wf.below sendUses
  · refine ⟨⟨fun returned => by simp [exit] at returned, by simp [exit, wf.buffer] at fits ⊢; omega,
      ?_⟩, ?_⟩
    · simpa [exit] using FreedAfterUse.below_append_segment wf.below sendUses
    · simpa [exit] using FreedAfterUse.append_segment freed wf.below sendUses
  · refine ⟨⟨fun returned => by simp [exit] at returned, by simp [exit, wf.buffer], ?_⟩, ?_⟩
    · simpa [exit] using FreedAfterUse.below_append_segment wf.below encodeUses
    · simpa [exit] using FreedAfterUse.append_segment freed wf.below encodeUses

theorem invariants_step {s : DstLoop} (wf : Wf s) (freed : FreedAfterUse s.log)
    (memCreater : MemAllocation) (udpPeer : UdpPeer) (read : DstRead) :
    let s' := s.step memCreater udpPeer read
    Wf s' ∧ FreedAfterUse s'.log := by
  by_cases running : s.status = .running
  · cases read with
    | message bytes sendOk => exact invariants_message wf freed running memCreater udpPeer bytes sendOk
    | error =>
      rw [step_error running]
      have quiet : s.exit.log = s.log := by simp [exit, wf.idle running]
      exact ⟨⟨fun returned => by simp [exit] at returned, wf.buffer, quiet ▸ wf.below⟩, quiet ▸ freed⟩
  · rw [step_of_not_running running]
    exact ⟨wf, freed⟩

end DstLoop

/-- Every state `readFromDst` reaches satisfies the invariants. -/
theorem readFromDst_invariants (memCreater : MemAllocation) (udpPeer : UdpPeer)
    (reads : List DstRead) :
    let s := readFromDst memCreater udpPeer reads
    s.Wf ∧ FreedAfterUse s.log := by
  induction reads using List.reverseRecOn with
  | nil => exact ⟨DstLoop.wf_init, FreedAfterUse.nil⟩
  | append_singleton reads read ih =>
    rw [readFromDst_append_singleton]
    exact DstLoop.invariants_step ih.1 ih.2 memCreater udpPeer read

/-- The datagrams a log sends to clients: address, bytes and outcome. -/
def sends (log : List Event) : List (UDPAddr × Bytes × Bool) :=
  log.filterMap fun e =>
    match e.effect with
    | .sendTo addr bytes ok => some (addr, bytes, ok)
    | _ => none

/-- The length of a client datagram's header, `RSV` to `DST.PORT`: 4, plus 4, 16 or
`1 + bs[4]` address bytes, plus 2 port bytes. -/
def headerLength (bs : Bytes) : Nat :=
  4 + (if bs.getD 3 0 = ipv4Address then 4
       else if bs.getD 3 0 = ipv6Address then 16 else 1 + (bs.getD 4 0).toNat) + 2

namespace Frame

theorem headerLength_bytes (f : Frame) : headerLength f.bytes = 2 + f.header.length := by
  obtain ⟨rsv, aTyp, addr, port, data, rsvLength, valid, portLength, -, -⟩ := f
  obtain ⟨r0, r1, rfl⟩ := pair_of_length_two rsvLength
  rcases valid with ⟨rfl, length⟩ | ⟨rfl, length⟩ | ⟨rfl, -, short⟩
  · simp [headerLength, bytes, header, addrField, length, portLength]
  · simp [headerLength, bytes, header, addrField, length, portLength]
  · simp [headerLength, bytes, header, addrField, portLength, UInt8.toNat_ofNat_of_lt short]
    omega

/-- `bs[2:h]` of a frame is its header. -/
theorem take_headerLength (f : Frame) : (f.bytes.drop 2).take (headerLength f.bytes - 2) = f.header := by
  obtain ⟨r0, r1, rsvEq⟩ := pair_of_length_two f.rsv_length
  rw [headerLength_bytes, Nat.add_sub_cancel_left, bytes, rsvEq]
  simp

end Frame

/-- The reply of the flow a frame created: zero `RSV`, then the frame's header, then
the payload. -/
theorem wire_reply_frame (fromAddr : UDPAddr) (f : Frame) (dst : Nat) (payload : Bytes) :
    (replyDatagram (newUdpPeer fromAddr f.datagram dst) payload).wire = [0, 0] ++ f.header ++ payload := by
  simp [replyDatagram, Datagram.wire, Frame.header, Frame.datagram, newUdpPeer]

/-- A reply read from the connection of a flow that the client datagram `bs` from
`fromAddr` created is sent to `fromAddr` as `[0, 0] ++ bs[2:h] ++ payload`, `h` the
header's length, when that fits the 65536-byte buffer, and nothing is sent
otherwise; for every address type. -/
theorem readFromDst_replies_with_flow_header {memCreater : MemAllocation} {bs : Bytes}
    {datagram : Datagram} {peers peers' : UdpAssociate} {dials dials' : Nat} {fromAddr : UDPAddr}
    {dialOk writeOk : Bool} {effects : List Effect} {udpPeer : UdpPeer}
    (accepted : newDatagramFromByte memCreater bs = .ok datagram)
    (created : handleDatagram peers dials fromAddr datagram dialOk writeOk =
      .ok (peers', dials', effects))
    (spawned : .spawn udpPeer ∈ effects) (reads : List DstRead) (payload : Bytes) (sendOk : Bool)
    (running : (readFromDst memCreater udpPeer reads).status = .running) :
    sends (readFromDst memCreater udpPeer (reads ++ [.message payload sendOk])).log =
      sends (readFromDst memCreater udpPeer reads).log ++
        if headerLength bs + payload.length ≤ 65536 then
          [(fromAddr, [0, 0] ++ (bs.drop 2).take (headerLength bs - 2) ++ payload, sendOk)]
        else [] := by
  obtain ⟨addr, -, outcome⟩ := handleDatagram_handled created
  obtain ⟨rfl, -⟩ := outcome.spawned spawned
  obtain ⟨f, rfl, rfl⟩ := exists_frame_of_newDatagramFromByte accepted
  have buffer := (readFromDst_invariants memCreater (newUdpPeer fromAddr f.datagram dials) reads).1.buffer
  rw [readFromDst_append_singleton, DstLoop.step_message running, buffer, wire_reply_frame,
    Frame.take_headerLength, Frame.headerLength_bytes]
  simp only
  by_cases fits : 2 + f.header.length + payload.length ≤ 65536
  · rw [List.take_of_length_le (by omega), if_pos (by simp; omega), if_pos fits]
    cases sendOk <;> simp [sends, DstLoop.exit]
  · rw [if_neg (by simp; omega), if_neg fits]
    simp [sends, DstLoop.exit]

/-- The flow an IPv4 datagram from `10.0.0.1:5000` creates sends the reply `7` back
behind the datagram's header. -/
theorem ipv4_flow_reply_header :
    let client : UDPAddr := ⟨[10, 0, 0, 1], 5000, []⟩
    let datagram : Datagram := ⟨[0, 0], 0, 1, [1, 2, 3, 4], [0, 80], [120]⟩
    let udpPeer := newUdpPeer client datagram 0
    let effects : List Effect :=
      [.dial (ascii "1.2.3.4:80") (some 0), .spawn udpPeer, .write 0 [120] true]
    let bs : Bytes := [0, 0, 0, 1, 1, 2, 3, 4, 0, 80, 120]
    newDatagramFromByte Mem bs = .ok datagram ∧
    handleDatagram .empty 0 client datagram true true =
      .ok (UdpAssociate.empty.set (ascii "10.0.0.1:5000-1.2.3.4:80") udpPeer, 1, effects) ∧
    Effect.spawn udpPeer ∈ effects ∧ (readFromDst Mem udpPeer []).status = .running ∧
    sends (readFromDst Mem udpPeer ([] ++ [.message [7] true])).log =
      sends (readFromDst Mem udpPeer []).log ++
        if headerLength bs + [7].length ≤ 65536 then
          [(client, [0, 0] ++ (bs.drop 2).take (headerLength bs - 2) ++ [7], true)]
        else [] := by
  intro client datagram udpPeer effects bs
  have accepted : newDatagramFromByte Mem bs = .ok datagram := by decide
  have created : handleDatagram .empty 0 client datagram true true =
      .ok (UdpAssociate.empty.set (ascii "10.0.0.1:5000-1.2.3.4:80") udpPeer, 1, effects) := by
    decide
  have spawned : Effect.spawn udpPeer ∈ effects := by simp [effects]
  exact ⟨accepted, created, spawned, rfl,
    readFromDst_replies_with_flow_header accepted created spawned [] [7] true rfl⟩

/-- In every run of `readFromSrc` and of every `readFromDst`, each buffer allocated is
freed exactly once, and no entry reads a datagram after its buffer is freed. -/
theorem buffers_freed_once_after_use (memCreater : MemAllocation) :
    (∀ reads, FreedAfterUse (readFromSrc memCreater reads).log) ∧
      ∀ udpPeer reads, FreedAfterUse (readFromDst memCreater udpPeer reads).log :=
  ⟨fun reads => (readFromSrc_invariants memCreater reads).2.2.2,
    fun udpPeer reads => (readFromDst_invariants memCreater udpPeer reads).2⟩

end GoSocks5
