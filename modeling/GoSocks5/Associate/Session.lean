import GoSocks5.Associate.ReadFromDst

/-!
# One UDP association

`doAssociate` binds the association's UDP socket, starts a goroutine that reads
and discards the TCP control connection, and runs `readFromSrc`, whose
`handleDatagram` starts a `readFromDst` for every new flow. The tasks run
concurrently, and the model interleaves their iterations in any order: a turn is
an iteration of the relay loop, an iteration of one flow's reverse path, or the
drain's `io.Copy` returning.

The drain's goroutine does nothing once `io.Copy` returns, and no other task
reads the control connection; `doAssociate` carries a FIXME saying the UDP side
should be released when the TCP connection closes. A reverse path never touches
the flow table, and `readFromSrc` never compares a datagram's source with the
control connection's client. `run_relay` says all of this at once: after any
interleaving, the relay loop is where `readFromSrc` alone would be after its own
reads.

The association holds one reverse path for each flow the relay loop has started
(`length_reverse`). A flow in the table stays there, its connection open, until a
write of the relay loop to that connection fails or `readFromSrc` returns
(`flow_stays_until_write_fails`): the end of its reverse path changes neither.
-/

namespace GoSocks5

open Slice Except

/-- A turn of one task of an association. -/
inductive Turn where
  /-- An iteration of `readFromSrc`. -/
  | relay (read : UdpRead)
  /-- An iteration of the `readFromDst` of connection `conn`. -/
  | reverse (conn : Nat) (read : DstRead)
  /-- The drain goroutine's `io.Copy(io.Discard, conn)` returns. -/
  | drainReturned

/-- The read of the relay loop a turn makes, if it is one. -/
def Turn.relayRead : Turn → Option UdpRead
  | .relay read => some read
  | _ => none

/-- The flows whose reverse paths a log starts, in order: connection `n`'s is the
`n`-th. -/
def spawns (log : List Event) : List UdpPeer :=
  log.filterMap fun e =>
    match e.effect with
    | .spawn udpPeer => some udpPeer
    | _ => none

@[simp]
theorem spawns_append (log log' : List Event) : spawns (log ++ log') = spawns log ++ spawns log' :=
  List.filterMap_append _ _ _

/-- The flows a relay loop has spawned only grow. -/
theorem spawns_prefix_step (memCreater : MemAllocation) (s : SrcLoop) (read : UdpRead) :
    spawns s.log <+: spawns (s.step memCreater read).log := by
  obtain ⟨tail, grown⟩ := SrcLoop.log_prefix_step memCreater s read
  exact ⟨spawns tail, by rw [← grown, spawns_append]⟩

/-- Leaving the relay loop starts no reverse path. -/
theorem spawns_exit (s : SrcLoop) : spawns s.exit.log = spawns s.log := by
  simp [SrcLoop.exit, spawns]

/-- An iteration starts a reverse path exactly when it dials a new connection, and
then for the flow that holds it. -/
theorem spawns_afterHandled {s : SrcLoop} {bs : Bytes} {fromAddr : UDPAddr} {datagram : Datagram}
    {key addr : Bytes} {peers : UdpAssociate} {dials : Nat} {effects : List Effect}
    (outcome : Handled s.peers s.dials fromAddr datagram key addr peers dials effects) :
    spawns (s.afterHandled bs fromAddr datagram peers dials effects).log =
      spawns s.log ++ if dials = s.dials + 1 then [newUdpPeer fromAddr datagram s.dials] else [] := by
  rw [SrcLoop.afterHandled_log, spawns_append]
  cases outcome <;> simp [spawns, SrcLoop.segment]

/-- A relay loop starts one reverse path for each connection it dials, in the order
of the dials: the `n`-th is for the flow that holds connection `n`. -/
theorem spawns_readFromSrc (memCreater : MemAllocation) (reads : List UdpRead) :
    (spawns (readFromSrc memCreater reads).log).map UdpPeer.dst =
      List.range (readFromSrc memCreater reads).dials := by
  induction reads using List.reverseRecOn with
  | nil => rfl
  | append_singleton reads read ih =>
    rw [readFromSrc_append_singleton]
    have stepped := SrcLoop.stepped memCreater (readFromSrc memCreater reads) read
    generalize (readFromSrc memCreater reads).step memCreater read = s' at stepped ⊢
    cases stepped with
    | stopped | parsePanicked => exact ih
    | readFailed | parseFailed => rw [spawns_exit]; exact ih
    | handled running bs fromAddr datagram addr peers dials effects bytes accepted named outcome =>
      rw [spawns_afterHandled outcome, List.map_append, ih, SrcLoop.afterHandled_dials]
      rcases outcome.dials_eq with same | ⟨next, -⟩
      · simp [same]
      · simp [next, List.range_succ]

/-- The tasks of one association: the control connection's client, the relay
loop, the reverse path of every flow started (connection `n`'s at index `n`), and
whether the drain has returned. -/
structure Association where
  control : UDPAddr
  relay : SrcLoop
  reverse : List DstLoop
  drained : Bool

namespace Association

/-- The association `doAssociate` starts for a control connection from `control`. -/
def init (control : UDPAddr) : Association :=
  { control, relay := SrcLoop.init, reverse := [], drained := false }

/-- One turn. A reverse path starts when the relay loop spawns it. -/
def step (memCreater : MemAllocation) (a : Association) : Turn → Association
  | .relay read =>
    let relay := a.relay.step memCreater read
    { a with relay,
             reverse := a.reverse ++
               List.replicate ((spawns relay.log).length - a.reverse.length) DstLoop.init }
  | .reverse conn read =>
    match (spawns a.relay.log)[conn]? with
    | some udpPeer =>
      { a with reverse := a.reverse.modify (fun s => s.step memCreater udpPeer read) conn }
    | none => a
  | .drainReturned => { a with drained := true }

@[simp] theorem init_relay (control : UDPAddr) : (init control).relay = SrcLoop.init := rfl
@[simp] theorem init_reverse (control : UDPAddr) : (init control).reverse = [] := rfl

theorem reverse_step_relay (memCreater : MemAllocation) (a : Association) (read : UdpRead) :
    (a.step memCreater (.relay read)).reverse =
      a.reverse ++ List.replicate
        ((spawns (a.relay.step memCreater read).log).length - a.reverse.length) DstLoop.init := rfl

theorem reverse_step_reverse {memCreater : MemAllocation} {a : Association} {conn : Nat}
    {udpPeer : UdpPeer} (spawned : (spawns a.relay.log)[conn]? = some udpPeer) (read : DstRead) :
    (a.step memCreater (.reverse conn read)).reverse =
      a.reverse.modify (fun s => s.step memCreater udpPeer read) conn := by
  simp only [step, spawned]

/-- An association after a sequence of turns. -/
def run (memCreater : MemAllocation) (control : UDPAddr) (turns : List Turn) : Association :=
  turns.foldl (step memCreater) (init control)

@[simp]
theorem run_append_singleton (memCreater : MemAllocation) (control : UDPAddr) (turns : List Turn)
    (turn : Turn) :
    run memCreater control (turns ++ [turn]) = (run memCreater control turns).step memCreater turn := by
  simp [run]

/-- Only the relay loop's own turns move it. -/
theorem step_relay (memCreater : MemAllocation) (a : Association) (turn : Turn) :
    (a.step memCreater turn).relay =
      match turn.relayRead with
      | some read => a.relay.step memCreater read
      | none => a.relay := by
  cases turn with
  | relay read => rfl
  | reverse conn read =>
    simp only [step, Turn.relayRead]
    split <;> rfl
  | drainReturned => rfl

/-- After any interleaving, the relay loop is where `readFromSrc` alone would be
after its own reads: the reverse paths and the drain never change it. -/
theorem run_relay (memCreater : MemAllocation) (control : UDPAddr) (turns : List Turn) :
    (run memCreater control turns).relay = readFromSrc memCreater (turns.filterMap Turn.relayRead) := by
  induction turns using List.reverseRecOn with
  | nil => rfl
  | append_singleton turns turn ih =>
    rw [run_append_singleton, step_relay, ih, List.filterMap_append]
    cases turn <;> simp [Turn.relayRead]

@[simp]
theorem run_control (memCreater : MemAllocation) (control : UDPAddr) (turns : List Turn) :
    (run memCreater control turns).control = control := by
  induction turns using List.reverseRecOn with
  | nil => rfl
  | append_singleton turns turn ih =>
    rw [run_append_singleton]
    cases turn with
    | reverse conn read =>
      simp only [step]
      split <;> exact ih
    | _ => exact ih

/-- Every flow the relay loop has spawned has exactly one reverse path. -/
theorem length_reverse (memCreater : MemAllocation) (control : UDPAddr) (turns : List Turn) :
    (run memCreater control turns).reverse.length =
      (spawns (run memCreater control turns).relay.log).length := by
  induction turns using List.reverseRecOn with
  | nil => rfl
  | append_singleton turns turn ih =>
    rw [run_append_singleton]
    cases turn with
    | relay read =>
      have grown := (spawns_prefix_step memCreater (run memCreater control turns).relay read).length_le
      rw [reverse_step_relay, List.length_append, List.length_replicate]
      show _ = (spawns ((run memCreater control turns).relay.step memCreater read).log).length
      omega
    | reverse conn read =>
      simp only [step]
      split
      · rw [List.length_modify]
        exact ih
      · exact ih
    | drainReturned => exact ih

end Association

/-- The first datagram a relay loop accepts starts a flow on connection 0 and is
written to it, whatever its source. -/
theorem readFromSrc_first_datagram (memCreater : MemAllocation) (fromAddr : UDPAddr)
    {bytes : Bytes} {datagram : Datagram} {addr : Bytes} (fits : bytes.length ≤ 65536)
    (accepted : newDatagramFromByte memCreater bytes = .ok datagram)
    (named : datagram.address = .ok addr) :
    readFromSrc memCreater [.message fromAddr bytes true true] =
      SrcLoop.init.afterHandled (readInto SrcLoop.init.bs bytes).1 fromAddr datagram
        (UdpAssociate.empty.set (fromAddr.string ++ ascii "-" ++ addr)
          (newUdpPeer fromAddr datagram 0)) 1
        [.dial addr (some 0), .spawn (newUdpPeer fromAddr datagram 0), .write 0 datagram.data true] := by
  have room : bytes.length ≤ SrcLoop.init.bs.length := fits.trans (length_readFromSrc_bs memCreater []).ge
  exact SrcLoop.step_accepted rfl room accepted (handleDatagram_of_get_none named rfl)

/-- A flow's reverse path can end while the flow stays in the table. After the
first datagram from `fromAddr` starts a flow and that flow's reverse path fails to
read, the flow is still present with its connection, and the next datagram with
its key is written to that connection, which no one has closed. -/
theorem reverse_exit_keeps_flow (memCreater : MemAllocation) (control fromAddr : UDPAddr)
    {bytes : Bytes} {datagram : Datagram} {addr : Bytes} (fits : bytes.length ≤ 65536)
    (accepted : newDatagramFromByte memCreater bytes = .ok datagram)
    (named : datagram.address = .ok addr) :
    let a := Association.run memCreater control
      [.relay (.message fromAddr bytes true true), .reverse 0 .error]
    let a' := a.step memCreater (.relay (.message fromAddr bytes true true))
    a.reverse.map DstLoop.status = [.returned] ∧
      (a.relay.peers.get (fromAddr.string ++ ascii "-" ++ addr)).map UdpPeer.dst = some 0 ∧
      closes a'.relay.log 0 = 0 ∧ effectsOf a'.relay.log 1 = [.write 0 datagram.data true] := by
  dsimp only
  have first := readFromSrc_first_datagram memCreater fromAddr fits accepted named
  have spawned : spawns (SrcLoop.init.step memCreater (.message fromAddr bytes true true)).log =
      [newUdpPeer fromAddr datagram 0] := by
    rw [← readFromSrc_nil, ← readFromSrc_append_singleton, List.nil_append, first,
      SrcLoop.afterHandled_log]
    simp [spawns, SrcLoop.segment]
  have found : (readFromSrc memCreater [.message fromAddr bytes true true]).peers.get
      (fromAddr.string ++ ascii "-" ++ addr) = some (newUdpPeer fromAddr datagram 0) := by
    rw [first, SrcLoop.afterHandled_peers, UdpAssociate.get_set, if_pos rfl]
  have second := SrcLoop.step_accepted (by rw [first]; rfl)
    (by rw [length_readFromSrc_bs]; exact fits) accepted (handleDatagram_of_get named found true)
  simp only [Association.step_relay, Association.run_relay, List.filterMap_cons,
    List.filterMap_nil, Turn.relayRead]
  refine ⟨?returned, ?present, ?written⟩
  case returned =>
    rw [show Association.run memCreater control
        [.relay (.message fromAddr bytes true true), .reverse 0 .error] =
      ((Association.init control).step memCreater (.relay (.message fromAddr bytes true true))).step
        memCreater (.reverse 0 .error) from rfl]
    rw [Association.reverse_step_reverse (by exact congrArg (·[0]?) spawned),
      Association.reverse_step_relay, Association.init_relay, spawned]
    simp only [Association.init_reverse, List.nil_append, List.length_singleton, List.length_nil,
      Nat.sub_zero, List.replicate_one]
    show [(DstLoop.init.step memCreater _ .error).status] = _
    rw [DstLoop.step_error rfl]
    rfl
  case present => rw [found]; rfl
  case written =>
    rw [second, SrcLoop.afterHandled_log, first, SrcLoop.afterHandled_log]
    simp [closes, effectsOf, SrcLoop.segment]

/-- The IPv4 datagram for `1.2.3.4:80` with data `x` that the failing runs below send. -/
theorem sample_accepted :
    newDatagramFromByte Mem [0, 0, 0, 1, 1, 2, 3, 4, 0, 80, 120] =
        .ok ⟨[0, 0], 0, 1, [1, 2, 3, 4], [0, 80], [120]⟩ ∧
      Datagram.address ⟨[0, 0], 0, 1, [1, 2, 3, 4], [0, 80], [120]⟩ = .ok (ascii "1.2.3.4:80") := by
  decide

/-- The drain of the control connection returns, and the relay loop still dials and
writes the next datagram from the client. -/
theorem relay_outlives_control_connection :
    let client : UDPAddr := ⟨[10, 0, 0, 1], 5000, []⟩
    let a := Association.run Mem client
      [.drainReturned, .relay (.message client [0, 0, 0, 1, 1, 2, 3, 4, 0, 80, 120] true true)]
    a.drained = true ∧ Effect.dial (ascii "1.2.3.4:80") (some 0) ∈ a.relay.log.map Event.effect ∧
      Effect.write 0 [120] true ∈ a.relay.log.map Event.effect := by
  dsimp only
  refine ⟨rfl, ?_⟩
  rw [Association.run_relay]
  simp only [List.filterMap_cons, List.filterMap_nil, Turn.relayRead]
  rw [readFromSrc_first_datagram Mem _ (by decide) sample_accepted.1 sample_accepted.2,
    SrcLoop.afterHandled_log]
  simp [SrcLoop.segment]

namespace SrcLoop

/-- An iteration keeps a flow in the table, or logs a failed write to its
connection, or ends the loop. -/
theorem kept_or_write_failed (memCreater : MemAllocation) {s : SrcLoop} {key : Bytes}
    {udpPeer : UdpPeer} (found : s.peers.get key = some udpPeer) (read : UdpRead) :
    (s.step memCreater read).peers.get key = some udpPeer ∨
      (∃ data, .write udpPeer.dst data false ∈
        ((s.step memCreater read).log.drop s.log.length).map Event.effect) ∨
      (s.step memCreater read).status = .returned := by
  have stepped := stepped memCreater s read
  generalize s.step memCreater read = s' at stepped ⊢
  cases stepped with
  | stopped | parsePanicked => exact .inl found
  | readFailed | parseFailed => exact .inr (.inr rfl)
  | handled running bs fromAddr datagram addr peers dials effects bytes accepted named outcome =>
    rcases outcome.get_of_get found with kept | gone
    · exact .inl kept
    · refine .inr (.inl ⟨datagram.data, ?_⟩)
      rw [afterHandled_log, List.drop_left, map_effect_segment]
      simp [outcome.write_failed_of_gone found gone]

end SrcLoop

theorem drop_length_of_prefix {α : Type} {l₁ l₂ l₃ : List α} (first : l₁ <+: l₂) (second : l₂ <+: l₃) :
    l₃.drop l₁.length = l₂.drop l₁.length ++ l₃.drop l₂.length := by
  obtain ⟨x, rfl⟩ := first
  obtain ⟨y, rfl⟩ := second
  simp

/-- A run's log is the start of the log of every longer run. -/
theorem readFromSrc_log_prefix (memCreater : MemAllocation) (reads more : List UdpRead) :
    (readFromSrc memCreater reads).log <+: (readFromSrc memCreater (reads ++ more)).log := by
  induction more using List.reverseRecOn with
  | nil => simp
  | append_singleton more read ih =>
    rw [← List.append_assoc, readFromSrc_append_singleton]
    exact ih.trans (SrcLoop.log_prefix_step memCreater _ read)

/-- Over every continuation of a run of `readFromSrc`, a flow in the table stays there
unless the loop logs a failed write to its connection or returns. -/
theorem readFromSrc_kept (memCreater : MemAllocation) (reads : List UdpRead) {key : Bytes}
    {udpPeer : UdpPeer} (found : (readFromSrc memCreater reads).peers.get key = some udpPeer)
    (more : List UdpRead) :
    (readFromSrc memCreater (reads ++ more)).peers.get key = some udpPeer ∨
      (∃ data, .write udpPeer.dst data false ∈ ((readFromSrc memCreater (reads ++ more)).log.drop
        (readFromSrc memCreater reads).log.length).map Event.effect) ∨
      (readFromSrc memCreater (reads ++ more)).status = .returned := by
  induction more using List.reverseRecOn with
  | nil => exact .inl (by rwa [List.append_nil])
  | append_singleton more read ih =>
    have grown := readFromSrc_log_prefix memCreater reads more
    rw [← List.append_assoc, readFromSrc_append_singleton]
    generalize readFromSrc memCreater (reads ++ more) = t at ih grown
    have split := drop_length_of_prefix grown (SrcLoop.log_prefix_step memCreater t read)
    rcases ih with kept | ⟨data, failed⟩ | returned
    · rcases SrcLoop.kept_or_write_failed memCreater kept read with kept' | ⟨data, failed⟩ | returned
      · exact .inl kept'
      · exact .inr (.inl ⟨data, by rw [split, List.map_append]; exact List.mem_append_right _ failed⟩)
      · exact .inr (.inr returned)
    · exact .inr (.inl ⟨data, by rw [split, List.map_append]; exact List.mem_append_left _ failed⟩)
    · exact .inr (.inr (by cases read <;> simp [SrcLoop.step, returned]))

/-- The association for a control connection from `10.0.0.1` relays a datagram that
`10.0.0.2` sends to its UDP port. -/
theorem relays_datagram_from_other_host :
    let control : UDPAddr := ⟨[10, 0, 0, 1], 40000, []⟩
    let stranger : UDPAddr := ⟨[10, 0, 0, 2], 5000, []⟩
    let a := Association.run Mem control
      [.relay (.message stranger [0, 0, 0, 1, 1, 2, 3, 4, 0, 80, 120] true true)]
    stranger.ip ≠ a.control.ip ∧ Effect.write 0 [120] true ∈ a.relay.log.map Event.effect := by
  dsimp only
  rw [Association.run_control, Association.run_relay]
  refine ⟨by decide, ?_⟩
  simp only [List.filterMap_cons, List.filterMap_nil, Turn.relayRead]
  rw [readFromSrc_first_datagram Mem _ (by decide) sample_accepted.1 sample_accepted.2,
    SrcLoop.afterHandled_log]
  simp [SrcLoop.segment]

end GoSocks5
