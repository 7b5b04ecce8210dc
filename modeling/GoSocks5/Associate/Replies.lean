import GoSocks5.Associate.Session

/-!
# Replies go back to the client of their flow

A flow's reverse path, `readFromDst`, reads replies from the flow's connection and
sends each one, behind the flow's header, to `udpPeer.from`. The relay loop starts
that path with the `UdpPeer` `handleDatagram` built for the datagram whose dial
opened the connection. So over every interleaving of an association's tasks, a
datagram sent to a client carries a reply read on a connection that was opened for
a datagram from that very address, and goes to no one else.

`forwarded` says what a reverse path is for: forward each reply, in order, until
the first failure. `readFromDst_forwards_in_order` shows the loop does exactly that
over every run. `reverse_runs_readFromDst` is the simulation that carries this into
the association: after any interleaving, the reverse path of connection `n` is
where `readFromDst` of its flow alone would be after the replies delivered on `n`
since the path started. So the association runs one reverse path for each
connection a dial returned, for the flow built from the datagram whose dial it was.
-/

namespace GoSocks5

open Slice Except

/-- The read a turn delivers to the reverse path of connection `n`, if any. -/
def Turn.reverseRead (n : Nat) : Turn → Option DstRead
  | .reverse conn read => if conn = n then some read else none
  | _ => none

/-- What the reverse path of `udpPeer` is for, on a sequence of reads: it forwards
each reply in the order read, as the flow's header around the reply's first 65536
bytes, to the flow's client, until a read fails, a reply does not fit the
65536-byte buffer, or a send fails; each send has the outcome its read came with. -/
def forwarded (udpPeer : UdpPeer) : List DstRead → List (UDPAddr × Bytes × Bool)
  | [] => []
  | .error :: _ => []
  | .message reply ok :: rest =>
    let wire := (replyDatagram udpPeer (reply.take 65536)).wire
    if wire.length ≤ 65536 then (udpPeer.fromAddr, wire, ok) :: if ok then forwarded udpPeer rest else []
    else []

/-- Everything forwarded goes to the flow's client and wraps a reply that was read. -/
theorem mem_forwarded {udpPeer : UdpPeer} : ∀ {reads : List DstRead} {addr : UDPAddr}
    {bytes : Bytes} {ok : Bool}, (addr, bytes, ok) ∈ forwarded udpPeer reads →
      addr = udpPeer.fromAddr ∧ ∃ reply, DstRead.message reply ok ∈ reads ∧
        bytes = (replyDatagram udpPeer (reply.take 65536)).wire
  | [], _, _, _, mem | .error :: _, _, _, _, mem => absurd mem (List.not_mem_nil _)
  | .message reply ok' :: rest, addr, bytes, ok, mem => by
    simp only [forwarded] at mem
    split_ifs at mem with fits goesOn
    · rcases List.mem_cons.mp mem with now | later
      · simp only [Prod.mk.injEq] at now
        obtain ⟨rfl, rfl, rfl⟩ := now
        exact ⟨rfl, reply, List.mem_cons_self _ _, rfl⟩
      · obtain ⟨toClient, reply', read, wire⟩ := mem_forwarded later
        exact ⟨toClient, reply', List.mem_cons_of_mem _ read, wire⟩
    · simp only [Prod.mk.injEq, List.mem_singleton] at mem
      obtain ⟨rfl, rfl, rfl⟩ := mem
      exact ⟨rfl, reply, List.mem_cons_self _ _, rfl⟩
    · exact absurd mem (List.not_mem_nil _)

@[simp]
theorem sends_append (log log' : List Event) : sends (log ++ log') = sends log ++ sends log' :=
  List.filterMap_append _ _ _

namespace DstLoop

variable {s : DstLoop} (memCreater : MemAllocation) (udpPeer : UdpPeer)

theorem sends_exit (s : DstLoop) : sends s.exit.log = sends s.log := by
  simp [exit, sends]

/-- A loop that has stopped stays where it is. -/
theorem foldl_of_not_running (notRunning : s.status ≠ .running) :
    ∀ reads : List DstRead, reads.foldl (step memCreater udpPeer) s = s
  | [] => rfl
  | read :: reads => by
    rw [List.foldl_cons, step_of_not_running notRunning]
    exact foldl_of_not_running notRunning reads

/-- An iteration on a reply sends it when it fits, and the loop goes on exactly when
it sent the reply and the send succeeded. -/
theorem step_message_sends (running : s.status = .running) (buffer : s.bs.length = 65536)
    (reply : Bytes) (ok : Bool) :
    let s' := s.step memCreater udpPeer (.message reply ok)
    let wire := (replyDatagram udpPeer (reply.take 65536)).wire
    sends s'.log = sends s.log ++ (if wire.length ≤ 65536 then [(udpPeer.fromAddr, wire, ok)] else []) ∧
      (s'.status = .running ↔ wire.length ≤ 65536 ∧ ok = true) := by
  rw [step_message running, buffer]
  generalize (replyDatagram udpPeer (reply.take 65536)).wire = wire
  dsimp only
  split_ifs <;> simp [sends, exit, *]

/-- From every state the loop reaches while running, the rest of the loop sends what
`forwarded` says. -/
theorem sends_foldl (wf : s.Wf) (freed : FreedAfterUse s.log) (running : s.status = .running)
    (reads : List DstRead) :
    sends (reads.foldl (step memCreater udpPeer) s).log = sends s.log ++ forwarded udpPeer reads := by
  induction reads generalizing s with
  | nil => simp [forwarded]
  | cons read reads ih =>
    obtain ⟨wf', freed'⟩ := invariants_step wf freed memCreater udpPeer read
    rw [List.foldl_cons]
    cases read with
    | error =>
      rw [step_error running, foldl_of_not_running _ _ (by simp [exit]), sends_exit, forwarded,
        List.append_nil]
    | message reply ok =>
      obtain ⟨sent, goesOn⟩ := step_message_sends memCreater udpPeer running wf.buffer reply ok
      by_cases continues : (s.step memCreater udpPeer (.message reply ok)).status = .running
      · obtain ⟨fits, rfl⟩ := goesOn.mp continues
        rw [ih wf' freed' continues, sent, forwarded]
        simp [fits, -Datagram.length_wire]
      · rw [foldl_of_not_running _ _ continues, sent, forwarded]
        by_cases fits : (replyDatagram udpPeer (reply.take 65536)).wire.length ≤ 65536
        · have failed : ok = false := by simpa [fits, -Datagram.length_wire] using mt goesOn.mpr continues
          simp [fits, failed, -Datagram.length_wire]
        · simp [fits, -Datagram.length_wire]

end DstLoop

/-- What `readFromDst` sends over a whole run is what the reverse path is for: each
reply read, in order and each once, wrapped in the flow's header and sent to the
flow's client, up to the first failed read, reply too large for the buffer, or
failed send, and nothing after it. -/
theorem readFromDst_forwards_in_order (memCreater : MemAllocation) (udpPeer : UdpPeer)
    (reads : List DstRead) :
    sends (readFromDst memCreater udpPeer reads).log = forwarded udpPeer reads :=
  DstLoop.sends_foldl memCreater udpPeer DstLoop.wf_init FreedAfterUse.nil rfl reads

/-- Every datagram `readFromDst` sends goes to the flow's client, and is the flow's
header followed by the first 65536 bytes of a reply it read; its outcome is the one
that read came with. -/
theorem sends_readFromDst (memCreater : MemAllocation) (udpPeer : UdpPeer) (reads : List DstRead)
    {addr : UDPAddr} {bytes : Bytes} {ok : Bool}
    (sent : (addr, bytes, ok) ∈ sends (readFromDst memCreater udpPeer reads).log) :
    addr = udpPeer.fromAddr ∧ ∃ reply, DstRead.message reply ok ∈ reads ∧
      bytes = (replyDatagram udpPeer (reply.take 65536)).wire := by
  rw [readFromDst, DstLoop.sends_foldl memCreater udpPeer DstLoop.wf_init FreedAfterUse.nil rfl reads]
    at sent
  exact mem_forwarded sent

namespace SrcLoop

variable {memCreater : MemAllocation} {s s' : SrcLoop}

/-- The reverse path of connection `n` was started for a flow `handleDatagram` built
from a handled datagram, whose call made the one dial that returned `n`. -/
def Spawned (s : SrcLoop) : Prop :=
  ∀ n udpPeer, (spawns s.log)[n]? = some udpPeer →
    ∃ i fromAddr datagram addr, s.handled[i]? = some (fromAddr, datagram) ∧
      udpPeer = newUdpPeer fromAddr datagram n ∧ .dial addr (some n) ∈ effectsOf s.log i ∧
      ∀ j, Dialled (effectsOf s.log j) n → j = i

theorem Spawned.of_quiet (spawned : s.Spawned) (handledEq : s'.handled = s.handled)
    (spawnsEq : spawns s'.log = spawns s.log) (effectsEq : ∀ i, effectsOf s'.log i = effectsOf s.log i) :
    s'.Spawned := by
  simp only [Spawned, handledEq, spawnsEq, effectsEq]
  exact spawned

theorem Spawned.exit (wf : Wf s) (spawned : s.Spawned) : s.exit.Spawned :=
  spawned.of_quiet rfl (spawns_exit s) (effectsOf_exit wf.idle)

/-- An iteration that handles a datagram keeps the flows started before, and starts
a path for the flow it creates. -/
theorem Spawned.handled (wf : Wf s) (started : (spawns s.log).length = s.dials)
    (spawned : s.Spawned) {bs : Bytes} {fromAddr : UDPAddr} {datagram : Datagram}
    {addr : Bytes} {peers : UdpAssociate} {dials : Nat} {effects : List Effect}
    (outcome : Handled s.peers s.dials fromAddr datagram (fromAddr.string ++ ascii "-" ++ addr)
      addr peers dials effects) :
    (s.afterHandled bs fromAddr datagram peers dials effects).Spawned := by
  intro n udpPeer found
  rw [spawns_afterHandled outcome] at found
  by_cases old : n < (spawns s.log).length
  · rw [List.getElem?_append_left old] at found
    obtain ⟨i, fromAddr', datagram', addr', call, rfl, dial, unique⟩ := spawned n udpPeer found
    have before := lt_of_getElem?_eq_some call
    refine ⟨i, fromAddr', datagram', addr', ?_, rfl, ?_,
      unique_after wf outcome (started ▸ old) unique⟩
    · rw [afterHandled_handled, List.getElem?_append_left before, call]
    · rwa [effectsOf_afterHandled_old wf before]
  · rw [List.getElem?_append_right (Nat.le_of_not_lt old)] at found
    rcases outcome.dials_eq with same | ⟨next, dial⟩
    · rw [if_neg (by omega)] at found
      cases found
    · rw [if_pos next, List.getElem?_cons, List.getElem?_nil] at found
      split_ifs at found with first
      cases found
      have atDials : n = s.dials := by omega
      subst atDials
      refine ⟨s.handled.length, fromAddr, datagram, addr, by simp, rfl, ?_, fresh_unique wf⟩
      rwa [effectsOf_afterHandled_new wf]

end SrcLoop

/-- Every reverse path a run of `readFromSrc` starts is for a flow built from a
datagram it handled, whose call made the one dial that returned the path's
connection. -/
theorem spawned_readFromSrc (memCreater : MemAllocation) (reads : List UdpRead) :
    (readFromSrc memCreater reads).Spawned := by
  induction reads using List.reverseRecOn with
  | nil => simp [SrcLoop.Spawned, spawns]
  | append_singleton reads read ih =>
    have wf := (readFromSrc_invariants memCreater reads).1
    have started := congrArg List.length (spawns_readFromSrc memCreater reads)
    rw [List.length_map, List.length_range] at started
    rw [readFromSrc_append_singleton]
    have stepped := SrcLoop.stepped memCreater (readFromSrc memCreater reads) read
    generalize readFromSrc memCreater reads = s at ih wf started stepped
    generalize s.step memCreater read = s' at stepped
    cases stepped with
    | stopped | parsePanicked => exact ih
    | readFailed => exact ih.exit wf
    | parseFailed running bs => exact SrcLoop.Spawned.exit ⟨rfl, wf.below, wf.dialled⟩ ih
    | handled running bs fromAddr datagram addr peers dials effects bytes accepted named outcome =>
      exact ih.handled wf started outcome

namespace Association

theorem getElem?_of_prefix {α : Type} {l l' : List α} (grown : l <+: l') {n : Nat} {x : α}
    (found : l[n]? = some x) : l'[n]? = some x := by
  obtain ⟨rest, rfl⟩ := grown
  rwa [List.getElem?_append_left (SrcLoop.lt_of_getElem?_eq_some found)]

/-- The reverse paths of `a` are what the turns delivered them make of
`readFromDst`: the path of connection `n` is `readFromDst` of the flow that holds `n`,
over a suffix of the reads the turns delivered on `n`. -/
def RunsReadFromDst (memCreater : MemAllocation) (turns : List Turn) (a : Association) : Prop :=
  ∀ n s, a.reverse[n]? = some s → ∃ udpPeer reads, (spawns a.relay.log)[n]? = some udpPeer ∧
    reads <:+ turns.filterMap (Turn.reverseRead n) ∧ s = readFromDst memCreater udpPeer reads

/-- One turn keeps every reverse path a run of `readFromDst`: a relay turn starts new
paths at the state `readFromDst` has on no read, and a turn of one path steps it on
the read the turn delivers. -/
theorem RunsReadFromDst.step {memCreater : MemAllocation} {turns : List Turn} {a : Association}
    (paths : a.reverse.length = (spawns a.relay.log).length)
    (runs : RunsReadFromDst memCreater turns a) (turn : Turn) :
    RunsReadFromDst memCreater (turns ++ [turn]) (a.step memCreater turn) := by
  intro n s found
  simp only [List.filterMap_append, List.filterMap_cons, List.filterMap_nil]
  cases turn with
  | relay read =>
    rw [reverse_step_relay] at found
    simp only [Turn.reverseRead, List.append_nil, Association.step]
    by_cases old : n < a.reverse.length
    · rw [List.getElem?_append_left old] at found
      obtain ⟨udpPeer, reads, spawned, delivered, rfl⟩ := runs n s found
      exact ⟨udpPeer, reads, getElem?_of_prefix (spawns_prefix_step memCreater a.relay read) spawned,
        delivered, rfl⟩
    · rw [List.getElem?_append_right (Nat.le_of_not_lt old), List.getElem?_replicate] at found
      split_ifs at found with fresh
      cases found
      exact ⟨_, [], List.getElem?_eq_getElem
        (show n < (spawns (a.relay.step memCreater read).log).length by omega), List.nil_suffix, rfl⟩
  | reverse conn read =>
    simp only [Turn.reverseRead]
    cases spawnedConn : (spawns a.relay.log)[conn]? with
    | none =>
      simp only [Association.step, spawnedConn] at found ⊢
      have other : conn ≠ n := fun same => by
        have beyond : a.reverse.length ≤ n := paths ▸ List.getElem?_eq_none_iff.mp (same ▸ spawnedConn)
        simp [List.getElem?_eq_none_iff.mpr beyond] at found
      rw [if_neg other, List.append_nil]
      exact runs n s found
    | some udpPeer =>
      rw [reverse_step_reverse spawnedConn, List.getElem?_modify] at found
      simp only [Association.step, spawnedConn]
      by_cases same : conn = n
      · subst same
        obtain ⟨s₀, atConn, rfl⟩ := Option.map_eq_some'.mp found
        obtain ⟨udpPeer', reads, spawned, ⟨earlier, delivered⟩, rfl⟩ := runs conn s₀ atConn
        obtain rfl : udpPeer' = udpPeer := Option.some.inj (spawned.symm.trans spawnedConn)
        refine ⟨udpPeer', reads ++ [read], spawnedConn, ⟨earlier, by simp [← delivered]⟩, ?_⟩
        rw [if_pos rfl, readFromDst_append_singleton]
      · simp only [if_neg same, Option.map_eq_map, Option.map_id', List.append_nil] at found ⊢
        exact runs n s found
  | drainReturned =>
    simp only [Turn.reverseRead, List.append_nil]
    exact runs n s found

/-- After any interleaving, the reverse path of connection `n` is where `readFromDst`
of the flow that holds `n` would be after the replies delivered on `n` since the
path started: a suffix of all those delivered on `n`. -/
theorem reverse_runs_readFromDst (memCreater : MemAllocation) (control : UDPAddr) (turns : List Turn) :
    RunsReadFromDst memCreater turns (run memCreater control turns) := by
  induction turns using List.reverseRecOn with
  | nil =>
    intro n s found
    simp [run, init] at found
  | append_singleton turns turn ih =>
    rw [run_append_singleton]
    exact ih.step (length_reverse memCreater control turns) turn

end Association

/-- Over every interleaving of an association's tasks, every datagram a reverse path
sends goes to the address a handled datagram came from, the one whose call made the
only dial that returned the path's connection; and it is the reply `NewDatagram`
builds from that datagram's flow around the first 65536 bytes of a reply read on that
connection, sent with the outcome that read came with. -/
theorem replies_reach_only_their_client (memCreater : MemAllocation) (control : UDPAddr)
    (turns : List Turn) :
    let a := Association.run memCreater control turns
    ∀ n s addr bytes ok, a.reverse[n]? = some s → (addr, bytes, ok) ∈ sends s.log →
      ∃ i datagram dstAddr reply, a.relay.handled[i]? = some (addr, datagram) ∧
        .dial dstAddr (some n) ∈ effectsOf a.relay.log i ∧
        (∀ j, Dialled (effectsOf a.relay.log j) n → j = i) ∧
        Turn.reverse n (.message reply ok) ∈ turns ∧
        bytes = (replyDatagram (newUdpPeer addr datagram n) (reply.take 65536)).wire := by
  intro a n s addr bytes ok found sent
  obtain ⟨udpPeer, reads, spawned, delivered, rfl⟩ :=
    Association.reverse_runs_readFromDst memCreater control turns n s found
  obtain ⟨toClient, reply, read, wire⟩ := sends_readFromDst memCreater udpPeer reads sent
  have relay := Association.run_relay memCreater control turns
  obtain ⟨i, fromAddr, datagram, dstAddr, call, rfl, dial, unique⟩ :=
    (relay ▸ spawned_readFromSrc memCreater (turns.filterMap Turn.relayRead)) n udpPeer
      (relay ▸ spawned)
  rw [newUdpPeer_fromAddr] at toClient
  subst toClient
  obtain ⟨turn, mem, delivers⟩ := List.mem_filterMap.mp (delivered.mem read)
  cases turn with
  | reverse conn read' =>
    simp only [Turn.reverseRead] at delivers
    split_ifs at delivers with same
    cases delivers
    exact ⟨i, datagram, dstAddr, reply, relay ▸ call, relay ▸ dial, relay ▸ unique, same ▸ mem, wire⟩
  | relay | drainReturned => cases delivers

end GoSocks5
