import GoSocks5.Associate.Log

/-!
# Handling one client datagram

`handleDatagram` names the datagram's flow by `from.String() + "-" + Address()`.
An unknown flow is dialled; when the dial succeeds the handler stores a new
`UdpPeer` holding copies of the datagram's destination fields and starts the
flow's reverse path. Then it writes the datagram's data to the flow's
connection, and when that write fails it closes the connection and deletes the
flow.

The model returns the new table, the number of connections dialled so far, and
the effects of the call in order. The network's answers, whether the dial and
the write succeed, are arguments. A panic of `Address` is the only failure.

`Handled` below says once everything a call can do; every invariant of the
relay loop is derived from it.
-/

namespace GoSocks5

open Slice Except

/-- `from.String() + "-" + datagram.Address()`. -/
def flowKey (fromAddr : UDPAddr) (datagram : Datagram) : Except Failure Bytes := do
  return fromAddr.string ++ ascii "-" ++ (← datagram.address)

/-- The `UdpPeer` `handleDatagram` builds for a new flow: `make` and `copy` give it
its own `dstAddr` and `dstPort`. -/
def newUdpPeer (fromAddr : UDPAddr) (datagram : Datagram) (dst : Nat) : UdpPeer :=
  { fromAddr, dst, atyp := datagram.aTyp,
    dstAddr := copy (List.replicate datagram.dstAddr.length 0) datagram.dstAddr,
    dstPort := copy (List.replicate datagram.dstPort.length 0) datagram.dstPort }

/-- The write that ends `handleDatagram`; on failure the connection is closed and the
flow deleted. -/
def writeToPeer (peers : UdpAssociate) (key : Bytes) (udpPeer : UdpPeer) (data : Bytes)
    (writeOk : Bool) : UdpAssociate × List Effect :=
  if writeOk then (peers, [.write udpPeer.dst data true])
  else (peers.del key, [.write udpPeer.dst data false, .close udpPeer.dst])

/-- `handleDatagram`: the table, the number of connections dialled, and the call's
effects. A new flow's connection is the next one dialled. -/
def handleDatagram (peers : UdpAssociate) (dials : Nat) (fromAddr : UDPAddr)
    (datagram : Datagram) (dialOk writeOk : Bool) :
    Except Failure (UdpAssociate × Nat × List Effect) := do
  let key ← flowKey fromAddr datagram
  match peers.get key with
  | some udpPeer =>
    let (peers, effects) := writeToPeer peers key udpPeer datagram.data writeOk
    return (peers, dials, effects)
  | none =>
    let addr ← datagram.address
    if dialOk then
      let udpPeer := newUdpPeer fromAddr datagram dials
      let (peers, effects) :=
        writeToPeer (peers.set key udpPeer) key udpPeer datagram.data writeOk
      return (peers, dials + 1, .dial addr (some dials) :: .spawn udpPeer :: effects)
    else return (peers, dials, [.dial addr none])

/-- The copies hold the datagram's bytes. -/
@[simp]
theorem newUdpPeer_dstAddr (fromAddr : UDPAddr) (datagram : Datagram) (dst : Nat) :
    (newUdpPeer fromAddr datagram dst).dstAddr = datagram.dstAddr := by
  simp [newUdpPeer]

@[simp]
theorem newUdpPeer_dstPort (fromAddr : UDPAddr) (datagram : Datagram) (dst : Nat) :
    (newUdpPeer fromAddr datagram dst).dstPort = datagram.dstPort := by
  simp [newUdpPeer]

@[simp]
theorem newUdpPeer_dst (fromAddr : UDPAddr) (datagram : Datagram) (dst : Nat) :
    (newUdpPeer fromAddr datagram dst).dst = dst := rfl

@[simp]
theorem newUdpPeer_fromAddr (fromAddr : UDPAddr) (datagram : Datagram) (dst : Nat) :
    (newUdpPeer fromAddr datagram dst).fromAddr = fromAddr := rfl

@[simp]
theorem newUdpPeer_atyp (fromAddr : UDPAddr) (datagram : Datagram) (dst : Nat) :
    (newUdpPeer fromAddr datagram dst).atyp = datagram.aTyp := rfl

@[simp]
theorem flowKey_eq {fromAddr : UDPAddr} {datagram : Datagram} {addr : Bytes}
    (named : datagram.address = .ok addr) :
    flowKey fromAddr datagram = .ok (fromAddr.string ++ ascii "-" ++ addr) := by
  simp [flowKey, named]

section WriteToPeer

variable (peers : UdpAssociate) (key : Bytes) (udpPeer : UdpPeer) (data : Bytes) (writeOk : Bool)

@[simp]
theorem writeToPeer_get (k : Bytes) :
    (writeToPeer peers key udpPeer data writeOk).1.get k =
      if k = key ∧ writeOk = false then none else peers.get k := by
  cases writeOk <;> by_cases same : k = key <;> simp [writeToPeer, same]

/-- The write: exactly one, of `data`, to the flow's connection. -/
theorem writeToPeer_effects :
    (writeToPeer peers key udpPeer data writeOk).2 =
      .write udpPeer.dst data writeOk :: if writeOk then [] else [.close udpPeer.dst] := by
  cases writeOk <;> rfl

end WriteToPeer

section Outcomes

variable {peers : UdpAssociate} {dials : Nat} {fromAddr : UDPAddr} {datagram : Datagram}
  {addr : Bytes}

/-- A datagram of a flow in the table is written to the flow's connection, and a
successful write keeps the table. -/
theorem handleDatagram_of_get {udpPeer : UdpPeer} (named : datagram.address = .ok addr)
    (found : peers.get (fromAddr.string ++ ascii "-" ++ addr) = some udpPeer) (dialOk : Bool) :
    handleDatagram peers dials fromAddr datagram dialOk true =
      .ok (peers, dials, [.write udpPeer.dst datagram.data true]) := by
  simp only [handleDatagram, flowKey_eq named, ok_bind, found]
  rfl

/-- A datagram of a new flow whose dial and write succeed is written to the next
connection, which the new entry holds and whose reverse path starts. -/
theorem handleDatagram_of_get_none (named : datagram.address = .ok addr)
    (absent : peers.get (fromAddr.string ++ ascii "-" ++ addr) = none) :
    handleDatagram peers dials fromAddr datagram true true =
      .ok (peers.set (fromAddr.string ++ ascii "-" ++ addr) (newUdpPeer fromAddr datagram dials),
        dials + 1, [.dial addr (some dials), .spawn (newUdpPeer fromAddr datagram dials),
          .write dials datagram.data true]) := by
  simp only [handleDatagram, flowKey_eq named, ok_bind, absent, named]
  rfl

end Outcomes

/-- The five ways a call of `handleDatagram` for flow `key`, dialling `addr`, can end:
the table, the number of connections dialled, and the effects. -/
inductive Handled (peers : UdpAssociate) (dials : Nat) (fromAddr : UDPAddr) (datagram : Datagram)
    (key addr : Bytes) : UdpAssociate → Nat → List Effect → Prop
  /-- A known flow, and the write succeeds. -/
  | wrote (udpPeer : UdpPeer) (found : peers.get key = some udpPeer) :
      Handled peers dials fromAddr datagram key addr peers dials
        [.write udpPeer.dst datagram.data true]
  /-- A known flow, and the write fails: the flow is closed and deleted. -/
  | writeFailed (udpPeer : UdpPeer) (found : peers.get key = some udpPeer) :
      Handled peers dials fromAddr datagram key addr (peers.del key) dials
        [.write udpPeer.dst datagram.data false, .close udpPeer.dst]
  /-- A new flow: the dial succeeds, and so does the write. -/
  | created (absent : peers.get key = none) :
      Handled peers dials fromAddr datagram key addr
        (peers.set key (newUdpPeer fromAddr datagram dials)) (dials + 1)
        [.dial addr (some dials), .spawn (newUdpPeer fromAddr datagram dials),
          .write dials datagram.data true]
  /-- A new flow whose first write fails: the flow is closed and deleted again. -/
  | createdWriteFailed (absent : peers.get key = none) :
      Handled peers dials fromAddr datagram key addr
        ((peers.set key (newUdpPeer fromAddr datagram dials)).del key) (dials + 1)
        [.dial addr (some dials), .spawn (newUdpPeer fromAddr datagram dials),
          .write dials datagram.data false, .close dials]
  /-- A new flow whose dial fails: the datagram is dropped. -/
  | dialFailed (absent : peers.get key = none) :
      Handled peers dials fromAddr datagram key addr peers dials [.dial addr none]

/-- Everything one call of `handleDatagram` can do. -/
theorem handleDatagram_handled {peers peers' : UdpAssociate} {dials dials' : Nat}
    {fromAddr : UDPAddr} {datagram : Datagram} {dialOk writeOk : Bool} {effects : List Effect}
    (handled : handleDatagram peers dials fromAddr datagram dialOk writeOk =
      .ok (peers', dials', effects)) :
    ∃ addr, datagram.address = .ok addr ∧
      Handled peers dials fromAddr datagram (fromAddr.string ++ ascii "-" ++ addr) addr
        peers' dials' effects := by
  cases named : datagram.address with
  | error failure => simp [handleDatagram, flowKey, named] at handled
  | ok addr =>
    refine ⟨addr, rfl, ?_⟩
    simp only [handleDatagram, flowKey_eq named, ok_bind] at handled
    split at handled
    · rename_i udpPeer found
      cases writeOk <;>
        simp only [writeToPeer, Bool.false_eq_true, if_true, if_false, pure_eq, Except.ok.injEq,
          Prod.mk.injEq] at handled <;>
        obtain ⟨rfl, rfl, rfl⟩ := handled
      · exact .writeFailed udpPeer found
      · exact .wrote udpPeer found
    · rename_i absent
      cases dialOk <;> cases writeOk <;>
        simp only [named, ok_bind, writeToPeer, Bool.false_eq_true, if_true, if_false, pure_eq,
          Except.ok.injEq, Prod.mk.injEq, List.cons_append, List.nil_append] at handled <;>
        obtain ⟨rfl, rfl, rfl⟩ := handled
      · exact .dialFailed absent
      · exact .dialFailed absent
      · exact .createdWriteFailed absent
      · exact .created absent

namespace Handled

variable {peers peers' : UdpAssociate} {dials dials' : Nat} {fromAddr : UDPAddr}
  {datagram : Datagram} {key addr : Bytes} {effects : List Effect}

/-- Flows of other keys are untouched. -/
theorem get_of_ne (outcome : Handled peers dials fromAddr datagram key addr peers' dials' effects)
    {k : Bytes} (other : k ≠ key) : peers'.get k = peers.get k := by
  cases outcome <;> simp [other]

/-- Afterwards the flow is in the table exactly when the call's write succeeded. -/
theorem present_iff (outcome : Handled peers dials fromAddr datagram key addr peers' dials' effects) :
    (peers'.get key).isSome ↔ ∃ c data, .write c data true ∈ effects := by
  cases outcome <;> simp [*]

/-- An entry afterwards was there before, or is the flow this call created. -/
theorem get_eq_some (outcome : Handled peers dials fromAddr datagram key addr peers' dials' effects)
    {k : Bytes} {udpPeer : UdpPeer} (found : peers'.get k = some udpPeer) :
    peers.get k = some udpPeer ∨ (k = key ∧ udpPeer = newUdpPeer fromAddr datagram dials ∧
      .dial addr (some dials) ∈ effects) := by
  by_cases same : k = key
  · subst same
    cases outcome <;> simp_all
  · exact .inl (outcome.get_of_ne same ▸ found)

/-- An entry is never replaced: afterwards it is the same, or gone. -/
theorem get_of_get (outcome : Handled peers dials fromAddr datagram key addr peers' dials' effects)
    {k : Bytes} {udpPeer : UdpPeer} (found : peers.get k = some udpPeer) :
    peers'.get k = some udpPeer ∨ peers'.get k = none := by
  by_cases same : k = key
  · subst same
    cases outcome <;> simp_all
  · exact .inl (outcome.get_of_ne same ▸ found)

/-- A call takes an entry out of the table only by a failed write to its connection. -/
theorem write_failed_of_gone (outcome : Handled peers dials fromAddr datagram key addr peers' dials' effects)
    {k : Bytes} {udpPeer : UdpPeer} (found : peers.get k = some udpPeer) (gone : peers'.get k = none) :
    .write udpPeer.dst datagram.data false ∈ effects := by
  by_cases same : k = key
  · subst same
    cases outcome <;> simp_all
  · rw [outcome.get_of_ne same, found] at gone
    cases gone

/-- The one connection a call can dial is the next one. -/
theorem dialled (outcome : Handled peers dials fromAddr datagram key addr peers' dials' effects)
    {c : Nat} (dial : Dialled effects c) : c = dials ∧ dials' = dials + 1 := by
  obtain ⟨a, mem⟩ := dial
  cases outcome <;> simp_all

theorem dials_eq (outcome : Handled peers dials fromAddr datagram key addr peers' dials' effects) :
    dials' = dials ∨ (dials' = dials + 1 ∧ .dial addr (some dials) ∈ effects) := by
  cases outcome <;> simp

/-- The call writes the datagram's data once, to the connection of its flow, unless
the dial for it failed. -/
theorem writes_eq (outcome : Handled peers dials fromAddr datagram key addr peers' dials' effects) :
    (writes effects = [] ∧ .dial addr none ∈ effects) ∨
    ∃ ok, (∃ udpPeer, peers.get key = some udpPeer ∧
        writes effects = [(udpPeer.dst, datagram.data, ok)]) ∨
      (writes effects = [(dials, datagram.data, ok)] ∧ .dial addr (some dials) ∈ effects) := by
  cases outcome with
  | wrote udpPeer found => exact .inr ⟨true, .inl ⟨udpPeer, found, rfl⟩⟩
  | writeFailed udpPeer found => exact .inr ⟨false, .inl ⟨udpPeer, found, rfl⟩⟩
  | created => exact .inr ⟨true, .inr ⟨rfl, by simp⟩⟩
  | createdWriteFailed => exact .inr ⟨false, .inr ⟨rfl, by simp⟩⟩
  | dialFailed => exact .inl ⟨rfl, by simp⟩

/-- A connection is in the table or closed by the call as often as before, plus once
if the call dialled it. -/
theorem count_closeAll (outcome : Handled peers dials fromAddr datagram key addr peers' dials' effects)
    (c : Nat) :
    peers'.closeAll.count c + effects.count (.close c) =
      peers.closeAll.count c + if dials ≤ c ∧ c < dials' then 1 else 0 := by
  have empty : ¬(dials ≤ c ∧ c < dials) := by omega
  cases outcome with
  | wrote => simp [empty]
  | writeFailed udpPeer found =>
    simp [UdpAssociate.count_closeAll_del found c, List.count_singleton, empty]
  | created absent =>
    simp only [UdpAssociate.count_closeAll_set absent, newUdpPeer_dst, List.count_cons,
      List.count_nil, beq_iff_eq, reduceCtorEq, if_false]
    split_ifs <;> omega
  | createdWriteFailed absent =>
    have present : (peers.set key (newUdpPeer fromAddr datagram dials)).get key =
        some (newUdpPeer fromAddr datagram dials) := by simp
    have created := UdpAssociate.count_closeAll_set absent (newUdpPeer fromAddr datagram dials) c
    rw [UdpAssociate.count_closeAll_del present c] at created
    simp only [newUdpPeer_dst, List.count_cons, List.count_nil, beq_iff_eq, reduceCtorEq,
      if_false, Effect.close.injEq] at created ⊢
    split_ifs at created ⊢ <;> omega
  | dialFailed => simp [empty]

/-- The flow a call starts a reverse path for is the one it created. -/
theorem spawned (outcome : Handled peers dials fromAddr datagram key addr peers' dials' effects)
    {udpPeer : UdpPeer} (spawn : .spawn udpPeer ∈ effects) :
    udpPeer = newUdpPeer fromAddr datagram dials ∧ peers.get key = none := by
  cases outcome <;> simp_all

/-- A call allocates and frees nothing itself. -/
theorem buffer_eq_none (outcome : Handled peers dials fromAddr datagram key addr peers' dials' effects) :
    ∀ effect ∈ effects, effect.buffer = none := by
  cases outcome <;> simp [Effect.buffer]

end Handled

/-- A datagram the parser accepted has an address, so handling it never panics. -/
theorem address_of_accepted {memCreater : MemAllocation} {bytes : Bytes} {datagram : Datagram}
    (accepted : newDatagramFromByte memCreater bytes = .ok datagram) :
    ∃ addr, datagram.address = .ok addr := by
  obtain ⟨f, -, rfl⟩ := exists_frame_of_newDatagramFromByte accepted
  exact ⟨_, address_datagram f⟩

/-- `handleDatagram` fails only when `Address` does. -/
theorem handleDatagram_ok {datagram : Datagram} {addr : Bytes} (named : datagram.address = .ok addr)
    (peers : UdpAssociate) (dials : Nat) (fromAddr : UDPAddr) (dialOk writeOk : Bool) :
    ∃ peers' dials' effects,
      handleDatagram peers dials fromAddr datagram dialOk writeOk = .ok (peers', dials', effects) := by
  simp only [handleDatagram, flowKey_eq named, ok_bind]
  split
  · exact ⟨_, _, _, rfl⟩
  · cases dialOk <;> simp [named]

end GoSocks5
