import GoSocks5.Associate.ReadFromSrc

/-!
# The relay's outbound connections

`handleDatagram` writes a datagram's data to the connection of its flow, which it
finds in the table or dials. When the write fails it closes that connection and
deletes the flow with it; `CloseAll` closes the others once the loop ends. Two
consequences hold over every run of `readFromSrc`, with any datagrams and any
outcome of each dial and each write:

* no entry of the log writes to a connection that an earlier entry closed;
* a flow keeps its connection while its writes succeed. The datagram after one
  whose write succeeded goes to the same connection, with no dial; the first
  datagram of a flow, and the one after a failed write or a failed dial, dials.

Both follow from what one call of `handleDatagram` can do (`Handled`) and the
invariants of the loop: a connection in the table has not been closed, and an
entry holds the connection the last datagram of its key was written to.
-/

namespace GoSocks5

/-- No write in a list of effects is to a connection an earlier effect closed. -/
def WritesBeforeClose (effects : List Effect) : Prop :=
  ∀ pre c data ok post, effects = pre ++ .write c data ok :: post → .close c ∉ pre

namespace WritesBeforeClose

@[simp]
theorem nil : WritesBeforeClose [] := fun pre _ _ _ _ split => by simp at split

@[simp]
theorem cons_iff {effect : Effect} {effects : List Effect} :
    WritesBeforeClose (effect :: effects) ↔ WritesBeforeClose effects ∧
      ∀ c, effect = .close c → ∀ data ok, .write c data ok ∉ effects := by
  constructor
  · intro ordered
    refine ⟨fun pre c data ok post split closed => ?_, fun c closing data ok mem => ?_⟩
    · exact ordered (effect :: pre) c data ok post (by rw [split]; rfl) (List.mem_cons_of_mem _ closed)
    · obtain ⟨pre, post, split⟩ := List.append_of_mem mem
      exact ordered (effect :: pre) c data ok post (by rw [split]; rfl) (closing ▸ List.mem_cons_self _ _)
  · rintro ⟨ordered, first⟩ pre c data ok post split
    cases pre with
    | nil => exact List.not_mem_nil _
    | cons e pre =>
      rw [List.cons_append, List.cons.injEq] at split
      obtain ⟨rfl, rest⟩ := split
      rintro (_ | ⟨_, closed⟩)
      · exact first c rfl data ok (rest ▸ List.mem_append_right _ (List.mem_cons_self _ _))
      · exact ordered pre c data ok post rest closed

/-- Effects that write to no connection the first list closed can follow it. -/
theorem append {effects extra : List Effect} (ordered : WritesBeforeClose effects)
    (ordered' : WritesBeforeClose extra)
    (unclosed : ∀ c data ok, .write c data ok ∈ extra → .close c ∉ effects) :
    WritesBeforeClose (effects ++ extra) := by
  induction effects with
  | nil => exact ordered'
  | cons effect effects ih =>
    rw [cons_iff] at ordered
    rw [List.cons_append, cons_iff]
    refine ⟨ih ordered.1 fun c data ok mem closed =>
        unclosed c data ok mem (List.mem_cons_of_mem _ closed), fun c closing data ok mem => ?_⟩
    rcases List.mem_append.mp mem with old | new
    · exact ordered.2 c closing data ok old
    · exact unclosed c data ok new (closing ▸ List.mem_cons_self _ _)

theorem of_no_write {effects : List Effect} (noWrite : ∀ c data ok, .write c data ok ∉ effects) :
    WritesBeforeClose effects := fun _ c data ok _ split _ =>
  noWrite c data ok (split ▸ List.mem_append_right _ (List.mem_cons_self _ _))

end WritesBeforeClose

namespace Handled

variable {peers peers' : UdpAssociate} {dials dials' : Nat} {fromAddr : UDPAddr}
  {datagram : Datagram} {key addr : Bytes} {effects : List Effect}

/-- A call closes a connection only after its write. -/
theorem writesBeforeClose
    (outcome : Handled peers dials fromAddr datagram key addr peers' dials' effects) :
    WritesBeforeClose effects := by
  cases outcome <;> simp

/-- A call writes to the connection of its key's entry, or to the one it dialled. -/
theorem write_target (outcome : Handled peers dials fromAddr datagram key addr peers' dials' effects)
    {c : Nat} {data : Bytes} {ok : Bool} (write : .write c data ok ∈ effects) :
    c = dials ∨ ∃ udpPeer, peers.get key = some udpPeer ∧ c = udpPeer.dst := by
  cases outcome with
  | wrote udpPeer found | writeFailed udpPeer found =>
    exact .inr ⟨udpPeer, found, by simp_all⟩
  | _ => exact .inl (by simp_all)

/-- A call for a key in the table dials nothing and writes to the entry's connection. -/
theorem reuses {udpPeer : UdpPeer} (found : peers.get key = some udpPeer)
    (outcome : Handled peers dials fromAddr datagram key addr peers' dials' effects) :
    (∀ a conn, .dial a conn ∉ effects) ∧ ∃ ok, writes effects = [(udpPeer.dst, datagram.data, ok)] := by
  cases outcome with
  | wrote udpPeer' found' | writeFailed udpPeer' found' =>
    obtain rfl := Option.some.inj (found'.symm.trans found)
    simp
  | _ => simp_all

/-- A call for a key not in the table dials the datagram's address. -/
theorem dials_of_absent (absent : peers.get key = none)
    (outcome : Handled peers dials fromAddr datagram key addr peers' dials' effects) :
    ∃ conn, .dial addr conn ∈ effects := by
  cases outcome <;> simp_all

/-- When the key is in the table afterwards, the call's write to the entry's
connection succeeded. -/
theorem writes_of_get {udpPeer : UdpPeer} (found : peers'.get key = some udpPeer)
    (outcome : Handled peers dials fromAddr datagram key addr peers' dials' effects) :
    writes effects = [(udpPeer.dst, datagram.data, true)] := by
  cases outcome with
  | wrote udpPeer' found' =>
    obtain rfl := Option.some.inj (found'.symm.trans found)
    rfl
  | created =>
    obtain rfl : newUdpPeer fromAddr datagram dials = udpPeer := by simpa using found
    rfl
  | _ => simp_all

end Handled

namespace SrcLoop

variable {memCreater : MemAllocation} {s s' : SrcLoop}

/-- An iteration writes to no connection closed before or by it. -/
theorem writesBeforeClose_step (wf : Wf s) (closed : Closed s)
    (ordered : WritesBeforeClose (s.log.map Event.effect)) (stepped : Stepped memCreater s s') :
    WritesBeforeClose (s'.log.map Event.effect) := by
  have closing : ∀ ua : UdpAssociate,
      WritesBeforeClose ((ua.closeAll.map fun c => Event.mk none (.close c)).map Event.effect) :=
    fun _ => .of_no_write (by simp)
  cases stepped with
  | stopped | parsePanicked => exact ordered
  | readFailed =>
    rw [exit_log_of_idle wf.idle, List.map_append]
    exact ordered.append (closing _) (by simp)
  | parseFailed =>
    rw [exit_log_of_idle rfl, List.map_append]
    exact ordered.append (closing _) (by simp)
  | handled running bs fromAddr datagram addr peers dials effects bytes accepted named outcome =>
    rw [afterHandled_log, List.map_append, map_effect_segment]
    refine ordered.append (WritesBeforeClose.cons_iff.mpr ⟨outcome.writesBeforeClose.append
      (.of_no_write (by simp)) (by simp), by simp⟩) fun c data ok mem => ?_
    have written : .write c data ok ∈ effects := by simpa using mem
    refine List.count_eq_zero.mp (closes_eq_zero closed (by simp [running]) ?_)
    rcases outcome.write_target written with fresh | ⟨udpPeer, found, rfl⟩
    · exact .inl fresh
    · exact .inr ⟨_, udpPeer, found, rfl⟩

end SrcLoop

/-- Over every run of `readFromSrc`, with any datagrams and any outcome of each dial
and write, no entry of the log writes to a connection that an earlier entry
closed: a failed write closes its connection and deletes its flow, and `CloseAll`
comes after the loop. -/
theorem readFromSrc_never_writes_closed_connection (memCreater : MemAllocation)
    (reads : List UdpRead) :
    WritesBeforeClose ((readFromSrc memCreater reads).log.map Event.effect) := by
  induction reads using List.reverseRecOn with
  | nil => exact WritesBeforeClose.nil
  | append_singleton reads read ih =>
    obtain ⟨wf, -, closed, -⟩ := readFromSrc_invariants memCreater reads
    rw [readFromSrc_append_singleton]
    exact SrcLoop.writesBeforeClose_step wf closed ih (SrcLoop.stepped memCreater _ read)

/-- Call `i` is the last call for flow `key` before call `j`. -/
def LastOfFlowBefore (handled : List (UDPAddr × Datagram)) (key : Bytes) (i j : Nat) : Prop :=
  i < j ∧
    (∃ fromAddr datagram, handled[i]? = some (fromAddr, datagram) ∧
      flowKey fromAddr datagram = .ok key) ∧
    ∀ k fromAddr datagram, i < k → k < j → handled[k]? = some (fromAddr, datagram) →
      flowKey fromAddr datagram ≠ .ok key

namespace LastOfFlowBefore

variable {handled : List (UDPAddr × Datagram)} {key : Bytes} {i i' j : Nat}

theorem unique (last : LastOfFlowBefore handled key i j) (last' : LastOfFlowBefore handled key i' j) :
    i = i' := by
  obtain ⟨lt, ⟨f, d, at_i, keyed⟩, between⟩ := last
  obtain ⟨lt', ⟨f', d', at_i', keyed'⟩, between'⟩ := last'
  rcases Nat.lt_trichotomy i i' with before | same | after
  · exact absurd keyed' (between i' f' d' before lt' at_i')
  · exact same
  · exact absurd keyed (between' i f d after lt at_i)

/-- Calls after `j` do not matter. -/
theorem append_iff {extra : List (UDPAddr × Datagram)} (le : j ≤ handled.length) :
    LastOfFlowBefore (handled ++ extra) key i j ↔ LastOfFlowBefore handled key i j := by
  have same : ∀ {k}, k < j → (handled ++ extra)[k]? = handled[k]? :=
    fun lt => List.getElem?_append_left (by omega)
  constructor
  · rintro ⟨lt, ⟨f, d, at_i, keyed⟩, between⟩
    exact ⟨lt, ⟨f, d, same lt ▸ at_i, keyed⟩,
      fun k f' d' after before at_k => between k f' d' after before (by rwa [same before])⟩
  · rintro ⟨lt, ⟨f, d, at_i, keyed⟩, between⟩
    exact ⟨lt, ⟨f, d, by rwa [same lt], keyed⟩,
      fun k f' d' after before at_k => between k f' d' after before (by rwa [same before] at at_k)⟩

/-- A new call for another key keeps the last call of `key`. -/
theorem concat {fromAddr : UDPAddr} {datagram : Datagram}
    (last : LastOfFlowBefore handled key i handled.length)
    (other : flowKey fromAddr datagram ≠ .ok key) :
    LastOfFlowBefore (handled ++ [(fromAddr, datagram)]) key i
      (handled ++ [(fromAddr, datagram)]).length := by
  obtain ⟨lt, ⟨f, d, at_i, keyed⟩, between⟩ := last
  refine ⟨by simp; omega, ⟨f, d, SrcLoop.getElem?_concat_eq_some.mpr (.inl at_i), keyed⟩,
    fun k f' d' after before at_k => ?_⟩
  rcases SrcLoop.getElem?_concat_eq_some.mp at_k with old | ⟨rfl, pair⟩
  · exact between k f' d' after (SrcLoop.lt_of_getElem?_eq_some old) old
  · obtain ⟨rfl, rfl⟩ := Prod.mk.inj pair
    exact other

/-- A new call is the last of its key. -/
theorem concat_self {fromAddr : UDPAddr} {datagram : Datagram}
    (keyed : flowKey fromAddr datagram = .ok key) :
    LastOfFlowBefore (handled ++ [(fromAddr, datagram)]) key handled.length
      (handled ++ [(fromAddr, datagram)]).length :=
  ⟨by simp, ⟨fromAddr, datagram, by simp, keyed⟩, fun k _ _ after before _ => by simp at before; omega⟩

/-- The last call of a key overall is one no later call shares the key with. -/
theorem length_iff :
    LastOfFlowBefore handled key i handled.length ↔
      ∃ fromAddr datagram, handled[i]? = some (fromAddr, datagram) ∧
        flowKey fromAddr datagram = .ok key ∧
        ∀ j fromAddr' datagram', i < j → handled[j]? = some (fromAddr', datagram') →
          flowKey fromAddr' datagram' ≠ .ok key := by
  constructor
  · rintro ⟨-, ⟨f, d, at_i, keyed⟩, between⟩
    exact ⟨f, d, at_i, keyed,
      fun j f' d' after at_j => between j f' d' after (SrcLoop.lt_of_getElem?_eq_some at_j) at_j⟩
  · rintro ⟨f, d, at_i, keyed, later⟩
    exact ⟨SrcLoop.lt_of_getElem?_eq_some at_i, ⟨f, d, at_i, keyed⟩,
      fun j f' d' after _ at_j => later j f' d' after at_j⟩

end LastOfFlowBefore

/-- The calls of `handleDatagram` so far and their effects: a call whose flow's last
call wrote successfully to connection `c` dials nothing and writes to `c`; a call
whose flow has no such last call dials its datagram's address. -/
def ReusesConnections (handled : List (UDPAddr × Datagram)) (log : List Event) : Prop :=
  ∀ j fromAddr datagram key, handled[j]? = some (fromAddr, datagram) →
    flowKey fromAddr datagram = .ok key →
    (∀ i c data, LastOfFlowBefore handled key i j → (c, data, true) ∈ writes (effectsOf log i) →
      (∀ addr conn, .dial addr conn ∉ effectsOf log j) ∧
        ∃ ok, writes (effectsOf log j) = [(c, datagram.data, ok)]) ∧
    ((∀ i c data, LastOfFlowBefore handled key i j → (c, data, true) ∉ writes (effectsOf log i)) →
      ∃ addr conn, datagram.address = .ok addr ∧ .dial addr conn ∈ effectsOf log j)

namespace SrcLoop

variable {memCreater : MemAllocation} {s s' : SrcLoop}

/-- An entry of the table holds the connection that the last call of its key wrote
to, successfully. -/
def HoldsLastWrite (s : SrcLoop) : Prop :=
  ∀ key udpPeer, s.peers.get key = some udpPeer →
    ∃ i, LastOfFlowBefore s.handled key i s.handled.length ∧
      ∃ data, writes (effectsOf s.log i) = [(udpPeer.dst, data, true)]

/-- A key is in the table exactly when the last call of its key wrote successfully. -/
theorem FlowTable.present_iff_last (table : FlowTable s) (key : Bytes) :
    (s.peers.get key).isSome ↔ ∃ i, LastOfFlowBefore s.handled key i s.handled.length ∧
      ∃ c data, (c, data, true) ∈ writes (effectsOf s.log i) := by
  simp only [table.present key, LastOfFlowBefore.length_iff, mem_writes]
  constructor
  · rintro ⟨i, f, d, at_i, keyed, later, wrote⟩
    exact ⟨i, ⟨f, d, at_i, keyed, later⟩, wrote⟩
  · rintro ⟨i, ⟨f, d, at_i, keyed, later⟩, wrote⟩
    exact ⟨i, f, d, at_i, keyed, later, wrote⟩

/-- Steps that change neither the table nor the calls nor any call's effects. -/
theorem HoldsLastWrite.of_quiet (holds : s.HoldsLastWrite) (peersEq : s'.peers = s.peers)
    (handledEq : s'.handled = s.handled) (effectsEq : ∀ i, effectsOf s'.log i = effectsOf s.log i) :
    s'.HoldsLastWrite := by
  simp only [HoldsLastWrite, peersEq, handledEq, effectsEq]
  exact holds

theorem reusesConnections_of_quiet (reuses : ReusesConnections s.handled s.log)
    (handledEq : s'.handled = s.handled) (effectsEq : ∀ i, effectsOf s'.log i = effectsOf s.log i) :
    ReusesConnections s'.handled s'.log := by
  simp only [ReusesConnections, handledEq, effectsEq]
  exact reuses

section Handled

variable {bs : Bytes} {fromAddr : UDPAddr} {datagram : Datagram} {addr : Bytes}
  {peers : UdpAssociate} {dials : Nat} {effects : List Effect}

theorem HoldsLastWrite.handled (wf : Wf s) (holds : s.HoldsLastWrite)
    (named : datagram.address = .ok addr)
    (outcome : Handled s.peers s.dials fromAddr datagram
      (fromAddr.string ++ ascii "-" ++ addr) addr peers dials effects) :
    (s.afterHandled bs fromAddr datagram peers dials effects).HoldsLastWrite := by
  intro key udpPeer found
  rw [afterHandled_peers] at found
  rw [afterHandled_handled]
  by_cases same : key = fromAddr.string ++ ascii "-" ++ addr
  · subst same
    refine ⟨_, .concat_self (flowKey_eq named), datagram.data, ?_⟩
    rw [effectsOf_afterHandled_new wf]
    exact outcome.writes_of_get found
  · obtain ⟨i, last, data, wrote⟩ := holds key udpPeer (outcome.get_of_ne same ▸ found)
    refine ⟨i, last.concat fun keyed => same (Except.ok.inj (keyed.symm.trans (flowKey_eq named))),
      data, ?_⟩
    rwa [effectsOf_afterHandled_old wf last.1]

theorem reusesConnections_handled (wf : Wf s) (table : FlowTable s) (holds : s.HoldsLastWrite)
    (reuses : ReusesConnections s.handled s.log) (named : datagram.address = .ok addr)
    (outcome : Handled s.peers s.dials fromAddr datagram
      (fromAddr.string ++ ascii "-" ++ addr) addr peers dials effects) :
    ReusesConnections (s.handled ++ [(fromAddr, datagram)])
      (s.afterHandled bs fromAddr datagram peers dials effects).log := by
  intro j f d key at_j keyed
  rcases getElem?_concat_eq_some.mp at_j with old | ⟨rfl, pair⟩
  case inl =>
    have lt := lt_of_getElem?_eq_some old
    have sameEffects : ∀ {i}, LastOfFlowBefore s.handled key i j →
        effectsOf (s.afterHandled bs fromAddr datagram peers dials effects).log i =
          effectsOf s.log i := fun last => effectsOf_afterHandled_old wf (by have := last.1; omega)
    obtain ⟨reused, dialled⟩ := reuses j f d key old keyed
    rw [effectsOf_afterHandled_old wf lt]
    refine ⟨fun i c data last wrote => ?_, fun unwritten => dialled fun i c data last => ?_⟩
    · rw [LastOfFlowBefore.append_iff lt.le] at last
      exact reused i c data last (sameEffects last ▸ wrote)
    · have := unwritten i c data ((LastOfFlowBefore.append_iff lt.le).mpr last)
      rwa [sameEffects last] at this
  case inr =>
    obtain ⟨rfl, rfl⟩ := Prod.mk.inj pair.symm
    obtain rfl := Except.ok.inj (keyed.symm.trans (flowKey_eq named))
    rw [effectsOf_afterHandled_new wf]
    refine ⟨fun i c data last wrote => ?_, fun unwritten => ⟨addr, ?_⟩⟩
    · rw [LastOfFlowBefore.append_iff le_rfl] at last
      rw [effectsOf_afterHandled_old wf last.1] at wrote
      obtain ⟨udpPeer, found⟩ := Option.isSome_iff_exists.mp
        ((table.present_iff_last _).mpr ⟨i, last, c, data, wrote⟩)
      obtain ⟨i', last', data', wrote'⟩ := holds _ udpPeer found
      obtain rfl := last.unique last'
      rw [wrote', List.mem_singleton, Prod.mk.injEq] at wrote
      obtain ⟨rfl, -⟩ := wrote
      exact outcome.reuses found
    · have absent : s.peers.get (fromAddr.string ++ ascii "-" ++ addr) = none := by
        cases found : s.peers.get (fromAddr.string ++ ascii "-" ++ addr) with
        | none => rfl
        | some udpPeer =>
          obtain ⟨i, last, data, wrote⟩ := holds _ udpPeer found
          have := unwritten i udpPeer.dst data ((LastOfFlowBefore.append_iff le_rfl).mpr last)
          rw [effectsOf_afterHandled_old wf last.1, wrote] at this
          exact absurd (List.mem_singleton_self _) this
      obtain ⟨conn, dialled⟩ := outcome.dials_of_absent absent
      exact ⟨conn, named, dialled⟩

end Handled

theorem reuse_step (wf : Wf s) (table : FlowTable s) (holds : s.HoldsLastWrite)
    (reuses : ReusesConnections s.handled s.log) (stepped : Stepped memCreater s s') :
    s'.HoldsLastWrite ∧ ReusesConnections s'.handled s'.log := by
  cases stepped with
  | stopped => exact ⟨holds, reuses⟩
  | readFailed =>
    exact ⟨holds.of_quiet rfl rfl (effectsOf_exit wf.idle),
      reusesConnections_of_quiet reuses rfl (effectsOf_exit wf.idle)⟩
  | parseFailed =>
    exact ⟨holds.of_quiet rfl rfl (effectsOf_exit rfl), reusesConnections_of_quiet reuses rfl
      (effectsOf_exit rfl)⟩
  | parsePanicked => exact ⟨holds, reuses⟩
  | handled running bs fromAddr datagram addr peers dials effects bytes accepted named outcome =>
    exact ⟨holds.handled wf named outcome,
      reusesConnections_handled wf table holds reuses named outcome⟩

end SrcLoop

/-- Over every run of `readFromSrc`, with any datagrams and any outcome of each dial
and write, a flow keeps its connection while its writes succeed: a datagram whose
flow's previous datagram was written successfully to connection `c` is written to
`c`, with no dial; the first datagram of a flow, and one whose flow's previous
datagram was not written successfully, is dialled for. -/
theorem readFromSrc_reuses_flow_connection (memCreater : MemAllocation) (reads : List UdpRead) :
    ReusesConnections (readFromSrc memCreater reads).handled (readFromSrc memCreater reads).log := by
  suffices (readFromSrc memCreater reads).HoldsLastWrite ∧
      ReusesConnections (readFromSrc memCreater reads).handled (readFromSrc memCreater reads).log from
    this.2
  induction reads using List.reverseRecOn with
  | nil => exact ⟨fun _ _ found => by simp at found, fun _ _ _ _ at_j => by simp at at_j⟩
  | append_singleton reads read ih =>
    obtain ⟨wf, table, -, -⟩ := readFromSrc_invariants memCreater reads
    rw [readFromSrc_append_singleton]
    exact SrcLoop.reuse_step wf table ih.1 ih.2 (SrcLoop.stepped memCreater _ read)

end GoSocks5
