import Mathlib.Data.List.Count
import GoSocks5.Associate.HandleDatagram

/-!
# The relay loop

`readFromSrc` reads datagrams from the association's UDP socket until a read or
a parse fails, hands each parsed datagram to `handleDatagram` and frees it.
After the loop it closes every flow with `CloseAll`, and frees the datagram
still held, if any.

The model runs the loop over the list of what the reads return. Its state is
the loop's variables and the log; `handled`, the calls of `handleDatagram` so
far, is ghost state the flow table's invariant speaks about. A parsed
datagram's buffer is numbered by its position in `handled`, so the entries of
the log that read a datagram are the effects of its call.

`Stepped` says once what an iteration can do. From it: the flow table is always
what the history of calls made it (`FlowTable`), every connection dialled is in
exactly one entry or closed and closed exactly once when the loop returns
(`Closed`), and every buffer is freed exactly once, after its last use.
-/

namespace GoSocks5

open Slice Except

/-- Whether a loop of the relay is still running. -/
inductive LoopStatus where
  | running
  | returned
  | panicked
  deriving DecidableEq, Repr

/-- What `udpServer.ReadFromUdp(bs)` returns: a message and its sender, with the
answers the network will give to the dial and the write that handling it may
make; or an error. -/
inductive UdpRead where
  | message (fromAddr : UDPAddr) (bytes : Bytes) (dialOk writeOk : Bool)
  | error
  deriving DecidableEq, Repr

/-- A read of a message into `bs`: Go copies what fits and returns the count. -/
def readInto (bs message : Bytes) : Bytes × Nat :=
  (copy bs message, min message.length bs.length)

@[simp]
theorem length_readInto (bs message : Bytes) : (readInto bs message).1.length = bs.length := by
  simp only [readInto, copy, List.length_append, List.length_take, List.length_drop]
  omega

/-- `bs[:n]` after a read is the message, cut to `len(bs)`. -/
theorem slice_readInto (bs message : Bytes) :
    slice (readInto bs message).1 0 (readInto bs message).2 = .ok (message.take bs.length) := by
  rw [slice_of_le (Nat.zero_le _) (by rw [length_readInto]; exact Nat.min_le_right _ _)]
  simp [readInto, copy, List.take_left', Nat.min_comm]

/-- The variables of `readFromSrc`, its log, and the calls of `handleDatagram` so far. -/
structure SrcLoop where
  peers : UdpAssociate
  dials : Nat
  bs : Bytes
  datagram : Option Nat
  status : LoopStatus
  handled : List (UDPAddr × Datagram)
  log : List Event

namespace SrcLoop

/-- The state on entry: `NewUdpAssociate()`, `make([]byte, 65536)` and a nil `datagram`. -/
def init : SrcLoop :=
  { peers := .empty, dials := 0, bs := List.replicate 65536 0, datagram := none,
    status := .running, handled := [], log := [] }

/-- The code after the loop: `peers.CloseAll()`, then `datagram.free` unless
`datagram` is nil. -/
def exit (s : SrcLoop) : SrcLoop :=
  { s with status := .returned,
           log := s.log ++ s.peers.closeAll.map (fun c => Event.mk none (.close c)) ++
             s.datagram.toList.map fun b => Event.mk none (.free b) }

/-- One iteration of the loop of `readFromSrc`. `NewDatagramFromByte` allocates the
datagram's buffer only once every check has passed, so the log has the
allocation exactly when the parse succeeds. -/
def step (memCreater : MemAllocation) (s : SrcLoop) (read : UdpRead) : SrcLoop :=
  match s.status, read with
  | .running, .error => s.exit
  | .running, .message fromAddr bytes dialOk writeOk =>
    let (bs, n) := readInto s.bs bytes
    match slice bs 0 n >>= newDatagramFromByte memCreater with
    | .error .panic => { s with bs, status := .panicked }
    | .error (.error _) => { s with bs, datagram := none }.exit
    | .ok datagram =>
      let b := s.handled.length
      let s := { s with bs, datagram := some b, handled := s.handled ++ [(fromAddr, datagram)],
                        log := s.log ++ [Event.mk none (.alloc b)] }
      match handleDatagram s.peers s.dials fromAddr datagram dialOk writeOk with
      | .error _ => { s with status := .panicked }
      | .ok (peers, dials, effects) =>
        { s with peers, dials, datagram := none,
                 log := s.log ++ effects.map (fun effect => Event.mk (some b) effect) ++
                   [Event.mk none (.free b)] }
  | _, _ => s

@[simp] theorem init_peers : init.peers = .empty := rfl
@[simp] theorem init_dials : init.dials = 0 := rfl
@[simp] theorem init_datagram : init.datagram = none := rfl
@[simp] theorem init_status : init.status = .running := rfl
@[simp] theorem init_handled : init.handled = [] := rfl
@[simp] theorem init_log : init.log = [] := rfl

end SrcLoop

/-- `readFromSrc` over the results of its reads. -/
def readFromSrc (memCreater : MemAllocation) (reads : List UdpRead) : SrcLoop :=
  reads.foldl (SrcLoop.step memCreater) SrcLoop.init

@[simp]
theorem readFromSrc_nil (memCreater : MemAllocation) :
    readFromSrc memCreater [] = SrcLoop.init := rfl

@[simp]
theorem readFromSrc_append_singleton (memCreater : MemAllocation) (reads : List UdpRead)
    (read : UdpRead) :
    readFromSrc memCreater (reads ++ [read]) =
      (readFromSrc memCreater reads).step memCreater read := by
  simp [readFromSrc]

namespace SrcLoop

/-- An iteration keeps the length of the read buffer. -/
@[simp]
theorem length_step_bs (memCreater : MemAllocation) (s : SrcLoop) (read : UdpRead) :
    (s.step memCreater read).bs.length = s.bs.length := by
  unfold step
  split
  · rfl
  · simp only
    split
    · exact length_readInto _ _
    · exact length_readInto _ _
    · split <;> exact length_readInto _ _
  · rfl

/-- The log of an iteration that handled datagram number `n`. -/
def segment (n : Nat) (effects : List Effect) : List Event :=
  ⟨none, .alloc n⟩ :: effects.map (fun effect => ⟨some n, effect⟩) ++ [⟨none, .free n⟩]

/-- The state after an iteration that handled `datagram` from `fromAddr`. -/
def afterHandled (s : SrcLoop) (bs : Bytes) (fromAddr : UDPAddr) (datagram : Datagram)
    (peers : UdpAssociate) (dials : Nat) (effects : List Effect) : SrcLoop :=
  { s with bs, peers, dials, datagram := none, handled := s.handled ++ [(fromAddr, datagram)],
           log := s.log ++ segment s.handled.length effects }

@[simp] theorem afterHandled_peers (s : SrcLoop) (bs : Bytes) (fromAddr : UDPAddr)
    (datagram : Datagram) (peers : UdpAssociate) (dials : Nat) (effects : List Effect) :
    (s.afterHandled bs fromAddr datagram peers dials effects).peers = peers := rfl

@[simp] theorem afterHandled_dials (s : SrcLoop) (bs : Bytes) (fromAddr : UDPAddr)
    (datagram : Datagram) (peers : UdpAssociate) (dials : Nat) (effects : List Effect) :
    (s.afterHandled bs fromAddr datagram peers dials effects).dials = dials := rfl

@[simp] theorem afterHandled_handled (s : SrcLoop) (bs : Bytes) (fromAddr : UDPAddr)
    (datagram : Datagram) (peers : UdpAssociate) (dials : Nat) (effects : List Effect) :
    (s.afterHandled bs fromAddr datagram peers dials effects).handled =
      s.handled ++ [(fromAddr, datagram)] := rfl

theorem afterHandled_log (s : SrcLoop) (bs : Bytes) (fromAddr : UDPAddr)
    (datagram : Datagram) (peers : UdpAssociate) (dials : Nat) (effects : List Effect) :
    (s.afterHandled bs fromAddr datagram peers dials effects).log =
      s.log ++ segment s.handled.length effects := rfl

/-- The ways one iteration can go. -/
inductive Stepped (memCreater : MemAllocation) (s : SrcLoop) : SrcLoop → Prop
  /-- The loop has already ended. -/
  | stopped (notRunning : s.status ≠ .running) : Stepped memCreater s s
  /-- The read fails. -/
  | readFailed (running : s.status = .running) : Stepped memCreater s s.exit
  /-- The parse returns an error. -/
  | parseFailed (running : s.status = .running) (bs : Bytes) :
      Stepped memCreater s { s with bs, datagram := none }.exit
  /-- The parse panics. -/
  | parsePanicked (running : s.status = .running) (bs : Bytes) :
      Stepped memCreater s { s with bs, status := .panicked }
  /-- A datagram is parsed, handled and freed. -/
  | handled (running : s.status = .running) (bs : Bytes) (fromAddr : UDPAddr)
      (datagram : Datagram) (addr : Bytes) (peers : UdpAssociate) (dials : Nat)
      (effects : List Effect) (bytes : Bytes)
      (accepted : newDatagramFromByte memCreater bytes = .ok datagram)
      (named : datagram.address = .ok addr)
      (outcome : Handled s.peers s.dials fromAddr datagram (fromAddr.string ++ ascii "-" ++ addr)
        addr peers dials effects) :
      Stepped memCreater s (s.afterHandled bs fromAddr datagram peers dials effects)

theorem stepped (memCreater : MemAllocation) (s : SrcLoop) (read : UdpRead) :
    Stepped memCreater s (s.step memCreater read) := by
  by_cases running : s.status = .running
  · cases read with
    | error =>
      rw [show s.step memCreater .error = s.exit by simp [step, running]]
      exact .readFailed running
    | message fromAddr bytes dialOk writeOk =>
      simp only [step, running]
      split
      · exact .parsePanicked running _
      · exact .parseFailed running _
      · rename_i datagram parsed
        obtain ⟨received, -, accepted⟩ := bind_eq_ok.mp parsed
        obtain ⟨addr0, hasAddress⟩ := address_of_accepted accepted
        obtain ⟨peers, dials, effects, handledEq⟩ :=
          handleDatagram_ok hasAddress s.peers s.dials fromAddr dialOk writeOk
        obtain ⟨addr, named, outcome⟩ := handleDatagram_handled handledEq
        simp only [handledEq]
        have := Stepped.handled running (readInto s.bs bytes).1 fromAddr datagram addr peers dials
          effects received accepted named outcome
        simpa [afterHandled, segment, running] using this
  · have unchanged : s.step memCreater read = s := by
      unfold step
      split <;> simp_all
    rw [unchanged]
    exact .stopped running

/-- An iteration only appends to the log. -/
theorem log_prefix_step (memCreater : MemAllocation) (s : SrcLoop) (read : UdpRead) :
    s.log <+: (s.step memCreater read).log := by
  have step := stepped memCreater s read
  generalize s.step memCreater read = s' at step ⊢
  cases step with
  | stopped | parsePanicked => exact List.prefix_refl _
  | readFailed | parseFailed => exact ⟨_, (List.append_assoc _ _ _).symm⟩
  | handled => exact List.prefix_append _ _

theorem getElem?_concat_eq_some {α : Type} {l : List α} {x p : α} {i : Nat} :
    (l ++ [x])[i]? = some p ↔ l[i]? = some p ∨ (i = l.length ∧ p = x) := by
  rcases Nat.lt_trichotomy i l.length with lt | rfl | gt
  · simp [List.getElem?_append_left lt, Nat.ne_of_lt lt]
  · simp [eq_comm]
  · have beyond : (l ++ [x]).length ≤ i := by simp; omega
    simp [List.getElem?_eq_none beyond, List.getElem?_eq_none gt.le, Nat.ne_of_gt gt]

theorem lt_of_getElem?_eq_some {α : Type} {l : List α} {i : Nat} {p : α} (found : l[i]? = some p) :
    i < l.length :=
  (List.getElem?_eq_some_iff.mp found).1

@[simp]
theorem effectsOf_segment (n : Nat) (effects : List Effect) (i : Nat) :
    effectsOf (segment n effects) i = if i = n then effects else [] := by
  simp [segment]

@[simp]
theorem map_effect_segment (n : Nat) (effects : List Effect) :
    (segment n effects).map Event.effect = .alloc n :: effects ++ [.free n] := by
  simp [segment, Function.comp_def]

theorem filterMap_reads_segment (n : Nat) (effects : List Effect) :
    (segment n effects).filterMap Event.reads = List.replicate effects.length n := by
  induction effects with
  | nil => rfl
  | cons effect effects ih => simpa [segment, List.replicate_succ] using ih

theorem dialled_log_segment (log : List Event) (n : Nat) (effects : List Effect) (c : Nat) :
    Dialled ((log ++ segment n effects).map Event.effect) c ↔
      Dialled (log.map Event.effect) c ∨ Dialled effects c := by
  simp [segment, Dialled, exists_or, Function.comp_def]

theorem closing_quiet (ua : UdpAssociate) :
    ∀ e ∈ ua.closeAll.map (fun c => Event.mk none (.close c)),
      e.reads = none ∧ e.effect.buffer = none := by
  simp [Effect.buffer]

theorem closes_closing (ua : UdpAssociate) (c : Nat) :
    closes (ua.closeAll.map fun c => Event.mk none (.close c)) c = ua.closeAll.count c := by
  simp only [closes, List.map_map, Function.comp_def]
  exact List.count_map_of_injective _ _ (fun _ _ same => Effect.close.inj same) c

theorem exit_log_of_idle {s : SrcLoop} (idle : s.datagram = none) :
    s.exit.log = s.log ++ s.peers.closeAll.map fun c => Event.mk none (.close c) := by
  simp [exit, idle]

/-- The code after the loop reads no datagram. -/
theorem effectsOf_exit {s : SrcLoop} (idle : s.datagram = none) (i : Nat) :
    effectsOf s.exit.log i = effectsOf s.log i := by
  rw [exit_log_of_idle idle, effectsOf_append,
    effectsOf_of_untagged (fun e mem => (closing_quiet _ e mem).1), List.append_nil]

/-- An iteration on a datagram the parser accepts hands it to `handleDatagram`. -/
theorem step_accepted {memCreater : MemAllocation} {s : SrcLoop} (running : s.status = .running)
    {fromAddr : UDPAddr} {bytes : Bytes} {datagram : Datagram} {dialOk writeOk : Bool}
    {peers : UdpAssociate} {dials : Nat} {effects : List Effect}
    (fits : bytes.length ≤ s.bs.length)
    (accepted : newDatagramFromByte memCreater bytes = .ok datagram)
    (handled : handleDatagram s.peers s.dials fromAddr datagram dialOk writeOk =
      .ok (peers, dials, effects)) :
    s.step memCreater (.message fromAddr bytes dialOk writeOk) =
      s.afterHandled (readInto s.bs bytes).1 fromAddr datagram peers dials effects := by
  have sliced := slice_readInto s.bs bytes
  rw [List.take_of_length_le fits] at sliced
  simp only [step, running]
  generalize readInto s.bs bytes = read at sliced ⊢
  obtain ⟨bs, n⟩ := read
  simp only at sliced ⊢
  simp only [sliced, accepted, ok_bind, handled]
  simp [afterHandled, segment, running]

/-- What every state satisfies besides the flow table and the connections: no
datagram is held between iterations, the log names only buffers of datagrams handled
so far, and the connections dialled are `0, …, dials - 1`. -/
structure Wf (s : SrcLoop) : Prop where
  idle : s.datagram = none
  below : Below s.handled.length s.log
  dialled : ∀ c, Dialled (s.log.map Event.effect) c ↔ c < s.dials

/-- The flow table is what the calls of `handleDatagram` made it. -/
structure FlowTable (s : SrcLoop) : Prop where
  /-- An entry was created by a datagram of its key: it holds copies of that
  datagram's source and destination fields, and the connection of the one dial
  ever made that returned it, made for that datagram's address. -/
  created : ∀ key udpPeer, s.peers.get key = some udpPeer →
    ∃ i fromAddr datagram addr, s.handled[i]? = some (fromAddr, datagram) ∧
      datagram.address = .ok addr ∧ flowKey fromAddr datagram = .ok key ∧
      udpPeer = newUdpPeer fromAddr datagram udpPeer.dst ∧
      .dial addr (some udpPeer.dst) ∈ effectsOf s.log i ∧
      ∀ j, Dialled (effectsOf s.log j) udpPeer.dst → j = i
  /-- A key is present exactly when the last datagram of that key was written
  successfully. -/
  present : ∀ key, (s.peers.get key).isSome ↔
    ∃ i fromAddr datagram, s.handled[i]? = some (fromAddr, datagram) ∧
      flowKey fromAddr datagram = .ok key ∧
      (∀ j fromAddr' datagram', i < j → s.handled[j]? = some (fromAddr', datagram') →
        flowKey fromAddr' datagram' ≠ .ok key) ∧
      ∃ c data, .write c data true ∈ effectsOf s.log i
  /-- Each datagram's data is written once, to a connection that the one dial
  returning it opened for a datagram of the same key, or not at all when the dial
  for it failed. -/
  written : ∀ i fromAddr datagram, s.handled[i]? = some (fromAddr, datagram) →
    ∃ addr, datagram.address = .ok addr ∧
      ((writes (effectsOf s.log i) = [] ∧ .dial addr none ∈ effectsOf s.log i) ∨
       ∃ c ok, writes (effectsOf s.log i) = [(c, datagram.data, ok)] ∧
         ∃ j fromAddr' datagram', j ≤ i ∧ s.handled[j]? = some (fromAddr', datagram') ∧
           flowKey fromAddr' datagram' = flowKey fromAddr datagram ∧
           Dialled (effectsOf s.log j) c ∧ ∀ j', Dialled (effectsOf s.log j') c → j' = j)
  /-- The log is in receive order: no entry reads a datagram received before one
  that an earlier entry reads. -/
  ordered : (s.log.filterMap Event.reads).Pairwise (· ≤ ·)

/-- Every connection dialled is in the table or closed, never both and never
twice, until the loop returns; then it is closed exactly once. -/
structure Closed (s : SrcLoop) : Prop where
  live : s.status ≠ .returned →
    ∀ c, s.peers.closeAll.count c + closes s.log c = if c < s.dials then 1 else 0
  returned : s.status = .returned → ∀ c, closes s.log c = if c < s.dials then 1 else 0

section Init

theorem wf_init : Wf SrcLoop.init := ⟨rfl, by simp [Below], by simp [Dialled]⟩

theorem flowTable_init : FlowTable SrcLoop.init := ⟨by simp, by simp, by simp, by simp⟩

theorem closed_init : Closed SrcLoop.init :=
  ⟨fun _ c => by simp [UdpAssociate.closeAll, UdpAssociate.empty, closes], by simp⟩

end Init

section Quiet

variable {s s' : SrcLoop} {extra : List Event}

/-- Steps that change neither the table nor the calls, and log only entries that read
no datagram, keep the flow table's invariant. -/
theorem FlowTable.of_untagged (table : FlowTable s) (peersEq : s'.peers = s.peers)
    (handledEq : s'.handled = s.handled) (logEq : s'.log = s.log ++ extra)
    (untagged : ∀ e ∈ extra, e.reads = none) : FlowTable s' := by
  have sameEffects : ∀ i, effectsOf s'.log i = effectsOf s.log i := by
    simp [logEq, effectsOf_of_untagged untagged]
  have sameReads : s'.log.filterMap Event.reads = s.log.filterMap Event.reads := by
    simp [logEq, List.filterMap_eq_nil_iff.mpr fun e mem => untagged e mem]
  obtain ⟨created, present, written, ordered⟩ := table
  exact ⟨by simpa only [peersEq, handledEq, sameEffects] using created,
    by simpa only [peersEq, handledEq, sameEffects] using present,
    by simpa only [handledEq, sameEffects] using written,
    by simpa only [sameReads] using ordered⟩

theorem Wf.exit (wf : Wf s) : Wf s.exit := by
  refine ⟨wf.idle, ?_, fun c => ?_⟩
  · rw [exit_log_of_idle wf.idle]
    exact FreedAfterUse.below_append_quiet wf.below (closing_quiet _)
  · rw [exit_log_of_idle wf.idle, show s.exit.dials = s.dials from rfl, ← wf.dialled c]
    simp [Dialled]

theorem FlowTable.exit (wf : Wf s) (table : FlowTable s) : FlowTable s.exit :=
  table.of_untagged rfl rfl (exit_log_of_idle wf.idle) fun e mem => (closing_quiet _ e mem).1

theorem Closed.exit (wf : Wf s) (closed : Closed s) (running : s.status = .running) :
    Closed s.exit := by
  refine ⟨fun notReturned => absurd rfl notReturned, fun _ c => ?_⟩
  rw [exit_log_of_idle wf.idle, closes_append, closes_closing, Nat.add_comm]
  exact closed.live (by simp [running]) c

theorem freedAfterUse_exit (wf : Wf s) (freed : FreedAfterUse s.log) : FreedAfterUse s.exit.log := by
  rw [exit_log_of_idle wf.idle]
  exact freed.append_quiet (closing_quiet _)

end Quiet

section Handled

variable {s : SrcLoop} {bs : Bytes} {fromAddr : UDPAddr} {datagram : Datagram} {addr : Bytes}
  {peers : UdpAssociate} {dials : Nat} {effects : List Effect}

theorem usesOk (outcome : Handled s.peers s.dials fromAddr datagram
      (fromAddr.string ++ ascii "-" ++ addr) addr peers dials effects) :
    ∀ e ∈ effects.map (fun effect => Event.mk (some s.handled.length) effect),
      (e.reads = none ∨ e.reads = some s.handled.length) ∧ e.effect.buffer = none := by
  simp only [List.mem_map]
  rintro _ ⟨effect, mem, rfl⟩
  exact ⟨.inr rfl, outcome.buffer_eq_none effect mem⟩

theorem Wf.handled (wf : Wf s) (outcome : Handled s.peers s.dials fromAddr datagram
      (fromAddr.string ++ ascii "-" ++ addr) addr peers dials effects) :
    Wf (s.afterHandled bs fromAddr datagram peers dials effects) := by
  refine ⟨rfl, ?_, fun c => ?_⟩
  · simpa [afterHandled] using FreedAfterUse.below_append_segment wf.below (usesOk outcome)
  · simp only [afterHandled, dialled_log_segment, wf.dialled]
    rcases outcome.dials_eq with rfl | ⟨rfl, dial⟩
    · exact ⟨fun | .inl lt => lt | .inr dialled => by have := (outcome.dialled dialled).2; omega,
        .inl⟩
    · constructor
      · rintro (lt | dialled)
        · omega
        · rw [(outcome.dialled dialled).1]; omega
      · intro lt
        rcases Nat.lt_succ_iff_lt_or_eq.mp lt with lt | rfl
        · exact .inl lt
        · exact .inr ⟨addr, dial⟩

/-- The connections below `b` are those below `a ≤ b` and those from `a` to `b`. -/
theorem ite_lt_split {a b c : Nat} (le : a ≤ b) :
    (if c < b then 1 else 0) = (if c < a then 1 else 0) + if a ≤ c ∧ c < b then 1 else 0 := by
  split_ifs <;> omega

theorem Closed.handled (closed : Closed s) (running : s.status = .running)
    (outcome : Handled s.peers s.dials fromAddr datagram
      (fromAddr.string ++ ascii "-" ++ addr) addr peers dials effects) :
    Closed (s.afterHandled bs fromAddr datagram peers dials effects) := by
  refine ⟨fun _ c => ?_, fun returned => by simp [afterHandled, running] at returned⟩
  have before := closed.live (by simp [running]) c
  have counted := outcome.count_closeAll c
  have segmentCloses : closes (segment s.handled.length effects) c = effects.count (.close c) := by
    simp [closes, List.count_cons]
  have grew : s.dials ≤ dials := by rcases outcome.dials_eq with rfl | ⟨rfl, -⟩ <;> omega
  simp only [afterHandled, closes_append, segmentCloses]
  rw [ite_lt_split grew]
  omega

theorem freedAfterUse_handled (wf : Wf s) (freed : FreedAfterUse s.log)
    (outcome : Handled s.peers s.dials fromAddr datagram
      (fromAddr.string ++ ascii "-" ++ addr) addr peers dials effects) :
    FreedAfterUse (s.afterHandled bs fromAddr datagram peers dials effects).log :=
  FreedAfterUse.append_segment freed wf.below (usesOk outcome)

end Handled

/-- Before the loop returns, a connection in the table, or the next one to be
dialled, has not been closed. -/
theorem closes_eq_zero {s : SrcLoop} (closed : Closed s) (live : s.status ≠ .returned) {c : Nat}
    (target : c = s.dials ∨ ∃ key udpPeer, s.peers.get key = some udpPeer ∧ c = udpPeer.dst) :
    closes s.log c = 0 := by
  have counted := closed.live live c
  rcases target with rfl | ⟨key, udpPeer, found, rfl⟩
  · rw [if_neg (Nat.lt_irrefl _)] at counted
    omega
  · have held : 0 < s.peers.closeAll.count udpPeer.dst := by
      rw [UdpAssociate.count_closeAll]
      exact List.countP_pos_iff.mpr ⟨_, UdpAssociate.get_eq_some_iff.mp found, by simp⟩
    split_ifs at counted <;> omega

section FlowTableHandled

variable {s : SrcLoop} {bs : Bytes} {fromAddr : UDPAddr} {datagram : Datagram} {addr : Bytes}
  {peers : UdpAssociate} {dials : Nat} {effects : List Effect}

/-- After an iteration, the effects of a call are the old ones, and the new call's. -/
theorem effectsOf_afterHandled (wf : Wf s) (i : Nat) :
    effectsOf (s.afterHandled bs fromAddr datagram peers dials effects).log i =
      if i = s.handled.length then effects else effectsOf s.log i := by
  rw [afterHandled_log, effectsOf_append, effectsOf_segment]
  split_ifs with same
  · subst same
    simp [effectsOf_of_below wf.below]
  · simp

theorem effectsOf_afterHandled_old (wf : Wf s) {i : Nat} (lt : i < s.handled.length) :
    effectsOf (s.afterHandled bs fromAddr datagram peers dials effects).log i =
      effectsOf s.log i := by
  rw [effectsOf_afterHandled wf, if_neg (Nat.ne_of_lt lt)]

theorem effectsOf_afterHandled_new (wf : Wf s) :
    effectsOf (s.afterHandled bs fromAddr datagram peers dials effects).log s.handled.length =
      effects := by
  rw [effectsOf_afterHandled wf, if_pos rfl]

theorem dialled_lt (wf : Wf s) {j c : Nat} (dial : Dialled (effectsOf s.log j) c) : c < s.dials :=
  (wf.dialled c).mp (dial.mono (effectsOf_subset _ _))

/-- A connection dialled before an iteration is dialled by no call of it. -/
theorem unique_after (wf : Wf s) (outcome : Handled s.peers s.dials fromAddr datagram
      (fromAddr.string ++ ascii "-" ++ addr) addr peers dials effects) {c i : Nat}
    (lt : c < s.dials) (unique : ∀ j, Dialled (effectsOf s.log j) c → j = i) :
    ∀ j, Dialled (effectsOf (s.afterHandled bs fromAddr datagram peers dials effects).log j) c →
      j = i := by
  intro j dial
  rw [effectsOf_afterHandled wf] at dial
  split_ifs at dial
  · have := (outcome.dialled dial).1
    omega
  · exact unique j dial

/-- The connection an iteration dials is dialled by its call only. -/
theorem fresh_unique (wf : Wf s) :
    ∀ j, Dialled (effectsOf (s.afterHandled bs fromAddr datagram peers dials effects).log j)
      s.dials → j = s.handled.length := by
  intro j dial
  rw [effectsOf_afterHandled wf] at dial
  split_ifs at dial with same
  · exact same
  · exact absurd (dialled_lt wf dial) (Nat.lt_irrefl _)

section Outcome

variable (wf : Wf s) (table : FlowTable s) (named : datagram.address = .ok addr)
  (outcome : Handled s.peers s.dials fromAddr datagram
    (fromAddr.string ++ ascii "-" ++ addr) addr peers dials effects)
include wf table named outcome

/-- An entry an iteration keeps was created as before; one it creates was created by
its datagram, with the connection it dialled. -/
theorem FlowTable.created_handled (key : Bytes) (udpPeer : UdpPeer)
    (found : (s.afterHandled bs fromAddr datagram peers dials effects).peers.get key = some udpPeer) :
    ∃ i fromAddr' datagram' addr', (s.handled ++ [(fromAddr, datagram)])[i]? =
        some (fromAddr', datagram') ∧
      datagram'.address = .ok addr' ∧ flowKey fromAddr' datagram' = .ok key ∧
      udpPeer = newUdpPeer fromAddr' datagram' udpPeer.dst ∧
      .dial addr' (some udpPeer.dst) ∈
        effectsOf (s.afterHandled bs fromAddr datagram peers dials effects).log i ∧
      ∀ j, Dialled (effectsOf (s.afterHandled bs fromAddr datagram peers dials effects).log j)
        udpPeer.dst → j = i := by
  rw [afterHandled_peers] at found
  rcases outcome.get_eq_some found with old | ⟨rfl, rfl, dial⟩
  case inl =>
    obtain ⟨i, f, d, a, at_i, named_i, key_i, copies, dial_i, unique⟩ :=
      table.created key udpPeer old
    refine ⟨i, f, d, a, getElem?_concat_eq_some.mpr (.inl at_i), named_i, key_i, copies, ?_,
      unique_after wf outcome (dialled_lt wf ⟨a, dial_i⟩) unique⟩
    rwa [effectsOf_afterHandled_old wf (lt_of_getElem?_eq_some at_i)]
  case inr =>
    refine ⟨s.handled.length, fromAddr, datagram, addr, by simp, named, flowKey_eq named, rfl, ?_,
      fresh_unique wf⟩
    rwa [effectsOf_afterHandled_new wf]

omit table in
/-- The iteration's own key is present afterwards exactly when its write succeeded, and
its datagram is then the last of that key. -/
theorem FlowTable.present_handled_self :
    ((s.afterHandled bs fromAddr datagram peers dials effects).peers.get
        (fromAddr.string ++ ascii "-" ++ addr)).isSome ↔
      ∃ i fromAddr' datagram', (s.handled ++ [(fromAddr, datagram)])[i]? =
          some (fromAddr', datagram') ∧
        flowKey fromAddr' datagram' = .ok (fromAddr.string ++ ascii "-" ++ addr) ∧
        (∀ j fromAddr'' datagram'', i < j →
          (s.handled ++ [(fromAddr, datagram)])[j]? = some (fromAddr'', datagram'') →
          flowKey fromAddr'' datagram'' ≠ .ok (fromAddr.string ++ ascii "-" ++ addr)) ∧
        ∃ c data, .write c data true ∈
          effectsOf (s.afterHandled bs fromAddr datagram peers dials effects).log i := by
  rw [afterHandled_peers, outcome.present_iff]
  constructor
  · intro wrote
    refine ⟨s.handled.length, fromAddr, datagram, by simp, flowKey_eq named,
      fun j f d later at_j => ?_, by rwa [effectsOf_afterHandled_new wf]⟩
    rcases getElem?_concat_eq_some.mp at_j with old | ⟨rfl, -⟩
    · exact absurd (lt_of_getElem?_eq_some old) (by omega)
    · omega
  · rintro ⟨i, f, d, at_i, -, last, wrote⟩
    rcases getElem?_concat_eq_some.mp at_i with old | ⟨rfl, -⟩
    · exact absurd (flowKey_eq named)
        (last s.handled.length fromAddr datagram (lt_of_getElem?_eq_some old) (by simp))
    · rwa [effectsOf_afterHandled_new wf] at wrote

/-- Another key is present afterwards exactly when it was before, and its last
datagram is the same. -/
theorem FlowTable.present_handled_other {key : Bytes}
    (same : key ≠ fromAddr.string ++ ascii "-" ++ addr) :
    ((s.afterHandled bs fromAddr datagram peers dials effects).peers.get key).isSome ↔
      ∃ i fromAddr' datagram', (s.handled ++ [(fromAddr, datagram)])[i]? =
          some (fromAddr', datagram') ∧
        flowKey fromAddr' datagram' = .ok key ∧
        (∀ j fromAddr'' datagram'', i < j →
          (s.handled ++ [(fromAddr, datagram)])[j]? = some (fromAddr'', datagram'') →
          flowKey fromAddr'' datagram'' ≠ .ok key) ∧
        ∃ c data, .write c data true ∈
          effectsOf (s.afterHandled bs fromAddr datagram peers dials effects).log i := by
  have other : flowKey fromAddr datagram ≠ .ok key :=
    fun keyed => same (Except.ok.inj (keyed.symm.trans (flowKey_eq named)))
  rw [afterHandled_peers, outcome.get_of_ne same, table.present key]
  constructor
  · rintro ⟨i, f, d, at_i, key_i, last, wrote⟩
    refine ⟨i, f, d, getElem?_concat_eq_some.mpr (.inl at_i), key_i,
      fun j f' d' later at_j => ?_, by rwa [effectsOf_afterHandled_old wf (lt_of_getElem?_eq_some at_i)]⟩
    rcases getElem?_concat_eq_some.mp at_j with old | ⟨rfl, pair⟩
    · exact last j f' d' later old
    · obtain ⟨rfl, rfl⟩ := Prod.mk.inj pair.symm
      exact other
  · rintro ⟨i, f, d, at_i, key_i, last, wrote⟩
    rcases getElem?_concat_eq_some.mp at_i with old | ⟨rfl, pair⟩
    · refine ⟨i, f, d, old, key_i,
        fun j f' d' later at_j => last j f' d' later (getElem?_concat_eq_some.mpr (.inl at_j)), ?_⟩
      rwa [effectsOf_afterHandled_old wf (lt_of_getElem?_eq_some old)] at wrote
    · obtain ⟨rfl, rfl⟩ := Prod.mk.inj pair.symm
      exact absurd key_i other

/-- An old datagram's write is as before; the iteration's own datagram is written to
the connection its key's entry holds or the one it dialled, or dropped. -/
theorem FlowTable.written_handled (i : Nat) (fromAddr' : UDPAddr) (datagram' : Datagram)
    (at_i : (s.handled ++ [(fromAddr, datagram)])[i]? = some (fromAddr', datagram')) :
    ∃ addr', datagram'.address = .ok addr' ∧
      ((writes (effectsOf (s.afterHandled bs fromAddr datagram peers dials effects).log i) = [] ∧
          .dial addr' none ∈ effectsOf (s.afterHandled bs fromAddr datagram peers dials effects).log i) ∨
        ∃ c ok, writes (effectsOf (s.afterHandled bs fromAddr datagram peers dials effects).log i) =
            [(c, datagram'.data, ok)] ∧
          ∃ j fromAddr'' datagram'', j ≤ i ∧
            (s.handled ++ [(fromAddr, datagram)])[j]? = some (fromAddr'', datagram'') ∧
            flowKey fromAddr'' datagram'' = flowKey fromAddr' datagram' ∧
            Dialled (effectsOf (s.afterHandled bs fromAddr datagram peers dials effects).log j) c ∧
            ∀ j', Dialled (effectsOf (s.afterHandled bs fromAddr datagram peers dials effects).log j') c →
              j' = j) := by
  rcases getElem?_concat_eq_some.mp at_i with old | ⟨rfl, pair⟩
  case inl =>
    have lt := lt_of_getElem?_eq_some old
    obtain ⟨a, named_i, result⟩ := table.written i fromAddr' datagram' old
    refine ⟨a, named_i, ?_⟩
    rw [effectsOf_afterHandled_old wf lt]
    rcases result with dropped | ⟨c, ok, wrote, j, f, d, le, at_j, sameKey, dial, unique⟩
    · exact .inl dropped
    · refine .inr ⟨c, ok, wrote, j, f, d, le, getElem?_concat_eq_some.mpr (.inl at_j), sameKey,
        ?_, unique_after wf outcome (dialled_lt wf dial) unique⟩
      rwa [effectsOf_afterHandled_old wf (by omega)]
  case inr =>
    obtain ⟨rfl, rfl⟩ := Prod.mk.inj pair.symm
    refine ⟨addr, named, ?_⟩
    rw [effectsOf_afterHandled_new wf]
    rcases outcome.writes_eq with dropped | ⟨ok, ⟨udpPeer, found, wrote⟩ | ⟨wrote, dial⟩⟩
    · exact .inl dropped
    · obtain ⟨j, f, d, a, at_j, -, key_j, -, dial_j, unique⟩ := table.created _ udpPeer found
      have lt := lt_of_getElem?_eq_some at_j
      refine .inr ⟨udpPeer.dst, ok, wrote, j, f, d, by omega,
        getElem?_concat_eq_some.mpr (.inl at_j), key_j.trans (flowKey_eq named).symm, ?_,
        unique_after wf outcome (dialled_lt wf ⟨a, dial_j⟩) unique⟩
      rw [effectsOf_afterHandled_old wf lt]
      exact ⟨a, dial_j⟩
    · refine .inr ⟨s.dials, ok, wrote, s.handled.length, fromAddr, datagram, le_rfl, by simp, rfl,
        ?_, fresh_unique wf⟩
      rw [effectsOf_afterHandled_new wf]
      exact ⟨addr, dial⟩

end Outcome

/-- An iteration's events come after every event of earlier iterations. -/
theorem FlowTable.ordered_handled (wf : Wf s) (table : FlowTable s) :
    ((s.afterHandled bs fromAddr datagram peers dials effects).log.filterMap Event.reads).Pairwise
      (· ≤ ·) := by
  rw [afterHandled_log, List.filterMap_append, filterMap_reads_segment, List.pairwise_append]
  refine ⟨table.ordered, List.pairwise_replicate.mpr (.inr le_rfl), fun a inOld b inNew => ?_⟩
  rw [List.eq_of_mem_replicate inNew]
  obtain ⟨e, mem, tag⟩ := List.mem_filterMap.mp inOld
  exact ((wf.below e mem).1 a tag).le

theorem FlowTable.handled (wf : Wf s) (table : FlowTable s) (named : datagram.address = .ok addr)
    (outcome : Handled s.peers s.dials fromAddr datagram
      (fromAddr.string ++ ascii "-" ++ addr) addr peers dials effects) :
    FlowTable (s.afterHandled bs fromAddr datagram peers dials effects) where
  created := table.created_handled wf named outcome
  present key := by
    by_cases same : key = fromAddr.string ++ ascii "-" ++ addr
    · subst same
      exact FlowTable.present_handled_self wf named outcome
    · exact table.present_handled_other wf named outcome same
  written := table.written_handled wf named outcome
  ordered := table.ordered_handled wf

end FlowTableHandled

/-- One iteration keeps every invariant. -/
theorem invariants_step {memCreater : MemAllocation} {s s' : SrcLoop} (wf : Wf s)
    (table : FlowTable s) (closed : Closed s) (freed : FreedAfterUse s.log)
    (stepped : Stepped memCreater s s') :
    Wf s' ∧ FlowTable s' ∧ Closed s' ∧ FreedAfterUse s'.log := by
  cases stepped with
  | stopped => exact ⟨wf, table, closed, freed⟩
  | readFailed running =>
    exact ⟨wf.exit, table.exit wf, closed.exit wf running, freedAfterUse_exit wf freed⟩
  | parseFailed running bs =>
    have wf' : Wf { s with bs, datagram := none } := ⟨rfl, wf.below, wf.dialled⟩
    exact ⟨wf'.exit, FlowTable.exit wf' (table.of_untagged rfl rfl (List.append_nil _).symm (by simp)),
      Closed.exit wf' ⟨closed.live, closed.returned⟩ running, freedAfterUse_exit wf' freed⟩
  | parsePanicked running bs =>
    exact ⟨⟨wf.idle, wf.below, wf.dialled⟩,
      table.of_untagged rfl rfl (List.append_nil _).symm (by simp),
      ⟨fun _ => closed.live (by simp [running]), fun returned => by simp at returned⟩, freed⟩
  | handled running bs fromAddr datagram addr peers dials effects bytes accepted named outcome =>
    exact ⟨wf.handled outcome, table.handled wf named outcome, closed.handled running outcome,
      freedAfterUse_handled wf freed outcome⟩

end SrcLoop

/-- Every state `readFromSrc` reaches satisfies the invariants. -/
theorem readFromSrc_invariants (memCreater : MemAllocation) (reads : List UdpRead) :
    let s := readFromSrc memCreater reads
    s.Wf ∧ s.FlowTable ∧ s.Closed ∧ FreedAfterUse s.log := by
  induction reads using List.reverseRecOn with
  | nil => exact ⟨SrcLoop.wf_init, SrcLoop.flowTable_init, SrcLoop.closed_init, FreedAfterUse.nil⟩
  | append_singleton reads read ih =>
    obtain ⟨wf, table, closed, freed⟩ := ih
    rw [readFromSrc_append_singleton]
    exact SrcLoop.invariants_step wf table closed freed (SrcLoop.stepped memCreater _ read)

/-- The read buffer keeps its 65536 bytes. -/
@[simp]
theorem length_readFromSrc_bs (memCreater : MemAllocation) (reads : List UdpRead) :
    (readFromSrc memCreater reads).bs.length = 65536 := by
  induction reads using List.reverseRecOn with
  | nil => exact List.length_replicate _ _
  | append_singleton reads read ih => rw [readFromSrc_append_singleton, SrcLoop.length_step_bs, ih]

/-- Over every run of `readFromSrc`: while the loop runs, every connection a dial
returned is the `dst` of exactly one entry or closed once, never both; an
iteration never replaces an entry, it keeps it or deletes it; and once the loop
has returned, every such connection has been closed exactly once. -/
theorem readFromSrc_closes_each_connection_once (memCreater : MemAllocation)
    (reads : List UdpRead) :
    let s := readFromSrc memCreater reads
    (∀ c, Dialled (s.log.map Event.effect) c →
      (s.status ≠ .returned → (s.peers.m.countP fun entry => entry.2.dst = c) + closes s.log c = 1) ∧
      (s.status = .returned → closes s.log c = 1)) ∧
    ∀ read key udpPeer, s.peers.get key = some udpPeer →
      (s.step memCreater read).peers.get key = some udpPeer ∨
        (s.step memCreater read).peers.get key = none := by
  obtain ⟨wf, -, closed, -⟩ := readFromSrc_invariants memCreater reads
  refine ⟨fun c dialled => ⟨fun live => ?_, fun returned => ?_⟩, fun read key udpPeer found => ?_⟩
  · have := closed.live live c
    rwa [UdpAssociate.count_closeAll, if_pos ((wf.dialled c).mp dialled)] at this
  · simpa [(wf.dialled c).mp dialled] using closed.returned returned c
  · have stepped := SrcLoop.stepped memCreater (readFromSrc memCreater reads) read
    generalize (readFromSrc memCreater reads).step memCreater read = s' at stepped ⊢
    cases stepped with
    | handled running bs fromAddr datagram addr peers dials effects bytes accepted named outcome =>
      exact outcome.get_of_get found
    | _ => exact .inl found

end GoSocks5
