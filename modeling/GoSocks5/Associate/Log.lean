import GoSocks5.Associate.Peers

/-!
# What the relay's loops do

Each loop of the relay, `readFromSrc` and every `readFromDst`, is modelled with a
log of what it does that the network or the allocator sees. An entry also names
the buffer of the datagram whose fields the code reads to perform it: writing a
datagram's data, dialling its address, copying its destination into a flow,
encoding a reply. Buffers are numbered in the order `Alloc` returns them.

`FreedAfterUse` is the allocator's contract for one owner: every buffer it
allocates is freed exactly once, and nothing reads a buffer after it is freed.
A loop keeps it when each iteration appends one segment that allocates a fresh
buffer, uses it and frees it, or appends entries that touch no buffer.
-/

namespace GoSocks5

/-- What the UDP relay does that the network or the allocator sees. -/
inductive Effect where
  /-- `dial(ctx, "udp", addr)`, and the connection it returned, if any. -/
  | dial (addr : Bytes) (conn : Option Nat)
  /-- `go readFromDst(ctx, s, udpPeer, memCreater)`. -/
  | spawn (udpPeer : UdpPeer)
  /-- `udpPeer.dst.Write(data)`, and whether it succeeded. -/
  | write (conn : Nat) (data : Bytes) (ok : Bool)
  /-- `udpPeer.dst.Close()`, or `v.dst.Close()` in `CloseAll`. -/
  | close (conn : Nat)
  /-- `memCreater.Alloc`, numbered in the order of the calls. -/
  | alloc (buffer : Nat)
  /-- `datagram.toBytes(ctx, bs)` copying a reply into the send buffer, and its result. -/
  | encode (n : Int)
  /-- `udpPeer.udpServer.WriteToUDP(bytes, &udpPeer.from)`, and whether it succeeded. -/
  | sendTo (addr : UDPAddr) (bytes : Bytes) (ok : Bool)
  /-- `memCreater.Free(ctx, d.Rsv)`, which hands back the buffer `d.Rsv` begins. -/
  | free (buffer : Nat)
  deriving DecidableEq, Repr

/-- An entry of a loop's log: an effect, and the buffer of the datagram whose
fields the code reads to perform it, if any. -/
structure Event where
  reads : Option Nat
  effect : Effect
  deriving DecidableEq, Repr

/-- The buffer an effect allocates or frees. -/
def Effect.buffer : Effect → Option Nat
  | .alloc b | .free b => some b
  | _ => none

/-- The effects that read the datagram in buffer `b`, in order. -/
def effectsOf (log : List Event) (b : Nat) : List Effect :=
  (log.filter fun e => e.reads = some b).map Event.effect

/-- The writes among some effects: connection, data and outcome. -/
def writes (effects : List Effect) : List (Nat × Bytes × Bool) :=
  effects.filterMap fun
    | .write conn data ok => some (conn, data, ok)
    | _ => none

/-- Some effect is a dial that returned connection `c`. -/
def Dialled (effects : List Effect) (c : Nat) : Prop := ∃ addr, .dial addr (some c) ∈ effects

/-- How often a log closes connection `c`. -/
def closes (log : List Event) (c : Nat) : Nat := (log.map Event.effect).count (.close c)

/-- Every buffer allocated is freed exactly once, and no entry reads a buffer that
an earlier entry freed. -/
def FreedAfterUse (log : List Event) : Prop :=
  (∀ b, (log.map Event.effect).count (.free b) = (log.map Event.effect).count (.alloc b) ∧
    (log.map Event.effect).count (.alloc b) ≤ 1) ∧
  ∀ pre post, log = pre ++ post → ∀ b, .free b ∈ pre.map Event.effect →
    ∀ e ∈ post, e.reads ≠ some b

/-- Every buffer a log names is below `n`. -/
def Below (n : Nat) (log : List Event) : Prop :=
  ∀ e ∈ log, (∀ b, e.reads = some b → b < n) ∧ ∀ b, e.effect.buffer = some b → b < n

@[simp]
theorem effectsOf_append (log log' : List Event) (b : Nat) :
    effectsOf (log ++ log') b = effectsOf log b ++ effectsOf log' b := by
  simp [effectsOf]

@[simp]
theorem effectsOf_cons_none (effect : Effect) (log : List Event) (b : Nat) :
    effectsOf (⟨none, effect⟩ :: log) b = effectsOf log b := by
  simp [effectsOf]

@[simp]
theorem effectsOf_nil (b : Nat) : effectsOf [] b = [] := rfl

/-- The effects of a call tagged with its buffer. -/
@[simp]
theorem effectsOf_tagged (effects : List Effect) (n b : Nat) :
    effectsOf (effects.map fun effect => ⟨some n, effect⟩) b = if b = n then effects else [] := by
  by_cases same : b = n
  · subst same
    simp [effectsOf, List.filter_map, Function.comp_def]
  · simp [effectsOf, List.filter_map, Function.comp_def, same, Ne.symm same]

theorem effectsOf_of_untagged {log : List Event} (untagged : ∀ e ∈ log, e.reads = none)
    (b : Nat) : effectsOf log b = [] := by
  simp only [effectsOf, List.map_eq_nil_iff, List.filter_eq_nil_iff, decide_eq_true_eq]
  intro e mem
  simp [untagged e mem]

theorem effectsOf_of_below {log : List Event} {n : Nat} (below : Below n log) :
    effectsOf log n = [] := by
  simp only [effectsOf, List.map_eq_nil_iff, List.filter_eq_nil_iff, decide_eq_true_eq]
  exact fun e mem tagged => Nat.lt_irrefl n ((below e mem).1 n tagged)

theorem effectsOf_subset (log : List Event) (b : Nat) : effectsOf log b ⊆ log.map Event.effect :=
  List.map_subset _ (List.filter_subset' _)

theorem Dialled.mono {effects effects' : List Effect} {c : Nat} (dial : Dialled effects c)
    (subset : effects ⊆ effects') : Dialled effects' c :=
  let ⟨addr, mem⟩ := dial; ⟨addr, subset mem⟩

@[simp]
theorem dialled_append {effects effects' : List Effect} {c : Nat} :
    Dialled (effects ++ effects') c ↔ Dialled effects c ∨ Dialled effects' c := by
  simp [Dialled, exists_or]

@[simp]
theorem writes_cons_write (conn : Nat) (data : Bytes) (ok : Bool) (effects : List Effect) :
    writes (.write conn data ok :: effects) = (conn, data, ok) :: writes effects := rfl

@[simp]
theorem writes_cons_dial (addr : Bytes) (conn : Option Nat) (effects : List Effect) :
    writes (.dial addr conn :: effects) = writes effects := rfl

@[simp]
theorem writes_cons_spawn (udpPeer : UdpPeer) (effects : List Effect) :
    writes (.spawn udpPeer :: effects) = writes effects := rfl

@[simp]
theorem writes_cons_close (conn : Nat) (effects : List Effect) :
    writes (.close conn :: effects) = writes effects := rfl

@[simp]
theorem writes_nil : writes [] = [] := rfl

theorem mem_writes {effects : List Effect} {c : Nat} {data : Bytes} {ok : Bool} :
    (c, data, ok) ∈ writes effects ↔ .write c data ok ∈ effects := by
  simp only [writes, List.mem_filterMap]
  constructor
  · rintro ⟨effect, mem, found⟩
    cases effect <;> simp only [reduceCtorEq, Option.some.injEq, Prod.mk.injEq] at found
    obtain ⟨rfl, rfl, rfl⟩ := found
    exact mem
  · exact fun mem => ⟨_, mem, rfl⟩

@[simp]
theorem closes_append (log log' : List Event) (c : Nat) :
    closes (log ++ log') c = closes log c + closes log' c := by
  simp [closes]

theorem count_of_buffer_none {log : List Event} (untouched : ∀ e ∈ log, e.effect.buffer = none)
    {effect : Effect} (buffer : effect.buffer ≠ none) : (log.map Event.effect).count effect = 0 := by
  simp only [List.count_eq_zero, List.mem_map, not_exists, not_and]
  intro e mem same
  exact buffer (same ▸ untouched e mem)

namespace FreedAfterUse

theorem nil : FreedAfterUse [] := ⟨by simp, by simp⟩

/-- Entries that read and free no buffer keep the contract. -/
theorem append_quiet {log extra : List Event} (freed : FreedAfterUse log)
    (quiet : ∀ e ∈ extra, e.reads = none ∧ e.effect.buffer = none) :
    FreedAfterUse (log ++ extra) := by
  have untouched : ∀ e ∈ extra, e.effect.buffer = none := fun e mem => (quiet e mem).2
  refine ⟨fun b => ?_, fun pre post split b freedEarlier e mem => ?_⟩
  · simp only [List.map_append, List.count_append,
      count_of_buffer_none untouched (show (Effect.free b).buffer ≠ none by simp [Effect.buffer]),
      count_of_buffer_none untouched (show (Effect.alloc b).buffer ≠ none by simp [Effect.buffer]),
      Nat.add_zero]
    exact freed.1 b
  · rcases List.append_eq_append_iff.mp split.symm with ⟨rest, rfl, rfl⟩ | ⟨rest, rfl, rfl⟩
    · rcases List.mem_append.mp mem with inLog | inExtra
      · exact freed.2 pre rest rfl b freedEarlier e inLog
      · simp [(quiet e inExtra).1]
    · simp [(quiet e (List.mem_append_right _ mem)).1]

theorem below_append_quiet {log extra : List Event} {n : Nat} (below : Below n log)
    (quiet : ∀ e ∈ extra, e.reads = none ∧ e.effect.buffer = none) : Below n (log ++ extra) := by
  intro e mem
  rcases List.mem_append.mp mem with inLog | inExtra
  · exact below e inLog
  · simp [(quiet e inExtra).1, (quiet e inExtra).2]

section Segment

variable {log uses : List Event} {n : Nat}

/-- The one free of a segment is its last entry. -/
theorem free_last_of_segment
    (usesOk : ∀ e ∈ uses, (e.reads = none ∨ e.reads = some n) ∧ e.effect.buffer = none)
    {pre post : List Event} {b : Nat}
    (split : ⟨none, .alloc n⟩ :: uses ++ [⟨none, .free n⟩] = pre ++ post)
    (freedEarlier : .free b ∈ pre.map Event.effect) : post = [] := by
  have body : ∀ e ∈ (⟨none, .alloc n⟩ :: uses : List Event), e.effect ≠ .free b := by
    intro e mem same
    rcases List.mem_cons.mp mem with rfl | inUses
    · simp at same
    · simpa [same, Effect.buffer] using (usesOk e inUses).2
  obtain ⟨e, inPre, same⟩ := List.mem_map.mp freedEarlier
  rcases List.append_eq_append_iff.mp split with ⟨rest, rfl, lastEq⟩ | ⟨rest, bodyEq, -⟩
  · cases rest with
    | nil =>
      simp only [List.append_nil] at inPre
      exact absurd same (body e inPre)
    | cons x rest =>
      simp only [List.cons_append, List.cons.injEq] at lastEq
      exact (List.append_eq_nil.mp lastEq.2.symm).2
  · exact absurd same (body e (bodyEq ▸ List.mem_append_left _ inPre))

/-- A segment allocates and frees its fresh buffer once each, and leaves every other
buffer's counts as they were. -/
theorem count_append_segment (freed : FreedAfterUse log) (below : Below n log)
    (untouched : ∀ e ∈ uses, e.effect.buffer = none) (b : Nat) :
    let effects := (log ++ (⟨none, .alloc n⟩ :: uses ++ [⟨none, .free n⟩] : List Event)).map Event.effect
    effects.count (.free b) = effects.count (.alloc b) ∧ effects.count (.alloc b) ≤ 1 := by
  have fresh : ∀ effect : Effect, effect.buffer = some n → (log.map Event.effect).count effect = 0 := by
    intro effect named
    simp only [List.count_eq_zero, List.mem_map, not_exists, not_and]
    intro e mem same
    exact Nat.lt_irrefl n ((below e mem).2 n (same ▸ named))
  simp only [List.append_assoc, List.cons_append, List.map_append, List.map_cons,
    List.count_append, List.count_cons, List.map_nil, List.count_nil,
    count_of_buffer_none untouched (show (Effect.free b).buffer ≠ none by simp [Effect.buffer]),
    count_of_buffer_none untouched (show (Effect.alloc b).buffer ≠ none by simp [Effect.buffer])]
  by_cases same : b = n
  · subst same
    simp [fresh (.free b) rfl, fresh (.alloc b) rfl]
  · simpa [Ne.symm same] using freed.1 b

/-- Every entry of a segment reads nothing or the segment's own buffer. -/
theorem segment_tags
    (usesOk : ∀ e ∈ uses, (e.reads = none ∨ e.reads = some n) ∧ e.effect.buffer = none) :
    ∀ e ∈ (⟨none, .alloc n⟩ :: uses ++ [⟨none, .free n⟩] : List Event),
      e.reads = none ∨ e.reads = some n := by
  intro e mem
  simp only [List.cons_append, List.mem_cons, List.mem_append, List.mem_singleton,
    List.not_mem_nil, or_false] at mem
  rcases mem with rfl | inUses | rfl
  · exact .inl rfl
  · exact (usesOk e inUses).1
  · exact .inl rfl

/-- A buffer freed in a log below `n` is below `n`. -/
theorem lt_of_free_mem_prefix (below : Below n log) {pre : List Event} (atStart : pre <+: log)
    {b : Nat} (inPre : .free b ∈ pre.map Event.effect) : b < n := by
  obtain ⟨e, mem, same⟩ := List.mem_map.mp inPre
  exact (below e (atStart.subset mem)).2 b (by rw [same]; rfl)

/-- No entry of a segment reads a buffer freed before it, and nothing in the segment
follows its own free. -/
theorem unused_after_free_append_segment (freed : FreedAfterUse log) (below : Below n log)
    (usesOk : ∀ e ∈ uses, (e.reads = none ∨ e.reads = some n) ∧ e.effect.buffer = none)
    (pre post : List Event) (split : log ++ (⟨none, .alloc n⟩ :: uses ++ [⟨none, .free n⟩]) = pre ++ post)
    (b : Nat) (freedEarlier : .free b ∈ pre.map Event.effect) : ∀ e ∈ post, e.reads ≠ some b := by
  intro e mem
  rcases List.append_eq_append_iff.mp split.symm with ⟨rest, logEq, rfl⟩ | ⟨rest, rfl, segEq⟩
  case inl =>
    rcases List.mem_append.mp mem with inRest | inSegment
    · exact freed.2 pre rest logEq b freedEarlier e inRest
    · have lt := lt_of_free_mem_prefix below ⟨rest, logEq.symm⟩ freedEarlier
      rcases segment_tags usesOk e inSegment with tag | tag <;> simp [tag, (Nat.ne_of_lt lt).symm]
  case inr =>
    simp only [List.map_append, List.mem_append] at freedEarlier
    rcases freedEarlier with inLog | inRest
    · have lt := lt_of_free_mem_prefix below (List.prefix_refl log) inLog
      rcases segment_tags usesOk e (segEq ▸ List.mem_append_right _ mem) with tag | tag <;>
        simp [tag, (Nat.ne_of_lt lt).symm]
    · simp [free_last_of_segment usesOk segEq inRest] at mem

/-- A segment that allocates a fresh buffer, uses it and frees it keeps the contract. -/
theorem append_segment (freed : FreedAfterUse log) (below : Below n log)
    (usesOk : ∀ e ∈ uses, (e.reads = none ∨ e.reads = some n) ∧ e.effect.buffer = none) :
    FreedAfterUse (log ++ (⟨none, .alloc n⟩ :: uses ++ [⟨none, .free n⟩])) :=
  ⟨count_append_segment freed below fun e mem => (usesOk e mem).2,
    unused_after_free_append_segment freed below usesOk⟩

theorem below_append_segment (below : Below n log)
    (usesOk : ∀ e ∈ uses, (e.reads = none ∨ e.reads = some n) ∧ e.effect.buffer = none) :
    Below (n + 1) (log ++ (⟨none, .alloc n⟩ :: uses ++ [⟨none, .free n⟩])) := by
  intro e mem
  simp only [List.cons_append, List.mem_append, List.mem_cons, List.mem_singleton,
    List.not_mem_nil, or_false] at mem
  rcases mem with inLog | rfl | inUses | rfl
  · exact ⟨fun b tag => by have := (below e inLog).1 b tag; omega,
      fun b named => by have := (below e inLog).2 b named; omega⟩
  · simp [Effect.buffer]
  · rcases (usesOk e inUses).1 with tag | tag <;> simp [tag, (usesOk e inUses).2]
  · simp [Effect.buffer]

end Segment

end FreedAfterUse

end GoSocks5
