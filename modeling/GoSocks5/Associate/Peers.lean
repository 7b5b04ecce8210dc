import Mathlib.Data.List.Nodup
import GoSocks5.Datagram.Encode

/-!
# The flow table

`UdpAssociate` maps a flow's key, `from.String() + "-" + datagram.Address()`, to the
`UdpPeer` that owns the flow's outbound connection. A Go map holds each key at
most once, so the model's association list carries that as a field, and `Set`,
`Get`, `Del` and `CloseAll` are the map operations of `associate.go`.

Outbound connections are named by the dial that opened them: the `n`-th
successful dial of an association returns connection `n`. Each dial opens a new
socket, so no two dials return the same connection.

`CloseAll` closes the connection of every entry; the order in which Go ranges
over a map is unspecified, and the model keeps only which connections it closes
and how often.
-/

namespace GoSocks5

/-- `UdpPeer`: a flow's client address, its outbound connection, and the destination
fields replies carry. A connection is named by the number of connections dialled
before it. `updateTime`, `udpServer` and `req` are read by nothing the model covers. -/
structure UdpPeer where
  fromAddr : UDPAddr
  dst : Nat
  atyp : UInt8
  dstAddr : Bytes
  dstPort : Bytes
  deriving DecidableEq, Repr

/-- `UdpAssociate`: the flows of one association by key, each key at most once. -/
structure UdpAssociate where
  m : List (Bytes × UdpPeer)
  nodup : (m.map Prod.fst).Nodup

namespace UdpAssociate

/-- Two tables are equal when their entries are. -/
theorem ext {a b : UdpAssociate} (same : a.m = b.m) : a = b := by
  cases a
  cases b
  cases same
  rfl

instance : DecidableEq UdpAssociate := fun a b =>
  decidable_of_iff (a.m = b.m) ⟨ext, fun same => same ▸ rfl⟩

/-- `NewUdpAssociate`. -/
def empty : UdpAssociate := ⟨[], List.nodup_nil⟩

/-- `Get`. -/
def get (ua : UdpAssociate) (key : Bytes) : Option UdpPeer :=
  (ua.m.find? fun entry => entry.1 = key).map Prod.snd

/-- `Del`. -/
def del (ua : UdpAssociate) (key : Bytes) : UdpAssociate :=
  ⟨ua.m.filter fun entry => entry.1 ≠ key,
    ua.nodup.sublist ((List.filter_sublist _).map Prod.fst)⟩

/-- `Set`: the entry for `key` replaced, or added. -/
def set (ua : UdpAssociate) (key : Bytes) (u : UdpPeer) : UdpAssociate :=
  ⟨(key, u) :: (ua.del key).m, by
    refine List.nodup_cons.mpr ⟨?_, (ua.del key).nodup⟩
    simp [del]⟩

/-- `CloseAll`: the connections it closes, one for each entry. -/
def closeAll (ua : UdpAssociate) : List Nat := ua.m.map fun entry => entry.2.dst

@[simp]
theorem get_empty (key : Bytes) : empty.get key = none := rfl

theorem get_eq_some_iff {ua : UdpAssociate} {key : Bytes} {u : UdpPeer} :
    ua.get key = some u ↔ (key, u) ∈ ua.m := by
  simp only [get, Option.map_eq_some']
  constructor
  · rintro ⟨⟨k, v⟩, found, rfl⟩
    obtain rfl : k = key := by simpa using List.find?_some found
    exact List.mem_of_find?_eq_some found
  · intro mem
    have present : (ua.m.find? fun entry => entry.1 = key).isSome :=
      List.find?_isSome.mpr ⟨_, mem, by simp⟩
    obtain ⟨entry, found⟩ := Option.isSome_iff_exists.mp present
    have sameKey : entry.1 = key := by simpa using List.find?_some found
    exact ⟨entry, found, by
      rw [List.inj_on_of_nodup_map ua.nodup (List.mem_of_find?_eq_some found) mem sameKey]⟩

@[simp]
theorem get_del (ua : UdpAssociate) (key k : Bytes) :
    (ua.del key).get k = if k = key then none else ua.get k := by
  apply Option.ext
  intro u
  simp only [Option.mem_def, get_eq_some_iff, del, List.mem_filter]
  split <;> simp_all [get_eq_some_iff]

@[simp]
theorem get_set (ua : UdpAssociate) (key k : Bytes) (u : UdpPeer) :
    (ua.set key u).get k = if k = key then some u else ua.get k := by
  apply Option.ext
  intro v
  simp only [Option.mem_def, get_eq_some_iff, set, List.mem_cons, Prod.mk.injEq, del,
    List.mem_filter]
  split <;> simp_all [get_eq_some_iff, @eq_comm _ v]

/-- `CloseAll` closes a connection once for each entry that holds it. -/
theorem count_closeAll (ua : UdpAssociate) (c : Nat) :
    ua.closeAll.count c = ua.m.countP fun entry => entry.2.dst = c := by
  rw [closeAll, List.count_eq_countP, List.countP_map]
  rfl

/-- `Del` of an absent key changes nothing. -/
theorem del_m_of_get_none {ua : UdpAssociate} {key : Bytes} (absent : ua.get key = none) :
    (ua.del key).m = ua.m := by
  refine List.filter_eq_self.mpr fun ⟨k, v⟩ mem => ?_
  have other : k ≠ key := by
    rintro rfl
    simp [get_eq_some_iff.mpr mem] at absent
  simpa using other

/-- A present entry and the rest of the table. -/
theorem perm_del {ua : UdpAssociate} {key : Bytes} {u : UdpPeer} (present : ua.get key = some u) :
    ua.m.Perm ((key, u) :: (ua.del key).m) := by
  have mem := get_eq_some_iff.mp present
  clear present
  obtain ⟨m, nodup⟩ := ua
  simp only [del] at mem ⊢
  induction m with
  | nil => simp at mem
  | cons entry m ih =>
    simp only [List.map_cons, List.nodup_cons, List.mem_map, not_exists, not_and] at nodup
    rcases List.mem_cons.mp mem with rfl | inRest
    · rw [List.filter_cons_of_neg (by simp),
        List.filter_eq_self.mpr fun e inM => by simpa using nodup.1 e inM]
    · have other : entry.1 ≠ key := fun same => nodup.1 _ inRest same.symm
      rw [List.filter_cons_of_pos (by simpa using other)]
      exact ((ih nodup.2 inRest).cons entry).trans (List.Perm.swap _ _ _)

/-- `Set` of an absent key adds one entry to what `CloseAll` closes. -/
theorem count_closeAll_set {ua : UdpAssociate} {key : Bytes} (absent : ua.get key = none)
    (u : UdpPeer) (c : Nat) :
    (ua.set key u).closeAll.count c = ua.closeAll.count c + if u.dst = c then 1 else 0 := by
  simp [count_closeAll, set, del_m_of_get_none absent, List.countP_cons]

/-- `Del` of a present key removes its entry from what `CloseAll` closes. -/
theorem count_closeAll_del {ua : UdpAssociate} {key : Bytes} {u : UdpPeer}
    (present : ua.get key = some u) (c : Nat) :
    ua.closeAll.count c = (ua.del key).closeAll.count c + if u.dst = c then 1 else 0 := by
  rw [count_closeAll, count_closeAll, (perm_del present).countP_eq, List.countP_cons]
  simp

end UdpAssociate

end GoSocks5
