import Mathlib.Data.List.Basic

/-!
# Go byte slices

The datagram code works on Go byte slices: it indexes them, re-slices them and
copies between them, and each of these operations panics when an index is out
of range. A slice is modelled by its bytes, `Bytes`, and each operation by a
function into `Except Failure`. The `panic` case is the Go run-time panic; the
`error` case is the non-nil `error` value a modelled function returns.

A slice's capacity is taken to be its length. The code re-slices past the
length of no slice, so the bound checks below are the ones Go performs, except
for a buffer that an allocator hands out with spare capacity, which the model
does not represent.
-/

namespace GoSocks5

/-- The bytes of a Go `[]byte` or `string`. -/
abbrev Bytes := List UInt8

/-- How a Go call ends other than by returning normally. -/
inductive Failure where
  /-- The call returned a non-nil `error` with this message. -/
  | error (message : String)
  /-- A run-time panic: an index or slice bound out of range. -/
  | panic
  deriving DecidableEq, Repr

/-- Results compare field by field, so that concrete runs can be decided. -/
instance decidableEqExcept {ε α : Type} [DecidableEq ε] [DecidableEq α] :
    DecidableEq (Except ε α)
  | .error a, .error b => decidable_of_iff (a = b) (by simp)
  | .ok a, .ok b => decidable_of_iff (a = b) (by simp)
  | .error _, .ok _ => isFalse (by simp)
  | .ok _, .error _ => isFalse (by simp)

namespace Except

variable {ε α β : Type}

@[simp]
theorem ok_bind (a : α) (f : α → Except ε β) : (.ok a >>= f : Except ε β) = f a := rfl

@[simp]
theorem error_bind (e : ε) (f : α → Except ε β) : (.error e >>= f : Except ε β) = .error e := rfl

@[simp]
theorem throw_eq (e : ε) : (throw e : Except ε α) = .error e := rfl

@[simp]
theorem pure_eq (a : α) : (pure a : Except ε α) = .ok a := rfl

@[simp]
theorem map_eq (f : α → β) (x : Except ε α) : f <$> x = x.map f := rfl

theorem bind_eq_ok {x : Except ε α} {f : α → Except ε β} {b : β} :
    x >>= f = .ok b ↔ ∃ a, x = .ok a ∧ f a = .ok b := by
  cases x <;> simp [bind, Except.bind]

/-- A guard `if c then throw e` succeeds, with what follows it, only when `c` fails
and what follows succeeds. -/
theorem ite_throw_eq_ok {c : Prop} [Decidable c] {e : ε} {k : PUnit → Except ε β} {b : β}
    (ran : (if c then (throw e : Except ε PUnit) >>= k else (pure PUnit.unit : Except ε PUnit) >>= k) =
      .ok b) : ¬c ∧ k PUnit.unit = .ok b := by
  by_cases holds : c
  · rw [if_pos holds] at ran
    cases ran
  · rw [if_neg holds] at ran
    exact ⟨holds, ran⟩

/-- A computation avoids an error when its first step does, and so does what follows
every result the first step returns. -/
theorem bind_ne_error {x : Except ε α} {f : α → Except ε β} {e : ε}
    (first : x ≠ .error e) (rest : ∀ a, x = .ok a → f a ≠ .error e) : x >>= f ≠ .error e := by
  cases x with
  | error e' => simpa using first
  | ok a => exact rest a rfl

end Except

namespace Slice

/-- `s[i]`, which panics unless `i < len(s)`. -/
def index (s : Bytes) (i : Nat) : Except Failure UInt8 :=
  if h : i < s.length then .ok s[i] else .error .panic

/-- `s[lo:hi]`, which panics unless `lo ≤ hi ≤ len(s)`; `s[lo:]` is `s[lo:len(s)]`. -/
def slice (s : Bytes) (lo hi : Nat) : Except Failure Bytes :=
  if lo ≤ hi ∧ hi ≤ s.length then .ok ((s.drop lo).take (hi - lo)) else .error .panic

/-- `copy(dst, src)`: `dst` after the call, with its first `min(len(dst), len(src))`
bytes taken from `src`. -/
def copy (dst src : Bytes) : Bytes :=
  src.take dst.length ++ dst.drop src.length

/-- `copy(buf[idx:], src)`, which panics unless `idx ≤ len(buf)`: `buf` after the call. -/
def copyAt (buf : Bytes) (idx : Nat) (src : Bytes) : Except Failure Bytes :=
  if idx ≤ buf.length then .ok (buf.take idx ++ copy (buf.drop idx) src) else .error .panic

/-- `buf[idx] = b`, which panics unless `idx < len(buf)`: `buf` after the assignment. -/
def setAt (buf : Bytes) (idx : Nat) (b : UInt8) : Except Failure Bytes :=
  if idx < buf.length then .ok (buf.set idx b) else .error .panic

@[simp]
theorem index_of_lt {s : Bytes} {i : Nat} (inBounds : i < s.length) :
    index s i = .ok s[i] := by
  simp [index, inBounds]

@[simp]
theorem index_cons_zero (b : UInt8) (s : Bytes) : index (b :: s) 0 = .ok b := by
  simp [index]

@[simp]
theorem index_cons_succ (b : UInt8) (s : Bytes) (i : Nat) :
    index (b :: s) (i + 1) = index s i := by
  simp [index]

theorem index_ne_error {s : Bytes} {i : Nat} {message : String} :
    index s i ≠ .error (.error message) := by
  unfold index; split <;> simp

theorem slice_of_le {s : Bytes} {lo hi : Nat} (ordered : lo ≤ hi) (inBounds : hi ≤ s.length) :
    slice s lo hi = .ok ((s.drop lo).take (hi - lo)) := by
  simp [slice, ordered, inBounds]

theorem exists_slice_of_le {s : Bytes} {lo hi : Nat} (ordered : lo ≤ hi)
    (inBounds : hi ≤ s.length) : ∃ t, slice s lo hi = .ok t ∧ t.length = hi - lo :=
  ⟨_, slice_of_le ordered inBounds, by simp; omega⟩

theorem slice_eq_ok_iff {s t : Bytes} {lo hi : Nat} :
    slice s lo hi = .ok t ↔ lo ≤ hi ∧ hi ≤ s.length ∧ t = (s.drop lo).take (hi - lo) := by
  unfold slice; split <;> simp_all [eq_comm]

theorem slice_ne_error {s : Bytes} {lo hi : Nat} {message : String} :
    slice s lo hi ≠ .error (.error message) := by
  unfold slice; split <;> simp

theorem length_slice {s t : Bytes} {lo hi : Nat} (sliced : slice s lo hi = .ok t) :
    t.length = hi - lo := by
  obtain ⟨ordered, inBounds, rfl⟩ := slice_eq_ok_iff.mp sliced
  simp only [List.length_take, List.length_drop]
  omega

/-- Slicing the bytes that follow a prefix of length `lo`. -/
theorem slice_append (pre s : Bytes) {k : Nat} (inBounds : k ≤ s.length) :
    slice (pre ++ s) pre.length (pre.length + k) = .ok (s.take k) := by
  rw [slice_of_le (by omega) (by simp; omega)]
  simp

@[simp]
theorem copy_of_length_eq {dst src : Bytes} (sameLength : dst.length = src.length) :
    copy dst src = src := by
  simp [copy, ← sameLength]

theorem copyAt_of_le {buf src : Bytes} {idx : Nat} (fits : idx + src.length ≤ buf.length) :
    copyAt buf idx src = .ok (buf.take idx ++ src ++ buf.drop (idx + src.length)) := by
  simp only [copyAt, show idx ≤ buf.length by omega, if_true, copy, List.length_drop,
    List.drop_drop]
  rw [List.take_of_length_le (show src.length ≤ buf.length - idx by omega), List.append_assoc]

/-- `copy(buf[idx:], src)` right after the bytes `pre` already written at the front of `buf`. -/
theorem copyAt_after {pre buf src : Bytes} {idx : Nat} (offset : idx = pre.length)
    (fits : idx + src.length ≤ buf.length) :
    copyAt (pre ++ buf.drop idx) idx src = .ok (pre ++ src ++ buf.drop (idx + src.length)) := by
  subst offset
  rw [copyAt_of_le (by simp; omega)]
  simp [List.drop_append_eq_append_drop]

theorem setAt_of_lt {buf : Bytes} {idx : Nat} {b : UInt8} (inBounds : idx < buf.length) :
    setAt buf idx b = .ok (buf.take idx ++ b :: buf.drop (idx + 1)) := by
  simp only [setAt, inBounds, if_true, List.set_eq_take_append_cons_drop]

/-- `buf[idx] = b` right after the bytes `pre` already written at the front of `buf`. -/
theorem setAt_after {pre buf : Bytes} {idx : Nat} {b : UInt8} (offset : idx = pre.length)
    (fits : idx < buf.length) :
    setAt (pre ++ buf.drop idx) idx b = .ok (pre ++ [b] ++ buf.drop (idx + 1)) := by
  subst offset
  rw [setAt_of_lt (by simp; omega)]
  simp [List.drop_append_eq_append_drop]

end Slice

end GoSocks5
