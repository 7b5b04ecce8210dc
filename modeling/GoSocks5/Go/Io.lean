import GoSocks5.Go.Slice

/-!
# A connection as the handshake sees it

The handshake code reads the client's bytes through a `bufio.Reader` and writes
its answers to the `net.Conn`. A `Conn` holds the bytes the client has sent that
the server has not read yet, the writes the server has made, and the answer the
connection gives to each next write: `none` accepts it, `some err` fails it with
`err`. A write is recorded whether or not it fails.

The model rests on one property of the reader: a `Read` returns at least one byte
while the client has bytes left, and `EOF` once it has none, as a `bufio.Reader`
over a `net.Conn` does. `io.ReadAtLeast` then reads exactly its minimum when the
client has that many bytes, and otherwise everything there is, with `EOF` when
there was nothing and `unexpected EOF` when there was something.

Code that reads and writes the connection is an `OnConn`: it returns a value or a
Go error and leaves the connection changed either way. Every later proof goes
through `OnConn.run` and the spec lemmas of the three primitives.
-/

namespace GoSocks5

/-- The client side of a connection: bytes not read yet, writes made, and the
answers to the next writes (an empty list accepts every write). -/
structure Conn where
  input : Bytes
  written : List Bytes
  replies : List (Option String)

/-- Code run against a connection, returning a value or a Go error. -/
abbrev OnConn := ExceptT Failure (StateM Conn)

namespace OnConn

variable {α β : Type}

/-- The result of `x` on `conn`, and the connection afterwards. -/
def run (x : OnConn α) (conn : Conn) : Except Failure α × Conn :=
  (ExceptT.run x).run conn

@[simp]
theorem run_pure (a : α) (conn : Conn) : (pure a : OnConn α).run conn = (.ok a, conn) := rfl

@[simp]
theorem run_throw (e : Failure) (conn : Conn) : (throw e : OnConn α).run conn = (.error e, conn) :=
  rfl

@[simp]
theorem run_get (conn : Conn) : (get : OnConn Conn).run conn = (.ok conn, conn) := rfl

@[simp]
theorem run_set (conn' conn : Conn) : (set conn' : OnConn PUnit).run conn = (.ok ⟨⟩, conn') := rfl

@[simp]
theorem run_monadLift (x : Except Failure α) (conn : Conn) :
    (monadLift x : OnConn α).run conn = (x, conn) := by
  cases x <;> rfl

@[simp]
theorem run_bind (x : OnConn α) (f : α → OnConn β) (conn : Conn) :
    (x >>= f).run conn = match x.run conn with
      | (.ok a, conn') => (f a).run conn'
      | (.error e, conn') => (.error e, conn') := by
  simp only [run, ExceptT.run, bind, ExceptT.bind, ExceptT.mk, StateT.bind, StateT.run]
  rcases x conn with ⟨_ | _, _⟩ <;> rfl

@[simp]
theorem run_map (f : α → β) (x : OnConn α) (conn : Conn) :
    (f <$> x).run conn = match x.run conn with
      | (.ok a, conn') => (.ok (f a), conn')
      | (.error e, conn') => (.error e, conn') := by
  simp only [run, Functor.map, ExceptT.map, ExceptT.run, ExceptT.mk, bind, StateT.bind, StateT.run]
  rcases x conn with ⟨_ | _, _⟩ <;> rfl

@[simp]
theorem run_tryCatch (x : OnConn α) (handle : Failure → OnConn α) (conn : Conn) :
    (tryCatch x handle).run conn = match x.run conn with
      | (.ok a, conn') => (.ok a, conn')
      | (.error e, conn') => (handle e).run conn' := by
  simp only [run, tryCatch, tryCatchThe, MonadExcept.tryCatch, MonadExceptOf.tryCatch,
    ExceptT.tryCatch, ExceptT.run, ExceptT.mk, bind, StateT.bind, StateT.run]
  rcases x conn with ⟨_ | _, _⟩ <;> rfl

/-- A run that returns a value ran its first part to a value, and the rest from
where the first part left the connection. -/
theorem run_bind_eq_ok {x : OnConn α} {f : α → OnConn β} {conn conn'' : Conn} {b : β}
    (ran : (x >>= f).run conn = (.ok b, conn'')) :
    ∃ a conn', x.run conn = (.ok a, conn') ∧ (f a).run conn' = (.ok b, conn'') := by
  rw [run_bind] at ran
  rcases first : x.run conn with ⟨_ | a, conn'⟩ <;> simp only [first] at ran
  · simp at ran
  · exact ⟨a, conn', rfl, ran⟩

/-- A mapped run that returns a value ran to a value it maps there. -/
theorem run_map_eq_ok {f : α → β} {x : OnConn α} {conn conn' : Conn} {b : β}
    (ran : (f <$> x).run conn = (.ok b, conn')) :
    ∃ a, x.run conn = (.ok a, conn') ∧ f a = b := by
  rw [run_map] at ran
  rcases first : x.run conn with ⟨_ | a, conn''⟩ <;> simp only [first] at ran
  · simp at ran
  · simp only [Prod.mk.injEq, Except.ok.injEq] at ran
    exact ⟨a, by rw [ran.2], ran.1⟩

end OnConn

/-- `io.EOF`. -/
def EOF : Failure := .error "EOF"

/-- `io.ErrUnexpectedEOF`. -/
def ErrUnexpectedEOF : Failure := .error "unexpected EOF"

/-- `r.Read(b)` with `len(b) = 1`: the next byte, or `EOF` when there is none. -/
def read : OnConn UInt8 := do
  let conn ← get
  match conn.input with
  | [] => throw EOF
  | b :: rest =>
    set { conn with input := rest }
    return b

/-- `io.ReadAtLeast(r, buf, min)` into a new buffer of `min` bytes: the buffer, or
the error that stopped it after it read all there was. -/
def readAtLeast (min : Nat) : OnConn Bytes := do
  let conn ← get
  if min ≤ conn.input.length then
    set { conn with input := conn.input.drop min }
    return conn.input.take min
  else
    set { conn with input := [] }
    throw (if conn.input = [] then EOF else ErrUnexpectedEOF)

/-- `w.Write(b)`: recorded, then failed or accepted by the connection's next answer. -/
def write (b : Bytes) : OnConn Unit := do
  let conn ← get
  set { conn with written := conn.written ++ [b], replies := conn.replies.drop 1 }
  match conn.replies.head? with
  | some (some err) => throw (.error err)
  | _ => return ()

@[simp]
theorem read_cons (b : UInt8) (rest : Bytes) (written : List Bytes)
    (replies : List (Option String)) :
    read.run ⟨b :: rest, written, replies⟩ = (.ok b, ⟨rest, written, replies⟩) := rfl

@[simp]
theorem read_nil (written : List Bytes) (replies : List (Option String)) :
    read.run ⟨[], written, replies⟩ = (.error EOF, ⟨[], written, replies⟩) := rfl

/-- When the client has sent at least the minimum, `ReadAtLeast` reads exactly the
minimum. -/
theorem readAtLeast_of_le {input : Bytes} {min : Nat} (enough : min ≤ input.length)
    (written : List Bytes) (replies : List (Option String)) :
    (readAtLeast min).run ⟨input, written, replies⟩ =
      (.ok (input.take min), ⟨input.drop min, written, replies⟩) := by
  simp [readAtLeast, enough]

/-- On a client that sent `b` and then `rest`, `ReadAtLeast` with minimum `|b|`
reads `b`. -/
theorem readAtLeast_append {b : Bytes} {min : Nat} (length : b.length = min) (rest : Bytes)
    (written : List Bytes) (replies : List (Option String)) :
    (readAtLeast min).run ⟨b ++ rest, written, replies⟩ = (.ok b, ⟨rest, written, replies⟩) := by
  subst length
  simpa using readAtLeast_of_le (List.sublist_append_left b rest).length_le
    written replies

/-- When the client has fewer bytes than the minimum, `ReadAtLeast` reads them all
and fails. -/
theorem readAtLeast_of_lt {input : Bytes} {min : Nat} (short : input.length < min)
    (written : List Bytes) (replies : List (Option String)) :
    (readAtLeast min).run ⟨input, written, replies⟩ =
      (.error (if input = [] then EOF else ErrUnexpectedEOF), ⟨[], written, replies⟩) := by
  simp [readAtLeast, Nat.not_le.mpr short]

/-- A `Read` that returns a byte took it from the front of the input. -/
theorem read_eq_ok {conn conn' : Conn} {b : UInt8} (ran : read.run conn = (.ok b, conn')) :
    conn.input = b :: conn'.input := by
  obtain ⟨_ | ⟨b', rest⟩, written, replies⟩ := conn
  · simp at ran
  · simp only [read_cons, Prod.mk.injEq, Except.ok.injEq] at ran
    obtain ⟨rfl, rfl⟩ := ran
    rfl

/-- A `ReadAtLeast` that succeeds took its minimum from the front of the input. -/
theorem readAtLeast_eq_ok {conn conn' : Conn} {min : Nat} {b : Bytes}
    (ran : (readAtLeast min).run conn = (.ok b, conn')) :
    b.length = min ∧ conn.input = b ++ conn'.input := by
  obtain ⟨input, written, replies⟩ := conn
  by_cases short : input.length < min
  · simp [readAtLeast_of_lt short] at ran
  simp only [readAtLeast_of_le (Nat.not_lt.mp short), Prod.mk.injEq, Except.ok.injEq] at ran
  obtain ⟨rfl, rfl⟩ := ran
  exact ⟨by simp; omega, (List.take_append_drop _ _).symm⟩

/-- Code that reads the connection and never writes it: whatever its result, the
writes made and the answers left are as before. -/
def ReadsOnly {α : Type} (x : OnConn α) : Prop :=
  ∀ conn, (x.run conn).2.written = conn.written ∧ (x.run conn).2.replies = conn.replies

namespace ReadsOnly

variable {α β : Type}

theorem pure (a : α) : ReadsOnly (Pure.pure a : OnConn α) := fun _ => ⟨rfl, rfl⟩

theorem throw (e : Failure) : ReadsOnly (MonadExcept.throw e : OnConn α) := fun _ => ⟨rfl, rfl⟩

theorem monadLift (x : Except Failure α) : ReadsOnly (MonadLift.monadLift x : OnConn α) :=
  fun _ => by cases x <;> exact ⟨rfl, rfl⟩

theorem bind {x : OnConn α} {f : α → OnConn β} (first : ReadsOnly x)
    (rest : ∀ a, ReadsOnly (f a)) : ReadsOnly (x >>= f) := fun conn => by
  have ⟨written, replies⟩ := first conn
  rw [OnConn.run_bind]
  rcases ran : x.run conn with ⟨_ | a, conn'⟩ <;> rw [ran] at written replies
  · exact ⟨written, replies⟩
  · exact ⟨(rest a conn').1.trans written, (rest a conn').2.trans replies⟩

theorem map (f : α → β) {x : OnConn α} (reads : ReadsOnly x) : ReadsOnly (f <$> x) :=
  fun conn => by
    have ⟨written, replies⟩ := reads conn
    rw [OnConn.run_map]
    rcases ran : x.run conn with ⟨_ | a, conn'⟩ <;> rw [ran] at written replies <;>
      exact ⟨written, replies⟩

end ReadsOnly

theorem readsOnly_read : ReadsOnly read := fun ⟨input, _, _⟩ => by
  cases input <;> exact ⟨rfl, rfl⟩

theorem readsOnly_readAtLeast (min : Nat) : ReadsOnly (readAtLeast min) := fun ⟨input, _, _⟩ => by
  by_cases short : input.length < min
  · simp [readAtLeast_of_lt short]
  · simp [readAtLeast_of_le (Nat.not_lt.mp short)]

/-- A write is recorded, and the connection's next answer decides its result. -/
theorem write_eq (b input : Bytes) (written : List Bytes) (replies : List (Option String)) :
    (write b).run ⟨input, written, replies⟩ =
      (match replies.head? with
        | some (some err) => .error (.error err)
        | _ => .ok (),
       ⟨input, written ++ [b], replies.drop 1⟩) := by
  simp only [write, OnConn.run_bind, OnConn.run_get, OnConn.run_set]
  split <;> rfl

/-- A write leaves the input as it was, whatever its result. -/
theorem write_input {b : Bytes} {conn conn' : Conn} {r : Except Failure Unit}
    (ran : (write b).run conn = (r, conn')) : conn'.input = conn.input := by
  rw [write_eq, Prod.mk.injEq] at ran
  rw [← ran.2]

/-- A connection that accepts every write accepts the next one. -/
theorem write_accepted {replies : List (Option String)} (accepts : ∀ r ∈ replies, r = none)
    (b input : Bytes) (written : List Bytes) :
    (write b).run ⟨input, written, replies⟩ = (.ok (), ⟨input, written ++ [b], replies.drop 1⟩) := by
  rw [write_eq]
  cases replies with
  | nil => rfl
  | cons r replies => simp [accepts r (by simp)]

end GoSocks5
