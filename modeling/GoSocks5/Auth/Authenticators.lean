import GoSocks5.Go.Io

/-!
# Authenticators

The two authenticators of `auth.go` and the credential store the second one asks.
`NoAuthAuthenticator` answers the method selection and accepts. The
`UserPassAuthenticator` answers it, reads the RFC 1929 sub-negotiation request

    +-----+------+----------+------+----------+
    | VER | ULEN |  UNAME   | PLEN |  PASSWD  |
    +-----+------+----------+------+----------+
    |  1  |  1   | 1 to 255 |  1   | 1 to 255 |
    +-----+------+----------+------+----------+

asks its `CredentialStore`, and answers with the status.

`Authenticate` returns a pointer and an error. `NoAuthAuthenticator` returns its
context together with the error of a failed write; the caller looks at the error
first, so the model returns the error alone. A Go `string` is a byte string, so
user names, passwords and payload values are `Bytes`.

The main result is the handshake of `UserPassAuthenticator` on every input: on a
complete request it answers with exactly what `Valid` says of the user name and
password it read, and leaves the reader behind the request; on every other input
it fails having written only the method selection.
-/

namespace GoSocks5

open Slice

/-- `socks5Version`. -/
def socks5Version : UInt8 := 5

/-- `NoAuth`, the "No Authentication" method. -/
def NoAuth : UInt8 := 0

/-- `noAcceptable`, the answer when no method is acceptable. -/
def noAcceptable : UInt8 := 255

/-- `UserPassAuth`, the "User/Password Authentication" method. -/
def UserPassAuth : UInt8 := 2

/-- `userAuthVersion`, the version of the sub-negotiation. -/
def userAuthVersion : UInt8 := 1

/-- `authSuccess`. -/
def authSuccess : UInt8 := 0

/-- `authFailure`. -/
def authFailure : UInt8 := 1

/-- `UserAuthFailed`. -/
def UserAuthFailed : Failure := .error "User authentication failed"

/-- `NoSupportedAuth`. -/
def NoSupportedAuth : Failure := .error "No supported authentication mechanism"

/-- `AuthContext`: the method used, and its `Payload` as key and value pairs. -/
structure AuthContext where
  method : UInt8
  payload : List (String × Bytes)
  deriving DecidableEq, Repr

/-- `Authenticator`: its `GetCode`, and its `Authenticate` on the connection. -/
structure Authenticator where
  getCode : UInt8
  authenticate : OnConn AuthContext

/-- `CredentialStore`: `Valid(user, password)`. -/
structure CredentialStore where
  valid : Bytes → Bytes → Bool

/-- `StaticCredentials`, a map from user names to passwords, each user once. -/
def StaticCredentials (s : List (Bytes × Bytes)) : CredentialStore where
  valid user password :=
    match s.lookup user with
    | none => false
    | some pass => password == pass

theorem staticCredentials_valid (s : List (Bytes × Bytes)) (user password : Bytes) :
    (StaticCredentials s).valid user password = true ↔ s.lookup user = some password := by
  simp only [StaticCredentials]
  split <;> rename_i found
  · simp [found]
  · simp only [found, beq_iff_eq, Option.some.injEq]
    exact eq_comm

/-- `NoAuthAuthenticator`. -/
structure NoAuthAuthenticator where

/-- `GetCode` of `NoAuthAuthenticator`. -/
def NoAuthAuthenticator.getCode (_ : NoAuthAuthenticator) : UInt8 := NoAuth

/-- `Authenticate` of `NoAuthAuthenticator`: select the method and accept. -/
def NoAuthAuthenticator.authenticate (_ : NoAuthAuthenticator) : OnConn AuthContext := do
  write [socks5Version, NoAuth]
  return { method := NoAuth, payload := [] }

/-- `NoAuthAuthenticator` as an `Authenticator`. -/
def NoAuthAuthenticator.toAuthenticator (a : NoAuthAuthenticator) : Authenticator :=
  ⟨a.getCode, a.authenticate⟩

/-- `UserPassAuthenticator`. -/
structure UserPassAuthenticator where
  credentials : CredentialStore

/-- `GetCode` of `UserPassAuthenticator`. -/
def UserPassAuthenticator.getCode (_ : UserPassAuthenticator) : UInt8 := UserPassAuth

/-- The reads of `UserPassAuthenticator.Authenticate`: the version and user name
length into the two-byte `header`, the user name, the password length into
`header[:1]`, and the password. -/
def readUserPass : OnConn (Bytes × Bytes) := do
  let header ← readAtLeast 2
  let version ← index header 0
  if version ≠ userAuthVersion then
    throw (.error ("Unsupported auth version: " ++ toString version))
  else
    let user ← readAtLeast (← index header 1).toNat
    let passLen ← read
    let pass ← readAtLeast passLen.toNat
    return (user, pass)

/-- `Authenticate` of `UserPassAuthenticator`: select the method, read the request,
and answer with what the credential store says. -/
def UserPassAuthenticator.authenticate (a : UserPassAuthenticator) : OnConn AuthContext := do
  write [socks5Version, UserPassAuth]
  let (user, pass) ← readUserPass
  if a.credentials.valid user pass then
    write [userAuthVersion, authSuccess]
    return { method := UserPassAuth, payload := [("Username", user)] }
  else
    write [userAuthVersion, authFailure]
    throw UserAuthFailed

/-- `UserPassAuthenticator` as an `Authenticator`. -/
def UserPassAuthenticator.toAuthenticator (a : UserPassAuthenticator) : Authenticator :=
  ⟨a.getCode, a.authenticate⟩

/-- On a complete request, `readUserPass` returns its user name and password and
leaves the reader behind it. -/
theorem readUserPass_request {ul pl : UInt8} {user pass : Bytes}
    (userLength : user.length = ul.toNat) (passLength : pass.length = pl.toNat)
    (rest : Bytes) (written : List Bytes) (replies : List (Option String)) :
    readUserPass.run ⟨1 :: ul :: (user ++ pl :: (pass ++ rest)), written, replies⟩ =
      (.ok (user, pass), ⟨rest, written, replies⟩) := by
  have header : (readAtLeast 2).run ⟨1 :: ul :: (user ++ pl :: (pass ++ rest)), written, replies⟩ =
      (.ok [1, ul], ⟨user ++ pl :: (pass ++ rest), written, replies⟩) :=
    @readAtLeast_append [1, ul] 2 rfl _ _ _
  simp [readUserPass, header, readAtLeast_append, userLength, passLength, userAuthVersion]

/-- `readUserPass` only reads. -/
theorem readsOnly_readUserPass : ReadsOnly readUserPass := by
  refine .bind (readsOnly_readAtLeast 2) fun header => .bind (.monadLift _) fun version => ?_
  split_ifs
  · exact .throw _
  · exact .bind (.monadLift _) fun _ => .bind (readsOnly_readAtLeast _) fun _ =>
      .bind readsOnly_read fun _ => .bind (readsOnly_readAtLeast _) fun _ => .pure _

/-- What `readUserPass` returns it read as a complete request. -/
theorem readUserPass_eq_ok {conn conn' : Conn} {user pass : Bytes}
    (ran : readUserPass.run conn = (.ok (user, pass), conn')) :
    ∃ ul pl : UInt8, user.length = ul.toNat ∧ pass.length = pl.toNat ∧
      conn.input = [1, ul] ++ user ++ [pl] ++ pass ++ conn'.input := by
  obtain ⟨header, conn₁, readHeader, ran⟩ := OnConn.run_bind_eq_ok ran
  obtain ⟨two, input₁⟩ := readAtLeast_eq_ok readHeader
  obtain ⟨version, ul, rfl⟩ := List.length_eq_two.mp two
  obtain ⟨_, _, versionAt, ran⟩ := OnConn.run_bind_eq_ok ran
  simp only [index_cons_zero, OnConn.run_monadLift, Prod.mk.injEq, Except.ok.injEq] at versionAt
  obtain ⟨rfl, rfl⟩ := versionAt
  split_ifs at ran with wrongVersion
  · simp at ran
  obtain ⟨_, _, ulAt, ran⟩ := OnConn.run_bind_eq_ok ran
  simp only [index_cons_succ, index_cons_zero, OnConn.run_monadLift, Prod.mk.injEq,
    Except.ok.injEq] at ulAt
  obtain ⟨rfl, rfl⟩ := ulAt
  obtain ⟨_, conn₃, readUser, ran⟩ := OnConn.run_bind_eq_ok ran
  obtain ⟨userLength, input₃⟩ := readAtLeast_eq_ok readUser
  obtain ⟨pl, conn₄, readPassLen, ran⟩ := OnConn.run_bind_eq_ok ran
  have input₄ := read_eq_ok readPassLen
  obtain ⟨_, conn₅, readPass, ran⟩ := OnConn.run_bind_eq_ok ran
  obtain ⟨passLength, input₅⟩ := readAtLeast_eq_ok readPass
  simp only [OnConn.run_pure, Prod.mk.injEq, Except.ok.injEq] at ran
  obtain ⟨⟨rfl, rfl⟩, rfl⟩ := ran
  simp only [not_not] at wrongVersion
  exact ⟨ul, pl, userLength, passLength, by simp [input₁, input₃, input₄, input₅, wrongVersion,
    userAuthVersion]⟩

/-- An accepting run of `UserPassAuthenticator` read a complete request whose user
name and password the credential store accepts, and returns that user name. -/
theorem UserPassAuthenticator.authenticate_eq_ok {credentials : CredentialStore}
    {conn conn' : Conn} {ctx : AuthContext}
    (ran : (UserPassAuthenticator.mk credentials).authenticate.run conn = (.ok ctx, conn')) :
    ∃ (ul pl : UInt8) (user pass : Bytes), user.length = ul.toNat ∧ pass.length = pl.toNat ∧
      conn.input = [1, ul] ++ user ++ [pl] ++ pass ++ conn'.input ∧
      credentials.valid user pass = true ∧ ctx = { method := 2, payload := [("Username", user)] } := by
  obtain ⟨_, conn₁, selected, ran⟩ := OnConn.run_bind_eq_ok ran
  obtain ⟨⟨user, pass⟩, conn₂, reads, ran⟩ := OnConn.run_bind_eq_ok ran
  obtain ⟨ul, pl, userLength, passLength, input₂⟩ := readUserPass_eq_ok reads
  dsimp only at ran
  by_cases valid : credentials.valid user pass = true
  · rw [if_pos valid] at ran
    obtain ⟨_, conn₃, answered, ran⟩ := OnConn.run_bind_eq_ok ran
    simp only [OnConn.run_pure, Prod.mk.injEq, Except.ok.injEq] at ran
    obtain ⟨rfl, rfl⟩ := ran
    refine ⟨ul, pl, user, pass, userLength, passLength, ?_, valid, rfl⟩
    rw [← write_input selected, input₂, write_input answered]
  · rw [if_neg valid] at ran
    obtain ⟨_, _, _, ran⟩ := OnConn.run_bind_eq_ok ran
    simp at ran

/-- The handshake of `UserPassAuthenticator`, over a connection that accepts every
write. On a complete request `[1, ul] ++ u ++ [pl] ++ p` it selects the method,
asks the credential store about exactly `u` and `p`, and either accepts with the
user name in the context and the reader behind the request, or rejects with
`UserAuthFailed`. On every other input it fails, having written only the method
selection. -/
theorem userPass_authenticate_handshake (credentials : CredentialStore) :
    (∀ (conn : Conn) (ul pl : UInt8) (u p rest : Bytes), (∀ r ∈ conn.replies, r = none) →
      u.length = ul.toNat → p.length = pl.toNat →
      (UserPassAuthenticator.mk credentials).authenticate.run
          { conn with input := [1, ul] ++ u ++ [pl] ++ p ++ rest } =
        if credentials.valid u p then
          (.ok { method := 2, payload := [("Username", u)] },
            { conn with input := rest, written := conn.written ++ [[5, 2], [1, 0]],
                        replies := conn.replies.drop 2 })
        else
          (.error UserAuthFailed,
            { conn with input := rest, written := conn.written ++ [[5, 2], [1, 1]],
                        replies := conn.replies.drop 2 })) ∧
    ∀ conn : Conn, (∀ r ∈ conn.replies, r = none) →
      (¬∃ (ul pl : UInt8) (u p rest : Bytes), u.length = ul.toNat ∧ p.length = pl.toNat ∧
          conn.input = [1, ul] ++ u ++ [pl] ++ p ++ rest) →
      ∃ e, ((UserPassAuthenticator.mk credentials).authenticate.run conn).1 = .error e ∧
        ((UserPassAuthenticator.mk credentials).authenticate.run conn).2.written =
          conn.written ++ [[5, 2]] := by
  refine ⟨fun conn ul pl u p rest accepts userLength passLength => ?_,
    fun conn accepts incomplete => ?_⟩
  · have accepts' : ∀ r ∈ conn.replies.tail, r = none :=
      fun r mem => accepts r (List.mem_of_mem_tail mem)
    have request : [1, ul] ++ u ++ [pl] ++ p ++ rest = 1 :: ul :: (u ++ pl :: (p ++ rest)) := by
      simp
    rw [request]
    simp only [UserPassAuthenticator.authenticate, OnConn.run_bind, write_accepted accepts]
    rw [readUserPass_request userLength passLength]
    split_ifs with valid
    · simp [write_accepted accepts', valid, UserPassAuth, socks5Version, userAuthVersion,
        authSuccess, List.drop_tail]
    · simp [write_accepted accepts', valid, UserPassAuth, socks5Version, userAuthVersion,
        authFailure, List.drop_tail]
  · obtain ⟨input, written, replies⟩ := conn
    simp only [UserPassAuthenticator.authenticate, OnConn.run_bind, write_accepted accepts]
    rcases reads : readUserPass.run ⟨input, written ++ [[socks5Version, UserPassAuth]],
      replies.drop 1⟩ with ⟨_ | ⟨user, pass⟩, conn'⟩
    · have unwritten := (readsOnly_readUserPass
        ⟨input, written ++ [[socks5Version, UserPassAuth]], replies.drop 1⟩).1
      rw [reads] at unwritten
      exact ⟨_, rfl, by simpa [socks5Version, UserPassAuth] using unwritten⟩
    · obtain ⟨ul, pl, userLength, passLength, inputEq⟩ := readUserPass_eq_ok reads
      exact absurd ⟨ul, pl, user, pass, conn'.input, userLength, passLength, inputEq⟩ incomplete

end GoSocks5
