import GoSocks5.Auth.Authenticators

/-!
# Method negotiation

`New` makes sure a server has an authenticator, by default the user and password
one when credentials are configured and no authentication otherwise, and maps
each code to the last configured authenticator with that code.
`Server.authenticate` reads the methods the client offers and runs the
authenticator of the first one in the map; when there is none it answers that no
method is acceptable.

Of `Config` and `Server` the model keeps the fields the negotiation reads. The
resolver, rule set, logger and the other defaults `New` sets are read by no code
the model covers.

The main result is the negotiation on every client: on an offer `[n] ++ M` it
reads exactly the offer and hands the reader behind it to the authenticator of the
first byte of `M` that is a configured code, or answers `[5, 0xFF]`; on a client
that ends inside the offer it writes nothing and fails.
-/

namespace GoSocks5

/-- The fields of `Config` the negotiation reads. -/
structure Config where
  authMethods : List Authenticator
  credentials : Option CredentialStore

/-- The fields of `Server` the negotiation reads: its configuration and the map
`authMethods`. -/
structure Server where
  config : Config
  authMethods : UInt8 → Option Authenticator

/-- `server.authMethods[a.GetCode()] = a`. -/
def registerAuthMethod (authMethods : UInt8 → Option Authenticator) (a : Authenticator) :
    UInt8 → Option Authenticator :=
  fun code => if code = a.getCode then some a else authMethods code

/-- `New`: a default authenticator when none is configured, then the map from codes
to authenticators. -/
def new (conf : Config) : Server :=
  let conf :=
    if conf.authMethods.length = 0 then
      match conf.credentials with
      | some credentials =>
        { conf with authMethods := [(UserPassAuthenticator.mk credentials).toAuthenticator] }
      | none => { conf with authMethods := [NoAuthAuthenticator.mk.toAuthenticator] }
    else conf
  { config := conf, authMethods := conf.authMethods.foldl registerAuthMethod fun _ => none }

/-- `readMethods`: the number of methods, then the methods. -/
def readMethods : OnConn Bytes := do
  let numMethods ← read
  readAtLeast numMethods.toNat

/-- `noAcceptableAuth`: answer that no method is acceptable, whatever the write does. -/
def noAcceptableAuth : OnConn Failure := do
  tryCatch (write [socks5Version, noAcceptable]) fun _ => pure ()
  return NoSupportedAuth

/-- `Server.authenticate`: the client's methods, then the authenticator of the first
one the server has. -/
def Server.authenticate (s : Server) : OnConn AuthContext := do
  let methods ← tryCatch readMethods fun
    | .error err => throw (.error ("Failed to get auth methods: " ++ err))
    | .panic => throw .panic
  match methods.findSome? s.authMethods with
  | some cator => cator.authenticate
  | none => throw (← noAcceptableAuth)

/-- Registering a list of authenticators maps each code to the last of them with
that code. -/
theorem foldl_registerAuthMethod (authenticators : List Authenticator) (code : UInt8) :
    authenticators.foldl registerAuthMethod (fun _ => none) code =
      (authenticators.filter (·.getCode == code)).getLast? := by
  induction authenticators using List.reverseRecOn with
  | nil => rfl
  | append_singleton authenticators a ih =>
    rw [List.foldl_append, List.foldl_cons, List.foldl_nil, List.filter_append]
    by_cases same : code = a.getCode
    · simp [registerAuthMethod, same]
    · simp [registerAuthMethod, same, ih, Ne.symm same]

/-- `New` maps each code to the last authenticator of its configuration with that
code. -/
theorem authMethods_new (conf : Config) (code : UInt8) :
    (new conf).authMethods code =
      ((new conf).config.authMethods.filter (·.getCode == code)).getLast? :=
  foldl_registerAuthMethod _ code

/-- A code is in the map of `New` exactly when an authenticator of its configuration
has it. -/
theorem isSome_authMethods_new (conf : Config) (code : UInt8) :
    ((new conf).authMethods code).isSome = (new conf).config.authMethods.any (·.getCode == code) := by
  rw [authMethods_new, Bool.eq_iff_iff, List.getLast?_isSome, ne_eq, List.filter_eq_nil_iff,
    List.any_eq_true]
  simp

/-- The first found value is the value of the first element that has one. -/
theorem findSome?_eq_find?_bind {α β : Type} (f : α → Option β) (l : List α) :
    l.findSome? f = (l.find? fun a => (f a).isSome).bind f := by
  induction l with
  | nil => rfl
  | cons a l ih =>
    cases found : f a with
    | none => simp [List.findSome?_cons, List.find?_cons, found, ih]
    | some b => simp [List.findSome?_cons, List.find?_cons, found]

theorem readMethods_offer {n : UInt8} {methods : Bytes} (counted : methods.length = n.toNat)
    (rest : Bytes) (written : List Bytes) (replies : List (Option String)) :
    readMethods.run ⟨n :: (methods ++ rest), written, replies⟩ =
      (.ok methods, ⟨rest, written, replies⟩) := by
  simp [readMethods, readAtLeast_append counted]

/-- `noAcceptableAuth` writes `[5, 0xFF]` on every connection, whatever the answer. -/
theorem noAcceptableAuth_eq (input : Bytes) (written : List Bytes)
    (replies : List (Option String)) :
    noAcceptableAuth.run ⟨input, written, replies⟩ =
      (.ok NoSupportedAuth, ⟨input, written ++ [[5, 0xFF]], replies.drop 1⟩) := by
  rcases replies with _ | ⟨_ | _, _⟩ <;> rfl

/-- On a complete offer, `authenticate` reads exactly the offer, then runs the
authenticator of the first method the server has or answers that none is
acceptable. -/
theorem authenticate_offer (s : Server) {n : UInt8} {methods : Bytes}
    (counted : methods.length = n.toNat) (rest : Bytes) (written : List Bytes)
    (replies : List (Option String)) :
    s.authenticate.run ⟨n :: (methods ++ rest), written, replies⟩ =
      match methods.findSome? s.authMethods with
      | some cator => cator.authenticate.run ⟨rest, written, replies⟩
      | none => (.error NoSupportedAuth, ⟨rest, written ++ [[5, 0xFF]], replies.drop 1⟩) := by
  simp only [Server.authenticate, OnConn.run_bind, OnConn.run_tryCatch,
    readMethods_offer counted]
  split <;> simp [noAcceptableAuth_eq]

/-- The negotiation of a server `New` makes, on every client. On an offer
`[n] ++ M` with `|M| = n` it consumes exactly the offer. When a byte of `M` is the
code of a configured authenticator, it runs, on the reader behind the offer, the
last configured authenticator with the first such code and returns what that
returns. Otherwise it writes exactly `[5, 0xFF]` and fails with `NoSupportedAuth`.
On a client that ends inside the offer it writes nothing and fails. -/
theorem authenticate_runs_first_registered (conf : Config) :
    let server := new conf
    let registered := fun code : UInt8 => server.config.authMethods.any (·.getCode == code)
    (∀ (conn : Conn) (n : UInt8) (M rest : Bytes), M.length = n.toNat →
      (∀ m, M.find? registered = some m →
        ∃ cator, (server.config.authMethods.filter (·.getCode == m)).getLast? = some cator ∧
          server.authenticate.run { conn with input := [n] ++ M ++ rest } =
            cator.authenticate.run { conn with input := rest }) ∧
      (M.find? registered = none →
        server.authenticate.run { conn with input := [n] ++ M ++ rest } =
          (.error NoSupportedAuth,
            { conn with input := rest, written := conn.written ++ [[5, 0xFF]],
                        replies := conn.replies.drop 1 }))) ∧
    ∀ conn : Conn, (conn.input = [] ∨ ∃ n M, conn.input = n :: M ∧ M.length < n.toNat) →
      ∃ e, server.authenticate.run conn = (.error e, { conn with input := [] }) := by
  dsimp only
  have firstFound : ∀ M : Bytes, M.findSome? (new conf).authMethods =
      (M.find? fun code => (new conf).config.authMethods.any (·.getCode == code)).bind
        fun m => ((new conf).config.authMethods.filter (·.getCode == m)).getLast? := fun M => by
    rw [findSome?_eq_find?_bind]
    simp only [isSome_authMethods_new]
    rw [show (new conf).authMethods = _ from funext (authMethods_new conf)]
  refine ⟨fun conn n M rest counted => ⟨fun m first => ?_, fun none => ?_⟩,
    fun ⟨input, written, replies⟩ truncated => ?_⟩
  · have found : ((new conf).authMethods m).isSome := by
      rw [isSome_authMethods_new]
      simpa using List.find?_some first
    obtain ⟨cator, found⟩ := Option.isSome_iff_exists.mp found
    refine ⟨cator, by rwa [← authMethods_new], ?_⟩
    rw [show [n] ++ M ++ rest = n :: (M ++ rest) by simp, authenticate_offer _ counted,
      firstFound, first, Option.some_bind, ← authMethods_new, found]
  · rw [show [n] ++ M ++ rest = n :: (M ++ rest) by simp, authenticate_offer _ counted,
      firstFound, none]
    rfl
  · rcases truncated with rfl | ⟨n, M, rfl, short⟩
    · exact ⟨_, rfl⟩
    · by_cases empty : M = []
      · subst empty
        simp [Server.authenticate, readMethods, readAtLeast_of_lt short, EOF]
      · simp [Server.authenticate, readMethods, readAtLeast_of_lt short, empty, ErrUnexpectedEOF]

/-- What `readMethods` returns is a complete offer from the front of the input. -/
theorem readMethods_eq_ok {conn conn' : Conn} {methods : Bytes}
    (ran : readMethods.run conn = (.ok methods, conn')) :
    ∃ n : UInt8, methods.length = n.toNat ∧ conn.input = n :: (methods ++ conn'.input) := by
  obtain ⟨n, conn₁, counted, ran⟩ := OnConn.run_bind_eq_ok ran
  obtain ⟨length, input₁⟩ := readAtLeast_eq_ok ran
  exact ⟨n, length, by rw [read_eq_ok counted, input₁]⟩

/-- An accepting negotiation read an offer and ran, from where the offer ends, the
authenticator of the first offered method the server has, which accepted. -/
theorem Server.authenticate_eq_ok {s : Server} {conn conn' : Conn} {ctx : AuthContext}
    (ran : s.authenticate.run conn = (.ok ctx, conn')) :
    ∃ (methods : Bytes) (conn₁ : Conn) (cator : Authenticator),
      readMethods.run conn = (.ok methods, conn₁) ∧ methods.findSome? s.authMethods = some cator ∧
      cator.authenticate.run conn₁ = (.ok ctx, conn') := by
  obtain ⟨methods', conn₁', offered, ran⟩ := OnConn.run_bind_eq_ok ran
  rw [OnConn.run_tryCatch] at offered
  rcases reads : readMethods.run conn with ⟨failure | methods, conn₁⟩ <;> rw [reads] at offered
  · cases failure <;> simp at offered
  simp only [Prod.mk.injEq, Except.ok.injEq] at offered
  obtain ⟨rfl, rfl⟩ := offered
  cases found : methods.findSome? s.authMethods with
  | some cator => exact ⟨methods, conn₁, cator, rfl, found, by rwa [found] at ran⟩
  | none =>
    rw [found] at ran
    obtain ⟨_, _, _, ran⟩ := OnConn.run_bind_eq_ok ran
    simp at ran

/-- A server configured with credentials and no authenticator accepts a client only
after an offer that includes the user and password method, followed by a complete
request whose user name and password the credential store accepts. The context it
returns names that user. -/
theorem authenticate_ok_requires_credentials (store : CredentialStore) (conn conn' : Conn)
    (ctx : AuthContext) :
    (new ⟨[], some store⟩).authenticate.run conn = (.ok ctx, conn') →
    ∃ (n : UInt8) (M : Bytes) (ul pl : UInt8) (u p : Bytes),
      M.length = n.toNat ∧ UserPassAuth ∈ M ∧ u.length = ul.toNat ∧ p.length = pl.toNat ∧
      conn.input = [n] ++ M ++ [1, ul] ++ u ++ [pl] ++ p ++ conn'.input ∧
      store.valid u p = true ∧ ctx = { method := 2, payload := [("Username", u)] } := by
  intro ran
  obtain ⟨M, conn₁, cator, offered, found, ran⟩ := Server.authenticate_eq_ok ran
  obtain ⟨n, counted, input₁⟩ := readMethods_eq_ok offered
  obtain ⟨m, offeredM, mapped⟩ := List.exists_of_findSome?_eq_some found
  change (if m = UserPassAuth then some (UserPassAuthenticator.mk store).toAuthenticator
    else none) = some cator at mapped
  split_ifs at mapped with userPass
  cases mapped
  obtain ⟨ul, pl, u, p, userLength, passLength, input, valid, rfl⟩ :=
    UserPassAuthenticator.authenticate_eq_ok ran
  exact ⟨n, M, ul, pl, u, p, counted, userPass ▸ offeredM, userLength, passLength,
    by simp [input₁, input], valid, rfl⟩

/-- A client that offers only the user and password method and logs in as a user the
store accepts is accepted as that user. -/
theorem credentials_server_accepts_valid_login :
    let store : CredentialStore := ⟨fun u p => u == [7] && p == [9]⟩
    let conn : Conn := ⟨[1, 2, 1, 1, 7, 1, 9], [], []⟩
    let conn' : Conn := ⟨[], [[5, 2], [1, 0]], []⟩
    let ctx : AuthContext := { method := 2, payload := [("Username", [7])] }
    (new ⟨[], some store⟩).authenticate.run conn = (.ok ctx, conn') ∧
    ∃ (n : UInt8) (M : Bytes) (ul pl : UInt8) (u p : Bytes),
      M.length = n.toNat ∧ UserPassAuth ∈ M ∧ u.length = ul.toNat ∧ p.length = pl.toNat ∧
      conn.input = [n] ++ M ++ [1, ul] ++ u ++ [pl] ++ p ++ conn'.input ∧
      store.valid u p = true ∧ ctx = { method := 2, payload := [("Username", u)] } :=
  ⟨rfl, authenticate_ok_requires_credentials _ _ _ _ rfl⟩

end GoSocks5
