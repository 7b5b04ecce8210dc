import GoSocks5.Go.ParseIP
import GoSocks5.Auth.Negotiate

/-!
# Serving a connection

`ServeConn` checks the client's IP against the server's allowlist, reads the SOCKS
version, runs the method negotiation, reads the request and hands it to
`handleRequest`. The IP it checks is not the connection's own value: it prints the
remote address with `(*net.TCPAddr).String`, splits off the port with
`net.SplitHostPort` and parses the host back with `net.ParseIP`.

`NewRequest`, `sendReply` and `handleRequest` are in `request.go`, which the sources
do not include. `RequestLayer` holds them, and every result here holds for every
request layer. The allowlist function is the one `New` sets, which allows every IP,
or the one `SetIPAllowlist` sets. It is an argument of `serveConn` rather than a
field of `Server`, whose model holds what the negotiation reads. The log lines and
the deferred `Close` are left out: neither changes what the client reads or what
`ServeConn` returns.

The main results are about the allowlist. A client whose address has no zone is
served exactly when its IP is `IP.Equal` to an allowed one, and then as the default
server serves it; a refused client has nothing read and nothing written. A client
whose address has a zone is refused by every allowlist without a nil entry, since
`ParseIP` does not parse a zone.

`handleRequest`, in `request.go`, asks the server's `RuleSet` whether to serve a
request's command, and `New` installs `PermitAll()` when the configuration has
none. `PermitCommand` is the rule set of `ruleset.go`.

The first version of `socks5.go` has no allowlist, and starts the texts of its errors
with capitals. `SameEffects` compares two computations on what the client sees and
on their success: the same reads and writes, the same value, whatever they throw.
-/

namespace GoSocks5

/-- A `net.TCPAddr`: its IP, port and IPv6 zone. -/
structure TCPAddr where
  ip : Bytes
  port : Nat
  zone : Bytes
  deriving DecidableEq, Repr

/-- `(*net.TCPAddr).String`, whose code is that of `(*net.UDPAddr).String`. -/
def TCPAddr.string (a : TCPAddr) : Bytes := (UDPAddr.mk a.ip a.port a.zone).string

/-- The allowlist function `New` sets: every IP is allowed. -/
def allowAll : Bytes → Bool := fun _ => true

/-- The allowlist function `SetIPAllowlist(allowedIPs)` sets. -/
def ipAllowlist (allowedIPs : List Bytes) : Bytes → Bool :=
  fun ip => allowedIPs.any fun allowedIP => ipEqual ip allowedIP

/-- `fmt.Errorf(context + "%v", err)` of the error `x` returns; a panic goes through. -/
def wrapError {α : Type} (context : String) (x : OnConn α) : OnConn α :=
  tryCatch x fun
    | .error err => throw (.error (context ++ err))
    | .panic => throw .panic

/-- What `ServeConn` uses of `request.go`: `NewRequest(bufConn)`, the test
`err == errUnrecognizedAddrType` on an error's text, `sendReply(conn,
addrTypeNotSupported, nil)`, and `handleRequest`, which gets the request with the
`AuthContext` and the remote IP and port that `ServeConn` sets in it. -/
structure RequestLayer (Request : Type) where
  newRequest : OnConn Request
  unrecognizedAddrType : String → Bool
  sendAddrTypeNotSupported : OnConn Unit
  handleRequest : Request → AuthContext → Bytes → Nat → OnConn Unit

/-- The error of a client the allowlist refuses. -/
def notAllowed : Failure := .error "connection from not allowed IP address"

/-- The texts `ServeConn` puts before the errors it returns after the version byte.
The two versions of `socks5.go` differ in them. -/
structure ServeConnTexts where
  unsupportedVersion : String
  failedToAuthenticate : String
  failedToSendReply : String
  failedToReadDestination : String
  failedToHandleRequest : String

variable {Request : Type}

/-- `ServeConn` after the version byte: the negotiation, the request and its
handling. -/
def serveRequest (texts : ServeConnTexts) (s : Server) (remote : TCPAddr)
    (layer : RequestLayer Request) : OnConn Unit := do
  let authContext ← wrapError texts.failedToAuthenticate s.authenticate
  let request ← tryCatch layer.newRequest fun
    | .error err => do
      if layer.unrecognizedAddrType err then
        wrapError texts.failedToSendReply layer.sendAddrTypeNotSupported
      throw (.error (texts.failedToReadDestination ++ err))
    | .panic => throw .panic
  wrapError texts.failedToHandleRequest
    (layer.handleRequest request authContext remote.ip remote.port)

/-- `ServeConn` from the version byte on. -/
def serveSteps (texts : ServeConnTexts) (s : Server) (remote : TCPAddr)
    (layer : RequestLayer Request) : OnConn Unit := do
  let version ← read
  if version ≠ socks5Version then
    throw (.error (texts.unsupportedVersion ++ toString [version]))
  serveRequest texts s remote layer

/-- The texts of the `ServeConn` that has the allowlist. -/
def allowlistTexts : ServeConnTexts :=
  ⟨"unsupported SOCKS version: ", "failed to authenticate: ", "failed to send reply: ",
    "failed to read destination address: ", "failed to handle request: "⟩

/-- `ServeConn` after the allowlist check. -/
def serveAllowed (s : Server) (remote : TCPAddr) (layer : RequestLayer Request) : OnConn Unit :=
  serveSteps allowlistTexts s remote layer

/-- `ServeConn`: the host of the remote address's text, parsed by `ParseIP`, must be
allowed. -/
def serveConn (s : Server) (isIPAllowed : Bytes → Bool) (remote : TCPAddr)
    (layer : RequestLayer Request) : OnConn Unit := do
  let (clientIP, _) ← monadLift (splitHostPort remote.string)
  if isIPAllowed (parseIP clientIP) then serveAllowed s remote layer
  else throw notAllowed

namespace PreAllowlist

/-- The texts of the first version's `ServeConn`, capitalised. -/
def texts : ServeConnTexts :=
  ⟨"Unsupported SOCKS version: ", "Failed to authenticate: ", "Failed to send reply: ",
    "Failed to read destination address: ", "Failed to handle request: "⟩

/-- `ServeConn` of the first version of `socks5.go`, which has no allowlist. -/
def serveConn (s : Server) (remote : TCPAddr) (layer : RequestLayer Request) : OnConn Unit :=
  serveSteps texts s remote layer

end PreAllowlist

section Check

variable (s : Server) (remote : TCPAddr) (layer : RequestLayer Request) (conn : Conn)

/-- Once `SplitHostPort` has split the remote address's text, `ServeConn` serves the
client or refuses it with nothing read or written, by the IP `ParseIP` reads from the
host. -/
theorem serveConn_of_split (isIPAllowed : Bytes → Bool) {host port : Bytes}
    (split : splitHostPort remote.string = .ok (host, port)) :
    (serveConn s isIPAllowed remote layer).run conn =
      if isIPAllowed (parseIP host) then (serveAllowed s remote layer).run conn
      else (.error notAllowed, conn) := by
  simp only [serveConn, OnConn.run_bind, OnConn.run_monadLift, split]
  split <;> rfl

/-- For a client with no zone, `ServeConn` checks the 16-byte form of its IP. -/
theorem serveConn_of_noZone (isIPAllowed : Bytes → Bool)
    (sized : remote.ip.length = 4 ∨ remote.ip.length = 16) (noZone : remote.zone = []) :
    (serveConn s isIPAllowed remote layer).run conn =
      if isIPAllowed (to16 remote.ip) then (serveAllowed s remote layer).run conn
      else (.error notAllowed, conn) := by
  rw [serveConn_of_split s remote layer conn isIPAllowed (splitHostPort_string sized noZone),
    parseIP_ipString sized]

theorem ipAllowlist_to16 (allowedIPs : List Bytes) {ip : Bytes}
    (sized : ip.length = 4 ∨ ip.length = 16) :
    ipAllowlist allowedIPs (to16 ip) = allowedIPs.any (ipEqual ip) := by
  simp only [ipAllowlist, ipEqual_to16 sized]

/-- With `SetIPAllowlist`, a client whose address has no zone is served exactly when
its IP is `IP.Equal` to an allowed one, and then as the server `New` made serves it;
otherwise it is refused with nothing read or written. -/
theorem serveConn_ipAllowlist (allowedIPs : List Bytes)
    (sized : remote.ip.length = 4 ∨ remote.ip.length = 16) (noZone : remote.zone = []) :
    (serveConn s (ipAllowlist allowedIPs) remote layer).run conn =
      if allowedIPs.any (ipEqual remote.ip) then (serveConn s allowAll remote layer).run conn
      else (.error notAllowed, conn) := by
  rw [serveConn_of_noZone s remote layer conn _ sized noZone,
    serveConn_of_noZone s remote layer conn _ sized noZone, ipAllowlist_to16 _ sized]
  rfl

/-- The IPv4 client 10.0.0.1 is served as by the default server when the allowlist
holds its 16-byte form. -/
theorem allowlist_admits_mapped_form :
    let remote : TCPAddr := ⟨[10, 0, 0, 1], 5000, []⟩
    let layer : RequestLayer Unit := ⟨pure (), fun _ => false, pure (), fun _ _ _ _ => pure ()⟩
    let allowedIPs := [IP.v4InV6Prefix ++ [10, 0, 0, 1]]
    (remote.ip.length = 4 ∨ remote.ip.length = 16) ∧ remote.zone = [] ∧
      allowedIPs.any (ipEqual remote.ip) = true ∧
      (serveConn (new ⟨[], none⟩) (ipAllowlist allowedIPs) remote layer).run ⟨[], [], []⟩ =
        if allowedIPs.any (ipEqual remote.ip) then
          (serveConn (new ⟨[], none⟩) allowAll remote layer).run ⟨[], [], []⟩
        else (.error notAllowed, ⟨[], [], []⟩) :=
  ⟨.inl rfl, rfl, by decide, serveConn_ipAllowlist _ _ _ _ _ (.inl rfl) rfl⟩

/-- With `SetIPAllowlist` and no nil entry, a client whose address has a zone is
refused with nothing read or written, by the allowlist or by `SplitHostPort`. -/
theorem serveConn_refuses_zone {allowedIPs : List Bytes} (noNil : [] ∉ allowedIPs)
    (sized : remote.ip.length = 4 ∨ remote.ip.length = 16) (zoned : remote.zone ≠ []) :
    ∃ err, (serveConn s (ipAllowlist allowedIPs) remote layer).run conn = (.error err, conn) := by
  rcases split : splitHostPort remote.string with err | ⟨host, port⟩
  · exact ⟨err, by simp [serveConn, split]⟩
  · have refused : ipAllowlist allowedIPs (parseIP host) = false := by
      rw [parseIP_of_percent (percent_mem_of_splitHostPort (a := ⟨remote.ip, remote.port,
        remote.zone⟩) sized zoned split)]
      simpa [ipAllowlist, ipEqual_nil] using fun x mem (nil : x = []) => noNil (nil ▸ mem)
    rw [serveConn_of_split s remote layer conn _ split, refused]
    exact ⟨notAllowed, rfl⟩

/-- The link-local client fe80::1 on the interface eth0 is refused by the allowlist of
fe80::1. -/
theorem allowlist_refuses_link_local_zone :
    let ip : Bytes := [0xfe, 0x80, 0, 0, 0, 0, 0, 0, 0, 0, 0, 0, 0, 0, 0, 1]
    let remote : TCPAddr := ⟨ip, 5000, ascii "eth0"⟩
    let layer : RequestLayer Unit := ⟨pure (), fun _ => false, pure (), fun _ _ _ _ => pure ()⟩
    [] ∉ [ip] ∧ (remote.ip.length = 4 ∨ remote.ip.length = 16) ∧ remote.zone ≠ [] ∧
      ∃ err, (serveConn (new ⟨[], none⟩) (ipAllowlist [ip]) remote layer).run ⟨[5], [], []⟩ =
        (.error err, ⟨[5], [], []⟩) :=
  ⟨by decide, .inr rfl, by decide, serveConn_refuses_zone _ _ _ _ (by decide) (.inr rfl) (by decide)⟩

end Check

/-- `ConnectCommand`, declared in `request.go`; the code of RFC 1928. -/
def ConnectCommand : UInt8 := 1

/-- `BindCommand`, declared in `request.go`; the code of RFC 1928. -/
def BindCommand : UInt8 := 2

/-- `AssociateCommand`, declared in `request.go`; the code of RFC 1928. -/
def AssociateCommand : UInt8 := 3

/-- `PermitCommand`: which commands are allowed. -/
structure PermitCommand where
  enableConnect : Bool
  enableBind : Bool
  enableAssociate : Bool
  deriving DecidableEq, Repr

/-- `PermitAll()`. -/
def permitAll : PermitCommand := ⟨true, true, true⟩

/-- `PermitNone()`. -/
def permitNone : PermitCommand := ⟨false, false, false⟩

/-- `(*PermitCommand).Allow` on a request's command; the context is returned as it
came. -/
def PermitCommand.allow (p : PermitCommand) (command : UInt8) : Bool :=
  if command = ConnectCommand then p.enableConnect
  else if command = BindCommand then p.enableBind
  else if command = AssociateCommand then p.enableAssociate
  else false

/-- A rule set allows a command exactly when it is one of the three and enabled. -/
theorem PermitCommand.allow_eq_true (p : PermitCommand) (command : UInt8) :
    p.allow command = true ↔ (command = ConnectCommand ∧ p.enableConnect = true) ∨
      (command = BindCommand ∧ p.enableBind = true) ∨
      (command = AssociateCommand ∧ p.enableAssociate = true) := by
  unfold PermitCommand.allow
  split_ifs with connect bind associate <;>
    simp_all [ConnectCommand, BindCommand, AssociateCommand]

example : permitAll.allow AssociateCommand = true ∧ permitNone.allow ConnectCommand = false := by
  decide

/-- Two computations that read and write the connection alike and return the same
values, whatever errors they throw. -/
def SameEffects {α : Type} (x y : OnConn α) : Prop :=
  ∀ conn, (x.run conn).2 = (y.run conn).2 ∧ ∀ a, (x.run conn).1 = .ok a ↔ (y.run conn).1 = .ok a

namespace SameEffects

variable {α β : Type}

theorem refl (x : OnConn α) : SameEffects x x := fun _ => ⟨rfl, fun _ => .rfl⟩

theorem throw (e e' : Failure) : SameEffects (MonadExcept.throw e : OnConn α) (MonadExcept.throw e') :=
  fun _ => ⟨rfl, fun _ => by simp⟩

theorem bind {x y : OnConn α} {f g : α → OnConn β} (first : SameEffects x y)
    (rest : ∀ a, SameEffects (f a) (g a)) : SameEffects (x >>= f) (y >>= g) := fun conn => by
  obtain ⟨state, results⟩ := first conn
  rw [OnConn.run_bind, OnConn.run_bind]
  rcases ranX : x.run conn with ⟨_ | a, conn'⟩ <;> rcases ranY : y.run conn with ⟨_ | b, conn''⟩ <;>
    rw [ranX, ranY] at state results <;> dsimp only at state ⊢
  · exact ⟨state, fun _ => by simp⟩
  · exact absurd ((results b).mpr rfl) (by simp)
  · exact absurd ((results a).mp rfl) (by simp)
  · obtain rfl := Except.ok.inj ((results a).mp rfl)
    subst state
    exact rest _ _

theorem ite {c : Prop} [Decidable c] {x x' y y' : OnConn α} (yes : SameEffects x x')
    (no : SameEffects y y') : SameEffects (if c then x else y) (if c then x' else y') := by
  split
  · exact yes
  · exact no

theorem tryCatch {x : OnConn α} {handle handle' : Failure → OnConn α}
    (handlers : ∀ e, SameEffects (handle e) (handle' e)) :
    SameEffects (tryCatch x handle) (tryCatch x handle') := fun conn => by
  rw [OnConn.run_tryCatch, OnConn.run_tryCatch]
  rcases x.run conn with ⟨_ | a, conn'⟩
  · exact handlers _ conn'
  · exact ⟨rfl, fun _ => .rfl⟩

theorem wrapError (context context' : String) (x : OnConn α) :
    SameEffects (GoSocks5.wrapError context x) (GoSocks5.wrapError context' x) :=
  tryCatch fun e => by cases e <;> exact throw _ _

end SameEffects

theorem serveRequest_sameEffects (texts texts' : ServeConnTexts) (s : Server) (remote : TCPAddr)
    (layer : RequestLayer Request) :
    SameEffects (serveRequest texts s remote layer) (serveRequest texts' s remote layer) :=
  .bind (.wrapError _ _ _) fun _ => .bind (.tryCatch fun e => by
    cases e with
    | error err =>
      exact .ite (.bind (.wrapError _ _ _) fun _ => .throw _ _) (.bind (.refl _) fun _ => .throw _ _)
    | panic => exact .refl _) fun _ => .wrapError _ _ _

/-- `ServeConn` from the version byte on does the same with any texts. -/
theorem serveSteps_sameEffects (texts texts' : ServeConnTexts) (s : Server) (remote : TCPAddr)
    (layer : RequestLayer Request) :
    SameEffects (serveSteps texts s remote layer) (serveSteps texts' s remote layer) :=
  have rest := fun _ : PUnit => serveRequest_sameEffects texts texts' s remote layer
  .bind (.refl _) fun _ => .ite (.bind (.throw _ _) rest) (.bind (.refl _) rest)

/-- With the allowlist `New` sets, the second version's `ServeConn` serves every client
with a 4- or 16-byte IP and no zone as the first version did: the same reads, the
same writes and the same success; only the texts of its own errors changed. -/
theorem serveConn_allowAll_as_before (s : Server) {remote : TCPAddr}
    (sized : remote.ip.length = 4 ∨ remote.ip.length = 16) (noZone : remote.zone = [])
    (layer : RequestLayer Request) (conn : Conn) :
    ((serveConn s allowAll remote layer).run conn).2 =
        ((PreAllowlist.serveConn s remote layer).run conn).2 ∧
      (((serveConn s allowAll remote layer).run conn).1 = .ok () ↔
        ((PreAllowlist.serveConn s remote layer).run conn).1 = .ok ()) := by
  rw [serveConn_of_noZone s remote layer conn _ sized noZone,
    if_pos (show allowAll (to16 remote.ip) = true from rfl)]
  exact ⟨(serveSteps_sameEffects _ _ s remote layer conn).1,
    (serveSteps_sameEffects _ _ s remote layer conn).2 ()⟩

/-- A client at 10.0.0.1 that sends the SOCKS4 version byte meets the same reads and
writes from both versions. -/
theorem default_server_as_before_on_socks4 :
    let remote : TCPAddr := ⟨[10, 0, 0, 1], 5000, []⟩
    let layer : RequestLayer Unit := ⟨pure (), fun _ => false, pure (), fun _ _ _ _ => pure ()⟩
    (remote.ip.length = 4 ∨ remote.ip.length = 16) ∧ remote.zone = [] ∧
      ((serveConn (new ⟨[], none⟩) allowAll remote layer).run ⟨[4], [], []⟩).2 =
        ((PreAllowlist.serveConn (new ⟨[], none⟩) remote layer).run ⟨[4], [], []⟩).2 ∧
      (((serveConn (new ⟨[], none⟩) allowAll remote layer).run ⟨[4], [], []⟩).1 = .ok () ↔
        ((PreAllowlist.serveConn (new ⟨[], none⟩) remote layer).run ⟨[4], [], []⟩).1 = .ok ()) :=
  ⟨.inl rfl, rfl, serveConn_allowAll_as_before _ (by decide) (by rfl) _ _⟩

end GoSocks5
