import GoSocks5.Go.Slice
import GoSocks5.Go.Net
import GoSocks5.Datagram.Basic
import GoSocks5.Datagram.Frame
import GoSocks5.Datagram.Encode
import GoSocks5.Datagram.RoundTrip
import GoSocks5.Datagram.Grammar
import GoSocks5.ClientDatagram
import GoSocks5.Associate.Peers
import GoSocks5.Associate.Log
import GoSocks5.Associate.HandleDatagram
import GoSocks5.Associate.ReadFromSrc
import GoSocks5.Associate.ReadFromDst
import GoSocks5.Associate.Session
import GoSocks5.Associate.Safety
import GoSocks5.Go.Io
import GoSocks5.Auth.Authenticators
import GoSocks5.Auth.Negotiate
import GoSocks5.Go.ParseIP
import GoSocks5.ServeConn
import GoSocks5.Associate.Isolation
import GoSocks5.BindAddress
import GoSocks5.Associate.Replies
import GoSocks5.Associate.Connections
