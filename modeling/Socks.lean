import Socks.Session
import Socks.Datagram.Packet
import Socks.Settings
import Socks.Proofs.IPv4Literals
import Socks.Proofs.IPv6Literals
import Socks.Proofs.AddressCodec
import Socks.Proofs.StreamReading
import Socks.Proofs.FrameReading
import Socks.Proofs.MessageFrames
import Socks.Proofs.MessageRoundTrip
import Socks.Proofs.SessionDelivery
import Socks.Proofs.ReadDemand
import Socks.Proofs.FrameRefusals
import Socks.Proofs.StreamAlignment
import Socks.Proofs.ExchangeGrammar
import Socks.Proofs.PacketCodec
import Socks.Proofs.DatagramPaths
import Socks.Proofs.Truncation
import Socks.Proofs.SinkWriting
import Socks.Proofs.RejectionLog
import Socks.Proofs.CredentialGrammar
import Socks.Proofs.PasswordSecrecy
import Socks.Proofs.PayloadBoundary
import Socks.Proofs.FailureReporting
import Socks.Proofs.AddressWriting
import Socks.Proofs.Endpoints
import Socks.Proofs.HostSpelling
import Socks.Proofs.MessageLayout
import Socks.Proofs.OfferGrammar
import Socks.Proofs.ReadingLog
import Socks.Proofs.DisplayTexts
import Socks.Proofs.AddressLength
import Socks.Proofs.PhasedReading
import Socks.Proofs.PlainBuffers
import Socks.Proofs.BufferAccess
