import NtsTimeServer.Lib.Run
import NtsTimeServer.Lib.Always
import NtsTimeServer.Lib.Bytes
import NtsTimeServer.Lib.BaseEncoding
import NtsTimeServer.Lib.BinaryPolynomial
import NtsTimeServer.Lib.S2v
import NtsTimeServer.Lib.CString
import NtsTimeServer.Lib.Interaction
import NtsTimeServer.Lib.Durable
import NtsTimeServer.Lib.KeyStore
import NtsTimeServer.Lib.Labels
import NtsTimeServer.Lib.Eras
import NtsTimeServer.Lib.Extremes
import NtsTimeServer.Lib.Memory
import NtsTimeServer.Lib.OnesComplement
import NtsTimeServer.Lib.Records
import NtsTimeServer.Lib.Rounding
import NtsTimeServer.Lib.Scan
import NtsTimeServer.Lib.Servo
import NtsTimeServer.Lib.SyntheticIv
import NtsTimeServer.Lib.Tlv
import NtsTimeServer.Lib.TokenBucket
import NtsTimeServer.Lib.Transducer
import NtsTimeServer.Lib.WordProgram
import NtsTimeServer.Model.Types
import NtsTimeServer.Model.Clock
import NtsTimeServer.Model.ClockSystem
import NtsTimeServer.Model.Pps
import NtsTimeServer.Model.TimerSystem
import NtsTimeServer.Model.Gnss
import NtsTimeServer.Model.Ubx
import NtsTimeServer.Model.GnssStream
import NtsTimeServer.Model.Monitor
import NtsTimeServer.Model.EthFrame
import NtsTimeServer.Model.RxQueue
import NtsTimeServer.Model.PtpCorrelation
import NtsTimeServer.Model.AesSiv
import NtsTimeServer.Model.Keyring
import NtsTimeServer.Model.Cookie
import NtsTimeServer.Model.CookieSystem
import NtsTimeServer.Model.DeviceConfig
import NtsTimeServer.Model.TrueTime
import NtsTimeServer.Model.NtpAuth
import NtsTimeServer.Model.NtpPacket
import NtsTimeServer.Model.RateLimit
import NtsTimeServer.Model.NtpServer
import NtsTimeServer.Model.NtsExchange
import NtsTimeServer.Model.NtsKe
import NtsTimeServer.Model.Base64url
import NtsTimeServer.Model.CertStore
import NtsTimeServer.Model.IssuanceCalls
import NtsTimeServer.Model.AcmeRequest
import NtsTimeServer.Model.AcmeOrder
import NtsTimeServer.Model.Cloudflare
import NtsTimeServer.Model.CertTransaction
import NtsTimeServer.Model.LateStamp
import NtsTimeServer.Model.FrameWalk
import NtsTimeServer.Model.PeerMonitor
import NtsTimeServer.Model.RenewalScheduler
import NtsTimeServer.Model.SquareRoot
import NtsTimeServer.Proof.ClockSteps
import NtsTimeServer.Proof.DeviceConfig
import NtsTimeServer.Proof.ConfigReboot
import NtsTimeServer.Proof.ConfigAtomic
import NtsTimeServer.Proof.RenewalCooldown
import NtsTimeServer.Proof.RenewalPublish
import NtsTimeServer.Proof.ServedTime
import NtsTimeServer.Proof.Holdover
import NtsTimeServer.Proof.ExactClock
import NtsTimeServer.Proof.SampleStep
import NtsTimeServer.Proof.HealthyClock
import NtsTimeServer.Proof.ReferenceTime
import NtsTimeServer.Proof.Dispersion
import NtsTimeServer.Proof.Lock
import NtsTimeServer.Proof.Reacquisition
import NtsTimeServer.Proof.Pairing
import NtsTimeServer.Proof.RxTimestamp
import NtsTimeServer.Proof.RxQueueOrder
import NtsTimeServer.Proof.AesSiv
import NtsTimeServer.Proof.S2v
import NtsTimeServer.Proof.Hostname
import NtsTimeServer.Proof.Base64url
import NtsTimeServer.Proof.CertStore
import NtsTimeServer.Proof.CertReplacement
import NtsTimeServer.Proof.CertRetirement
import NtsTimeServer.Proof.Csr
import NtsTimeServer.Proof.Authorization
import NtsTimeServer.Proof.Keyring
import NtsTimeServer.Proof.KeyringHistory
import NtsTimeServer.Proof.Cookie
import NtsTimeServer.Proof.CookieRetention
import NtsTimeServer.Proof.CookieRace
import NtsTimeServer.Proof.CookieLifetime
import NtsTimeServer.Proof.Rollover
import NtsTimeServer.Proof.AuthVerify
import NtsTimeServer.Proof.AuthProtect
import NtsTimeServer.Proof.AuthResponse
import NtsTimeServer.Proof.NtpServer
import NtsTimeServer.Proof.ReceiveTransmit
import NtsTimeServer.Proof.RateTable
import NtsTimeServer.Proof.RateLimit
import NtsTimeServer.Proof.ClientTable
import NtsTimeServer.Proof.LateStamp
import NtsTimeServer.Proof.LateStampAuth
import NtsTimeServer.Proof.FrameWalk
import NtsTimeServer.Proof.CookieRoundTrip
import NtsTimeServer.Proof.NtsExchange
import NtsTimeServer.Proof.NtsKeReading
import NtsTimeServer.Proof.NtsKeRequest
import NtsTimeServer.Proof.NtsKeResponse
import NtsTimeServer.Proof.TimerWrap
import NtsTimeServer.Proof.PeerSockets
import NtsTimeServer.Proof.PeerResponse
import NtsTimeServer.Proof.Ubx
import NtsTimeServer.Proof.GnssStream
import NtsTimeServer.Proof.NsConversion
import NtsTimeServer.Proof.PtpMapping
import NtsTimeServer.Proof.PtpRate
import NtsTimeServer.Proof.TlsHandoff
import NtsTimeServer.Proof.TlsTransition
import NtsTimeServer.Proof.IntentRecovery
import NtsTimeServer.Proof.RollingWindow
import NtsTimeServer.Proof.PeerArithmetic
import NtsTimeServer.Proof.SquareRoot
import NtsTimeServer.Proof.RollingStats
import NtsTimeServer.Proof.PollOutcome
import NtsTimeServer.Proof.TimeAuthority
import NtsTimeServer.Proof.IssuanceRules
import NtsTimeServer.Proof.SignedRequest
import NtsTimeServer.Proof.AcmeAccount
import NtsTimeServer.Proof.AcmeOrder
import NtsTimeServer.Proof.IssuanceCosts
import NtsTimeServer.Proof.Dns01Record
import NtsTimeServer.Proof.CertTransaction
import NtsTimeServer.Proof.RenewalTransaction
import NtsTimeServer.Proof.NtsSession
import NtsTimeServer.Model.PeerTask
import NtsTimeServer.Model.PeerLog
import NtsTimeServer.Proof.PeerLog
import NtsTimeServer.Proof.PeerPoll
import NtsTimeServer.Proof.PeerAggregate
import NtsTimeServer.Proof.PeerTask
import NtsTimeServer.Proof.PeerStatus
