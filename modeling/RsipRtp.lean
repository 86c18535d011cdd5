import RsipRtp.AudioMixer
import RsipRtp.BindingAuth
import RsipRtp.CallDialogs
import RsipRtp.CallHold
import RsipRtp.CallPorts
import RsipRtp.CallStates
import RsipRtp.CandidateText
import RsipRtp.Congestion
import RsipRtp.DeferredCall
import RsipRtp.DialogOrder
import RsipRtp.DialogRouting
import RsipRtp.DialogSequence
import RsipRtp.DigestVerifier
import RsipRtp.DtmfDelivery
import RsipRtp.IceInterleaving
import RsipRtp.InviteClientAck
import RsipRtp.InviteClientOutcome
import RsipRtp.InviteServerFinal
import RsipRtp.InviteServerLedger
import RsipRtp.InviteServerTermination
import RsipRtp.InviteServerTimerN
import RsipRtp.JitterConservation
import RsipRtp.JitterDelay
import RsipRtp.JitterOnce
import RsipRtp.JitterOrder
import RsipRtp.JitterStale
import RsipRtp.KeepaliveFraming
import RsipRtp.LengthAgreement
import RsipRtp.ManagerAck
import RsipRtp.ManagerPrack
import RsipRtp.ManagerRouting
import RsipRtp.NonInviteClientOutcome
import RsipRtp.RecordRoutes
import RsipRtp.ReferText
import RsipRtp.RegistrationDriver
import RsipRtp.ReliableHeaders
import RsipRtp.Resolver
import RsipRtp.RtcpDescription
import RsipRtp.RtcpFeedback
import RsipRtp.RtpHeader
import RsipRtp.RtpJitter
import RsipRtp.RtpSequence
import RsipRtp.SdpValidAnswer
import RsipRtp.Srtcp
import RsipRtp.SrtpDirections
import RsipRtp.SrtpErrors
import RsipRtp.SrtpIv
import RsipRtp.StunDispatcher
import RsipRtp.StunMapped
import RsipRtp.TimerRoles
import RsipRtp.TurnIndication
import RsipRtp.ViaText
