import OsmoSgsn.Llc.Keystream
import OsmoSgsn.Llc.Lockstep
import OsmoSgsn.Llc.UiFrame
import OsmoSgsn.Llc.BitSerial
import OsmoSgsn.Llc.Xid
import OsmoSgsn.Llc.XidResponse
import OsmoSgsn.Llc.Wire
import OsmoSgsn.Llc.Retransmit
import OsmoSgsn.Llc.Tlli
import OsmoSgsn.Llc.ClearText
import OsmoSgsn.Llc.PayloadRange
import OsmoSgsn.Sndcp.RoundTrip
import OsmoSgsn.Sndcp.Mixing
import OsmoSgsn.Sndcp.HeaderRange
import OsmoSgsn.Sndcp.Reorder
import OsmoSgsn.Sndcp.XidInd
import OsmoSgsn.Sndcp.Tags
import OsmoSgsn.Sndcp.FieldRoundTrip
import OsmoSgsn.Sndcp.XidRelease
import OsmoSgsn.Sndcp.InStep
import OsmoSgsn.Sndcp.Accesses
import OsmoSgsn.Sndcp.Pcomp
import OsmoSgsn.Sndcp.Complete
import OsmoSgsn.Gmm.Whereabouts
import OsmoSgsn.Sndcp.EndToEnd
import OsmoSgsn.Gmm.Counting
import OsmoSgsn.Gmm.Vectors
import OsmoSgsn.Gmm.AuthResponse
import OsmoSgsn.Gmm.Parse
import OsmoSgsn.Gmm.Unchecked
import OsmoSgsn.Gmm.Drx
import OsmoSgsn.Gtphub.Delivery
import OsmoSgsn.Gtphub.Restart
import OsmoSgsn.Gtphub.NrMap
import OsmoSgsn.Gtphub.ExpiryOrder
import OsmoSgsn.Gtphub.Resolve
import OsmoSgsn.Gtphub.Pending
import OsmoSgsn.Gtphub.UserData
import OsmoSgsn.Gtphub.Stale
import OsmoSgsn.Gtphub.Dropped
import OsmoSgsn.Gtphub.PeerTeis
import OsmoSgsn.Ra.Indications
import OsmoSgsn.Iu.Registry
import OsmoSgsn.Iu.Released
import OsmoSgsn.Iu.Checks
import OsmoSgsn.Gtp.Transfer
import OsmoSgsn.Gtp.Recovery
import OsmoSgsn.Gtp.Forwarded
import OsmoSgsn.Sm.Lookup
import OsmoSgsn.Sm.Release
import OsmoSgsn.Sm.Deactivate
import OsmoSgsn.Sm.CtxStatus
import OsmoSgsn.Sm.Identifiers
import OsmoSgsn.Subscr.Calls
import OsmoSgsn.Apn.CreatePdp
import OsmoSgsn.Gmm.Timer
import OsmoSgsn.Api.History
import OsmoSgsn.Api.WellFormed
import OsmoSgsn.Library.LinkedRing
import OsmoSgsn.Sndcp.SlhcOrder
