import Phonelets.Gatchat.ExtendedCommand
import Phonelets.Gatchat.Gsm0710Extract
import Phonelets.Gatchat.HdlcLink
import Phonelets.Gatchat.MuxDispatchRuns
import Phonelets.Gatchat.ResultIterRuns
import Phonelets.Gatchat.RingQueue
import Phonelets.Gatchat.ServerRuns
import Phonelets.Gprs.Apn
import Phonelets.Modem.PowerRuns
import Phonelets.Phonebook.ImportRuns
import Phonelets.Ppp.ReplyRuns
import Phonelets.Rsap.Relay
import Phonelets.Rsap.Sessions
import Phonelets.Sim.Adn
import Phonelets.Sim.EonsLookup
import Phonelets.Sim.GetResponse
import Phonelets.Sim.TlvIterators
import Phonelets.Simfs.BlockReads
import Phonelets.Simfs.FileInfo
import Phonelets.Sms.AddressKey
import Phonelets.Sms.Bounds
import Phonelets.Sms.CbsAtomRuns
import Phonelets.Sms.CbsLocation
import Phonelets.Sms.CbsTextPages
import Phonelets.Sms.CbsTopicPrint
import Phonelets.Sms.DecodeBounds
import Phonelets.Sms.StatusReportBackup
import Phonelets.Sms.TxBackupRuns
import Phonelets.Sms.Ucs2Gsm
import Phonelets.Sms.UdhIterator
import Phonelets.Ss.CallBarringRuns
import Phonelets.Ss.CallForwardingRuns
import Phonelets.Ss.ControlString
import Phonelets.Stk.DataobjMatching
import Phonelets.Stk.EnvelopeQueueRuns
import Phonelets.Stk.FileList
import Phonelets.Stk.Html
import Phonelets.Stk.ImageXpm
import Phonelets.Stk.Pdu
import Phonelets.Stk.TimerRuns
import Phonelets.Telit.BtEvent
import Phonelets.Telit.ChannelRuns
import Phonelets.Telit.SimState
import Phonelets.Ussd.AtomRuns
import Phonelets.Util.Idmap
import Phonelets.Util.SeptetBuffers
import Phonelets.Voicecall.ToneRuns
