import IotConnect.LinkLayer.ServiceCodec
import IotConnect.LinkLayer.Rejection
import IotConnect.LinkLayer.Report
import IotConnect.Coap.UdpWire
import IotConnect.Coap.TcpSealed
import IotConnect.Coap.BodyGrammar
import IotConnect.Endpoint.Dispatch
import IotConnect.Endpoint.WakeUp
import IotConnect.Endpoint.LockBalance
import IotConnect.Endpoint.Ledger
import IotConnect.Sle.Completeness
import IotConnect.Store.Intact
import IotConnect.Store.Batch
import IotConnect.Transport.Framing
import IotConnect.Cloud.Answered
import IotConnect.Cloud.Refresh
import IotConnect.Cloud.Stale
import IotConnect.Cloud.AuthCode
import IotConnect.Softap.Receive
import IotConnect.Ble.Disconnect
import IotConnect.Frameworks.InitOrder
import IotConnect.Frameworks.FwkMain
import IotConnect.Device.Binding
import IotConnect.Device.Revoke
import IotConnect.Sle.ConnDevices
import IotConnect.Sle.SpekeSessions
import IotConnect.Transport.BufferSharing
import IotConnect.Frameworks.TimerAccounting
import IotConnect.Frameworks.FdDelivery
import IotConnect.Frameworks.ServiceResponses
import IotConnect.Transport.TcpSocket
import IotConnect.Dfx.WatchDog
import IotConnect.Dfx.Masking
import IotConnect.Cloud.SubDevice
import IotConnect.Cloud.DevMgr
import IotConnect.Cloud.OptionList
import IotConnect.Cloud.BackoffHistory
import IotConnect.LocalControl.SeqWindow
import IotConnect.LocalControl.SessionLookup
import IotConnect.LocalControl.Malformed
import IotConnect.Softap.CtrlSeq
import IotConnect.Common.HexLaws
import IotConnect.Os.Deadline
import IotConnect.Common.LocalTime
import IotConnect.Common.HashMapRuns
import IotConnect.Store.EmptyItem
import IotConnect.Wifi.Verify
import IotConnect.Ble.SessionChannel
