import Mathlib.Tactic.Common

/-! The return codes of `iotc_errcode.h` that the modelled functions give, and the numbers behind
them. Only `ok` has the number `0`. -/
namespace IotConnect
set_option autoImplicit false

inductive IotcRet
  | ok
  | error
  | errParamInvalid
  | errTimeout
  | errCallbackNull
  | errSecurecStrcpy
  | errSecurecSprintf
  | errSecurecMemcpy
  | memErrMalloc
  | memErrCalloc
  | osErrWaitSem
  | bleLlErrEncryptType
  | bleLlErrSpekeNull
  | bleLlErrBody
  | bleLlErrPoolFull
  | bleLlErrToken
  | bleLlErrPkgnum
  | bleLlErrPkglen
  | bleLlErrSvcNotSuppEnctype
  | bleLlErrDataSend
  | bleLlErrSvcNotFound
  | bleLlErrSvcOptype
  | bleLlErrCmdDecode
  | bleLlErrDatamode
  | bleInvalidPid
  | bleInvalidSeq
  | bleUidhashNotMatch
  | bleInvalidAuthcodeId
  | bleErrSessionNotCreate
  | bleErrHmac
  | bleErrSessionId
  | sleLlErrEncryptType
  | sleLlErrPoolFull
  | sleLlErrToken
  | sleLlErrPkgnum
  | sleLlErrPkglen
  | transErrSocketRecvInvalid
  | transErrTlsSocketRecv
  | transErrSessSendCor
  | coapEndpointReqListFull
  | coapUdpHeaderShort
  | coapUdpTokenShort
  | coapUdpInvalidVer
  | coapOptionBig
  | coapOptionShort
  | coapOptionLong
  | coapOptionNum
  | coapOptionInvalid
  | coapExtShort
  | coapExtLong
  | coapUseReserved
  | coapInvalidBuild
  | coapBuildFunc
  | coapBufferShort
  | coapOptionOrder
  | coapTcpV1HeaderShort
  | coapPayloadInvalid
  | coapRetransBufferOverSize
  | coapRetransNodeNew
  | coapRetransCheck
  | sessCodeErr
  | jsonErrCreate
  | jsonErrParse
  | jsonErrAdd
  | jsonErrType
  | jsonErrGetString
  | jsonErrGetObj
  | jsonErrGetNum
  | cryptoErrMpiInit
  | cryptoErrMpiWriteBinary
  | utilsErrHashMapCreate
  | utilsErrQueueFull
  | utilsErrQueueEmpty
  | utilsErrQueueValTooLong
  | utilsErrMsgQueueNotAllowPush
  | utilsErrMsgQueueFull
  | utilsErrMsgQueueEmpty
  | utilsErrMsgQueuePush
  | utilsErrMsgQueuePop
  | utilsErrBufferExpendOversize
  | utilsErrBufferGet
  | utilsErrHexify
  | utilsErrUnhexify
  | utilsErrJsonInvalidErrcode
  | utilsErrJsonMallocPrint
  | storeErrInvalidList
  | storeErrInvalidKey
  | storeErrInvalidBufSize
  | storeErrInvalidItem
  | storeErrInvalidKvLen
  | storeErrInvalidVersion
  | storeErrInvalidCipher
  | storeErrIntegrityCheck
  | storeErrInvalidMode
  | storeErrMacNotSame
  | spekeNegoctxInit
  | spekeRandomGen
  | spekeType
  | spekeMsgType
  | spekeOpcode
  | spekeVerNotSupp
  | spekePubkey
  | spekeNegoctxNotInit
  | spekeVerifyHmac
  | spekeCreate
  | fwkErrSourceTimerMax
  | fwkErrSourceTimerCreate
  | fwkErrLoopNodeNew
  | fwkErrSourceQueueMsgTooLong
  | fwkErrServiceMessageInvalid
  | fwkErrServiceInvalid
  | fwkErrServiceInstanceInvalid
  | fwkErrServiceSubMsgSelf
  | localCtlErrInvalidClientMap
  | localCtlErrCreateClient
  | localCtlErrGetEarliestClient
  | lanSearchErrPeerOverMaxNum
  | lanSearchErrPeerCreate
  | cloudErrGetOption
  | cloudErrGetOptReqId
  | cloudErrGetOptDevId
  | cloudErrGetOptUserId
  | cloudErrGetOptSeqNumId
  | cloudErrTokenTimeoutInvalid
  | cloudErrBuildOption
  | cloudErrBuildReqJson
  | cloudErrInvalidAccessToken
  | cloudErrInvalidRefreshToken
  | cloudErrInvalidTokenTimeout
  | cloudErrTokenExpire
  | cloudErrInvalidTimestamp
  deriving DecidableEq, Repr

abbrev IotcErr : Type := { ret : IotcRet // ret ≠ .ok }

namespace IotcRet

/-! The codes that several modules return as an `IotcErr`. -/

theorem errParamInvalid_ne_ok : errParamInvalid ≠ ok := by decide
theorem error_ne_ok : error ≠ ok := by decide
theorem memErrCalloc_ne_ok : memErrCalloc ≠ ok := by decide
theorem utilsErrUnhexify_ne_ok : utilsErrUnhexify ≠ ok := by decide
theorem jsonErrGetString_ne_ok : jsonErrGetString ≠ ok := by decide
theorem jsonErrParse_ne_ok : jsonErrParse ≠ ok := by decide

def code : IotcRet → Int
  | ok => 0
  | error => -1
  | errParamInvalid => -65536
  | errTimeout => -65535
  | errCallbackNull => -65531
  | errSecurecStrcpy => -65529
  | errSecurecSprintf => -65528
  | errSecurecMemcpy => -65527
  | memErrMalloc => -131072
  | memErrCalloc => -131071
  | osErrWaitSem => -131066
  | bleLlErrEncryptType => -393215
  | bleLlErrSpekeNull => -393214
  | bleLlErrBody => -393213
  | bleLlErrPoolFull => -393212
  | bleLlErrToken => -393211
  | bleLlErrPkgnum => -393210
  | bleLlErrPkglen => -393209
  | bleLlErrSvcNotSuppEnctype => -393207
  | bleLlErrDataSend => -393206
  | bleLlErrSvcNotFound => -393203
  | bleLlErrSvcOptype => -393202
  | bleLlErrCmdDecode => -393201
  | bleLlErrDatamode => -393200
  | bleInvalidPid => -393199
  | bleInvalidSeq => -393197
  | bleUidhashNotMatch => -393196
  | bleInvalidAuthcodeId => -393195
  | bleErrSessionNotCreate => -393191
  | bleErrHmac => -393190
  | bleErrSessionId => -393189
  | sleLlErrEncryptType => -458751
  | sleLlErrPoolFull => -458748
  | sleLlErrToken => -458747
  | sleLlErrPkgnum => -458746
  | sleLlErrPkglen => -458745
  | transErrSocketRecvInvalid => -327670
  | transErrTlsSocketRecv => -327668
  | transErrSessSendCor => -327665
  | coapEndpointReqListFull => -327660
  | coapUdpHeaderShort => -327658
  | coapUdpTokenShort => -327657
  | coapUdpInvalidVer => -327656
  | coapOptionBig => -327655
  | coapOptionShort => -327654
  | coapOptionLong => -327653
  | coapOptionNum => -327652
  | coapOptionInvalid => -327651
  | coapExtShort => -327650
  | coapExtLong => -327649
  | coapUseReserved => -327648
  | coapInvalidBuild => -327647
  | coapBuildFunc => -327646
  | coapBufferShort => -327645
  | coapOptionOrder => -327644
  | coapTcpV1HeaderShort => -327643
  | coapPayloadInvalid => -327641
  | coapRetransBufferOverSize => -327640
  | coapRetransNodeNew => -327639
  | coapRetransCheck => -327638
  -- `SESS_CODE_ERR` of `trans_sess.h`
  | sessCodeErr => 1
  | jsonErrCreate => -131061
  | jsonErrParse => -131059
  | jsonErrAdd => -131057
  | jsonErrType => -131056
  | jsonErrGetString => -131054
  | jsonErrGetObj => -131053
  | jsonErrGetNum => -131052
  | cryptoErrMpiInit => -131035
  | cryptoErrMpiWriteBinary => -131029
  | utilsErrHashMapCreate => -196604
  | utilsErrQueueFull => -196603
  | utilsErrQueueEmpty => -196602
  | utilsErrQueueValTooLong => -196601
  | utilsErrMsgQueueNotAllowPush => -196600
  | utilsErrMsgQueueFull => -196599
  | utilsErrMsgQueueEmpty => -196598
  | utilsErrMsgQueuePush => -196597
  | utilsErrMsgQueuePop => -196596
  | utilsErrBufferExpendOversize => -196593
  | utilsErrBufferGet => -196592
  | utilsErrHexify => -196588
  | utilsErrUnhexify => -196587
  | utilsErrJsonInvalidErrcode => -196585
  | utilsErrJsonMallocPrint => -196584
  | storeErrInvalidList => -196581
  | storeErrInvalidKey => -196580
  | storeErrInvalidBufSize => -196579
  | storeErrInvalidItem => -196578
  | storeErrInvalidKvLen => -196577
  | storeErrInvalidVersion => -196576
  | storeErrInvalidCipher => -196575
  | storeErrIntegrityCheck => -196574
  | storeErrInvalidMode => -196573
  | storeErrMacNotSame => -196572
  | spekeNegoctxInit => -196559
  | spekeRandomGen => -196558
  | spekeType => -196557
  | spekeMsgType => -196556
  | spekeOpcode => -196555
  | spekeVerNotSupp => -196554
  | spekePubkey => -196553
  | spekeNegoctxNotInit => -196552
  | spekeVerifyHmac => -196551
  | spekeCreate => -196550
  | fwkErrSourceTimerMax => -196548
  | fwkErrSourceTimerCreate => -196547
  | fwkErrLoopNodeNew => -196541
  | fwkErrSourceQueueMsgTooLong => -196536
  | fwkErrServiceMessageInvalid => -196532
  | fwkErrServiceInvalid => -196531
  | fwkErrServiceInstanceInvalid => -196530
  | fwkErrServiceSubMsgSelf => -196529
  | localCtlErrInvalidClientMap => -327628
  | localCtlErrCreateClient => -327627
  | localCtlErrGetEarliestClient => -327625
  | lanSearchErrPeerOverMaxNum => -327622
  | lanSearchErrPeerCreate => -327621
  | cloudErrGetOption => -327613
  | cloudErrGetOptReqId => -327612
  | cloudErrGetOptDevId => -327611
  | cloudErrGetOptUserId => -327610
  | cloudErrGetOptSeqNumId => -327609
  | cloudErrTokenTimeoutInvalid => -655353
  | cloudErrBuildOption => -655351
  | cloudErrBuildReqJson => -655350
  | cloudErrInvalidAccessToken => -655349
  | cloudErrInvalidRefreshToken => -655348
  | cloudErrInvalidTokenTimeout => -655347
  | cloudErrTokenExpire => -655346
  | cloudErrInvalidTimestamp => -655345

theorem code_eq_zero_iff (ret : IotcRet) : ret.code = 0 ↔ ret = .ok := by
  cases ret <;> decide

end IotcRet

end IotConnect
