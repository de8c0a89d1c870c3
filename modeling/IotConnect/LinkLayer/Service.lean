import IotConnect.Common.Utils
import IotConnect.Foundations.Bytes

/-! # Service frames of the BLE link layer (`linklayer_service.c`)

A service frame is a byte with the data format and the operation, the name of the service behind its
length, the length of the body in two bytes, low byte first, and the body. The frames that `EncodeCmdData`
produces are the answers to commands and the reports (`SvcFrame`). The callbacks of a service are
parameters. -/
namespace IotConnect.LinkLayer
open Bytes
set_option autoImplicit false

def btSvcLen : ℕ := 32
def btCmdDataModeJson : UInt8 := 1
def btOptypePut : UInt8 := 0
def btOptypeGet : UInt8 := 1
def btOptypeRpt : UInt8 := 2

/-- The text in a `char[BT_SVC_LEN]`. -/
structure Service where
  name : List UInt8
  short : name.length < btSvcLen
  nonzero : 0 ∉ name
  deriving DecidableEq

/-- `strncpy_s` of bytes that fit. -/
def Service.ofBytes (s : List UInt8) (h : s.length < btSvcLen) : Service :=
  ⟨cString s, Nat.lt_of_le_of_lt (cString_length s) h, zero_notMem_cString s⟩

/-- The request is empty when the pointer is null. -/
structure BtCmdParam where
  dataFormat : UInt8
  opType : UInt8
  service : Service
  request : List UInt8
  deriving DecidableEq

/-! ## Decoding -/

def decodeBody : List UInt8 → Except IotcRet (List UInt8)
  | lo :: hi :: request =>
    if request.length ≠ hi.toNat * 2 ^ 8 + lo.toNat then .error .bleLlErrCmdDecode else .ok request
  | _ => .error .bleLlErrCmdDecode

def decodeCmdData : List UInt8 → Except IotcRet BtCmdParam
  | [] => .error .bleLlErrCmdDecode
  | [type] =>
    if (type &&& 0xF0) >>> 4 ≠ btCmdDataModeJson then .error .bleLlErrDatamode else .error .bleLlErrCmdDecode
  | type :: svcLen :: s =>
    if (type &&& 0xF0) >>> 4 ≠ btCmdDataModeJson then .error .bleLlErrDatamode
    else if h : svcLen.toNat ≤ s.length ∧ svcLen.toNat < btSvcLen then do
      let request ← decodeBody (s.drop svcLen.toNat)
      return {
        dataFormat := (type &&& 0xF0) >>> 4
        opType := type &&& 0x0F
        service := .ofBytes (s.take svcLen.toNat) (by rw [List.length_take]; omega)
        request }
    else .error .bleLlErrCmdDecode

/-! ## Encoding -/

def svcTypeLen : ℕ := 1
def svcLenLen : ℕ := 1
def svcPayloadLenLen : ℕ := 2

def payloadLenBytes (payloadLen : ℕ) : List UInt8 := [payloadLen.toUInt8, (payloadLen >>> 8).toUInt8]

def svcHeaderStart (cmdParam : BtCmdParam) : List UInt8 :=
  ((cmdParam.dataFormat &&& 0x0F) <<< 4 ||| (cmdParam.opType &&& 0x0F)) :: cmdParam.service.name.length.toUInt8 ::
    cmdParam.service.name

def svcHeader (cmdParam : BtCmdParam) (payloadLen : ℕ) : List UInt8 :=
  svcHeaderStart cmdParam ++ payloadLenBytes payloadLen

def linkLayerWriteSvcHeader (bufCap : ℕ) (cmdParam : BtCmdParam) (payloadLen : ℕ) : Except IotcRet (List UInt8) :=
  if bufCap < svcTypeLen + svcLenLen + cmdParam.service.name.length + svcPayloadLenLen then .error .errParamInvalid
  else .ok (svcHeader cmdParam payloadLen)

/-- `EncodeCmdData`: the frame behind the reserved package head. `mem` says whether there is memory for it. -/
def encodeCmdData (mem : Bool) (cmdParam : BtCmdParam) (payload : List UInt8) : Except IotcRet (List UInt8) :=
  if payload = [] then .error .bleLlErrBody
  else if mem = false then .error .memErrCalloc
  else do
    -- a length that wraps is less than the header, and refused
    let len := (svcTypeLen + svcLenLen + cmdParam.service.name.length + svcPayloadLenLen + payload.length) % 2 ^ 32
    let header ← linkLayerWriteSvcHeader len cmdParam payload.length
    return header ++ payload

/-! ## Services -/

inductive LinkLayerEncryptType
  | unencrypted
  | speke
  | sts
  | sesskey
  | null
  deriving DecidableEq

def LinkLayerEncryptType.value : LinkLayerEncryptType → ℕ
  | .unencrypted => 0
  | .speke => 1
  | .sts => 2
  | .sesskey => 3
  | .null => 0xFF

abbrev SvcFunc := BtCmdParam → Except IotcRet (List UInt8)

structure BtSvcInfo where
  service : Service
  suppEncType : UInt32
  putFunc : Option SvcFunc
  getFunc : Option SvcFunc
  putFuncFramed : Option SvcFunc

def getBtSvcInfoByService (svcs : List BtSvcInfo) (service : List UInt8) : Option BtSvcInfo :=
  svcs.find? fun info => info.service.name = service

def svcCheckEncType (info : BtSvcInfo) (encryptType : LinkLayerEncryptType) : IotcRet :=
  if ¬ encryptType.value < 32 then .bleLlErrEncryptType
  else if info.suppEncType.toNat.testBit encryptType.value then .ok
  else .bleLlErrSvcNotSuppEnctype

/-- What the callbacks make of a command: a frame, or a body that is still to be framed. -/
inductive Answer
  | framed (frame : List UInt8)
  | body (cmdParam : BtCmdParam) (response : List UInt8)

/-- A callback of a service that is called with a command. -/
structure Call where
  info : BtSvcInfo
  cmdParam : BtCmdParam
  func : SvcFunc
  framed : Bool

def Call.answer (call : Call) : Except IotcRet Answer :=
  (call.func call.cmdParam).map (if call.framed then .framed else .body call.cmdParam)

def BtSvcInfo.call (info : BtSvcInfo) (cmdParam : BtCmdParam) : Except IotcRet Call :=
  if cmdParam.opType = btOptypePut then
    match info.putFuncFramed, info.putFunc with
    | some f, _ => .ok ⟨info, cmdParam, f, true⟩
    | none, some f => .ok ⟨info, cmdParam, f, false⟩
    | none, none => .error .errCallbackNull
  else if cmdParam.opType = btOptypeGet then
    match info.getFunc with
    | some f => .ok ⟨info, cmdParam, f, false⟩
    | none => .error .errCallbackNull
  else .error .bleLlErrSvcOptype

/-- The callback that `LinkLayerProcessData` comes to. -/
def svcCall (svcs : List BtSvcInfo) (buff : List UInt8) (encryptType : LinkLayerEncryptType) : Except IotcRet Call :=
  if buff = [] then .error .errParamInvalid
  else
    match decodeCmdData buff with
    | .error ret => .error ret
    | .ok cmdParam =>
      match getBtSvcInfoByService svcs cmdParam.service.name with
      | none => .error .bleLlErrSvcNotFound
      | some info =>
        if svcCheckEncType info encryptType ≠ .ok then .error (svcCheckEncType info encryptType)
        else info.call cmdParam

/-- `LinkLayerProcessData` up to the answer of the service. -/
def answerCmdData (svcs : List BtSvcInfo) (buff : List UInt8) (encryptType : LinkLayerEncryptType) :
    Except IotcRet Answer :=
  (svcCall svcs buff encryptType).bind Call.answer

def linkLayerProcessData (mem : Bool) (svcs : List BtSvcInfo) (buff : List UInt8)
    (encryptType : LinkLayerEncryptType) : Except IotcRet (List UInt8) :=
  match answerCmdData svcs buff encryptType with
  | .error ret => .error ret
  | .ok (.framed frame) => .ok frame
  | .ok (.body cmdParam response) => encodeCmdData mem cmdParam response

/-- `CreateAndSendRptCmdData` up to the frame. -/
def createRptCmdData (mem : Bool) (svcs : List BtSvcInfo) (service data : List UInt8)
    (encryptType : LinkLayerEncryptType) : Except IotcRet (List UInt8) :=
  match getBtSvcInfoByService svcs service with
  | none => .error .bleLlErrSvcNotFound
  | some info =>
    if svcCheckEncType info encryptType ≠ .ok then .error (svcCheckEncType info encryptType)
    else if h : service.length < btSvcLen then
      encodeCmdData mem ⟨btCmdDataModeJson, btOptypeRpt, .ofBytes service h, []⟩ data
    else .error .errSecurecStrcpy

/-- The frames that `EncodeCmdData` gives to its callers, with the bodies in them. -/
inductive SvcFrame : List UInt8 → List UInt8 → Prop
  | response {mem : Bool} {svcs : List BtSvcInfo} {buff : List UInt8} {encryptType : LinkLayerEncryptType}
      {cmdParam : BtCmdParam} {response frame : List UInt8}
      (answer : answerCmdData svcs buff encryptType = .ok (.body cmdParam response))
      (encoded : encodeCmdData mem cmdParam response = .ok frame) : SvcFrame response frame
  | report {mem : Bool} {svcs : List BtSvcInfo} {service data : List UInt8} {encryptType : LinkLayerEncryptType}
      {frame : List UInt8} (created : createRptCmdData mem svcs service data encryptType = .ok frame) :
      SvcFrame data frame

/-! ## Frames decode to what was encoded -/

section
variable (cmdParam : BtCmdParam) (payloadLen : ℕ)

theorem Service.ofBytes_name (service : Service) {s : List UInt8} (hs : s = service.name) (h : s.length < btSvcLen) :
    Service.ofBytes s h = service := by
  subst hs
  obtain ⟨name, short, nonzero⟩ := service
  rw [Service.ofBytes]
  congr 1
  exact cString_of_notMem nonzero

theorem svcHeader_length : (svcHeader cmdParam payloadLen).length = cmdParam.service.name.length + 4 := by
  simp [svcHeader, svcHeaderStart, payloadLenBytes]

theorem payloadLenBytes_value {n : ℕ} (h : n < 2 ^ 16) :
    (n >>> 8).toUInt8.toNat * 2 ^ 8 + n.toUInt8.toNat = n := by
  rw [toNat_toUInt8, toNat_toUInt8, Nat.shiftRight_eq_div_pow, Nat.mod_eq_of_lt (by omega : n / 2 ^ 8 < 2 ^ 8)]
  omega

theorem decodeBody_payload {body : List UInt8} (h : body.length < 2 ^ 16) :
    decodeBody (payloadLenBytes body.length ++ body) = .ok body := by
  change (if body.length ≠ _ then _ else _) = _
  rw [payloadLenBytes_value h, if_neg (not_not.mpr rfl)]
  rfl

theorem typeByte_json (opType : UInt8) :
    (((btCmdDataModeJson &&& 0x0F) <<< 4 ||| (opType &&& 0x0F)) &&& 0xF0) >>> 4 = btCmdDataModeJson ∧
      ((btCmdDataModeJson &&& 0x0F) <<< 4 ||| (opType &&& 0x0F)) &&& 0x0F = opType &&& 0x0F := by
  revert opType
  exact forall_byte (by decide +kernel)

theorem decodeCmdData_svcHeader (hformat : cmdParam.dataFormat = btCmdDataModeJson) {body : List UInt8}
    (hlen : body.length < 2 ^ 16) :
    decodeCmdData (svcHeader cmdParam body.length ++ body) =
      .ok { cmdParam with opType := cmdParam.opType &&& 0x0F, request := body } := by
  obtain ⟨htype, hop⟩ := typeByte_json cmdParam.opType
  have hshort := cmdParam.service.short
  have hsvc : cmdParam.service.name.length.toUInt8.toNat = cmdParam.service.name.length := by
    rw [toNat_toUInt8]
    exact Nat.mod_eq_of_lt (Nat.lt_trans hshort (by decide))
  rw [svcHeader, List.append_assoc, svcHeaderStart, List.cons_append, List.cons_append, hformat, decodeCmdData,
    if_neg (not_not.mpr htype), dif_pos (by rw [hsvc, List.length_append]; omega)]
  simp only [hsvc, List.drop_left, decodeBody_payload hlen, htype, hop,
    Service.ofBytes_name cmdParam.service List.take_left]
  rw [← hformat]
  rfl

theorem encodeCmdData_eq {mem : Bool} {cmdParam : BtCmdParam} {payload frame : List UInt8}
    (h : encodeCmdData mem cmdParam payload = .ok frame) :
    payload ≠ [] ∧ frame = svcHeader cmdParam payload.length ++ payload := by
  rw [encodeCmdData] at h
  by_cases hempty : payload = []
  · rw [if_pos hempty] at h
    cases h
  rw [if_neg hempty] at h
  by_cases hmem : mem = false
  · rw [if_pos hmem] at h
    cases h
  rw [if_neg hmem] at h
  dsimp only [linkLayerWriteSvcHeader] at h
  split at h <;> cases h
  exact ⟨hempty, rfl⟩

/-- What was decoded is what the frame says, and the body is the rest of it. -/
structure FrameOf (buff : List UInt8) (cmdParam : BtCmdParam) (type lo hi : UInt8) (name : List UInt8) : Prop where
  bytes : buff = type :: name.length.toUInt8 :: (name ++ lo :: hi :: cmdParam.request)
  length : cmdParam.request.length = hi.toNat * 2 ^ 8 + lo.toNat
  opType : cmdParam.opType = type &&& 0x0F
  service : cmdParam.service.name = cString name

theorem decodeBody_ok {s request : List UInt8} (h : decodeBody s = .ok request) :
    ∃ lo hi : UInt8, s = lo :: hi :: request ∧ request.length = hi.toNat * 2 ^ 8 + lo.toNat := by
  match s with
  | [] => cases h
  | [lo] => cases h
  | lo :: hi :: rest =>
    rw [decodeBody] at h
    split at h
    · cases h
    · rename_i hlen
      cases h
      exact ⟨lo, hi, rfl, not_not.mp hlen⟩

theorem decodeCmdData_ok {buff : List UInt8} {cmdParam : BtCmdParam} (h : decodeCmdData buff = .ok cmdParam) :
    cmdParam.dataFormat = btCmdDataModeJson ∧ ∃ type lo hi name, FrameOf buff cmdParam type lo hi name := by
  match buff with
  | [] => cases h
  | [type] =>
    rw [decodeCmdData] at h
    split at h <;> cases h
  | type :: svcLen :: s =>
    rw [decodeCmdData] at h
    by_cases htype : (type &&& 0xF0) >>> 4 ≠ btCmdDataModeJson
    · rw [if_pos htype] at h
      cases h
    rw [if_neg htype] at h
    by_cases hlen : svcLen.toNat ≤ s.length ∧ svcLen.toNat < btSvcLen
    · rw [dif_pos hlen] at h
      cases hbody : decodeBody (s.drop svcLen.toNat) with
      | error ret =>
        rw [hbody] at h
        cases h
      | ok request =>
        rw [hbody] at h
        cases h
        obtain ⟨lo, hi, hdrop, hrequest⟩ := decodeBody_ok hbody
        have hname : (s.take svcLen.toNat).length.toUInt8 = svcLen := by
          rw [List.length_take, Nat.min_eq_left hlen.1]
          exact UInt8.ofNat_toNat
        refine ⟨not_not.mp htype, type, lo, hi, s.take svcLen.toNat, ?_, hrequest, rfl, rfl⟩
        rw [hname, ← hdrop, List.take_append_drop]
    · rw [dif_neg hlen] at h
      cases h

theorem BtSvcInfo.call_ok {info : BtSvcInfo} {cmdParam : BtCmdParam} {call : Call}
    (h : info.call cmdParam = .ok call) : call.info = info ∧ call.cmdParam = cmdParam ∧
      some call.func ∈ [info.putFunc, info.putFuncFramed, info.getFunc] := by
  unfold BtSvcInfo.call at h
  split_ifs at h
  · split at h <;> cases h <;> simp_all
  · split at h <;> cases h
    simp_all

theorem svcCall_ok {svcs : List BtSvcInfo} {buff : List UInt8} {encryptType : LinkLayerEncryptType} {call : Call}
    (h : svcCall svcs buff encryptType = .ok call) : decodeCmdData buff = .ok call.cmdParam ∧
      getBtSvcInfoByService svcs call.cmdParam.service.name = some call.info ∧
      svcCheckEncType call.info encryptType = .ok ∧
      some call.func ∈ [call.info.putFunc, call.info.putFuncFramed, call.info.getFunc] := by
  unfold svcCall at h
  split at h
  · cases h
  split at h
  · cases h
  next cmdParam hdecode =>
    split at h
    · cases h
    next info hinfo =>
      split at h
      · cases h
      next hcheck =>
        obtain ⟨rfl, rfl, hfunc⟩ := BtSvcInfo.call_ok h
        exact ⟨hdecode, hinfo, not_not.mp hcheck, hfunc⟩

theorem Call.answer_body {call : Call} {cmdParam : BtCmdParam} {response : List UInt8}
    (h : call.answer = .ok (.body cmdParam response)) : call.cmdParam = cmdParam := by
  unfold Call.answer at h
  cases hfunc : call.func call.cmdParam with
  | error ret =>
    rw [hfunc] at h
    cases h
  | ok bytes =>
    rw [hfunc] at h
    split at h <;> cases h
    rfl

theorem answerCmdData_body {svcs : List BtSvcInfo} {buff : List UInt8} {encryptType : LinkLayerEncryptType}
    {cmdParam : BtCmdParam} {response : List UInt8}
    (h : answerCmdData svcs buff encryptType = .ok (.body cmdParam response)) : decodeCmdData buff = .ok cmdParam := by
  rw [answerCmdData] at h
  cases hcall : svcCall svcs buff encryptType with
  | error ret =>
    rw [hcall] at h
    cases h
  | ok call =>
    rw [hcall] at h
    rw [← Call.answer_body h]
    exact (svcCall_ok hcall).1

theorem SvcFrame.eq_header {body frame : List UInt8} (h : SvcFrame body frame) :
    ∃ cmdParam : BtCmdParam, cmdParam.dataFormat = btCmdDataModeJson ∧ body ≠ [] ∧
      frame = svcHeader cmdParam body.length ++ body := by
  cases h with
  | @response mem svcs buff encryptType cmdParam response frame hanswer hencoded =>
    obtain ⟨hbody, hframe⟩ := encodeCmdData_eq hencoded
    exact ⟨cmdParam, (decodeCmdData_ok (answerCmdData_body hanswer)).1, hbody, hframe⟩
  | @report mem svcs service data encryptType frame hcreated =>
    rw [createRptCmdData] at hcreated
    cases hinfo : getBtSvcInfoByService svcs service with
    | none =>
      rw [hinfo] at hcreated
      cases hcreated
    | some info =>
      rw [hinfo] at hcreated
      dsimp only at hcreated
      split at hcreated
      · cases hcreated
      split at hcreated
      · obtain ⟨hbody, hframe⟩ := encodeCmdData_eq hcreated
        exact ⟨_, rfl, hbody, hframe⟩
      · cases hcreated

end

end IotConnect.LinkLayer
