import IotConnect.LinkLayer.Encrypt
import IotConnect.LinkLayer.Fragmentation

/-! # Inbound frames and reports of the BLE link layer (`linklayer_process.c`)

A frame goes to the receive cache, and its header sets the encryption type of the link layer. The frame that makes a
message complete has it decrypted and given to its service, with the type in the header of that frame. -/
namespace IotConnect.LinkLayer
open Memory Trace
set_option autoImplicit false

/-! ## State and environment -/

/-- `g_pkgList`, `g_encryptType` and `g_sendToken`, and the keys, which belong to the services. -/
structure LinkState where
  pkgList : PkgList
  encryptType : LinkLayerEncryptType
  sendToken : UInt8
  keys : EncryptKeys

structure ProcessEnv where
  recv : RecvEnv
  cipher : CipherEnv
  /-- What becomes of the keys while a frame is processed: the callback that the frame gets to may change them, as that
  of `createSession` does, and so may other tasks. -/
  keys : Option Call → EncryptKeys → EncryptKeys
  /-- Whether there is memory for the frame of a service and for a buffer to send. -/
  encodeMem : Bool
  sendMem : Bool
  pkgMaxNum : UInt8
  send : Option LinkLayerSendBtData

def ProcessEnv.encrypt (env : ProcessEnv) (keys : EncryptKeys) : EncryptEnv := ⟨env.cipher, keys⟩

def encryptHandler (encryptType : UInt8) : Option LinkLayerEncryptType :=
  [LinkLayerEncryptType.unencrypted, .speke, .sesskey].find? fun type => type.value = encryptType.toNat

def linkLayerGetEncryptType (s : LinkState) : LinkLayerEncryptType :=
  if s.keys.sessKeyExist then .sesskey else s.encryptType

/-! ## Answers -/

def cmdTypeResponse : UInt8 := 0x01
def cmdTypeReport : UInt8 := 0x02
def llRetErr : UInt8 := 1

/-- The head of a request with the type of a response and a return value. -/
def rspHead (reqBuff : List UInt8) (ret : UInt8) : List UInt8 :=
  let head := reqBuff.take pkgHeadLen
  (head.set pkgHeadTypeIdx (head.getD pkgHeadTypeIdx 0 &&& 0xF0 ||| cmdTypeResponse)).set pkgHeadRetIdx ret

def linkLayerRspExceptionData (env : ProcessEnv) (reqBuff : List UInt8) (retVal : UInt8) : List (List UInt8) :=
  let head := (rspHead reqBuff retVal).set pkgHeadTypeIdx cmdTypeResponse
  let frame := (head.set pkgHeadPkgnumIdx 1).set pkgHeadIndexIdx 0
  if env.send.isSome then [frame] else []

def sendRspData (env : ProcessEnv) (keys : EncryptKeys) (reqBuff : List UInt8) (encryptType : LinkLayerEncryptType)
    (rspData : List UInt8) : IotcRet × List (List UInt8) :=
  if encryptType = .unencrypted then
    linkLayerSendBtPkg env.pkgMaxNum env.send (rspHead reqBuff 0 ++ rspData)
  else if env.sendMem = false then (.memErrCalloc, [])
  else
    let out : LinkLayerEncryptOut := ⟨fun _ => 0, rspData.length + encDataMaxOverhead⟩
    match linkLayerEncryptDataInto (env.encrypt keys) rspData encryptType out with
    | .error ret => (ret, linkLayerRspExceptionData env reqBuff llRetErr)
    | .ok written =>
      if written.2 = 0 then (.ok, linkLayerRspExceptionData env reqBuff llRetErr)
      else linkLayerSendBtPkg env.pkgMaxNum env.send (rspHead reqBuff 0 ++ written.bytes)

/-! ## Inbound frames -/

/-- A call of `LinkLayerDecryptData`. -/
structure Decryption where
  encryptType : LinkLayerEncryptType
  data : List UInt8
  result : Except IotcRet Written

/-- What `LinkLayerProcessBtData` returns, and what it has called and sent on the way. -/
structure Processed where
  ret : IotcRet
  decryption : Option Decryption
  call : Option Call
  frames : List (List UInt8)

def Processed.early (ret : IotcRet) : Processed := ⟨ret, none, none, []⟩

/-- `LinkLayerProcessBtData` behind the decryption. The response is encrypted with the keys that the callback leaves. -/
def processComplete (env : ProcessEnv) (svcs : List BtSvcInfo) (buff : List UInt8) (encryptType : LinkLayerEncryptType)
    (keys : EncryptKeys) (completeBuff : List UInt8) : IotcRet × Option Call × List (List UInt8) :=
  if completeBuff = [] then (.ok, none, [])
  else
    let call := (svcCall svcs completeBuff encryptType).toOption
    match linkLayerProcessData env.encodeMem svcs completeBuff encryptType with
    | .error ret => (ret, call, linkLayerRspExceptionData env buff llRetErr)
    | .ok [] => (.ok, call, linkLayerRspExceptionData env buff llRetErr)
    | .ok rspBuff =>
      let (ret, frames) := sendRspData env (env.keys call keys) buff encryptType rspBuff
      (ret, call, frames)

/-- `LinkLayerProcessBtData` from the check of the completeness on, with `GetCompleteData`. -/
def processPkgs (env : ProcessEnv) (svcs : List BtSvcInfo) (buff : List UInt8) (encryptType : LinkLayerEncryptType)
    (keys : EncryptKeys) (l : PkgList) : Processed × PkgList :=
  let (ret, isComplete) := linkLayerRecvCompleteCheck (parsePkgHead buff).token l
  if ¬ (ret = .ok ∧ isComplete = true) then (.early ret, l)
  else
    match linkLayerRecvMergePkgs (parsePkgHead buff).token l with
    | (ret, none, l) => (.early ret, l)
    | (_, some mergedBuff, l) =>
      let result := linkLayerDecryptData (env.encrypt keys) (ofList mergedBuff 0) mergedBuff.length encryptType
      let decryption := some ⟨encryptType, mergedBuff, result⟩
      match result with
      | .error ret => (⟨ret, decryption, none, linkLayerRspExceptionData env buff llRetErr⟩, l)
      | .ok complete =>
        let (ret, call, frames) := processComplete env svcs buff encryptType keys complete.bytes
        (⟨ret, decryption, call, frames⟩, l)

def linkLayerProcessBtData (env : ProcessEnv) (svcs : List BtSvcInfo) (buff : List UInt8) (s : LinkState) :
    Processed × LinkState :=
  if ¬ pkgHeadLen < buff.length then (.early .errParamInvalid, s)
  else
    let (ret, pkgList) := insertFrame env.recv buff s.pkgList
    let s := { s with pkgList := pkgList }
    if ret ≠ .ok then (.early ret, s)
    else
      match encryptHandler (parsePkgHead buff).encryptType with
      | none => (.early .bleLlErrEncryptType, s)
      | some encryptType =>
        -- the type is set before the message is complete, let alone decrypted
        let (processed, pkgList) := processPkgs env svcs buff encryptType s.keys s.pkgList
        (processed, { s with pkgList := pkgList, encryptType := encryptType })

/-! ## The policy of a service -/

def BtSvcInfo.Supports (info : BtSvcInfo) (encryptType : LinkLayerEncryptType) : Prop :=
  encryptType.value < 32 ∧ info.suppEncType.toNat.testBit encryptType.value = true

theorem svcCheckEncType_ok_iff (info : BtSvcInfo) (encryptType : LinkLayerEncryptType) :
    svcCheckEncType info encryptType = .ok ↔ info.Supports encryptType := by
  unfold svcCheckEncType BtSvcInfo.Supports
  by_cases hvalue : encryptType.value < 32
  · rw [if_neg (not_not.mpr hvalue)]
    by_cases hbit : info.suppEncType.toNat.testBit encryptType.value = true
    · simp only [hbit, if_true, hvalue, and_self]
    · rw [if_neg hbit]
      exact ⟨fun h => (by cases h), fun h => absurd h.2 hbit⟩
  · rw [if_pos hvalue]
    exact ⟨fun h => (by cases h), fun h => absurd h.1 hvalue⟩

def reassembled (env : ProcessEnv) (buff : List UInt8) (s : LinkState) : Option (List UInt8) :=
  (linkLayerRecvMergePkgs (parsePkgHead buff).token (insertFrame env.recv buff s.pkgList).2).2.1

/-- What a callback may be called for: a service of the table, under a type of its set, and with the body of the
frame that decryption has produced under that type. -/
structure Allowed (env : EncryptEnv) (svcs : List BtSvcInfo) (call : Call) (d : Decryption) (w : Written) : Prop where
  decrypted : d.result = .ok w
  result : d.result = linkLayerDecryptData env (ofList d.data 0) d.data.length d.encryptType
  service : getBtSvcInfoByService svcs call.cmdParam.service.name = some call.info
  callback : some call.func ∈ [call.info.putFunc, call.info.putFuncFramed, call.info.getFunc]
  supported : call.info.Supports d.encryptType
  body : ∃ type lo hi name, FrameOf w.bytes call.cmdParam type lo hi name

/-- The policy of the services is kept while a frame is processed. -/
structure PolicyKept (env : EncryptEnv) (svcs : List BtSvcInfo) (message : Option (List UInt8)) (r : Processed) :
    Prop where
  allowed : ∀ call, r.call = some call →
    ∃ d w, r.decryption = some d ∧ message = some d.data ∧ Allowed env svcs call d w
  undecrypted : ∀ d ret, r.decryption = some d → d.result = .error ret → r.call = none
  unsupported : ∀ d w cmdParam info, r.decryption = some d → d.result = .ok w →
    decodeCmdData w.bytes = .ok cmdParam → getBtSvcInfoByService svcs cmdParam.service.name = some info →
    ¬ info.Supports d.encryptType → r.call = none

theorem processComplete_call (env : ProcessEnv) (svcs : List BtSvcInfo) (buff : List UInt8)
    (encryptType : LinkLayerEncryptType) (keys : EncryptKeys) (completeBuff : List UInt8) :
    (processComplete env svcs buff encryptType keys completeBuff).2.1 =
      (svcCall svcs completeBuff encryptType).toOption := by
  unfold processComplete
  by_cases hempty : completeBuff = []
  · rw [if_pos hempty, svcCall, if_pos hempty]
    rfl
  · rw [if_neg hempty]
    dsimp only
    split <;> rfl

/-- The callback that is called once decryption has come to a result. -/
def Decryption.call (svcs : List BtSvcInfo) (d : Decryption) : Option Call :=
  match d.result with
  | .error _ => none
  | .ok w => (svcCall svcs w.bytes d.encryptType).toOption

theorem processPkgs_cases (env : ProcessEnv) (svcs : List BtSvcInfo) (buff : List UInt8)
    (encryptType : LinkLayerEncryptType) (keys : EncryptKeys) (l : PkgList) :
    (∃ ret, (processPkgs env svcs buff encryptType keys l).1 = .early ret) ∨
      ∃ d, (processPkgs env svcs buff encryptType keys l).1.decryption = some d ∧
        (linkLayerRecvMergePkgs (parsePkgHead buff).token l).2.1 = some d.data ∧
        d.result = linkLayerDecryptData (env.encrypt keys) (ofList d.data 0) d.data.length d.encryptType ∧
        (processPkgs env svcs buff encryptType keys l).1.call = d.call svcs := by
  unfold processPkgs
  dsimp only
  split
  · exact .inl ⟨_, rfl⟩
  split
  · exact .inl ⟨_, rfl⟩
  next ret mergedBuff l' hmerge =>
    refine .inr ⟨⟨encryptType, mergedBuff, linkLayerDecryptData (env.encrypt keys) (ofList mergedBuff 0) mergedBuff.length
      encryptType⟩, ?_⟩
    rw [hmerge]
    unfold Decryption.call
    cases linkLayerDecryptData (env.encrypt keys) (ofList mergedBuff 0) mergedBuff.length encryptType with
    | error ret => exact ⟨rfl, rfl, rfl, rfl⟩
    | ok w => exact ⟨rfl, rfl, rfl, processComplete_call env svcs buff encryptType keys w.bytes⟩

theorem linkLayerProcessBtData_cases (env : ProcessEnv) (svcs : List BtSvcInfo) (buff : List UInt8) (s : LinkState) :
    (∃ ret, (linkLayerProcessBtData env svcs buff s).1 = .early ret) ∨
      ∃ d, (linkLayerProcessBtData env svcs buff s).1.decryption = some d ∧ reassembled env buff s = some d.data ∧
        d.result = linkLayerDecryptData (env.encrypt s.keys) (ofList d.data 0) d.data.length d.encryptType ∧
        (linkLayerProcessBtData env svcs buff s).1.call = d.call svcs := by
  unfold linkLayerProcessBtData
  dsimp only
  split
  · exact .inl ⟨_, rfl⟩
  split
  · exact .inl ⟨_, rfl⟩
  split
  · exact .inl ⟨_, rfl⟩
  next encryptType _ => exact processPkgs_cases env svcs buff encryptType s.keys (insertFrame env.recv buff s.pkgList).2

theorem Decryption.call_allowed {env : EncryptEnv} {svcs : List BtSvcInfo} {d : Decryption} {call : Call}
    (hresult : d.result = linkLayerDecryptData env (ofList d.data 0) d.data.length d.encryptType)
    (hcall : d.call svcs = some call) : ∃ w, Allowed env svcs call d w := by
  unfold Decryption.call at hcall
  cases hd : d.result with
  | error ret =>
    rw [hd] at hcall
    cases hcall
  | ok w =>
    rw [hd] at hcall
    dsimp only at hcall
    cases hsvc : svcCall svcs w.bytes d.encryptType with
    | error ret =>
      rw [hsvc] at hcall
      cases hcall
    | ok call' =>
      rw [hsvc] at hcall
      cases hcall
      obtain ⟨hdecode, hinfo, hcheck, hfunc⟩ := svcCall_ok hsvc
      exact ⟨w, hd, hresult, hinfo, hfunc, (svcCheckEncType_ok_iff _ _).mp hcheck, (decodeCmdData_ok hdecode).2⟩

theorem Decryption.call_of_unsupported {svcs : List BtSvcInfo} {d : Decryption} {w : Written} {cmdParam : BtCmdParam}
    {info : BtSvcInfo} (hresult : d.result = .ok w) (hdecode : decodeCmdData w.bytes = .ok cmdParam)
    (hinfo : getBtSvcInfoByService svcs cmdParam.service.name = some info) (hsupp : ¬ info.Supports d.encryptType) :
    d.call svcs = none := by
  rw [Decryption.call, hresult]
  dsimp only
  cases hsvc : svcCall svcs w.bytes d.encryptType with
  | error ret => rfl
  | ok call =>
    obtain ⟨hdecode', hinfo', hcheck, -⟩ := svcCall_ok hsvc
    cases hdecode.symm.trans hdecode'
    cases hinfo.symm.trans hinfo'
    exact absurd ((svcCheckEncType_ok_iff _ _).mp hcheck) hsupp

theorem linkLayerProcessBtData_policy (env : ProcessEnv) (svcs : List BtSvcInfo) (buff : List UInt8) (s : LinkState) :
    PolicyKept (env.encrypt s.keys) svcs (reassembled env buff s) (linkLayerProcessBtData env svcs buff s).1 := by
  rcases linkLayerProcessBtData_cases env svcs buff s with ⟨ret, hearly⟩ | ⟨d, hd, hdata, hresult, hcall⟩
  · rw [hearly]
    exact ⟨fun _ h => (by cases h), fun _ _ _ _ => rfl, fun _ _ _ _ _ _ _ _ _ => rfl⟩
  · refine ⟨fun call h => ?_, fun d' ret h herror => ?_, fun d' w cmdParam info h hok hdecode hinfo hsupp => ?_⟩
    · rw [hcall] at h
      obtain ⟨w, hw⟩ := Decryption.call_allowed hresult h
      exact ⟨d, w, hd, hdata, hw⟩
    · rw [hd, Option.some.injEq] at h
      subst h
      rw [hcall, Decryption.call, herror]
    · rw [hd, Option.some.injEq] at h
      subst h
      rw [hcall]
      exact Decryption.call_of_unsupported hok hdecode hinfo hsupp

/-- The keys that the next frame finds. -/
def keysAfter (svcs : List BtSvcInfo) (s : LinkState) (e : ProcessEnv × List UInt8) : EncryptKeys :=
  e.1.keys (linkLayerProcessBtData e.1 svcs e.2 s).1.call s.keys

def processStep (svcs : List BtSvcInfo) (s : LinkState) (e : ProcessEnv × List UInt8) : LinkState :=
  { (linkLayerProcessBtData e.1 svcs e.2 s).2 with keys := keysAfter svcs s e }

theorem service_policy_kept (svcs : List BtSvcInfo) (s : LinkState) (es : List (ProcessEnv × List UInt8)) :
    Along (processStep svcs)
      (fun s e => PolicyKept (e.1.encrypt s.keys) svcs (reassembled e.1 e.2 s) (linkLayerProcessBtData e.1 svcs e.2 s).1) s es :=
  along_of_forall (fun e _ s => linkLayerProcessBtData_policy e.1 svcs e.2 s) s

end IotConnect.LinkLayer
