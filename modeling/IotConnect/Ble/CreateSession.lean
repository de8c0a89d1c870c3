import IotConnect.Ble.RecvSeq
import IotConnect.Common.Hex
import IotConnect.Common.JsonUtils

/-! # Creating a BLE session (`ble_svc_create_session.c`, `ble_session_mngr.c`)

A request is processed in five steps, each of which writes into the one session of the device and may fail. What
was written before the failure stays, so that a request without any proof of its sender can move the window of
received numbers. The outcome of every call into the platform is a parameter. -/
namespace IotConnect.Ble
open Bytes
set_option autoImplicit false

def sessionIdLen : ℕ := 32
def randSnLen : ℕ := 8
def saltLen : ℕ := randSnLen + randSnLen
def sessionKeyLen : ℕ := 16
def bleUidHashLen : ℕ := 64

/-- `BleSessParam`; `recv` are the members for what is received. -/
structure BleSessParam where
  negoFinish : Bool
  recv : BleSessKeyInfo
  nextSendSeq : UInt32
  sessId : Block sessionIdLen
  salt : Block saltLen
  key : Block sessionKeyLen
deriving DecidableEq

/-- `BleSessReset`, and `BLE_SESS_INIT`. -/
def BleSessParam.init : BleSessParam := ⟨false, ⟨0, 0⟩, 1, .zero _, .zero _, .zero _⟩

/-- The members of `DevAuthInfo` that are read; a text ends at its first zero byte. -/
structure DevAuthInfo where
  uidHash : List UInt8
  authCodeId : List UInt8
  authCode : List UInt8

/-- What is put into the response. -/
inductive RspItem
  | sessId
  | sn2
  | authCodeId
  | seqNum
  | uuid

def RspItem.name : RspItem → List UInt8
  | sessId => ascii "sessId"
  | sn2 => ascii "sn2"
  | authCodeId => ascii "authCodeId"
  | seqNum => ascii "seq"
  | uuid => ascii "uuid"

abbrev Members := List (List UInt8 × Json.Value)

/-- What the calls into the platform give while one request is processed. A function that fails may have written
into the buffer it was given. `DevSvcProxyGetAuthInfo`, which also says whether there is such information, is
called three times. -/
structure CreateEnv where
  jsonCreate : Bool
  uidAuthInfo : Except IotcErr (Bool × DevAuthInfo)
  keyAuthInfo : Except IotcErr (Bool × DevAuthInfo)
  rspAuthInfo : Except IotcErr (Bool × DevAuthInfo)
  sn2 : Except IotcErr (Block randSnLen)
  pbkdf2 : (password salt : List UInt8) → Except IotcErr Unit × Block sessionKeyLen
  sessId : Except IotcErr Unit × Block sessionIdLen
  jsonAdd : RspItem → Except IotcErr Unit
  print : Bool

/-! ## Steps that may fail -/

abbrev SessM (α : Type) := ExceptT IotcErr (StateM BleSessParam) α

def call {α : Type} (r : Except IotcErr α) : SessM α := fun s => (r, s)

def write (f : BleSessParam → BleSessParam) : SessM Unit := fun s => (.ok (), f s)

def session : SessM BleSessParam := fun s => (.ok s, s)

section
variable {α β : Type}

@[simp] theorem call_ok_bind (a : α) (f : α → SessM β) : call (.ok a) >>= f = f a := rfl

@[simp] theorem call_error_bind (ret : IotcErr) (f : α → SessM β) : call (.error ret) >>= f = call (.error ret) := rfl

@[simp] theorem call_apply (r : Except IotcErr α) (s : BleSessParam) : call r s = (r, s) := rfl

@[simp] theorem write_bind_apply (g : BleSessParam → BleSessParam) (f : Unit → SessM β) (s : BleSessParam) :
    (write g >>= f) s = f () (g s) := rfl

@[simp] theorem session_bind_apply (f : BleSessParam → SessM β) (s : BleSessParam) : (session >>= f) s = f s s := rfl

end

/-! ## The request -/

section
variable (J : JsonAdapter) (env : CreateEnv)

def seqNum (req : J.Obj) : Except IotcErr UInt32 :=
  match J.getObj req "seq" with
  | none => .error ⟨.jsonErrGetObj, by decide⟩
  | some seqObj =>
    match J.int seqObj with
    | none => .error ⟨.jsonErrGetNum, by decide⟩
    | some seq =>
      if 0 ≤ seq ∧ seq ≤ 0xFFFFFFFF then .ok (UInt32.ofNat seq.toNat) else .error ⟨.bleInvalidSeq, by decide⟩

def initRecvSeq (req : J.Obj) : SessM Unit := do
  let recvSeq ← call (seqNum J req)
  write fun s => { s with recv := bleSessRecvSeqInit recvSeq }

def checkUidHash (req : J.Obj) : Except IotcErr Unit :=
  match utilsJsonGetString J req "uidHash" (bleUidHashLen + 1) with
  | .error _ => .error ⟨.jsonErrGetNum, by decide⟩
  | .ok uidHash =>
    match env.uidAuthInfo with
    | .error ret => .error ret
    | .ok (_, authInfo) => if uidHash = authInfo.uidHash then .ok () else .error ⟨.bleUidhashNotMatch, by decide⟩

def getSn1Hex (req : J.Obj) : Except IotcErr (Block randSnLen) :=
  match utilsJsonGetString J req "sn1" (2 * randSnLen + 1) with
  | .error _ => .error ⟨.jsonErrGetNum, by decide⟩
  | .ok sn1Str =>
    match utilsUnhexify sn1Str randSnLen with
    | none => .error ⟨.utilsErrUnhexify, IotcRet.utilsErrUnhexify_ne_ok⟩
    | some sn1 => .ok ⟨(sn1 ++ List.replicate randSnLen 0).take randSnLen, by simp⟩

def saltOf (sn1 sn2 : Block randSnLen) : Block saltLen :=
  ⟨sn1.val ++ sn2.val, by rw [List.length_append, sn1.property, sn2.property]; rfl⟩

def existing (authInfo : Except IotcErr (Bool × DevAuthInfo)) : Except IotcErr DevAuthInfo :=
  match authInfo with
  | .error ret => .error ret
  | .ok (isAuthInfoExist, info) =>
    if isAuthInfoExist then .ok info else .error ⟨.bleInvalidAuthcodeId, by decide⟩

def bleSessKeyGen (sn1 sn2 : Block randSnLen) : SessM Unit := do
  write fun s => { s with salt := saltOf sn1 sn2 }
  let authInfo ← call (existing env.keyAuthInfo)
  write fun s => { s with key := (env.pbkdf2 authInfo.authCode (saltOf sn1 sn2).val).2 }
  call (env.pbkdf2 authInfo.authCode (saltOf sn1 sn2).val).1
  write fun s => { s with negoFinish := true }

def bleSessIdGen : SessM Unit := do
  write fun s => { s with sessId := env.sessId.2 }
  call env.sessId.1

/-- The end of `OwnerAuth`, behind `BleSessIdGen`. -/
def ownerAuthRsp (sn2 : Block randSnLen) : SessM Members := do
  let s ← session
  call (env.jsonAdd .sessId)
  call (env.jsonAdd .sn2)
  let authInfo ← call (existing env.rspAuthInfo)
  call (env.jsonAdd .authCodeId)
  return [(RspItem.name .sessId, .str (hexText s.sessId.val)), (RspItem.name .sn2, .str (hexText sn2.val)),
    (RspItem.name .authCodeId, .str authInfo.authCodeId)]

def ownerAuth (req : J.Obj) : SessM Members := do
  let sn1 ← call (getSn1Hex J req)
  let sn2 ← call env.sn2
  bleSessKeyGen env sn1 sn2
  bleSessIdGen env
  ownerAuthRsp env sn2

def uuidStr (req : J.Obj) : Except IotcErr (List UInt8) :=
  match J.getObj req "uuid" with
  | none => .error ⟨.jsonErrGetObj, by decide⟩
  | some uuidJson =>
    match J.str uuidJson with
    | none => .error ⟨.jsonErrGetString, IotcRet.jsonErrGetString_ne_ok⟩
    | some uuid => .ok uuid

def addSessionItem (req : J.Obj) : SessM Members := do
  let s ← session
  call (env.jsonAdd .seqNum)
  let uuid ← call (uuidStr J req)
  call (env.jsonAdd .uuid)
  return [(RspItem.name .seqNum, .num s.nextSendSeq.toNat), (RspItem.name .uuid, .str uuid)]

def processCreateSessionCmd (req : J.Obj) : SessM Members := do
  initRecvSeq J req
  call (checkUidHash J env req)
  let auth ← ownerAuth J env req
  let items ← addSessionItem J env req
  write fun s => { s with nextSendSeq := s.nextSendSeq + 1 }
  return auth ++ items

/-- The end of `BleCreateSession`. -/
def printRsp (rsp : Members) : SessM (List UInt8) :=
  if env.print = false then call (.error ⟨.utilsErrJsonMallocPrint, by decide⟩) else return Json.print (.obj rsp)

def bleCreateSession (text : List UInt8) : SessM (List UInt8) := do
  match iotcJsonParseWithLen J text with
  | none => call (.error ⟨.jsonErrParse, IotcRet.jsonErrParse_ne_ok⟩)
  | some req =>
    if env.jsonCreate = false then call (.error ⟨.jsonErrCreate, by decide⟩)
    else
      let rsp ← processCreateSessionCmd J env req
      printRsp env rsp

/-! ## What a request writes -/

/-- What is left to do for the response once the session id is there. -/
def rspRet (req : J.Obj) : Except IotcErr Unit := do
  env.jsonAdd .sessId
  env.jsonAdd .sn2
  let _ ← existing env.rspAuthInfo
  env.jsonAdd .authCodeId
  env.jsonAdd .seqNum
  let _ ← uuidStr J req
  env.jsonAdd .uuid

/-- How far a request gets, with the values that it has written by then. -/
inductive Reached
  | nothing
  | window (recvSeq : UInt32)
  | salt (recvSeq : UInt32) (salt : Block saltLen)
  | key (recvSeq : UInt32) (salt : Block saltLen) (key : Block sessionKeyLen)
  | sessId (recvSeq : UInt32) (salt : Block saltLen) (key : Block sessionKeyLen) (sessId : Block sessionIdLen)
  | sendSeq
  | accepted

def reachedKey (req : J.Obj) (recvSeq : UInt32) (salt : Block saltLen) : Reached :=
  match existing env.keyAuthInfo with
  | .error _ => .salt recvSeq salt
  | .ok authInfo =>
    match env.pbkdf2 authInfo.authCode salt.val with
    | (.error _, key) => .key recvSeq salt key
    | (.ok _, key) =>
      match env.sessId with
      | (.error _, sessId) => .sessId recvSeq salt key sessId
      | (.ok _, sessId) =>
        match rspRet J env req with
        | .error _ => .sessId recvSeq salt key sessId
        | .ok _ => if env.print = false then .sendSeq else .accepted

def reached (text : List UInt8) : Reached :=
  match iotcJsonParseWithLen J text with
  | none => .nothing
  | some req =>
    if env.jsonCreate = false then .nothing
    else
      match seqNum J req with
      | .error _ => .nothing
      | .ok recvSeq =>
        match checkUidHash J env req, getSn1Hex J req, env.sn2 with
        | .ok _, .ok sn1, .ok sn2 => reachedKey J env req recvSeq (saltOf sn1 sn2)
        | _, _, _ => .window recvSeq

/-- The session is the same for everything that is sent and received. -/
def SameSession (s s' : BleSessParam) : Prop :=
  s'.recv = s.recv ∧ s'.nextSendSeq = s.nextSendSeq ∧ s'.sessId = s.sessId ∧ s'.salt = s.salt ∧ s'.key = s.key

/-- All that a request writes before it fails is in the session already. -/
def Reached.Idle (s : BleSessParam) : Reached → Prop
  | .nothing => True
  | .window n => s.recv = bleSessRecvSeqInit n
  | .salt n b => s.recv = bleSessRecvSeqInit n ∧ s.salt = b
  | .key n b k => s.recv = bleSessRecvSeqInit n ∧ s.salt = b ∧ s.key = k
  | .sessId n b k i => s.recv = bleSessRecvSeqInit n ∧ s.salt = b ∧ s.key = k ∧ s.sessId = i
  | .sendSeq => False
  | .accepted => True

def Reached.Leads {α : Type} (s : BleSessParam) (r : Except IotcErr α × BleSessParam) : Reached → Prop
  | .nothing => r.1.isOk = false ∧ r.2 = s
  | .window n => r.1.isOk = false ∧ r.2 = { s with recv := bleSessRecvSeqInit n }
  | .salt n b => r.1.isOk = false ∧ r.2 = { s with recv := bleSessRecvSeqInit n, salt := b }
  | .key n b k => r.1.isOk = false ∧ r.2 = { s with recv := bleSessRecvSeqInit n, salt := b, key := k }
  | .sessId n b k i => r.1.isOk = false ∧
      r.2 = { s with recv := bleSessRecvSeqInit n, salt := b, key := k, negoFinish := true, sessId := i }
  | .sendSeq => r.1.isOk = false ∧ r.2.nextSendSeq = s.nextSendSeq + 1
  | .accepted => r.1.isOk = true

end

variable {J : JsonAdapter} {env : CreateEnv}

theorem response_apply (req : J.Obj) (sn2 : Block randSnLen) {α : Type} (f : Members → SessM α) (s : BleSessParam) :
    ∃ rsp, (do
      let auth ← ownerAuthRsp env sn2
      let items ← addSessionItem J env req
      write fun s => { s with nextSendSeq := s.nextSendSeq + 1 }
      f (auth ++ items) : SessM α) s =
    match rspRet J env req with
    | .error ret => (.error ret, s)
    | .ok _ => f rsp { s with nextSendSeq := s.nextSendSeq + 1 } := by
  simp only [ownerAuthRsp, addSessionItem, rspRet, bind_assoc, pure_bind]
  rw [session_bind_apply]
  cases env.jsonAdd .sessId with
  | error ret => exact ⟨[], rfl⟩
  | ok _ =>
    cases env.jsonAdd .sn2 with
    | error ret => exact ⟨[], rfl⟩
    | ok _ =>
      cases existing env.rspAuthInfo with
      | error ret => exact ⟨[], rfl⟩
      | ok authInfo =>
        cases env.jsonAdd .authCodeId with
        | error ret => exact ⟨[], rfl⟩
        | ok _ =>
          cases env.jsonAdd .seqNum with
          | error ret => exact ⟨[], rfl⟩
          | ok _ =>
            cases uuidStr J req with
            | error ret => exact ⟨[], rfl⟩
            | ok uuid =>
              cases env.jsonAdd .uuid with
              | error ret => exact ⟨[], rfl⟩
              | ok _ => exact ⟨_, rfl⟩

theorem reachedKey_leads (req : J.Obj) (recvSeq : UInt32) (sn1 sn2 : Block randSnLen) (s : BleSessParam) :
    (reachedKey J env req recvSeq (saltOf sn1 sn2)).Leads s ((do
      bleSessKeyGen env sn1 sn2
      bleSessIdGen env
      let auth ← ownerAuthRsp env sn2
      let items ← addSessionItem J env req
      write fun s => { s with nextSendSeq := s.nextSendSeq + 1 }
      printRsp env (auth ++ items) : SessM (List UInt8)) { s with recv := bleSessRecvSeqInit recvSeq }) := by
  simp only [reachedKey, bleSessKeyGen, bleSessIdGen, bind_assoc, write_bind_apply]
  cases existing env.keyAuthInfo with
  | error ret => exact ⟨rfl, rfl⟩
  | ok authInfo =>
    simp only [call_ok_bind, write_bind_apply]
    rcases env.pbkdf2 authInfo.authCode (saltOf sn1 sn2).val with ⟨ret | _, key⟩
    · exact ⟨rfl, rfl⟩
    simp only [call_ok_bind, write_bind_apply]
    rcases env.sessId with ⟨ret | _, sessId⟩
    · exact ⟨rfl, rfl⟩
    simp only [call_ok_bind]
    obtain ⟨rsp, hrsp⟩ := response_apply req sn2 (printRsp env)
      ⟨true, bleSessRecvSeqInit recvSeq, s.nextSendSeq, sessId, saltOf sn1 sn2, key⟩
    rw [hrsp]
    cases rspRet J env req with
    | error ret => exact ⟨rfl, rfl⟩
    | ok _ =>
      dsimp only
      unfold printRsp
      split_ifs
      · exact ⟨rfl, rfl⟩
      · rfl

theorem reached_leads (text : List UInt8) (s : BleSessParam) :
    (reached J env text).Leads s (bleCreateSession J env text s) := by
  unfold reached bleCreateSession
  cases iotcJsonParseWithLen J text with
  | none => exact ⟨rfl, rfl⟩
  | some req =>
    dsimp only
    split_ifs with hcreate
    · exact ⟨rfl, rfl⟩
    simp only [processCreateSessionCmd, initRecvSeq, ownerAuth, bind_assoc, pure_bind]
    cases seqNum J req with
    | error ret => exact ⟨rfl, rfl⟩
    | ok recvSeq =>
      simp only [call_ok_bind, write_bind_apply]
      cases checkUidHash J env req with
      | error ret => exact ⟨rfl, rfl⟩
      | ok _ =>
        simp only [call_ok_bind]
        cases getSn1Hex J req with
        | error ret => exact ⟨rfl, rfl⟩
        | ok sn1 =>
          simp only [call_ok_bind]
          cases env.sn2 with
          | error ret => exact ⟨rfl, rfl⟩
          | ok sn2 =>
            simp only [call_ok_bind]
            exact reachedKey_leads req recvSeq sn1 sn2 s

theorem succ_ne (n : UInt32) : n + 1 ≠ n := by
  intro h
  simp at h

theorem idle_of_leads {α : Type} {r : Reached} {s : BleSessParam} {out : Except IotcErr α × BleSessParam}
    (h : r.Leads s out) : (out.1.isOk = false → SameSession s out.2) ↔ r.Idle s := by
  rcases out with ⟨result, t⟩
  cases r with
  | accepted =>
    refine iff_of_true (fun hfalse => ?_) trivial
    rw [show result.isOk = true from h] at hfalse
    cases hfalse
  | sendSeq =>
    refine iff_of_false (fun hsame => ?_) id
    exact succ_ne s.nextSendSeq (h.2.symm.trans (hsame h.1).2.1)
  | _ =>
    obtain ⟨hfail, rfl⟩ := h
    simp [SameSession, Reached.Idle, hfail, eq_comm, and_comm, and_left_comm]

/-- A request that is refused leaves the session as it was exactly when it wrote nothing that was not there. -/
theorem createSession_kept_iff (J : JsonAdapter) (env : CreateEnv) (text : List UInt8) (s : BleSessParam) :
    ((bleCreateSession J env text s).1.isOk = false → SameSession s (bleCreateSession J env text s).2) ↔
      (reached J env text).Idle s :=
  idle_of_leads (reached_leads text s)

/-! ### A request that is not authenticated -/

def sampleSeqJson : JsonAdapter := .ofParser fun _ => some (.obj [(ascii "seq", .num 5)])

def sampleCreateEnv : CreateEnv where
  jsonCreate := true
  uidAuthInfo := .ok (true, ⟨[], [], []⟩)
  keyAuthInfo := .ok (true, ⟨[], [], []⟩)
  rspAuthInfo := .ok (true, ⟨[], [], []⟩)
  sn2 := .ok (.zero _)
  pbkdf2 := fun _ _ => (.ok (), .zero _)
  sessId := (.ok (), .zero _)
  jsonAdd := fun _ => .ok ()
  print := true

def sampleSession : BleSessParam := { BleSessParam.init with negoFinish := true, recv := ⟨100, 1⟩ }

theorem refused_request_moves_window :
    ¬ ((bleCreateSession sampleSeqJson sampleCreateEnv (ascii "\x7b\"seq\":5\x7d") sampleSession).1.isOk = false →
      SameSession sampleSession
        (bleCreateSession sampleSeqJson sampleCreateEnv (ascii "\x7b\"seq\":5\x7d") sampleSession).2) ∧
    bleSessRecvSeqCheck sampleSession.recv 101 = true ∧
    bleSessRecvSeqCheck
      (bleCreateSession sampleSeqJson sampleCreateEnv (ascii "\x7b\"seq\":5\x7d") sampleSession).2.recv 101 = false := by
  have hrefused : (bleCreateSession sampleSeqJson sampleCreateEnv (ascii "\x7b\"seq\":5\x7d") sampleSession).1.isOk
      = false := by decide
  have hrecv : (bleCreateSession sampleSeqJson sampleCreateEnv (ascii "\x7b\"seq\":5\x7d") sampleSession).2.recv
      = ⟨5, 1⟩ := by decide
  rw [hrecv]
  refine ⟨?_, by decide, by decide⟩
  intro hkept
  have hsame := (hkept hrefused).1
  rw [hrecv] at hsame
  exact absurd hsame (by decide)

end IotConnect.Ble
