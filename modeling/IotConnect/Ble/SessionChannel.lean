import IotConnect.Ble.CreateSession
import IotConnect.LinkLayer.Protection

/-! # The session of a BLE connection as the protection of its frames

`ble_session_mngr.c` registers four callbacks with the link layer: they seal and open a body with the key of the
session, and calculate and check the HMAC of a frame. Put under the link layer of two devices that hold the same
session they make a channel: what one side sends the other reads. What a device accepts was made with the key and the
identity of its own session, so that without a session nothing is accepted. -/
namespace IotConnect.BleChannel
open Bytes Memory LinkLayer
set_option autoImplicit false

/-- The algorithms. `gcmEncrypt` and `gcmDecrypt` get the key, the IV, the additional data and the text. -/
structure Crypto where
  gcmEncrypt : (key iv add data : List UInt8) → Except IotcErr (Block data.length × Block sessTagLen)
  gcmDecrypt : (key iv add data tag : List UInt8) → Except IotcErr (Block data.length)
  pbkdf2 : (password salt : List UInt8) → Except IotcErr (Block sessHmacLen)
  hmac : (key data : List UInt8) → Except IotcErr (Block sessHmacLen)

/-- A device: its session, its product id and what its random source gives. -/
structure Device where
  sess : Ble.BleSessParam
  proId : Option (List UInt8)
  random : Except IotcErr (Block sessIvLen)

section
variable (crypto : Crypto) (d : Device)

def paramInvalid : IotcErr := ⟨.errParamInvalid, IotcRet.errParamInvalid_ne_ok⟩
def sessionNotCreate : IotcErr := ⟨.bleErrSessionNotCreate, by decide⟩
def invalidPid : IotcErr := ⟨.bleInvalidPid, by decide⟩

/-- `ModelGetDevProId`, refused when there is none or it is empty. -/
def modelGetDevProId : Except IotcErr (List UInt8) :=
  match d.proId with
  | none => .error invalidPid
  | some pid => if pid = [] then .error invalidPid else .ok pid

def bleSessEncryptData (data : List UInt8) (outBuffLen : ℕ) : Except IotcErr (Block outBuffLen) :=
  if data = [] ∨ outBuffLen < sessTotalBodyLen data.length then .error paramInvalid
  else if d.sess.negoFinish = false then .error sessionNotCreate
  else do
    let iv ← d.random
    let pid ← modelGetDevProId d
    let r ← crypto.gcmEncrypt d.sess.key.val iv.val pid data
    return fit (iv.val ++ (r.1.val ++ (r.2.val ++ d.sess.sessId.val))) outBuffLen

/-- `outLen` of `BleSessDecryptData`. -/
def decOutLen (data : List UInt8) : ℕ := data.length - sessIvLen - sessTagLen - sessIdLen

def bleSessDecryptData (data : List UInt8) (outBuffLen : ℕ) : Except IotcErr (Block outBuffLen) :=
  if decOutLen data = 0 ∨ outBuffLen < decOutLen data then .error paramInvalid
  else if d.sess.negoFinish = false then .error sessionNotCreate
  else if d.sess.sessId.val ≠ data.drop (data.length - sessIdLen) then .error ⟨.bleErrSessionId, by decide⟩
  else do
    let pid ← modelGetDevProId d
    let plain ← crypto.gcmDecrypt d.sess.key.val (data.take sessIvLen) pid
      ((data.drop sessIvLen).take (decOutLen data)) ((data.drop (sessIvLen + decOutLen data)).take sessTagLen)
    return fit plain.val outBuffLen

def bleSessCalHmac (data : List UInt8) : Except IotcErr (Block sessHmacLen) :=
  if data = [] then .error paramInvalid
  else if d.sess.negoFinish = false then .error sessionNotCreate
  else do
    let hmacKey ← crypto.pbkdf2 d.sess.key.val d.sess.salt.val
    crypto.hmac hmacKey.val data

def bleSessCheckHmac (data hmacBuf : List UInt8) : Except IotcErr Unit :=
  if data = [] ∨ hmacBuf.length ≠ sessHmacLen then .error paramInvalid
  else if d.sess.negoFinish = false then .error sessionNotCreate
  else do
    let hmac ← bleSessCalHmac crypto d data
    if hmac.val = hmacBuf then .ok () else .error ⟨.bleErrHmac, by decide⟩

def answer {α : Type} (r : Except IotcErr α) : Except IotcRet α :=
  match r with
  | .ok a => .ok a
  | .error e => .error e.val

def answerRet (r : Except IotcErr Unit) : IotcRet :=
  match r with
  | .ok _ => .ok
  | .error e => e.val

/-- The link layer after `BleSessInit` has registered the callbacks. -/
def sessEnv (base : EncryptEnv) : EncryptEnv :=
  { base with
    sessKeyExist := d.sess.negoFinish
    sessKeyEncrypt := some fun data outBuffLen => answer (bleSessEncryptData crypto d data outBuffLen)
    sessKeyDecrypt := some fun data outBuffLen => answer (bleSessDecryptData crypto d data outBuffLen)
    sessKeyCalHmac := some fun data => answer (bleSessCalHmac crypto d data)
    sessKeyCheckHmac := some fun data hmacBuf => answerRet (bleSessCheckHmac crypto d data hmacBuf) }

end

/-! ## Two devices with the same session -/

/-- The algorithms answer for the keys of a session and data that is not empty, and a text that was sealed is opened
with the same key, IV and additional data. -/
structure Crypto.Lawful (crypto : Crypto) : Prop where
  gcm : ∀ (key : Block Ble.sessionKeyLen) (iv : Block sessIvLen) add data, add ≠ [] → data ≠ [] →
    ∃ cipher tag, crypto.gcmEncrypt key.val iv.val add data = .ok (cipher, tag) ∧
      ∃ plain, crypto.gcmDecrypt key.val iv.val add cipher.val tag.val = .ok plain ∧ plain.val = data
  pbkdf2 : ∀ (password : Block Ble.sessionKeyLen) salt, salt ≠ [] → ∃ key, crypto.pbkdf2 password.val salt = .ok key
  hmac : ∀ (key : Block sessHmacLen) data, data ≠ [] → ∃ mac, crypto.hmac key.val data = .ok mac

/-- Both have finished the negotiation with the same outcome and are of the same product. -/
structure Paired (a b : Device) : Prop where
  finishA : a.sess.negoFinish = true
  finishB : b.sess.negoFinish = true
  key : a.sess.key = b.sess.key
  salt : a.sess.salt = b.sess.salt
  sessId : a.sess.sessId = b.sess.sessId
  proId : ∃ pid, pid ≠ [] ∧ a.proId = some pid ∧ b.proId = some pid

variable {crypto : Crypto} {a b d : Device}

theorem fit_of_length {x : List UInt8} {n : ℕ} (h : x.length = n) : (fit x n).val = x := by
  change (x ++ List.replicate n 0).take n = x
  rw [← h, List.take_left]

theorem modelGetDevProId_ok {pid : List UInt8} (h : d.proId = some pid) (hpid : pid ≠ []) :
    modelGetDevProId d = .ok pid := by
  rw [modelGetDevProId, h]
  exact if_neg hpid

/-- The fields of a sealed body are found where they were written. -/
theorem sealed_fields {iv cipher tag sessId : List UInt8} (hiv : iv.length = sessIvLen) (htag : tag.length = sessTagLen)
    (hid : sessId.length = sessIdLen) {e : List UInt8} (he : e = iv ++ (cipher ++ (tag ++ sessId))) :
    decOutLen e = cipher.length ∧ e.drop (e.length - sessIdLen) = sessId ∧
      e.take sessIvLen = iv ∧ (e.drop sessIvLen).take cipher.length = cipher ∧
      (e.drop (sessIvLen + cipher.length)).take sessTagLen = tag := by
  have hlen : e.length = sessIvLen + (cipher.length + (sessTagLen + sessIdLen)) := by
    rw [he, List.length_append, List.length_append, List.length_append, hiv, htag, hid]
  have hdrop : e.drop sessIvLen = cipher ++ (tag ++ sessId) := by rw [he, List.drop_left' hiv]
  refine ⟨by unfold decOutLen; omega, ?_, by rw [he, List.take_left' hiv], by rw [hdrop, List.take_left' rfl], ?_⟩
  · have hend : e.length - sessIdLen = sessIvLen + (cipher.length + sessTagLen) := by omega
    rw [hend, ← List.drop_drop, hdrop, ← List.drop_drop, List.drop_left' rfl, List.drop_left' htag]
  · rw [← List.drop_drop, hdrop, List.drop_left' rfl, List.take_left' htag]

theorem sealed_opens (hlaw : crypto.Lawful) (hpair : Paired a b) (hrandom : ∃ iv, a.random = .ok iv) {x : List UInt8}
    (hx : x ≠ []) : ∃ e, answer (bleSessEncryptData crypto a x (sessTotalBodyLen x.length)) = .ok e ∧
      answer (bleSessDecryptData crypto b e.val x.length) = .ok (.ofList x) := by
  obtain ⟨iv, hiv⟩ := hrandom
  obtain ⟨pid, hpid, hpidA, hpidB⟩ := hpair.proId
  obtain ⟨cipher, tag, hseal, plain, hopen, hplain⟩ := hlaw.gcm a.sess.key iv pid x hpid hx
  have hcipher : cipher.val.length = x.length := cipher.length_val
  have hlen : (iv.val ++ (cipher.val ++ (tag.val ++ a.sess.sessId.val))).length = sessTotalBodyLen x.length := by
    have hsess : a.sess.sessId.val.length = sessIdLen := a.sess.sessId.length_val
    rw [List.length_append, List.length_append, List.length_append, iv.length_val, tag.length_val, hcipher, hsess]
    unfold sessTotalBodyLen
    omega
  have hval := fit_of_length hlen
  obtain ⟨hout, hid, htake, hbody, htag⟩ :=
    sealed_fields iv.length_val tag.length_val a.sess.sessId.length_val hval
  rw [hcipher] at hout hbody htag
  refine ⟨fit (iv.val ++ (cipher.val ++ (tag.val ++ a.sess.sessId.val))) _, ?_, ?_⟩
  · rw [bleSessEncryptData, if_neg (by simp [hx]), if_neg (by simp [hpair.finishA]), hiv, ok_bind,
      modelGetDevProId_ok hpidA hpid, ok_bind, hseal, ok_bind]
    rfl
  · have hpos : x.length ≠ 0 := fun h => hx (List.eq_nil_of_length_eq_zero h)
    rw [bleSessDecryptData, hout, if_neg (by simp [hpos]), if_neg (by simp [hpair.finishB]),
      if_neg (by rw [hid, hpair.sessId, ne_eq, not_not]), modelGetDevProId_ok hpidB hpid, ok_bind, htake, hbody, htag,
      ← hpair.key, hopen, ok_bind]
    refine congrArg Except.ok (Subtype.ext ?_)
    rw [hplain, fit_of_length rfl]
    rfl

theorem hmac_passes (hlaw : crypto.Lawful) (hpair : Paired a b) {x : List UInt8} (hx : x ≠ []) :
    ∃ mac, answer (bleSessCalHmac crypto a x) = .ok mac ∧ answerRet (bleSessCheckHmac crypto b x mac.val) = .ok := by
  obtain ⟨key, hkey⟩ := hlaw.pbkdf2 a.sess.key a.sess.salt.val (List.ne_nil_of_length_pos (by rw [a.sess.salt.length_val]; decide))
  obtain ⟨mac, hmac⟩ := hlaw.hmac key x hx
  have hcal (d : Device) (hfinish : d.sess.negoFinish = true) (hsame : d.sess.key = a.sess.key)
      (hsalt : d.sess.salt = a.sess.salt) : bleSessCalHmac crypto d x = .ok mac := by
    rw [bleSessCalHmac, if_neg hx, if_neg (by simp [hfinish]), hsame, hsalt, hkey, ok_bind, hmac]
  refine ⟨mac, by rw [hcal a hpair.finishA rfl rfl]; rfl, ?_⟩
  rw [bleSessCheckHmac, if_neg (by simp [hx]), if_neg (by simp [hpair.finishB]),
    hcal b hpair.finishB hpair.key.symm hpair.salt.symm, ok_bind, if_pos rfl]
  rfl

theorem sessSeal_eq (env : EncryptEnv) (cmdParam : BtCmdParam) (body : List UInt8)
    {encrypt : List UInt8 → (n : ℕ) → Except IotcRet (Block n)} (hencrypt : env.sessKeyEncrypt = some encrypt)
    {cal : List UInt8 → Except IotcRet (Block sessHmacLen)} (hcal : env.sessKeyCalHmac = some cal)
    {e : Block (sessTotalBodyLen body.length)} (he : encrypt body (sessTotalBodyLen body.length) = .ok e)
    {mac : Block sessHmacLen} (hmac : cal (svcHeader cmdParam (sessTotalBodyLen body.length) ++ e.val) = .ok mac) :
    sessSeal env cmdParam body = .ok (svcHeader cmdParam (sessTotalBodyLen body.length) ++ e.val ++ mac.val) := by
  rw [sessSeal, hencrypt, hcal]
  dsimp only [callback]
  rw [ok_bind, he, ok_bind, ok_bind, hmac]
  rfl

/-- A frame that `a` seals is opened by `b`. -/
theorem sealed_frame_opens (hlaw : crypto.Lawful) (hpair : Paired a b) (hrandom : ∃ iv, a.random = .ok iv)
    (baseA baseB : EncryptEnv) (hmemA : baseA.HasMem) (hmemB : baseB.HasMem)
    (cmdParam : BtCmdParam) (hformat : cmdParam.dataFormat = btCmdDataModeJson) (body : List UInt8) (hbody : body ≠ [])
    (hlen : body.length + 60 ≤ 65535) :
    ∃ enc, linkLayerSessKeyEncrypt (sessEnv crypto a baseA) (svcHeader cmdParam body.length ++ body) = .ok enc ∧
      ∀ data, Holds data 0 enc → ∃ data', linkLayerSessKeyDecrypt (sessEnv crypto b baseB) data enc.length =
          .ok (data', (svcHeader cmdParam body.length ++ body).length) ∧
        Holds data' 0 (svcHeader cmdParam body.length ++ body) := by
  have htotal := sessTotalBodyLen_eq body.length
  obtain ⟨e, hseal, hopen⟩ := sealed_opens hlaw hpair hrandom hbody
  have hhead : svcHeader cmdParam (sessTotalBodyLen body.length) ++ e.val ≠ [] := by
    have hpos := svcHeader_length cmdParam (sessTotalBodyLen body.length)
    intro hnil
    rw [(List.append_eq_nil_iff.mp hnil).1, List.length_nil] at hpos
    omega
  obtain ⟨mac, hcal, hcheck⟩ := hmac_passes hlaw hpair hhead
  refine ⟨svcHeader cmdParam (sessTotalBodyLen body.length) ++ e.val ++ mac.val, ?_, ?_⟩
  · refine (linkLayerSessKeyEncrypt_eq (sessEnv crypto a baseA) cmdParam body hformat hbody (by omega) hmemA).trans ?_
    exact sessSeal_eq _ cmdParam body rfl rfl hseal hcal
  · intro data hdata
    exact linkLayerSessKeyDecrypt_eq (sessEnv crypto b baseB) cmdParam body hformat hbody hmemB (by omega) rfl
      e.length_val hopen rfl mac.length_val hcheck hdata

/-- What one of two paired devices sends under its session, the other reads. -/
theorem session_frames_delivered (hlaw : crypto.Lawful) (hpair : Paired a b) (hrandom : ∃ iv, a.random = .ok iv)
    (baseA baseB : EncryptEnv) (hmemA : baseA.HasMem) (hmemB : baseB.HasMem)
    {body frame : List UInt8} (hframe : SvcFrame body frame)
    (hlen : body.length + (sessIvLen + sessTagLen + sessIdLen) ≤ 65535) :
    ∃ enc, linkLayerEncryptData (sessEnv crypto a baseA) frame .sesskey = .ok enc ∧ ∀ data, Holds data 0 enc →
      ∃ data', linkLayerDecryptData (sessEnv crypto b baseB) data enc.length .sesskey = .ok (data', frame.length) ∧
        Holds data' 0 frame := by
  obtain ⟨cmdParam, hformat, hbody, rfl⟩ := hframe.eq_header
  obtain ⟨enc, henc, hdec⟩ := sealed_frame_opens hlaw hpair hrandom baseA baseB hmemA hmemB cmdParam hformat body hbody hlen
  refine ⟨enc, ?_, hdec⟩
  rw [linkLayerEncryptData, if_neg (svcHeader_append_ne_nil cmdParam hbody)]
  exact henc

/-- No cipher at all, for the samples. -/
def openCrypto : Crypto where
  gcmEncrypt _ _ _ data := .ok (.ofList data, .zero _)
  gcmDecrypt _ _ _ data _ := .ok (.ofList data)
  pbkdf2 _ _ := .ok (.zero _)
  hmac _ _ := .ok (.zero _)

theorem openCrypto_lawful : openCrypto.Lawful where
  gcm _ _ _ data _ _ := ⟨.ofList data, .zero _, rfl, .ofList data, rfl, rfl⟩
  pbkdf2 _ _ _ := ⟨_, rfl⟩
  hmac _ _ _ := ⟨_, rfl⟩

def sampleDevice : Device := ⟨{ Ble.BleSessParam.init with negoFinish := true }, some [49], .ok (.zero _)⟩

theorem sampleDevice_paired : Paired sampleDevice sampleDevice :=
  ⟨rfl, rfl, rfl, rfl, rfl, [49], by decide, rfl, rfl⟩

theorem session_frames_delivered_report : openCrypto.Lawful ∧ Paired sampleDevice sampleDevice ∧
    ∃ enc, linkLayerEncryptData (sessEnv openCrypto sampleDevice transparentEnv) [0x12, 1, 97, 2, 0, 7, 8] .sesskey =
        .ok enc ∧ ∀ data, Holds data 0 enc →
      ∃ data', linkLayerDecryptData (sessEnv openCrypto sampleDevice transparentEnv) data enc.length .sesskey =
          .ok (data', 7) ∧ Holds data' 0 [0x12, 1, 97, 2, 0, 7, 8] :=
  ⟨openCrypto_lawful, sampleDevice_paired,
    session_frames_delivered openCrypto_lawful sampleDevice_paired ⟨_, rfl⟩ transparentEnv transparentEnv
      (fun _ _ _ => rfl) (fun _ _ _ => rfl) (SvcFrame.report (show createRptCmdData true
        [⟨⟨[97], by decide, by decide⟩, 8, none, none, none⟩] [97] [7, 8] .sesskey = .ok _ from rfl)) (by decide)⟩

/-! ## What a device accepts -/

theorem answer_ok {α : Type} {r : Except IotcErr α} {x : α} (h : answer r = .ok x) : r = .ok x := by
  cases r with
  | ok y => exact congrArg Except.ok (Except.ok.inj h)
  | error e => cases h

theorem answerRet_ok {r : Except IotcErr Unit} (h : answerRet r = .ok) : r = .ok () := by
  cases r with
  | ok y => rfl
  | error e => exact absurd h e.property

theorem bind_eq_ok {α β ε : Type} {r : Except ε α} {f : α → Except ε β} {y : β} (h : (r >>= f) = .ok y) :
    ∃ x, r = .ok x ∧ f x = .ok y := by
  cases r with
  | ok x => exact ⟨x, rfl, h⟩
  | error e => cases h

theorem bleSessCheckHmac_ok {data mac : List UInt8} (h : bleSessCheckHmac crypto d data mac = .ok ()) :
    d.sess.negoFinish = true ∧ ∃ key m, crypto.pbkdf2 d.sess.key.val d.sess.salt.val = .ok key ∧
      crypto.hmac key.val data = .ok m ∧ m.val = mac := by
  rw [bleSessCheckHmac] at h
  split_ifs at h with hparam hfinish
  obtain ⟨m, hm, hcmp⟩ := bind_eq_ok h
  split_ifs at hcmp with heq
  rw [bleSessCalHmac] at hm
  split_ifs at hm
  obtain ⟨key, hkey, hmac⟩ := bind_eq_ok hm
  exact ⟨Bool.eq_true_of_not_eq_false hfinish, key, m, hkey, hmac, heq⟩

theorem bleSessDecryptData_ok {data : List UInt8} {n : ℕ} {out : Block n}
    (h : bleSessDecryptData crypto d data n = .ok out) :
    d.sess.sessId.val = data.drop (data.length - sessIdLen) ∧ ∃ pid plain, d.proId = some pid ∧
      crypto.gcmDecrypt d.sess.key.val (data.take sessIvLen) pid ((data.drop sessIvLen).take (decOutLen data))
        ((data.drop (sessIvLen + decOutLen data)).take sessTagLen) = .ok plain ∧ out = fit plain.val n := by
  rw [bleSessDecryptData] at h
  split_ifs at h with hparam hfinish hid
  obtain ⟨pid, hpid, h⟩ := bind_eq_ok h
  obtain ⟨plain, hplain, hout⟩ := bind_eq_ok h
  refine ⟨Decidable.not_not.mp hid, pid, plain, ?_, hplain, (Except.ok.inj hout).symm⟩
  rw [modelGetDevProId] at hpid
  cases hpro : d.proId with
  | none =>
    rw [hpro] at hpid
    cases hpid
  | some p =>
    rw [hpro] at hpid
    dsimp only at hpid
    split_ifs at hpid
    rw [Except.ok.inj hpid]

/-- The copy back into the frame: the opened body stands behind the header, whatever follows. -/
theorem holds_copied {data out : ℕ → UInt8} {k j n : ℕ} {body : List UInt8} (hbody : body.length = j) {data' : ℕ → UInt8}
    (hcopy : memcpyS data 0 n (load (store out k body) 0 (k + j)) = some data') :
    Holds (if k + j < n then store data' (k + j) [0] else data') k body := by
  obtain ⟨-, rfl⟩ := memcpyS_eq_some hcopy
  have hsplit : load (store out k body) 0 (k + j) = load (store out k body) 0 k ++ body := by
    have hself := load_store_self out k body
    rw [hbody] at hself
    rw [load_add, Nat.zero_add, hself]
  have hholds : Holds (store data 0 (load (store out k body) 0 (k + j))) k body := by
    have hwhole := holds_store data 0 (load (store out k body) 0 (k + j))
    rw [hsplit] at hwhole ⊢
    have hback := ((holds_append _ _ _ _).mp hwhole).2
    rwa [load_length, Nat.zero_add] at hback
  split_ifs
  · rw [Holds, load_store_before _ _ _ _ _ (by rw [hbody])]
    exact hholds
  · exact hholds

/-- What `sessKeyOpen` leaves behind the header is what the callback opened. -/
theorem sessKeyOpen_ok {env : EncryptEnv} {data data' : ℕ → UInt8} {n m : ℕ} {cmd : BtCmdParam}
    (h : sessKeyOpen env data n cmd = .ok (data', m)) : ∃ decrypt len body,
      env.sessKeyDecrypt = some decrypt ∧ len = cmd.request.length - sessTagLen - sessIvLen - sessIdLen ∧
      decrypt cmd.request len = .ok body ∧ m = n - sessHmacLen - cmd.request.length + len ∧
      Holds data' (n - sessHmacLen - cmd.request.length) body.val := by
  rw [sessKeyOpen] at h
  dsimp only at h
  generalize n - sessHmacLen - cmd.request.length = k at h ⊢
  generalize cmd.request.length - sessTagLen - sessIvLen - sessIdLen = j at h ⊢
  split at h
  · cases h
  split at h
  · cases h
  split at h
  · cases h
  cases hcb : env.sessKeyDecrypt with
  | none =>
    rw [hcb] at h
    cases h
  | some decrypt =>
    rw [hcb] at h
    obtain ⟨body, hbody, h⟩ := bind_eq_ok (show (decrypt _ _ >>= _) = _ from h)
    have hlen : body.val.length = j := by rw [body.length_val, Nat.add_sub_cancel_left]
    split at h
    · cases h
    rename_i copied hcopy
    obtain ⟨hdata, hm⟩ := Prod.mk.inj (Except.ok.inj h)
    refine ⟨decrypt, k + j - k, body, rfl, Nat.add_sub_cancel_left k j, hbody, by rw [← hm, Nat.add_sub_cancel_left], ?_⟩
    rw [← hdata]
    exact holds_copied hlen hcopy

/-- A frame that a device accepts under its session was made with that session: its HMAC is the one of the session's
key, its body ends in the identity of the session, and what is handed on is the body opened with the key. -/
theorem session_accepts_own (base : EncryptEnv) {data data' : ℕ → UInt8} {n m : ℕ}
    (h : linkLayerDecryptData (sessEnv crypto d base) data n .sesskey = .ok (data', m)) :
    d.sess.negoFinish = true ∧
    (∃ key mac, crypto.pbkdf2 d.sess.key.val d.sess.salt.val = .ok key ∧
      crypto.hmac key.val (load data 0 (n - sessHmacLen)) = .ok mac ∧
      mac.val = load data (n - sessHmacLen) sessHmacLen) ∧
    ∃ cmd pid plain, decodeCmdData (load data 0 (n - sessHmacLen)) = .ok cmd ∧
      d.sess.sessId.val = cmd.request.drop (cmd.request.length - sessIdLen) ∧ d.proId = some pid ∧
      crypto.gcmDecrypt d.sess.key.val (cmd.request.take sessIvLen) pid
        ((cmd.request.drop sessIvLen).take (decOutLen cmd.request))
        ((cmd.request.drop (sessIvLen + decOutLen cmd.request)).take sessTagLen) = .ok plain ∧
      m = n - sessHmacLen - cmd.request.length + plain.val.length ∧
      Holds data' (n - sessHmacLen - cmd.request.length) plain.val := by
  have h : linkLayerSessKeyDecrypt (sessEnv crypto d base) data n = .ok (data', m) := h
  rw [linkLayerSessKeyDecrypt] at h
  split at h
  · cases h
  obtain ⟨check, hcheck, h⟩ := bind_eq_ok h
  cases hcheck
  dsimp only at h
  split at h
  · cases h
  rename_i hret
  obtain ⟨hfinish, key, mac, hkey, hmac, heq⟩ := bleSessCheckHmac_ok (answerRet_ok (Decidable.not_not.mp hret))
  obtain ⟨cmd, hcmd, h⟩ := bind_eq_ok h
  split at h
  · cases h
  split at h
  · cases h
  rename_i hbounds
  obtain ⟨decrypt, len, body, hdecrypt, hlen, hopened, hm, hholds⟩ := sessKeyOpen_ok h
  cases hdecrypt
  obtain ⟨hid, pid, plain, hpid, hplain, rfl⟩ := bleSessDecryptData_ok (answer_ok hopened)
  have hsame : plain.val.length = len := by
    rw [plain.length_val, List.length_take, List.length_drop, hlen]
    unfold decOutLen
    omega
  rw [fit_of_length hsame] at hholds
  exact ⟨hfinish, ⟨key, mac, hkey, hmac, heq⟩, cmd, pid, plain, hcmd, hid, hpid, hplain, by rw [hsame]; exact hm, hholds⟩

theorem session_accepts_own_report : ∃ data data' n m,
    linkLayerDecryptData (sessEnv openCrypto sampleDevice transparentEnv) data n .sesskey = .ok (data', m) ∧
      sampleDevice.sess.negoFinish = true := by
  obtain ⟨enc, -, hopens⟩ := sealed_frame_opens openCrypto_lawful sampleDevice_paired ⟨_, rfl⟩
    transparentEnv transparentEnv (fun _ _ _ => rfl) (fun _ _ _ => rfl)
    ⟨btCmdDataModeJson, 2, ⟨[97], by decide, by decide⟩, []⟩ rfl [7] (by decide) (by decide)
  obtain ⟨data', hdata', -⟩ := hopens (store (fun _ => 0) 0 enc) (holds_store _ 0 enc)
  exact ⟨store (fun _ => 0) 0 enc, data', enc.length, _, hdata', (session_accepts_own transparentEnv hdata').1⟩

end IotConnect.BleChannel
