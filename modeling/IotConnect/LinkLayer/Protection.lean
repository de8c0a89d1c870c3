import IotConnect.LinkLayer.Encrypt

/-! # What is encrypted is decrypted to the same frame

What each way to encrypt writes is given by one function of the frame and the callbacks (`sessSeal`,
`spekeSeal`), whatever the buffer held before; so both ways give the same bytes, and decryption takes
them apart again. -/
namespace IotConnect.LinkLayer
open Bytes Memory Speke
set_option autoImplicit false

/-- There is memory for a body that two bytes can count, in its frame and encrypted. -/
def EncryptEnv.HasMem (env : EncryptEnv) : Prop := ∀ n, 0 < n → n ≤ 2 ^ 16 + encDataMaxOverhead → env.mem n = true

/-- The callbacks answer, decryption is the inverse of encryption, and an HMAC that was calculated passes
the check. -/
structure EncryptEnv.Lawful (env : EncryptEnv) : Prop where
  session : ∃ s, env.session = some s
  random : ∃ iv, env.random = .ok iv
  gcm : ∀ key (iv : Block gcmIvLen) x, x ≠ [] → ∃ cipher tag, env.aesGcmEncrypt key iv.val x = .ok (cipher, tag) ∧
    ∃ plain, env.aesGcmDecrypt key iv.val cipher.val tag.val = .ok plain ∧ plain.val = x
  sessKey : ∃ encrypt decrypt, env.sessKeyEncrypt = some encrypt ∧ env.sessKeyDecrypt = some decrypt ∧
    ∀ x, x ≠ [] → ∃ e, encrypt x (sessTotalBodyLen x.length) = .ok e ∧ decrypt e.val x.length = .ok (.ofList x)
  hmac : ∃ cal check, env.sessKeyCalHmac = some cal ∧ env.sessKeyCheckHmac = some check ∧
    ∀ x, x ≠ [] → ∃ h, cal x = .ok h ∧ check x h.val = .ok
  mem : env.HasMem

section
variable (env : EncryptEnv)

theorem EncryptEnv.HasMem.ne_false {env : EncryptEnv} (h : env.HasMem) {n : ℕ} (hpos : 0 < n)
    (hle : n ≤ 65628) : ¬ env.mem n = false := by
  rw [h n hpos hle]
  decide

/-! ## Session key -/

theorem sessTotalBodyLen_eq (n : ℕ) : sessTotalBodyLen n = n + 60 := by
  unfold sessTotalBodyLen sessIvLen sessTagLen sessIdLen
  omega

section
variable (cmdParam : BtCmdParam) (body : List UInt8)

def sessSeal : Except IotcRet (List UInt8) := do
  let encrypt ← callback env.sessKeyEncrypt
  let e ← encrypt body (sessTotalBodyLen body.length)
  let calHmac ← callback env.sessKeyCalHmac
  let hmac ← calHmac (svcHeader cmdParam (sessTotalBodyLen body.length) ++ e.val)
  return svcHeader cmdParam (sessTotalBodyLen body.length) ++ e.val ++ hmac.val

theorem holds_header (m : ℕ → UInt8) (n k : ℕ) :
    Holds (store (store m 0 (svcHeader cmdParam n)) ((svcHeader cmdParam n).length - svcPayloadLenLen)
      (payloadLenBytes k)) 0 (svcHeader cmdParam k) := by
  have hstart : (svcHeader cmdParam n).length - svcPayloadLenLen = 0 + (svcHeaderStart cmdParam).length := by
    rw [svcHeader, List.length_append, Nat.zero_add]
    exact Nat.add_sub_cancel _ _
  rw [hstart]
  exact ((holds_append _ _ _ _).mp (holds_store m 0 (svcHeader cmdParam n))).1.store_append _

theorem sessKeyFill_eq (m : ℕ → UInt8) {cmd : BtCmdParam} (hrequest : cmd.request = body) {outLen : ℕ}
    (hlen : outLen = (svcHeader cmdParam body.length).length + sessTotalBodyLen body.length + sessHmacLen) :
    (sessKeyFill env (svcHeader cmdParam body.length ++ body) cmd m outLen).map (fun out => load out 0 outLen) =
      sessSeal env cmdParam body := by
  have hheader : (svcHeader cmdParam body.length ++ body).length - body.length =
      (svcHeader cmdParam body.length).length := by
    rw [List.length_append]
    exact Nat.add_sub_cancel _ _
  have hpos := svcHeader_length cmdParam body.length
  have hhead := svcHeader_length cmdParam (sessTotalBodyLen body.length)
  have hbody : outLen - (svcHeader cmdParam body.length).length - sessHmacLen = sessTotalBodyLen body.length := by omega
  have hmac : outLen - sessHmacLen = (svcHeader cmdParam body.length).length + sessTotalBodyLen body.length := by omega
  rw [sessKeyFill]
  dsimp only
  rw [hrequest, hheader, List.take_left, memcpyS_of_le _ _ _ _ (by omega) (by omega)]
  dsimp only
  rw [if_neg (by unfold svcPayloadLenLen; omega), hbody, hmac, sessSeal]
  have hstart := holds_header cmdParam m body.length (sessTotalBodyLen body.length)
  cases callback env.sessKeyEncrypt with
  | error ret => rfl
  | ok encrypt =>
    rw [ok_bind, ok_bind]
    cases encrypt body (sessTotalBodyLen body.length) with
    | error ret => rfl
    | ok e =>
      have he := hstart.store_append e.val
      rw [Nat.zero_add, hhead, ← hpos] at he
      have hload := he
      rw [Holds, List.length_append, e.length_val, hhead, ← hpos] at hload
      rw [ok_bind, ok_bind]
      cases callback env.sessKeyCalHmac with
      | error ret => rfl
      | ok calHmac =>
        rw [ok_bind, ok_bind, hload]
        cases calHmac (svcHeader cmdParam (sessTotalBodyLen body.length) ++ e.val) with
        | error ret => rfl
        | ok hmac =>
          have hwhole := he.store_append hmac.val
          rw [Nat.zero_add, List.length_append, e.length_val, hhead, ← hpos] at hwhole
          have hout : outLen =
              (svcHeader cmdParam (sessTotalBodyLen body.length) ++ e.val ++ hmac.val).length := by
            rw [List.length_append, List.length_append, e.length_val, hmac.length_val]
            omega
          rw [ok_bind, ok_bind]
          exact congrArg Except.ok (by rw [hout]; exact hwhole)

theorem sessKeyOpen_eq {decrypt : List UInt8 → (n : ℕ) → Except IotcRet (Block n)}
    (hdecrypt : env.sessKeyDecrypt = some decrypt) (hmem : env.HasMem) (hshort : sessTotalBodyLen body.length < 2 ^ 16)
    {cmd : BtCmdParam} (hrequest : cmd.request.length = sessTotalBodyLen body.length)
    (hd : decrypt cmd.request body.length = .ok (.ofList body)) {data : ℕ → UInt8} {dataLen : ℕ}
    (hdata : Holds data 0 (svcHeader cmdParam (sessTotalBodyLen body.length)))
    (hlen : dataLen = (svcHeader cmdParam body.length).length + sessTotalBodyLen body.length + sessHmacLen) :
    ∃ data', sessKeyOpen env data dataLen cmd = .ok (data', (svcHeader cmdParam body.length ++ body).length) ∧
      Holds data' 0 (svcHeader cmdParam body.length ++ body) := by
  have hpos := svcHeader_length cmdParam body.length
  have hhead := svcHeader_length cmdParam (sessTotalBodyLen body.length)
  have hsame : dataLen - sessHmacLen - cmd.request.length =
      (svcHeader cmdParam (sessTotalBodyLen body.length)).length := by omega
  have htotal := sessTotalBodyLen_eq body.length
  have hname := cmdParam.service.short
  unfold btSvcLen at hname
  have hdec : cmd.request.length - sessTagLen - sessIvLen - sessIdLen = body.length := by
    unfold sessTagLen sessIvLen sessIdLen
    omega
  rw [sessKeyOpen]
  dsimp only
  rw [hsame, hdec, if_neg (hmem.ne_false (by omega) (by omega)), hdata, memcpyS_of_le _ _ _ _ (by omega) (by omega)]
  dsimp only
  have hheader := holds_header cmdParam (fun _ => 0) (sessTotalBodyLen body.length) body.length
  have hwhole := hheader.store_append body
  rw [Nat.zero_add, hpos, ← hhead] at hwhole
  have hload := hwhole
  rw [Holds, List.length_append, hpos, ← hhead] at hload
  rw [if_neg (by unfold svcPayloadLenLen; omega), hdecrypt]
  dsimp only [callback]
  rw [ok_bind, Nat.add_sub_cancel_left, hd, ok_bind, Block.ofList_val, hload, memcpyS_of_le _ _ _ _ (by omega)
    (by rw [List.length_append, hlen, htotal]; omega)]
  dsimp only
  rw [if_pos (by rw [hlen, hhead, hpos]; unfold sessHmacLen; omega), List.length_append, hpos, ← hhead]
  refine ⟨_, rfl, ?_⟩
  rw [Holds, load_store_before _ _ _ _ _ (by rw [List.length_append, hpos]; omega)]
  exact holds_store _ _ _

variable (hformat : cmdParam.dataFormat = btCmdDataModeJson) (hbody : body ≠ [])
include hformat hbody

theorem sessKeyCmdParam_frame (hlen : body.length < 2 ^ 16) :
    ∃ cmd, sessKeyCmdParam (svcHeader cmdParam body.length ++ body) = .ok cmd ∧ cmd.request = body := by
  have hpos := svcHeader_length cmdParam body.length
  rw [sessKeyCmdParam, decodeCmdData_svcHeader cmdParam hformat hlen, ok_bind]
  exact ⟨_, if_pos ⟨hbody, by rw [List.length_append]; dsimp only; omega⟩, rfl⟩

omit hformat hbody in
theorem sessOutLen_frame {cmd : BtCmdParam} (hrequest : cmd.request = body) :
    sessOutLen (svcHeader cmdParam body.length ++ body) cmd =
      (svcHeader cmdParam body.length).length + sessTotalBodyLen body.length + sessHmacLen := by
  rw [sessOutLen, hrequest, List.length_append, Nat.add_sub_cancel]

theorem linkLayerSessKeyEncrypt_eq (hlen : sessTotalBodyLen body.length < 2 ^ 16) (hmem : env.HasMem) :
    linkLayerSessKeyEncrypt env (svcHeader cmdParam body.length ++ body) = sessSeal env cmdParam body := by
  have htotal := sessTotalBodyLen_eq body.length
  have hpos := svcHeader_length cmdParam body.length
  have hname := cmdParam.service.short
  unfold btSvcLen at hname
  obtain ⟨cmd, hcmd, hrequest⟩ := sessKeyCmdParam_frame cmdParam body hformat hbody (by omega)
  have hout := sessOutLen_frame cmdParam body hrequest
  have hmac : sessHmacLen = 32 := rfl
  have hne : svcHeader cmdParam body.length ++ body ≠ [] := fun h => hbody (List.append_eq_nil_iff.mp h).2
  rw [linkLayerSessKeyEncrypt, if_neg hne, hcmd, ok_bind]
  dsimp only
  rw [if_neg (hmem.ne_false (by omega) (by omega)), ← sessKeyFill_eq env cmdParam body _ hrequest hout]
  rfl

theorem linkLayerSessKeyEncryptInto_eq (hlen : body.length < 2 ^ 16) (out : LinkLayerEncryptOut)
    (hcap : (svcHeader cmdParam body.length ++ body).length + sessEncDataMaxOverhead ≤ out.buffCap) :
    (linkLayerSessKeyEncryptInto env (svcHeader cmdParam body.length ++ body) out).map Written.bytes =
      sessSeal env cmdParam body := by
  obtain ⟨cmd, hcmd, hrequest⟩ := sessKeyCmdParam_frame cmdParam body hformat hbody hlen
  have hne : svcHeader cmdParam body.length ++ body ≠ [] := fun h => hbody (List.append_eq_nil_iff.mp h).2
  have hout := sessOutLen_frame cmdParam body hrequest
  have hfits : ¬ out.buffCap < sessOutLen (svcHeader cmdParam body.length ++ body) cmd := by
    rw [List.length_append] at hcap
    rw [hout, sessTotalBodyLen_eq]
    unfold sessEncDataMaxOverhead at hcap
    unfold sessHmacLen
    omega
  rw [linkLayerSessKeyEncryptInto, if_neg hne, hcmd, ok_bind]
  dsimp only
  rw [if_neg hfits, ← sessKeyFill_eq env cmdParam body _ hrequest hout]
  cases sessKeyFill env _ cmd _ _ <;> rfl

theorem linkLayerSessKeyDecrypt_eq (hmem : env.HasMem) (hlen : sessTotalBodyLen body.length < 2 ^ 16)
    {decrypt : List UInt8 → (n : ℕ) → Except IotcRet (Block n)} (hdecrypt : env.sessKeyDecrypt = some decrypt)
    {e : List UInt8} (he : e.length = sessTotalBodyLen body.length) (hd : decrypt e body.length = .ok (.ofList body))
    {check : List UInt8 → List UInt8 → IotcRet} (hcheck : env.sessKeyCheckHmac = some check)
    {mac : List UInt8} (hmac : mac.length = sessHmacLen)
    (hok : check (svcHeader cmdParam (sessTotalBodyLen body.length) ++ e) mac = .ok)
    {data : ℕ → UInt8} (hdata : Holds data 0 (svcHeader cmdParam (sessTotalBodyLen body.length) ++ e ++ mac)) :
    ∃ data', linkLayerSessKeyDecrypt env data
          (svcHeader cmdParam (sessTotalBodyLen body.length) ++ e ++ mac).length =
        .ok (data', (svcHeader cmdParam body.length ++ body).length) ∧
      Holds data' 0 (svcHeader cmdParam body.length ++ body) := by
  have hpos := svcHeader_length cmdParam body.length
  have hhead := svcHeader_length cmdParam (sessTotalBodyLen body.length)
  have hne := List.length_pos_iff.mpr hbody
  have hsealed : (svcHeader cmdParam (sessTotalBodyLen body.length) ++ e).length =
      (svcHeader cmdParam body.length).length + sessTotalBodyLen body.length := by
    rw [List.length_append, he, hhead, hpos]
  have htotal := sessTotalBodyLen_eq body.length
  obtain ⟨hbytes, hmacAt⟩ := (holds_append _ _ _ _).mp hdata
  rw [Holds, hmac, Nat.zero_add] at hmacAt
  have hstart := ((holds_append _ _ _ _).mp hbytes).1
  rw [Holds] at hbytes
  have hdecode := decodeCmdData_svcHeader cmdParam hformat (he ▸ hlen)
  rw [he] at hdecode
  rw [linkLayerSessKeyDecrypt, List.length_append, hmac, if_neg (by rw [hsealed, htotal]; omega), hcheck]
  dsimp only [callback]
  rw [ok_bind, Nat.add_sub_cancel, hbytes, hmacAt, hok, if_neg (by decide), hdecode, ok_bind]
  dsimp only
  rw [if_neg (List.ne_nil_of_length_pos (by omega)),
    if_neg (by rw [he, hsealed, htotal]; unfold sessTagLen sessIvLen sessIdLen; omega)]
  exact sessKeyOpen_eq env cmdParam body hdecrypt hmem hlen he hd hstart (by rw [hsealed])

theorem linkLayerSessKeyDecrypt_sessSeal (henv : env.Lawful) (hlen : sessTotalBodyLen body.length < 2 ^ 16) :
    ∃ enc, sessSeal env cmdParam body = .ok enc ∧ ∀ data, Holds data 0 enc →
      ∃ data', linkLayerSessKeyDecrypt env data enc.length =
          .ok (data', (svcHeader cmdParam body.length ++ body).length) ∧
        Holds data' 0 (svcHeader cmdParam body.length ++ body) := by
  obtain ⟨encrypt, decrypt, hencrypt, hdecrypt, hinverse⟩ := henv.sessKey
  obtain ⟨cal, check, hcal, hcheck, hpasses⟩ := henv.hmac
  obtain ⟨e, he, hd⟩ := hinverse body hbody
  obtain ⟨mac, hmac, hok⟩ := hpasses (svcHeader cmdParam (sessTotalBodyLen body.length) ++ e.val) (by simp [svcHeader,
    svcHeaderStart])
  refine ⟨svcHeader cmdParam (sessTotalBodyLen body.length) ++ e.val ++ mac.val, ?_, ?_⟩
  · rw [sessSeal, hencrypt, hcal]
    dsimp only [callback]
    rw [ok_bind, he, ok_bind, ok_bind, hmac]
    rfl
  · intro data hdata
    exact linkLayerSessKeyDecrypt_eq env cmdParam body hformat hbody henv.mem hlen hdecrypt e.length_val hd hcheck
      mac.length_val hok hdata

end

/-! ## SPEKE -/

section
variable (session : SpekeSession) (frame : List UInt8)

def spekeSeal : Except IotcRet (List UInt8) := do
  let iv ← env.random
  let (cipher, tag) ← env.aesGcmEncrypt session.dataEncKey iv.val frame
  return [gcmVersion] ++ (iv.val ++ cipher.val ++ tag.val)

theorem spekeFill_eq (m : ℕ → UInt8) {needed : ℕ} (hneeded : needed = frame.length + spekeEncDataMinLen) :
    (spekeFill env session frame m needed).map (fun out => load out 0 needed) = spekeSeal env session frame := by
  rw [spekeFill, spekeSeal]
  cases env.random with
  | error ret => rfl
  | ok iv =>
    have hiv := holds_store m gcmVerLen iv.val
    have hload := hiv
    rw [Holds, iv.length_val] at hload
    rw [ok_bind, ok_bind]
    dsimp only
    rw [hload]
    cases env.aesGcmEncrypt session.dataEncKey iv.val frame with
    | error ret => rfl
    | ok sealed =>
      obtain ⟨cipher, tag⟩ := sealed
      have htagAt : needed - gcmTagLen = gcmVerLen + (iv.val ++ cipher.val).length := by
        rw [List.length_append, iv.length_val, cipher.length_val]
        unfold spekeEncDataMinLen at hneeded
        omega
      have hcipher := hiv.store_append cipher.val
      rw [iv.length_val] at hcipher
      have htag := hcipher.store_append tag.val
      rw [← htagAt] at htag
      have hwhole : Holds (store _ 0 [gcmVersion]) 0 ([gcmVersion] ++ (iv.val ++ cipher.val ++ tag.val)) :=
        Holds.store_before htag
      have hlen : needed = ([gcmVersion] ++ (iv.val ++ cipher.val ++ tag.val)).length := by
        simp only [List.length_append, iv.length_val, cipher.length_val, tag.length_val, List.length_singleton]
        unfold spekeEncDataMinLen gcmVerLen at hneeded
        omega
      rw [ok_bind, ok_bind]
      exact congrArg Except.ok (by rw [hlen] at hwhole ⊢; exact hwhole)

variable {frame} (hne : frame ≠ []) (hlen : frame.length ≤ spekeDecDataMaxLen)
include hne hlen

theorem linkLayerSpekeEncrypt_eq (hmem : ¬ env.mem (frame.length + spekeEncDataMinLen) = false) :
    linkLayerSpekeEncrypt env frame = (getLinkLayerSpekeSession env >>= fun session => spekeSeal env session frame) := by
  rw [linkLayerSpekeEncrypt, if_neg hne]
  congr 1
  funext session
  rw [spekeEncryptData, if_neg (by simp [hne]; omega)]
  dsimp only
  rw [if_neg hmem, ← spekeFill_eq env session frame _ rfl]
  rfl

theorem linkLayerSpekeEncryptInto_eq (out : LinkLayerEncryptOut)
    (hcap : frame.length + spekeEncDataMaxOverhead ≤ out.buffCap) :
    (linkLayerSpekeEncryptInto env frame out).map Written.bytes =
      (getLinkLayerSpekeSession env >>= fun session => spekeSeal env session frame) := by
  rw [linkLayerSpekeEncryptInto, if_neg hne]
  cases getLinkLayerSpekeSession env with
  | error ret => rfl
  | ok session =>
    rw [ok_bind, ok_bind, spekeEncryptDataInto, if_neg (by simp [hne]; omega)]
    dsimp only
    have hfits : ¬ out.buffCap < frame.length + spekeEncDataMinLen := Nat.not_lt.mpr hcap
    rw [if_neg hfits, ← spekeFill_eq env session frame _ rfl]
    cases spekeFill env session frame _ _ <;> rfl

omit hlen in
theorem linkLayerSpekeDecrypt_spekeSeal (henv : env.Lawful) {session : SpekeSession}
    (hsession : env.session = some session) :
    ∃ enc, spekeSeal env session frame = .ok enc ∧ ∀ data, Holds data 0 enc →
      ∃ data', linkLayerSpekeDecrypt env data enc.length = .ok (data', frame.length) ∧ Holds data' 0 frame := by
  obtain ⟨iv, hiv⟩ := henv.random
  obtain ⟨cipher, tag, hencrypt, plain, hdecrypt, hplain⟩ := henv.gcm session.dataEncKey iv frame hne
  refine ⟨[gcmVersion] ++ (iv.val ++ cipher.val ++ tag.val), ?_, ?_⟩
  · rw [spekeSeal, hiv, ok_bind, hencrypt]
    rfl
  intro data hdata
  have hpos := List.length_pos_iff.mpr hne
  have henc : ([gcmVersion] ++ (iv.val ++ cipher.val ++ tag.val)).length = frame.length + spekeEncDataMinLen := by
    simp only [List.length_append, iv.length_val, cipher.length_val, tag.length_val, List.length_singleton]
    unfold spekeEncDataMinLen gcmVerLen
    omega
  obtain ⟨-, hrest⟩ := (holds_append _ _ _ _).mp hdata
  obtain ⟨hivCipher, htag⟩ := (holds_append _ _ _ _).mp hrest
  obtain ⟨hivAt, hcipher⟩ := (holds_append _ _ _ _).mp hivCipher
  rw [Holds, iv.length_val] at hivAt
  rw [Holds, cipher.length_val, iv.length_val] at hcipher
  rw [Holds, tag.length_val, List.length_append, iv.length_val, cipher.length_val] at htag
  have htagAt : frame.length + spekeEncDataMinLen - gcmTagLen =
      0 + [gcmVersion].length + (gcmIvLen + frame.length) := by
    rw [List.length_singleton]
    unfold spekeEncDataMinLen gcmVerLen
    omega
  rw [linkLayerSpekeDecrypt, getLinkLayerSpekeSession, hsession, henc]
  dsimp only
  rw [ok_bind, spekeDecryptDataInPlace, if_neg (by omega), spekeDecryptDataTo, if_neg (by omega)]
  dsimp only
  rw [if_neg (Nat.lt_irrefl _), Nat.add_sub_cancel, htagAt, htag]
  change ∃ data', (do
      let written ← (do
        let plain ← env.aesGcmDecrypt session.dataEncKey (load data (0 + [gcmVersion].length) gcmIvLen)
          (load data (0 + [gcmVersion].length + gcmIvLen) frame.length) tag.val
        return (store data 0 plain.val, frame.length) : Except IotcRet Written)
      return (if written.2 < frame.length + spekeEncDataMinLen then store written.1 written.2 [0] else written.1,
        written.2)) = _ ∧ _
  rw [hivAt, hcipher, hdecrypt, ok_bind]
  refine ⟨store (store data 0 plain.val) frame.length [0], ?_, ?_⟩
  · exact congrArg Except.ok (Prod.ext (if_pos (Nat.lt_add_of_pos_right (by decide))) rfl)
  · rw [hplain, Holds, load_store_before _ _ _ _ _ (by omega)]
    exact holds_store _ _ _

end

end

/-! ## The round trip -/

theorem svcHeader_append_ne_nil (cmdParam : BtCmdParam) {n : ℕ} {body : List UInt8} (hbody : body ≠ []) :
    svcHeader cmdParam n ++ body ≠ [] := fun h => hbody (List.append_eq_nil_iff.mp h).2

/-- **A service frame is encrypted to the same bytes in both ways, in a buffer that has room for the
overhead, and decrypted to the frame again.** -/
theorem linkLayerEncrypt_roundTrip {env : EncryptEnv} (henv : env.Lawful) {body frame : List UInt8}
    (hframe : SvcFrame body frame) (hlen : body.length + (sessIvLen + sessTagLen + sessIdLen) ≤ 65535)
    {encryptType : LinkLayerEncryptType} (htype : encryptType ∈ [.unencrypted, .speke, .sesskey]) :
    ∃ enc, linkLayerEncryptData env frame encryptType = .ok enc ∧
      (∀ out, frame.length + encDataMaxOverhead ≤ out.buffCap →
        (linkLayerEncryptDataInto env frame encryptType out).map Written.bytes = .ok enc) ∧
      ∀ data, Holds data 0 enc →
        ∃ data', linkLayerDecryptData env data enc.length encryptType = .ok (data', frame.length) ∧
          Holds data' 0 frame := by
  obtain ⟨cmdParam, hformat, hbody, rfl⟩ := hframe.eq_header
  have hne := svcHeader_append_ne_nil cmdParam (n := body.length) hbody
  have htotal := sessTotalBodyLen_eq body.length
  have hsmall : body.length + 60 ≤ 65535 := hlen
  have hpos := List.length_pos_iff.mpr hne
  have hshort : (svcHeader cmdParam body.length ++ body).length ≤ 65510 := by
    have hname := cmdParam.service.short
    unfold btSvcLen at hname
    rw [List.length_append, svcHeader_length]
    omega
  cases encryptType with
  | unencrypted =>
    rw [linkLayerEncryptData, if_neg hne]
    have hcopy : ¬ maxMallocCopyLen < (svcHeader cmdParam body.length ++ body).length := by
      unfold maxMallocCopyLen
      omega
    refine ⟨_, if_neg ?_, fun out hcap => ?_, fun data hdata => ⟨data, rfl, hdata⟩⟩
    · rintro (h | h | h)
      · exact hne h
      · exact hcopy h
      · exact henv.mem.ne_false hpos (by omega) h
    have hle := Nat.le_trans (Nat.le_add_right _ _) hcap
    rw [linkLayerEncryptDataInto, if_neg hne, if_neg (Nat.not_lt.mpr hle), memcpyS_of_le _ _ _ _ (by omega) hle]
    exact congrArg Except.ok (load_store_self out.buff 0 (svcHeader cmdParam body.length ++ body))
  | speke =>
    obtain ⟨session, hsession⟩ := henv.session
    have hmax : (svcHeader cmdParam body.length ++ body).length ≤ spekeDecDataMaxLen := by
      unfold spekeDecDataMaxLen
      omega
    have hmin : spekeEncDataMinLen = 29 := rfl
    have hget : getLinkLayerSpekeSession env = .ok session := by rw [getLinkLayerSpekeSession, hsession]
    obtain ⟨enc, henc, hdec⟩ := linkLayerSpekeDecrypt_spekeSeal env hne henv hsession
    refine ⟨enc, ?_, fun out hcap => ?_, hdec⟩
    · rw [linkLayerEncryptData, if_neg hne, linkLayerSpekeEncrypt_eq env hne hmax
        (henv.mem.ne_false (by omega) (by omega)), hget, ok_bind, henc]
    · rw [linkLayerEncryptDataInto, if_neg hne, linkLayerSpekeEncryptInto_eq env hne hmax out
        (Nat.le_trans (Nat.add_le_add_left (Nat.le_max_right _ _) _) hcap), hget, ok_bind, henc]
  | sesskey =>
    obtain ⟨enc, henc, hdec⟩ :=
      linkLayerSessKeyDecrypt_sessSeal env cmdParam body hformat hbody henv (by omega)
    refine ⟨enc, ?_, fun out hcap => ?_, hdec⟩
    · rw [linkLayerEncryptData, if_neg hne, linkLayerSessKeyEncrypt_eq env cmdParam body hformat hbody (by omega) henv.mem, henc]
    · rw [linkLayerEncryptDataInto, if_neg hne, linkLayerSessKeyEncryptInto_eq env cmdParam body hformat hbody (by omega) out
        (Nat.le_trans (Nat.add_le_add_left (Nat.le_max_left _ _) _) hcap), henc]
  | sts => simp at htype
  | null => simp at htype

def fit (x : List UInt8) (n : ℕ) : Block n :=
  ⟨(x ++ List.replicate n 0).take n, by rw [List.length_take, List.length_append, List.length_replicate]; omega⟩

def transparentEnv : EncryptEnv where
  session := some ⟨.server, false, [], none, .zero _⟩
  sessKeyExist := true
  random := .ok (.zero _)
  aesGcmEncrypt := fun _ _ data => .ok (.ofList data, .zero _)
  aesGcmDecrypt := fun _ _ data _ => .ok (.ofList data)
  sessKeyEncrypt := some fun x n => .ok (fit x n)
  sessKeyDecrypt := some fun x n => .ok (fit x n)
  sessKeyCalHmac := some fun _ => .ok (.zero _)
  sessKeyCheckHmac := some fun _ _ => .ok
  mem := fun _ => true

theorem fit_fit (x : List UInt8) {n : ℕ} (h : x.length ≤ n) : fit (fit x n).val x.length = .ofList x := by
  apply Subtype.ext
  change (((x ++ List.replicate n 0).take n) ++ List.replicate x.length 0).take x.length = x
  rw [List.take_append_of_le_length (by rw [List.length_take, List.length_append]; omega), List.take_take,
    Nat.min_eq_left h, List.take_left]

theorem transparentEnv_lawful : transparentEnv.Lawful where
  session := ⟨_, rfl⟩
  random := ⟨_, rfl⟩
  gcm := fun _ _ x _ => ⟨.ofList x, .zero _, rfl, .ofList x, rfl, rfl⟩
  sessKey := ⟨_, _, rfl, rfl, fun x _ => ⟨_, rfl, congrArg Except.ok (fit_fit x (by rw [sessTotalBodyLen_eq]; omega))⟩⟩
  hmac := ⟨_, _, rfl, rfl, fun _ _ => ⟨_, rfl, rfl⟩⟩
  mem := fun _ _ _ => rfl

theorem linkLayerEncrypt_roundTrip_report :
    ∃ enc, linkLayerEncryptData transparentEnv [0x12, 1, 97, 2, 0, 7, 8] .sesskey = .ok enc ∧
      (∀ out, 7 + encDataMaxOverhead ≤ out.buffCap →
        (linkLayerEncryptDataInto transparentEnv [0x12, 1, 97, 2, 0, 7, 8] .sesskey out).map Written.bytes = .ok enc) ∧
      ∀ data, Holds data 0 enc →
        ∃ data', linkLayerDecryptData transparentEnv data enc.length .sesskey = .ok (data', 7) ∧
          Holds data' 0 [0x12, 1, 97, 2, 0, 7, 8] :=
  linkLayerEncrypt_roundTrip transparentEnv_lawful
    (SvcFrame.report (show createRptCmdData true
      [⟨⟨[97], by decide, by decide⟩, 8, none, none, none⟩] [97] [7, 8] .sesskey = .ok _ from rfl)) (by decide) (by decide)

end IotConnect.LinkLayer
