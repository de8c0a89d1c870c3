import IotConnect.Common.Hex
import IotConnect.Common.JsonUtils

/-! # The configuration of the device

`config_info.c`, `config_authinfo.c`, `config_login_info.c` and `dev_svc_auth_setup.c`. The values are the fields of a
structure in memory (`g_storeInfo`) and are committed to the store together; `cloud` is
`IOTC_CONNECT_WIFI_CLOUD_SUPPORT`, without which there are no items for the login, and `commit` is what
`SecurityStoreCommit` does to the memory and the store. -/
namespace IotConnect.Device
open Bytes Memory
set_option autoImplicit false

/-! ## Items -/

inductive ConfigInfoKey
  | revokeFlag
  | deviceId
  | loginSecret
  | loginPsk
  | loginUrl
  | loginBackupUrl
  | uidHash
  | authcodeId
  | authcode
  | netinfoFlag
  deriving DecidableEq

def deviceIdMaxStrLen : ℕ := 40

def cloudSecretMaxStrLen : ℕ := 40

def cloudMaxUrlLen : ℕ := 64

def cloudPskMaxLen : ℕ := 16

def bleUidHashLen : ℕ := 64

def bleAuthcodeIdLen : ℕ := 32

def bleAuthcodeLen : ℕ := 16

/-- The sizes of the fields of `StoreDataInfoV1`. -/
def ConfigInfoKey.size : ConfigInfoKey → ℕ
  | revokeFlag => 1
  | deviceId => deviceIdMaxStrLen + 1
  | loginSecret => cloudSecretMaxStrLen + 1
  | loginPsk => cloudPskMaxLen
  | loginUrl => cloudMaxUrlLen + 1
  | loginBackupUrl => cloudMaxUrlLen + 1
  | uidHash => bleUidHashLen + 1
  | authcodeId => bleAuthcodeIdLen + 1
  | authcode => bleAuthcodeLen
  | netinfoFlag => 1

theorem ConfigInfoKey.size_pos (key : ConfigInfoKey) : 0 < key.size := by
  cases key <;> decide

def configList (cloud : Bool) : List ConfigInfoKey :=
  [.revokeFlag, .deviceId] ++ (if cloud then [.loginSecret, .loginPsk, .loginUrl, .loginBackupUrl] else []) ++
    [.uidHash, .authcodeId, .authcode, .netinfoFlag]

def getConfigInfoItem (cloud : Bool) (key : ConfigInfoKey) : Option ConfigInfoKey :=
  (configList cloud).find? fun item => item = key

/-- The fields of `StoreDataInfoV1` are behind its version, in the order of the table. -/
def ConfigInfoKey.offset (cloud : Bool) (key : ConfigInfoKey) : ℕ :=
  1 + (((configList cloud).takeWhile fun item => item ≠ key).map ConfigInfoKey.size).sum

def storeDataVer : UInt8 := 1

def field (cloud : Bool) (mem : ℕ → UInt8) (key : ConfigInfoKey) : Block key.size :=
  ⟨load mem (key.offset cloud) key.size, load_length _ _ _⟩

/-- `g_storeInfo`, and the store. -/
structure Config (β : Type) where
  mem : ℕ → UInt8
  flash : β

abbrev Commit (β : Type) : Type := Config β → IotcRet × Config β

variable {β : Type}

def Config.put (cloud : Bool) (s : Config β) (key : ConfigInfoKey) (data : List UInt8) : Config β :=
  { s with mem := store s.mem (key.offset cloud) data }

def configInfoGet (cloud : Bool) (s : Config β) (key : ConfigInfoKey) (len : ℕ) : Except IotcErr (Block key.size) :=
  if len = 0 then .error ⟨.errParamInvalid, IotcRet.errParamInvalid_ne_ok⟩
  else
    match getConfigInfoItem cloud key with
    | none => .error ⟨.errParamInvalid, IotcRet.errParamInvalid_ne_ok⟩
    | some item =>
      if item.size ≤ len then .ok (field cloud s.mem key) else .error ⟨.errParamInvalid, IotcRet.errParamInvalid_ne_ok⟩

def configInfoSet (cloud : Bool) (key : ConfigInfoKey) (data : List UInt8) (s : Config β) : IotcRet × Config β :=
  if data.length = 0 then (.errParamInvalid, s)
  else
    match getConfigInfoItem cloud key with
    | none => (.errParamInvalid, s)
    | some item => if data.length ≤ item.size then (.ok, s.put cloud key data) else (.errParamInvalid, s)

def configInfoClear (cloud : Bool) (key : ConfigInfoKey) (s : Config β) : IotcRet × Config β :=
  match getConfigInfoItem cloud key with
  | none => (.errParamInvalid, s)
  | some item => (.ok, s.put cloud key (List.replicate item.size 0))

/-- The memory that `ConfigInfoSave` commits. -/
def Config.versioned (s : Config β) : Config β := { s with mem := store s.mem 0 [storeDataVer] }

def configInfoSave (commit : Commit β) (s : Config β) : IotcRet × Config β := commit s.versioned

/-! ## Records -/

@[ext]
structure DevAuthInfo where
  devId : Block (deviceIdMaxStrLen + 1)
  uidHash : Block (bleUidHashLen + 1)
  authCodeId : Block (bleAuthcodeIdLen + 1)
  authCode : Block bleAuthcodeLen
  deriving DecidableEq

@[ext]
structure DevLoginInfo where
  devId : Block (deviceIdMaxStrLen + 1)
  secret : Block (cloudSecretMaxStrLen + 1)
  psk : Block cloudPskMaxLen
  url : Block (cloudMaxUrlLen + 1)
  backupUrl : Block (cloudMaxUrlLen + 1)
  deriving DecidableEq

abbrev SaveItem : Type := (key : ConfigInfoKey) × Block key.size

def authSaveInfo (info : DevAuthInfo) : List SaveItem :=
  [⟨.deviceId, info.devId⟩, ⟨.authcodeId, info.authCodeId⟩, ⟨.authcode, info.authCode⟩, ⟨.uidHash, info.uidHash⟩]

/-- The loop over the items of a record, which ends at the first one that cannot be set. -/
def setItems (cloud : Bool) : List SaveItem → Config β → IotcRet × Config β
  | [], s => (.ok, s)
  | item :: items, s =>
    match configInfoSet cloud item.1 item.2.val s with
    | (.ok, s') => setItems cloud items s'
    | r => r

def saveItems (cloud : Bool) (commit : Commit β) (items : List SaveItem) (s : Config β) : IotcRet × Config β :=
  match setItems cloud items s with
  | (.ok, s') => configInfoSave commit s'
  | r => r

def configSaveAuthInfo (cloud : Bool) (commit : Commit β) (info : DevAuthInfo) (s : Config β) : IotcRet × Config β :=
  saveItems cloud commit (authSaveInfo info) s

def configGetAuthInfo (cloud : Bool) (s : Config β) : Except IotcErr DevAuthInfo := do
  let devId ← configInfoGet cloud s .deviceId (deviceIdMaxStrLen + 1)
  let authCodeId ← configInfoGet cloud s .authcodeId (bleAuthcodeIdLen + 1)
  let authCode ← configInfoGet cloud s .authcode bleAuthcodeLen
  let uidHash ← configInfoGet cloud s .uidHash (bleUidHashLen + 1)
  return ⟨devId, uidHash, authCodeId, authCode⟩

def isDeviceBinded (cloud : Bool) (s : Config β) : Bool :=
  match configInfoGet cloud s .deviceId (deviceIdMaxStrLen + 1) with
  | .ok devId => cString devId.val ≠ []
  | .error _ => false

/-! ## Auth info from a peer -/

section
variable (J : JsonAdapter)

def filled (n : ℕ) (bytes : List UInt8) : Block n := ⟨(bytes ++ List.replicate n 0).take n, by simp⟩

def jsonField (req : J.Obj) (name : String) (n : ℕ) : Except IotcErr (Block n) :=
  (utilsJsonGetString J req name n).map (filled n)

def jsonAuthCode (req : J.Obj) : Except IotcErr (Block bleAuthcodeLen) :=
  match utilsJsonGetString J req "authCode" (2 * bleAuthcodeLen + 1) with
  | .error ret => .error ret
  | .ok authCode =>
    match utilsUnhexify authCode bleAuthcodeLen with
    | none => .error ⟨.utilsErrUnhexify, IotcRet.utilsErrUnhexify_ne_ok⟩
    | some bytes => .ok (filled bleAuthcodeLen bytes)

/-- There is no `uidHash` when the binding is not over BLE. -/
def getAuthInfoFromJson (req : J.Obj) : Except IotcErr DevAuthInfo := do
  let devId ← jsonField J req "devId" (deviceIdMaxStrLen + 1)
  let authCode ← jsonAuthCode J req
  let authCodeId ← jsonField J req "authCodeId" (bleAuthcodeIdLen + 1)
  let uidHash := match jsonField J req "uidHash" (bleUidHashLen + 1) with
    | .ok uidHash => uidHash
    | .error _ => Block.zero (bleUidHashLen + 1)
  return ⟨devId, uidHash, authCodeId, authCode⟩

def uidHashDiffers (recv cur : DevAuthInfo) : Bool :=
  (cString cur.uidHash.val).length ≠ 0 ∧ cString recv.uidHash.val ≠ cString cur.uidHash.val

def deviceServiceRecvAuthInfo (cloud : Bool) (commit : Commit β) (json : Option J.Obj) (s : Config β) :
    IotcRet × Config β :=
  match json with
  | none => (.errParamInvalid, s)
  | some req =>
    match getAuthInfoFromJson J req with
    | .error ret => (ret.val, s)
    | .ok recv =>
      match configGetAuthInfo cloud s with
      | .error ret => (ret.val, s)
      | .ok cur => if uidHashDiffers recv cur then (.bleUidhashNotMatch, s) else configSaveAuthInfo cloud commit recv s

end

/-! ## What the functions do -/

namespace Config

def authInfo (cloud : Bool) (s : Config β) : DevAuthInfo :=
  ⟨field cloud s.mem .deviceId, field cloud s.mem .uidHash, field cloud s.mem .authcodeId, field cloud s.mem .authcode⟩

def loginInfo (s : Config β) : DevLoginInfo :=
  ⟨field true s.mem .deviceId, field true s.mem .loginSecret, field true s.mem .loginPsk, field true s.mem .loginUrl,
    field true s.mem .loginBackupUrl⟩

def putAll (cloud : Bool) (s : Config β) (items : List SaveItem) : Config β :=
  items.foldl (fun s item => s.put cloud item.1 item.2.val) s

end Config

theorem getConfigInfoItem_eq (cloud : Bool) (key : ConfigInfoKey) :
    getConfigInfoItem cloud key = if key ∈ configList cloud then some key else none := by
  cases cloud <;> cases key <;> decide

theorem fields_apart (cloud : Bool) : ∀ key ∈ configList cloud, ∀ key' ∈ configList cloud, key ≠ key' →
    key.offset cloud + key.size ≤ key'.offset cloud ∨ key'.offset cloud + key'.size ≤ key.offset cloud := by
  cases cloud <;> decide

variable {cloud : Bool} {key : ConfigInfoKey}

theorem field_versioned (s : Config β) : field cloud s.versioned.mem key = field cloud s.mem key :=
  Subtype.ext (load_store_after s.mem 0 (key.offset cloud) key.size [storeDataVer] (Nat.le_add_right 1 _))

theorem field_put_self (s : Config β) (key : ConfigInfoKey) (data : Block key.size) :
    field cloud (s.put cloud key data.val).mem key = data := by
  have hload := load_store_self s.mem (key.offset cloud) data.val
  rw [data.length_val] at hload
  exact Subtype.ext hload

theorem field_put_other {key' : ConfigInfoKey} (hkey : key ∈ configList cloud) (hkey' : key' ∈ configList cloud)
    (hne : key ≠ key') (s : Config β) (data : Block key.size) :
    field cloud (s.put cloud key data.val).mem key' = field cloud s.mem key' := by
  apply Subtype.ext
  rcases fields_apart cloud key hkey key' hkey' hne with h | h
  · exact load_store_after _ _ _ _ _ (by rwa [data.length_val])
  · exact load_store_before _ _ _ _ _ h

section Items
variable {items : List SaveItem} (hitems : ∀ item ∈ items, item.1 ∈ configList cloud)
include hitems

theorem field_putAll_other (s : Config β) (hkey : key ∈ configList cloud) (hnot : key ∉ items.map Sigma.fst) :
    field cloud (s.putAll cloud items).mem key = field cloud s.mem key := by
  induction items generalizing s with
  | nil => rfl
  | cons item items ih =>
    rw [List.forall_mem_cons] at hitems
    rw [List.map_cons, List.mem_cons, not_or] at hnot
    exact (ih hitems.2 _ hnot.2).trans (field_put_other hitems.1 hkey (fun h => hnot.1 h.symm) s item.2)

theorem field_putAll (hnodup : (items.map Sigma.fst).Nodup) (s : Config β) :
    ∀ item ∈ items, field cloud (s.putAll cloud items).mem item.1 = item.2 := by
  induction items generalizing s with
  | nil => nofun
  | cons item items ih =>
    rw [List.forall_mem_cons] at hitems ⊢
    rw [List.map_cons, List.nodup_cons] at hnodup
    refine ⟨?_, ih hitems.2 hnodup.2 _⟩
    exact (field_putAll_other hitems.2 _ hitems.1 hnodup.1).trans (field_put_self s item.1 item.2)

end Items

theorem configInfoGet_mem (hkey : key ∈ configList cloud) (s : Config β) :
    configInfoGet cloud s key key.size = .ok (field cloud s.mem key) := by
  rw [configInfoGet, if_neg (Nat.ne_of_gt key.size_pos), getConfigInfoItem_eq, if_pos hkey]
  exact if_pos (Nat.le_refl _)

theorem configInfoSet_mem (hkey : key ∈ configList cloud) (data : Block key.size)
    (s : Config β) : configInfoSet cloud key data.val s = (.ok, s.put cloud key data.val) := by
  have hlen : data.val.length = key.size := data.length_val
  rw [configInfoSet, if_neg (by rw [hlen]; exact Nat.ne_of_gt key.size_pos), getConfigInfoItem_eq, if_pos hkey]
  exact if_pos (Nat.le_of_eq hlen)

theorem setItems_mem {items : List SaveItem} (hitems : ∀ item ∈ items, item.1 ∈ configList cloud)
    (s : Config β) : setItems cloud items s = (.ok, s.putAll cloud items) := by
  induction items generalizing s with
  | nil => rfl
  | cons item items ih =>
    rw [List.forall_mem_cons] at hitems
    simp only [setItems, configInfoSet_mem hitems.1]
    exact ih hitems.2 _

theorem saveItems_mem {items : List SaveItem} (hitems : ∀ item ∈ items, item.1 ∈ configList cloud)
    (commit : Commit β) (s : Config β) :
    saveItems cloud commit items s = commit (s.putAll cloud items).versioned := by
  simp only [saveItems, setItems_mem hitems, configInfoSave]

theorem authSaveInfo_mem (cloud : Bool) (info : DevAuthInfo) : ∀ item ∈ authSaveInfo info, item.1 ∈ configList cloud := by
  cases cloud <;> simp [authSaveInfo, configList]

theorem configGetAuthInfo_eq (cloud : Bool) (s : Config β) : configGetAuthInfo cloud s = .ok (s.authInfo cloud) := by
  have hget : ∀ key, key ∈ configList cloud → configInfoGet cloud s key key.size = .ok (field cloud s.mem key) :=
    fun key hkey => configInfoGet_mem hkey s
  have h1 := hget .deviceId (by cases cloud <;> decide)
  have h2 := hget .authcodeId (by cases cloud <;> decide)
  have h3 := hget .authcode (by cases cloud <;> decide)
  have h4 := hget .uidHash (by cases cloud <;> decide)
  simp only [ConfigInfoKey.size] at h1 h2 h3 h4
  simp only [configGetAuthInfo, h1, h2, h3, h4]
  rfl

theorem isDeviceBinded_eq (cloud : Bool) (s : Config β) :
    isDeviceBinded cloud s = decide (cString (s.authInfo cloud).devId.val ≠ []) := by
  have hdeviceId : ConfigInfoKey.deviceId ∈ configList cloud := by cases cloud <;> decide
  have h := configInfoGet_mem hdeviceId s
  simp only [ConfigInfoKey.size] at h
  simp only [isDeviceBinded, h]
  rfl

section
variable {J : JsonAdapter}

theorem recv_eq_ok {commit : Commit β} {req : J.Obj} {s : Config β} {info : DevAuthInfo}
    (hjson : getAuthInfoFromJson J req = .ok info) :
    deviceServiceRecvAuthInfo J cloud commit (some req) s =
      if uidHashDiffers info (s.authInfo cloud) then (.bleUidhashNotMatch, s)
      else configSaveAuthInfo cloud commit info s := by
  simp only [deviceServiceRecvAuthInfo, hjson, configGetAuthInfo_eq]

end

end IotConnect.Device
