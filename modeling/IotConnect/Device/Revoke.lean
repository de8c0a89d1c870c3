import IotConnect.Device.Config

/-! # The factory reset

What `RevokeEventConfigCallback` of `config_revoke.c` erases when the restore event is published: the registration, and
the auth info if the combo type is BLE only. The items of the login are left as they are for every type. -/
namespace IotConnect.Device
open Bytes Memory
set_option autoImplicit false

inductive ComboType
  | invalid
  | combo
  | wifiOnly
  | bleOnly
  | sleOnly
  deriving DecidableEq

def cloudActivateCodeMaxStrLen : ℕ := 40

structure DevRegInfo where
  devId : Block (deviceIdMaxStrLen + 1)
  psk : Block cloudPskMaxLen
  code : Block (cloudActivateCodeMaxStrLen + 1)
  url : Block (cloudMaxUrlLen + 1)
  backupUrl : Block (cloudMaxUrlLen + 1)

/-- The configuration, and the registration while `g_regFlag` is set. -/
structure DeviceConfig (β : Type) where
  config : Config β
  regInfo : Option DevRegInfo

variable {β : Type}

def configClearRegisterInfo (d : DeviceConfig β) : DeviceConfig β := { d with regInfo := none }

/-- The loop over keys to clear, which ends at the first one that has no item. -/
def clearKeys (cloud : Bool) : List ConfigInfoKey → Config β → IotcRet × Config β
  | [], s => (.ok, s)
  | key :: keys, s =>
    match configInfoClear cloud key s with
    | (.ok, s') => clearKeys cloud keys s'
    | r => r

def configClearAuthInfo (cloud : Bool) (commit : Commit β) (s : Config β) : IotcRet × Config β :=
  match clearKeys cloud [.deviceId, .authcodeId, .authcode, .uidHash] s with
  | (.ok, s') => configInfoSave commit s'
  | r => r

/-- `RevokeEventConfigCallback`; `kv` is `IOTC_CONF_KV_SUPPORT`. -/
def revokeEventConfigCallback (cloud kv : Bool) (comboType : ComboType) (commit : Commit β) (d : DeviceConfig β) :
    DeviceConfig β :=
  let d := if cloud then configClearRegisterInfo d else d
  if kv ∧ comboType = .bleOnly then { d with config := (configClearAuthInfo cloud commit d.config).2 } else d

def secretKeys (cloud : Bool) : List ConfigInfoKey := if cloud then [.loginSecret, .loginPsk] else []

def ownerKeys (cloud : Bool) : List ConfigInfoKey := [.deviceId, .authcode, .authcodeId, .uidHash] ++ secretKeys cloud

def Cleared (cloud : Bool) (keys : List ConfigInfoKey) (mem : ℕ → UInt8) : Prop :=
  ∀ key ∈ keys, field cloud mem key = Block.zero key.size

/-- A store that works holds what was committed, and its reading back changes nothing. -/
def commitOk : Commit (ℕ → UInt8) := fun s => (.ok, ⟨s.mem, s.mem⟩)

/-- Nothing of the owner is in memory or in the store, and any owner can bind the device. -/
structure Erased (J : JsonAdapter) (cloud : Bool) (s : Config (ℕ → UInt8)) : Prop where
  mem : Cleared cloud (ownerKeys cloud) s.mem
  flash : Cleared cloud (ownerKeys cloud) s.flash
  unbinded : isDeviceBinded cloud s = false
  rebind : ∀ req info, getAuthInfoFromJson J req = .ok info →
    (deviceServiceRecvAuthInfo J cloud commitOk (some req) s).1 = .ok

/-- A device with BLE only has no login secrets, or another one nothing of an owner to begin with. -/
def ResetFits (cloud kv : Bool) (comboType : ComboType) (s : Config (ℕ → UInt8)) : Prop :=
  if kv ∧ comboType = .bleOnly then Cleared cloud (secretKeys cloud) s.mem
  else Cleared cloud (ownerKeys cloud) s.mem ∧ Cleared cloud (ownerKeys cloud) s.flash

theorem configInfoClear_mem {cloud : Bool} {key : ConfigInfoKey} (hkey : key ∈ configList cloud) (s : Config β) :
    configInfoClear cloud key s = (.ok, s.put cloud key (Block.zero key.size).val) := by
  rw [configInfoClear, getConfigInfoItem_eq, if_pos hkey]
  rfl

/-- The auth info of a device without an owner. -/
def noAuth : DevAuthInfo := ⟨Block.zero _, Block.zero _, Block.zero _, Block.zero _⟩

theorem configClearAuthInfo_eq (cloud : Bool) (commit : Commit β) (s : Config β) :
    configClearAuthInfo cloud commit s = commit (s.putAll cloud (authSaveInfo noAuth)).versioned := by
  have hdeviceId : .deviceId ∈ configList cloud := by cases cloud <;> decide
  have hauthcodeId : .authcodeId ∈ configList cloud := by cases cloud <;> decide
  have hauthcode : .authcode ∈ configList cloud := by cases cloud <;> decide
  have huidHash : .uidHash ∈ configList cloud := by cases cloud <;> decide
  simp only [configClearAuthInfo, clearKeys, configInfoClear_mem hdeviceId, configInfoClear_mem hauthcodeId,
    configInfoClear_mem hauthcode, configInfoClear_mem huidHash]
  rfl

theorem revoke_config (cloud kv : Bool) (comboType : ComboType) (commit : Commit β) (d : DeviceConfig β) :
    (revokeEventConfigCallback cloud kv comboType commit d).config =
      if kv ∧ comboType = .bleOnly then (commit (d.config.putAll cloud (authSaveInfo noAuth)).versioned).2
      else d.config := by
  have hconfig : (if cloud = true then configClearRegisterInfo d else d).config = d.config := by
    split_ifs <;> rfl
  unfold revokeEventConfigCallback
  by_cases hble : kv = true ∧ comboType = .bleOnly
  · simp only [if_pos hble, hconfig, configClearAuthInfo_eq]
  · simp only [if_neg hble, hconfig]

/-! ## What is left -/

theorem cString_zero (n : ℕ) : cString (Block.zero n).val = [] := by
  cases n <;> rfl

theorem erased_iff (J : JsonAdapter) (cloud : Bool) (s : Config (ℕ → UInt8)) :
    Erased J cloud s ↔ Cleared cloud (ownerKeys cloud) s.mem ∧ Cleared cloud (ownerKeys cloud) s.flash := by
  refine ⟨fun h => ⟨h.mem, h.flash⟩, fun ⟨hmem, hflash⟩ => ?_⟩
  have hdevId : (s.authInfo cloud).devId = Block.zero _ := hmem .deviceId (by simp [ownerKeys])
  have huidHash : (s.authInfo cloud).uidHash = Block.zero _ := hmem .uidHash (by simp [ownerKeys])
  refine ⟨hmem, hflash, ?_, fun req info hjson => ?_⟩
  · rw [isDeviceBinded_eq, hdevId, cString_zero]
    rfl
  · have hsame : uidHashDiffers info (s.authInfo cloud) = false := by
      rw [uidHashDiffers, huidHash, cString_zero]
      simp
    rw [recv_eq_ok hjson, hsame]
    exact congrArg Prod.fst (saveItems_mem (authSaveInfo_mem cloud info) commitOk s)

theorem cleared_noAuth (cloud : Bool) (s : Config β) :
    Cleared cloud (ownerKeys cloud) (s.putAll cloud (authSaveInfo noAuth)).versioned.mem ↔
      Cleared cloud (secretKeys cloud) s.mem := by
  have hitems := authSaveInfo_mem cloud noAuth
  have hsecret : ∀ key ∈ secretKeys cloud, key ∈ configList cloud ∧ key ∉ (authSaveInfo noAuth).map Sigma.fst := by
    cases cloud <;> decide
  have hkept : ∀ key ∈ secretKeys cloud,
      field cloud (s.putAll cloud (authSaveInfo noAuth)).versioned.mem key = field cloud s.mem key := fun key hkey =>
    (field_versioned _).trans (field_putAll_other hitems s (hsecret key hkey).1 (hsecret key hkey).2)
  constructor
  · intro h key hkey
    rw [← hkept key hkey]
    exact h key (List.mem_append_right _ hkey)
  · intro h key hkey
    rcases List.mem_append.mp hkey with hauth | hkey
    · have hput := field_putAll hitems (by decide) s
      rw [field_versioned]
      simp only [authSaveInfo, List.forall_mem_cons, noAuth] at hput
      simp only [List.mem_cons, List.not_mem_nil, or_false] at hauth
      rcases hauth with rfl | rfl | rfl | rfl
      · exact hput.1
      · exact hput.2.2.1
      · exact hput.2.1
      · exact hput.2.2.2.1
    · rw [hkept key hkey]
      exact h key hkey

/-- After the restore event, with a store that works, nothing is left of the owner exactly when the device has BLE only
and no login secrets, or had nothing of an owner. -/
theorem reset_erases_iff (J : JsonAdapter) (cloud kv : Bool) (comboType : ComboType) (d : DeviceConfig (ℕ → UInt8)) :
    Erased J cloud (revokeEventConfigCallback cloud kv comboType commitOk d).config ↔
      ResetFits cloud kv comboType d.config := by
  rw [revoke_config, erased_iff, ResetFits]
  split_ifs
  · rw [← cleared_noAuth]
    exact and_self_iff
  · rfl

/-- Every item is `"a"`. -/
def boundMem (i : ℕ) : UInt8 := if i ∈ (configList true).map (ConfigInfoKey.offset true) then 97 else 0

/-- A device with BLE and Wi-Fi that is bound stays bound. -/
theorem reset_keeps_owner :
    ¬ Erased (JsonAdapter.ofParser fun _ => none) true
      (revokeEventConfigCallback true true .combo commitOk ⟨⟨boundMem, boundMem⟩, none⟩).config := by
  intro herased
  have hunbinded := herased.unbinded
  revert hunbinded
  decide

end IotConnect.Device
