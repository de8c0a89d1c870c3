import IotConnect.Store.Item

/-! # What reading a blob does to the cached item

The read path in three steps, each with what it takes from the backend and the cryptographic functions: a blob
is fetched (`fetch`), its lengths are checked and its key derived (`unpack`), its body is opened (`openBody`).
`storeItemReadCipher_eq` and `cipherV1DecryptAndVerify_eq` say what becomes of the item in each case. -/
namespace IotConnect.Store
open Memory Bytes
set_option autoImplicit false

/-! ## The steps -/

inductive Fetched
  | failed (ret : IotcErr)
  | empty
  | blob (buffer : List UInt8)

/-- What the backend gives for the key: nothing, an empty value, or a blob of version 1 that may fit. -/
def fetch {β : Type} (env : StoreEnv) (backend : Backend β) (keyChar : String) (size : ℕ) (kv : β) : Fetched :=
  match (backend.onGetValueLen keyChar kv).1 with
  | .error ret => .failed ret
  | .ok len =>
    if len = 0 then .empty
    else if size + storeCipherHeaderLen < len then .failed ⟨.storeErrInvalidKvLen, by decide⟩
    else if iotcMalloc env.callocRead len = false then .failed ⟨.memErrCalloc, IotcRet.memErrCalloc_ne_ok⟩
    else
      let got := (backend.onGetValue keyChar len (backend.onGetValueLen keyChar kv).2).1
      if h : got.ret ≠ .ok then .failed ⟨got.ret, h⟩
      else if store (fun _ => 0) 0 got.data 0 = storeCipherVer1 then
        .blob (load (store (fun _ => 0) 0 got.data) 0 got.len)
      else .failed ⟨.storeErrInvalidVersion, by decide⟩

structure Unpacked where
  header : StoreCipherHeader
  body : List UInt8
  key : Block 32

/-- The blob as header, body and key, if its lengths agree, fit the item and the key can be derived. -/
def unpack (env : StoreEnv) (size : ℕ) (buffer : List UInt8) : Option Unpacked :=
  let header := StoreCipherHeader.read buffer
  let body := buffer.drop storeCipherHeaderLen
  if storeCipherHeaderLen ≤ buffer.length ∧ body.length = header.len ∧ body.length ≤ size then
    match env.hkdf header.salt with
    | .error _ => none
    | .ok key => some ⟨header, body, key⟩
  else none

def openBody (env : StoreEnv) (mode : SecurityStoreMode) (a : Unpacked) : Option (List UInt8) :=
  match mode with
  | .verify =>
    match env.hmac a.key.val a.body with
    | .error _ => none
    | .ok hmac => if hmac.val = a.header.mac then some a.body else none
  | .encrypt =>
    match env.aesGcmDecrypt (a.key.val.take storeCipherGcmKeyLen) (a.key.val.drop storeCipherGcmKeyLen) a.body
        (a.header.mac.take aesGcmTagMaxLen) with
    | .error _ => none
    | .ok plain => some plain.val
  | _ => none

theorem openBody_length {env : StoreEnv} {mode : SecurityStoreMode} {a : Unpacked} {value : List UInt8}
    (h : openBody env mode a = some value) : value.length = a.body.length := by
  unfold openBody at h
  cases mode with
  | verify =>
    dsimp only at h
    cases hhmac : env.hmac a.key.val a.body with
    | error ret =>
      rw [hhmac] at h
      cases h
    | ok hmac =>
      rw [hhmac] at h
      dsimp only at h
      split_ifs at h
      cases h
      rfl
  | encrypt =>
    dsimp only at h
    cases hdec : env.aesGcmDecrypt (a.key.val.take storeCipherGcmKeyLen) (a.key.val.drop storeCipherGcmKeyLen)
        a.body (a.header.mac.take aesGcmTagMaxLen) with
    | error ret =>
      rw [hdec] at h
      cases h
    | ok plain =>
      rw [hdec] at h
      cases h
      exact plain.length_val
  | plain => cases h
  | other => cases h

/-! ## The item -/

/-- The item after an unpacked blob could not be opened: decryption works in the buffer of the item and leaves
zeros there. -/
def afterFailure (item : SecurityStoreItem) (itemBuffer : ℕ → UInt8) (a : Unpacked) : SecurityStoreItem :=
  if item.mode = .encrypt then item.fill (store itemBuffer 0 (List.replicate a.body.length 0)) item.len else item

section
variable {env : StoreEnv} {item : SecurityStoreItem} {buffer : List UInt8} (itemBuffer : ℕ → UInt8)
  (mac : Option (List UInt8))

theorem unpack_none (h : unpack env item.size buffer = none) :
    ∃ ret : IotcErr, cipherV1DecryptAndVerify env item itemBuffer buffer mac = (ret.val, item) := by
  unfold cipherV1DecryptAndVerify
  by_cases hlong : buffer.length < storeCipherHeaderLen
  · rw [if_pos hlong]
    exact ⟨⟨_, by decide⟩, rfl⟩
  rw [if_neg hlong]
  dsimp only
  by_cases hlen : (buffer.drop storeCipherHeaderLen).length ≠ (StoreCipherHeader.read buffer).len ∨
      item.size < (buffer.drop storeCipherHeaderLen).length
  · rw [if_pos hlen]
    exact ⟨⟨_, by decide⟩, rfl⟩
  rw [if_neg hlen]
  rw [not_or, not_not, Nat.not_lt] at hlen
  unfold unpack at h
  dsimp only at h
  rw [if_pos ⟨Nat.le_of_not_lt hlong, hlen⟩] at h
  cases hhkdf : env.hkdf (StoreCipherHeader.read buffer).salt with
  | error ret => exact ⟨ret, rfl⟩
  | ok key =>
    rw [hhkdf] at h
    cases h

theorem unpack_eq_some {size : ℕ} {a : Unpacked} (h : unpack env size buffer = some a) :
    (storeCipherHeaderLen ≤ buffer.length ∧ a.header = StoreCipherHeader.read buffer ∧
      a.body = buffer.drop storeCipherHeaderLen ∧ env.hkdf a.header.salt = .ok a.key) ∧
    a.body.length = a.header.len ∧ a.body.length ≤ size := by
  unfold unpack at h
  dsimp only at h
  split_ifs at h with hcond
  obtain ⟨hlong, hlen, hsize⟩ := hcond
  cases hhkdf : env.hkdf (StoreCipherHeader.read buffer).salt with
  | error ret =>
    rw [hhkdf] at h
    cases h
  | ok key =>
    rw [hhkdf] at h
    cases h
    exact ⟨⟨hlong, rfl, rfl, hhkdf⟩, hlen, hsize⟩

theorem unpack_some {a : Unpacked} (h : unpack env item.size buffer = some a) :
    cipherV1DecryptAndVerify env item itemBuffer buffer mac =
      let r := match item.mode with
        | .verify => cipherV1HmacVerifyAndCopy env item itemBuffer a.header a.body a.key.val
        | .encrypt => cipherV1AesGcmDecrypt env item itemBuffer a.header a.body a.key.val
        | _ => (.storeErrInvalidMode, item)
      if r.1 = .ok ∧ (mac.any (· ≠ a.header.mac)) = true then (.storeErrMacNotSame, r.2) else r := by
  obtain ⟨⟨hlong, hheader, hbody, hhkdf⟩, hlen, hsize⟩ := unpack_eq_some h
  have hlen' : ¬ (a.body.length ≠ a.header.len ∨ item.size < a.body.length) := by
    rw [not_or, not_not, Nat.not_lt]
    exact ⟨hlen, hsize⟩
  rw [cipherV1DecryptAndVerify, if_neg (Nat.not_lt.mpr hlong)]
  dsimp only
  rewrite [← hheader, ← hbody, if_neg hlen', hhkdf]
  rfl

theorem decrypt_opened {a : Unpacked} {value : List UInt8} (h : unpack env item.size buffer = some a)
    (ho : openBody env item.mode a = some value) (hpos : item.mode = .verify → 0 < item.size) :
    cipherV1DecryptAndVerify env item itemBuffer buffer mac =
      (if (mac.any (· ≠ a.header.mac)) = true then .storeErrMacNotSame else .ok,
        item.fill (store itemBuffer 0 value) value.length) := by
  have heq := unpack_some itemBuffer mac h
  have hsize := (unpack_eq_some h).2.2
  have hlen := openBody_length ho
  rw [heq]
  dsimp only
  have hr : (match item.mode with
      | .verify => cipherV1HmacVerifyAndCopy env item itemBuffer a.header a.body a.key.val
      | .encrypt => cipherV1AesGcmDecrypt env item itemBuffer a.header a.body a.key.val
      | _ => (.storeErrInvalidMode, item)) = (.ok, item.fill (store itemBuffer 0 value) value.length) := by
    unfold openBody at ho
    cases hmode : item.mode with
    | verify =>
      rw [hmode] at ho
      dsimp only [cipherV1HmacVerifyAndCopy] at ho ⊢
      cases hhmac : env.hmac a.key.val a.body with
      | error ret =>
        rw [hhmac] at ho
        cases ho
      | ok hmac =>
        rw [hhmac] at ho
        dsimp only at ho ⊢
        split_ifs at ho with hmac'
        cases ho
        rw [if_neg (not_not.mpr hmac'), memcpyS_of_le _ _ _ _ (hpos hmode) hsize]
    | encrypt =>
      rw [hmode] at ho
      dsimp only [cipherV1AesGcmDecrypt] at ho ⊢
      cases hdec : env.aesGcmDecrypt (a.key.val.take storeCipherGcmKeyLen)
          (a.key.val.drop storeCipherGcmKeyLen) a.body (a.header.mac.take aesGcmTagMaxLen) with
      | error ret =>
        rw [hdec] at ho
        cases ho
      | ok plain =>
        rw [hdec] at ho
        cases ho
        rw [hlen]
    | plain =>
      rw [hmode] at ho
      cases ho
    | other =>
      rw [hmode] at ho
      cases ho
  rw [hr]
  simp only [true_and]
  split_ifs <;> rfl

theorem decrypt_failed {a : Unpacked} (h : unpack env item.size buffer = some a)
    (ho : openBody env item.mode a = none) :
    ∃ ret : IotcErr, cipherV1DecryptAndVerify env item itemBuffer buffer mac =
      (ret.val, afterFailure item itemBuffer a) := by
  have heq := unpack_some itemBuffer mac h
  have hr : ∃ ret : IotcErr, (match item.mode with
      | .verify => cipherV1HmacVerifyAndCopy env item itemBuffer a.header a.body a.key.val
      | .encrypt => cipherV1AesGcmDecrypt env item itemBuffer a.header a.body a.key.val
      | _ => (.storeErrInvalidMode, item)) = (ret.val, afterFailure item itemBuffer a) := by
    unfold openBody at ho
    unfold afterFailure
    cases hmode : item.mode with
    | verify =>
      rw [hmode] at ho
      dsimp only [cipherV1HmacVerifyAndCopy] at ho ⊢
      cases hhmac : env.hmac a.key.val a.body with
      | error ret => exact ⟨ret, rfl⟩
      | ok hmac =>
        rw [hhmac] at ho
        dsimp only at ho ⊢
        split_ifs at ho with hmac'
        rw [if_pos hmac']
        exact ⟨⟨_, by decide⟩, rfl⟩
    | encrypt =>
      rw [hmode] at ho
      dsimp only [cipherV1AesGcmDecrypt] at ho ⊢
      cases hdec : env.aesGcmDecrypt (a.key.val.take storeCipherGcmKeyLen)
          (a.key.val.drop storeCipherGcmKeyLen) a.body (a.header.mac.take aesGcmTagMaxLen) with
      | error ret => exact ⟨ret, rfl⟩
      | ok plain =>
        rw [hdec] at ho
        cases ho
    | plain => exact ⟨⟨_, by decide⟩, rfl⟩
    | other => exact ⟨⟨_, by decide⟩, rfl⟩
  obtain ⟨ret, hr⟩ := hr
  refine ⟨ret, ?_⟩
  rw [heq]
  dsimp only
  rw [hr, if_neg fun hok => ret.property hok.1]

end

/-! ## The frame of an item -/

/-- Only the buffer and the length of the item differ. -/
structure Frame (item item' : SecurityStoreItem) : Prop where
  keyInt : item'.keyInt = item.keyInt
  keyChar : item'.keyChar = item.keyChar
  mode : item'.mode = item.mode
  size : item'.size = item.size
  buffer : item.buffer.isSome = true → item'.buffer.isSome = true

theorem Frame.refl (item : SecurityStoreItem) : Frame item item := ⟨rfl, rfl, rfl, rfl, id⟩

theorem frame_fill (item : SecurityStoreItem) (buffer : ℕ → UInt8) (len : ℕ) : Frame item (item.fill buffer len) :=
  ⟨rfl, rfl, rfl, rfl, fun _ => rfl⟩

theorem frame_afterFailure (item : SecurityStoreItem) (itemBuffer : ℕ → UInt8) (a : Unpacked) :
    Frame item (afterFailure item itemBuffer a) := by
  unfold afterFailure
  split_ifs
  · exact frame_fill _ _ _
  · exact .refl item

theorem decrypt_frame (env : StoreEnv) (item : SecurityStoreItem) (itemBuffer : ℕ → UInt8) (buffer : List UInt8)
    (mac : Option (List UInt8)) (hpos : item.mode = .verify → 0 < item.size) :
    Frame item (cipherV1DecryptAndVerify env item itemBuffer buffer mac).2 := by
  cases hunpack : unpack env item.size buffer with
  | none =>
    obtain ⟨ret, hret⟩ := unpack_none itemBuffer mac hunpack
    rw [hret]
    exact .refl item
  | some a =>
    cases hopen : openBody env item.mode a with
    | none =>
      obtain ⟨ret, hret⟩ := decrypt_failed itemBuffer mac hunpack hopen
      rw [hret]
      exact frame_afterFailure item itemBuffer a
    | some value =>
      rw [decrypt_opened itemBuffer mac hunpack hopen hpos]
      exact frame_fill _ _ _

/-! ## The read path -/

section
variable {β : Type} (env : StoreEnv) (backend : Backend β) (item : SecurityStoreItem) (keyChar : String)
  (itemBuffer : ℕ → UInt8) (mac : Option (List UInt8)) (kv : β)

theorem storeItemReadCipher_eq :
    ((storeItemReadCipher env backend item keyChar itemBuffer mac kv).1,
      (storeItemReadCipher env backend item keyChar itemBuffer mac kv).2.1) =
    match fetch env backend keyChar item.size kv with
    | .failed ret => (ret.val, item)
    | .empty => (.ok, { item with len := 0 })
    | .blob buffer => cipherV1DecryptAndVerify env item itemBuffer buffer mac := by
  unfold storeItemReadCipher fetch
  dsimp only
  cases (backend.onGetValueLen keyChar kv).1 with
  | error ret => rfl
  | ok len =>
    dsimp only
    by_cases hzero : len = 0
    · rw [if_pos hzero, if_pos hzero]
    by_cases hlong : item.size + storeCipherHeaderLen < len
    · rw [if_neg hzero, if_neg hzero, if_pos hlong, if_pos hlong]
    by_cases halloc : iotcMalloc env.callocRead len = false
    · rw [if_neg hzero, if_neg hzero, if_neg hlong, if_neg hlong, if_pos halloc, if_pos halloc]
    rw [if_neg hzero, if_neg hzero, if_neg hlong, if_neg hlong, if_neg halloc, if_neg halloc]
    generalize (backend.onGetValue keyChar len (backend.onGetValueLen keyChar kv).2).1 = got
    by_cases hgot : got.ret ≠ .ok
    · rw [if_pos hgot, dif_pos hgot]
    · rw [if_neg hgot, dif_neg hgot]
      by_cases hver : store (fun _ => 0) 0 got.data 0 = storeCipherVer1
      · rw [if_pos hver, if_pos hver]
      · rw [if_neg hver, if_neg hver]

theorem storeItemReadCipher_frame (hpos : item.mode = .verify → 0 < item.size) :
    Frame item (storeItemReadCipher env backend item keyChar itemBuffer mac kv).2.1 := by
  have heq := (Prod.ext_iff.mp (storeItemReadCipher_eq env backend item keyChar itemBuffer mac kv)).2
  dsimp only at heq
  rw [heq]
  cases fetch env backend keyChar item.size kv with
  | failed ret => exact .refl item
  | empty => exact ⟨rfl, rfl, rfl, rfl, id⟩
  | blob buffer => exact decrypt_frame env item itemBuffer buffer mac hpos

end

section
variable {β : Type} (env : StoreEnv) (backend : Backend β) (item : SecurityStoreItem) (kv : β)

theorem storeItemRead_frame : Frame item (storeItemRead env backend item kv).2.1 := by
  unfold storeItemRead
  cases item.buffer with
  | none => exact .refl item
  | some itemBuffer =>
    cases item.keyChar with
    | none => exact .refl item
    | some keyChar =>
      dsimp only
      split_ifs with hsize
      · exact .refl item
      · exact storeItemReadCipher_frame env backend item keyChar itemBuffer none kv
          fun _ => Nat.pos_of_ne_zero hsize
      · exact frame_fill _ _ _
      · exact frame_fill _ _ _

theorem storeItemSeal_pos {env : StoreEnv} {value body : List UInt8} {header : StoreCipherHeader}
    (h : storeItemSeal env .verify value = .ok (header, body)) : 0 < value.length := by
  refine Nat.pos_of_ne_zero fun hzero => ?_
  rw [List.length_eq_zero_iff.mp hzero] at h
  unfold storeItemSeal at h
  split_ifs at h
  cases hhkdf : env.hkdf env.salt.val with
  | error ret =>
    rw [hhkdf] at h
    cases h
  | ok key =>
    rw [hhkdf] at h
    cases h

theorem storeItemWrite_frame : Frame item (storeItemWrite env backend item kv).2.1 := by
  unfold storeItemWrite
  cases item.buffer with
  | none => exact .refl item
  | some itemBuffer =>
    cases item.keyChar with
    | none => exact .refl item
    | some keyChar =>
      dsimp only
      split_ifs with hsize
      · exact .refl item
      · unfold storeItemWriteCipher
        cases hseal : storeItemSeal env item.mode (load itemBuffer 0 item.len) with
        | error ret => exact .refl item
        | ok sealed =>
          dsimp only
          split_ifs
          · exact .refl item
          · refine storeItemReadCipher_frame env backend item keyChar itemBuffer _ _ fun hmode => ?_
            rw [hmode] at hseal
            have hpos := storeItemSeal_pos hseal
            rw [load_length] at hpos
            omega
      · exact .refl item

end

end IotConnect.Store
