import IotConnect.Store.RoundTrip

/-! # Committing and pulling an item of any length

The functions of `adapter/crypto/mbedtls` refuse empty data, and `memcpy_s` refuses an empty destination: an empty item
can be committed in the clear only, and `IotcCalloc` refuses what is longer than 2 MiB. The backend is one that always
works. -/
namespace IotConnect.Store
open Memory Bytes
set_option autoImplicit false

/-! ## The adapters -/

/-- What the library below the adapters computes. -/
structure Primitives where
  hkdf : List UInt8 → Block 32
  hmac : List UInt8 → List UInt8 → Block 32
  gcmCrypt : List UInt8 → List UInt8 → (data : List UInt8) → Block data.length × Block 16
  gcmAuthDecrypt : List UInt8 → List UInt8 → (data : List UInt8) → List UInt8 → Option (Block data.length)
  opens : ∀ key iv data, (gcmAuthDecrypt key iv (gcmCrypt key iv data).1.val (gcmCrypt key iv data).2.val).map
    Subtype.val = some data

variable (p : Primitives)

def iotcHmacCalc (key data : List UInt8) : Except IotcErr (Block 32) :=
  if key = [] ∨ data = [] then .error ⟨.errParamInvalid, IotcRet.errParamInvalid_ne_ok⟩ else .ok (p.hmac key data)

def isAesGcmParamValid (key iv data : List UInt8) : Bool :=
  iv ≠ [] ∧ (key.length = 16 ∨ key.length = 24 ∨ key.length = 32) ∧ data ≠ []

def iotcAesGcmEncrypt (key iv data : List UInt8) : Except IotcErr (Block data.length × Block 16) :=
  if isAesGcmParamValid key iv data = false then .error ⟨.errParamInvalid, IotcRet.errParamInvalid_ne_ok⟩
  else .ok (p.gcmCrypt key iv data)

/-- `IOTC_ERROR` stands for `IOTC_ADAPTER_CRYPTO_ERR_AES_GCM_DEC`. -/
def iotcAesGcmDecrypt (key iv data tag : List UInt8) : Except IotcErr (Block data.length) :=
  if isAesGcmParamValid key iv data = false then .error ⟨.errParamInvalid, IotcRet.errParamInvalid_ne_ok⟩
  else
    match p.gcmAuthDecrypt key iv data tag with
    | none => .error ⟨.error, IotcRet.error_ne_ok⟩
    | some plain => .ok plain

/-- A call that gets the mutex and what memory `IotcCalloc` asks the system for. -/
def workingEnv (salt : Block 16) : StoreEnv where
  lock := true
  callocWrite := true
  callocRead := true
  salt := salt
  hkdf := fun salt => .ok (p.hkdf salt)
  hmac := iotcHmacCalc p
  aesGcmEncrypt := iotcAesGcmEncrypt p
  aesGcmDecrypt := iotcAesGcmDecrypt p

/-- A backend whose operations succeed and which returns what was last written. -/
structure WorkingBackend (β : Type) extends Backend β where
  content : β → String → Option (List UInt8)
  set_ok : ∀ key value kv, (onSetValue key value kv).1 = .ok
  set_content : ∀ key value kv, content (onSetValue key value kv).2 key = some value
  getLen : ∀ key kv value, content kv key = some value → (onGetValueLen key kv).1 = .ok value.length
  getLen_keeps : ∀ key kv, content (onGetValueLen key kv).2 = content kv
  getValue : ∀ key cap kv value, content kv key = some value → value.length ≤ cap →
    (onGetValue key cap kv).1.ret = .ok ∧ (onGetValue key cap kv).1.data = value ∧
      (onGetValue key cap kv).1.len = value.length
  getValue_keeps : ∀ key cap kv, content (onGetValue key cap kv).2 = content kv

/-! ## Sealing -/

/-- The values that a protected item can be committed with. -/
structure Sealable (mode : SecurityStoreMode) (value : List UInt8) : Prop where
  mode : mode = .verify ∨ mode = .encrypt
  pos : 0 < value.length
  le : value.length + storeCipherHeaderLen ≤ iotcMaxMallocSize

structure SealedBlob (mode : SecurityStoreMode) (value : List UInt8) (header : StoreCipherHeader) (body : List UInt8) :
    Prop where
  salt : header.salt.length = 16
  mac : header.mac.length = 32
  ver : header.ver = storeCipherVer1
  len : header.len = value.length
  body_len : body.length = value.length
  opened : ∀ salt, openBody (workingEnv p salt) mode ⟨header, body, p.hkdf header.salt⟩ = some value

variable {p} {mode : SecurityStoreMode} {value : List UInt8} {salt : Block 16}

theorem key_halves_valid (key : Block 32) (h : 0 < value.length) :
    isAesGcmParamValid (key.val.take storeCipherGcmKeyLen) (key.val.drop storeCipherGcmKeyLen) value = true := by
  have htake : (key.val.take storeCipherGcmKeyLen).length = 16 := by simp [storeCipherGcmKeyLen]
  have hdrop : key.val.drop storeCipherGcmKeyLen ≠ [] := by
    apply List.ne_nil_of_length_pos
    simp [storeCipherGcmKeyLen]
  have hvalue := List.ne_nil_of_length_pos h
  simp [isAesGcmParamValid, htake, hdrop, hvalue]

theorem openBody_verify {header : StoreCipherHeader} (h : 0 < value.length)
    (hmac : header.mac = (p.hmac (p.hkdf header.salt).val value).val) (salt : Block 16) :
    openBody (workingEnv p salt) .verify ⟨header, value, p.hkdf header.salt⟩ = some value := by
  have hkey : (p.hkdf header.salt).val ≠ [] := List.ne_nil_of_length_pos (by simp)
  have hok : (workingEnv p salt).hmac (p.hkdf header.salt).val value = .ok (p.hmac (p.hkdf header.salt).val value) :=
    if_neg (by simp [hkey, List.ne_nil_of_length_pos h])
  unfold openBody
  dsimp only
  rw [hok]
  exact if_pos hmac.symm

theorem openBody_encrypt {header : StoreCipherHeader} {cipher : Block value.length} {tag : Block 16}
    (h : 0 < value.length) (hmac : header.mac = tag.val ++ List.replicate 16 0)
    (hcrypt : p.gcmCrypt ((p.hkdf header.salt).val.take storeCipherGcmKeyLen)
      ((p.hkdf header.salt).val.drop storeCipherGcmKeyLen) value = (cipher, tag)) (salt : Block 16) :
    openBody (workingEnv p salt) .encrypt ⟨header, cipher.val, p.hkdf header.salt⟩ = some value := by
  have hcipher : 0 < cipher.val.length := by rwa [cipher.length_val]
  have htag : header.mac.take aesGcmTagMaxLen = tag.val := by
    rw [hmac]
    exact List.take_left' tag.length_val
  have hopens := p.opens ((p.hkdf header.salt).val.take storeCipherGcmKeyLen)
    ((p.hkdf header.salt).val.drop storeCipherGcmKeyLen) value
  rw [hcrypt] at hopens
  obtain ⟨plain, hplain, hvalue⟩ := Option.map_eq_some_iff.mp hopens
  have hok : (workingEnv p salt).aesGcmDecrypt ((p.hkdf header.salt).val.take storeCipherGcmKeyLen)
      ((p.hkdf header.salt).val.drop storeCipherGcmKeyLen) cipher.val tag.val = .ok plain := by
    show iotcAesGcmDecrypt p _ _ _ _ = _
    rw [iotcAesGcmDecrypt, if_neg (by rw [key_halves_valid _ hcipher]; decide)]
    rw [show p.gcmAuthDecrypt ((p.hkdf header.salt).val.take storeCipherGcmKeyLen)
      ((p.hkdf header.salt).val.drop storeCipherGcmKeyLen) cipher.val tag.val = some plain from hplain]
  unfold openBody
  dsimp only
  rw [htag, hok]
  exact congrArg some hvalue

theorem callocWrite_eq_false :
    iotcMalloc (workingEnv p salt).callocWrite (value.length + storeCipherHeaderLen) = false ↔
      ¬ value.length + storeCipherHeaderLen ≤ iotcMaxMallocSize := by
  have hpos : 0 < value.length + storeCipherHeaderLen := Nat.add_pos_right _ (by decide)
  rw [← Bool.not_eq_true, iotcMalloc_eq_true]
  simp [workingEnv, hpos]

variable (p salt) in
theorem storeItemSeal_ok (h : Sealable mode value) :
    ∃ header body, storeItemSeal (workingEnv p salt) mode value = .ok (header, body) ∧
      SealedBlob p mode value header body := by
  obtain ⟨hmode, hpos, hle⟩ := h
  have hne := List.ne_nil_of_length_pos hpos
  have hkey : (p.hkdf salt.val).val ≠ [] := List.ne_nil_of_length_pos (by simp)
  have hlen : ¬ 2 ^ 32 - 1 - storeCipherHeaderLen < value.length := by
    unfold storeCipherHeaderLen iotcMaxMallocSize at hle
    unfold storeCipherHeaderLen
    omega
  unfold storeItemSeal
  rw [if_neg hlen, if_neg (fun hmem => callocWrite_eq_false.mp hmem hle)]
  dsimp only [workingEnv]
  rcases hmode with rfl | rfl
  · refine ⟨⟨storeCipherVer1, salt.val, (p.hmac (p.hkdf salt.val).val value).val, value.length⟩, value, ?_, ?_⟩
    · have hcopy : cipherV1GenHmacAndCopy (workingEnv p salt) value (p.hkdf salt.val).val =
          .ok ((p.hmac (p.hkdf salt.val).val value).val, value) := by
        rw [cipherV1GenHmacAndCopy, memcpyS_of_le _ _ _ _ hpos (Nat.le_refl _)]
        dsimp only [workingEnv]
        rw [iotcHmacCalc, if_neg (by simp [hkey, hne])]
      dsimp only [workingEnv] at hcopy
      rw [hcopy]
    · exact ⟨salt.length_val, Block.length_val _, rfl, rfl, rfl, openBody_verify hpos rfl⟩
  · cases hcrypt : p.gcmCrypt ((p.hkdf salt.val).val.take storeCipherGcmKeyLen)
        ((p.hkdf salt.val).val.drop storeCipherGcmKeyLen) value with
    | mk cipher tag =>
      refine ⟨⟨storeCipherVer1, salt.val, tag.val ++ List.replicate 16 0, value.length⟩, cipher.val, ?_, ?_⟩
      · have hencrypt : cipherV1Encrypt (workingEnv p salt) value (p.hkdf salt.val).val =
            .ok (tag.val ++ List.replicate 16 0, cipher.val) := by
          rw [cipherV1Encrypt]
          dsimp only [workingEnv]
          rw [iotcAesGcmEncrypt, if_neg (by rw [key_halves_valid _ hpos]; decide), hcrypt]
        dsimp only [workingEnv] at hencrypt
        rw [hencrypt]
      · exact ⟨salt.length_val, by simp, rfl, rfl, cipher.length_val, openBody_encrypt hpos rfl hcrypt⟩

theorem sealable_of_seal {sealed : StoreCipherHeader × List UInt8}
    (h : storeItemSeal (workingEnv p salt) mode value = .ok sealed) : Sealable mode value := by
  unfold storeItemSeal at h
  by_cases hlen : 2 ^ 32 - 1 - storeCipherHeaderLen < value.length
  · rw [if_pos hlen] at h
    cases h
  rw [if_neg hlen] at h
  by_cases hmem : iotcMalloc (workingEnv p salt).callocWrite (value.length + storeCipherHeaderLen) = false
  · rw [if_pos hmem] at h
    cases h
  rw [if_neg hmem] at h
  dsimp only [workingEnv] at h
  by_cases hpos : 0 < value.length
  · refine ⟨?_, hpos, not_not.mp (mt callocWrite_eq_false.mpr hmem)⟩
    cases mode with
    | verify => exact .inl rfl
    | encrypt => exact .inr rfl
    | plain => cases h
    | other => cases h
  · obtain rfl : value = [] := List.length_eq_zero_iff.mp (Nat.eq_zero_of_not_pos hpos)
    cases mode with
    | verify => cases h
    | encrypt =>
      have hinvalid : ∀ key iv, isAesGcmParamValid key iv [] = false := fun key iv => by simp [isAesGcmParamValid]
      simp only [cipherV1Encrypt, iotcAesGcmEncrypt, hinvalid, if_true] at h
      cases h
    | plain => cases h
    | other => cases h

/-! ## Reading back -/

section
variable {β : Type} (b : WorkingBackend β) {header : StoreCipherHeader} {body : List UInt8}

theorem SealedBlob.unpacked (h : SealedBlob p mode value header body) (hle : value.length + storeCipherHeaderLen ≤ iotcMaxMallocSize)
    {size : ℕ} (hsize : value.length ≤ size) (salt : Block 16) :
    unpack (workingEnv p salt) size (header.bytes ++ body) = some ⟨header, body, p.hkdf header.salt⟩ := by
  have hbytes := StoreCipherHeader.bytes_length h.salt h.mac
  have hlt : header.len < 2 ^ 32 := by
    rw [h.len]
    unfold iotcMaxMallocSize at hle
    omega
  have hread := StoreCipherHeader.read_bytes h.salt h.mac hlt body
  have hdrop : (header.bytes ++ body).drop storeCipherHeaderLen = body := List.drop_left' hbytes
  have hlong : storeCipherHeaderLen ≤ (header.bytes ++ body).length := by
    rw [List.length_append, hbytes]
    exact Nat.le_add_right _ _
  unfold unpack
  dsimp only
  rw [hread, hdrop, if_pos ⟨hlong, h.body_len.trans h.len.symm, h.body_len.le.trans hsize⟩]
  rfl

theorem fetch_sealed (h : SealedBlob p mode value header body)
    (hle : value.length + storeCipherHeaderLen ≤ iotcMaxMallocSize) {keyChar : String} {kv : β} {size : ℕ}
    (hsize : value.length ≤ size) (hcontent : b.content kv keyChar = some (header.bytes ++ body)) (salt : Block 16) :
    fetch (workingEnv p salt) b.toBackend keyChar size kv = .blob (header.bytes ++ body) := by
  have hbytes := StoreCipherHeader.bytes_length h.salt h.mac
  have hlength : (header.bytes ++ body).length = storeCipherHeaderLen + value.length := by
    rw [List.length_append, hbytes, h.body_len]
  have hpos : ¬ (header.bytes ++ body).length = 0 := by
    rw [hlength]
    unfold storeCipherHeaderLen
    omega
  have hfits : ¬ size + storeCipherHeaderLen < (header.bytes ++ body).length := by
    rw [hlength]
    omega
  have hcontent' : b.content (b.onGetValueLen keyChar kv).2 keyChar = some (header.bytes ++ body) := by
    rw [b.getLen_keeps]
    exact hcontent
  obtain ⟨hret, hdata, hlen⟩ := b.getValue keyChar (header.bytes ++ body).length _ _ hcontent' (Nat.le_refl _)
  have hver : store (fun _ => (0 : UInt8)) 0 (header.bytes ++ body) 0 = storeCipherVer1 := h.ver
  have hcalloc : ¬ iotcMalloc (workingEnv p salt).callocRead (header.bytes ++ body).length = false := by
    rw [Bool.not_eq_false, iotcMalloc_eq_true]
    exact ⟨Nat.pos_of_ne_zero hpos, by rw [hlength, Nat.add_comm]; exact hle, rfl⟩
  unfold fetch
  rw [b.getLen keyChar kv _ hcontent]
  dsimp only
  rw [if_neg hpos, if_neg hfits, if_neg hcalloc, dif_neg (not_not.mpr hret), hdata, hlen, if_pos hver,
    load_store_self]

/-- The blob is read back, whether its mac is compared or not. -/
theorem storeItemReadCipher_sealed {item : SecurityStoreItem} (h : SealedBlob p item.mode value header body)
    (hs : Sealable item.mode value) {keyChar : String} {kv : β} (hsize : value.length ≤ item.size)
    (hcontent : b.content kv keyChar = some (header.bytes ++ body)) (itemBuffer : ℕ → UInt8) (salt : Block 16)
    {mac : Option (List UInt8)} (hmac : ∀ m ∈ mac, m = header.mac) :
    (storeItemReadCipher (workingEnv p salt) b.toBackend item keyChar itemBuffer mac kv).1 = .ok ∧
    (storeItemReadCipher (workingEnv p salt) b.toBackend item keyChar itemBuffer mac kv).2.1 =
      item.fill (store itemBuffer 0 value) value.length ∧
    b.content (storeItemReadCipher (workingEnv p salt) b.toBackend item keyChar itemBuffer mac kv).2.2 = b.content kv := by
  have hsame : (mac.any (· ≠ header.mac)) = false := by
    cases mac with
    | none => rfl
    | some m => simp [hmac m rfl]
  have heq := storeItemReadCipher_eq (workingEnv p salt) b.toBackend item keyChar itemBuffer mac kv
  rw [fetch_sealed b h hs.le hsize hcontent salt] at heq
  dsimp only at heq
  rw [decrypt_opened itemBuffer mac (h.unpacked hs.le hsize salt) (h.opened salt)
    (fun _ => Nat.lt_of_lt_of_le hs.pos hsize)] at heq
  dsimp only at heq
  rw [hsame, if_neg Bool.false_ne_true] at heq
  obtain ⟨hret, hitem⟩ := Prod.mk.inj heq
  refine ⟨hret, hitem, ?_⟩
  unfold storeItemReadCipher
  dsimp only
  cases (b.onGetValueLen keyChar kv).1 with
  | error ret => exact b.getLen_keeps keyChar kv
  | ok len =>
    dsimp only
    split_ifs
    all_goals first | exact b.getLen_keeps keyChar kv | exact (b.getValue_keeps _ _ _).trans (b.getLen_keeps keyChar kv)

/-! ## One item -/

/-- The backend has the value of an item, in the form of its mode. -/
def Written (p : Primitives) (item : SecurityStoreItem) (keyChar : String) (value : List UInt8) (kv : β) : Prop :=
  if item.mode = .plain then b.content kv keyChar = some value
  else Sealable item.mode value ∧
    ∃ header body, SealedBlob p item.mode value header body ∧ b.content kv keyChar = some (header.bytes ++ body)

variable {item : SecurityStoreItem} {buffer : ℕ → UInt8} {keyChar : String} {kv : β}

variable {b} in
theorem Written.congr {item' : SecurityStoreItem} {value : List UInt8} (h : Written b p item keyChar value kv)
    (hmode : item'.mode = item.mode) : Written b p item' keyChar value kv := by
  unfold Written at h ⊢
  rw [hmode]
  exact h

variable (salt kv) in
theorem storeItemWrite_written (hbuffer : item.buffer = some buffer) (hkeyChar : item.keyChar = some keyChar)
    (hlen : item.len ≤ item.size) (h : item.mode = .plain ∨ Sealable item.mode (load buffer 0 item.len)) :
    (storeItemWrite (workingEnv p salt) b.toBackend item kv).1 = .ok ∧
    Written b p item keyChar (load buffer 0 item.len) (storeItemWrite (workingEnv p salt) b.toBackend item kv).2.2 := by
  rw [storeItemWrite, hbuffer, hkeyChar]
  dsimp only
  rw [if_neg (Nat.not_lt.mpr hlen)]
  unfold Written
  by_cases hmode : item.mode = .plain
  · rw [if_neg (not_not.mpr hmode), if_pos hmode]
    exact ⟨b.set_ok _ _ _, b.set_content _ _ _⟩
  · have hs := h.resolve_left hmode
    obtain ⟨header, body, hseal, hsealed⟩ := storeItemSeal_ok p salt hs
    rw [if_pos hmode, if_neg hmode, storeItemWriteCipher, hseal]
    dsimp only
    rw [if_neg (not_not.mpr (b.set_ok _ _ _))]
    have hcontent := b.set_content keyChar (header.bytes ++ body) kv
    obtain ⟨hret, -, hkeeps⟩ := storeItemReadCipher_sealed b hsealed hs (by rwa [load_length]) hcontent buffer salt
      (show ∀ m ∈ some header.mac, m = header.mac by simp)
    refine ⟨hret, hs, header, body, hsealed, ?_⟩
    rw [hkeeps]
    exact hcontent

variable (salt) in
theorem storeItemRead_written {value : List UInt8} (hbuffer : item.buffer = some buffer)
    (hkeyChar : item.keyChar = some keyChar) (hpos : 0 < item.size) (hsize : value.length ≤ item.size)
    (h : Written b p item keyChar value kv) :
    (storeItemRead (workingEnv p salt) b.toBackend item kv).1 = .ok ∧
    (storeItemRead (workingEnv p salt) b.toBackend item kv).2.1 = item.fill (store buffer 0 value) value.length := by
  unfold Written at h
  rw [storeItemRead, hbuffer, hkeyChar]
  dsimp only
  rw [if_neg (Nat.ne_of_gt hpos)]
  by_cases hmode : item.mode = .plain
  · rw [if_pos hmode] at h
    obtain ⟨hret, hdata, hlen⟩ := b.getValue keyChar item.size kv value h hsize
    rw [if_neg (not_not.mpr hmode), if_neg (not_not.mpr hret), hdata, hlen]
    exact ⟨rfl, rfl⟩
  · rw [if_neg hmode] at h
    obtain ⟨hs, header, body, hsealed, hcontent⟩ := h
    obtain ⟨hret, hitem, -⟩ := storeItemReadCipher_sealed b hsealed hs hsize hcontent buffer salt
      (show ∀ m ∈ (none : Option (List UInt8)), m = header.mac by simp)
    rw [if_pos hmode]
    exact ⟨hret, hitem⟩

theorem sealable_of_write (h : (storeItemWrite (workingEnv p salt) b.toBackend item kv).1 = .ok) :
    ∃ buffer keyChar, item.buffer = some buffer ∧ item.keyChar = some keyChar ∧
      (item.mode = .plain ∨ Sealable item.mode (load buffer 0 item.len)) := by
  cases hbuffer : item.buffer with
  | none =>
    rw [storeItemWrite, hbuffer] at h
    cases h
  | some buffer =>
    cases hkeyChar : item.keyChar with
    | none =>
      rw [storeItemWrite, hbuffer, hkeyChar] at h
      cases h
    | some keyChar =>
      refine ⟨buffer, keyChar, rfl, rfl, ?_⟩
      rw [storeItemWrite, hbuffer, hkeyChar] at h
      dsimp only at h
      by_cases hlen : item.size < item.len
      · rw [if_pos hlen] at h
        cases h
      · rw [if_neg hlen] at h
        by_cases hmode : item.mode = .plain
        · exact .inl hmode
        · rw [if_pos hmode, storeItemWriteCipher] at h
          cases hseal : storeItemSeal (workingEnv p salt) item.mode (load buffer 0 item.len) with
          | error ret =>
            rw [hseal] at h
            exact absurd h ret.property
          | ok sealed => exact .inr (sealable_of_seal hseal)

theorem size_pos_of_read (h : (storeItemRead (workingEnv p salt) b.toBackend item kv).1 = .ok) : 0 < item.size := by
  by_contra hzero
  have hsize : item.size = 0 := Nat.eq_zero_of_not_pos hzero
  unfold storeItemRead at h
  split at h
  · rw [if_pos hsize] at h
    cases h
  · cases h

end

/-! ## The calls -/

section
variable {β : Type}

/-- What the item has cached. -/
def SecurityStoreItem.cachedValue (item : SecurityStoreItem) : List UInt8 :=
  item.buffer.elim [] fun buffer => load buffer 0 item.len

/-- The commit succeeds, and the pull that follows succeeds and restores the value. -/
def CommitThenPull (p : Primitives) (b : WorkingBackend β) (salt salt' : Block 16) (s : UtilsStoreContext β) (key : Int)
    (value : List UInt8) : Prop :=
  let committed := securityStoreCommit (workingEnv p salt) b.toBackend key s
  let pulled := securityStorePull (workingEnv p salt') b.toBackend key committed.2
  committed.1 = .ok ∧ pulled.1 = .ok ∧ Cached pulled.2 key value

theorem commitThenPull_iff (p : Primitives) (b : WorkingBackend β) (salt salt' : Block 16) (s : UtilsStoreContext β)
    (key : Int) (item : SecurityStoreItem) (hitem : getStoreItemByKey key s.storeList = some item)
    (hlen : item.len ≤ item.size) :
    CommitThenPull p b salt salt' s key item.cachedValue ↔
      item.buffer.isSome = true ∧ item.keyChar.isSome = true ∧ 0 < item.size ∧
      (item.mode = .plain ∨
        (item.mode = .verify ∨ item.mode = .encrypt) ∧ 0 < item.len ∧
          item.len + storeCipherHeaderLen ≤ iotcMaxMallocSize) := by
  have hframe := storeItemWrite_frame (workingEnv p salt) b.toBackend item s.kv
  have hlookup := getStoreItemByKey_frame hitem hframe
  unfold CommitThenPull securityStoreCommit securityStorePull
  dsimp only
  rw [onItem_of_some (rfl : (workingEnv p salt).lock = true) hitem]
  dsimp only
  rw [onItem_of_some (rfl : (workingEnv p salt').lock = true) hlookup]
  dsimp only
  constructor
  · rintro ⟨hwrite, hread, -⟩
    obtain ⟨buffer, keyChar, hbuffer, hkeyChar, hmode⟩ := sealable_of_write b hwrite
    have hsize := size_pos_of_read b hread
    rw [hframe.size] at hsize
    refine ⟨by rw [hbuffer]; rfl, by rw [hkeyChar]; rfl, hsize, hmode.imp_right ?_⟩
    rintro ⟨hprotected, hpos, hle⟩
    rw [load_length] at hpos hle
    exact ⟨hprotected, hpos, hle⟩
  · rintro ⟨hbuffer, hkeyChar, hsize, hmode⟩
    obtain ⟨buffer, hbuffer⟩ := Option.isSome_iff_exists.mp hbuffer
    obtain ⟨keyChar, hkeyChar⟩ := Option.isSome_iff_exists.mp hkeyChar
    have hseal : item.mode = .plain ∨ Sealable item.mode (load buffer 0 item.len) := by
      refine hmode.imp_right ?_
      rintro ⟨hprotected, hpos, hle⟩
      exact ⟨hprotected, by rwa [load_length], by rwa [load_length]⟩
    have hvalue : item.cachedValue = load buffer 0 item.len := by
      rw [SecurityStoreItem.cachedValue, hbuffer]
      rfl
    obtain ⟨hwrite, hwritten⟩ := storeItemWrite_written salt b s.kv hbuffer hkeyChar hlen hseal
    obtain ⟨buffer', hbuffer'⟩ := Option.isSome_iff_exists.mp (hframe.buffer (by rw [hbuffer]; rfl))
    obtain ⟨hread, hfill⟩ := storeItemRead_written salt' b hbuffer'
      (hframe.keyChar.trans hkeyChar) (by rwa [hframe.size]) (by rw [load_length, hframe.size]; exact hlen)
      (hwritten.congr hframe.mode)
    refine ⟨hwrite, hread, ?_⟩
    rw [hfill, hvalue]
    refine ⟨_, _, getStoreItemByKey_frame hlookup (frame_fill _ _ _), rfl, rfl, holds_store _ _ _⟩

/-! A backend in memory and primitives without secrets. -/

theorem plain_opens (_ _ data : List UInt8) :
    ((some (Block.ofList data) : Option (Block data.length))).map Subtype.val = some data := rfl

def plainPrimitives : Primitives where
  hkdf := fun _ => Block.zero 32
  hmac := fun _ data => ⟨(data ++ List.replicate 32 0).take 32, padded_length data⟩
  gcmCrypt := fun _ _ data => (Block.ofList data, Block.zero 16)
  gcmAuthDecrypt := fun _ _ data _ => some (Block.ofList data)
  opens := plain_opens

def memoryKv : Backend (String → Option (List UInt8)) where
  onSetValue := fun key value kv => (.ok, fun k => if k = key then some value else kv k)
  onGetValueLen := fun key kv => (.ok ((kv key).getD []).length, kv)
  onGetValue := fun key cap kv =>
    if h : ((kv key).getD []).length ≤ cap then (⟨.ok, (kv key).getD [], ((kv key).getD []).length, h, h⟩, kv)
    else (⟨.error, [], 0, Nat.zero_le _, Nat.zero_le _⟩, kv)
  onDelValue := fun key kv => (.ok, fun k => if k = key then none else kv k)

theorem memoryKv_getValue (key : String) (cap : ℕ) (kv : String → Option (List UInt8)) (value : List UInt8)
    (h : kv key = some value) (hcap : value.length ≤ cap) :
    (memoryKv.onGetValue key cap kv).1.ret = .ok ∧ (memoryKv.onGetValue key cap kv).1.data = value ∧
      (memoryKv.onGetValue key cap kv).1.len = value.length := by
  have hget : (kv key).getD [] = value := by
    rw [h]
    rfl
  have hle : ((kv key).getD []).length ≤ cap := by rwa [hget]
  dsimp only [memoryKv]
  rw [dif_pos hle]
  exact ⟨rfl, hget, congrArg List.length hget⟩

theorem memoryKv_getValue_keeps (key : String) (cap : ℕ) (kv : String → Option (List UInt8)) :
    (memoryKv.onGetValue key cap kv).2 = kv := by
  dsimp only [memoryKv]
  split_ifs <;> rfl

theorem memoryKv_getLen (key : String) (kv : String → Option (List UInt8)) (value : List UInt8) (h : kv key = some value) :
    (memoryKv.onGetValueLen key kv).1 = .ok value.length := by
  dsimp only [memoryKv]
  rw [h]
  rfl

def memoryWorking : WorkingBackend (String → Option (List UInt8)) where
  toBackend := memoryKv
  content := fun kv => kv
  set_ok := fun _ _ _ => rfl
  set_content := fun _ _ _ => if_pos rfl
  getLen := memoryKv_getLen
  getLen_keeps := fun _ _ => rfl
  getValue := memoryKv_getValue
  getValue_keeps := memoryKv_getValue_keeps

def emptyItem (mode : SecurityStoreMode) : SecurityStoreItem := ⟨7, some "k", mode, some fun _ => 0, 0, 4⟩

def emptyStore (mode : SecurityStoreMode) : UtilsStoreContext (String → Option (List UInt8)) :=
  ⟨[⟨0, [emptyItem mode], List.cons_ne_nil _ _⟩], fun _ => none⟩

theorem emptyPlain_comes_back :
    getStoreItemByKey 7 (emptyStore .plain).storeList = some (emptyItem .plain) ∧
      (emptyItem .plain).len ≤ (emptyItem .plain).size ∧
      CommitThenPull plainPrimitives memoryWorking (Block.zero 16) (Block.zero 16) (emptyStore .plain) 7 [] :=
  ⟨rfl, by decide, (commitThenPull_iff plainPrimitives memoryWorking (Block.zero 16) (Block.zero 16) (emptyStore .plain) 7
    (emptyItem .plain) rfl (by decide)).mpr ⟨rfl, rfl, by decide, .inl rfl⟩⟩

theorem emptyProtected_not_committed :
    (securityStoreCommit (workingEnv plainPrimitives (Block.zero 16)) memoryKv 7 (emptyStore .verify)).1 =
      .errSecurecMemcpy ∧
    (securityStoreCommit (workingEnv plainPrimitives (Block.zero 16)) memoryKv 7 (emptyStore .encrypt)).1 =
      .errParamInvalid ∧
    ¬ CommitThenPull plainPrimitives memoryWorking (Block.zero 16) (Block.zero 16) (emptyStore .verify) 7 [] ∧
    ¬ CommitThenPull plainPrimitives memoryWorking (Block.zero 16) (Block.zero 16) (emptyStore .encrypt) 7 [] := by
  refine ⟨rfl, rfl, ?_, ?_⟩
  · rintro ⟨hcommit, -⟩
    cases hcommit
  · rintro ⟨hcommit, -⟩
    cases hcommit

end

end IotConnect.Store
