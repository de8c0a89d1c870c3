import IotConnect.Common.Utils
import IotConnect.Foundations.Bytes
import IotConnect.Foundations.Keyed

/-! # The persistent store (`security_store.c`)

Items are cached in buffers of the application and read from and written to a key-value backend, in the clear
or behind a header with a MAC. The backend is a parameter: any functions on any state, as long as they stay
within the buffer they are given. So are the cryptographic functions and the outcomes of the allocations of a
call (`StoreEnv`). -/
namespace IotConnect.Store
open Memory Bytes
set_option autoImplicit false

/-- `SecurityStoreMode`; `other` stands for every value that is not of the enumeration. -/
inductive SecurityStoreMode
  | plain
  | verify
  | encrypt
  | other
  deriving DecidableEq

structure SecurityStoreItem where
  keyInt : Int
  keyChar : Option String
  mode : SecurityStoreMode
  buffer : Option (ℕ → UInt8)
  len : ℕ
  size : ℕ

/-! ## The backend -/

/-- What `onGetValue` does with a buffer of `cap` bytes: it writes `data` to it and sets the length. -/
structure GotValue (cap : ℕ) where
  ret : IotcRet
  data : List UInt8
  len : ℕ
  data_le : data.length ≤ cap
  len_le : len ≤ cap

/-- `SecurityStoreCallback` over the state `β` of the backend. -/
structure Backend (β : Type) where
  onSetValue : String → List UInt8 → β → IotcRet × β
  onGetValueLen : String → β → Except IotcErr ℕ × β
  onGetValue : String → (cap : ℕ) → β → GotValue cap × β
  onDelValue : String → β → IotcRet × β

structure StoreEnv where
  /-- Whether the mutex of the store is obtained. -/
  lock : Bool
  callocWrite : Bool
  callocRead : Bool
  /-- What `SecurityRandom` left in the salt. -/
  salt : Block 16
  /-- `SecurityGenHkdfLocalKey` -/
  hkdf : List UInt8 → Except IotcErr (Block 32)
  /-- `IotcHmacCalc` by key and data. -/
  hmac : List UInt8 → List UInt8 → Except IotcErr (Block 32)
  /-- `IotcAesGcmEncrypt` by key, iv and data, with the cipher text and the tag. -/
  aesGcmEncrypt : List UInt8 → List UInt8 → (data : List UInt8) → Except IotcErr (Block data.length × Block 16)
  /-- `IotcAesGcmDecrypt` by key, iv, data and tag; a failure leaves zeros in the output buffer. -/
  aesGcmDecrypt : List UInt8 → List UInt8 → (data : List UInt8) → List UInt8 → Except IotcErr (Block data.length)

/-! ## The header -/

/-- `sizeof(StoreCipherHeader)`: version, three bytes of padding, salt, mac, length. -/
def storeCipherHeaderLen : ℕ := 56
def storeCipherVer1 : UInt8 := 1
def storeCipherGcmKeyLen : ℕ := 16
def aesGcmTagMaxLen : ℕ := 16

structure StoreCipherHeader where
  ver : UInt8
  salt : List UInt8
  mac : List UInt8
  len : ℕ
  deriving DecidableEq

/-- The header at the start of the buffer; the length is in host order, here little-endian. -/
def StoreCipherHeader.read (buffer : List UInt8) : StoreCipherHeader where
  ver := buffer.getD 0 0
  salt := (buffer.drop 4).take 16
  mac := (buffer.drop 20).take 32
  len := ofBytes ((buffer.drop 52).take 4).reverse

def StoreCipherHeader.bytes (header : StoreCipherHeader) : List UInt8 :=
  [header.ver, 0, 0, 0] ++ (header.salt ++ (header.mac ++ (toBytes 4 header.len).reverse))

/-! ## Reading an item -/

def SecurityStoreItem.fill (item : SecurityStoreItem) (buffer : ℕ → UInt8) (len : ℕ) : SecurityStoreItem :=
  { item with buffer := some buffer, len := len }

section
variable (env : StoreEnv)

def cipherV1HmacVerifyAndCopy (item : SecurityStoreItem) (itemBuffer : ℕ → UInt8) (header : StoreCipherHeader)
    (cipher key : List UInt8) : IotcRet × SecurityStoreItem :=
  match env.hmac key cipher with
  | .error ret => (ret.val, item)
  | .ok hmac =>
    if hmac.val ≠ header.mac then (.storeErrIntegrityCheck, item)
    else
      match memcpyS itemBuffer 0 item.size cipher with
      | none => (.storeErrInvalidBufSize, item)
      | some itemBuffer => (.ok, item.fill itemBuffer cipher.length)

/-- The cipher text is decrypted straight into the buffer of the item. -/
def cipherV1AesGcmDecrypt (item : SecurityStoreItem) (itemBuffer : ℕ → UInt8) (header : StoreCipherHeader)
    (cipher key : List UInt8) : IotcRet × SecurityStoreItem :=
  match env.aesGcmDecrypt (key.take storeCipherGcmKeyLen) (key.drop storeCipherGcmKeyLen) cipher
      (header.mac.take aesGcmTagMaxLen) with
  | .error ret => (ret.val, item.fill (store itemBuffer 0 (List.replicate cipher.length 0)) item.len)
  | .ok plain => (.ok, item.fill (store itemBuffer 0 plain.val) cipher.length)

/-- `CipherV1DecryptAndVerify` on the first `len` bytes of the buffer; `mac` is given when it is to be checked. -/
def cipherV1DecryptAndVerify (item : SecurityStoreItem) (itemBuffer : ℕ → UInt8) (buffer : List UInt8)
    (mac : Option (List UInt8)) : IotcRet × SecurityStoreItem :=
  if buffer.length < storeCipherHeaderLen then (.storeErrInvalidCipher, item)
  else
    let header := StoreCipherHeader.read buffer
    let cipher := buffer.drop storeCipherHeaderLen
    if cipher.length ≠ header.len ∨ item.size < cipher.length then (.storeErrInvalidCipher, item)
    else
      match env.hkdf header.salt with
      | .error ret => (ret.val, item)
      | .ok key =>
        let (ret, item) :=
          match item.mode with
          | .verify => cipherV1HmacVerifyAndCopy env item itemBuffer header cipher key.val
          | .encrypt => cipherV1AesGcmDecrypt env item itemBuffer header cipher key.val
          | _ => (.storeErrInvalidMode, item)
        if ret = .ok ∧ (mac.any (· ≠ header.mac)) = true then (.storeErrMacNotSame, item)
        else (ret, item)

variable {β : Type} (backend : Backend β)

def storeItemReadCipher (item : SecurityStoreItem) (keyChar : String) (itemBuffer : ℕ → UInt8)
    (mac : Option (List UInt8)) (kv : β) : IotcRet × SecurityStoreItem × β :=
  let (r, kv) := backend.onGetValueLen keyChar kv
  match r with
  | .error ret => (ret.val, item, kv)
  | .ok len =>
    if len = 0 then (.ok, { item with len := 0 }, kv)
    else if item.size + storeCipherHeaderLen < len then (.storeErrInvalidKvLen, item, kv)
    else if iotcMalloc env.callocRead len = false then (.memErrCalloc, item, kv)
    else
      let (got, kv) := backend.onGetValue keyChar len kv
      if got.ret ≠ .ok then (got.ret, item, kv)
      else
        let buffer := store (fun _ => 0) 0 got.data
        if buffer 0 = storeCipherVer1 then
          let (ret, item) := cipherV1DecryptAndVerify env item itemBuffer (load buffer 0 got.len) mac
          (ret, item, kv)
        else (.storeErrInvalidVersion, item, kv)

def storeItemRead (item : SecurityStoreItem) (kv : β) : IotcRet × SecurityStoreItem × β :=
  match item.buffer, item.keyChar with
  | some itemBuffer, some keyChar =>
    if item.size = 0 then (.storeErrInvalidItem, item, kv)
    else if item.mode ≠ .plain then storeItemReadCipher env backend item keyChar itemBuffer none kv
    else
      let (got, kv) := backend.onGetValue keyChar item.size kv
      let itemBuffer := store itemBuffer 0 got.data
      if got.ret ≠ .ok then (got.ret, item.fill itemBuffer item.len, kv)
      else (.ok, item.fill itemBuffer got.len, kv)
  | _, _ => (.storeErrInvalidItem, item, kv)

/-! ## Writing an item -/

def cipherV1GenHmacAndCopy (value key : List UInt8) : Except IotcErr (List UInt8 × List UInt8) :=
  match memcpyS (fun _ => 0) 0 value.length value with
  | none => .error ⟨.errSecurecMemcpy, by decide⟩
  | some _ =>
    match env.hmac key value with
    | .error ret => .error ret
    | .ok mac => .ok (mac.val, value)

def cipherV1Encrypt (value key : List UInt8) : Except IotcErr (List UInt8 × List UInt8) :=
  match env.aesGcmEncrypt (key.take storeCipherGcmKeyLen) (key.drop storeCipherGcmKeyLen) value with
  | .error ret => .error ret
  | .ok (cipher, tag) => .ok (tag.val ++ List.replicate 16 0, cipher.val)

/-- The part of `StoreItemWriteCipher` before the backend: the header and the body that are written. -/
def storeItemSeal (mode : SecurityStoreMode) (value : List UInt8) :
    Except IotcErr (StoreCipherHeader × List UInt8) :=
  if 2 ^ 32 - 1 - storeCipherHeaderLen < value.length then .error ⟨.storeErrInvalidItem, by decide⟩
  else if iotcMalloc env.callocWrite (value.length + storeCipherHeaderLen) = false then .error ⟨.memErrCalloc, IotcRet.memErrCalloc_ne_ok⟩
  else
    match env.hkdf env.salt.val with
    | .error ret => .error ret
    | .ok key =>
      let r :=
        match mode with
        | .verify => cipherV1GenHmacAndCopy env value key.val
        | .encrypt => cipherV1Encrypt env value key.val
        | _ => .error ⟨.storeErrInvalidMode, by decide⟩
      match r with
      | .error ret => .error ret
      | .ok (mac, body) => .ok (⟨storeCipherVer1, env.salt.val, mac, value.length⟩, body)

def storeItemWriteCipher (item : SecurityStoreItem) (keyChar : String) (itemBuffer : ℕ → UInt8) (kv : β) :
    IotcRet × SecurityStoreItem × β :=
  match storeItemSeal env item.mode (load itemBuffer 0 item.len) with
  | .error ret => (ret.val, item, kv)
  | .ok (header, body) =>
    let (ret, kv) := backend.onSetValue keyChar (header.bytes ++ body) kv
    if ret ≠ .ok then (ret, item, kv)
    -- the value is read back into the item and the mac compared with the one written
    else storeItemReadCipher env backend item keyChar itemBuffer (some header.mac) kv

def storeItemWrite (item : SecurityStoreItem) (kv : β) : IotcRet × SecurityStoreItem × β :=
  match item.buffer, item.keyChar with
  | some itemBuffer, some keyChar =>
    if item.size < item.len then (.storeErrInvalidItem, item, kv)
    else if item.mode ≠ .plain then storeItemWriteCipher env backend item keyChar itemBuffer kv
    else
      let (ret, kv) := backend.onSetValue keyChar (load itemBuffer 0 item.len) kv
      (ret, item, kv)
  | _, _ => (.storeErrInvalidItem, item, kv)

def storeItemDelete (item : SecurityStoreItem) (kv : β) : IotcRet × SecurityStoreItem × β :=
  match item.keyChar with
  | none => (.storeErrInvalidItem, item, kv)
  | some keyChar =>
    let (ret, kv) := backend.onDelValue keyChar kv
    if ret ≠ .ok then (ret, item, kv)
    else (.ok, { item with len := 0 }, kv)

end

end IotConnect.Store
