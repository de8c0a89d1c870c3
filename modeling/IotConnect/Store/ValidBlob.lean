import IotConnect.Store.Blob

/-! # Valid blobs

A blob of the store is valid for a value when its version is 1, its length field is the length of its body,
and its MAC or tag is right under the key derived from its salt (`ValidBlob`). What a commit hands to the
backend is valid for the cached value (`storeItemSeal_valid`), a pull accepts only valid blobs
(`storeItemReadCipher_ok`), and a blob is valid for one value at most. -/
namespace IotConnect.Store
open Memory Bytes
set_option autoImplicit false

/-! ## Assumptions -/

/-- The cryptographic functions as they are meant to be. -/
structure Crypto where
  hkdf : List UInt8 → List UInt8
  hmac : List UInt8 → List UInt8 → List UInt8
  /-- Authenticated decryption by key, iv, cipher text and tag. -/
  gcmOpen : List UInt8 → List UInt8 → List UInt8 → List UInt8 → Option (List UInt8)

/-- The functions the store calls compute them when they succeed, and what was encrypted is decrypted. -/
structure Crypto.Correct (C : Crypto) (env : StoreEnv) : Prop where
  hkdf : ∀ salt key, env.hkdf salt = .ok key → key.val = C.hkdf salt
  hmac : ∀ key data mac, env.hmac key data = .ok mac → mac.val = C.hmac key data
  gcmOpen : ∀ key iv cipher tag plain, env.aesGcmDecrypt key iv cipher tag = .ok plain →
    C.gcmOpen key iv cipher tag = some plain.val
  gcmSeal : ∀ key iv data cipher tag, env.aesGcmEncrypt key iv data = .ok (cipher, tag) →
    C.gcmOpen key iv cipher.val tag.val = some data

/-- The backend returns what was last written, whenever it returns something. -/
structure Faithful {β : Type} (backend : Backend β) (content : β → String → List UInt8) : Prop where
  set : ∀ key value kv, (backend.onSetValue key value kv).1 = .ok →
    content (backend.onSetValue key value kv).2 key = value
  getLen : ∀ key kv len, (backend.onGetValueLen key kv).1 = .ok len → len = (content kv key).length
  getLen_keeps : ∀ key kv, content (backend.onGetValueLen key kv).2 = content kv
  getValue : ∀ key cap kv, (backend.onGetValue key cap kv).1.ret = .ok →
    (backend.onGetValue key cap kv).1.data = content kv key ∧
      (backend.onGetValue key cap kv).1.len = (content kv key).length
  getValue_keeps : ∀ key cap kv, content (backend.onGetValue key cap kv).2 = content kv

/-! ## Blobs -/

/-- The blob has version 1, a length field equal to the length of its body and a MAC or tag that is right under
the key derived from its salt; it carries the value. -/
structure ValidBlob (C : Crypto) (mode : SecurityStoreMode) (blob value : List UInt8) : Prop where
  long : storeCipherHeaderLen ≤ blob.length
  ver : (StoreCipherHeader.read blob).ver = storeCipherVer1
  len : (StoreCipherHeader.read blob).len = (blob.drop storeCipherHeaderLen).length
  authentic :
    let header := StoreCipherHeader.read blob
    let body := blob.drop storeCipherHeaderLen
    let key := C.hkdf header.salt
    (mode = .verify ∧ header.mac = C.hmac key body ∧ value = body) ∨
    (mode = .encrypt ∧ C.gcmOpen (key.take storeCipherGcmKeyLen) (key.drop storeCipherGcmKeyLen) body
      (header.mac.take aesGcmTagMaxLen) = some value)

theorem ValidBlob.unique {C : Crypto} {mode : SecurityStoreMode} {blob v w : List UInt8}
    (hv : ValidBlob C mode blob v) (hw : ValidBlob C mode blob w) : v = w := by
  rcases hv.authentic with ⟨hmode, -, hvalue⟩ | ⟨hmode, hopen⟩
  · rcases hw.authentic with ⟨-, -, hvalue'⟩ | ⟨hmode', -⟩
    · rw [hvalue, hvalue']
    · rw [hmode] at hmode'
      cases hmode'
  · rcases hw.authentic with ⟨hmode', -, -⟩ | ⟨-, hopen'⟩
    · rw [hmode] at hmode'
      cases hmode'
    · rw [hopen] at hopen'
      exact Option.some.inj hopen'

section Header
variable {header : StoreCipherHeader} (hsalt : header.salt.length = 16) (hmac : header.mac.length = 32)
include hsalt hmac

theorem StoreCipherHeader.bytes_length : header.bytes.length = storeCipherHeaderLen := by
  simp [StoreCipherHeader.bytes, hsalt, hmac, storeCipherHeaderLen]

theorem StoreCipherHeader.read_bytes (hlen : header.len < 2 ^ 32) (body : List UInt8) :
    StoreCipherHeader.read (header.bytes ++ body) = header := by
  have hsplit : header.bytes ++ body =
      [header.ver, 0, 0, 0] ++ (header.salt ++ (header.mac ++ ((toBytes 4 header.len).reverse ++ body))) := by
    simp only [StoreCipherHeader.bytes, List.append_assoc]
  have hfour : (header.bytes ++ body).drop 4 =
      header.salt ++ (header.mac ++ ((toBytes 4 header.len).reverse ++ body)) := by
    rw [hsplit]
    rfl
  have htwenty : (header.bytes ++ body).drop 20 = header.mac ++ ((toBytes 4 header.len).reverse ++ body) := by
    rw [show 20 = 4 + 16 from rfl, ← List.drop_drop, hfour, List.drop_left' hsalt]
  have hlast : (header.bytes ++ body).drop 52 = (toBytes 4 header.len).reverse ++ body := by
    rw [show 52 = 20 + 32 from rfl, ← List.drop_drop, htwenty, List.drop_left' hmac]
  unfold StoreCipherHeader.read
  rw [hfour, htwenty, hlast, List.take_left' hsalt, List.take_left' hmac, List.take_left' (by simp),
    List.reverse_reverse, ofBytes_toBytes hlen, hsplit]
  rfl

theorem ValidBlob.of_bytes {C : Crypto} {mode : SecurityStoreMode} {body value : List UInt8}
    (hver : header.ver = storeCipherVer1) (hlen : header.len = body.length) (hlt : body.length < 2 ^ 32)
    (hauth : (mode = .verify ∧ header.mac = C.hmac (C.hkdf header.salt) body ∧ value = body) ∨
      (mode = .encrypt ∧ C.gcmOpen ((C.hkdf header.salt).take storeCipherGcmKeyLen)
        ((C.hkdf header.salt).drop storeCipherGcmKeyLen) body (header.mac.take aesGcmTagMaxLen) = some value)) :
    ValidBlob C mode (header.bytes ++ body) value := by
  have hread := StoreCipherHeader.read_bytes hsalt hmac (hlen ▸ hlt) body
  have hbytes := StoreCipherHeader.bytes_length hsalt hmac
  have hdrop : (header.bytes ++ body).drop storeCipherHeaderLen = body := List.drop_left' hbytes
  refine ⟨?_, ?_, ?_, ?_⟩
  · rw [List.length_append, hbytes]
    exact Nat.le_add_right _ _
  · rw [hread]
    exact hver
  · rw [hread, hdrop]
    exact hlen
  · rw [hread, hdrop]
    exact hauth

end Header

/-! ## Writing -/

section
variable {C : Crypto} {env : StoreEnv} (hC : C.Correct env)
include hC

theorem storeItemSeal_valid {mode : SecurityStoreMode} {value body : List UInt8} {header : StoreCipherHeader}
    (h : storeItemSeal env mode value = .ok (header, body)) : ValidBlob C mode (header.bytes ++ body) value := by
  unfold storeItemSeal at h
  split_ifs at h with hlong halloc
  have hlen : value.length < 2 ^ 32 := by
    unfold storeCipherHeaderLen at hlong
    omega
  cases hhkdf : env.hkdf env.salt.val with
  | error ret =>
    rw [hhkdf] at h
    cases h
  | ok key =>
    rw [hhkdf] at h
    have hkey := hC.hkdf _ _ hhkdf
    cases mode with
    | verify =>
      dsimp only [cipherV1GenHmacAndCopy] at h
      cases hcpy : memcpyS (fun _ => 0) 0 value.length value with
      | none =>
        rw [hcpy] at h
        cases h
      | some _ =>
        rw [hcpy] at h
        dsimp only at h
        cases hhmac : env.hmac key.val value with
        | error ret =>
          rw [hhmac] at h
          cases h
        | ok mac =>
          rw [hhmac] at h
          cases h
          refine ValidBlob.of_bytes env.salt.length_val mac.length_val rfl rfl hlen (.inl ⟨rfl, ?_, rfl⟩)
          rw [← hkey]
          exact hC.hmac _ _ _ hhmac
    | encrypt =>
      dsimp only [cipherV1Encrypt] at h
      cases henc : env.aesGcmEncrypt (key.val.take storeCipherGcmKeyLen) (key.val.drop storeCipherGcmKeyLen)
          value with
      | error ret =>
        rw [henc] at h
        cases h
      | ok sealed =>
        rw [henc] at h
        cases h
        have hbody : sealed.1.val.length = value.length := sealed.1.length_val
        -- the tag is the first half of the mac field
        have htag : (sealed.2.val ++ List.replicate 16 0).take aesGcmTagMaxLen = sealed.2.val :=
          List.take_left' sealed.2.length_val
        refine ValidBlob.of_bytes env.salt.length_val (by simp) rfl hbody.symm (by rwa [hbody]) (.inr ⟨rfl, ?_⟩)
        rw [htag, ← hkey]
        exact hC.gcmSeal _ _ _ _ _ henc
    | plain => cases h
    | other => cases h

/-! ## Reading -/

theorem openBody_valid {mode : SecurityStoreMode} {size : ℕ} {blob value : List UInt8} {a : Unpacked}
    (hunpack : unpack env size blob = some a) (hopen : openBody env mode a = some value)
    (hver : (StoreCipherHeader.read blob).ver = storeCipherVer1) : ValidBlob C mode blob value := by
  obtain ⟨⟨hlong, hheader, hbody, hhkdf⟩, hlen⟩ := unpack_eq_some hunpack
  have hkey := hC.hkdf _ _ hhkdf
  refine ⟨hlong, hver, by rw [← hheader, ← hbody]; exact hlen.1.symm, ?_⟩
  rw [← hheader, ← hbody]
  dsimp only
  rw [← hkey]
  unfold openBody at hopen
  cases mode with
  | verify =>
    dsimp only at hopen
    cases hhmac : env.hmac a.key.val a.body with
    | error ret =>
      rw [hhmac] at hopen
      cases hopen
    | ok hmac =>
      rw [hhmac] at hopen
      dsimp only at hopen
      split_ifs at hopen with hmac'
      cases hopen
      exact .inl ⟨rfl, hmac'.symm.trans (hC.hmac _ _ _ hhmac), rfl⟩
  | encrypt =>
    dsimp only at hopen
    cases hdec : env.aesGcmDecrypt (a.key.val.take storeCipherGcmKeyLen) (a.key.val.drop storeCipherGcmKeyLen)
        a.body (a.header.mac.take aesGcmTagMaxLen) with
    | error ret =>
      rw [hdec] at hopen
      cases hopen
    | ok plain =>
      rw [hdec] at hopen
      cases hopen
      exact .inr ⟨rfl, hC.gcmOpen _ _ _ _ _ hdec⟩
  | plain => cases hopen
  | other => cases hopen

end

section
variable {β : Type} {backend : Backend β} {content : β → String → List UInt8} (hb : Faithful backend content)
include hb

theorem storeItemReadCipher_keeps (env : StoreEnv) (item : SecurityStoreItem) (keyChar : String)
    (itemBuffer : ℕ → UInt8) (mac : Option (List UInt8)) (kv : β) :
    content (storeItemReadCipher env backend item keyChar itemBuffer mac kv).2.2 = content kv := by
  have hlen := hb.getLen_keeps keyChar kv
  unfold storeItemReadCipher
  dsimp only
  cases (backend.onGetValueLen keyChar kv).1 with
  | error ret => exact hlen
  | ok len =>
    have hvalue := (hb.getValue_keeps keyChar len (backend.onGetValueLen keyChar kv).2).trans hlen
    dsimp only
    split_ifs
    · exact hlen
    · exact hlen
    · exact hlen
    · exact hvalue
    · exact hvalue
    · exact hvalue

theorem fetch_content (env : StoreEnv) (keyChar : String) (size : ℕ) (kv : β) :
    match fetch env backend keyChar size kv with
    | .failed _ => True
    | .empty => content kv keyChar = []
    | .blob buffer => buffer = content kv keyChar ∧ (StoreCipherHeader.read buffer).ver = storeCipherVer1 := by
  unfold fetch
  cases hlen : (backend.onGetValueLen keyChar kv).1 with
  | error ret => trivial
  | ok len =>
    have hlen' := hb.getLen keyChar kv len hlen
    dsimp only
    by_cases hzero : len = 0
    · rw [if_pos hzero]
      exact List.length_eq_zero_iff.mp (hlen'.symm.trans hzero)
    rw [if_neg hzero]
    by_cases hlong : size + storeCipherHeaderLen < len
    · rw [if_pos hlong]
      trivial
    rw [if_neg hlong]
    by_cases halloc : iotcMalloc env.callocRead len = false
    · rw [if_pos halloc]
      trivial
    rw [if_neg halloc]
    by_cases hret : (backend.onGetValue keyChar len (backend.onGetValueLen keyChar kv).2).1.ret ≠ .ok
    · rw [dif_pos hret]
      trivial
    rw [dif_neg hret]
    obtain ⟨hdata, hgot⟩ := hb.getValue keyChar len _ (not_not.mp hret)
    rw [hb.getLen_keeps] at hdata hgot
    rw [hdata, hgot, load_store_self]
    by_cases hver : store (fun _ => 0) 0 (content kv keyChar) 0 = storeCipherVer1
    · rw [if_pos hver]
      exact ⟨rfl, hver⟩
    · rw [if_neg hver]
      trivial

theorem storeItemReadCipher_ok {C : Crypto} {env : StoreEnv} (hC : C.Correct env) {item : SecurityStoreItem}
    {keyChar : String} {itemBuffer : ℕ → UInt8} {kv : β} (hpos : 0 < item.size)
    (h : (storeItemReadCipher env backend item keyChar itemBuffer none kv).1 = .ok) :
    (content kv keyChar = [] ∧
      (storeItemReadCipher env backend item keyChar itemBuffer none kv).2.1 = { item with len := 0 }) ∨
    ∃ value, ValidBlob C item.mode (content kv keyChar) value ∧
      (storeItemReadCipher env backend item keyChar itemBuffer none kv).2.1 =
        item.fill (store itemBuffer 0 value) value.length := by
  have heq := storeItemReadCipher_eq env backend item keyChar itemBuffer none kv
  have hcontent := fetch_content hb env keyChar item.size kv
  cases hfetch : fetch env backend keyChar item.size kv with
  | failed ret =>
    rw [hfetch] at heq
    exact absurd ((Prod.ext_iff.mp heq).1.symm.trans h) ret.property
  | empty =>
    rw [hfetch] at heq hcontent
    exact .inl ⟨hcontent, (Prod.ext_iff.mp heq).2⟩
  | blob buffer =>
    rw [hfetch] at heq hcontent
    obtain ⟨rfl, hver⟩ := hcontent
    dsimp only at heq
    cases hunpack : unpack env item.size (content kv keyChar) with
    | none =>
      obtain ⟨ret, hret⟩ := unpack_none itemBuffer none hunpack
      rw [hret] at heq
      exact absurd ((Prod.ext_iff.mp heq).1.symm.trans h) ret.property
    | some a =>
      cases hopen : openBody env item.mode a with
      | none =>
        obtain ⟨ret, hret⟩ := decrypt_failed itemBuffer none hunpack hopen
        rw [hret] at heq
        exact absurd ((Prod.ext_iff.mp heq).1.symm.trans h) ret.property
      | some value =>
        rw [decrypt_opened itemBuffer none hunpack hopen fun _ => hpos] at heq
        exact .inr ⟨value, openBody_valid hC hunpack hopen hver, (Prod.ext_iff.mp heq).2⟩

end

end IotConnect.Store
