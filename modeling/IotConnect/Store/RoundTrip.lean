import IotConnect.Foundations.Trace
import IotConnect.Store.Tables
import IotConnect.Store.ValidBlob

/-! # What is committed is what is pulled

Over any sequence of settings of cached values, the backend holds for the key what was committed (`Stored`);
a pull that succeeds brings it back into the cache (`Cached`). -/
namespace IotConnect.Store
open Memory Trace
set_option autoImplicit false

section
variable {β : Type}

def Cached (s : UtilsStoreContext β) (key : Int) (v : List UInt8) : Prop :=
  ∃ item buffer, getStoreItemByKey key s.storeList = some item ∧ item.buffer = some buffer ∧
    item.len = v.length ∧ Holds buffer 0 v

/-- The backend holds the value under the key, in the form that the mode of the item has. -/
def Stored (C : Crypto) (content : β → String → List UInt8) (s : UtilsStoreContext β) (key : Int)
    (v : List UInt8) : Prop :=
  ∃ item keyChar, getStoreItemByKey key s.storeList = some item ∧ item.keyChar = some keyChar ∧
    if item.mode = .plain then content s.kv keyChar = v else ValidBlob C item.mode (content s.kv keyChar) v

/-! ## Calls on one item -/

theorem getStoreItemByKey_keyInt {key : Int} {nodes : List StoreItemsNode} {item : SecurityStoreItem}
    (h : getStoreItemByKey key nodes = some item) : item.keyInt = key := by
  have := List.find?_some h
  simpa [hasKey] using this

theorem getStoreItemByKey_frame {key : Int} {nodes : List StoreItemsNode} {old item : SecurityStoreItem}
    (hold : getStoreItemByKey key nodes = some old) (hframe : Frame old item) :
    getStoreItemByKey key (writeItem key item nodes) = some item := by
  rw [getStoreItemByKey_writeItem key hold (hframe.keyInt.trans (getStoreItemByKey_keyInt hold)), if_pos rfl]

section OnItem
variable {lock : Bool} {key : Int} {op : SecurityStoreItem → β → IotcRet × SecurityStoreItem × β}
  {s : UtilsStoreContext β}

theorem onItem_of_some {item : SecurityStoreItem} (hlock : lock = true)
    (hitem : getStoreItemByKey key s.storeList = some item) :
    onItem lock key op s = ((op item s.kv).1, ⟨writeItem key (op item s.kv).2.1 s.storeList, (op item s.kv).2.2⟩) := by
  rw [onItem, hlock, hitem]
  rfl

theorem onItem_cases (lock : Bool) (key : Int) (op : SecurityStoreItem → β → IotcRet × SecurityStoreItem × β)
    (s : UtilsStoreContext β) :
    (∃ ret : IotcErr, onItem lock key op s = (ret.val, s)) ∨
      ∃ item, lock = true ∧ getStoreItemByKey key s.storeList = some item := by
  cases lock with
  | false => exact .inl ⟨⟨.errTimeout, by decide⟩, rfl⟩
  | true =>
    cases hitem : getStoreItemByKey key s.storeList with
    | none =>
      refine .inl ⟨⟨.storeErrInvalidKey, by decide⟩, ?_⟩
      rw [onItem, hitem]
      rfl
    | some item => exact .inr ⟨item, rfl, rfl⟩

theorem onItem_ok (h : (onItem lock key op s).1 = .ok) :
    ∃ item, getStoreItemByKey key s.storeList = some item ∧ (op item s.kv).1 = .ok ∧
      (onItem lock key op s).2 = ⟨writeItem key (op item s.kv).2.1 s.storeList, (op item s.kv).2.2⟩ := by
  rcases onItem_cases lock key op s with ⟨ret, heq⟩ | ⟨item, hlock, hitem⟩
  · rw [heq] at h
    exact absurd h ret.property
  · rw [onItem_of_some hlock hitem] at h ⊢
    exact ⟨item, hitem, h, rfl⟩

end OnItem

/-! ## Setting and getting -/

theorem get_of_cached {s : UtilsStoreContext β} {key : Int} {v : List UInt8} {cap : ℕ} (h : Cached s key v)
    (hpos : 0 < v.length) (hcap : v.length ≤ cap) : securityStoreGet true key cap s = .ok v := by
  obtain ⟨item, buffer, hitem, hbuffer, hlen, hholds⟩ := h
  have hread : load buffer 0 v.length = v := hholds
  rw [securityStoreGet, if_neg (by omega), if_neg (by decide), hitem]
  dsimp only
  rw [hbuffer]
  dsimp only
  rw [hlen, if_neg (by omega), hread, memcpyS_of_le _ _ _ _ (by omega) hcap]
  dsimp only
  rw [load_store_self]

theorem setItem_frame (value : List UInt8) (item : SecurityStoreItem) (kv : β) :
    Frame item (setItem value item kv).2.1 ∧ (setItem value item kv).2.2 = kv := by
  unfold setItem
  cases item.buffer with
  | none => exact ⟨.refl item, rfl⟩
  | some buffer =>
    dsimp only
    split_ifs
    · exact ⟨.refl item, rfl⟩
    · cases memcpyS buffer 0 item.size value with
      | none => exact ⟨.refl item, rfl⟩
      | some buffer' => exact ⟨frame_fill _ _ _, rfl⟩

theorem set_stored {C : Crypto} {content : β → String → List UInt8} {s : UtilsStoreContext β} {key : Int}
    {v : List UInt8} (h : Stored C content s key v) (lock : Bool) (key' : Int) (value : List UInt8) :
    Stored C content (securityStoreSet lock key' value s).2 key v := by
  unfold securityStoreSet
  split_ifs
  · exact h
  rcases onItem_cases lock key' (setItem value) s with ⟨ret, heq⟩ | ⟨item', hlock, hitem'⟩
  · rw [heq]
    exact h
  obtain ⟨item, keyChar, hitem, hkeyChar, hstored⟩ := h
  obtain ⟨hframe, hkv⟩ := setItem_frame value item' s.kv
  have hlookup := getStoreItemByKey_writeItem key hitem'
    (hframe.keyInt.trans (getStoreItemByKey_keyInt hitem'))
  rw [onItem_of_some hlock hitem']
  unfold Stored
  dsimp only
  rw [hkv, hlookup]
  by_cases hkey : key = key'
  · rw [if_pos hkey]
    rw [hkey, hitem'] at hitem
    cases hitem
    refine ⟨_, keyChar, rfl, hframe.keyChar.trans hkeyChar, ?_⟩
    rw [hframe.mode]
    exact hstored
  · rw [if_neg hkey]
    exact ⟨item, keyChar, hitem, hkeyChar, hstored⟩

theorem set_cached {s : UtilsStoreContext β} {key : Int} {v : List UInt8} {item : SecurityStoreItem}
    (hitem : getStoreItemByKey key s.storeList = some item) (hbuffer : item.buffer.isSome = true)
    (hpos : 0 < v.length) (hsize : v.length ≤ item.size) : Cached (securityStoreSet true key v s).2 key v := by
  obtain ⟨buffer, hbuffer⟩ := Option.isSome_iff_exists.mp hbuffer
  have hset : setItem v item s.kv = (.ok, item.fill (store buffer 0 v) v.length, s.kv) := by
    rw [setItem, hbuffer]
    dsimp only
    rw [if_neg (by omega), memcpyS_of_le _ _ _ _ (by omega) hsize]
  have hne : ¬ v = [] := fun hnil => by simp [hnil] at hpos
  rw [securityStoreSet, if_neg hne, onItem_of_some rfl hitem, hset]
  refine ⟨item.fill (store buffer 0 v) v.length, store buffer 0 v, ?_, rfl, rfl, holds_store _ _ _⟩
  exact getStoreItemByKey_frame hitem (frame_fill _ _ _)

theorem commit_buffer {env : StoreEnv} {backend : Backend β} {s : UtilsStoreContext β} {key : Int}
    (h : (securityStoreCommit env backend key s).1 = .ok) :
    ∃ item, getStoreItemByKey key s.storeList = some item ∧ item.buffer.isSome = true := by
  obtain ⟨item, hitem, hok, -⟩ := onItem_ok h
  refine ⟨item, hitem, ?_⟩
  cases hbuffer : item.buffer with
  | some buffer => rfl
  | none =>
    rw [storeItemWrite, hbuffer] at hok
    cases hok

theorem buffer_of_commit {env : StoreEnv} {backend : Backend β} {s : UtilsStoreContext β} {key : Int}
    {v : List UInt8} {item : SecurityStoreItem} (hitem : getStoreItemByKey key s.storeList = some item)
    (hpos : 0 < v.length)
    (h : (securityStoreCommit env backend key (securityStoreSet true key v s).2).1 = .ok) :
    item.buffer.isSome = true := by
  obtain ⟨item', hitem', hbuffer'⟩ := commit_buffer h
  cases hbuffer : item.buffer with
  | some buffer => rfl
  | none =>
    -- nothing was set, so the item is still without a buffer
    have hset : setItem v item s.kv = (.storeErrInvalidBufSize, item, s.kv) := by rw [setItem, hbuffer]
    have hne : ¬ v = [] := fun hnil => by simp [hnil] at hpos
    rw [securityStoreSet, if_neg hne, onItem_of_some rfl hitem, hset] at hitem'
    have hlookup := (getStoreItemByKey_frame hitem (.refl item)).symm.trans hitem'
    cases hlookup
    rw [hbuffer] at hbuffer'
    cases hbuffer'

/-! ## Committing and pulling -/

variable {backend : Backend β} {content : β → String → List UInt8} (hb : Faithful backend content)
  {C : Crypto} {env : StoreEnv} (hC : C.Correct env)
include hb hC

theorem storeItemWrite_stored {item : SecurityStoreItem} {buffer : ℕ → UInt8} {keyChar : String} {kv : β}
    (hbuffer : item.buffer = some buffer) (hkeyChar : item.keyChar = some keyChar)
    (hok : (storeItemWrite env backend item kv).1 = .ok) :
    if item.mode = .plain then content (storeItemWrite env backend item kv).2.2 keyChar = load buffer 0 item.len
    else ValidBlob C item.mode (content (storeItemWrite env backend item kv).2.2 keyChar)
      (load buffer 0 item.len) := by
  rw [storeItemWrite, hbuffer, hkeyChar] at hok ⊢
  dsimp only at hok ⊢
  by_cases hsize : item.size < item.len
  · rw [if_pos hsize] at hok
    cases hok
  rw [if_neg hsize] at hok ⊢
  by_cases hmode : item.mode = .plain
  · rw [if_neg (not_not.mpr hmode)] at hok ⊢
    rw [if_pos hmode]
    exact hb.set _ _ _ hok
  · -- the blob is written, then read back
    rw [if_pos hmode] at hok ⊢
    rw [if_neg hmode]
    rw [storeItemWriteCipher] at hok ⊢
    cases hseal : storeItemSeal env item.mode (load buffer 0 item.len) with
    | error ret =>
      rw [hseal] at hok
      exact absurd hok ret.property
    | ok sealed =>
      rw [hseal] at hok
      dsimp only at hok ⊢
      by_cases hset : (backend.onSetValue keyChar (sealed.1.bytes ++ sealed.2) kv).1 = .ok
      · rw [if_neg (not_not.mpr hset), storeItemReadCipher_keeps hb, hb.set _ _ _ hset]
        exact storeItemSeal_valid hC hseal
      · rw [if_pos hset] at hok
        exact absurd hok hset

theorem commit_stored {s : UtilsStoreContext β} {key : Int} {v : List UInt8} (hcached : Cached s key v)
    (h : (securityStoreCommit env backend key s).1 = .ok) :
    Stored C content (securityStoreCommit env backend key s).2 key v := by
  obtain ⟨item, buffer, hitem, hbuffer, hlen, hholds⟩ := hcached
  obtain ⟨item', hitem', hok, hs⟩ := onItem_ok h
  rw [hitem] at hitem'
  cases hitem'
  have hframe := storeItemWrite_frame env backend item s.kv
  cases hkeyChar : item.keyChar with
  | none =>
    rw [storeItemWrite, hbuffer, hkeyChar] at hok
    cases hok
  | some keyChar =>
    have hstored := storeItemWrite_stored hb hC hbuffer hkeyChar hok
    have hread : load buffer 0 item.len = v := by
      rw [hlen]
      exact hholds
    rw [securityStoreCommit, hs]
    refine ⟨_, keyChar, getStoreItemByKey_frame hitem hframe, hframe.keyChar.trans hkeyChar, ?_⟩
    rw [hframe.mode, ← hread]
    exact hstored

theorem storeItemRead_ok {item : SecurityStoreItem} {kv : β} (hmode : item.mode ≠ .plain)
    (hok : (storeItemRead env backend item kv).1 = .ok) :
    ∃ keyChar, item.keyChar = some keyChar ∧
      ((content kv keyChar = [] ∧ (storeItemRead env backend item kv).2.1.len = 0) ∨
      ∃ value, ValidBlob C item.mode (content kv keyChar) value ∧
        ∃ buffer, (storeItemRead env backend item kv).2.1 = item.fill (store buffer 0 value) value.length) := by
  cases hbuffer : item.buffer with
  | none =>
    rw [storeItemRead, hbuffer] at hok
    cases hok
  | some itemBuffer =>
    cases hkeyChar : item.keyChar with
    | none =>
      rw [storeItemRead, hbuffer, hkeyChar] at hok
      cases hok
    | some keyChar =>
      refine ⟨keyChar, rfl, ?_⟩
      rw [storeItemRead, hbuffer, hkeyChar] at hok ⊢
      dsimp only at hok ⊢
      by_cases hsize : item.size = 0
      · rw [if_pos hsize] at hok
        cases hok
      rw [if_neg hsize, if_pos hmode] at hok ⊢
      rcases storeItemReadCipher_ok hb hC (Nat.pos_of_ne_zero hsize) hok with ⟨hempty, heq⟩ | ⟨value, hvalid, heq⟩
      · rw [heq]
        exact .inl ⟨hempty, rfl⟩
      · exact .inr ⟨value, hvalid, itemBuffer, heq⟩

theorem storeItemRead_stored {item : SecurityStoreItem} {keyChar : String} {kv : β} {v : List UInt8}
    (hkeyChar : item.keyChar = some keyChar)
    (hstored : if item.mode = .plain then content kv keyChar = v else ValidBlob C item.mode (content kv keyChar) v)
    (hok : (storeItemRead env backend item kv).1 = .ok) :
    ∃ buffer, (storeItemRead env backend item kv).2.1 = item.fill (store buffer 0 v) v.length := by
  by_cases hmode : item.mode = .plain
  · rw [if_pos hmode] at hstored
    cases hbuffer : item.buffer with
    | none =>
      rw [storeItemRead, hbuffer] at hok
      cases hok
    | some itemBuffer =>
      rw [storeItemRead, hbuffer, hkeyChar] at hok ⊢
      dsimp only at hok ⊢
      by_cases hsize : item.size = 0
      · rw [if_pos hsize] at hok
        cases hok
      rw [if_neg hsize, if_neg (not_not.mpr hmode)] at hok ⊢
      by_cases hret : (backend.onGetValue keyChar item.size kv).1.ret = .ok
      · obtain ⟨hdata, hlen⟩ := hb.getValue keyChar item.size kv hret
        rw [if_neg (not_not.mpr hret), hdata, hlen, hstored]
        exact ⟨itemBuffer, rfl⟩
      · rw [if_pos hret] at hok
        exact absurd hok hret
  · rw [if_neg hmode] at hstored
    obtain ⟨keyChar', hkeyChar', ⟨hempty, -⟩ | ⟨value, hvalid, hfill⟩⟩ := storeItemRead_ok hb hC hmode hok
    · rw [hkeyChar] at hkeyChar'
      cases hkeyChar'
      have hlong := hstored.long
      rw [hempty] at hlong
      cases hlong
    · rw [hkeyChar] at hkeyChar'
      cases hkeyChar'
      rw [hvalid.unique hstored] at hfill
      exact hfill

theorem pull_cached {s : UtilsStoreContext β} {key : Int} {v : List UInt8} (hstored : Stored C content s key v)
    (h : (securityStorePull env backend key s).1 = .ok) : Cached (securityStorePull env backend key s).2 key v := by
  obtain ⟨item, keyChar, hitem, hkeyChar, hcontent⟩ := hstored
  obtain ⟨item', hitem', hok, hs⟩ := onItem_ok h
  rw [hitem] at hitem'
  cases hitem'
  obtain ⟨buffer, hfill⟩ := storeItemRead_stored hb hC hkeyChar hcontent hok
  rw [securityStorePull, hs, hfill]
  refine ⟨item.fill (store buffer 0 v) v.length, store buffer 0 v, ?_, rfl, rfl, holds_store _ _ _⟩
  exact getStoreItemByKey_frame hitem (frame_fill _ _ _)

end

/-! ## The round trip -/

/-- A call of `SecurityStoreSet`. -/
structure SetCall where
  lock : Bool
  key : Int
  value : List UInt8

def setStep {β : Type} (s : UtilsStoreContext β) (c : SetCall) : UtilsStoreContext β :=
  (securityStoreSet c.lock c.key c.value s).2

theorem run_stored {β : Type} {C : Crypto} {content : β → String → List UInt8} {s : UtilsStoreContext β} {key : Int}
    {v : List UInt8} (h : Stored C content s key v) (sets : List SetCall) :
    Stored C content (run setStep s sets) key v := by
  induction sets generalizing s with
  | nil => exact h
  | cons c sets ih => exact ih (set_stored h c.lock c.key c.value)

/-- **A value that was set and committed is what a later pull brings back, whatever was set in between; and a
pull of a protected item that succeeds with a value accepted a valid blob.** -/
theorem store_roundTrip {β : Type} (backend : Backend β) (content : β → String → List UInt8)
    (hb : Faithful backend content) (C : Crypto) :
    (∀ (s : UtilsStoreContext β) (key : Int) (item : SecurityStoreItem) (v : List UInt8) (env env' : StoreEnv)
      (sets : List SetCall) (cap : ℕ),
      C.Correct env → C.Correct env' → getStoreItemByKey key s.storeList = some item →
      1 ≤ v.length → v.length ≤ item.size → v.length ≤ cap →
      let committed := securityStoreCommit env backend key (securityStoreSet true key v s).2
      let pulled := securityStorePull env' backend key (run setStep committed.2 sets)
      committed.1 = .ok → pulled.1 = .ok → securityStoreGet true key cap pulled.2 = .ok v) ∧
    (∀ (s : UtilsStoreContext β) (key : Int) (item : SecurityStoreItem) (env : StoreEnv),
      C.Correct env → getStoreItemByKey key s.storeList = some item → item.mode ≠ .plain →
      (securityStorePull env backend key s).1 = .ok →
      ∀ v, Cached (securityStorePull env backend key s).2 key v → v ≠ [] →
      ∃ keyChar, item.keyChar = some keyChar ∧ ValidBlob C item.mode (content s.kv keyChar) v) := by
  constructor
  · intro s key item v env env' sets cap hC hC' hitem hpos hsize hcap committed pulled hcommit hpull
    have hcached : Cached (securityStoreSet true key v s).2 key v :=
      set_cached hitem (buffer_of_commit hitem hpos hcommit) hpos hsize
    have hstored := run_stored (commit_stored hb hC hcached hcommit) sets
    exact get_of_cached (pull_cached hb hC' hstored hpull) hpos hcap
  · intro s key item env hC hitem hmode hpull v hcached hne
    obtain ⟨item', hitem', hok, hs⟩ := onItem_ok hpull
    rw [hitem] at hitem'
    cases hitem'
    obtain ⟨pulled, buffer, hpulled, hbuffer, hlen, hholds⟩ := hcached
    have hframe := storeItemRead_frame env backend item s.kv
    rw [securityStorePull, hs, getStoreItemByKey_frame hitem hframe] at hpulled
    cases hpulled
    obtain ⟨keyChar, hkeyChar, ⟨-, hempty⟩ | ⟨value, hvalid, itemBuffer, hfill⟩⟩ :=
      storeItemRead_ok hb hC hmode hok
    · rw [hempty] at hlen
      exact absurd (List.length_eq_zero_iff.mp hlen.symm) hne
    · rw [hfill] at hlen hbuffer
      cases hbuffer
      have hvalue : value = v := by
        rw [← load_store_self itemBuffer 0 value, show value.length = v.length from hlen]
        exact hholds
      exact ⟨keyChar, hkeyChar, hvalue ▸ hvalid⟩

/-! A backend in memory and cryptography without secrets. -/

def memoryBackend : Backend (String → List UInt8) where
  onSetValue := fun key value kv => (.ok, fun k => if k = key then value else kv k)
  onGetValueLen := fun key kv => (.ok (kv key).length, kv)
  onGetValue := fun key cap kv =>
    if h : (kv key).length ≤ cap then (⟨.ok, kv key, (kv key).length, h, h⟩, kv)
    else (⟨.error, [], 0, Nat.zero_le _, Nat.zero_le _⟩, kv)
  onDelValue := fun key kv => (.ok, fun k => if k = key then [] else kv k)

theorem memoryBackend_faithful : Faithful memoryBackend (fun kv key => kv key) where
  set := fun key value kv _ => if_pos rfl
  getLen := fun key kv len h => by cases h; rfl
  getLen_keeps := fun _ _ => rfl
  getValue := by
    intro key cap kv h
    dsimp only [memoryBackend] at h ⊢
    split_ifs at h ⊢ with hcap
    exact ⟨rfl, rfl⟩
  getValue_keeps := by
    intro key cap kv
    dsimp only [memoryBackend]
    split_ifs <;> rfl

def openCrypto : Crypto where
  hkdf := fun _ => List.replicate 32 0
  hmac := fun _ data => (data ++ List.replicate 32 0).take 32
  gcmOpen := fun _ _ cipher tag => if tag = List.replicate 16 0 then some cipher else none

theorem padded_length (data : List UInt8) : ((data ++ List.replicate 32 0).take 32).length = 32 := by
  simp

def openEnv : StoreEnv where
  lock := true
  callocWrite := true
  callocRead := true
  salt := Bytes.Block.zero 16
  hkdf := fun _ => .ok (Bytes.Block.zero 32)
  hmac := fun _ data => .ok ⟨(data ++ List.replicate 32 0).take 32, padded_length data⟩
  aesGcmEncrypt := fun _ _ data => .ok (Bytes.Block.ofList data, Bytes.Block.zero 16)
  aesGcmDecrypt := fun _ _ cipher tag =>
    if tag = List.replicate 16 0 then .ok (Bytes.Block.ofList cipher) else .error ⟨.error, IotcRet.error_ne_ok⟩

theorem openCrypto_correct : openCrypto.Correct openEnv where
  hkdf := fun _ _ h => by cases h; rfl
  hmac := fun _ _ _ h => by cases h; rfl
  gcmOpen := by
    intro _ _ cipher tag plain h
    dsimp only [openEnv] at h
    split_ifs at h with htag
    cases h
    exact if_pos htag
  gcmSeal := fun _ _ _ _ _ h => by cases h; rfl

def freshStore (mode : SecurityStoreMode) : UtilsStoreContext (String → List UInt8) :=
  ⟨[⟨0, [⟨7, some "k", mode, some fun _ => 0, 0, 4⟩], by simp⟩], fun _ => []⟩

theorem store_roundTrip_protected :
    securityStoreGet true 7 4 (securityStorePull openEnv memoryBackend 7
      (run setStep (securityStoreCommit openEnv memoryBackend 7
        (securityStoreSet true 7 [1, 2, 3] (freshStore .encrypt)).2).2 [⟨true, 7, [9]⟩])).2 = .ok [1, 2, 3] :=
  (store_roundTrip memoryBackend _ memoryBackend_faithful openCrypto).1 (freshStore .encrypt) 7 _ [1, 2, 3] openEnv
    openEnv [⟨true, 7, [9]⟩] 4 openCrypto_correct openCrypto_correct rfl (by decide) (by decide) (by decide)
    (by decide) (by decide)

end IotConnect.Store
