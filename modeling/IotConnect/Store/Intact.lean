import IotConnect.Store.RoundTrip

/-! # What a failed call leaves in the cache

`SecurityStoreGet` sees the view of an item, its bytes up to its length. A failed pull or commit is to leave it
as it was. The read path works in the live buffer of the item: a plain value is read straight into it, an
encrypted one is decrypted in it, and the value that a commit reads back is copied into it before its mac is
compared. So the view survives when what gets there agrees with it (`PullKeeps`, `CommitKeeps`). -/
namespace IotConnect.Store
open Memory
set_option autoImplicit false

/-! ## Views -/

def SecurityStoreItem.view (item : SecurityStoreItem) : Option (List UInt8) :=
  item.buffer.map fun buffer => load buffer 0 item.len

/-- What `SecurityStoreGet` makes of a view. -/
def getView (cap : ℕ) : Option (List UInt8) → Except IotcRet (List UInt8)
  | none => .error .storeErrInvalidBufSize
  | some value => if cap < value.length then .error .storeErrInvalidBufSize else .ok value

section
variable {β : Type}

theorem get_eq_view {s : UtilsStoreContext β} {key : Int} {item : SecurityStoreItem} {cap : ℕ}
    (hitem : getStoreItemByKey key s.storeList = some item) (hcap : cap ≠ 0) :
    securityStoreGet true key cap s = getView cap item.view := by
  rw [securityStoreGet, if_neg hcap, if_neg (by decide), hitem]
  dsimp only
  unfold SecurityStoreItem.view
  cases item.buffer with
  | none => rfl
  | some buffer =>
    dsimp only [Option.map_some, getView]
    rw [load_length]
    by_cases hlen : cap < item.len
    · rw [if_pos hlen, if_pos hlen]
    · rw [if_neg hlen, if_neg hlen, memcpyS_of_le _ _ _ _ (Nat.pos_of_ne_zero hcap) (by rw [load_length]; omega)]
      dsimp only
      have hself := load_store_self (fun _ => (0 : UInt8)) 0 (load buffer 0 item.len)
      rw [load_length] at hself
      rw [hself]

theorem view_eq_of_getView {v w : Option (List UInt8)} (h : ∀ cap, cap ≠ 0 → getView cap v = getView cap w) :
    v = w := by
  cases v with
  | none =>
    cases w with
    | none => rfl
    | some b =>
      have hb := h (b.length + 1) (Nat.succ_ne_zero _)
      rw [getView, getView, if_neg (by omega)] at hb
      cases hb
  | some a =>
    have ha := h (a.length + 1) (Nat.succ_ne_zero _)
    rw [getView, if_neg (by omega)] at ha
    cases w with
    | none => cases ha
    | some b =>
      rw [getView] at ha
      split_ifs at ha
      cases ha
      rfl

/-- A call that fails leaves what `SecurityStoreGet` returns. -/
def Intact (key : Int) (s : UtilsStoreContext β) (r : IotcRet × UtilsStoreContext β) : Prop :=
  r.1 ≠ .ok → ∀ lock cap, securityStoreGet lock key cap r.2 = securityStoreGet lock key cap s

theorem intact_iff_view {lock : Bool} {key : Int} {op : SecurityStoreItem → β → IotcRet × SecurityStoreItem × β}
    {s : UtilsStoreContext β} (hframe : ∀ item, Frame item (op item s.kv).2.1) :
    Intact key s (onItem lock key op s) ↔
      (lock = true → ∀ item, getStoreItemByKey key s.storeList = some item →
        (op item s.kv).1 ≠ .ok → (op item s.kv).2.1.view = item.view) := by
  unfold Intact
  constructor
  · intro h hlock item hitem hret
    rw [onItem_of_some hlock hitem] at h
    refine view_eq_of_getView fun cap hcap => ?_
    rw [← get_eq_view hitem hcap, ← h hret true cap]
    exact (get_eq_view (getStoreItemByKey_frame hitem (hframe item)) hcap).symm
  · intro h hret lock' cap
    rcases onItem_cases lock key op s with ⟨ret, heq⟩ | ⟨item, hlock, hitem⟩
    · rw [heq]
    rw [onItem_of_some hlock hitem] at hret ⊢
    have hview := h hlock item hitem hret
    by_cases hcap : cap = 0
    · rw [securityStoreGet, securityStoreGet, if_pos hcap, if_pos hcap]
    cases lock' with
    | false => rw [securityStoreGet, securityStoreGet, if_neg hcap, if_neg hcap, if_pos rfl, if_pos rfl]
    | true =>
      rw [get_eq_view hitem hcap, ← hview]
      exact get_eq_view (getStoreItemByKey_frame hitem (hframe item)) hcap

end

/-! ## Writing into a live buffer -/

/-- Writing `data` over the value does not change it. -/
def Agrees (value data : List UInt8) : Prop := value.take data.length = data.take value.length

theorem load_store_eq_iff (m : ℕ → UInt8) (n : ℕ) (data : List UInt8) :
    load (store m 0 data) 0 n = load m 0 n ↔ Agrees (load m 0 n) data := by
  unfold Agrees
  rw [load_length]
  rcases Nat.le_total n data.length with hle | hle
  · -- the value is written over as a whole
    have hstore : load (store m 0 data) 0 n = data.take n := by
      have hsplit := load_add (store m 0 data) 0 n (data.length - n)
      rw [Nat.add_sub_cancel' hle, load_store_self] at hsplit
      exact (List.take_left' (load_length _ _ _)).symm.trans (congrArg (List.take n) hsplit.symm)
    have hvalue : (load m 0 n).take data.length = load m 0 n := List.take_of_length_le (by rwa [load_length])
    rw [hstore, hvalue]
    exact eq_comm
  · obtain ⟨k, rfl⟩ := Nat.exists_eq_add_of_le hle
    have hstore : load (store m 0 data) 0 (data.length + k) = data ++ load m (0 + data.length) k := by
      rw [load_add, load_store_self, load_store_after _ _ _ _ _ (Nat.le_refl _)]
    rw [hstore, load_add, List.take_left' (load_length _ _ _), List.take_of_length_le hle,
      List.append_cancel_right_eq]
    exact eq_comm

theorem view_fill (item : SecurityStoreItem) (buffer : ℕ → UInt8) (n : ℕ) :
    (item.fill buffer n).view = some (load buffer 0 n) := rfl

/-! ## Pulling -/

section
variable {β : Type} (env : StoreEnv) (backend : Backend β)

/-- What gets into the buffer of the item in a pull that fails agrees with the cached value: the bytes that a
failed read of a plain value leaves, the zeros of a failed decryption. -/
def ReadKeeps (item : SecurityStoreItem) (kv : β) : Prop :=
  match item.buffer, item.keyChar with
  | some buffer, some keyChar =>
    item.size ≠ 0 →
      (item.mode = .plain → (backend.onGetValue keyChar item.size kv).1.ret ≠ .ok →
        Agrees (load buffer 0 item.len) (backend.onGetValue keyChar item.size kv).1.data) ∧
      (item.mode = .encrypt → ∀ blob a, fetch env backend keyChar item.size kv = .blob blob →
        unpack env item.size blob = some a → openBody env item.mode a = none →
        Agrees (load buffer 0 item.len) (List.replicate a.body.length 0))
  | _, _ => True

/-- What gets into the buffer of the item when a commit reads back and fails agrees with the cached value: the
value of an authentic blob with another mac than the one written, the zeros of a failed decryption. -/
def WriteKeeps (item : SecurityStoreItem) (kv : β) : Prop :=
  match item.buffer, item.keyChar with
  | some buffer, some keyChar =>
    item.len ≤ item.size → item.mode ≠ .plain →
      match storeItemSeal env item.mode (load buffer 0 item.len) with
      | .error _ => True
      | .ok (header, body) =>
        let (ret, kv) := backend.onSetValue keyChar (header.bytes ++ body) kv
        ret = .ok → ∀ blob a, fetch env backend keyChar item.size kv = .blob blob →
          unpack env item.size blob = some a →
            (∀ value, openBody env item.mode a = some value → header.mac ≠ a.header.mac →
              value = load buffer 0 item.len) ∧
            (openBody env item.mode a = none → item.mode = .encrypt →
              Agrees (load buffer 0 item.len) (List.replicate a.body.length 0))
  | _, _ => True

section ReadCipher
variable {env} {item : SecurityStoreItem} {buffer : ℕ → UInt8} (hbuffer : item.buffer = some buffer)
  (hpos : item.mode = .verify → 0 < item.size)
include hbuffer

theorem view_of_buffer : item.view = some (load buffer 0 item.len) := by
  rw [SecurityStoreItem.view, hbuffer, Option.map_some]

theorem view_afterFailure_iff (a : Unpacked) :
    (afterFailure item buffer a).view = item.view ↔
      (item.mode = .encrypt → Agrees (load buffer 0 item.len) (List.replicate a.body.length 0)) := by
  unfold afterFailure
  by_cases hmode : item.mode = .encrypt
  · rw [if_pos hmode, view_fill, view_of_buffer hbuffer, Option.some.injEq, load_store_eq_iff]
    exact ⟨fun h _ => h, fun h => h hmode⟩
  · rw [if_neg hmode]
    exact ⟨fun _ hencrypt => absurd hencrypt hmode, fun _ => rfl⟩

include hpos

theorem decrypt_view_iff (mac : Option (List UInt8)) {blob : List UInt8} {a : Unpacked}
    (hunpack : unpack env item.size blob = some a) :
    ((cipherV1DecryptAndVerify env item buffer blob mac).1 ≠ .ok →
      (cipherV1DecryptAndVerify env item buffer blob mac).2.view = item.view) ↔
    (∀ value, openBody env item.mode a = some value → (mac.any (· ≠ a.header.mac)) = true →
      value = load buffer 0 item.len) ∧
    (openBody env item.mode a = none → item.mode = .encrypt →
      Agrees (load buffer 0 item.len) (List.replicate a.body.length 0)) := by
  cases hopen : openBody env item.mode a with
  | none =>
    obtain ⟨ret, heq⟩ := decrypt_failed buffer mac hunpack hopen
    rw [heq, view_afterFailure_iff hbuffer]
    constructor
    · intro h
      exact ⟨fun _ hvalue => (nomatch hvalue), fun _ => h ret.property⟩
    · intro h _
      exact h.2 rfl
  | some value =>
    rw [decrypt_opened buffer mac hunpack hopen hpos]
    dsimp only
    rw [view_fill, load_store_self, view_of_buffer hbuffer, Option.some.injEq]
    by_cases hmac : (mac.any (· ≠ a.header.mac)) = true
    · rw [if_pos hmac]
      constructor
      · intro h
        refine ⟨fun value' hvalue _ => ?_, fun hnone => (nomatch hnone)⟩
        cases hvalue
        exact h (by decide)
      · intro h _
        exact h.1 value rfl hmac
    · rw [if_neg hmac]
      exact ⟨fun _ => ⟨fun _ _ hmac' => absurd hmac' hmac, fun hnone => (nomatch hnone)⟩, fun _ hret => absurd rfl hret⟩

theorem readCipher_view_iff {β : Type} (backend : Backend β) (keyChar : String) (mac : Option (List UInt8)) (kv : β) :
    ((storeItemReadCipher env backend item keyChar buffer mac kv).1 ≠ .ok →
      (storeItemReadCipher env backend item keyChar buffer mac kv).2.1.view = item.view) ↔
    ∀ blob a, fetch env backend keyChar item.size kv = .blob blob → unpack env item.size blob = some a →
      (∀ value, openBody env item.mode a = some value → (mac.any (· ≠ a.header.mac)) = true →
        value = load buffer 0 item.len) ∧
      (openBody env item.mode a = none → item.mode = .encrypt →
        Agrees (load buffer 0 item.len) (List.replicate a.body.length 0)) := by
  obtain ⟨hret, hitem⟩ := Prod.ext_iff.mp (storeItemReadCipher_eq env backend item keyChar buffer mac kv)
  dsimp only at hret hitem
  rw [hret, hitem]
  cases hfetch : fetch env backend keyChar item.size kv with
  | failed ret => exact ⟨fun _ _ _ h => (nomatch h), fun _ _ => rfl⟩
  | empty => exact ⟨fun _ _ _ h => (nomatch h), fun _ h => absurd rfl h⟩
  | blob blob =>
    dsimp only
    cases hunpack : unpack env item.size blob with
    | none =>
      obtain ⟨ret, heq⟩ := unpack_none buffer mac hunpack
      rw [heq]
      refine ⟨fun _ blob' a hblob ha => ?_, fun _ _ => rfl⟩
      cases hblob
      rw [hunpack] at ha
      cases ha
    | some a =>
      rw [decrypt_view_iff hbuffer hpos mac hunpack]
      constructor
      · intro h blob' a' hblob ha'
        cases hblob
        rw [hunpack] at ha'
        cases ha'
        exact h
      · intro h
        exact h blob a rfl hunpack

end ReadCipher

theorem read_view_iff (item : SecurityStoreItem) (kv : β) :
    ((storeItemRead env backend item kv).1 ≠ .ok → (storeItemRead env backend item kv).2.1.view = item.view) ↔
      ReadKeeps env backend item kv := by
  unfold storeItemRead ReadKeeps
  cases hbuffer : item.buffer with
  | none => exact ⟨fun _ => trivial, fun _ _ => rfl⟩
  | some buffer =>
    cases hkeyChar : item.keyChar with
    | none => exact ⟨fun _ => trivial, fun _ _ => rfl⟩
    | some keyChar =>
      dsimp only
      by_cases hsize : item.size = 0
      · rw [if_pos hsize]
        exact ⟨fun _ hpos => absurd hsize hpos, fun _ _ => rfl⟩
      rw [if_neg hsize]
      by_cases hmode : item.mode = .plain
      · rw [if_neg (not_not.mpr hmode)]
        have hencrypt : ¬ item.mode = .encrypt := by
          rw [hmode]
          decide
        by_cases hret : (backend.onGetValue keyChar item.size kv).1.ret = .ok
        · rw [if_neg (not_not.mpr hret)]
          exact ⟨fun _ _ => ⟨fun _ h => absurd hret h, fun h => absurd h hencrypt⟩, fun _ h => absurd rfl h⟩
        · rw [if_pos hret, view_fill, view_of_buffer hbuffer, Option.some.injEq, load_store_eq_iff]
          exact ⟨fun h _ => ⟨fun _ _ => h hret, fun h => absurd h hencrypt⟩, fun h _ => (h hsize).1 hmode hret⟩
      · rw [if_pos hmode, readCipher_view_iff hbuffer (fun _ => Nat.pos_of_ne_zero hsize)]
        constructor
        · intro h _
          exact ⟨fun h => absurd h hmode, fun hencrypt blob a hfetch hunpack hopen =>
            (h blob a hfetch hunpack).2 hopen hencrypt⟩
        · intro h blob a hfetch hunpack
          exact ⟨fun _ _ hmac => (nomatch hmac), fun hopen hencrypt =>
            (h hsize).2 hencrypt blob a hfetch hunpack hopen⟩

theorem write_view_iff (item : SecurityStoreItem) (kv : β) :
    ((storeItemWrite env backend item kv).1 ≠ .ok → (storeItemWrite env backend item kv).2.1.view = item.view) ↔
      WriteKeeps env backend item kv := by
  unfold storeItemWrite WriteKeeps
  cases hbuffer : item.buffer with
  | none => exact ⟨fun _ => trivial, fun _ _ => rfl⟩
  | some buffer =>
    cases hkeyChar : item.keyChar with
    | none => exact ⟨fun _ => trivial, fun _ _ => rfl⟩
    | some keyChar =>
      dsimp only
      by_cases hsize : item.size < item.len
      · rw [if_pos hsize]
        exact ⟨fun _ hle => absurd hsize (Nat.not_lt.mpr hle), fun _ _ => rfl⟩
      have hle := Nat.le_of_not_lt hsize
      rw [if_neg hsize]
      by_cases hmode : item.mode = .plain
      · rw [if_neg (not_not.mpr hmode)]
        exact ⟨fun _ _ h => absurd hmode h, fun _ _ => rfl⟩
      rw [if_pos hmode, storeItemWriteCipher]
      cases hseal : storeItemSeal env item.mode (load buffer 0 item.len) with
      | error ret => exact ⟨fun _ _ _ => trivial, fun _ _ => rfl⟩
      | ok sealed =>
        dsimp only
        by_cases hset : (backend.onSetValue keyChar (sealed.1.bytes ++ sealed.2) kv).1 = .ok
        · have hpos : item.mode = .verify → 0 < item.size := by
            intro hverify
            rw [hverify] at hseal
            have hlen := storeItemSeal_pos hseal
            rw [load_length] at hlen
            omega
          rw [if_neg (not_not.mpr hset), readCipher_view_iff hbuffer hpos]
          simp only [Option.any_some, decide_eq_true_eq]
          exact ⟨fun h _ _ _ => h, fun h => h hle hmode hset⟩
        · rw [if_pos hset]
          exact ⟨fun _ _ _ hok => absurd hok hset, fun _ _ => rfl⟩

/-! ## Failed calls -/

/-- **A failed pull or commit leaves the cached value exactly when what it puts into the buffer of the item
agrees with it.** -/
theorem failedCall_intact (key : Int) (s : UtilsStoreContext β) :
    (Intact key s (securityStorePull env backend key s) ↔
      (env.lock = true → ∀ item, getStoreItemByKey key s.storeList = some item → ReadKeeps env backend item s.kv)) ∧
    (Intact key s (securityStoreCommit env backend key s) ↔
      (env.lock = true → ∀ item, getStoreItemByKey key s.storeList = some item →
        WriteKeeps env backend item s.kv)) := by
  constructor
  · rw [securityStorePull, intact_iff_view fun item => storeItemRead_frame env backend item s.kv]
    simp only [read_view_iff]
  · rw [securityStoreCommit, intact_iff_view fun item => storeItemWrite_frame env backend item s.kv]
    simp only [write_view_iff]

end

/-- The store of one encrypted item with the value 1 2 3, for which the backend has a blob of the right form with a
wrong tag. -/
def corruptedStore : UtilsStoreContext (String → List UInt8) :=
  ⟨[⟨0, [⟨7, some "k", .encrypt, some (store (fun _ => 0) 0 [1, 2, 3]), 3, 4⟩], by simp⟩],
    fun _ => (StoreCipherHeader.mk 1 (List.replicate 16 0) (List.replicate 32 1) 3).bytes ++ [5, 6, 7]⟩

/-- The pull fails and the cached value is gone. -/
theorem failedPull_zeroed : ¬ Intact 7 corruptedStore (securityStorePull openEnv memoryBackend 7 corruptedStore) := by
  intro h
  have hget := h (by decide) true 4
  have hafter : securityStoreGet true 7 4 (securityStorePull openEnv memoryBackend 7 corruptedStore).2 =
      .ok [0, 0, 0] := by decide
  rw [hafter] at hget
  exact absurd hget (by decide)

end IotConnect.Store
