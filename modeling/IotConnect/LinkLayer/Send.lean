import IotConnect.Common.Utils
import IotConnect.Foundations.Slots

/-! # The fragmenting sender of the BLE link layer (`linklayer_send.c`)

A buffer of a 7 byte head and a payload is cut into frames of at most 160 bytes. Every frame carries
the head, with the number of frames and its own index written over bytes 2 and 3, and the next 153
bytes of the payload. The code of a registered callback is not under `src/`: what it returns to each
call is a parameter. -/
namespace IotConnect.LinkLayer
open Memory Slots
set_option autoImplicit false

def pkgHeadLen : ℕ := 7
def pkgHeadTypeIdx : ℕ := 0
def pkgHeadTokenIdx : ℕ := 1
def pkgHeadPkgnumIdx : ℕ := 2
def pkgHeadIndexIdx : ℕ := 3
def pkgHeadReservedIdx : ℕ := 4
def pkgHeadEncryptTypeIdx : ℕ := 5
def pkgHeadRetIdx : ℕ := 6

def singlePkgMaxSize : ℕ := 160
def singlePkgDataMaxSize : ℕ := singlePkgMaxSize - pkgHeadLen

/-- `LinkLayerSendBtData`: the code the callback returns to call number `i`, on the frame it gets. -/
abbrev LinkLayerSendBtData := ℕ → List UInt8 → Int

def linkLayerBtDataSend (cb : Option LinkLayerSendBtData) (i : ℕ) (buff : List UInt8) : IotcRet :=
  match cb with
  | none => .errCallbackNull
  | some f => if f i buff = IotcRet.ok.code then .ok else .bleLlErrDataSend

/-- `sendBuff` of round `i`: cleared, the head, the two numbers, the data. -/
def fillSendBuff (buff : List UInt8) (pkgNum i curPtr dataLen : ℕ) : Option (ℕ → UInt8) :=
  match memcpyS (fun _ => 0) 0 singlePkgMaxSize (buff.take pkgHeadLen) with
  | none => none
  | some sendBuff =>
    let sendBuff := store sendBuff pkgHeadPkgnumIdx [pkgNum.toUInt8]
    let sendBuff := store sendBuff pkgHeadIndexIdx [i.toUInt8]
    memcpyS sendBuff pkgHeadLen singlePkgDataMaxSize ((buff.drop curPtr).take dataLen)

/-- The loop of `LinkLayerSendBtPkg`, with `k` rounds to go: the return code and the frames given to
the callback. -/
def sendPkgLoop (cb : Option LinkLayerSendBtData) (buff : List UInt8) (pkgNum : ℕ) :
    (k i curPtr leftLen : ℕ) → IotcRet × List (List UInt8)
  | 0, _, _, _ => (.ok, [])
  | k + 1, i, curPtr, leftLen =>
    let sendBuffLen := min singlePkgMaxSize (leftLen + pkgHeadLen)
    let dataLen := sendBuffLen - pkgHeadLen
    match fillSendBuff buff pkgNum i curPtr dataLen with
    | none => (.errSecurecMemcpy, [])
    | some sendBuff =>
      let frame := load sendBuff 0 sendBuffLen
      let ret := linkLayerBtDataSend cb i frame
      if ret ≠ .ok then
        (ret, if cb.isSome then [frame] else [])
      else
        let (ret, frames) := sendPkgLoop cb buff pkgNum k (i + 1) (curPtr + dataLen) (leftLen - dataLen)
        (ret, frame :: frames)

/-- The number of frames for a payload of `totalDataLen` bytes. -/
def pkgCount (totalDataLen : ℕ) : ℕ :=
  totalDataLen / singlePkgDataMaxSize + if totalDataLen % singlePkgDataMaxSize = 0 then 0 else 1

/-- `LinkLayerSendBtPkg`; a null `buff` is refused like a short one. -/
def linkLayerSendBtPkg (pkgMaxNum : UInt8) (cb : Option LinkLayerSendBtData) (buff : List UInt8) :
    IotcRet × List (List UInt8) :=
  if ¬ pkgHeadLen < buff.length then (.errParamInvalid, [])
  else
    let totalDataLen := buff.length - pkgHeadLen
    let pkgNum := pkgCount totalDataLen
    if ¬ pkgNum ≤ pkgMaxNum.toNat then (.bleLlErrPkgnum, [])
    else sendPkgLoop cb buff pkgNum pkgNum 0 pkgHeadLen totalDataLen

/-! ## What is sent -/

/-- Frame `i` of `n`. -/
def frame (head payload : List UInt8) (n i : ℕ) : List UInt8 :=
  (head.set pkgHeadPkgnumIdx n.toUInt8).set pkgHeadIndexIdx i.toUInt8 ++ chunk singlePkgDataMaxSize payload i

theorem pkgCount_eq (len : ℕ) : pkgCount len = (len + 152) / 153 := by
  unfold pkgCount singlePkgDataMaxSize singlePkgMaxSize pkgHeadLen
  split <;> omega

theorem load_head (head : List UInt8) (x y : UInt8) (h : head.length = pkgHeadLen) :
    load (store (store (store (fun _ => 0) 0 head) pkgHeadPkgnumIdx [x]) pkgHeadIndexIdx [y]) 0 pkgHeadLen =
      (head.set pkgHeadPkgnumIdx x).set pkgHeadIndexIdx y := by
  match head, h with
  | [a, b, c, d, e, f, g], _ => rfl

theorem fillSendBuff_eq (head payload : List UInt8) (n i dataLen : ℕ) (hhead : head.length = pkgHeadLen)
    (hlen : dataLen ≤ singlePkgDataMaxSize) :
    ∃ sendBuff, fillSendBuff (head ++ payload) n i (pkgHeadLen + i * singlePkgDataMaxSize) dataLen = some sendBuff ∧
      ∀ data, (payload.drop (i * singlePkgDataMaxSize)).take dataLen = data →
        load sendBuff 0 (pkgHeadLen + data.length) =
          (head.set pkgHeadPkgnumIdx n.toUInt8).set pkgHeadIndexIdx i.toUInt8 ++ data := by
  have htake : (head ++ payload).take pkgHeadLen = head := by
    rw [← hhead, List.take_left]
  have hdrop : (head ++ payload).drop (pkgHeadLen + i * singlePkgDataMaxSize) =
      payload.drop (i * singlePkgDataMaxSize) := by
    simp [← hhead, List.drop_append]
  unfold fillSendBuff
  rw [htake, hdrop, memcpyS_of_le _ _ _ _ (by decide) (by rw [hhead]; decide)]
  dsimp only
  rw [memcpyS_of_le _ _ _ _ (by decide) (by rw [List.length_take]; omega)]
  refine ⟨_, rfl, fun data hdata => ?_⟩
  rw [hdata, load_add, load_store_before _ _ _ _ _ (Nat.le_of_eq (Nat.zero_add _)), load_head head _ _ hhead, Nat.zero_add,
    load_store_self]

theorem sendPkgLoop_eq (cb : LinkLayerSendBtData) (head payload : List UInt8) (n : ℕ)
    (hhead : head.length = pkgHeadLen) (hcb : ∀ i f, cb i f = IotcRet.ok.code) (k i : ℕ)
    (hk : i * singlePkgDataMaxSize + k * singlePkgDataMaxSize < payload.length + singlePkgDataMaxSize) :
    sendPkgLoop (some cb) (head ++ payload) n k i (pkgHeadLen + i * singlePkgDataMaxSize)
        (payload.length - i * singlePkgDataMaxSize) =
      (.ok, (List.range' i k).map (frame head payload n)) := by
  induction k generalizing i with
  | zero => rfl
  | succ k ih =>
    -- the data of this round is chunk `i`
    have hframe : min singlePkgMaxSize (payload.length - i * singlePkgDataMaxSize + pkgHeadLen) =
        pkgHeadLen + (chunk singlePkgDataMaxSize payload i).length := by
      rw [chunk_length]
      unfold singlePkgDataMaxSize singlePkgMaxSize pkgHeadLen
      omega
    have hlen : (chunk singlePkgDataMaxSize payload i).length ≤ singlePkgDataMaxSize := by
      rw [chunk_length]
      exact Nat.min_le_left _ _
    obtain ⟨sendBuff, hfill, hload⟩ := fillSendBuff_eq head payload n i _ hhead hlen
    have hchunk : (payload.drop (i * singlePkgDataMaxSize)).take (chunk singlePkgDataMaxSize payload i).length =
        chunk singlePkgDataMaxSize payload i := by
      unfold chunk
      rw [List.length_take, ← List.take_take, List.take_length]
    have hload : load sendBuff 0 (pkgHeadLen + (chunk singlePkgDataMaxSize payload i).length) =
        frame head payload n i := hload _ hchunk
    have hsend : linkLayerBtDataSend (some cb) i (frame head payload n i) = .ok := by
      simp [linkLayerBtDataSend, hcb]
    rw [sendPkgLoop]
    simp only [hframe, Nat.add_sub_cancel_left, hfill, hload, hsend, ne_eq, not_true_eq_false, if_false]
    rw [List.range'_succ, List.map_cons]
    by_cases hlast : k = 0
    · subst hlast
      rfl
    · -- a full chunk: the pointers move on by one slot
      have hfull : (chunk singlePkgDataMaxSize payload i).length = singlePkgDataMaxSize := by
        rw [chunk_length]
        unfold singlePkgDataMaxSize singlePkgMaxSize pkgHeadLen at *
        omega
      have hstep := ih (i + 1) (by
        unfold singlePkgDataMaxSize singlePkgMaxSize pkgHeadLen at *
        omega)
      rw [Nat.succ_mul, ← Nat.add_assoc, Nat.sub_add_eq] at hstep
      rw [hfull, hstep]

theorem linkLayerSendBtPkg_eq (pkgMaxNum : UInt8) (cb : LinkLayerSendBtData) (head payload : List UInt8)
    (hhead : head.length = pkgHeadLen) (hpos : 0 < payload.length)
    (hnum : pkgCount payload.length ≤ pkgMaxNum.toNat) (hcb : ∀ i f, cb i f = IotcRet.ok.code) :
    linkLayerSendBtPkg pkgMaxNum (some cb) (head ++ payload) =
      (.ok, (List.range (pkgCount payload.length)).map (frame head payload (pkgCount payload.length))) := by
  have hlen : (head ++ payload).length - pkgHeadLen = payload.length := by
    rw [List.length_append, hhead]
    omega
  have hlt : pkgHeadLen < (head ++ payload).length := by
    rw [List.length_append, hhead]
    omega
  unfold linkLayerSendBtPkg
  simp only [hlt, not_true_eq_false, if_false, hlen, hnum]
  have h := sendPkgLoop_eq cb head payload (pkgCount payload.length) hhead hcb (pkgCount payload.length) 0 (by
    rw [pkgCount_eq]
    unfold singlePkgDataMaxSize singlePkgMaxSize pkgHeadLen
    omega)
  simpa [List.range_eq_range'] using h

end IotConnect.LinkLayer
