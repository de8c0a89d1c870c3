import IotConnect.LinkLayer.Reassembly
import IotConnect.LinkLayer.Send

/-! # Fragmentation and reassembly

The frames of `Send` fed to the cache of `Recv`, in any order and with any repetitions. The state of
a delivery is the cache and the frames whose insertion returned `ok`. As long as no entry times out
the cache holds at most one message, and its fragments are the chunks of the payload whose frame has
arrived (`Received`); so the check turns true with the last missing frame and the merged message is
the payload. -/
namespace IotConnect.LinkLayer
open Memory Slots Trace
set_option autoImplicit false

/-! ## Delivering a frame -/

structure PkgHead where
  version : UInt8
  cmdType : UInt8
  token : UInt8
  pkgNum : UInt8
  pkgIdx : UInt8
  reserved : UInt8
  encryptType : UInt8
  ret : UInt8

def parsePkgHead (buff : List UInt8) : PkgHead where
  version := buff.getD pkgHeadTypeIdx 0 >>> 4
  cmdType := buff.getD pkgHeadTypeIdx 0 &&& 0x0F
  token := buff.getD pkgHeadTokenIdx 0
  pkgNum := buff.getD pkgHeadPkgnumIdx 0
  pkgIdx := buff.getD pkgHeadIndexIdx 0
  reserved := buff.getD pkgHeadReservedIdx 0
  encryptType := buff.getD pkgHeadEncryptTypeIdx 0
  ret := buff.getD pkgHeadRetIdx 0

/-- How `LinkLayerProcessBtData` hands a frame to the cache. -/
def insertFrame (env : RecvEnv) (buff : List UInt8) (l : PkgList) : IotcRet × PkgList :=
  let pkgHead := parsePkgHead buff
  linkLayerRecvPkgInsert env pkgHead.token pkgHead.pkgNum pkgHead.pkgIdx (buff.drop pkgHeadLen) l

structure Delivery where
  cache : PkgList
  /-- The frames whose insertion returned `ok`. -/
  arrived : List (List UInt8)

def Delivery.init : Delivery := ⟨PkgList.init, []⟩

def deliver (s : Delivery) (e : RecvEnv × List UInt8) : Delivery :=
  let (ret, cache) := insertFrame e.1 e.2 s.cache
  ⟨cache, if ret = .ok then s.arrived ++ [e.2] else s.arrived⟩

def NoTimeout (s : Delivery) (e : RecvEnv × List UInt8) : Prop :=
  ∀ p ∈ s.cache.pkgs, pkgAlive e.1.clearTime p = true

/-! ## The frames of one payload -/

def headToken (head : List UInt8) : UInt8 := head.getD pkgHeadTokenIdx 0

section
variable {head payload : List UInt8} (hhead : head.length = pkgHeadLen)
include hhead

theorem parsePkgHead_frame (n i : ℕ) :
    (parsePkgHead (frame head payload n i)).token = headToken head ∧
      (parsePkgHead (frame head payload n i)).pkgNum = n.toUInt8 ∧
      (parsePkgHead (frame head payload n i)).pkgIdx = i.toUInt8 := by
  match head, hhead with
  | [a, b, c, d, e, f, g], _ => exact ⟨rfl, rfl, rfl⟩

theorem frame_drop (n i : ℕ) : (frame head payload n i).drop pkgHeadLen = chunk singlePkgDataMaxSize payload i := by
  match head, hhead with
  | [a, b, c, d, e, f, g], _ => rfl

theorem frame_length (n i : ℕ) : (frame head payload n i).length ≤ singlePkgMaxSize := by
  unfold frame
  rw [List.length_append, List.length_set, List.length_set, hhead, chunk_length]
  unfold singlePkgDataMaxSize singlePkgMaxSize pkgHeadLen
  omega

theorem frame_getElem? (n i : ℕ) : (frame head payload n i)[pkgHeadPkgnumIdx]? = some n.toUInt8 ∧
    (frame head payload n i)[pkgHeadIndexIdx]? = some i.toUInt8 := by
  match head, hhead with
  | [a, b, c, d, e, f, g], _ => exact ⟨rfl, rfl⟩

theorem frame_injective (n i j : ℕ) (hi : i < 256) (hj : j < 256)
    (h : frame head payload n i = frame head payload n j) : i = j := by
  have hidx : (frame head payload n i)[pkgHeadIndexIdx]? = _ := (frame_getElem? hhead n i).2
  rw [h, (frame_getElem? hhead n j).2, Option.some.injEq] at hidx
  have := congrArg UInt8.toNat hidx
  rw [toNat_toUInt8, toNat_toUInt8] at this
  omega

end

theorem checkFragment_chunk (payload : List UInt8) (i : ℕ) (hmax : payload.length ≤ 153 * 16)
    (hi : i < pkgCount payload.length) :
    checkFragment (pkgCount payload.length) i (chunk singlePkgDataMaxSize payload i) = .ok := by
  rw [pkgCount_eq] at *
  have hlen := chunk_length singlePkgDataMaxSize payload i
  unfold checkFragment
  unfold pkgMaxNumLimit recvSinglePkgDataMaxSize
  unfold singlePkgDataMaxSize singlePkgMaxSize pkgHeadLen at hlen ⊢
  rw [if_neg (by omega), if_neg (by omega), if_neg (by omega), if_neg (by omega), if_neg (by omega)]

/-! ## What the cache holds -/

def arrivedFrags (head payload : List UInt8) (arrived : List (List UInt8)) : Pieces UInt8 := fun i =>
  if i < pkgCount payload.length ∧ frame head payload (pkgCount payload.length) i ∈ arrived then
    some (chunk singlePkgDataMaxSize payload i)
  else none

/-- The message under reassembly: none before the first frame, then the chunks that have arrived. -/
def Received (head payload : List UInt8) (s : Delivery) : Prop :=
  (s.arrived = [] ∧ Refines s.cache []) ∨
    ∃ t, Refines s.cache
      [⟨headToken head, t, pkgCount payload.length, arrivedFrags head payload s.arrived⟩]

variable {head payload : List UInt8}

theorem accept_arrived (hhead : head.length = pkgHeadLen) (hmax : payload.length ≤ 153 * 16)
    (arrived : List (List UInt8)) (t : UInt32) (i : ℕ) (hi : i < pkgCount payload.length) :
    Partial.accept
        ⟨headToken head, t, pkgCount payload.length, arrivedFrags head payload arrived⟩ i
        (chunk singlePkgDataMaxSize payload i) =
      (.ok, ⟨headToken head, t, pkgCount payload.length,
        arrivedFrags head payload (arrived ++ [frame head payload (pkgCount payload.length) i])⟩) := by
  have hn : pkgCount payload.length ≤ 16 := by
    rw [pkgCount_eq]
    omega
  have hmem : ∀ j, j < pkgCount payload.length → j ≠ i →
      frame head payload (pkgCount payload.length) j ≠ frame head payload (pkgCount payload.length) i :=
    fun j hj hji h => hji (frame_injective hhead _ j i (by omega) (by omega) h)
  by_cases hin : frame head payload (pkgCount payload.length) i ∈ arrived
  · have hsome : (arrivedFrags head payload arrived i).isSome = true := by
      simp [arrivedFrags, hi, hin]
    have hsame : arrivedFrags head payload (arrived ++ [frame head payload (pkgCount payload.length) i]) =
        arrivedFrags head payload arrived := by
      funext j
      by_cases hji : j = i
      · subst hji
        simp [arrivedFrags, hin]
      · by_cases hj : j < pkgCount payload.length
        · simp [arrivedFrags, hmem j hj hji]
        · simp [arrivedFrags, hj]
    simp only [Partial.accept, hsome, if_true, hsame]
  · have hnone : (arrivedFrags head payload arrived i).isSome = false := by
      simp [arrivedFrags, hin]
    have hput : put (arrivedFrags head payload arrived) i (chunk singlePkgDataMaxSize payload i) =
        arrivedFrags head payload (arrived ++ [frame head payload (pkgCount payload.length) i]) := by
      funext j
      by_cases hji : j = i
      · subst hji
        simp [arrivedFrags, hi]
      · rw [put_ne _ _ _ _ hji]
        by_cases hj : j < pkgCount payload.length
        · simp [arrivedFrags, hmem j hj hji]
        · simp [arrivedFrags, hj]
    simp only [Partial.accept, hnone, Bool.false_eq_true, if_false, hi, if_true, hput]

theorem arrivedFrags_nil : arrivedFrags head payload [] = empty := by
  funext i
  simp [arrivedFrags, empty]

theorem full_arrivedFrags (arrived : List (List UInt8)) :
    Full (arrivedFrags head payload arrived) (pkgCount payload.length) ↔
      ∀ i < pkgCount payload.length, frame head payload (pkgCount payload.length) i ∈ arrived := by
  refine forall₂_congr fun i hi => ?_
  simp [arrivedFrags, hi]

/-! ## Deliveries -/

theorem insertFrame_frame (hhead : head.length = pkgHeadLen) (env : RecvEnv) (n i : ℕ) (l : PkgList) :
    insertFrame env (frame head payload n i) l = linkLayerRecvPkgInsert env (headToken head)
      n.toUInt8 i.toUInt8 (chunk singlePkgDataMaxSize payload i) l := by
  simp only [insertFrame]
  rw [(parsePkgHead_frame hhead n i).1, (parsePkgHead_frame hhead n i).2.1, (parsePkgHead_frame hhead n i).2.2,
    frame_drop hhead]

theorem toNat_toUInt8_of_le (n : ℕ) (h : n ≤ 16) : n.toUInt8.toNat = n := by
  rw [toNat_toUInt8]
  omega

theorem pool_insert_nil (hhead : head.length = pkgHeadLen) (hmax : payload.length ≤ 153 * 16) (env : RecvEnv)
    (i : ℕ) (hi : i < pkgCount payload.length) :
    Pool.insert env (headToken head) (pkgCount payload.length).toUInt8 i.toUInt8
        (chunk singlePkgDataMaxSize payload i) [] =
      if env.callocPkg = true ∧ env.callocBuff = true then
        (.ok, [⟨headToken head, env.saveTime, pkgCount payload.length,
          arrivedFrags head payload [frame head payload (pkgCount payload.length) i]⟩])
      else (.memErrCalloc, []) := by
  have hn : pkgCount payload.length ≤ 16 := by
    rw [pkgCount_eq]
    omega
  have hacc := accept_arrived hhead hmax [] env.saveTime i hi
  rw [arrivedFrags_nil, List.nil_append] at hacc
  unfold Pool.insert
  rw [toNat_toUInt8_of_le _ hn, toNat_toUInt8_of_le i (by omega), checkFragment_chunk payload i hmax hi]
  by_cases halloc : env.callocPkg = true ∧ env.callocBuff = true
  · simp [hacc, halloc, cacheMaxNum]
  · simp only [ne_eq, not_true_eq_false, if_false, List.filter_nil, List.find?_nil,
      List.length_nil, cacheMaxNum, Nat.zero_lt_one, halloc, not_false_eq_true, if_true]

theorem pool_insert_singleton (hhead : head.length = pkgHeadLen) (hmax : payload.length ≤ 153 * 16)
    (env : RecvEnv) (i : ℕ) (hi : i < pkgCount payload.length) (t : UInt32) (arrived : List (List UInt8))
    (halive : utilsDeltaTime env.clearTime t < pkgTimeout) :
    Pool.insert env (headToken head) (pkgCount payload.length).toUInt8 i.toUInt8
        (chunk singlePkgDataMaxSize payload i)
        [⟨headToken head, t, pkgCount payload.length, arrivedFrags head payload arrived⟩] =
      (.ok, [⟨headToken head, t, pkgCount payload.length,
        arrivedFrags head payload (arrived ++ [frame head payload (pkgCount payload.length) i])⟩]) := by
  have hn : pkgCount payload.length ≤ 16 := by
    rw [pkgCount_eq]
    omega
  have hacc := accept_arrived hhead hmax arrived t i hi
  unfold Pool.insert
  rw [toNat_toUInt8_of_le _ hn, toNat_toUInt8_of_le i (by omega), checkFragment_chunk payload i hmax hi]
  simp [Partial.alive, halive, Partial.hasToken, hacc, Keyed.replaceFirst]

theorem Refines.singleton {l : PkgList} {a : Partial} (h : Refines l [a]) : ∃ p, l.pkgs = [p] ∧ Rep p a := by
  obtain ⟨p, ps, hpa, hps, hl⟩ := List.forall₂_cons_right_iff.mp h.entries
  exact ⟨p, by rw [hl, List.forall₂_nil_right_iff.mp hps], hpa⟩

theorem Refines.find_nil {l : PkgList} (h : Refines l []) (token : UInt8) : findPkgByToken token l = none := by
  rw [findPkgByToken, List.forall₂_nil_right_iff.mp h.entries, List.find?_nil]

theorem deliver_received (hhead : head.length = pkgHeadLen) (hmax : payload.length ≤ 153 * 16) (s : Delivery)
    (env : RecvEnv) (i : ℕ) (hi : i < pkgCount payload.length)
    (hlive : NoTimeout s (env, frame head payload (pkgCount payload.length) i)) (h : Received head payload s) :
    Received head payload (deliver s (env, frame head payload (pkgCount payload.length) i)) ∧
      ((env.callocPkg = true ∧ env.callocBuff = true) →
        (deliver s (env, frame head payload (pkgCount payload.length) i)).arrived =
          s.arrived ++ [frame head payload (pkgCount payload.length) i]) := by
  unfold deliver
  rw [insertFrame_frame hhead]
  rcases h with ⟨hnil, href⟩ | ⟨t, href⟩
  · obtain ⟨hret, href'⟩ := insert_refines href env (headToken head)
      (pkgCount payload.length).toUInt8 i.toUInt8 (chunk singlePkgDataMaxSize payload i)
    rw [pool_insert_nil hhead hmax env i hi] at hret href'
    rw [hnil]
    by_cases halloc : env.callocPkg = true ∧ env.callocBuff = true
    · rw [if_pos halloc] at hret href'
      simp only [hret, if_true]
      exact ⟨.inr ⟨env.saveTime, href'⟩, fun _ => trivial⟩
    · rw [if_neg halloc] at hret href'
      simp only [hret, reduceCtorEq, if_false]
      exact ⟨.inl ⟨rfl, href'⟩, fun hc => absurd hc halloc⟩
  · obtain ⟨hret, href'⟩ := insert_refines href env (headToken head)
      (pkgCount payload.length).toUInt8 i.toUInt8 (chunk singlePkgDataMaxSize payload i)
    have halive : utilsDeltaTime env.clearTime t < pkgTimeout := by
      obtain ⟨p, hp, hrep⟩ := href.singleton
      have hpa := hlive p (by rw [hp]; exact List.mem_singleton_self p)
      rw [hrep.alive] at hpa
      exact of_decide_eq_true hpa
    rw [pool_insert_singleton hhead hmax env i hi t s.arrived halive] at hret href'
    simp only [hret, if_true]
    exact ⟨.inr ⟨t, href'⟩, fun _ => trivial⟩

def frames (head payload : List UInt8) : List (List UInt8) :=
  (List.range (pkgCount payload.length)).map (frame head payload (pkgCount payload.length))

theorem mem_frames {f : List UInt8} :
    f ∈ frames head payload ↔ ∃ i < pkgCount payload.length, frame head payload (pkgCount payload.length) i = f := by
  simp [frames]

theorem run_received (hhead : head.length = pkgHeadLen) (hmax : payload.length ≤ 153 * 16)
    (es : List (RecvEnv × List UInt8)) (hes : ∀ e ∈ es, e.2 ∈ frames head payload) (s : Delivery)
    (hlive : Along deliver NoTimeout s es) (h : Received head payload s) :
    Received head payload (run deliver s es) ∧
      ((∀ e ∈ es, e.1.callocPkg = true ∧ e.1.callocBuff = true) →
        (run deliver s es).arrived = s.arrived ++ es.map Prod.snd) := by
  induction es generalizing s with
  | nil => exact ⟨h, fun _ => (List.append_nil _).symm⟩
  | cons e es ih =>
    obtain ⟨env, f⟩ := e
    obtain ⟨i, hi, rfl⟩ := mem_frames.mp (hes _ List.mem_cons_self)
    obtain ⟨hrec, harr⟩ := deliver_received hhead hmax s env i hi hlive.1 h
    obtain ⟨hrun, hall⟩ := ih (fun e he => hes e (List.mem_cons_of_mem _ he)) _ hlive.2 hrec
    refine ⟨hrun, fun halloc => ?_⟩
    rw [run_cons, hall fun e he => halloc e (List.mem_cons_of_mem _ he), harr (halloc _ List.mem_cons_self),
      List.map_cons, List.append_assoc, List.singleton_append]

/-! ## Completion -/

theorem concat_arrivedFrags (arrived : List (List UInt8))
    (hall : ∀ i < pkgCount payload.length, frame head payload (pkgCount payload.length) i ∈ arrived) :
    concat (arrivedFrags head payload arrived) (pkgCount payload.length) = payload := by
  have hpiece : ∀ i < pkgCount payload.length,
      piece (arrivedFrags head payload arrived) i = piece (fun i => some (chunk singlePkgDataMaxSize payload i)) i := by
    intro i hi
    simp [piece, arrivedFrags, hi, hall i hi]
  rw [concat_congr _ _ _ hpiece]
  refine flatMap_chunk_all singlePkgDataMaxSize payload _ ?_
  rw [pkgCount_eq]
  unfold singlePkgDataMaxSize singlePkgMaxSize pkgHeadLen
  omega

theorem contiguous_arrivedFrags (arrived : List (List UInt8)) (token : UInt8) (t : UInt32) :
    Partial.Contiguous ⟨token, t, pkgCount payload.length, arrivedFrags head payload arrived⟩ := by
  intro i d hd hlast
  dsimp only at hd hlast
  unfold arrivedFrags at hd
  split at hd
  · cases hd
    rw [chunk_length]
    rw [pkgCount_eq] at hlast
    unfold recvSinglePkgDataMaxSize singlePkgDataMaxSize singlePkgMaxSize pkgHeadLen
    omega
  · cases hd

theorem received_check (hpos : 0 < payload.length) {s : Delivery} (h : Received head payload s) :
    linkLayerRecvCompleteCheck (headToken head) s.cache = (.ok, true) ↔
      ∀ f ∈ frames head payload, f ∈ s.arrived := by
  have hframes : (∀ f ∈ frames head payload, f ∈ s.arrived) ↔
      ∀ i < pkgCount payload.length, frame head payload (pkgCount payload.length) i ∈ s.arrived := by
    simp [mem_frames]
  rw [hframes, ← full_arrivedFrags]
  rcases h with ⟨hnil, href⟩ | ⟨t, href⟩
  · have hnone := href.find_nil (headToken head)
    have hcount : 0 < pkgCount payload.length := by
      rw [pkgCount_eq]
      omega
    have hnot : ¬ Full (arrivedFrags head payload s.arrived) (pkgCount payload.length) := by
      intro hfull
      have := hfull 0 hcount
      simp [hnil, arrivedFrags] at this
    simp [linkLayerRecvCompleteCheck, hnone, hnot]
  · obtain ⟨p, hp, hrep⟩ := href.singleton
    have hfind : findPkgByToken (headToken head) s.cache = some p := by
      simp [findPkgByToken, hp, hrep.token]
    rw [completeCheck_eq hfind hrep, ← count_eq_iff]
    simp

theorem received_merge {s : Delivery} (hpos : 0 < payload.length) (h : Received head payload s)
    (hall : ∀ f ∈ frames head payload, f ∈ s.arrived) :
    ∃ l', linkLayerRecvMergePkgs (headToken head) s.cache = (.ok, some payload, l') ∧
      findPkgByToken (headToken head) l' = none := by
  have hall' : ∀ i < pkgCount payload.length, frame head payload (pkgCount payload.length) i ∈ s.arrived :=
    fun i hi => hall _ (mem_frames.mpr ⟨i, hi, rfl⟩)
  rcases h with ⟨hnil, -⟩ | ⟨t, href⟩
  · have hcount : 0 < pkgCount payload.length := by
      rw [pkgCount_eq]
      omega
    have := hall' 0 hcount
    rw [hnil] at this
    cases this
  · have hfull := (full_arrivedFrags s.arrived).mpr hall'
    have hpool : Pool.merge (headToken head)
        [⟨headToken head, t, pkgCount payload.length, arrivedFrags head payload s.arrived⟩] = [] := by
      simp [Pool.merge, Partial.hasToken, (count_eq_iff _ _).mpr hfull]
    have hafter := merge_refines href (headToken head)
    rw [hpool] at hafter
    rcases merge_cases href (headToken head) with ⟨p, a, hfind, hrep, -, heq⟩ | ⟨ret, -, hsame⟩
    · have ha : a = ⟨headToken head, t, pkgCount payload.length, arrivedFrags head payload s.arrived⟩ := by
        simpa [Partial.hasToken] using hfind.symm
      subst ha
      refine ⟨(linkLayerRecvMergePkgs (headToken head) s.cache).2.2, ?_, hafter.find_nil _⟩
      rw [heq, load_eq_concat hrep hfull (contiguous_arrivedFrags _ _ _), concat_arrivedFrags _ hall']
    · rw [hpool] at hsame
      cases hsame

/-- **Fragmentation followed by reassembly is the identity for every delivery order.** Allocations
may fail: a frame has arrived when its insertion returned `ok`, which every insertion does while
allocations succeed. -/
theorem reassembly_of_fragmentation (pkgMaxNum : UInt8) (cb : LinkLayerSendBtData) (head payload : List UInt8)
    (hhead : head.length = 7) (hpos : 1 ≤ payload.length) (hmax : payload.length ≤ 153 * 16)
    (hnum : (payload.length + 152) / 153 ≤ pkgMaxNum.toNat) (hcb : ∀ i f, cb i f = IotcRet.ok.code) :
    ∃ fs : List (List UInt8), linkLayerSendBtPkg pkgMaxNum (some cb) (head ++ payload) = (.ok, fs) ∧
      fs.length = (payload.length + 152) / 153 ∧
      (∀ i (hi : i < fs.length), fs[i].length ≤ 160 ∧ fs[i][pkgHeadPkgnumIdx]? = some fs.length.toUInt8 ∧
        fs[i][pkgHeadIndexIdx]? = some i.toUInt8) ∧
      ∀ es : List (RecvEnv × List UInt8), (∀ e ∈ es, e.2 ∈ fs) → Along deliver NoTimeout Delivery.init es →
        ((∀ e ∈ es, e.1.callocPkg = true ∧ e.1.callocBuff = true) →
          (run deliver Delivery.init es).arrived = es.map Prod.snd) ∧
        (linkLayerRecvCompleteCheck (parsePkgHead head).token (run deliver Delivery.init es).cache = (.ok, true) ↔
          ∀ f ∈ fs, f ∈ (run deliver Delivery.init es).arrived) ∧
        ((∀ f ∈ fs, f ∈ (run deliver Delivery.init es).arrived) →
          ∃ l', linkLayerRecvMergePkgs (parsePkgHead head).token (run deliver Delivery.init es).cache =
              (.ok, some payload, l') ∧
            findPkgByToken (parsePkgHead head).token l' = none) := by
  rw [← pkgCount_eq] at hnum ⊢
  refine ⟨frames head payload, linkLayerSendBtPkg_eq pkgMaxNum cb head payload hhead hpos hnum hcb, by simp [frames],
    fun i hi => ?_, fun es hes hlive => ?_⟩
  · have hlen : (frames head payload).length = pkgCount payload.length := by simp [frames]
    have hget : (frames head payload)[i] = frame head payload (pkgCount payload.length) i := by simp [frames]
    rw [hget, hlen]
    exact ⟨frame_length hhead _ _, frame_getElem? hhead _ _⟩
  · obtain ⟨hrec, harr⟩ := run_received hhead hmax es hes Delivery.init hlive (.inl ⟨rfl, Refines.init⟩)
    exact ⟨harr, received_check hpos hrec, received_merge hpos hrec⟩

def twoFramePayload : List UInt8 := List.replicate 153 1 ++ [2]

/-- The two frames of a payload of 154 bytes, the second one first and the first one twice. -/
def twoFrameDelivery : List (RecvEnv × List UInt8) :=
  [(⟨5, 5, true, true⟩, frame [16, 9, 0, 0, 0, 0, 0] twoFramePayload 2 1),
    (⟨6, 6, true, true⟩, frame [16, 9, 0, 0, 0, 0, 0] twoFramePayload 2 0),
    (⟨7, 7, true, true⟩, frame [16, 9, 0, 0, 0, 0, 0] twoFramePayload 2 0)]

theorem reassembly_of_two_frames :
    ∃ l', linkLayerRecvMergePkgs 9 (run deliver Delivery.init twoFrameDelivery).cache =
        (.ok, some twoFramePayload, l') ∧
      findPkgByToken 9 l' = none := by
  obtain ⟨fs, hsend, -, -, hdel⟩ := reassembly_of_fragmentation 16 (fun _ _ => 0) [16, 9, 0, 0, 0, 0, 0]
    twoFramePayload rfl (by decide +kernel) (by decide +kernel) (by decide +kernel) (fun _ _ => rfl)
  have hfs : fs = [frame [16, 9, 0, 0, 0, 0, 0] twoFramePayload 2 0,
      frame [16, 9, 0, 0, 0, 0, 0] twoFramePayload 2 1] := by
    refine (congrArg Prod.snd hsend).symm.trans ?_
    decide +kernel
  subst hfs
  obtain ⟨harr, -, hmerge⟩ := hdel twoFrameDelivery (by simp [twoFrameDelivery])
    ⟨by unfold NoTimeout; decide, by unfold NoTimeout; decide,
      by unfold NoTimeout; decide +kernel, trivial⟩
  refine hmerge ?_
  rw [harr (by simp [twoFrameDelivery])]
  simp [twoFrameDelivery]

end IotConnect.LinkLayer
